import CloudClient.Proofs.Population.Value
import CloudClient.Proofs.Resource.Edits
import CloudClient.Proofs.Resource.Identifiers
import CloudClient.Registry.Builtin

/-!
# Updates after construction

A resource that was just made from a payload would be saved as that payload left it: each mutable
field that the payload has is in the update once, with what stands for its value there, and nothing
else is. The type must not declare a property under the name that one of its id relations exposes a
resource under, since both would be kept in one field.
-/

namespace CloudClient

theorem ResourceType.unshared_of_forall {t : ResourceType}
    (h : ∀ q ∈ t.properties, q.2.link.isById = true → ∀ exposed ∈ aliasOf? q.1,
      t.property? exposed = none) : t.Unshared := by
  intro name hexposes
  obtain ⟨key, p, hp, -, hlink, halias⟩ := hexposes
  exact h (key, p) (Dict.mem_of_get? hp) hlink name halias

theorem Builtin.unshared {kind : String} {type : ResourceType}
    (h : Builtin.registry.get kind = .ok type) : type.Unshared := by
  have hall : ∀ entry ∈ Builtin.registry.types, ∀ q ∈ entry.2.properties, q.2.link.isById = true →
      ∀ exposed ∈ ResourceType.aliasOf? q.1, entry.2.property? exposed = none := by decide +kernel
  exact ResourceType.unshared_of_forall
    (hall (kind, type) (Dict.mem_of_get? (Registry.get_eq_ok.mp h)))

namespace Resource
variable {client : Client} {r s : Resource} {w w' : World}

/-! ## The body of an update -/

theorem mem_updateEntries {properties : Dict Property} {name : String} {json : Json} :
    (name, json) ∈ properties.filterMap (fun (name, p) => r.bodyEntry? name p) ↔
      ∃ p, (name, p) ∈ properties ∧ p.mutable = true ∧ isSent p (r.peek name) = true ∧
        json = (r.peek name).toJson := by
  simp only [List.mem_filterMap, Prod.exists, bodyEntry?, Option.ite_none_right_eq_some,
    Bool.and_eq_true, Option.some.injEq, Prod.mk.injEq]
  constructor
  · intro h
    obtain ⟨_, p, hp, ⟨hmutable, hsent⟩, rfl, rfl⟩ := h
    exact ⟨p, hp, hmutable, hsent, rfl⟩
  · intro h
    obtain ⟨p, hp, hmutable, hsent, rfl⟩ := h
    exact ⟨name, p, hp, ⟨hmutable, hsent⟩, rfl, rfl⟩

theorem updateEntries_sorted {properties : Dict Property} (h : Dict.Sorted properties) :
    Dict.Sorted (properties.filterMap fun (name, p) => r.bodyEntry? name p) := by
  refine List.Pairwise.filterMap _ (fun a a' hlt b hb b' hb' => ?_) h
  have hkey : b.1 = a.1 := key_of_bodyEntry? hb
  have hkey' : b'.1 = a'.1 := key_of_bodyEntry? hb'
  rwa [hkey, hkey']

theorem Reproduces.isSent_iff {json payload : Json} {v : FieldValue}
    (h : Reproduces json payload v) (p : Property) :
    isSent p v = true ↔ (payload.isNull = true → p.nullable = true) := by
  cases hnull : payload.isNull <;> simp [isSent, h.unset, h.null, hnull]

/-! ## Construction -/

theorem withIdentifiers_frame (hsorted : Dict.Sorted r.type.properties) (payload : Json) :
    Frame (fun name => isIdentifier r.type name = true) r (r.withIdentifiers payload) := by
  unfold withIdentifiers
  refine List.foldlRecOn
    (motive := fun s => Frame (fun name => isIdentifier r.type name = true) r s) _ _
    (Frame.refl r) ?_
  intro s hs entry hentry
  obtain ⟨name, p⟩ := entry
  have hp : r.type.property? name = some p := hsorted.get?_of_mem hentry
  dsimp only
  split
  · rename_i hid
    have hidentifier : isIdentifier r.type name = true := by
      simp [isIdentifier, hp, (Bool.and_eq_true_iff.mp hid).1]
    split
    · exact hs.trans (.put hidentifier)
    · exact hs
  · exact hs

theorem peek_identified_of_ne (type : ResourceType) (id : Json) (parent? : Option ParentKey)
    {name : String} (hname : name ≠ type.idField) :
    (identified type id parent?).peek name = .unset := by
  simp [peek, identified, Dict.get?, hname.symm]

theorem peek_unfilled {type : ResourceType} (hsound : type.Sound)
    (hsorted : Dict.Sorted type.properties) {name : String} (hname : isIdentifier type name = false)
    (id : Json) (parent? : Option ParentKey) (payload : Json) :
    (identified type id parent?).peek name = .unset ∧
      ((identified type id parent?).withIdentifiers payload).peek name = .unset := by
  have hne : name ≠ type.idField := by
    intro h
    subst h
    cases hname.symm.trans (isIdentifier_idField hsound)
  have hmade := withIdentifiers_frame (r := identified type id parent?) hsorted payload
  have hunset := peek_identified_of_ne type id parent? hne
  refine ⟨hunset, ?_⟩
  rw [hmade.kept name (Bool.eq_false_iff.mp hname), hunset]

theorem construct_payload_eq_ok {kind : String} {type : ResourceType} {id payload : Json}
    {parent? : Option ParentKey} (htype : client.registry.get kind = .ok type)
    (h : client.construct kind id parent? (some payload) w = (.ok r, w')) :
    ∃ log, fill client.registry w.now payload
      ((identified type id parent?).withIdentifiers payload, w.log) = (.ok (), r, log) := by
  obtain ⟨type', _, hget, h⟩ := Step.bind_eq_ok.mp h
  obtain ⟨htype', rfl⟩ := Prod.mk.inj hget
  cases htype.symm.trans htype'
  obtain ⟨now, _, hnow, h⟩ := Step.bind_eq_ok.mp h
  cases hnow
  obtain ⟨log, h, -⟩ := World.logged_eq.mp h
  obtain ⟨s, hs, hfill⟩ := ofPayload_eq_ok.mp h
  rw [handle_eq hs] at hfill
  exact ⟨log, hfill⟩

/-- A field that no id relation writes holds what stands for its value in the payload, and nothing
where the payload has none or the field is a derived collection. -/
inductive Constructed (registry : Registry) (fields : Dict Json) (r : Resource) (name : String)
    (p : Property) : Prop
  | filled {payload : Json} (hlink : p.link.isDerived = false)
      (hpayload : Dict.get? fields name = some payload)
      (h : Reproduces (reproduced registry p payload) payload (r.peek name)) :
      Constructed registry fields r name p
  | unset (hnone : p.link.isDerived = true ∨ Dict.get? fields name = none)
      (h : r.peek name = .unset) : Constructed registry fields r name p

theorem construct_constructed {sources : List String}
    (hregistry : Registry.ofSources sources = .ok client.registry) {kind : String}
    {type : ResourceType} (htype : client.registry.get kind = .ok type) (hunshared : type.Unshared)
    {id : Json} {parent? : Option ParentKey} {fields : Dict Json} (hkeys : (Dict.keys fields).Nodup)
    (h : client.construct kind id parent? (some (.obj fields)) w = (.ok r, w')) :
    r.type = type ∧ ∀ name p, type.property? name = some p → p.identifier = false →
      Constructed client.registry fields r name p := by
  obtain ⟨log, hfill⟩ := construct_payload_eq_ok htype h
  obtain ⟨_, m, hobj, hfields, rfl⟩ := fill_eq_ok.mp hfill
  cases hobj
  have hsorted := Registry.ofSources_sorted hregistry htype
  have hmade := withIdentifiers_frame (r := identified type id parent?) hsorted (.obj fields)
  have hframe := (fillFields_frame fields _ w.log).of_eq hfields
  refine ⟨hframe.type.trans hmade.type, fun name p hp hid => ?_⟩
  have hsound := (Registry.ofSources_sound hregistry).types htype
  have hdeclared : ∀ t : Resource, t.type = type → Declares t.type name p :=
    fun t ht => ⟨ht ▸ hp, hid⟩
  have hexposed : ¬ type.Exposes name := fun hex => by cases (hunshared name hex).symm.trans hp
  have hname : isIdentifier type name = false := by simp [isIdentifier, hp, hid]
  obtain ⟨-, hunset⟩ := peek_unfilled hsound hsorted hname id parent? (.obj fields)
  have hkept : ¬ FilledBy type fields name → m.peek name = .unset := by
    intro hquiet
    rw [hframe.kept name (by rwa [hmade.type]), hunset]
  cases hlink : p.link.isDerived with
  | true =>
    refine .unset (.inl hlink) (hkept fun hfilled => ?_)
    obtain ⟨entry, -, q, hq, hchanges, hplain, hentry | ⟨hbyId, halias⟩⟩ := hfilled
    · subst hentry
      cases hp.symm.trans hq
      cases hlink.symm.trans hplain
    · exact hexposed ⟨entry.1, q, hq, hchanges, hbyId, halias⟩
  | false =>
    cases hpayload : Dict.get? fields name with
    | none =>
      have hquiet := not_filledBy_of_ne hexposed (Dict.ne_of_get?_eq_none hpayload)
      exact .unset (.inr hpayload) (hkept hquiet)
    | some payload =>
      refine .filled hlink hpayload ?_
      exact fillFields_reproduces hkeys hfields (hdeclared _ hmade.type) hlink
        (by rwa [hmade.type]) hunset hpayload

theorem Constructed.sent_iff {registry : Registry} {fields : Dict Json} {name : String}
    {p : Property} (h : Constructed registry fields r name p) (json : Json) :
    isSent p (r.peek name) = true ∧ json = (r.peek name).toJson ↔
      ∃ payload, p.link.isDerived = false ∧ Dict.get? fields name = some payload ∧
        (payload.isNull = true → p.nullable = true) ∧ json = reproduced registry p payload := by
  cases h with
  | filled hlink hpayload h =>
    rw [h.isSent_iff p, h.json]
    constructor
    · intro hsent
      exact ⟨_, hlink, hpayload, hsent⟩
    · intro hsent
      obtain ⟨payload, -, hpayload', hsent⟩ := hsent
      cases hpayload.symm.trans hpayload'
      exact hsent
  | unset hnone h =>
    have hunsent : isSent p (r.peek name) = false := by rw [h]; rfl
    simp only [hunsent, Bool.false_eq_true, false_and, false_iff]
    intro hsent
    obtain ⟨payload, hlink, hpayload, -⟩ := hsent
    rcases hnone with hderived | hnone
    · cases hderived.symm.trans hlink
    · cases hnone.symm.trans hpayload

/-- The update after construction. Canonical text reads as the timestamp that it was written for, so
a datetime field keeps its timestamp, and a text that is canonical already. -/
theorem update_reproduces {sources : List String}
    (h : Registry.ofSources sources = .ok client.registry) :
    (∀ kind type id parent? (fields : Dict Json) w r w', client.registry.get kind = .ok type →
      type.Unshared → (Dict.keys fields).Nodup →
      client.construct kind id parent? (some (.obj fields)) w = (.ok r, w') →
      ∃ body, r.updateBody = .obj body ∧ Dict.Sorted body ∧
        ∀ name json, (name, json) ∈ body ↔ ∃ p payload, type.property? name = some p ∧
          p.mutable = true ∧ p.link.isDerived = false ∧ Dict.get? fields name = some payload ∧
          (payload.isNull = true → p.nullable = true) ∧
          json = reproduced client.registry p payload) ∧
    (∀ kind type, Builtin.registry.get kind = .ok type → type.Unshared) ∧
    (∀ p, reproduced client.registry p .null = .null) ∧
    (∀ text (t : Datetime), Datetime.parse? text = some t → Datetime.parse? t.text = some t) ∧
    (∀ t : Datetime, t.isValid = true →
      Datetime.canonical (.str (String.ofList t.text)) = .str (String.ofList t.text)) := by
  refine ⟨?_, fun kind type => Builtin.unshared, reproduced_null _, fun text t ht => ?_,
    fun t ht => ?_⟩
  · intro kind type id parent? fields w r w' htype hunshared hkeys hconstruct
    obtain ⟨hr, hfields⟩ := construct_constructed h htype hunshared hkeys hconstruct
    have hsorted := Registry.ofSources_sorted h htype
    have hsound := (Registry.ofSources_sound h).types htype
    refine ⟨_, rfl, updateEntries_sorted (hr ▸ hsorted), fun name json => ?_⟩
    rw [mem_updateEntries, hr]
    constructor
    · intro hentry
      obtain ⟨p, hmem, hmutable, hsent⟩ := hentry
      have hp := hsorted.get?_of_mem hmem
      obtain ⟨payload, hlink, hpayload⟩ :=
        ((hfields name p hp (hsound.not_identifier hp hmutable)).sent_iff json).mp hsent
      exact ⟨p, payload, hp, hmutable, hlink, hpayload⟩
    · intro hentry
      obtain ⟨p, payload, hp, hmutable, hpayload⟩ := hentry
      have hfield := hfields name p hp (hsound.not_identifier hp hmutable)
      exact ⟨p, Dict.mem_of_get? hp, hmutable, (hfield.sent_iff json).mpr ⟨payload, hpayload⟩⟩
  · exact Datetime.parse?_text (Datetime.isValid_of_parse? ht)
  · simp only [Datetime.canonical, String.toList_ofList, Datetime.parse?_text ht]

/-! ## A task -/

def taskSource : String :=
  "\x7b\"resources\": \x7b\"task\": \x7b\"display_name\": \"Task\",
    \"endpoint\": \"/tasks/\x7bid\x7d\", \"properties\": \x7b
      \"due\": \x7b\"mutable\": true, \"datetime\": true\x7d,
      \"id\": \x7b\"identifier\": true\x7d, \"label\": \x7b\"mutable\": true\x7d,
      \"note\": \x7b\"mutable\": true, \"nullable\": true\x7d,
      \"owner\": \x7b\"mutable\": true, \"relationship\": \"task\"\x7d,
      \"peer_id\": \x7b\"mutable\": true, \"id_relationship\": \"task\"\x7d,
      \"zone\": \x7b\"mutable\": true, \"slug_relationship\": \"task\"\x7d\x7d\x7d\x7d\x7d"

def taskType : ResourceType where
  key := "task"
  displayName := "Task"
  endpoint := "/tasks/\x7bid\x7d"
  parentIds := []
  idField := "id"
  properties := [("due", { mutable := true, datetime := true }), ("id", { identifier := true }),
    ("label", { mutable := true }), ("note", { mutable := true, nullable := true }),
    ("owner", { mutable := true, link := .nested "task" }),
    ("peer_id", { mutable := true, link := .byId "task" }),
    ("zone", { mutable := true, link := .slug "task" })]

def taskRegistry : Registry where
  types := [("task", taskType)]

set_option maxRecDepth 8000 in
theorem taskSource_accepted : Registry.ofSources [taskSource] = .ok taskRegistry := by
  unfold taskSource
  exact Registry.ofSources_ofList (by decide +kernel)

def taskPayload : Dict Json :=
  [("due", .str "2024-1-2T3:4:5"), ("label", .obj [("a", .arr [.int 1, .null])]), ("note", .null),
    ("owner", .arr [.obj [("id", .int 7)], .obj [], .int 8]), ("peer_id", .int 5),
    ("zone", .str "eu")]

theorem update_reproduces_task :
    Registry.ofSources [taskSource] = .ok (clientOf taskRegistry).registry ∧
      ∃ r w' body, (clientOf taskRegistry).construct "task" (.int 1) none (some (.obj taskPayload))
          offline = (.ok r, w') ∧
        r.updateBody = .obj body ∧ Dict.Sorted body ∧
        ("due", .str "2024-01-02T03:04:05") ∈ body ∧
        ("label", .obj [("a", .arr [.int 1, .null])]) ∈ body ∧ ("note", .null) ∈ body ∧
        ("owner", .arr [.int 7, .int 8]) ∈ body ∧ ("peer_id", .int 5) ∈ body ∧
        ("zone", .str "eu") ∈ body := by
  have hok : ((clientOf taskRegistry).construct "task" (.int 1) none (some (.obj taskPayload))
      offline).1.toOption.isSome = true := by decide +kernel
  generalize hconstruct : (clientOf taskRegistry).construct "task" (.int 1) none
    (some (.obj taskPayload)) offline = outcome at hok
  obtain ⟨result, w'⟩ := outcome
  cases result with
  | error e => cases hok
  | ok r =>
    have haccepted : Registry.ofSources [taskSource] = .ok (clientOf taskRegistry).registry :=
      taskSource_accepted
    have hunshared : taskType.Unshared := ResourceType.unshared_of_forall (by decide +kernel)
    obtain ⟨hbody, -⟩ := update_reproduces haccepted
    obtain ⟨body, hupdate, hsorted, hentries⟩ :=
      hbody "task" taskType (.int 1) none taskPayload offline r w' rfl hunshared (by decide) hconstruct
    have hentry : ∀ name json p payload, taskType.property? name = some p → p.mutable = true →
        p.link.isDerived = false → Dict.get? taskPayload name = some payload →
        (payload.isNull = true → p.nullable = true) → json = reproduced taskRegistry p payload →
        (name, json) ∈ body := fun name json p payload hp hmutable hlink hpayload hnull hjson =>
      (hentries name json).mpr ⟨p, payload, hp, hmutable, hlink, hpayload, hnull, hjson⟩
    refine ⟨haccepted, r, w', body, rfl, hupdate, hsorted, ?_, ?_, ?_, ?_, ?_, ?_⟩
    · exact hentry _ _ _ _ rfl rfl rfl rfl (by decide) (by decide +kernel)
    · exact hentry _ _ _ _ rfl rfl rfl rfl (by decide) rfl
    · exact hentry _ _ _ _ rfl rfl rfl rfl (by decide) rfl
    · exact hentry _ _ _ _ rfl rfl rfl rfl (by decide) rfl
    · exact hentry _ _ _ _ rfl rfl rfl rfl (by decide) rfl
    · exact hentry _ _ _ _ rfl rfl rfl rfl (by decide) rfl

end Resource
end CloudClient
