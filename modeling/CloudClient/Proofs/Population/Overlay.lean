import CloudClient.Proofs.Json
import CloudClient.Proofs.Population.Nested
import CloudClient.Proofs.Registry.Merge
import CloudClient.Proofs.Resource.Agreement

/-!
# Payloads one after another

In a type that declares nothing under the alias of an id relation each field is filled by entries of
one key. So a payload is filled entry by entry, each as if it were alone, and two payloads one after
the other leave what the first leaves once the second is laid over it. A related resource that is
found again keeps the id that it has, which equals the one that is given as JSON values are compared.
-/

namespace CloudClient

namespace Resource
open Filling (Answers)

/-! ## Relations -/

section Relations
variable {registry : Registry} {now : Nat} {target : ResourceType} {id payload : Json}

theorem same_of_takeById {held : List Resource} {s : Resource}
    (h : (takeById id held).1 = some s) : s.id.same id = true := by
  unfold takeById at h
  cases hindex : held.findIdx? fun r => r.id.same id with
  | none =>
    rw [hindex] at h
    cases h
  | some index =>
    rw [hindex] at h
    obtain ⟨hlt, hfound, -⟩ := List.findIdx?_eq_some_iff_getElem.mp hindex
    rw [← (List.getElem?_eq_some_iff.mp h).2]
    exact hfound

theorem relateItems_same (values : List Json) (held : List Resource) :
    Answers (relateItems target held (fillItems registry now (.arr values))) fun rs =>
      Json.sameItems (rs.map Resource.id) (values.filterMap (referredId? target)) = true := by
  rw [fillItems_arr]
  induction values generalizing held with
  | nil => exact .pure rfl
  | cons v rest ih =>
    simp only [List.map_cons, relateItems, List.filterMap_cons]
    cases hid : referredId? target v with
    | none => exact Answers.read.bind fun _ _ => Answers.note.bind fun _ _ => ih held
    | some id =>
      refine (relateOne_same fun s hs => same_of_takeById hs).bind fun r hr => ?_
      refine (ih (takeById id held).2).bind fun rs hrs => .pure ?_
      rw [List.map_cons, Json.sameItems, hr, hrs]
      rfl

theorem relate_same {key : String} (held : FieldValue) (payload : Json) :
    Answers (relate registry key held payload (fillObject registry now payload)
      (fillItems registry now payload)) fun v => ∃ type, registry.get key = .ok type ∧
        v.toJson.same (relatedIds type payload) = true := by
  unfold relate
  refine (Answers.ofExcept (Q := fun t => registry.get key = .ok t) fun _ h => h).bind ?_
  intro type htype
  split
  · rename_i values
    exact (relateItems_same values _).bind fun rs hrs => .pure ⟨type, htype, hrs⟩
  · rename_i hnot
    cases hid : referredId? type payload with
    | none => exact .fail
    | some id =>
      refine (relateOne_same fun s hs => same_of_heldById? hs).bind fun s hs => .pure ?_
      exact ⟨type, htype, (relatedIds_of_referred hnot hid).symm ▸ hs⟩

end Relations

/-! ## Entries -/

/-- What is written for a field that an entry fills: the field of its key, or the alias under which
an id relation exposes the resource. -/
def written (registry : Registry) (t : ResourceType) (key field : String) (payload : Json) : Json :=
  match t.property? key with
  | none => payload
  | some p =>
    if field = key then reproduced registry p payload
    else match p.link with
      | .byId target =>
        match registry.get target with
        | .ok type => relatedIds type payload
        | .error _ => payload
      | _ => payload

section Entries
variable {registry : Registry} {now : Nat} {r : Resource} {key field : String} {payload : Json}

theorem written_own {t : ResourceType} {p : Property} (hp : t.property? key = some p) :
    written registry t key key payload = reproduced registry p payload := by
  simp [written, hp]

theorem written_exposed {t : ResourceType} {p : Property} {exposed target : String}
    (hp : t.property? key = some p) (hlink : p.link = .byId target)
    (halias : ResourceType.aliasOf? key = some exposed) {type : ResourceType}
    (htype : registry.get target = .ok type) :
    written registry t key exposed payload = relatedIds type payload := by
  simp [written, hp, hlink, htype, ResourceType.aliasOf?_ne halias]

theorem written_null (registry : Registry) (t : ResourceType) (key field : String) :
    written registry t key field .null = .null := by
  unfold written
  cases t.property? key with
  | none => rfl
  | some p =>
    dsimp only
    split
    · exact reproduced_null registry p
    · cases p.link with
      | byId target =>
        dsimp only
        cases registry.get target <;> rfl
      | _ => rfl

theorem fillField_same {p : Property} (hp : Declares r.type key p) (hlink : p.link.isDerived = false)
    (log : Log) :
    (fillField registry key payload (fillObject registry now payload)
      (fillItems registry now payload)).Yields (r, log) fun result t => result = .ok () →
        (t.1.peek key).toJson.same (reproduced registry p payload) = true := by
  refine fillField_own (P := fun v => v.toJson.same (reproduced registry p payload) = true) hp hlink
    (fun hraw => ?_) (fun hl => ?_) (fun target hl => ?_) (fun target s hl _ hs => ?_) log
  · rw [reproduced_of_raw hraw]
    exact payload.same_refl
  · refine (plainValue_reproduces key p payload).mono fun v hv => ?_
    rw [hv.json]
    simpa only [reproduced, hl] using Json.same_refl _
  · refine (relate_same (r.peek key) payload).mono fun v hv => ?_
    obtain ⟨type, htype, hv⟩ := hv
    simpa only [reproduced, hl, htype] using hv
  · have hjson : reproduced registry p payload = payload := by simp only [reproduced, hl]
    rw [hjson]
    exact hs ▸ s.id.same_refl

theorem fillField_exposed {p : Property} {exposed target : String} (hp : Declares r.type key p)
    (hlink : p.link = .byId target) (halias : ResourceType.aliasOf? key = some exposed) (log : Log) :
    (fillField registry key payload (fillObject registry now payload)
      (fillItems registry now payload)).Yields (r, log) fun result t => result = .ok () →
        (t.1.peek exposed).toJson.same (written registry r.type key exposed payload) = true := by
  have hne := ResourceType.aliasOf?_ne halias
  have hput : ∀ (s : Resource) v, v.toJson.same (written registry r.type key exposed payload) = true →
      (((s.put exposed v).put key (.scalar payload)).peek exposed).toJson.same
        (written registry r.type key exposed payload) = true := by
    intro s v hv
    rwa [peek_put_of_ne _ _ hne, peek_put_self]
  unfold fillField
  apply Step.yields_read_bind.mpr
  simp only [hp.declared, hp.changes, hlink, halias, Bool.false_eq_true, if_false]
  split
  · rename_i hnull
    intro _
    refine hput r (.scalar .null) ?_
    cases payload with
    | null => rw [written_null]; rfl
    | _ => cases hnull
  · refine take_then (relate_same (r.peek exposed) payload) (fun v log hv _ => ?_) fun e log h => by
      cases h
    obtain ⟨type, htype, hv⟩ := hv
    refine hput (r.remove exposed) v ?_
    rw [written_exposed hp.declared hlink halias htype]
    exact hv

theorem fillField_written (hfills : r.type.Fills key field) (log : Log) :
    (fillField registry key payload (fillObject registry now payload)
      (fillItems registry now payload)).Yields (r, log) fun result t => result = .ok () →
        (t.1.peek field).toJson.same (written registry r.type key field payload) = true := by
  obtain ⟨p, hp, hchanges, hderived, hfield⟩ := hfills
  rcases hfield with rfl | ⟨hbyId, halias⟩
  · rw [written_own hp]
    exact fillField_same ⟨hp, hchanges⟩ hderived log
  · cases hl : p.link with
    | byId target => exact fillField_exposed ⟨hp, hchanges⟩ hl halias log
    | _ =>
      rw [hl] at hbyId
      cases hbyId

theorem fills_unique {t : ResourceType} (hunshared : t.Unshared) {key' : String}
    (h : t.Fills key field) (h' : t.Fills key' field) : key = key' := by
  obtain ⟨p, hp, hchanges, -, hfield⟩ := h
  obtain ⟨p', hp', hchanges', -, hfield'⟩ := h'
  rcases hfield with rfl | ⟨hbyId, halias⟩
  · rcases hfield' with rfl | ⟨hbyId', halias'⟩
    · rfl
    · cases hp.symm.trans (hunshared _ ⟨key', p', hp', hchanges', hbyId', halias'⟩)
  · rcases hfield' with rfl | ⟨-, halias'⟩
    · cases hp'.symm.trans (hunshared _ ⟨key, p, hp, hchanges, hbyId, halias⟩)
    · exact ResourceType.aliasOf?_inj halias halias'

def Admits (registry : Registry) (now : Nat) (r : Resource) (entry : String × Json) : Prop :=
  ∀ log, ∃ s log', fillField registry entry.1 entry.2 (fillObject registry now entry.2)
    (fillItems registry now entry.2) (r, log) = (.ok (), s, log')

theorem admits_of_ok {s : Resource} {log log' : Log}
    (h : fillField registry key payload (fillObject registry now payload)
      (fillItems registry now payload) (r, log) = (.ok (), s, log')) :
    Admits registry now r (key, payload) := by
  obtain ⟨result, write, -, hrun⟩ := entry_determined registry now key payload r
  obtain ⟨log₁, hok⟩ := hrun r log rfl fun _ _ => .inl rfl
  cases hok.symm.trans h
  intro log₂
  obtain ⟨log₃, hok'⟩ := hrun r log₂ rfl fun _ _ => .inl rfl
  exact ⟨write r, log₃, hok'⟩

theorem admits_iff_of_frame {m : Resource} {other : String} (hunshared : r.type.Unshared)
    (hother : other ≠ key) (hframe : Frame (r.type.Fills other) r m) :
    Admits registry now m (key, payload) ↔ Admits registry now r (key, payload) := by
  by_cases hdeclared : ∃ p, Declares r.type key p
  · obtain ⟨p, hp⟩ := hdeclared
    obtain ⟨result, write, -, hrun⟩ := entry_determined registry now key payload r
    have hslot : ∀ slot, r.type.slot? key = some slot → Interchangeable (r.peek slot) (m.peek slot) := by
      refine fun slot hslot => .inl (hframe.kept slot fun hfills => ?_).symm
      exact hother (fills_unique hunshared hfills (hp.fills_slot hslot))
    constructor
    · intro h log
      obtain ⟨_, _, hok⟩ := h log
      obtain ⟨_, hm⟩ := hrun m log hframe.type hslot
      obtain ⟨log', hr⟩ := hrun r log rfl fun _ _ => .inl rfl
      cases hm.symm.trans hok
      exact ⟨write r, log', hr⟩
    · intro h log
      obtain ⟨_, _, hok⟩ := h log
      obtain ⟨log', hm⟩ := hrun m log hframe.type hslot
      obtain ⟨_, hr⟩ := hrun r log rfl fun _ _ => .inl rfl
      cases hr.symm.trans hok
      exact ⟨write m, log', hm⟩
  · have hr : ∀ p, ¬ Declares r.type key p := fun p hp => hdeclared ⟨p, hp⟩
    have hm : ∀ p, ¬ Declares m.type key p := hframe.type ▸ hr
    exact ⟨fun _ log => ⟨r, log, fillField_undeclared hr log⟩,
      fun _ log => ⟨m, log, fillField_undeclared hm log⟩⟩

end Entries

/-! ## Payloads -/

section Payloads
variable {registry : Registry} {now : Nat} {r s : Resource} {fields : Dict Json} {log log' : Log}

theorem fillFields_ok_iff (hunshared : r.type.Unshared) (hfields : Dict.Sorted fields) (log : Log) :
    (∃ s log', fillFields registry now fields (r, log) = (.ok (), s, log')) ↔
      ∀ entry ∈ fields, Admits registry now r entry := by
  induction fields generalizing r log with
  | nil => exact ⟨fun _ _ => nofun, fun _ => ⟨r, log, rfl⟩⟩
  | cons entry rest ih =>
    obtain ⟨name, payload⟩ := entry
    obtain ⟨hname, hrest⟩ := List.pairwise_cons.mp hfields
    have hlater : ∀ m log₁, fillField registry name payload (fillObject registry now payload)
        (fillItems registry now payload) (r, log) = (.ok (), m, log₁) → m.type.Unshared ∧
          ∀ entry ∈ rest, Admits registry now m entry ↔ Admits registry now r entry := by
      intro m log₁ hentry
      have hframe := ((fillField_yields registry _ _ r name payload log).of_eq hentry).frame
      refine ⟨hframe.type ▸ hunshared, fun entry hmem => ?_⟩
      exact admits_iff_of_frame hunshared (String.ne_of_lt (hname entry hmem)) hframe
    rw [fillFields_cons]
    constructor
    · intro hok
      obtain ⟨s, log', hok⟩ := hok
      obtain ⟨_, ⟨m, log₁⟩, hentry, hothers⟩ := Step.bind_eq_ok.mp hok
      obtain ⟨hunshared', hsame⟩ := hlater m log₁ hentry
      have hadmits := (ih hunshared' hrest log₁).mp ⟨s, log', hothers⟩
      refine List.forall_mem_cons.mpr ⟨admits_of_ok hentry, fun entry hmem => ?_⟩
      exact (hsame entry hmem).mp (hadmits entry hmem)
    · intro hadmits
      obtain ⟨hfirst, hadmits⟩ := List.forall_mem_cons.mp hadmits
      obtain ⟨m, log₁, hentry⟩ := hfirst log
      obtain ⟨hunshared', hsame⟩ := hlater m log₁ hentry
      rw [Step.bind_of_ok hentry]
      exact (ih hunshared' hrest log₁).mpr fun entry hmem => (hsame entry hmem).mpr (hadmits entry hmem)

theorem fillFields_written (hunshared : r.type.Unshared) (hfields : Dict.Sorted fields)
    (h : fillFields registry now fields (r, log) = (.ok (), s, log')) {key field : String}
    {payload : Json} (hmem : (key, payload) ∈ fields) (hfills : r.type.Fills key field) :
    (s.peek field).toJson.same (written registry r.type key field payload) = true := by
  induction fields generalizing r log with
  | nil => cases hmem
  | cons entry rest ih =>
    obtain ⟨name, value⟩ := entry
    obtain ⟨hname, hrest⟩ := List.pairwise_cons.mp hfields
    rw [fillFields_cons] at h
    obtain ⟨_, ⟨m, log₁⟩, hentry, hothers⟩ := Step.bind_eq_ok.mp h
    have htype : m.type = r.type :=
      ((fillField_yields registry _ _ r name value log).of_eq hentry).frame.type
    rcases List.mem_cons.mp hmem with heq | hmem
    · cases heq
      have hkept : s.peek field = m.peek field := by
        refine ((fillFields_frame rest m log₁).of_eq hothers).kept field fun hlater => ?_
        obtain ⟨entry, hmem, hother⟩ := hlater
        rw [htype] at hother
        exact String.ne_of_lt (hname entry hmem) (fills_unique hunshared hfills hother)
      rw [hkept]
      exact (fillField_written hfills log).of_eq hentry rfl
    · rw [← htype] at hunshared hfills ⊢
      exact ih hunshared hrest hothers hmem hfills

end Payloads

/-! ## One payload after another -/

section Overlaying
variable {client : Client} {r r₁ r₂ s : Resource} {p q fields : Dict Json} {payload : Json}
  {w w' w₁ w₂ w₃ : World}

def Accepts (client : Client) (r : Resource) (payload : Json) : Prop :=
  ∀ w, (populate client payload (r, w)).1 = .ok ()

theorem accepts_of_ok (h : populate client payload (r, w) = (.ok (), s, w')) :
    Accepts client r payload := by
  intro u
  obtain ⟨log, hfill, -⟩ := populate_eq.mp h
  obtain ⟨t, log', hfill', -⟩ := fill_any_time hfill u.now u.log
  rw [populate_eq.mpr ⟨log', hfill', rfl⟩]

theorem accepts_iff (hunshared : r.type.Unshared) (hfields : Dict.Sorted fields) :
    Accepts client r (.obj fields) ↔ ∀ now, ∀ entry ∈ fields, Admits client.registry now r entry := by
  constructor
  · intro h now
    let u : World := { offline with now }
    obtain ⟨_, m, log, hobj, hrun, -⟩ := populate_eq_ok.mp (Prod.ext (h u) rfl)
    cases hobj
    exact (fillFields_ok_iff hunshared hfields u.log).mp ⟨m, log, hrun⟩
  · intro h u
    obtain ⟨m, log, hrun⟩ := (fillFields_ok_iff hunshared hfields u.log).mpr (h u.now)
    rw [populate_eq_ok.mpr ⟨fields, m, log, rfl, hrun, rfl, rfl⟩]

theorem populate_fields (hunshared : r.type.Unshared) (hfields : Dict.Sorted fields)
    (h : populate client (.obj fields) (r, w) = (.ok (), s, w')) :
    s.type = r.type ∧ s.raw? = some (.obj fields) ∧
      (∀ entry ∈ fields, ∀ field, r.type.Fills entry.1 field → (s.peek field).toJson.same
        (written client.registry r.type entry.1 field entry.2) = true) ∧
      ∀ field, ¬ FilledBy r.type fields field → s.peek field = r.peek field := by
  obtain ⟨_, m, log, hobj, hrun, rfl, -⟩ := populate_eq_ok.mp h
  cases hobj
  have hframe := (fillFields_frame fields r w.log).of_eq hrun
  refine ⟨hframe.type, rfl, fun entry hmem field hfills => ?_, hframe.kept⟩
  exact fillFields_written hunshared hfields hrun hmem hfills

/-- Names that neither of two payloads fills: identifiers, derived collections, what is neither
declared nor an alias, and fields and aliases whose own key is in neither. -/
inductive Spared (t : ResourceType) (p q : Dict Json) (name : String) : Prop
  | identifier (h : isIdentifier t name = true)
  | derived {property : Property} (hproperty : t.property? name = some property)
      (hlink : property.link.isDerived = true)
  | undeclared (hproperty : t.property? name = none) (halias : ¬ t.Exposes name)
  | absent (hproperty : t.property? name ≠ none) (hp : Dict.get? p name = none)
      (hq : Dict.get? q name = none)
  | absentId {key : String} (hproperty : t.property? name = none)
      (halias : ResourceType.aliasOf? key = some name) (hp : Dict.get? p key = none)
      (hq : Dict.get? q key = none)

theorem Spared.absent_of_fills {t : ResourceType} {name key : String} (hunshared : t.Unshared)
    (h : Spared t p q name) (hfills : t.Fills key name) :
    Dict.get? p key = none ∧ Dict.get? q key = none := by
  obtain ⟨property', hp', hchanges, hderived, hname⟩ := hfills
  have halias : t.property? name ≠ none → name = key := by
    intro hdeclared
    refine hname.resolve_right fun hexposed => hdeclared ?_
    exact hunshared name ⟨key, property', hp', hchanges, hexposed.1, hexposed.2⟩
  cases h with
  | identifier hid =>
    have hdeclared : t.property? name ≠ none := fun hnone => by simp [isIdentifier, hnone] at hid
    obtain rfl := halias hdeclared
    simp [isIdentifier, hp', hchanges] at hid
  | derived hproperty hlink =>
    obtain rfl := halias (by simp [hproperty])
    cases hproperty.symm.trans hp'
    cases hderived.symm.trans hlink
  | undeclared hproperty hexposes =>
    rcases hname with rfl | ⟨hbyId, hexposed⟩
    · cases hproperty.symm.trans hp'
    · exact absurd ⟨key, property', hp', hchanges, hbyId, hexposed⟩ hexposes
  | absent hproperty hp hq =>
    obtain rfl := halias hproperty
    exact ⟨hp, hq⟩
  | absentId hproperty hexposed hp hq =>
    rcases hname with rfl | ⟨-, hexposed'⟩
    · cases hproperty.symm.trans hp'
    · cases ResourceType.aliasOf?_inj hexposed hexposed'
      exact ⟨hp, hq⟩

theorem not_filledBy_of_absent {t : ResourceType} {name : String}
    (h : ∀ key, t.Fills key name → Dict.get? fields key = none) : ¬ FilledBy t fields name := by
  intro hfilled
  obtain ⟨entry, hmem, hfills⟩ := hfilled
  exact Dict.ne_of_get?_eq_none (h _ hfills) entry hmem rfl

/-- Populating from one payload and then from another leaves what one population leaves from the
first with the second laid over it, which is accepted if the second is. What neither fills is as it
was before. -/
theorem populate_overlay (hunshared : r.type.Unshared) (hp : Dict.Sorted p) (hq : Dict.Sorted q)
    (h₁ : populate client (.obj p) (r, w) = (.ok (), r₁, w₁))
    (h₂ : populate client (.obj q) (r₁, w₂) = (.ok (), r₂, w₃)) :
    (Accepts client r (.obj q) → Accepts client r (.obj (p.overlay q))) ∧
      (∀ u s u', populate client (.obj (p.overlay q)) (r, u) = (.ok (), s, u') →
        ∀ name, (r₂.peek name).toJson.same (s.peek name).toJson = true) ∧
      (∀ name, Spared r.type p q name → r₂.peek name = r.peek name) ∧
      r₂.raw? = some (.obj q) ∧
      ∀ kind type, Builtin.registry.get kind = .ok type → type.Unshared := by
  have hoverlay := hp.overlay q
  obtain ⟨htype, -, hwritten₁, hkept₁⟩ := populate_fields hunshared hp h₁
  obtain ⟨-, hraw, hwritten₂, hkept₂⟩ := populate_fields (htype ▸ hunshared) hq h₂
  rw [htype] at hwritten₂ hkept₂
  refine ⟨fun haccepts => ?_, fun u s u' h name => ?_, fun name hspared => ?_, hraw,
    fun kind type => Builtin.unshared⟩
  · have hadmits := (accepts_iff hunshared hp).mp (accepts_of_ok h₁)
    have hadmits' := (accepts_iff hunshared hq).mp haccepts
    refine (accepts_iff hunshared hoverlay).mpr fun now entry hmem => ?_
    rcases (hp.mem_overlay hq).mp hmem with hmem | ⟨hmem, -⟩
    · exact hadmits' now entry hmem
    · exact hadmits now entry hmem
  · obtain ⟨-, -, hwritten, hkept⟩ := populate_fields hunshared hoverlay h
    by_cases hfilled : FilledBy r.type q name
    · obtain ⟨entry, hmem, hfills⟩ := hfilled
      have hboth := hwritten entry ((hp.mem_overlay hq).mpr (.inl hmem)) name hfills
      exact Json.same_trans (hwritten₂ entry hmem name hfills) (Json.same_symm hboth)
    rw [hkept₂ name hfilled]
    by_cases hfilled' : FilledBy r.type p name
    · obtain ⟨entry, hmem, hfills⟩ := hfilled'
      have habsent : Dict.get? q entry.1 = none :=
        Option.eq_none_iff_forall_ne_some.mpr fun v hv => hfilled ⟨_, Dict.mem_of_get? hv, hfills⟩
      have hboth := hwritten entry ((hp.mem_overlay hq).mpr (.inr ⟨hmem, habsent⟩)) name hfills
      exact Json.same_trans (hwritten₁ entry hmem name hfills) (Json.same_symm hboth)
    · have hneither : ¬ FilledBy r.type (p.overlay q) name := by
        intro hfilled''
        obtain ⟨entry, hmem, hfills⟩ := hfilled''
        rcases (hp.mem_overlay hq).mp hmem with hmem | ⟨hmem, -⟩
        · exact hfilled ⟨entry, hmem, hfills⟩
        · exact hfilled' ⟨entry, hmem, hfills⟩
      rw [hkept₁ name hfilled', hkept name hneither]
      exact Json.same_refl _
  · have habsent : ∀ key, r.type.Fills key name → Dict.get? p key = none ∧ Dict.get? q key = none :=
      fun _ => hspared.absent_of_fills hunshared
    rw [hkept₂ name (not_filledBy_of_absent fun key hfills => (habsent key hfills).2),
      hkept₁ name (not_filledBy_of_absent fun key hfills => (habsent key hfills).1)]

end Overlaying

/-! ## A task -/

def firstPayload : Dict Json :=
  [("label", .str "web"), ("owner", .obj [("id", .int 7), ("label", .str "db")]), ("peer_id", .int 5)]

def secondPayload : Dict Json :=
  [("id", .int 9), ("note", .null), ("owner", .obj [("id", .int 7), ("note", .null)]),
    ("peer_id", .null)]

def ownedTask : Resource :=
  (populate (clientOf taskRegistry) (.obj firstPayload) (task, offline)).2.1

/-- The owner is found again, the peer is forgotten, and the id is not taken from the payload. -/
theorem populate_overlay_task :
    taskType.Unshared ∧ Dict.Sorted firstPayload ∧ Dict.Sorted secondPayload ∧
      populate (clientOf taskRegistry) (.obj firstPayload) (task, offline) =
        (.ok (), ownedTask, offline) ∧
      ∃ r s w w',
        populate (clientOf taskRegistry) (.obj secondPayload) (ownedTask, offline) = (.ok (), r, w) ∧
        populate (clientOf taskRegistry) (.obj (firstPayload.overlay secondPayload)) (task, offline) =
          (.ok (), s, w') ∧
        (∀ name, (r.peek name).toJson.same (s.peek name).toJson = true) ∧
        r.peek "id" = task.peek "id" ∧ r.raw? = some (.obj secondPayload) := by
  have hsorted : Dict.Sorted firstPayload := by
    unfold Dict.Sorted
    decide +kernel
  have hsorted' : Dict.Sorted secondPayload := by
    unfold Dict.Sorted
    decide +kernel
  have h₁ : populate (clientOf taskRegistry) (.obj firstPayload) (task, offline) =
      (.ok (), ownedTask, offline) := rfl
  have h₂ : populate (clientOf taskRegistry) (.obj secondPayload) (ownedTask, offline) =
      (.ok (), _, _) := rfl
  have h : populate (clientOf taskRegistry) (.obj (firstPayload.overlay secondPayload))
      (task, offline) = (.ok (), _, _) := rfl
  obtain ⟨-, hsame, hspared, hraw, -⟩ :=
    populate_overlay taskType_unshared hsorted hsorted' h₁ h₂
  exact ⟨taskType_unshared, hsorted, hsorted', h₁, _, _, _, _, h₂, h, hsame _ _ _ h,
    hspared "id" (.identifier rfl), hraw⟩

end Resource
end CloudClient
