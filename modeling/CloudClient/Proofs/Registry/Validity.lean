import CloudClient.Proofs.Lookup
import CloudClient.Registry

/-!
# What acceptance guarantees

A registry that came out of its documents has every type under its own key, an id field that is an
identifier, identifiers that nothing may edit, id relations whose name exposes a resource, and
relations that lead to registered types of the right number of parents.
-/

namespace CloudClient

namespace Property

structure Sound (name : String) (p : Property) : Prop where
  fixed : p.identifier = true → p.mutable = false ∧ p.volatile = false ∧ p.link.isDerived = false
  named : p.link.isById = true → ∃ exposed, ResourceType.aliasOf? name = some exposed

end Property

namespace ResourceType

structure Sound (t : ResourceType) : Prop where
  idDeclared : ∃ p, t.property? t.idField = some p ∧ p.identifier = true
  properties : ∀ {name p}, t.property? name = some p → p.Sound name

theorem Sound.not_identifier {t : ResourceType} (h : t.Sound) {name : String} {p : Property}
    (hp : t.property? name = some p) (hmutable : p.mutable = true) : p.identifier = false := by
  cases hid : p.identifier with
  | true => cases hmutable.symm.trans ((h.properties hp).fixed hid).1
  | false => rfl

end ResourceType

structure Registry.Sound (registry : Registry) : Prop where
  keyed : ∀ {key t}, registry.get key = .ok t → t.key = key
  types : ∀ {key t}, registry.get key = .ok t → t.Sound
  linked : ∀ {key t name p target}, registry.get key = .ok t → t.property? name = some p →
    p.link.target? = some target →
    ∃ child, registry.get target = .ok child ∧
      child.parentIds.length = Registry.parentsNeeded t p.link
  entities : ∀ {tag t}, registry.entityType? tag = some t →
    ∃ key, registry.get key = .ok t ∧ t.parentIds = []

/-! ## Properties and types -/

namespace PropertyDocument

def linked (key name : String) (d : PropertyDocument) (link : Link) :
    Except RegistryFault Property := do
  if d.identifier && (d.mutable || d.volatile || link.isDerived) then
    .error (.changingIdentifier key name)
  if link.isById && (ResourceType.aliasOf? name).isNone then
    .error (.misnamedIdRelation key name)
  return {
    identifier := d.identifier
    mutable := d.mutable
    volatile := d.volatile
    datetime := d.datetime
    filterable := d.filterable
    nullable := d.nullable
    link }

theorem check_sound {key name : String} {d : PropertyDocument} {p : Property}
    (h : d.check key name = .ok p) : p.Sound name ∧ p.identifier = d.identifier := by
  have hlink : ∃ link, linked key name d link = .ok p := by
    unfold check at h
    split at h
    · exact ⟨.plain, h⟩
    · exact ⟨_, h⟩
    · cases h
  obtain ⟨link, h⟩ := hlink
  unfold linked at h
  obtain ⟨hfixed, h⟩ := Except.guard_eq_ok.mp h
  obtain ⟨hnamed, h⟩ := Except.guard_eq_ok.mp h
  cases h
  refine ⟨⟨fun hid => ?_, fun hlink => ?_⟩, rfl⟩
  · have hid : d.identifier = true := hid
    simpa [hid, and_assoc] using hfixed
  · have hlink : link.isById = true := hlink
    exact Option.ne_none_iff_exists'.mp (by simpa [hlink] using hnamed)

theorem checkAll_get? {key name : String} {ds : Dict PropertyDocument} {ps : Dict Property}
    (h : checkAll key ds = .ok ps) :
    (∀ p, ps.get? name = some p → p.Sound name) ∧
      (ps.get? name).map Property.identifier = (ds.get? name).map PropertyDocument.identifier := by
  induction ds generalizing ps with
  | nil =>
    cases h
    exact ⟨fun p hp => (by cases hp), rfl⟩
  | cons entry rest ih =>
    obtain ⟨k, d⟩ := entry
    obtain ⟨p, hp, h⟩ := Except.bind_eq_ok.mp h
    obtain ⟨ps', hrest, h⟩ := Except.bind_eq_ok.mp h
    cases h
    have hsound := check_sound hp
    simp only [Dict.get?]
    split
    · rename_i hk
      subst hk
      refine ⟨?_, by simp [hsound.2]⟩
      intro _ h
      cases h
      exact hsound.1
    · exact ih hrest

end PropertyDocument

namespace TypeDocument

theorem check_sound {key : String} {d : TypeDocument} {t : ResourceType}
    (h : d.check key = .ok t) : t.key = key ∧ t.Sound := by
  unfold check at h
  obtain ⟨-, h⟩ := Except.guard_eq_ok.mp h
  obtain ⟨_, -, h⟩ := Except.bind_eq_ok.mp h
  obtain ⟨hid, h⟩ := Except.guard_eq_ok.mp h
  obtain ⟨ps, hps, h⟩ := Except.bind_eq_ok.mp h
  cases h
  refine ⟨rfl, ⟨?_, fun hp => (PropertyDocument.checkAll_get? hps).1 _ hp⟩⟩
  rw [← (PropertyDocument.checkAll_get? hps).2] at hid
  change ∃ p, ps.get? d.idField = some p ∧ p.identifier = true
  cases hp : ps.get? d.idField with
  | none => simp [hp] at hid
  | some p => exact ⟨p, rfl, by simpa [hp] using hid⟩

end TypeDocument

/-! ## Registries -/

namespace Registry
variable {types : Dict ResourceType}

theorem checkTypes_checked {documents : Dict TypeDocument} (h : checkTypes documents = .ok types)
    {key : String} {t : ResourceType} (ht : types.get? key = some t) :
    ∃ d : TypeDocument, d.check key = .ok t := by
  induction documents generalizing types with
  | nil =>
    cases h
    cases ht
  | cons entry rest ih =>
    obtain ⟨k, d⟩ := entry
    obtain ⟨t', hd, h⟩ := Except.bind_eq_ok.mp h
    obtain ⟨ts, hrest, h⟩ := Except.bind_eq_ok.mp h
    cases h
    simp only [Dict.get?] at ht
    split at ht
    · rename_i hk
      cases ht
      exact ⟨d, hk ▸ hd⟩
    · exact ih hrest ht

theorem checkTypes_get? {documents : Dict TypeDocument} (h : checkTypes documents = .ok types)
    {key : String} {t : ResourceType} (ht : types.get? key = some t) : t.key = key ∧ t.Sound := by
  obtain ⟨d, hd⟩ := checkTypes_checked h ht
  exact TypeDocument.check_sound hd

theorem checkLink_target {owner : ResourceType} {name : String} {p : Property}
    (h : checkLink types owner name p = .ok ()) {target : String}
    (htarget : p.link.target? = some target) :
    ∃ child, types.get? target = some child ∧
      child.parentIds.length = parentsNeeded owner p.link := by
  simp only [checkLink, htarget] at h
  split at h
  · cases h
  · rename_i child hchild
    split at h
    · rename_i hlength
      exact ⟨child, hchild, hlength⟩
    · cases h

theorem checkLinks_mem {owner : ResourceType} {properties : Dict Property}
    (h : checkLinks types owner properties = .ok ()) {name : String} {p : Property}
    (hp : (name, p) ∈ properties) : checkLink types owner name p = .ok () := by
  induction properties with
  | nil => cases hp
  | cons entry rest ih =>
    obtain ⟨_, hfirst, hrest⟩ := Except.bind_eq_ok.mp h
    rcases List.mem_cons.mp hp with rfl | hp
    · exact hfirst
    · exact ih hrest hp

theorem checkAllLinks_mem {owners : Dict ResourceType}
    (h : checkAllLinks types owners = .ok ()) {key : String} {t : ResourceType}
    (ht : (key, t) ∈ owners) : checkLinks types t t.properties = .ok () := by
  induction owners with
  | nil => cases ht
  | cons entry rest ih =>
    obtain ⟨_, hfirst, hrest⟩ := Except.bind_eq_ok.mp h
    rcases List.mem_cons.mp ht with rfl | ht
    · exact hfirst
    · exact ih hrest ht

theorem checkEntities_mem {entities : Dict String} (h : checkEntities types entities = .ok ())
    {tag key : String} (htag : (tag, key) ∈ entities) :
    ∃ t, types.get? key = some t ∧ t.parentIds = [] := by
  induction entities with
  | nil => cases htag
  | cons entry rest ih =>
    obtain ⟨tag', key'⟩ := entry
    simp only [checkEntities] at h
    split at h
    · cases h
    · split at h
      · cases h
      · rename_i t ht hd
        rcases List.mem_cons.mp htag with heq | htag
        · cases heq
          exact ⟨t, ht, by simpa [ResourceType.isDerived] using hd⟩
        · exact ih h htag

theorem get_eq_ok {registry : Registry} {key : String} {t : ResourceType} :
    registry.get key = .ok t ↔ registry.types.get? key = some t := by
  unfold get
  cases registry.types.get? key <;> simp

theorem ofDocuments_sound {documents : List Document} {registry : Registry}
    (h : ofDocuments documents = .ok registry) : registry.Sound := by
  unfold ofDocuments at h
  obtain ⟨merged, -, h⟩ := Except.bind_eq_ok.mp h
  obtain ⟨types, htypes, h⟩ := Except.bind_eq_ok.mp h
  obtain ⟨_, hlinks, h⟩ := Except.bind_eq_ok.mp h
  obtain ⟨_, hentities, h⟩ := Except.bind_eq_ok.mp h
  cases h
  refine ⟨?_, ?_, ?_, ?_⟩
  · exact fun ht => (checkTypes_get? htypes (get_eq_ok.mp ht)).1
  · exact fun ht => (checkTypes_get? htypes (get_eq_ok.mp ht)).2
  · intro key t name p target ht hp htarget
    have howner := checkAllLinks_mem hlinks (Dict.mem_of_get? (get_eq_ok.mp ht))
    have hlink := checkLinks_mem howner (Dict.mem_of_get? hp)
    obtain ⟨child, hchild, hlength⟩ := checkLink_target hlink htarget
    exact ⟨child, get_eq_ok.mpr hchild, hlength⟩
  · intro tag t ht
    obtain ⟨key, htag, ht⟩ := Option.bind_eq_some_iff.mp ht
    obtain ⟨t', ht', hroot⟩ := checkEntities_mem hentities (Dict.mem_of_get? htag)
    cases ht.symm.trans ht'
    exact ⟨key, get_eq_ok.mpr ht, hroot⟩

theorem ofSources_checked {sources : List String} {registry : Registry}
    (h : ofSources sources = .ok registry) {key : String} {t : ResourceType}
    (ht : registry.get key = .ok t) : ∃ d : TypeDocument, d.check key = .ok t := by
  unfold ofSources at h
  split at h
  · cases h
  · unfold ofDocuments at h
    obtain ⟨merged, -, h⟩ := Except.bind_eq_ok.mp h
    obtain ⟨types, htypes, h⟩ := Except.bind_eq_ok.mp h
    obtain ⟨_, -, h⟩ := Except.bind_eq_ok.mp h
    obtain ⟨_, -, h⟩ := Except.bind_eq_ok.mp h
    cases h
    exact checkTypes_checked htypes (get_eq_ok.mp ht)

theorem ofSources_sound {sources : List String} {registry : Registry}
    (h : ofSources sources = .ok registry) : registry.Sound := by
  unfold ofSources at h
  split at h
  · cases h
  · exact ofDocuments_sound h

/-! ## A small registry -/

/-- A document is read as characters; the text itself need not be taken apart. -/
theorem parse?_ofList {source : List Char} {d : Document}
    (h : (Json.valueText? source).bind Document.read? = some d) :
    Document.parse? (String.ofList source) = some d := by
  rw [Document.parse?, String.toList_ofList, h]

theorem ofSources_ofList {source : List Char} {registry : Registry}
    (h : ((Json.valueText? source).bind Document.read?).bind
      (fun d => (ofDocuments [d]).toOption) = some registry) :
    ofSources [String.ofList source] = .ok registry := by
  obtain ⟨document, hread, h⟩ := Option.bind_eq_some_iff.mp h
  have hparse := parse?_ofList hread
  simp only [ofSources, List.mapM_cons, List.mapM_nil, hparse]
  change ofDocuments [document] = .ok registry
  generalize ofDocuments [document] = result at h
  cases result with
  | error e => cases h
  | ok r =>
    cases h
    rfl

def nodeSource : String :=
  "\x7b\"resources\": \x7b\"node\": \x7b\"display_name\": \"Node\",
    \"endpoint\": \"/nodes/\x7bid\x7d\", \"properties\": \x7b
      \"id\": \x7b\"identifier\": true\x7d, \"label\": \x7b\"mutable\": true\x7d,
      \"login\": \x7b\"identifier\": true\x7d, \"peer_id\": \x7b\"id_relationship\": \"node\"\x7d,
      \"status\": \x7b\x7d\x7d\x7d\x7d\x7d"

def nodeType : ResourceType where
  key := "node"
  displayName := "Node"
  endpoint := "/nodes/\x7bid\x7d"
  parentIds := []
  idField := "id"
  properties := [("id", { identifier := true }), ("label", { mutable := true }),
    ("login", { identifier := true }), ("peer_id", { link := .byId "node" }), ("status", {})]

def nodeRegistry : Registry where
  types := [("node", nodeType)]

set_option maxRecDepth 8000 in
theorem nodeSource_accepted : ofSources [nodeSource] = .ok nodeRegistry := by
  unfold nodeSource
  exact ofSources_ofList (by decide +kernel)

end Registry
end CloudClient
