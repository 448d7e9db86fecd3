import CloudClient.Proofs.Resource.Reachable

/-!
# Identifiers

An identifier reads for ever as it did when its resource was made, unless an id relation exposes the
resource that it points at under the name of that identifier. Nothing in a definition document rules
such a relation out, and an empty one is enough to overwrite the identifier, so identifiers are
fixed exactly in the registries that have none.
-/

namespace CloudClient

/-- No id relation exposes its resource under the name of an identifier. -/
def Registry.Unexposed (registry : Registry) : Prop :=
  ∀ key type name, registry.get key = .ok type → Resource.isIdentifier type name = true →
    ¬ type.Exposes name

namespace Resource
variable {client : Client} {r s : Resource}

structure SameIdentifiers (r s : Resource) : Prop where
  id : s.id = r.id
  parent : s.parent? = r.parent?
  kind : s.kind = r.kind
  idRead : s.peek s.type.idField = .scalar s.id
  identifiers : ∀ name, isIdentifier r.type name = true → s.peek name = r.peek name

def IdentifiersFixed (client : Client) : Prop :=
  ∀ r s, Reachable client r → Later client r s → SameIdentifiers r s

/-! ## Registries that keep identifiers -/

structure Identified (registry : Registry) (r : Resource) : Prop where
  registered : Registered registry r
  idRead : r.peek r.type.idField = .scalar r.id

theorem isIdentifier_idField {t : ResourceType} (h : t.Sound) :
    isIdentifier t t.idField = true := by
  obtain ⟨p, hp, hid⟩ := h.idDeclared
  simp [isIdentifier, hp, hid]

theorem identified_invariant {registry : Registry} (hsound : registry.Sound)
    (hunexposed : registry.Unexposed) : Invariant registry (Identified registry) := by
  have hregistered := registered_invariant registry
  refine ⟨?_, ?_, ?_⟩
  · intro key type id parent? r hkey hr
    refine ⟨hregistered.made hkey hr, ?_⟩
    rw [handle_eq hr]
    simp [peek, identified, Dict.get?]
  · intro r payload hr
    have hframe := (withIdentifiers_spec (Q := fun _ => True) r payload).1
    refine ⟨hregistered.identified payload hr.registered, ?_⟩
    rw [hframe.type, hframe.kept _ (not_not_intro rfl), hr.idRead, hframe.rest]
  · intro r s hsame hr
    obtain ⟨key, hkey⟩ := hr.registered
    have hid := isIdentifier_idField (hsound.types hkey)
    refine ⟨hregistered.stable hsame hr.registered, ?_⟩
    rw [hsame.type, hsame.kept _ hid (hunexposed key _ _ hkey hid), hr.idRead, hsame.id]

theorem identifiersFixed_of_unexposed (hsound : client.registry.Sound)
    (hunexposed : client.registry.Unexposed) : IdentifiersFixed client := by
  intro r s hr hs
  obtain ⟨hreachable, hsame⟩ := hs.sameIdentity hsound hr
  have hidentified := hreachable.everywhere (identified_invariant hsound hunexposed) hsound
    fun _ h => h.registered.sound hsound
  refine ⟨hsame.id, hsame.parent, congrArg ResourceType.key hsame.type, hidentified.here.idRead, ?_⟩
  intro name hid
  obtain ⟨key, hkey⟩ := hr.registered hsound
  exact hsame.kept name hid (hunexposed key _ name hkey hid)

/-! ## Overwriting an identifier -/

theorem fill_null_relation (registry : Registry) {name exposed target : String} {p : Property}
    (hp : r.type.property? name = some p) (hid : p.identifier = false)
    (hlink : p.link = .byId target) (halias : ResourceType.aliasOf? name = some exposed) (now : Nat)
    (log : Log) :
    fill registry now (.obj [(name, .null)]) (r, log) =
      (.ok (), ((r.put exposed (.scalar .null)).put name (.scalar .null)).populatedFrom now
        (.obj [(name, .null)]), log) := by
  have hentry : fillField registry name .null (fillObject registry now .null)
      (fillItems registry now .null) (r, log) =
        (.ok (), (r.put exposed (.scalar .null)).put name (.scalar .null), log) := by
    unfold fillField
    simp [Step.bind_apply, hp, hid, hlink, halias, Json.isNull, Filling.put]
  rw [fill_obj, fillFields_cons, bind_assoc, Step.bind_of_ok hentry]
  rfl

theorem populate_null_relation (client : Client) {name exposed target : String} {p : Property}
    (hp : r.type.property? name = some p) (hid : p.identifier = false)
    (hlink : p.link = .byId target) (halias : ResourceType.aliasOf? name = some exposed)
    (hne : exposed ≠ name) (w : World) :
    ∃ s, populate client (.obj [(name, .null)]) (r, w) = (.ok (), s, w) ∧
      s.peek exposed = .scalar .null ∧ s.peek name = .scalar .null := by
  have hfill := fill_null_relation client.registry hp hid hlink halias w.now w.log
  refine ⟨_, populate_eq.mpr ⟨w.log, hfill, rfl⟩, ?_, peek_put_self _ name _⟩
  exact (peek_put_of_ne _ _ hne).trans (peek_put_self r exposed _)

theorem handle_exists (type : ResourceType) (id : Json) :
    ∃ parent?, handle type id parent? = .ok (identified type id parent?) := by
  refine ⟨some ⟨List.replicate type.parentIds.length .null⟩, ?_⟩
  simp [handle, Endpoint.checkParent, Endpoint.parentCount]

theorem identified_reachable {key : String} {type : ResourceType}
    (hkey : client.registry.get key = .ok type) (id : Json) :
    ∃ parent?, Reachable client (identified type id parent?) := by
  obtain ⟨parent?, hhandle⟩ := handle_exists type id
  let w : World := { network := Network.unreachable }
  have hconstruct : client.construct key id parent? none w = (.ok (identified type id parent?), w) := by
    unfold Client.construct
    rw [hkey, Step.bind_of_ok (Step.ofExcept_apply _ _)]
    simp only [hhandle]
    rfl
  exact ⟨parent?, .constructed hconstruct⟩

theorem peek_identified (type : ResourceType) (id : Json) (parent? : Option ParentKey)
    (name : String) :
    (identified type id parent?).peek name = .scalar id ∨
      (identified type id parent?).peek name = .unset := by
  simp only [peek, identified, Dict.get?]
  split
  · exact .inl rfl
  · exact .inr rfl

theorem unexposed_of_identifiersFixed (h : IdentifiersFixed client) : client.registry.Unexposed := by
  intro key type name hkey hid hexposes
  obtain ⟨relation, p, hp, hchanges, hlink, halias⟩ := hexposes
  obtain ⟨parent?, hr⟩ := identified_reachable hkey (.bool true)
  let r := identified type (.bool true) parent?
  let w : World := { network := Network.unreachable }
  obtain ⟨target, hlink⟩ : ∃ target, p.link = .byId target := by
    cases hl : p.link with
    | byId target => exact ⟨target, rfl⟩
    | _ => rw [hl] at hlink; cases hlink
  have hne : name ≠ relation := by
    intro hname
    subst hname
    simp [isIdentifier, hp, hchanges] at hid
  obtain ⟨s, hs, hpeek, -⟩ :=
    populate_null_relation client (r := r) hp hchanges hlink halias hne w
  have hperformed : (Action.populate (.obj [(relation, .null)])).perform client (r, w) =
      (.ok (), s, w) := hs
  have hlater : Later client r s := .performed .unchanged (fun t ht => by cases ht) hperformed
  have hkept := (h r s hr hlater).identifiers name hid
  rw [hpeek] at hkept
  rcases peek_identified type (.bool true) parent? name with hr | hr
  · rw [hr] at hkept
    cases hkept
  · rw [hr] at hkept
    cases hkept

/-! ## Two registries -/

theorem aliasOf?_peer_id : ResourceType.aliasOf? "peer_id" = some "peer" := by decide +kernel

theorem nodeRegistry_unexposed : Registry.nodeRegistry.Unexposed := by
  intro key type name hkey hid hexposes
  obtain ⟨relation, p, hp, hchanges, hlink, halias⟩ := hexposes
  have htype := Dict.mem_of_get? (Registry.get_eq_ok.mp hkey)
  obtain ⟨rfl, rfl⟩ := Prod.mk.inj (List.mem_singleton.mp htype)
  have hproperty := Dict.mem_of_get? hp
  simp only [Registry.nodeType, List.mem_cons, Prod.mk.injEq] at hproperty
  rcases hproperty with ⟨rfl, rfl⟩ | ⟨rfl, rfl⟩ | ⟨rfl, rfl⟩ | ⟨rfl, rfl⟩ | ⟨rfl, rfl⟩ | h
  · cases hchanges
  · cases hlink
  · cases hchanges
  · cases aliasOf?_peer_id.symm.trans halias
    revert hid
    decide +kernel
  · cases hlink
  · cases h

def disguiseSource : String :=
  "\x7b\"resources\": \x7b\"node\": \x7b\"display_name\": \"Node\",
    \"endpoint\": \"/nodes/\x7bid\x7d\", \"properties\": \x7b
      \"id\": \x7b\"identifier\": true\x7d, \"peer\": \x7b\"identifier\": true\x7d,
      \"peer_id\": \x7b\"id_relationship\": \"node\"\x7d\x7d\x7d\x7d\x7d"

def disguiseType : ResourceType where
  key := "node"
  displayName := "Node"
  endpoint := "/nodes/\x7bid\x7d"
  parentIds := []
  idField := "id"
  properties := [("id", { identifier := true }), ("peer", { identifier := true }),
    ("peer_id", { link := .byId "node" })]

def disguiseRegistry : Registry where
  types := [("node", disguiseType)]

set_option maxRecDepth 8000 in
theorem disguiseSource_accepted : Registry.ofSources [disguiseSource] = .ok disguiseRegistry := by
  unfold disguiseSource
  exact Registry.ofSources_ofList (by decide +kernel)

/-! ## When identifiers are fixed -/

/-- Identifiers that no id relation exposes always stay, and all of them stay exactly where none is
exposed. -/
theorem identifiers_fixed_iff {sources : List String}
    (h : Registry.ofSources sources = .ok client.registry) :
    (∀ r s, Reachable client r → Later client r s → SameIdentity r s) ∧
      (IdentifiersFixed client ↔ client.registry.Unexposed) := by
  have hsound := Registry.ofSources_sound h
  refine ⟨fun r s hr hs => (hs.sameIdentity hsound hr).2, unexposed_of_identifiersFixed, ?_⟩
  exact identifiersFixed_of_unexposed hsound

theorem nodes_fixed :
    Registry.ofSources [Registry.nodeSource] = .ok (clientOf .nodeRegistry).registry ∧
      IdentifiersFixed (clientOf .nodeRegistry) :=
  ⟨Registry.nodeSource_accepted,
    (identifiers_fixed_iff Registry.nodeSource_accepted).2.mpr nodeRegistry_unexposed⟩

/-- An empty peer overwrites the identifier. -/
theorem not_identifiersFixed_disguise :
    Registry.ofSources [disguiseSource] = .ok (clientOf disguiseRegistry).registry ∧
      ¬ IdentifiersFixed (clientOf disguiseRegistry) := by
  refine ⟨disguiseSource_accepted, fun h => ?_⟩
  have hunexposed := unexposed_of_identifiersFixed h
  refine hunexposed "node" disguiseType "peer" rfl (by decide +kernel) ?_
  exact ⟨"peer_id", { link := .byId "node" }, by decide +kernel, rfl, rfl, aliasOf?_peer_id⟩

end Resource
end CloudClient
