import CloudClient.Proofs.Resource.Reachable

/-!
# Types and parents

A resource is made under as many parents as its type declares, and neither changes. So every
reachable resource, and everything that it holds, is of a registered type and has the right number
of parents, which is what its endpoint is formed from.
-/

namespace CloudClient.Resource
variable {registry : Registry} {client : Client} {r s : Resource}

structure Placed (registry : Registry) (r : Resource) : Prop where
  registered : Registered registry r
  parents : Endpoint.parentCount r.parent? = r.type.parentIds.length

theorem checkParent_eq_ok {type : ResourceType} {parent? : Option ParentKey} :
    Endpoint.checkParent type parent? = .ok () ↔
      Endpoint.parentCount parent? = type.parentIds.length := by
  simp [Endpoint.checkParent]

theorem handle_eq_ok {type : ResourceType} {id : Json} {parent? : Option ParentKey} :
    handle type id parent? = .ok r ↔
      Endpoint.parentCount parent? = type.parentIds.length ∧ r = identified type id parent? := by
  constructor
  · intro h
    refine ⟨?_, handle_eq h⟩
    obtain ⟨_, hcheck, -⟩ := Except.bind_eq_ok.mp h
    exact checkParent_eq_ok.mp hcheck
  · intro h
    obtain ⟨hcount, rfl⟩ := h
    rw [handle, checkParent_eq_ok.mpr hcount]
    rfl

theorem placed_invariant (registry : Registry) : Invariant registry (Placed registry) := by
  have hregistered := registered_invariant registry
  refine ⟨?_, ?_, ?_⟩
  · intro key type id parent? r hkey hr
    refine ⟨hregistered.made hkey hr, ?_⟩
    obtain ⟨hcount, rfl⟩ := handle_eq_ok.mp hr
    exact hcount
  · intro r payload hr
    have hframe := (withIdentifiers_spec (Q := fun _ => True) r payload).1
    refine ⟨hregistered.identified payload hr.registered, ?_⟩
    rw [hframe.type, hframe.rest]
    exact hr.parents
  · intro r s hsame hr
    refine ⟨hregistered.stable hsame hr.registered, ?_⟩
    rw [hsame.type, hsame.parent]
    exact hr.parents

theorem Reachable.placed (hregistry : client.registry.Sound) (hr : Reachable client r) :
    Everywhere (Placed client.registry) r :=
  hr.everywhere (placed_invariant _) hregistry fun _ h => h.registered.sound hregistry

theorem Placed.get_kind (hregistry : registry.Sound) (hr : Placed registry r) :
    registry.get r.kind = .ok r.type := by
  obtain ⟨key, hkey⟩ := hr.registered
  rw [kind, hregistry.keyed hkey]
  exact hkey

theorem Placed.endpoint (hr : Placed registry r) : ∃ path, r.endpoint = .ok path := by
  refine ⟨String.ofList (Endpoint.fill r.type r.type.endpoint.toList (some r.id) r.parent?), ?_⟩
  rw [Resource.endpoint, Endpoint.item, Endpoint.format, checkParent_eq_ok.mpr hr.parents]
  rfl

theorem parentCount_childKey (r : Resource) :
    Endpoint.parentCount (some r.childKey) = Endpoint.parentCount r.parent? + 1 := by
  unfold childKey
  cases r.parent? with
  | none => rfl
  | some p => simp [Endpoint.parentCount, ParentKey.child]

theorem Placed.target (hregistry : registry.Sound) (hr : Placed registry r) {name target : String}
    {p : Property} (hp : r.type.property? name = some p) (htarget : p.link.target? = some target) :
    ∃ type, registry.get target = .ok type ∧
      type.parentIds.length = Registry.parentsNeeded r.type p.link := by
  obtain ⟨key, hkey⟩ := hr.registered
  exact hregistry.linked hkey hp htarget

end CloudClient.Resource
