import CloudClient.Proofs.Listing.Failure

/-!
# What an accepted registry closes over

Every hop from a resource over an accepted registry ends at a resource of a registered type under as
many parents as the type takes: related resources take none, children take one more than their
owner, and tagged entities take none. So what is left to fail is the exchange and what the server
answers.
-/

namespace CloudClient

namespace Registry

theorem ofDocuments_entities {documents : List Document} {registry : Registry}
    (h : ofDocuments documents = .ok registry) {tag key : String}
    (htag : registry.entityTypes.get? tag = some key) :
    ∃ type, registry.get key = .ok type ∧ type.parentIds = [] := by
  unfold ofDocuments at h
  obtain ⟨merged, -, h⟩ := Except.bind_eq_ok.mp h
  obtain ⟨types, -, h⟩ := Except.bind_eq_ok.mp h
  obtain ⟨_, -, h⟩ := Except.bind_eq_ok.mp h
  obtain ⟨_, hentities, h⟩ := Except.bind_eq_ok.mp h
  cases h
  obtain ⟨type, htype, hroot⟩ := checkEntities_mem hentities (Dict.mem_of_get? htag)
  exact ⟨type, get_eq_ok.mpr htype, hroot⟩

theorem ofSources_entities {sources : List String} {registry : Registry}
    (h : ofSources sources = .ok registry) {tag key : String}
    (htag : registry.entityTypes.get? tag = some key) :
    ∃ type, registry.get key = .ok type ∧ type.parentIds = [] := by
  unfold ofSources at h
  split at h
  · cases h
  · exact ofDocuments_entities h htag

end Registry

namespace Resource
variable {client : Client} {r s : Resource} {w w' : World}

/-! ## Children -/

theorem Placed.children (hregistry : client.registry.Sound) (hr : Placed client.registry r)
    {name child : String} {p : Property} (hp : r.describe name = .ok p)
    (hlink : p.link = .derived child) :
    ∃ type, client.registry.get child = .ok type ∧
      Endpoint.checkParent type (some r.childKey) = .ok () := by
  have htarget : p.link.target? = some child := by rw [hlink]; rfl
  obtain ⟨type, htype, hcount⟩ := hr.target hregistry (derived_declared hp hlink) htarget
  refine ⟨type, htype, checkParent_eq_ok.mpr ?_⟩
  rw [parentCount_childKey, hr.parents, hcount, hlink]
  rfl

theorem get_derived_error {name child : String} {p : Property} (hp : r.describe name = .ok p)
    (hid : p.identifier = false) (hlink : p.link = .derived child) {e : Error}
    (h : get client name (r, w) = (.error e, s, w')) :
    client.listAll child (some r.childKey) w = (.error e, w') := by
  unfold get at h
  obtain h | ⟨_, _, hread, h⟩ := Step.bind_eq_error.mp h
  · cases h
  cases hread
  rw [hp, Step.bind_of_ok (Step.ofExcept_apply _ _)] at h
  simp only [hid, hlink, Bool.false_eq_true, if_false] at h
  rcases Step.bind_eq_error.mp h with hlist | ⟨children, t, -, h⟩
  · rw [Step.second_apply] at hlist
    exact Prod.ext (Prod.mk.inj hlist).1 (Prod.mk.inj (Prod.mk.inj hlist).2).2
  · cases h

/-- What listing the children of a resource fails with: their address, an exchange that brings no
answer, or an answer that is no page of children; never that the type is unknown or takes other
parents. -/
structure ChildFault (client : Client) (r : Resource) (child : String) (e : Error) : Prop where
  cause : ∃ type path, client.registry.get child = .ok type ∧
    Endpoint.collection type (some r.childKey) = .ok path ∧ Listing.Fault client path e
  known : ∀ key, e ≠ .unknownType key
  fitting : ∀ type parent?, Endpoint.checkParent type parent? ≠ .error e

theorem ChildFault.of_fault {child path : String} {type : ResourceType} {e : Error}
    (htype : client.registry.get child = .ok type)
    (hpath : Endpoint.collection type (some r.childKey) = .ok path)
    (h : Listing.Fault client path e) : ChildFault client r child e :=
  ⟨⟨type, path, htype, hpath, h⟩, h.ne_unknownType, h.ne_checkParent⟩

theorem list_children_error (hregistry : client.registry.Sound)
    (hr : Placed client.registry r) {name child : String} {p : Property}
    (hp : r.describe name = .ok p) (hlink : p.link = .derived child) {filter? : Option Filter}
    {e : Error} (h : client.list child (some r.childKey) filter? w = (.error e, w')) :
    ChildFault client r child e := by
  obtain ⟨type, htype, hparent⟩ := hr.children hregistry hp hlink
  obtain ⟨path, hpath, hfault⟩ := Listing.list_faults hregistry htype hparent h
  exact .of_fault htype hpath hfault

theorem get_children_error (hregistry : client.registry.Sound)
    (hr : Placed client.registry r) {name child : String} {p : Property}
    (hp : r.describe name = .ok p) (hlink : p.link = .derived child) {e : Error}
    (h : get client name (r, w) = (.error e, s, w')) : ChildFault client r child e := by
  have hid : p.identifier = false := by
    have hname := derived_not_identifier (hr.registered.sound hregistry) hp hlink
    simpa [isIdentifier, derived_declared hp hlink] using hname
  obtain ⟨type, htype, hparent⟩ := hr.children hregistry hp hlink
  obtain ⟨path, hpath, hfault⟩ :=
    Listing.listAll_faults hregistry htype hparent (get_derived_error hp hid hlink h)
  exact .of_fault htype hpath hfault

/-! ## Tagged entities -/

theorem resolve_tagged {tag key : String} {type : ResourceType}
    (htag : client.registry.entityTypes.get? tag = some key)
    (htype : client.registry.get key = .ok type) (hroot : type.parentIds = []) {payload id : Json}
    (hpayload : payload.get? "type" = some (.str tag))
    (hid : payload.getSome? type.idField = some id) (w : World) :
    client.resolve payload w = (.ok (.known (identified type id none)), w) := by
  have hentity : client.registry.entityType? tag = some type :=
    Option.bind_eq_some_iff.mpr ⟨key, htag, Registry.get_eq_ok.mp htype⟩
  have hhandle : handle type id none = .ok (identified type id none) :=
    handle_eq_ok.mpr ⟨by rw [hroot]; rfl, rfl⟩
  cases payload with
  | obj fields =>
    have htext : ((Json.obj fields).get? "type").bind Json.asStr? = some tag := by
      rw [hpayload]
      rfl
    unfold Client.resolve
    simp only [MappedObject.ofJson?, Json.asObj?, Option.map_some, htext, hentity, hid, hhandle]
    rfl
  | _ => cases hpayload

/-! ## Every hop -/

/-- What the hops from a resource over an accepted registry end at, and what they fail with. -/
theorem registry_closed {sources : List String}
    (h : Registry.ofSources sources = .ok client.registry) :
    (∀ r, Reachable client r → client.registry.get r.kind = .ok r.type ∧
      Endpoint.parentCount r.parent? = r.type.parentIds.length) ∧
    (∀ r payload w e s w', Reachable client r →
      populate client payload (r, w) = (.error e, s, w') → e.Unexpected) ∧
    (∀ r name p child w e, Reachable client r → r.describe name = .ok p →
      p.link = .derived child →
      (∀ s w', get client name (r, w) = (.error e, s, w') → ChildFault client r child e) ∧
      ∀ filter? w', client.list child (some r.childKey) filter? w = (.error e, w') →
        ChildFault client r child e) ∧
    (∀ tag key, client.registry.entityTypes.get? tag = some key →
      ∃ type, client.registry.get key = .ok type ∧
        ∀ payload id w, payload.get? "type" = some (.str tag) →
          payload.getSome? type.idField = some id →
          client.resolve payload w = (.ok (.known (identified type id none)), w)) := by
  have hregistry := Registry.ofSources_sound h
  refine ⟨fun r hr => ?_, fun r payload w e s w' hr hpopulate => ?_,
    fun r name p child w e hr hp hlink => ?_, fun tag key htag => ?_⟩
  · have hplaced := (hr.placed hregistry).here
    exact ⟨hplaced.get_kind hregistry, hplaced.parents⟩
  · exact populate_unexpected hregistry (hr.placed hregistry) hpopulate
  · have hplaced := (hr.placed hregistry).here
    refine ⟨fun s w' hget => ?_, fun filter? w' hlist => ?_⟩
    · exact get_children_error hregistry hplaced hp hlink hget
    · exact list_children_error hregistry hplaced hp hlink hlist
  · obtain ⟨type, htype, hroot⟩ := Registry.ofSources_entities h htag
    exact ⟨type, htype, fun payload id w hpayload hid =>
      resolve_tagged htag htype hroot hpayload hid w⟩

def hostSource : String :=
  "\x7b\"entity_types\": \x7b\"machine\": \"host\"\x7d, \"resources\": \x7b
    \"disk\": \x7b\"display_name\": \"Disk\", \"endpoint\": \"/hosts/\x7bhost_id\x7d/disks/\x7bid\x7d\",
      \"parent_ids\": [\"host_id\"], \"properties\": \x7b\"id\": \x7b\"identifier\": true\x7d\x7d\x7d,
    \"host\": \x7b\"display_name\": \"Host\", \"endpoint\": \"/hosts/\x7bid\x7d\",
      \"properties\": \x7b\"disks\": \x7b\"derived_class\": \"disk\"\x7d,
        \"id\": \x7b\"identifier\": true\x7d\x7d\x7d\x7d\x7d"

def diskType : ResourceType where
  key := "disk"
  displayName := "Disk"
  endpoint := "/hosts/\x7bhost_id\x7d/disks/\x7bid\x7d"
  parentIds := ["host_id"]
  idField := "id"
  properties := [("id", { identifier := true })]

def hostType : ResourceType where
  key := "host"
  displayName := "Host"
  endpoint := "/hosts/\x7bid\x7d"
  parentIds := []
  idField := "id"
  properties := [("disks", { link := .derived "disk" }), ("id", { identifier := true })]

def hostRegistry : Registry where
  types := [("disk", diskType), ("host", hostType)]
  entityTypes := [("machine", "host")]

set_option maxRecDepth 8000 in
theorem hostSource_accepted : Registry.ofSources [hostSource] = .ok hostRegistry := by
  unfold hostSource
  exact Registry.ofSources_ofList (by decide +kernel)

def host : Resource := identified hostType (.int 1) none

theorem registry_closed_host :
    Registry.ofSources [hostSource] = .ok (clientOf hostRegistry).registry ∧
      (clientOf hostRegistry).resolve (.obj [("id", .int 1), ("type", .str "machine")]) offline =
        (.ok (.known host), offline) ∧
      ∀ w e s w', get (clientOf hostRegistry) "disks" (host, w) = (.error e, s, w') →
        ChildFault (clientOf hostRegistry) host "disk" e := by
  have haccepted : Registry.ofSources [hostSource] = .ok (clientOf hostRegistry).registry :=
    hostSource_accepted
  obtain ⟨-, -, hchildren, hentities⟩ := registry_closed haccepted
  obtain ⟨type, htype, hresolve⟩ := hentities "machine" "host" rfl
  cases htype
  have hresolved := hresolve (.obj [("id", .int 1), ("type", .str "machine")]) (.int 1) offline rfl rfl
  refine ⟨hostSource_accepted, hresolved, fun w e s w' hget => ?_⟩
  exact (hchildren host "disks" _ "disk" w e (.resolved hresolved) rfl rfl).1 s w' hget

end Resource
end CloudClient
