import CloudClient.Catalog
import CloudClient.Proofs.Resource.Changes

/-!
# Reachable resources

A resource comes from a construction, a creation, a list, a resolved entity or a field of another
resource, and is then operated on in any order, at any times, over any networks, whether or not the
operations succeed. Only such resources can be put into a field. A condition that the identity
decides holds of all of them and of all that they hold.
-/

namespace CloudClient

inductive Listing.Browsed (client : Client) : Listing → Prop
  | opened {kind : String} {parent? : Option ParentKey} {filter? : Option Filter} {w w' : World}
      {list : Listing} (h : client.list kind parent? filter? w = (.ok list, w')) :
      Browsed client list
  | called {list list' : Listing} {call : Call} {w w' : World}
      {result : Except Error (Answer Resource)} (hlist : Browsed client list)
      (h : call.perform client (list, w) = (result, list', w')) : Browsed client list'

theorem Listing.Browsed.readOver {client : Client} {list : Listing} (h : Browsed client list) :
    ReadOver client list := by
  induction h with
  | opened h => exact list_readOver h
  | called _ h ih => exact (Call.perform_keeps (fun page _ => ensurePage_readOver client page) _ _ ih).of_eq h

namespace Resource

inductive Action
  | set (name : String) (value : FieldValue)
  | get (name : String)
  | refresh
  | populate (payload : Json)
  | save
  | delete
  | invalidate

namespace Action

def perform (client : Client) : Action → Remote Unit
  | .set name value => fun (r, w) =>
    match r.set name value with
    | .ok s => (.ok (), s, w)
    | .error e => (.error e, r, w)
  | .get name => do
    let _ ← Resource.get client name
  | .refresh => Resource.refresh client
  | .populate payload => Resource.populate client payload
  | .save => do
    let _ ← Resource.save client
  | .delete => do
    let _ ← Resource.delete client
  | .invalidate => .modify fun (r, w) => (r.invalidate, w)

def given : Action → FieldValue
  | .set _ value => value
  | _ => .unset

end Action

/-- A resource as the client hands it out. -/
inductive Obtained (client : Client) : Resource → Prop
  | constructed {kind : String} {id : Json} {parent? : Option ParentKey} {payload? : Option Json}
      {r : Resource} {w w' : World}
      (h : client.construct kind id parent? payload? w = (.ok r, w')) : Obtained client r
  | created {kind : String} {parent? : Option ParentKey} {body : Json} {r : Resource} {w w' : World}
      (h : client.create kind parent? body w = (.ok r, w')) : Obtained client r
  | listed {list : Listing} {r : Resource} (hlist : Listing.Browsed client list)
      (hr : r ∈ list.items) : Obtained client r
  | resolved {payload : Json} {r : Resource} {w w' : World}
      (h : client.resolve payload w = (.ok (.known r), w')) : Obtained client r

inductive Reachable (client : Client) : Resource → Prop
  | constructed {kind : String} {id : Json} {parent? : Option ParentKey} {payload? : Option Json}
      {r : Resource} {w w' : World}
      (h : client.construct kind id parent? payload? w = (.ok r, w')) : Reachable client r
  | created {kind : String} {parent? : Option ParentKey} {body : Json} {r : Resource} {w w' : World}
      (h : client.create kind parent? body w = (.ok r, w')) : Reachable client r
  | listed {list : Listing} {r : Resource} (hlist : Listing.Browsed client list)
      (hr : r ∈ list.items) : Reachable client r
  | resolved {payload : Json} {r : Resource} {w w' : World}
      (h : client.resolve payload w = (.ok (.known r), w')) : Reachable client r
  | held {r s : Resource} {name : String} (hr : Reachable client r)
      (hs : s ∈ (r.peek name).held) : Reachable client s
  | performed {r s : Resource} {action : Action} {w w' : World} {result : Except Error Unit}
      (hr : Reachable client r) (hgiven : ∀ t ∈ action.given.held, Reachable client t)
      (h : action.perform client (r, w) = (result, s, w')) : Reachable client s

/-- What operations make of a resource, one after another. -/
inductive Later (client : Client) (r : Resource) : Resource → Prop
  | unchanged : Later client r r
  | performed {s t : Resource} {action : Action} {w w' : World} {result : Except Error Unit}
      (hs : Later client r s) (hgiven : ∀ t ∈ action.given.held, Reachable client t)
      (h : action.perform client (s, w) = (result, t, w')) : Later client r t

variable {client : Client} {r s : Resource} {w w' : World}

/-! ## One operation -/

inductive Change (client : Client) (action : Action) (r : Resource) : Resource → Prop
  | unchanged : Change client action r r
  | edited {name : String} {value : FieldValue} {s : Resource} (haction : action = .set name value)
      (h : r.set name value = .ok s) : Change client action r s
  | listed {name : String} {p : Property} {child : String} {children : List Resource}
      {w w' : World} (hp : r.describe name = .ok p) (hlink : p.link = .derived child)
      (hlist : client.listAll child (some r.childKey) w = (.ok children, w')) :
      Change client action r (r.put name (.resources children))
  | populated {payload : Json} {result : Except Error Unit} {s : Resource} {w w' : World}
      (h : populate client payload (r, w) = (result, s, w')) : Change client action r s
  | saved : Change client action r r.saved
  | invalidated : Change client action r r.invalidate

theorem Fetched.change {action : Action} {result : Except Error Unit} {t : Resource × World}
    (h : Fetched client r w result t) : Change client action r t.1 := by
  cases h with
  | failed => exact .unchanged
  | answered _ _ h => exact .populated h

theorem Read.change {action : Action} {name : String} {result : Except Error FieldValue}
    {t : Resource × World} (h : Read client name r w result t) : Change client action r t.1 := by
  cases h with
  | refused => exact .unchanged
  | known => exact .unchanged
  | listed hp _ hlink hlist => exact .listed hp hlink hlist
  | fetched _ _ _ _ h => exact h.change

theorem Agreed.change {action : Action} {change : Resource → Resource} {result : Except Error Bool}
    {t : Resource × World} (h : Agreed change r result t)
    (hchange : Change client action r (change r)) : Change client action r t.1 := by
  rcases h with ⟨ht, -⟩ | ⟨ht, -⟩
  · exact ht ▸ .unchanged
  · exact ht ▸ hchange

theorem Action.perform_change (client : Client) (action : Action) (r : Resource) (w : World) :
    (action.perform client).Yields (r, w) fun _ t => Change client action r t.1 := by
  cases action with
  | set name value =>
    unfold perform Step.Yields
    cases h : r.set name value with
    | error e =>
      simp only [h]
      exact .unchanged
    | ok s =>
      simp only [h]
      exact .edited rfl h
  | get name =>
    exact (get_read client name r w).bind (fun _ _ ht => ht.change) fun _ _ ht => ht.change
  | refresh => exact (refresh_fetched client r w).mono fun _ _ ht => ht.change
  | populate payload => exact .populated rfl
  | save =>
    exact (save_agreed client r w).bind (fun _ _ ht => ht.change .saved) fun _ _ ht => ht.change .saved
  | delete =>
    exact (delete_agreed client r w).bind (fun _ _ ht => ht.change .invalidated)
      fun _ _ ht => ht.change .invalidated
  | invalidate => exact .invalidated

/-! ## Identity -/

theorem fill_sameIdentity (registry : Registry) (now : Nat) (payload : Json) (r : Resource)
    (log : Log) :
    Step.Yields (fill registry now payload) (r, log) fun _ t => SameIdentity r t.1 := by
  cases payload with
  | obj fields =>
    refine (fillFields_frame fields r log).bind (fun _ t ht => ?_) fun _ t ht => ?_
    · exact ht.sameIdentity_of_filledBy.trans (populatedFrom_sameIdentity t.1 now _)
    · exact ht.sameIdentity_of_filledBy
  | _ => exact .refl r

theorem populate_sameIdentity (client : Client) (payload : Json) (r : Resource) (w : World) :
    (populate client payload).Yields (r, w) fun _ t => SameIdentity r t.1 :=
  fill_sameIdentity client.registry w.now payload r w.log

theorem derived_declared {name child : String} {p : Property} (hp : r.describe name = .ok p)
    (hlink : p.link = .derived child) : r.type.property? name = some p := by
  unfold describe ResourceType.describe at hp
  split at hp
  · rename_i p' hdeclared
    cases hp
    exact hdeclared
  · split at hp
    · split at hp
      · rename_i hbyId
        cases hp
        simp [hlink, Link.isById] at hbyId
      · cases hp
    · cases hp

theorem derived_not_identifier (hsound : r.type.Sound) {name child : String} {p : Property}
    (hp : r.describe name = .ok p) (hlink : p.link = .derived child) :
    isIdentifier r.type name = false := by
  have hdeclared := derived_declared hp hlink
  have hfixed := (hsound.properties hdeclared).fixed
  cases hid : p.identifier with
  | true => simp [hid, hlink, Link.isDerived] at hfixed
  | false => simp [isIdentifier, hdeclared, hid]

theorem Change.sameIdentity {action : Action} (hsound : r.type.Sound)
    (h : Change client action r s) : SameIdentity r s := by
  cases h with
  | unchanged => exact .refl r
  | edited _ h => exact set_sameIdentity hsound h
  | @listed name _ _ children _ _ hp hlink _ =>
    have hname := derived_not_identifier hsound hp hlink
    have hput : Frame (· = name) r (r.put name (.resources children)) := .put rfl
    refine hput.sameIdentity ?_
    intro other hid _ hother
    subst hother
    simp [hname] at hid
  | populated h => exact (populate_sameIdentity client _ r _).of_eq h
  | saved => exact saved_sameIdentity r
  | invalidated => exact invalidate_sameIdentity r

/-! ## Obtaining -/

theorem resolve_known {payload : Json} (h : client.resolve payload w = (.ok (.known r), w')) :
    ∃ tag type id, client.registry.entityType? tag = some type ∧ handle type id none = .ok r := by
  unfold Client.resolve at h
  cases hwrapped : MappedObject.ofJson? payload with
  | none =>
    rw [hwrapped] at h
    cases h
  | some wrapped =>
    cases htag : (payload.get? "type").bind Json.asStr? with
    | none =>
      rw [hwrapped, htag] at h
      cases h
    | some tag =>
      cases htype : client.registry.entityType? tag with
      | none =>
        simp only [hwrapped, htag, htype] at h
        obtain ⟨_, _, -, h⟩ := Step.bind_eq_ok.mp h
        cases h
      | some type =>
        cases hid : payload.getSome? type.idField with
        | none =>
          simp only [hwrapped, htag, htype, hid] at h
          cases h
        | some id =>
          simp only [hwrapped, htag, htype, hid] at h
          obtain ⟨r', _, hhandle, h⟩ := Step.bind_eq_ok.mp h
          cases h
          exact ⟨tag, type, id, htype, (Prod.mk.inj hhandle).1⟩

section Obtaining
variable {Q : Resource → Prop} (hQ : Initial client.registry Q)
include hQ

theorem ReadFrom.initial {key : String} {type : ResourceType} {parent? : Option ParentKey}
    {item : Json} (htype : client.registry.get key = .ok type)
    (h : ReadFrom client.registry type parent? item r) : Q r := by
  obtain ⟨now, log, log', h⟩ := h
  obtain ⟨id, -, h⟩ := ofItem_eq_ok.mp h
  exact hQ.filled htype h

theorem construct_initial {kind : String} {id : Json} {parent? : Option ParentKey}
    {payload? : Option Json} (h : client.construct kind id parent? payload? w = (.ok r, w')) :
    Q r := by
  obtain ⟨type, _, hget, h⟩ := Step.bind_eq_ok.mp h
  obtain ⟨htype, rfl⟩ := Prod.mk.inj hget
  cases payload? with
  | none => exact hQ.handled htype (Prod.mk.inj h).1
  | some payload =>
    obtain ⟨now, _, hnow, h⟩ := Step.bind_eq_ok.mp h
    obtain ⟨log, h, -⟩ := World.logged_eq.mp h
    exact hQ.filled htype h

theorem create_initial {kind : String} {parent? : Option ParentKey} {body : Json}
    (h : client.create kind parent? body w = (.ok r, w')) : Q r := by
  obtain ⟨type, _, hget, h⟩ := Step.bind_eq_ok.mp h
  obtain ⟨path, _, -, h⟩ := Step.bind_eq_ok.mp h
  obtain ⟨_, _, -, h⟩ := Step.bind_eq_ok.mp h
  obtain ⟨answer, _, -, h⟩ := Step.bind_eq_ok.mp h
  split at h
  · cases h
  · obtain ⟨now, _, -, h⟩ := Step.bind_eq_ok.mp h
    obtain ⟨log, h, -⟩ := World.logged_eq.mp h
    exact ReadFrom.initial hQ (Prod.mk.inj hget).1 ⟨now, _, _, h⟩

theorem Obtained.initial (h : Obtained client r) (hregistry : client.registry.Sound) : Q r := by
  cases h with
  | constructed h => exact construct_initial hQ h
  | created h => exact create_initial hQ h
  | listed hlist hr =>
    obtain ⟨page, rs, hpage, hr⟩ := Listing.mem_items.mp hr
    obtain ⟨key, hkey⟩ := hlist.readOver.registered
    obtain ⟨item, hitem⟩ := hlist.readOver.items page rs hpage _ hr
    exact hitem.initial hQ hkey
  | resolved h =>
    obtain ⟨tag, type, id, htag, hhandle⟩ := resolve_known h
    obtain ⟨key, hkey, -⟩ := hregistry.entities htag
    exact hQ.handled hkey hhandle

end Obtaining

/-! ## Conditions that the identity decides -/

section Invariants
variable {P : Resource → Prop}

theorem populate_everywhere (hP : Invariant client.registry P) (payload : Json) (w : World)
    (hr : Everywhere P r) : (populate client payload).Yields (r, w) fun _ t => Everywhere P t.1 :=
  fill_keeps hP w.now payload r w.log hr

theorem Change.everywhere (hP : Invariant client.registry P) (hsound : r.type.Sound)
    {action : Action} (hgiven : ∀ t ∈ action.given.held, Everywhere P t)
    (hr : Everywhere P r) (h : Change client action r s) : Everywhere P s := by
  have hs : P s := hP.stable (h.sameIdentity hsound) hr.here
  cases h with
  | unchanged => exact hr
  | edited haction h =>
    subst haction
    obtain ⟨-, rfl⟩ := set_ok hsound h
    exact hr.of_adds hs (Adds.put hgiven r _)
  | listed _ _ hlist =>
    refine hr.of_adds hs (Adds.put (fun t ht => ?_) r _)
    obtain ⟨key, type, parent?, item, htype, hread⟩ := Client.listAll_read hlist t ht
    exact hread.initial hP.completed.initial htype
  | populated h => exact (populate_everywhere hP _ _ hr).of_eq h
  | saved => exact hr.of_adds hs fun _ => .inl rfl
  | invalidated => exact hr.of_adds hs (invalidate_adds r)

theorem Reachable.everywhere (hP : Invariant client.registry P)
    (hregistry : client.registry.Sound) (htype : ∀ r, P r → r.type.Sound)
    (hr : Reachable client r) : Everywhere P r := by
  induction hr with
  | constructed h => exact (Obtained.constructed h).initial hP.completed.initial hregistry
  | created h => exact (Obtained.created h).initial hP.completed.initial hregistry
  | listed hlist hr => exact (Obtained.listed hlist hr).initial hP.completed.initial hregistry
  | resolved h => exact (Obtained.resolved h).initial hP.completed.initial hregistry
  | held _ hs ih => exact ih.of_held hs
  | @performed r s action w w' result _ _ h ih ihgiven =>
    have hchange := (Action.perform_change client action r w).of_eq h
    exact hchange.everywhere hP (htype r ih.here) ihgiven ih

/-! ## Registered types -/

def Registered (registry : Registry) (r : Resource) : Prop := ∃ key, registry.get key = .ok r.type

theorem withIdentifiers_type (r : Resource) (payload : Json) :
    (r.withIdentifiers payload).type = r.type :=
  (withIdentifiers_spec (Q := fun _ => True) r payload).1.type

theorem registered_invariant (registry : Registry) : Invariant registry (Registered registry) := by
  refine ⟨?_, ?_, ?_⟩
  · intro key type id parent? r hkey hr
    exact ⟨key, by rw [handle_eq hr]; exact hkey⟩
  · intro r payload h
    obtain ⟨key, hkey⟩ := h
    exact ⟨key, by rw [withIdentifiers_type, hkey]⟩
  · intro r s hsame h
    obtain ⟨key, hkey⟩ := h
    exact ⟨key, by rw [hsame.type, hkey]⟩

theorem Registered.sound (hregistry : client.registry.Sound) (h : Registered client.registry r) :
    r.type.Sound := by
  obtain ⟨key, hkey⟩ := h
  exact hregistry.types hkey

theorem Reachable.registered (hregistry : client.registry.Sound) (hr : Reachable client r) :
    Registered client.registry r :=
  (hr.everywhere (registered_invariant _) hregistry fun _ h => h.sound hregistry).here

theorem Later.sameIdentity (hregistry : client.registry.Sound) (hr : Reachable client r)
    (h : Later client r s) : Reachable client s ∧ SameIdentity r s := by
  induction h with
  | unchanged => exact ⟨hr, .refl r⟩
  | @performed s t action w w' result _ hgiven h ih =>
    have hchange := (Action.perform_change client action s w).of_eq h
    have hsound := (ih.1.registered hregistry).sound hregistry
    exact ⟨.performed ih.1 hgiven h, ih.2.trans (hchange.sameIdentity hsound)⟩

end Invariants

/-! ## A node -/

def clientOf (registry : Registry) : Client where
  baseUrl := "http://localhost"
  agent := "agent"
  token? := none
  registry
  pageSize := 100
  refreshSeconds := 60

def offline : World := { network := Network.unreachable }

def node : Resource := identified Registry.nodeType (.int 1) none

theorem node_reachable : Reachable (clientOf .nodeRegistry) node := by
  have hconstruct : (clientOf .nodeRegistry).construct "node" (.int 1) none none offline =
      (.ok node, offline) := rfl
  exact .constructed hconstruct

end Resource
end CloudClient
