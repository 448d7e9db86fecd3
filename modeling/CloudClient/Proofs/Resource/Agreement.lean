import CloudClient.Proofs.Population.Agreement
import CloudClient.Proofs.Resource.Course
import CloudClient.Proofs.Resource.Update

/-!
# Id relations over a history

An id and the resource behind it agree when the resource is obtained, and again whenever both fields
are written by one population or are dropped together. In between only two operations on the
resource can part them: setting the id, which leaves the resource behind it as it was, and a
population that stops at the id, which drops the resource behind it. The second one parts every id
relation in some history, whether or not the id can be set.
-/

namespace CloudClient.Resource
variable {client : Client} {r s : Resource} {w : World} {action : Action}

/-! ## Histories -/

/-- A resource in whose history, and in that of all that was handed to it, no operation meets a
condition. -/
inductive Without (client : Client) (D : Deed → Prop) : Resource → Prop
  | obtained {r : Resource} (h : Obtained client r) : Without client D r
  | held {r s : Resource} {name : String} (hr : Without client D r)
      (hs : s ∈ (r.peek name).held) : Without client D s
  | performed {r : Resource} {action : Action} {w : World} (hr : Without client D r)
      (hgiven : ∀ t ∈ action.given.held, Without client D t) (h : ¬ D ⟨action, r, w⟩) :
      Without client D (action.perform client (r, w)).2.1

theorem Obtained.reachable (h : Obtained client r) : Reachable client r := by
  cases h with
  | constructed h => exact .constructed h
  | created h => exact .created h
  | listed hlist hr => exact .listed hlist hr
  | resolved h => exact .resolved h

theorem Without.reachable {D : Deed → Prop} (h : Without client D r) : Reachable client r := by
  induction h with
  | obtained h => exact h.reachable
  | held _ hs ih => exact .held ih hs
  | performed _ _ _ ih ihgiven => exact .performed ih ihgiven rfl

theorem Reachable.without (h : Reachable client r) : Without client (fun _ => False) r := by
  induction h with
  | constructed h => exact .obtained (.constructed h)
  | created h => exact .obtained (.created h)
  | listed hlist hr => exact .obtained (.listed hlist hr)
  | resolved h => exact .obtained (.resolved h)
  | held _ hs ih => exact .held ih hs
  | @performed r s action w w' result _ _ h ih ihgiven =>
    have hs := Without.performed (w := w) ih ihgiven not_false
    rwa [h] at hs

theorem Effect.adds {P : Resource → Prop} (hP : Completed client.registry P)
    (hregistry : client.registry.Sound) (hregistered : Registered client.registry r)
    (hgiven : ∀ t ∈ action.given.held, Everywhere P t) (hr : Everywhere P r)
    (h : Effect client r w action s) : Adds (Everywhere P) r s := by
  cases h with
  | filled _ h =>
    obtain ⟨log, hfill, -⟩ := populate_eq.mp h
    have hs : Everywhere P s := (hP.fill_keeps _ _ r _ hr).of_eq hfill rfl
    exact fun _ => .inr fun _ ht => hs.of_held ht
  | stopped _ h =>
    rcases populate_stops hregistry hregistered h with
      rfl | ⟨before, _, slot, m, _, -, -, -, hm, rfl⟩
    · exact .refl s
    · have hfill := fill_eq_ok.mpr ⟨before, m, rfl, hm, rfl⟩
      have hbefore : Everywhere P _ := (hP.fill_keeps _ _ r _ hr).of_eq hfill rfl
      have hadds : Adds (Everywhere P) r m := fun name => .inr fun _ ht => hbefore.toBelow name _ ht
      exact hadds.trans (.remove m slot)
  | edited haction h =>
    subst haction
    obtain ⟨_, -, -, rfl⟩ := set_eq_ok h
    exact Adds.put hgiven r _
  | listed _ _ _ hlist =>
    refine Adds.put (fun t ht => ?_) r _
    obtain ⟨key, type, parent?, item, htype, hread⟩ := Client.listAll_read hlist t ht
    exact hread.initial hP.initial htype
  | saved => exact fun _ => .inl rfl
  | deleted => exact invalidate_adds r
  | invalidated => exact invalidate_adds r
  | unchanged => exact .refl r

theorem Without.everywhere {P : Resource → Prop} {D : Deed → Prop}
    (hP : Completed client.registry P) (hregistry : client.registry.Sound)
    (hstep : ∀ action r w, Registered client.registry r → P r → ¬ D ⟨action, r, w⟩ →
      P (action.perform client (r, w)).2.1)
    (h : Without client D r) : Everywhere P r := by
  induction h with
  | obtained h => exact h.initial hP.initial hregistry
  | held _ hs ih => exact ih.of_held hs
  | @performed r action w hr _ hquiet ih ihgiven =>
    have hregistered := hr.reachable.registered hregistry
    have hadds := (Action.perform_effect client action r w).adds hP hregistry hregistered ihgiven ih
    exact ih.of_adds (hstep action r w hregistered ih.here hquiet) hadds

/-! ## One deed -/

namespace Deed

/-- One of the two fields of an id relation is written or dropped without the other. -/
def Disturbs (client : Client) (name : String) (d : Deed) : Prop :=
  (∃ value, d.Sets name value) ∨ ∃ before, d.Stops client before name

/-- Both fields of an id relation are written by one population, or dropped together. -/
def Restores (client : Client) (name : String) (d : Deed) : Prop :=
  (∃ fields value, d.Completes client (.obj fields) ∧ (name, value) ∈ fields) ∨ d.Forgets client

variable {d : Deed} {name : String}

theorem restores_of_source {payload : Json} {w : World}
    (hsource : d.action.source? client d.resource d.world = some (payload, w))
    (h : d.Restores client name) :
    ∃ fields value, payload = .obj fields ∧ (populate client payload (d.resource, w)).1 = .ok () ∧
      (name, value) ∈ fields := by
  obtain ⟨fields, value, h, hmem⟩ | h := h
  · obtain ⟨rfl, hok⟩ := completes_of_source hsource h
    exact ⟨fields, value, rfl, hok, hmem⟩
  · exact absurd h (not_forgets_of_source hsource)

theorem not_restores (hsource : d.action.source? client d.resource d.world = none)
    (hdelete : d.action = .delete → (delete client (d.resource, d.world)).1 ≠ .ok true)
    (hinvalidate : d.action ≠ .invalidate) : ¬ d.Restores client name := by
  intro h
  obtain ⟨_, _, h, -⟩ | h := h
  · exact not_completes hsource h
  · exact not_forgets hdelete hinvalidate h

/-- What a deed leaves of an id relation: behind the id a resource of the target's type at most, and
agreement where it restored this, or found it and disturbed nothing. -/
structure Leaves (client : Client) (d : Deed) (name exposed target : String) (s : Resource) : Prop where
  only : HoldsOnly client.registry target (s.peek exposed)
  agrees : d.Restores client name ∨ ¬ d.Disturbs client name ∧
      Agrees client.registry target (d.resource.peek name) (d.resource.peek exposed) →
    Agrees client.registry target (s.peek name) (s.peek exposed)

section Leaving
variable {exposed target : String}

theorem leaves_kept (hheld : HoldsOnly client.registry target (d.resource.peek exposed))
    (hrestores : ¬ d.Restores client name) (hexposed : s.peek exposed = d.resource.peek exposed)
    (hname : ¬ d.Disturbs client name → s.peek name = d.resource.peek name) :
    d.Leaves client name exposed target s := by
  refine ⟨by rwa [hexposed], fun hcases => ?_⟩
  rw [hexposed]
  rcases hcases with hr | ⟨hdisturbs, hagrees⟩
  · exact absurd hr hrestores
  · rwa [hname hdisturbs]

variable (hrel : d.resource.type.Relates name exposed target)
  (hunshared : d.resource.type.Unshared)
include hrel hunshared

theorem leaves_invalidate : d.Leaves client name exposed target d.resource.invalidate := by
  obtain ⟨hname, hexposed⟩ := hrel.not_identifier hunshared
  constructor
  · rw [peek_invalidate_unset hexposed]
    exact holdsOnly_unset
  · rw [peek_invalidate_unset hname, peek_invalidate_unset hexposed]
    exact fun _ => agrees_unset

variable (hheld : HoldsOnly client.registry target (d.resource.peek exposed)) {payload : Json}
  {w w' : World} (hsource : d.action.source? client d.resource d.world = some (payload, w))
include hheld hsource

theorem leaves_filled (h : populate client payload (d.resource, w) = (.ok (), s, w')) :
    d.Leaves client name exposed target s := by
  obtain ⟨fields, m, log, rfl, hfields, rfl, -⟩ := populate_eq_ok.mp h
  obtain ⟨hm, hagrees⟩ := fillFields_agrees hrel hunshared hheld hfields
  refine ⟨hm, fun hcases => hagrees ?_⟩
  rcases hcases with hrestores | ⟨-, hbefore⟩
  · obtain ⟨_, value, hobj, -, hmem⟩ := restores_of_source hsource hrestores
    cases hobj
    exact .inr ⟨value, hmem⟩
  · exact .inl hbefore

theorem leaves_stopped (hregistry : client.registry.Sound)
    (hregistered : Registered client.registry d.resource) {e : Error}
    (h : populate client payload (d.resource, w) = (.error e, s, w')) :
    d.Leaves client name exposed target s := by
  have hrestores : ¬ d.Restores client name := by
    intro hrestores
    obtain ⟨_, _, -, hok, -⟩ := restores_of_source hsource hrestores
    rw [h] at hok
    cases hok
  rcases populate_stops hregistry hregistered h with
    rfl | ⟨before, key, slot, m, log, hstops, -, hfills, hfields, rfl⟩
  · exact leaves_kept hheld hrestores rfl fun _ => rfl
  · obtain ⟨hm, hagrees⟩ := fillFields_agrees hrel hunshared hheld hfields
    constructor
    · by_cases hslot : exposed = slot
      · rw [hslot, peek_remove_self]
        exact holdsOnly_unset
      · rwa [peek_remove_of_ne m hslot]
    · intro hcases
      rcases hcases with hr | ⟨hdisturbs, hbefore⟩
      · exact absurd hr hrestores
      have hkey : key ≠ name := by
        intro hkey
        subst hkey
        exact hdisturbs (.inr ⟨before, _, _, hsource, hstops⟩)
      obtain ⟨hname, hexposed⟩ := hrel.not_fills hunshared hkey
      have hslot : ∀ field, ¬ d.resource.type.Fills key field → field ≠ slot := by
        intro field hfield hslot
        exact hfield (hslot ▸ hfills)
      rw [peek_remove_of_ne m (hslot name hname), peek_remove_of_ne m (hslot exposed hexposed)]
      exact hagrees (.inl hbefore)

end Leaving

end Deed

section Relations
variable {type : ResourceType} {name exposed target : String}

theorem Effect.leaves (hregistry : client.registry.Sound)
    (hregistered : Registered client.registry r) (hrel : r.type.Relates name exposed target)
    (hunshared : r.type.Unshared) (hheld : HoldsOnly client.registry target (r.peek exposed))
    (h : Effect client r w action s) :
    Deed.Leaves client ⟨action, r, w⟩ name exposed target s := by
  cases h with
  | filled hsource h => exact Deed.leaves_filled hrel hunshared hheld hsource h
  | stopped hsource h =>
    exact Deed.leaves_stopped hrel hunshared hheld hsource hregistry hregistered h
  | edited haction h =>
    subst haction
    obtain ⟨p, hp, -, rfl⟩ := set_eq_ok h
    refine Deed.leaves_kept hheld (Deed.not_restores rfl (by simp) (by simp))
      (peek_put_of_ne r _ (hrel.ne_of_declared hunshared hp)) fun hdisturbs => ?_
    refine peek_put_of_ne r _ fun hfield => ?_
    subst hfield
    exact hdisturbs (.inl ⟨_, rfl, _, h⟩)
  | @listed field p child children w₁ haction hp hlink hlist =>
    subst haction
    have hdeclared := derived_declared hp hlink
    refine Deed.leaves_kept hheld (Deed.not_restores (source?_of_derived hp hlink) (by simp) (by simp))
      (peek_put_of_ne r _ (hrel.ne_of_declared hunshared hdeclared)) fun _ => ?_
    refine peek_put_of_ne r _ fun hfield => ?_
    -- a derived collection is no id relation
    subst hfield
    obtain ⟨q, hq, -, hbyId⟩ := hrel.declared
    cases hdeclared.symm.trans hq
    cases hlink.symm.trans hbyId
  | saved haction _ =>
    subst haction
    exact Deed.leaves_kept hheld (Deed.not_restores rfl (by simp) (by simp)) rfl fun _ => rfl
  | deleted => exact Deed.leaves_invalidate hrel hunshared
  | invalidated => exact Deed.leaves_invalidate hrel hunshared
  | unchanged hsource _ _ hdelete hinvalidate =>
    exact Deed.leaves_kept hheld (Deed.not_restores hsource hdelete hinvalidate) rfl fun _ => rfl

/-! ## Resources of one type -/

def Settled (registry : Registry) (type : ResourceType) (name exposed target : String) (A : Prop)
    (r : Resource) : Prop :=
  r.type = type → HoldsOnly registry target (r.peek exposed) ∧
    (A → Agrees registry target (r.peek name) (r.peek exposed))

theorem settled_completed {registry : Registry} {sources : List String}
    (h : Registry.ofSources sources = .ok registry) {key : String}
    (htype : registry.get key = .ok type) (hrel : type.Relates name exposed target)
    (hunshared : type.Unshared) (A : Prop) :
    Completed registry (Settled registry type name exposed target A) := by
  have hsound := (Registry.ofSources_sound h).types htype
  have hsorted := Registry.ofSources_sorted h htype
  obtain ⟨hname, hexposed⟩ := hrel.not_identifier hunshared
  refine ⟨?_, ?_, ?_⟩
  · intro _ type' id parent? r _ hr hrtype
    rw [handle_eq hr] at hrtype ⊢
    have htype' : type' = type := hrtype
    subst htype'
    rw [(peek_unfilled hsound hsorted hname id parent? .null).1,
      (peek_unfilled hsound hsorted hexposed id parent? .null).1]
    exact ⟨holdsOnly_unset, fun _ => agrees_unset⟩
  · intro _ type' id parent? r payload _ hr hrtype
    rw [handle_eq hr] at hrtype ⊢
    rw [withIdentifiers_type] at hrtype
    have htype' : type' = type := hrtype
    subst htype'
    rw [(peek_unfilled hsound hsorted hname id parent? payload).2,
      (peek_unfilled hsound hsorted hexposed id parent? payload).2]
    exact ⟨holdsOnly_unset, fun _ => agrees_unset⟩
  · intro now fields r s log log' hfields hr hstype
    have hframe := (fillFields_frame fields r log).of_eq hfields
    have hrtype : r.type = type := hframe.type.symm.trans hstype
    obtain ⟨hheld, hbefore⟩ := hr hrtype
    have hagrees := fillFields_agrees (hrtype ▸ hrel) (hrtype ▸ hunshared) hheld hfields
    exact ⟨hagrees.1, fun hA => hagrees.2 (.inl (hbefore hA))⟩

theorem Without.settled {sources : List String}
    (h : Registry.ofSources sources = .ok client.registry) {key : String}
    (htype : client.registry.get key = .ok type) (hrel : type.Relates name exposed target)
    (hunshared : type.Unshared) {D : Deed → Prop} {A : Prop}
    (hD : ∀ d, d.resource.type = type → ¬ D d → A → ¬ d.Disturbs client name)
    (hr : Without client D r) : Settled client.registry type name exposed target A r := by
  have hregistry := Registry.ofSources_sound h
  refine (hr.everywhere (settled_completed h htype hrel hunshared A) hregistry ?_).here
  intro action r w hregistered hbefore hquiet hstype
  have hchange : Change client action r _ := Action.perform_change client action r w
  have hrtype : r.type = type :=
    (hchange.sameIdentity (hregistered.sound hregistry)).type.symm.trans hstype
  obtain ⟨hheld, hagrees⟩ := hbefore hrtype
  have heffect := Action.perform_effect client action r w
  have hs := heffect.leaves hregistry hregistered (hrtype ▸ hrel) (hrtype ▸ hunshared) hheld
  exact ⟨hs.only, fun hA => hs.agrees (.inr ⟨hD _ hrtype hquiet hA, hagrees hA⟩)⟩

theorem Course.agrees {sources : List String}
    (h : Registry.ofSources sources = .ok client.registry) {key : String}
    (htype : client.registry.get key = .ok type) (hrel : type.Relates name exposed target)
    (hunshared : type.Unshared) (hr : Reachable client r) (hrtype : r.type = type)
    {deeds : List Deed} (hcourse : Course client r deeds s)
    (hsince : Since (Deed.Restores client name) (fun d => ¬ d.Disturbs client name) deeds) :
    Agrees client.registry target (s.peek name) (s.peek exposed) := by
  have hregistry := Registry.ofSources_sound h
  have hsettled : Settled client.registry type name exposed target False r :=
    hr.without.settled h htype hrel hunshared fun _ _ _ hfalse => hfalse.elim
  refine (hcourse.induct (P := fun deeds s => HoldsOnly client.registry target (s.peek exposed) ∧
    (Since (Deed.Restores client name) (fun d => ¬ d.Disturbs client name) deeds →
      Agrees client.registry target (s.peek name) (s.peek exposed)))
    hregistry (hr.registered hregistry) ?_ ?_).2 hsince
  · exact ⟨(hsettled hrtype).1, fun h => absurd h Since.not_nil⟩
  · intro deeds d s hdtype hregistered ih heffect
    have hd : d.resource.type = type := hdtype.trans hrtype
    have hs := heffect.leaves hregistry hregistered (hd ▸ hrel) (hd ▸ hunshared) ih.1
    refine ⟨hs.only, fun hsince => hs.agrees ?_⟩
    rcases Since.append_iff.mp hsince with hrestores | ⟨hdisturbs, hbefore⟩
    · exact .inl hrestores
    · exact .inr ⟨hdisturbs, ih.2 hbefore⟩

/-! ## Parting the two -/

/-- A reference without an id is noticed after the resource behind it has been taken out. -/
theorem populate_unreferenced (client : Client) (hrel : r.type.Relates name exposed target)
    {child : ResourceType} (htarget : client.registry.get target = .ok child) (w : World) :
    ∃ e, populate client (.obj [(name, .obj [])]) (r, w) = (.error e, r.remove exposed, w) := by
  obtain ⟨⟨p, hp, hid, hlink⟩, halias⟩ := hrel
  have hentry : ∃ e, fillField client.registry name (.obj [])
      (fillObject client.registry w.now (.obj [])) (fillItems client.registry w.now (.obj []))
      (r, w.log) = (.error e, r.remove exposed, w.log) := by
    refine ⟨.unexpectedResponse
      (child.displayName ++ " reference has no '" ++ child.idField ++ "'") (.obj []), ?_⟩
    unfold fillField relate
    simp [Step.bind_apply, hp, hid, hlink, halias, htarget, Json.isNull, Filling.take, referredId?,
      Json.getSome?, Json.get?, Dict.get?]
  obtain ⟨e, hentry⟩ := hentry
  refine ⟨e, populate_eq.mpr ⟨w.log, ?_, rfl⟩⟩
  rw [fill_obj, fillFields_cons, bind_assoc, Step.bind_of_error hentry]

theorem parted_of_relates (hregistry : client.registry.Sound) {key : String}
    (htype : client.registry.get key = .ok type) (hrel : type.Relates name exposed target) :
    ∃ r, Reachable client r ∧ r.type = type ∧
      ¬ Agrees client.registry target (r.peek name) (r.peek exposed) := by
  obtain ⟨p, hp, hid, hlink⟩ := hrel.declared
  have hne := ResourceType.aliasOf?_ne hrel.named
  obtain ⟨parent?, hr⟩ := identified_reachable htype .null
  obtain ⟨s, hs, -, hname⟩ := populate_null_relation client (r := identified type .null parent?) hp hid
    hlink hrel.named hne offline
  have hstype : s.type = type := ((populate_sameIdentity client _ _ offline).of_eq hs).type
  obtain ⟨child, htarget, -⟩ := hregistry.linked htype hp (by rw [hlink]; rfl)
  obtain ⟨e, hstopped⟩ := populate_unreferenced client (hstype ▸ hrel) htarget offline
  have hfilled : (Action.populate (.obj [(name, .null)])).perform client
      (identified type .null parent?, offline) = (.ok (), s, offline) := hs
  have hdropped : (Action.populate (.obj [(name, .obj [])])).perform client (s, offline) =
      (.error e, s.remove exposed, offline) := hstopped
  refine ⟨s.remove exposed, ?_, hstype, fun hagrees => ?_⟩
  · have hsreachable : Reachable client s := .performed hr (fun t ht => by cases ht) hfilled
    exact .performed hsreachable (fun t ht => by cases ht) hdropped
  · have hnull := hagrees.null ((peek_remove_of_ne s hne.symm).trans hname)
    rw [peek_remove_self] at hnull
    cases hnull

/-! ## When the two agree -/

/-- An id relation agrees in every history that leaves it undisturbed, and again after whatever
restores it; and every one is parted in some history. -/
theorem relations_agree {sources : List String}
    (h : Registry.ofSources sources = .ok client.registry) {key : String}
    (htype : client.registry.get key = .ok type) (hrel : type.Relates name exposed target) :
    (type.Unshared →
      (∀ r, Without client (fun d => d.resource.type = type ∧ d.Disturbs client name) r →
        r.type = type → Agrees client.registry target (r.peek name) (r.peek exposed)) ∧
      ∀ r deeds s, Reachable client r → r.type = type → Course client r deeds s →
        Since (Deed.Restores client name) (fun d => ¬ d.Disturbs client name) deeds →
        Agrees client.registry target (s.peek name) (s.peek exposed)) ∧
    ∃ r, Reachable client r ∧ r.type = type ∧
      ¬ Agrees client.registry target (r.peek name) (r.peek exposed) := by
  refine ⟨fun hunshared => ⟨fun r hr hrtype => ?_, fun r deeds s hr hrtype hcourse => ?_⟩,
    parted_of_relates (Registry.ofSources_sound h) htype hrel⟩
  · have hsettled : Settled client.registry type name exposed target True r :=
      hr.settled h htype hrel hunshared fun d hd hquiet _ hdisturbs => hquiet ⟨hd, hdisturbs⟩
    exact (hsettled hrtype).2 trivial
  · exact hcourse.agrees h htype hrel hunshared hr hrtype

end Relations

/-! ## A task and its peer -/

theorem taskType_relates : taskType.Relates "peer_id" "peer" "task" :=
  ⟨⟨{ mutable := true, link := .byId "task" }, rfl, rfl, rfl⟩, aliasOf?_peer_id⟩

theorem taskType_unshared : taskType.Unshared := ResourceType.unshared_of_forall (by decide +kernel)

def peerOf (id : Json) : Json := .obj [("peer_id", id)]

def peeredTask : Resource :=
  (((identified taskType (.int 1) none).put "peer" (.resource (identified taskType (.int 5) none))).put
    "peer_id" (.scalar (.int 5))).populatedFrom offline.now (peerOf (.int 5))

theorem peeredTask_obtained : Obtained (clientOf taskRegistry) peeredTask := by
  have hconstruct : (clientOf taskRegistry).construct "task" (.int 1) none (some (peerOf (.int 5)))
      offline = (.ok peeredTask, offline) := rfl
  exact .constructed hconstruct

def strayTask : Resource :=
  { peeredTask.put "peer_id" (.scalar (.int 7)) with changed := ["peer_id"] }

/-- The peer agrees at first, and again after the new one has been answered. -/
theorem relations_agree_task :
    Registry.ofSources [taskSource] = .ok (clientOf taskRegistry).registry ∧
      taskType.Relates "peer_id" "peer" "task" ∧ taskType.Unshared ∧
      Agrees taskRegistry "task" (peeredTask.peek "peer_id") (peeredTask.peek "peer") ∧
      ∃ s, Course (clientOf taskRegistry) peeredTask
          [⟨.set "peer_id" (.scalar (.int 7)), peeredTask, offline⟩,
            ⟨.populate (peerOf (.int 7)), strayTask, offline⟩] s ∧
        Agrees taskRegistry "task" (s.peek "peer_id") (s.peek "peer") := by
  have haccepted : Registry.ofSources [taskSource] = .ok (clientOf taskRegistry).registry :=
    taskSource_accepted
  have htype : (clientOf taskRegistry).registry.get "task" = .ok taskType := rfl
  obtain ⟨hagree, -⟩ := relations_agree haccepted htype taskType_relates
  obtain ⟨hundisturbed, hrestored⟩ := hagree taskType_unshared
  have hset : Course (clientOf taskRegistry) peeredTask
      [⟨.set "peer_id" (.scalar (.int 7)), peeredTask, offline⟩] strayTask := .performed .start
  have hsince : Since (Deed.Restores (clientOf taskRegistry) "peer_id")
      (fun d => ¬ d.Disturbs (clientOf taskRegistry) "peer_id")
      [⟨.set "peer_id" (.scalar (.int 7)), peeredTask, offline⟩,
        ⟨.populate (peerOf (.int 7)), strayTask, offline⟩] :=
    ⟨[_], _, [], rfl, .inl ⟨_, _, ⟨_, rfl, rfl⟩, List.mem_cons_self⟩, fun e he => by cases he⟩
  have hcourse : Course (clientOf taskRegistry) peeredTask
      [⟨.set "peer_id" (.scalar (.int 7)), peeredTask, offline⟩,
        ⟨.populate (peerOf (.int 7)), strayTask, offline⟩]
      ((Action.populate (peerOf (.int 7))).perform (clientOf taskRegistry) (strayTask, offline)).2.1 :=
    .performed hset
  refine ⟨haccepted, taskType_relates, taskType_unshared, ?_, _, hcourse, ?_⟩
  · exact hundisturbed peeredTask (.obtained peeredTask_obtained) rfl
  · exact hrestored peeredTask _ _ peeredTask_obtained.reachable rfl hcourse hsince

def RelationsAgree (client : Client) : Prop :=
  ∀ key type name exposed target r, client.registry.get key = .ok type →
    type.Relates name exposed target → Reachable client r → r.type = type →
    Agrees client.registry target (r.peek name) (r.peek exposed)

/-- Setting the id leaves the resource of the id before it. -/
theorem not_relationsAgree :
    Registry.ofSources [taskSource] = .ok (clientOf taskRegistry).registry ∧ taskType.Unshared ∧
      ¬ RelationsAgree (clientOf taskRegistry) := by
  refine ⟨taskSource_accepted, taskType_unshared, fun h => ?_⟩
  have hperformed : (Action.set "peer_id" (.scalar (.int 7))).perform (clientOf taskRegistry)
      (peeredTask, offline) = (.ok (), strayTask, offline) := rfl
  have hstray : Reachable (clientOf taskRegistry) strayTask :=
    .performed peeredTask_obtained.reachable (fun t ht => by cases ht) hperformed
  have hagrees := h "task" taskType "peer_id" "peer" "task" strayTask rfl taskType_relates hstray rfl
  obtain ⟨s, hs, -, hsame⟩ := hagrees.resource (.int 7) rfl rfl rfl rfl
  have hbehind : strayTask.peek "peer" = .resource (identified taskType (.int 5) none) := rfl
  cases hs.symm.trans hbehind
  exact absurd hsame (by decide)

end CloudClient.Resource
