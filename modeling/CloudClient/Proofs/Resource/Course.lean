import CloudClient.Proofs.Resource.Edits
import CloudClient.Proofs.Resource.Effects

/-!
# Local edits over a course of operations

The changed names are those that were set since the resource was last filled to the end, saved,
deleted or invalidated. Each of them still has the value that it was set to last, unless a failed
population had filled or dropped the field before it stopped, or the field lists children and was
read again.
-/

namespace CloudClient.Resource
variable {client : Client} {r s : Resource} {w : World} {name : String} {value : FieldValue}

structure Deed where
  action : Action
  resource : Resource
  world : World

/-- Operations on a resource one after another, each at any time and over any network, whether or
not it succeeds. -/
inductive Course (client : Client) (r : Resource) : List Deed → Resource → Prop
  | start : Course client r [] r
  | performed {deeds : List Deed} {s : Resource} {action : Action} {w : World}
      (h : Course client r deeds s) :
      Course client r (deeds ++ [⟨action, s, w⟩]) (action.perform client (s, w)).2.1

namespace Deed

def Sets (d : Deed) (name : String) (value : FieldValue) : Prop :=
  d.action = .set name value ∧ ∃ s, d.resource.set name value = .ok s

def Completes (client : Client) (d : Deed) (payload : Json) : Prop :=
  ∃ w, d.action.source? client d.resource d.world = some (payload, w) ∧
    (populate client payload (d.resource, w)).1 = .ok ()

def Stops (client : Client) (d : Deed) (before : List (String × Json)) (key : String) : Prop :=
  ∃ payload w, d.action.source? client d.resource d.world = some (payload, w) ∧
    StopsAt client d.resource w payload before key

def Forgets (client : Client) (d : Deed) : Prop :=
  (d.action = .delete ∧ (delete client (d.resource, d.world)).1 = .ok true) ∨
    d.action = .invalidate

def Clears (client : Client) (d : Deed) : Prop :=
  (∃ payload, d.Completes client payload) ∨
    (d.action = .save ∧ (save client (d.resource, d.world)).1 = .ok true) ∨ d.Forgets client

/-- The field is written without being set: it lists children anew, or it is filled before a
population stops, or it holds the relation at whose entry a population stops. -/
def Overwrites (client : Client) (d : Deed) (name : String) : Prop :=
  (∃ p child children w, d.action = .get name ∧ d.resource.describe name = .ok p ∧
    p.link = .derived child ∧
    client.listAll child (some d.resource.childKey) d.world = (.ok children, w)) ∨
  ∃ before key, d.Stops client before key ∧
    (FilledBy d.resource.type before name ∨ d.resource.type.slot? key = some name)

end Deed

/-- A deed met one condition, and every deed since meets the other. -/
def Since (A C : Deed → Prop) (deeds : List Deed) : Prop :=
  ∃ before d after, deeds = before ++ d :: after ∧ A d ∧ ∀ e ∈ after, C e

namespace Since
variable {A C D : Deed → Prop} {deeds : List Deed} {d : Deed}

theorem mono (h : Since A C deeds) (hCD : ∀ d, C d → D d) : Since A D deeds := by
  obtain ⟨before, d, after, hsplit, hd, hafter⟩ := h
  exact ⟨before, d, after, hsplit, hd, fun e he => hCD e (hafter e he)⟩

theorem not_nil : ¬ Since A C [] := by
  intro h
  obtain ⟨before, _, _, hsplit, -⟩ := h
  cases before <;> cases hsplit

theorem append_iff : Since A C (deeds ++ [d]) ↔ A d ∨ C d ∧ Since A C deeds := by
  constructor
  · intro h
    obtain ⟨before, e, after, hsplit, he, hafter⟩ := h
    rcases List.eq_nil_or_concat' after with rfl | ⟨after, last, rfl⟩
    · obtain ⟨-, hd⟩ := List.append_inj' hsplit rfl
      cases hd
      exact .inl he
    · rw [← List.cons_append, ← List.append_assoc] at hsplit
      obtain ⟨rfl, hd⟩ := List.append_inj' hsplit rfl
      cases hd
      refine .inr ⟨hafter d (by simp), before, e, after, rfl, he, fun e he => ?_⟩
      exact hafter e (List.mem_append_left _ he)
  · intro h
    rcases h with hd | ⟨hd, before, e, after, rfl, he, hafter⟩
    · exact ⟨deeds, d, [], rfl, hd, fun e he => by cases he⟩
    · refine ⟨before, e, after ++ [d], by simp, he, fun e he => ?_⟩
      rcases List.mem_append.mp he with he | he
      · exact hafter e he
      · exact List.mem_singleton.mp he ▸ hd

end Since

/-! ## One deed -/

namespace Deed
variable {d : Deed}

section Source
variable {payload : Json} {w : World}
  (hsource : d.action.source? client d.resource d.world = some (payload, w))
include hsource

theorem completes_of_source {payload' : Json} (h : d.Completes client payload') :
    payload' = payload ∧ (populate client payload (d.resource, w)).1 = .ok () := by
  obtain ⟨w', hsource', hok⟩ := h
  cases hsource.symm.trans hsource'
  exact ⟨rfl, hok⟩

theorem not_forgets_of_source : ¬ d.Forgets client := by
  intro h
  rcases h with ⟨haction, -⟩ | haction <;>
  · rw [haction] at hsource
    cases hsource

theorem clears_of_source :
    d.Clears client ↔ (populate client payload (d.resource, w)).1 = .ok () := by
  constructor
  · intro h
    obtain ⟨payload', h⟩ | ⟨haction, -⟩ | h := h
    · exact (completes_of_source hsource h).2
    · rw [haction] at hsource
      cases hsource
    · exact absurd h (not_forgets_of_source hsource)
  · exact fun h => .inl ⟨payload, w, hsource, h⟩

theorem not_sets_of_source : ¬ d.Sets name value := by
  intro h
  rw [h.1] at hsource
  cases hsource

end Source

theorem not_completes (hsource : d.action.source? client d.resource d.world = none) {payload : Json} :
    ¬ d.Completes client payload := by
  intro h
  obtain ⟨w, hsource', -⟩ := h
  cases hsource.symm.trans hsource'

theorem not_forgets (hdelete : d.action = .delete → (delete client (d.resource, d.world)).1 ≠ .ok true)
    (hinvalidate : d.action ≠ .invalidate) : ¬ d.Forgets client := by
  intro h
  rcases h with ⟨haction, hok⟩ | haction
  · exact hdelete haction hok
  · exact hinvalidate haction

theorem not_clears (hsource : d.action.source? client d.resource d.world = none)
    (hsave : d.action = .save → (save client (d.resource, d.world)).1 ≠ .ok true)
    (hdelete : d.action = .delete → (delete client (d.resource, d.world)).1 ≠ .ok true)
    (hinvalidate : d.action ≠ .invalidate) : ¬ d.Clears client := by
  intro h
  obtain ⟨payload, h⟩ | ⟨haction, hok⟩ | h := h
  · exact not_completes hsource h
  · exact hsave haction hok
  · exact not_forgets hdelete hinvalidate h

inductive Outcome (client : Client) (d : Deed) : Resource → Prop
  | cleared {s : Resource} (h : d.Clears client) (hset : ∀ name value, ¬ d.Sets name value)
      (hchanged : s.changed = []) : Outcome client d s
  | edited {name : String} {value : FieldValue} (h : d.Sets name value)
      (hclears : ¬ d.Clears client) :
      Outcome client d
        { d.resource.put name value with changed := addName name d.resource.changed }
  | kept {s : Resource} (hclears : ¬ d.Clears client) (hset : ∀ name value, ¬ d.Sets name value)
      (hchanged : s.changed = d.resource.changed)
      (hpeek : ∀ name, ¬ d.Overwrites client name → s.peek name = d.resource.peek name) :
      Outcome client d s

theorem populate_changed {payload : Json} {w' : World}
    (h : populate client payload (r, w) = (.ok (), s, w')) : s.changed = [] := by
  obtain ⟨_, _, _, -, -, rfl, -⟩ := populate_eq_ok.mp h
  rfl

theorem outcome (hregistry : client.registry.Sound) (hr : Registered client.registry d.resource)
    (h : Effect client d.resource d.world d.action s) : d.Outcome client s := by
  obtain ⟨action, r, w⟩ := d
  cases h with
  | filled hsource h =>
    refine .cleared ((clears_of_source hsource).mpr (by rw [h])) (fun _ _ => ?_) (populate_changed h)
    exact not_sets_of_source hsource
  | stopped hsource h =>
    have hclears : ¬ Clears client ⟨action, r, w⟩ := by
      rw [clears_of_source hsource, h]
      intro hok
      cases hok
    have hset : ∀ name value, ¬ Sets ⟨action, r, w⟩ name value :=
      fun _ _ => not_sets_of_source hsource
    rcases populate_stops hregistry hr h with
      rfl | ⟨before, key, slot, m, log, hstops, hslot, -, hm, rfl⟩
    · exact .kept hclears hset rfl fun _ _ => rfl
    · have hframe := (fillFields_frame before r _).of_eq hm
      refine .kept hclears hset hframe.changed fun name hquiet => ?_
      have hname : name ≠ slot := by
        intro hname
        exact hquiet (.inr ⟨before, key, ⟨_, _, hsource, hstops⟩, .inr (hname ▸ hslot)⟩)
      refine (peek_remove_of_ne m hname).trans (hframe.kept name fun hfilled => ?_)
      exact hquiet (.inr ⟨before, key, ⟨_, _, hsource, hstops⟩, .inl hfilled⟩)
  | edited haction h =>
    subst haction
    obtain ⟨p, -, -, rfl⟩ := set_eq_ok h
    exact .edited ⟨rfl, _, h⟩ (not_clears rfl (by simp) (by simp) (by simp))
  | @listed field p child children w₁ haction hp hlink hlist =>
    subst haction
    have hclears : ¬ Clears client ⟨.get field, r, w⟩ :=
      not_clears (source?_of_derived hp hlink) (by simp) (by simp) (by simp)
    refine .kept hclears (fun _ _ h => by cases h.1) rfl fun name hquiet => ?_
    refine peek_put_of_ne r _ fun hname => ?_
    subst hname
    exact hquiet (.inl ⟨_, _, _, _, rfl, hp, hlink, hlist⟩)
  | saved haction h =>
    exact .cleared (.inr (.inl ⟨haction, h⟩)) (fun _ _ hset => by cases haction.symm.trans hset.1) rfl
  | deleted haction h =>
    refine .cleared (.inr (.inr (.inl ⟨haction, h⟩))) (fun _ _ hset => ?_) rfl
    cases haction.symm.trans hset.1
  | invalidated haction =>
    exact .cleared (.inr (.inr (.inr haction))) (fun _ _ hset => by cases haction.symm.trans hset.1) rfl
  | unchanged hsource hset hsave hdelete hinvalidate =>
    refine .kept (not_clears hsource hsave hdelete hinvalidate) (fun name value h => ?_) rfl
      fun _ _ => rfl
    obtain ⟨haction, s, hok⟩ := h
    exact hset name value s haction hok

end Deed

/-! ## Courses -/

section Courses
variable {deeds : List Deed}

theorem Course.registered (hregistry : client.registry.Sound)
    (hr : Registered client.registry r) (h : Course client r deeds s) :
    s.type = r.type ∧ Registered client.registry s := by
  induction h with
  | start => exact ⟨rfl, hr⟩
  | @performed deeds s action w _ ih =>
    have hsound := ih.2.sound hregistry
    have hchange := Action.perform_change client action s w
    have htype := (Change.sameIdentity hsound hchange).type
    obtain ⟨key, hkey⟩ := ih.2
    exact ⟨htype.trans ih.1, key, by rw [htype, hkey]⟩

theorem Course.induct {P : List Deed → Resource → Prop} (hregistry : client.registry.Sound)
    (hr : Registered client.registry r) (hstart : P [] r)
    (hstep : ∀ deeds d s, d.resource.type = r.type → Registered client.registry d.resource →
      P deeds d.resource → Effect client d.resource d.world d.action s → P (deeds ++ [d]) s)
    (h : Course client r deeds s) : P deeds s := by
  induction h with
  | start => exact hstart
  | @performed deeds s action w h ih =>
    obtain ⟨htype, hregistered⟩ := h.registered hregistry hr
    exact hstep deeds ⟨action, s, w⟩ _ htype hregistered ih (Action.perform_effect client action s w)

theorem Course.mem_changed_iff (hregistry : client.registry.Sound)
    (hr : Registered client.registry r) (hnone : r.changed = []) (h : Course client r deeds s) :
    name ∈ s.changed ↔ ∃ value, Since (·.Sets name value) (fun e => ¬ e.Clears client) deeds := by
  refine h.induct (P := fun deeds s => name ∈ s.changed ↔
    ∃ value, Since (·.Sets name value) (fun e => ¬ e.Clears client) deeds) hregistry hr ?_ ?_
  · simp [hnone, Since.not_nil]
  · intro deeds d s _ hregistered ih heffect
    simp only [Since.append_iff]
    cases Deed.outcome hregistry hregistered heffect with
    | cleared hclears hset hchanged => simp [hchanged, hclears, hset]
    | @edited field value hset hclears =>
      have hfield : (∃ value', d.Sets name value') ↔ name = field := by
        constructor
        · intro h
          obtain ⟨value', hset'⟩ := h
          cases hset.1.symm.trans hset'.1
          rfl
        · intro h
          subst h
          exact ⟨value, hset⟩
      simp [mem_addName, exists_or, hfield, hclears, ih]
    | kept hclears hset hchanged _ => simp [hchanged, hclears, hset, ih]

theorem Course.mutable (hregistry : client.registry.Sound) (hr : Registered client.registry r)
    (hnone : r.changed = []) (h : Course client r deeds s) (hname : name ∈ s.changed) :
    ∃ p, r.type.property? name = some p ∧ p.mutable = true := by
  refine h.induct (P := fun _ s => ∀ name ∈ s.changed, ∃ p, r.type.property? name = some p ∧
    p.mutable = true) hregistry hr ?_ ?_ name hname
  · rw [hnone]
    intro name h
    cases h
  · intro deeds d s htype hregistered ih heffect name hname
    cases Deed.outcome hregistry hregistered heffect with
    | cleared _ _ hchanged =>
      rw [hchanged] at hname
      cases hname
    | edited hset =>
      rcases mem_addName.mp hname with rfl | hname
      · obtain ⟨-, t, hset⟩ := hset
        obtain ⟨p, hp, hmutable, -⟩ := set_eq_ok hset
        exact ⟨p, htype ▸ hp, hmutable⟩
      · exact ih name hname
    | kept _ _ hchanged _ =>
      rw [hchanged] at hname
      exact ih name hname

def Deed.Spares (client : Client) (name : String) (d : Deed) : Prop :=
  ¬ d.Clears client ∧ (∀ value, ¬ d.Sets name value) ∧ ¬ d.Overwrites client name

theorem Course.peek_eq (hregistry : client.registry.Sound) (hr : Registered client.registry r)
    (h : Course client r deeds s) (hset : Since (·.Sets name value) (Deed.Spares client name) deeds) :
    s.peek name = value := by
  refine h.induct (P := fun deeds s => Since (·.Sets name value) (Deed.Spares client name) deeds →
    s.peek name = value) hregistry hr ?_ ?_ hset
  · exact fun h => absurd h Since.not_nil
  · intro deeds d s _ hregistered ih heffect hset
    have houtcome := Deed.outcome hregistry hregistered heffect
    rcases Since.append_iff.mp hset with hset | ⟨⟨hclears, hother, hspared⟩, hset⟩
    · cases houtcome with
      | cleared _ hnot => exact absurd hset (hnot _ _)
      | edited hset' =>
        cases hset.1.symm.trans hset'.1
        exact peek_put_self _ _ _
      | kept _ hnot => exact absurd hset (hnot _ _)
    · cases houtcome with
      | cleared h => exact absurd h hclears
      | @edited field value' hset' =>
        refine (peek_put_of_ne d.resource value' fun hname => ?_).trans (ih hset)
        subst hname
        exact hother value' hset'
      | kept _ _ _ hpeek => exact (hpeek name hspared).trans (ih hset)

end Courses

/-! ## The changed names -/

theorem unchanged_initial (registry : Registry) : Initial registry fun r => r.changed = [] := by
  refine ⟨fun _ h => by rw [handle_eq h]; rfl, ?_⟩
  intro key type id parent? r now payload log log' _ h
  obtain ⟨s, -, hfill⟩ := ofPayload_eq_ok.mp h
  obtain ⟨_, _, -, -, rfl⟩ := fill_eq_ok.mp hfill
  rfl

/-- The changed names and the values behind them, after any course of operations. -/
theorem changed_since {sources : List String}
    (h : Registry.ofSources sources = .ok client.registry) :
    (∀ r, Obtained client r → r.changed = []) ∧
    ∀ r deeds s, Reachable client r → r.changed = [] → Course client r deeds s →
      (∀ name, name ∈ s.changed ↔
        ∃ value, Since (·.Sets name value) (fun d => ¬ d.Clears client) deeds) ∧
      (∀ name ∈ s.changed, ∃ p, r.type.property? name = some p ∧ p.mutable = true) ∧
      ∀ name value, Since (·.Sets name value) (Deed.Spares client name) deeds →
        s.peek name = value ∧
        ∀ p, r.type.property? name = some p → isSent p value = true →
          s.updateBody.get? name = some value.toJson := by
  have hregistry := Registry.ofSources_sound h
  refine ⟨fun r hr => hr.initial (unchanged_initial _) hregistry,
    fun r deeds s hr hnone hcourse => ?_⟩
  have hregistered := hr.registered hregistry
  refine ⟨fun name => hcourse.mem_changed_iff hregistry hregistered hnone,
    fun name => hcourse.mutable hregistry hregistered hnone, fun name value hset => ?_⟩
  have hpeek := hcourse.peek_eq hregistry hregistered hset
  refine ⟨hpeek, fun p hp hsent => ?_⟩
  have hname := (hcourse.mem_changed_iff hregistry hregistered hnone).mpr
    ⟨value, hset.mono fun _ hd => hd.1⟩
  obtain ⟨q, hq, hmutable⟩ := hcourse.mutable hregistry hregistered hnone hname
  cases hp.symm.trans hq
  rw [← (hcourse.registered hregistry hregistered).1] at hp
  rw [get?_updateBody hp hmutable (by rwa [hpeek]), hpeek]

def peerless : Json := .obj [("peer_id", .obj [])]

def labelDeeds : List Deed :=
  [⟨.set "label" (.scalar (.str "web")), node, offline⟩, ⟨.populate peerless, editedNode, offline⟩]

theorem populate_peerless : populate (clientOf .nodeRegistry) peerless (editedNode, offline) =
    (.error (.unexpectedResponse "Node reference has no 'id'" (.obj [])),
      editedNode.remove "peer", offline) := rfl

theorem labelDeeds_course :
    Course (clientOf .nodeRegistry) node labelDeeds (editedNode.remove "peer") := by
  have hfirst : Course (clientOf .nodeRegistry) node
      [⟨.set "label" (.scalar (.str "web")), node, offline⟩] editedNode := .performed .start
  have hstate : ((Action.populate peerless).perform (clientOf .nodeRegistry)
      (editedNode, offline)).2.1 = editedNode.remove "peer" := by
    change (populate _ _ _).2.1 = _
    rw [populate_peerless]
  rw [← hstate]
  exact .performed hfirst

/-- The population that stops at the peer leaves the label in the update. -/
theorem changed_since_label :
    Registry.ofSources [Registry.nodeSource] = .ok (clientOf .nodeRegistry).registry ∧
      Course (clientOf .nodeRegistry) node labelDeeds (editedNode.remove "peer") ∧
      "label" ∈ (editedNode.remove "peer").changed ∧
      (editedNode.remove "peer").updateBody.get? "label" = some (.str "web") := by
  have haccepted : Registry.ofSources [Registry.nodeSource] =
      .ok (clientOf .nodeRegistry).registry := Registry.nodeSource_accepted
  have hspares : Deed.Spares (clientOf .nodeRegistry) "label"
      ⟨.populate peerless, editedNode, offline⟩ := by
    refine ⟨?_, ?_, ?_⟩
    · rw [Deed.clears_of_source rfl, populate_peerless]
      intro hok
      cases hok
    · intro value h
      cases h.1
    · intro h
      obtain ⟨_, _, _, _, haction, -⟩ | ⟨before, key, ⟨_, _, hsource, hstops⟩, hwritten⟩ := h
      · cases haction
      · cases hsource
        obtain ⟨value, after, hsplit, -, -⟩ := hstops
        have hentries : [("peer_id", Json.obj [])] = before ++ (key, value) :: after :=
          Json.obj.inj hsplit
        cases before with
        | cons entry rest => simp at hentries
        | nil =>
          obtain ⟨hentry, -⟩ := List.cons.inj hentries
          cases hentry
          rcases hwritten with ⟨_, hnone, -⟩ | hslot
          · cases hnone
          · exact absurd hslot (by decide +kernel)
  have hset : Since (·.Sets "label" (.scalar (.str "web")))
      (Deed.Spares (clientOf .nodeRegistry) "label") labelDeeds :=
    ⟨[], _, _, rfl, ⟨rfl, editedNode, rfl⟩, List.forall_mem_singleton.mpr hspares⟩
  obtain ⟨-, hcourses⟩ := changed_since haccepted
  obtain ⟨hchanged, -, hvalues⟩ := hcourses node _ _ node_reachable rfl labelDeeds_course
  obtain ⟨-, hbody⟩ := hvalues "label" _ hset
  exact ⟨haccepted, labelDeeds_course, (hchanged "label").mpr ⟨_, hset.mono fun _ hd => hd.1⟩,
    hbody _ rfl rfl⟩

/-! ## An edit that a failed population replaces -/

def ChangesKept (client : Client) : Prop :=
  ∀ r deeds s name value, Obtained client r → Course client r deeds s →
    Since (·.Sets name value) (fun d => ¬ d.Clears client ∧ ∀ v, ¬ d.Sets name v) deeds →
    s.peek name = value

def relabeling : Json := .obj [("label", .str "api"), ("peer_id", .obj [])]

theorem populate_relabeling :
    populate (clientOf .nodeRegistry) relabeling (editedNode, offline) =
      (.error (.unexpectedResponse "Node reference has no 'id'" (.obj [])),
        (editedNode.put "label" (.scalar (.str "api"))).remove "peer", offline) := rfl

/-- A population fills the label and stops at the peer, and the label is still among the changed
names. -/
theorem not_changesKept :
    Registry.ofSources [Registry.nodeSource] = .ok (clientOf .nodeRegistry).registry ∧
      ¬ ChangesKept (clientOf .nodeRegistry) := by
  refine ⟨Registry.nodeSource_accepted, fun h => ?_⟩
  have hconstruct : (clientOf .nodeRegistry).construct "node" (.int 1) none none offline =
      (.ok node, offline) := rfl
  have hset : Course (clientOf .nodeRegistry) node
      [⟨.set "label" (.scalar (.str "web")), node, offline⟩] editedNode := .performed .start
  have hspared : ∀ d ∈ [Deed.mk (.populate relabeling) editedNode offline],
      ¬ d.Clears (clientOf .nodeRegistry) ∧ ∀ value, ¬ d.Sets "label" value := by
    refine List.forall_mem_singleton.mpr ⟨?_, ?_⟩
    · rw [Deed.clears_of_source rfl, populate_relabeling]
      intro hok
      cases hok
    · intro value h
      cases h.1
  have hkept := h node _ _ "label" (.scalar (.str "web")) (.constructed hconstruct)
    (.performed hset) ⟨[], _, _, rfl, ⟨rfl, editedNode, rfl⟩, hspared⟩
  change (populate _ relabeling _).2.1.peek "label" = _ at hkept
  rw [populate_relabeling] at hkept
  have hlabel : "api" = "web" := Json.str.inj (FieldValue.scalar.inj hkept)
  exact absurd hlabel (by decide)

end CloudClient.Resource
