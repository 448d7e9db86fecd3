import CloudClient.Proofs.Resource.Atomicity
import CloudClient.Proofs.Resource.Fetching

/-!
# What one operation does

The state before an operation tells whether it fills the resource and from which payload. `Effect`
says all that an operation can do to the resource, each case with what decides it: it fills the
resource to the end or stops at an entry, edits or lists one field, saves or forgets, or changes
nothing.
-/

namespace CloudClient.Resource
variable {client : Client} {r s : Resource} {w w' : World}

/-! ## Filling -/

def answer? (client : Client) (r : Resource) (w : World) : Option (Json × World) :=
  match r.endpoint with
  | .error _ => none
  | .ok path =>
    match client.get path none w with
    | (.ok answer, w') => some (answer, w')
    | (.error _, _) => none

def Action.source? (client : Client) (r : Resource) (w : World) : Action → Option (Json × World)
  | .populate payload => some (payload, w)
  | .refresh => answer? client r w
  | .get name =>
    match r.describe name with
    | .error _ => none
    | .ok p =>
      if p.identifier || p.link.isDerived || !r.needsFetch name p client.refreshSeconds w.now then none
      else answer? client r w
  | _ => none

/-- The entries before the one at which a payload stops filling the resource. -/
def StopsAt (client : Client) (r : Resource) (w : World) (payload : Json)
    (before : List (String × Json)) (key : String) : Prop :=
  ∃ value after, payload = .obj (before ++ (key, value) :: after) ∧
    (populate client (.obj before) (r, w)).1 = .ok () ∧
    (populate client (.obj (before ++ [(key, value)])) (r, w)).1 ≠ .ok ()

theorem source?_of_derived {name child : String} {p : Property} (hp : r.describe name = .ok p)
    (hlink : p.link = .derived child) : Action.source? client r w (.get name) = none := by
  simp only [Action.source?, hp, hlink, Link.isDerived, Bool.or_true, Bool.true_or, if_true]

theorem refresh_of_answer {payload : Json} {w₁ : World} (h : answer? client r w = some (payload, w₁)) :
    refresh client (r, w) = populate client payload (r, w₁) := by
  unfold answer? at h
  change (Step.ofExcept r.endpoint >>= fun path => Step.second (client.get path none) >>=
    populate client) (r, w) = _
  split at h
  · cases h
  · rename_i path hpath
    rw [hpath, Step.bind_of_ok (Step.ofExcept_apply _ _)]
    split at h
    · rename_i hget
      cases h
      rw [Step.bind_of_ok (by rw [Step.second_apply, hget])]
    · cases h

theorem refresh_unanswered (h : answer? client r w = none) :
    ∃ e w₁, refresh client (r, w) = (.error e, r, w₁) := by
  unfold answer? at h
  change ∃ e w₁, (Step.ofExcept r.endpoint >>= fun path => Step.second (client.get path none) >>=
    populate client) (r, w) = _
  split at h
  · rename_i e hpath
    rw [hpath]
    exact ⟨e, w, rfl⟩
  · rename_i path hpath
    rw [hpath, Step.bind_of_ok (Step.ofExcept_apply _ _)]
    split at h
    · cases h
    · rename_i e w₁ hget
      rw [Step.bind_of_error (by rw [Step.second_apply, hget])]
      exact ⟨e, w₁, rfl⟩

theorem populate_eq_ok {payload : Json} :
    populate client payload (r, w) = (.ok (), s, w') ↔
      ∃ fields m log, payload = .obj fields ∧
        fillFields client.registry w.now fields (r, w.log) = (.ok (), m, log) ∧
        s = m.populatedFrom w.now payload ∧ w' = { w with log } := by
  simp only [populate_eq, fill_eq_ok]
  constructor
  · intro h
    obtain ⟨log, ⟨fields, m, hobj, hfields, hs⟩, hw⟩ := h
    exact ⟨fields, m, log, hobj, hfields, hs, hw⟩
  · intro h
    obtain ⟨fields, m, log, hobj, hfields, hs, hw⟩ := h
    exact ⟨log, ⟨fields, m, hobj, hfields, hs⟩, hw⟩

/-- A population that fails has filled what the entries before one of a relation fill, has dropped
what that relation held, and has changed nothing else. -/
theorem populate_stops (hregistry : client.registry.Sound) (hr : Registered client.registry r)
    {payload : Json} {e : Error} (h : populate client payload (r, w) = (.error e, s, w')) :
    s = r ∨ ∃ before key slot m log, StopsAt client r w payload before key ∧
      r.type.slot? key = some slot ∧ r.type.Fills key slot ∧
      fillFields client.registry w.now before (r, w.log) = (.ok (), m, log) ∧ s = m.remove slot := by
  obtain ⟨log, hfill, -⟩ := populate_eq.mp h
  cases payload with
  | obj fields =>
    refine .inr ?_
    rw [fill_obj] at hfill
    rcases Step.bind_eq_error.mp hfill with hfields | ⟨_, t, -, hmark⟩
    · obtain ⟨before, key, value, after, slot, m, log₁, rfl, hbefore, hentry, hslot, hfills, -, hs⟩ :=
        fillFields_stops hregistry hr hfields
      refine ⟨before, key, slot, m, log₁, ⟨value, after, rfl, ?_, ?_⟩, hslot, hfills, hbefore, hs⟩
      · rw [populate_eq_ok.mpr ⟨before, m, log₁, rfl, hbefore, rfl, rfl⟩]
      · intro hok
        generalize hpopulate : populate client (.obj (before ++ [(key, value)])) (r, w) = outcome
          at hok
        obtain ⟨_, t, w₂⟩ := outcome
        cases hok
        obtain ⟨_, m', log₂, hobj, hall, -⟩ := populate_eq_ok.mp hpopulate
        cases hobj
        rw [fillFields_append, Step.bind_of_ok hbefore, fillFields_cons,
          Step.bind_of_error hentry] at hall
        cases hall
    · cases hmark
  | _ =>
    cases hfill
    exact .inl rfl

/-! ## Operations -/

inductive Effect (client : Client) (r : Resource) (w : World) (action : Action) : Resource → Prop
  | filled {payload : Json} {s : Resource} {w₁ w₂ : World}
      (hsource : action.source? client r w = some (payload, w₁))
      (h : populate client payload (r, w₁) = (.ok (), s, w₂)) : Effect client r w action s
  | stopped {payload : Json} {e : Error} {s : Resource} {w₁ w₂ : World}
      (hsource : action.source? client r w = some (payload, w₁))
      (h : populate client payload (r, w₁) = (.error e, s, w₂)) : Effect client r w action s
  | edited {name : String} {value : FieldValue} {s : Resource} (haction : action = .set name value)
      (h : r.set name value = .ok s) : Effect client r w action s
  | listed {name : String} {p : Property} {child : String} {children : List Resource} {w₁ : World}
      (haction : action = .get name) (hp : r.describe name = .ok p) (hlink : p.link = .derived child)
      (hlist : client.listAll child (some r.childKey) w = (.ok children, w₁)) :
      Effect client r w action (r.put name (.resources children))
  | saved (haction : action = .save) (h : (save client (r, w)).1 = .ok true) :
      Effect client r w action r.saved
  | deleted (haction : action = .delete) (h : (delete client (r, w)).1 = .ok true) :
      Effect client r w action r.invalidate
  | invalidated (haction : action = .invalidate) : Effect client r w action r.invalidate
  | unchanged (hsource : action.source? client r w = none)
      (hset : ∀ name value s, action = .set name value → r.set name value ≠ .ok s)
      (hsave : action = .save → (save client (r, w)).1 ≠ .ok true)
      (hdelete : action = .delete → (delete client (r, w)).1 ≠ .ok true)
      (hinvalidate : action ≠ .invalidate) : Effect client r w action r

theorem populate_effect {action : Action} {payload : Json} {w₁ : World}
    (hsource : action.source? client r w = some (payload, w₁)) :
    Effect client r w action (populate client payload (r, w₁)).2.1 := by
  generalize h : populate client payload (r, w₁) = outcome
  obtain ⟨result, s, w₂⟩ := outcome
  cases result with
  | ok _ => exact .filled hsource h
  | error e => exact .stopped hsource h

theorem state_of_bind {α β : Type} (x : Remote α) {f : α → Remote β} (hf : ∀ a t, (f a t).2 = t)
    (t : Resource × World) : ((x >>= f) t).2 = (x t).2 := by
  rw [Step.bind_apply]
  rcases x t with ⟨_ | a, u⟩
  · rfl
  · exact hf a u

theorem refresh_effect {action : Action} (hsource : action.source? client r w = answer? client r w)
    (hquiet : (∃ name, action = .get name) ∨ action = .refresh) :
    Effect client r w action (refresh client (r, w)).2.1 := by
  cases hanswer : answer? client r w with
  | some found =>
    obtain ⟨payload, w₁⟩ := found
    rw [refresh_of_answer hanswer]
    exact populate_effect (hsource.trans hanswer)
  | none =>
    obtain ⟨e, w₁, hrefresh⟩ := refresh_unanswered hanswer
    rw [hrefresh]
    rcases hquiet with ⟨name, rfl⟩ | rfl <;>
      exact .unchanged (hsource.trans hanswer) nofun nofun nofun nofun

theorem get_effect (client : Client) (name : String) (r : Resource) (w : World) :
    Effect client r w (.get name) (get client name (r, w)).2.1 := by
  cases hp : r.describe name with
  | error e =>
    rw [get_undeclared hp]
    exact .unchanged (by simp only [Action.source?, hp]) nofun nofun nofun nofun
  | ok p =>
    have hsource : Action.source? client r w (.get name) =
        if p.identifier || p.link.isDerived || !r.needsFetch name p client.refreshSeconds w.now then
          none
        else answer? client r w := by simp only [Action.source?, hp]
    cases hid : p.identifier with
    | true =>
      rw [get_identifier hp hid]
      exact .unchanged (by rw [hsource, hid]; rfl) nofun nofun nofun nofun
    | false =>
      cases hlink : p.link.isDerived with
      | true =>
        have hnone : Action.source? client r w (.get name) = none := by rw [hsource, hid, hlink]; rfl
        have hquiet : Effect client r w (.get name) r := .unchanged hnone nofun nofun nofun nofun
        have hread := get_read client name r w
        unfold Step.Yields at hread
        generalize (get client name (r, w)).1 = result at hread
        generalize (get client name (r, w)).2 = t at hread ⊢
        cases hread with
        | refused => exact hquiet
        | known => exact hquiet
        | listed hp _ hlink hlist => exact .listed rfl hp hlink hlist
        | fetched hp' _ hlink' =>
          cases hp.symm.trans hp'
          cases hlink.symm.trans hlink'
      | false =>
        rw [get_plain hp hid hlink]
        cases hneeds : r.needsFetch name p client.refreshSeconds w.now with
        | true =>
          rw [if_pos rfl, state_of_bind _ fun _ _ => rfl]
          exact refresh_effect (by rw [hsource, hid, hlink, hneeds]; rfl) (.inl ⟨name, rfl⟩)
        | false =>
          exact .unchanged (by rw [hsource, hid, hlink, hneeds]; rfl) nofun nofun nofun nofun

theorem Action.perform_effect (client : Client) (action : Action) (r : Resource) (w : World) :
    Effect client r w action (action.perform client (r, w)).2.1 := by
  cases action with
  | set name value =>
    unfold perform
    cases h : r.set name value with
    | error e =>
      simp only [h]
      refine .unchanged rfl (fun name' value' s haction => ?_) nofun nofun nofun
      cases haction
      rw [h]
      exact nofun
    | ok s =>
      simp only [h]
      exact .edited rfl h
  | get name =>
    unfold perform
    rw [state_of_bind _ fun _ _ => rfl]
    exact get_effect client name r w
  | refresh => exact refresh_effect rfl (.inr rfl)
  | populate payload => exact populate_effect rfl
  | save =>
    unfold perform
    rw [state_of_bind _ fun _ _ => rfl]
    rcases save_agreed client r w with ⟨hs, hresult⟩ | ⟨hs, hresult⟩
    · rw [hs]
      exact .unchanged rfl nofun (fun _ => hresult) nofun nofun
    · rw [hs]
      exact .saved rfl hresult
  | delete =>
    unfold perform
    rw [state_of_bind _ fun _ _ => rfl]
    rcases delete_agreed client r w with ⟨hs, hresult⟩ | ⟨hs, hresult⟩
    · rw [hs]
      exact .unchanged rfl nofun nofun (fun _ => hresult) nofun
    · rw [hs]
      exact .deleted rfl hresult
  | invalidate => exact .invalidated rfl

end CloudClient.Resource
