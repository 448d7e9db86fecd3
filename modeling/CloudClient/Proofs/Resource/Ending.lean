import CloudClient.Proofs.Listing.Ending
import CloudClient.Proofs.Resource.Closure
import CloudClient.Proofs.Resource.Requests

/-!
# Failed exchanges of a resource

Refreshing, saving and deleting ask the server once, and reading asks what refreshing asks, the pages
of a list of children, or nothing. The first exchange that fails ends all of this and leaves the
resource as it was. The answer to saving and deleting decides what they return and what they change.
-/

namespace CloudClient
open Step (Asks AsksOnce Ends Silent)

def Operation.addressed (client : Client) (r : Resource) (o : Operation) : Except Error Request :=
  (r.address client).map (o.request client r)

namespace Resource
variable {client : Client} {α β : Type} {r : Resource} {w : World} {name : String} {p : Property}

/-! ## Operations -/

/-- What a failed exchange does to an operation on a resource: no other request follows it, the
operation fails with its error, and the resource is as it was. -/
structure EndsUnchanged (x : Remote α) (r : Resource) (w : World) : Prop where
  arrived : Step.Arrived x r w
  alike : (x (r, w.recording)).1 = (x (r, w)).1 ∧ (x (r, w.recording)).2.1 = (x (r, w)).2.1
  last : ∀ before request after e, x.tried r w = before ++ request :: after →
    (w.network (w.sent ++ before) request).Fails request e →
    after = [] ∧ (x (r, w)).1 = .error e ∧ (x (r, w)).2.1 = r

theorem endsUnchanged_of_silent {x : Remote α} (hx : Silent x) (r : Resource) (w : World) :
    EndsUnchanged x r w := by
  have h := hx.ends r w
  refine ⟨h.arrived, ⟨h.result, h.state⟩, fun before request after e hsplit => ?_⟩
  rw [hx.tried_eq_nil] at hsplit
  exact absurd hsplit.symm (by simp)

theorem endsUnchanged_of_second {x : Step World α} {f : α → Remote β}
    (hx : Ends (Step.second x : Remote α)) (hf : ∀ a, Silent (f a)) (r : Resource) (w : World) :
    EndsUnchanged (Step.second x >>= f) r w := by
  have h := hx.bind (fun a => (hf a).ends) r w
  refine ⟨h.arrived, ⟨h.result, h.state⟩, fun before request after e hsplit hfails => ?_⟩
  obtain ⟨herror, hafter⟩ := h.last before request after e hsplit hfails
  refine ⟨hafter, herror, ?_⟩
  have hrun : (Step.second x (r, w)).2.1 = r := rfl
  cases hresult : (Step.second x (r, w)).1 with
  | error e' =>
    rw [Step.bind_of_error (Prod.ext hresult rfl)]
    rfl
  | ok a =>
    -- what follows makes no request, so the exchange that failed would be one that was answered
    obtain ⟨-, -, htried⟩ := (hx r w).run_of_ok hresult ((hf a).ends _ _)
    rw [htried, (hf a).tried_eq_nil, List.append_nil] at hsplit
    cases hresult.symm.trans ((hx r w).last before request after e hsplit hfails).1

theorem EndsUnchanged.of_eq {x y : Remote α} {w' : World} (h : EndsUnchanged y r w')
    (heq : x (r, w) = y (r, w')) (heq' : x (r, w.recording) = y (r, w'.recording))
    (hnetwork : w.network = w'.network) (hsent : w.sent = w'.sent) : EndsUnchanged x r w := by
  have htried : x.tried r w = y.tried r w' := by rw [Step.tried, heq', hsent, Step.tried]
  refine ⟨?_, ?_, ?_⟩
  · rw [Step.Arrived, heq, htried, hnetwork, hsent]
    exact h.arrived
  · rw [heq, heq']
    exact h.alike
  · rw [htried, heq, hnetwork, hsent]
    exact h.last

theorem endsUnchanged_of_silent_eq {x y : Remote α} (hy : Silent y) (heq : x (r, w) = y (r, w))
    (heq' : x (r, w.recording) = y (r, w.recording)) : EndsUnchanged x r w ∧ x.tried r w = [] := by
  refine ⟨(endsUnchanged_of_silent hy r w).of_eq heq heq' rfl rfl, ?_⟩
  rw [Step.tried, heq']
  exact hy.tried_eq_nil r w

theorem populate_silent (client : Client) (payload : Json) : Silent (populate client payload) :=
  fun _ _ => ⟨rfl, rfl, rfl⟩

theorem refresh_eq (client : Client) (r : Resource) (w : World) : refresh client (r, w) =
    (Step.second (Step.ofExcept (Operation.refresh.addressed client r) >>= Exchange.send) >>=
      populate client) (r, w) := by
  change (Step.ofExcept r.endpoint >>= _) (r, w) = _
  rw [Operation.addressed, address]
  cases r.endpoint with
  | error e => rfl
  | ok path =>
    change (Step.second (Step.ofExcept (client.url path) >>= _) >>= _) (r, w) =
      (Step.second (Step.ofExcept ((client.url path).map _) >>= _) >>= _) (r, w)
    cases client.url path <;> rfl

theorem refresh_bind_eq {g : Unit → Remote α} (client : Client) (r : Resource) (w : World) :
    (refresh client >>= g) (r, w) =
      (Step.second (Step.ofExcept (Operation.refresh.addressed client r) >>= Exchange.send) >>=
        fun answer => populate client answer >>= g) (r, w) := by
  rw [← bind_assoc, Step.bind_apply, Step.bind_apply, refresh_eq]

theorem refresh_ends {g : Unit → Remote α} (hg : ∀ u, Silent (g u)) (client : Client) (r : Resource)
    (w : World) : EndsUnchanged (refresh client >>= g) r w ∧
      AsksOnce (refresh client >>= g) (Operation.refresh.addressed client r) r w := by
  have hasked := Exchange.ask_ends (σ := Resource) (Operation.refresh.addressed client r)
  have hrest : ∀ answer, Silent (populate client answer >>= g) :=
    fun answer => (populate_silent client answer).bind hg
  have heq := fun v => refresh_bind_eq (g := g) client r v
  exact ⟨(endsUnchanged_of_second hasked hrest r w).of_eq (heq w) (heq _) rfl rfl,
    ((Exchange.ask_asks _ r w).bind hasked hrest).of_eq (heq w) (heq _) rfl⟩

theorem get_derived_eq {child : String} (hp : r.describe name = .ok p) (hid : p.identifier = false)
    (hlink : p.link = .derived child) (client : Client) (w : World) : get client name (r, w) =
      (Step.second (client.listAll child (some r.childKey)) >>= fun children =>
        Step.modify (fun (r, w) => (r.put name (.resources children), w)) >>= fun _ =>
          Step.read fun (r, _) => r.peek name) (r, w) := by
  unfold get
  change (Step.ofExcept (r.describe name) >>= _) (r, w) = _
  rw [hp, Step.bind_of_ok (Step.ofExcept_apply _ _)]
  simp only [hid, hlink, Bool.false_eq_true, if_false]

/-- What a read asks for: nothing where what is known can tell, what refreshing asks where it cannot,
and all pages of the children where the field lists them. -/
inductive ReadAsks (client : Client) (name : String) (r : Resource) (w : World) : Prop
  | undeclared {e : Error} (hp : r.describe name = .error e)
      (htried : (get client name).tried r w = []) : ReadAsks client name r w
  | known {p : Property} (hp : r.describe name = .ok p)
      (h : p.identifier = true ∨
        p.link.isDerived = false ∧ ¬ r.Due name p client.refreshSeconds w.now)
      (htried : (get client name).tried r w = []) : ReadAsks client name r w
  | due {p : Property} (hp : r.describe name = .ok p) (hid : p.identifier = false)
      (hlink : p.link.isDerived = false) (hdue : r.Due name p client.refreshSeconds w.now)
      (h : AsksOnce (get client name) (Operation.refresh.addressed client r) r w) :
      ReadAsks client name r w
  | listed {p : Property} {child : String} (hp : r.describe name = .ok p)
      (hid : p.identifier = false) (hlink : p.link = .derived child)
      (h : AsksPages (get client name) client child (some r.childKey) r w) :
      ReadAsks client name r w

theorem exists_of_isDerived {link : Link} (h : link.isDerived = true) :
    ∃ child, link = .derived child := by
  cases link with
  | derived child => exact ⟨child, rfl⟩
  | _ => cases h

theorem read_silent (name : String) :
    Silent (Step.read fun t : Resource × World => t.1.peek name) :=
  .read (fun (r : Resource) _ => r.peek name) fun _ _ => rfl

theorem get_listed_ends {child : String} (hp : r.describe name = .ok p)
    (hid : p.identifier = false) (hlink : p.link = .derived child) (client : Client) (w : World) :
    EndsUnchanged (get client name) r w ∧
      AsksPages (get client name) client child (some r.childKey) r w := by
  have hrun := get_derived_eq hp hid hlink client
  have hends := client.listAll_ends (σ := Resource) child (some r.childKey)
  have hrest := fun children => (Silent.modify fun r : Resource =>
    r.put name (.resources children)).bind fun _ => read_silent name
  exact ⟨(endsUnchanged_of_second hends hrest r w).of_eq (hrun _) (hrun _) rfl rfl,
    ((client.listAll_asks child _ r w).bind hends hrest).of_eq (hrun _) (hrun _)⟩

theorem get_due_ends (hp : r.describe name = .ok p) (hid : p.identifier = false)
    (hlink : p.link.isDerived = false) (hdue : r.Due name p client.refreshSeconds w.now) :
    EndsUnchanged (get client name) r w ∧
      AsksOnce (get client name) (Operation.refresh.addressed client r) r w := by
  have hrun : ∀ v : World, v.now = w.now → get client name (r, v) =
      (refresh client >>= fun _ => Step.read fun t => t.1.peek name) (r, v) := by
    intro v hv
    rw [get_plain hp hid hlink, hv, if_pos (needsFetch_iff.mpr hdue)]
  obtain ⟨hends, hasks⟩ := refresh_ends (fun _ => read_silent name) client r w
  exact ⟨hends.of_eq (hrun w rfl) (hrun _ rfl) rfl rfl, hasks.of_eq (hrun w rfl) (hrun _ rfl) rfl⟩

theorem get_ends (client : Client) (name : String) (r : Resource) (w : World) :
    EndsUnchanged (get client name) r w ∧ ReadAsks client name r w := by
  cases hp : r.describe name with
  | error e =>
    have hrun : ∀ v, get client name (r, v) = Step.ofExcept (.error e) (r, v) :=
      fun _ => get_undeclared hp
    obtain ⟨hends, htried⟩ := endsUnchanged_of_silent_eq (.ofExcept (.error e)) (hrun w) (hrun _)
    exact ⟨hends, .undeclared hp htried⟩
  | ok p =>
    cases hid : p.identifier with
    | true =>
      have hrun : ∀ v, get client name (r, v) = (pure (r.peek name) : Remote _) (r, v) :=
        fun _ => get_identifier hp hid
      obtain ⟨hends, htried⟩ := endsUnchanged_of_silent_eq (.pure (r.peek name)) (hrun w) (hrun _)
      exact ⟨hends, .known hp (.inl hid) htried⟩
    | false =>
      cases hlink : p.link.isDerived with
      | true =>
        obtain ⟨child, hchild⟩ := exists_of_isDerived hlink
        obtain ⟨hends, hasks⟩ := get_listed_ends hp hid hchild client w
        exact ⟨hends, .listed hp hid hchild hasks⟩
      | false =>
        by_cases hdue : r.Due name p client.refreshSeconds w.now
        · obtain ⟨hends, hasks⟩ := get_due_ends hp hid hlink hdue
          exact ⟨hends, .due hp hid hlink hdue hasks⟩
        · have hrun : get client name (r, w) = (pure (r.peek name) : Remote _) (r, w) :=
            get_known hp hid hlink hdue
          obtain ⟨hends, htried⟩ := endsUnchanged_of_silent_eq (.pure (r.peek name)) hrun
            (get_known hp hid hlink hdue)
          exact ⟨hends, .known hp (.inr ⟨hlink, hdue⟩) htried⟩

/-! ## Saving and deleting -/

/-- An operation that asks for a change, and what the answer decides: a failure that it reports makes
the operation return false, and only an answer without one changes the resource. -/
structure Confirms (x : Remote Bool) (client : Client) (o : Operation)
    (change : Resource → Resource) (r : Resource) (w : World) : Prop
    extends AsksOnce x (o.addressed client r) r w where
  answered : ∀ q v, o.addressed client r = .ok q → Exchange.fault? q = none →
    (w.network w.sent q).json? = some v → (x (r, w)).1 = .ok (!v.hasErrorMarker)
  confirmed : (x (r, w)).1 = .ok true → (x (r, w)).2.1 = change r
  otherwise : (x (r, w)).1 ≠ .ok true → (x (r, w)).2.1 = r

theorem settle_silent (refusal : String) (change : Resource → Resource) (answer : Json) :
    Silent (settle refusal change answer) := by
  unfold settle
  split
  · exact (Silent.note .warn refusal).bind fun _ => .pure false
  · exact (Silent.modify change).bind fun _ => .pure true

theorem settle_result (refusal : String) (change : Resource → Resource) (answer : Json)
    (t : Resource × World) : (settle refusal change answer t).1 = .ok (!answer.hasErrorMarker) := by
  unfold settle
  cases answer.hasErrorMarker <;> rfl

theorem ask_answered {request? : Except Error Request} {q : Request} {answer : Json} (r : Resource)
    (hq : request? = .ok q) (hfault : Exchange.fault? q = none)
    (hanswer : (w.network w.sent q).json? = some answer) :
    ∃ w', (Step.second (Step.ofExcept request? >>= Exchange.send) : Remote Json) (r, w) =
      (.ok answer, r, w') := by
  obtain ⟨log, hsend⟩ := send_answered hfault hanswer
  exact ⟨_, by rw [Step.second_apply, hq, Step.bind_of_ok (Step.ofExcept_apply _ _), hsend]⟩

section Asking
variable {message refusal : String} {o : Operation} {change : Resource → Resource}

/-- But for a note, asking for a change is sending the request and settling its answer. -/
theorem asking_eq (client : Client) (r : Resource) (message refusal : String) (o : Operation)
    (change : Resource → Resource) : ∃ notes, ∀ w, asking r message refusal
        (fun path => Step.ofExcept (client.url path) >>= fun u => Exchange.send (o.request client r u))
        change (r, w) =
      (Step.second (Step.ofExcept (o.addressed client r) >>= Exchange.send) >>= settle refusal change)
        (r, { w with log := w.log ++ notes }) := by
  unfold asking
  rw [Operation.addressed, address]
  cases r.endpoint with
  | error e => exact ⟨[], fun w => by rw [List.append_nil]; rfl⟩
  | ok path =>
    refine ⟨[⟨.info, message⟩], fun w => ?_⟩
    change (Step.second (Step.ofExcept (client.url path) >>= _) >>= _) _ =
      (Step.second (Step.ofExcept ((client.url path).map _) >>= _) >>= _) _
    cases client.url path <;> rfl

theorem asking_confirms {x : Remote Bool} (hrun : ∀ v, x (r, v) = asking r message refusal
      (fun path => Step.ofExcept (client.url path) >>= fun u => Exchange.send (o.request client r u))
      change (r, v)) : EndsUnchanged x r w ∧ Confirms x client o change r w := by
  obtain ⟨notes, heq⟩ := asking_eq client r message refusal o change
  have hx := fun v => (hrun v).trans (heq v)
  have hends := Exchange.ask_ends (σ := Resource) (o.addressed client r)
  have htail := settle_silent refusal change
  have hasks := ((Exchange.ask_asks _ r _).bind hends htail).of_eq (hx w) (hx _) rfl
  have hagreed : Agreed change r (x (r, w)).1 (x (r, w)).2 := by
    rw [hrun]
    exact asking_agreed _ _ _ change r w
  refine ⟨(endsUnchanged_of_second hends htail r _).of_eq (hx w) (hx _) rfl rfl, hasks,
    fun q v hq hfault hjson => ?_, fun htrue => ?_, fun hfalse => ?_⟩
  · obtain ⟨w', hfirst⟩ := ask_answered (w := { w with log := w.log ++ notes }) r hq hfault hjson
    rw [hx, Step.bind_of_ok hfirst]
    exact settle_result refusal change v _
  · rcases hagreed with ⟨-, hne⟩ | ⟨hs, -⟩
    · exact absurd htrue hne
    · exact hs
  · rcases hagreed with ⟨hs, -⟩ | ⟨-, heq⟩
    · exact hs
    · exact absurd heq hfalse

end Asking

theorem save_confirms (client : Client) (r : Resource) (w : World) :
    EndsUnchanged (save client) r w ∧ Confirms (save client) client .save saved r w :=
  asking_confirms (save_eq client r)

theorem delete_confirms (client : Client) (r : Resource) (w : World) :
    EndsUnchanged (delete client) r w ∧ Confirms (delete client) client .delete invalidate r w :=
  asking_confirms (delete_eq client r)

/-- Each operation makes the exchanges that it should and ends with the first that fails, by its
error and with the resource as it was. Saving and deleting do what the answer to their one exchange
decides, and change the resource only if that reports no failure. -/
theorem exchanges_end (client : Client) (r : Resource) (w : World) :
    (∀ name, EndsUnchanged (get client name) r w ∧ ReadAsks client name r w) ∧
      (EndsUnchanged (refresh client) r w ∧
        AsksOnce (refresh client) (Operation.refresh.addressed client r) r w) ∧
      (EndsUnchanged (save client) r w ∧ Confirms (save client) client .save saved r w) ∧
      (EndsUnchanged (delete client) r w ∧ Confirms (delete client) client .delete invalidate r w) := by
  have hrefresh := refresh_ends (fun u : Unit => Silent.pure u) client r w
  rw [bind_pure] at hrefresh
  exact ⟨fun name => get_ends client name r w, hrefresh, save_confirms client r w,
    delete_confirms client r w⟩

def diskPages : World where
  network := fun earlier _ =>
    if earlier.isEmpty then
      .ofJson (.obj [("data", .arr [.obj [("id", .nat 1)]]), ("pages", .nat 2), ("results", .nat 2)])
    else .answered ⟨503, []⟩

def rejection : Json := .obj [("errors", .arr [.obj [("reason", .str "label taken")]])]

def rejecting : World where
  network := fun _ _ => .ofJson rejection

set_option maxRecDepth 8000 in
/-- Disks of which the second page is refused are not listed in part, and a host whose update is
rejected was asked for once and stays as it was. -/
theorem exchanges_end_host :
    (get (clientOf hostRegistry) "disks" (host, diskPages)).1 = .error (.api (.ofResponse 503 "")) ∧
      (get (clientOf hostRegistry) "disks" (host, diskPages)).2.1 = host ∧
      ((save (clientOf hostRegistry)).tried host rejecting).length = 1 ∧
      (save (clientOf hostRegistry) (host, rejecting)).1 = .ok false ∧
      (save (clientOf hostRegistry) (host, rejecting)).2.1 = host := by
  obtain ⟨hget, -⟩ := exchanges_end (clientOf hostRegistry) host diskPages
  have hcount : ((get (clientOf hostRegistry) "disks").tried host diskPages).length = 2 := by
    decide +kernel
  obtain ⟨first, second, htried⟩ := List.length_eq_two.mp hcount
  have hrefused : (diskPages.network [first] second).Fails second (.api (.ofResponse 503 "")) :=
    .refused rfl
  obtain ⟨-, herror, hhost⟩ := (hget "disks").1.last [first] second [] _ htried hrefused
  obtain ⟨-, -, ⟨-, hsave⟩, -⟩ := exchanges_end (clientOf hostRegistry) host rejecting
  have hsendable : (Operation.save.addressed (clientOf hostRegistry) host).toOption.any
      (fun q => (Exchange.fault? q).isNone) = true := by decide +kernel
  have hread : (Delivery.ofJson rejection).json? = some rejection := by decide +kernel
  cases hq : Operation.save.addressed (clientOf hostRegistry) host with
  | error e =>
    rw [hq] at hsendable
    cases hsendable
  | ok q =>
    rw [hq] at hsendable
    have hfault : Exchange.fault? q = none := Option.isNone_iff_eq_none.mp hsendable
    have hfalse : (save (clientOf hostRegistry) (host, rejecting)).1 = .ok false :=
      hsave.answered q rejection hq hfault hread
    refine ⟨herror, hhost, ?_, hfalse, hsave.otherwise fun htrue => ?_⟩
    · rw [hsave.tried_of_ok hq hfault]
      rfl
    · cases hfalse.symm.trans htrue

end Resource
end CloudClient
