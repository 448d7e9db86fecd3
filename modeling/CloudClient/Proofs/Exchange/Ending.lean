import CloudClient.Proofs.Listing.Call

/-!
# Exchanges that end an operation

An operation may exchange several requests with the server. `Ends` says of one that an exchange
which fails is the last that it makes and is what it fails with. Requests that do not get through
leave nothing in a world, so what an operation tries is read off a run that records these as well
and that is the same otherwise.
-/

namespace CloudClient

/-! ## Failures -/

/-- What an exchange fails with when its delivery brings no JSON. -/
inductive Delivery.Fails (r : Request) : Delivery → Error → Prop
  | undelivered : Fails r .undelivered (.transport (.unanswered r.url.withoutUser.text))
  | dropped : Fails r .dropped (.transport (.unanswered r.url.withoutUser.text))
  | refused {response : Response} (hstatus : Status.isSuccess response.status = false) :
      Fails r (.answered response) (.api (.ofResponse response.status (Exchange.bodyOf response)))
  | unreadable {response : Response} (hstatus : Status.isSuccess response.status = true)
      (hbody : (Exchange.bodyOf response).toList.all Text.isBlank = false)
      (hread : Json.read? (Exchange.bodyOf response) = none) : Fails r (.answered response) .json

theorem Exchange.accept_of_fails {r : Request} {response : Response} {e : Error}
    (h : (Delivery.answered response).Fails r e) (w : World) :
    (accept response.status (bodyOf response) w).1 = .error e := by
  cases h with
  | refused hstatus => simp [accept, hstatus, Step.bind_apply, World.note]
  | unreadable hstatus hbody hread => simp [accept, hstatus, hbody, hread]

/-! ## Requests that do not arrive -/

/-- The same deliveries, but what does not arrive is recorded as if it were dropped. -/
def Network.recording (network : Network) : Network := fun earlier r =>
  match network earlier r with
  | .undelivered => .dropped
  | delivery => delivery

def World.recording (w : World) : World := { w with network := w.network.recording }

/-- The requests that an operation makes, whether or not they arrive. -/
def Step.tried {σ α : Type} (x : Step (σ × World) α) (s : σ) (w : World) : List Request :=
  (x (s, w.recording)).2.2.sent.drop w.sent.length

namespace Step
variable {σ τ α β : Type} {x : Step (σ × World) α} {f : α → Step (σ × World) β} {s : σ} {w : World}

theorem tried_eq {tried : List Request} (h : (x (s, w.recording)).2.2.sent = w.sent ++ tried) :
    x.tried s w = tried := by
  rw [Step.tried, h, List.drop_left]

/-- What has been recorded after a run is what it tried, but for a last request that did not arrive. -/
def Arrived (x : Step (σ × World) α) (s : σ) (w : World) : Prop :=
  (x (s, w)).2.2.sent = w.sent ++ x.tried s w ∨
    ∃ before request, x.tried s w = before ++ [request] ∧
      w.network (w.sent ++ before) request = .undelivered ∧ (x (s, w)).2.2.sent = w.sent ++ before

/-- One run of an operation. It is the same with every request recorded, and an exchange that fails
is its last and what it fails with. -/
structure Ending (x : Step (σ × World) α) (s : σ) (w : World) : Prop where
  network : (x (s, w)).2.2.network = w.network
  result : (x (s, w.recording)).1 = (x (s, w)).1
  state : (x (s, w.recording)).2.1 = (x (s, w)).2.1
  world : ∀ a, (x (s, w)).1 = .ok a → (x (s, w.recording)).2.2 = (x (s, w)).2.2.recording
  sent : (x (s, w.recording)).2.2.sent = w.sent ++ x.tried s w
  arrived : Arrived x s w
  last : ∀ before request after e, x.tried s w = before ++ request :: after →
    (w.network (w.sent ++ before) request).Fails request e → (x (s, w)).1 = .error e ∧ after = []

def Ends (x : Step (σ × World) α) : Prop := ∀ s w, Ending x s w

def Silent (x : Step (σ × World) α) : Prop :=
  ∀ s w, (x (s, w)).2.2.network = w.network ∧ (x (s, w)).2.2.sent = w.sent ∧
    x (s, w.recording) = ((x (s, w)).1, (x (s, w)).2.1, (x (s, w)).2.2.recording)

theorem Silent.tried_eq_nil (h : Silent x) (s : σ) (w : World) : x.tried s w = [] := by
  obtain ⟨-, hsent, hrun⟩ := h s w
  exact tried_eq (by rw [hrun, List.append_nil]; exact hsent)

theorem Silent.ends (h : Silent x) : Ends x := by
  intro s w
  obtain ⟨hnetwork, hsent, hrun⟩ := h s w
  have htried := h.tried_eq_nil s w
  refine ⟨hnetwork, by rw [hrun], by rw [hrun], fun _ _ => by rw [hrun], ?_, .inl ?_, ?_⟩
  · rw [hrun, htried, List.append_nil]
    exact hsent
  · rw [htried, List.append_nil]
    exact hsent
  · intro before request after e hsplit
    rw [htried] at hsplit
    exact absurd hsplit.symm (by simp)

theorem Ending.of_one {r : Request} (hnetwork : (x (s, w)).2.2.network = w.network)
    (hresult : (x (s, w.recording)).1 = (x (s, w)).1)
    (hstate : (x (s, w.recording)).2.1 = (x (s, w)).2.1)
    (hworld : ∀ a, (x (s, w)).1 = .ok a → (x (s, w.recording)).2.2 = (x (s, w)).2.2.recording)
    (hsent : (x (s, w.recording)).2.2.sent = w.sent ++ [r])
    (harrived : (x (s, w)).2.2.sent = w.sent ++ [r] ∨
      w.network w.sent r = .undelivered ∧ (x (s, w)).2.2.sent = w.sent)
    (herror : ∀ e, (w.network w.sent r).Fails r e → (x (s, w)).1 = .error e) : Ending x s w := by
  have htried := tried_eq hsent
  refine ⟨hnetwork, hresult, hstate, hworld, by rw [hsent, htried], ?_, ?_⟩
  · rcases harrived with h | ⟨hlost, h⟩
    · exact .inl (by rw [h, htried])
    · exact .inr ⟨[], r, htried, by rwa [List.append_nil], by rwa [List.append_nil]⟩
  intro before request after e hsplit hfails
  rw [htried] at hsplit
  rcases List.append_eq_cons_iff.mp hsplit.symm with ⟨rfl, hrest⟩ | ⟨_, rfl, hrest⟩
  · obtain ⟨rfl, rfl⟩ := List.cons_eq_cons.mp hrest
    rw [List.append_nil] at hfails
    exact ⟨herror e hfails, rfl⟩
  · simp at hrest

theorem Silent.pure (a : α) : Silent (Pure.pure a : Step (σ × World) α) :=
  fun _ _ => ⟨rfl, rfl, rfl⟩

theorem Silent.ofExcept (result : Except Error α) :
    Silent (Step.ofExcept result : Step (σ × World) α) :=
  fun _ _ => ⟨rfl, rfl, rfl⟩

theorem Silent.read (f : σ → World → α) (h : ∀ s w, f s w.recording = f s w) :
    Silent (Step.read fun t : σ × World => f t.1 t.2) :=
  fun s w => ⟨rfl, rfl, by simp [h]⟩

theorem Silent.modify (f : σ → σ) : Silent (Step.modify fun t : σ × World => (f t.1, t.2)) :=
  fun _ _ => ⟨rfl, rfl, rfl⟩

theorem Silent.second {x : Step World α} (h : ∀ w, (x w).2.network = w.network ∧
    (x w).2.sent = w.sent ∧ x w.recording = ((x w).1, (x w).2.recording)) :
    Silent (Step.second x : Step (σ × World) α) := by
  intro s w
  obtain ⟨hnetwork, hsent, hrun⟩ := h w
  exact ⟨hnetwork, hsent, by rw [second_apply, hrun]; rfl⟩

theorem Silent.bind (hx : Silent x) (hf : ∀ a, Silent (f a)) : Silent (x >>= f) := by
  intro s w
  obtain ⟨hnetwork, hsent, hrun⟩ := hx s w
  cases hresult : (x (s, w)).1 with
  | error e =>
    rw [Step.bind_of_error (Prod.ext hresult rfl), Step.bind_of_error (by rw [hrun, hresult])]
    exact ⟨hnetwork, hsent, rfl⟩
  | ok a =>
    obtain ⟨hnetwork', hsent', hrun'⟩ := hf a (x (s, w)).2.1 (x (s, w)).2.2
    rw [Step.bind_of_ok (Prod.ext hresult rfl), Step.bind_of_ok (by rw [hrun, hresult])]
    exact ⟨hnetwork'.trans hnetwork, hsent'.trans hsent, hrun'⟩

theorem Silent.note (level : Level) (message : String) :
    Silent (Step.second (World.note level message) : Step (σ × World) Unit) :=
  .second fun _ => ⟨rfl, rfl, rfl⟩

theorem Ending.run_of_error {e : Error} (hx : Ending x s w) (hresult : (x (s, w)).1 = .error e) :
    (x >>= f) (s, w.recording) = (.error e, (x (s, w.recording)).2) ∧
      (x >>= f).tried s w = x.tried s w := by
  have hrun : (x >>= f) (s, w.recording) = (.error e, (x (s, w.recording)).2) :=
    Step.bind_of_error (Prod.ext (hx.result.trans hresult) rfl)
  exact ⟨hrun, by rw [Step.tried, hrun, Step.tried]⟩

theorem Ending.bind_of_error {e : Error} (hx : Ending x s w) (hresult : (x (s, w)).1 = .error e) :
    Ending (x >>= f) s w := by
  obtain ⟨hrun', htried⟩ := hx.run_of_error (f := f) hresult
  have hrun : (x >>= f) (s, w) = (.error e, (x (s, w)).2) := Step.bind_of_error (Prod.ext hresult rfl)
  refine ⟨?_, ?_, ?_, fun _ hok => ?_, ?_, ?_, fun before request after e' hsplit hfails => ?_⟩
  · rw [hrun]
    exact hx.network
  · rw [hrun, hrun']
  · rw [hrun, hrun']
    exact hx.state
  · rw [hrun] at hok
    cases hok
  · rw [hrun', htried]
    exact hx.sent
  · rw [Arrived, hrun, htried]
    exact hx.arrived
  · have hlast := hx.last before request after e' (htried ▸ hsplit) hfails
    obtain ⟨herror, hafter⟩ := hlast
    cases hresult.symm.trans herror
    exact ⟨by rw [hrun], hafter⟩

/-- What a sequence tries is what its parts try, the second one after the first has been answered. -/
theorem Ending.run_of_ok {a : α} (hx : Ending x s w) (hresult : (x (s, w)).1 = .ok a)
    (hf : Ending (f a) (x (s, w)).2.1 (x (s, w)).2.2) :
    (x >>= f) (s, w.recording) = f a ((x (s, w)).2.1, (x (s, w)).2.2.recording) ∧
      (x (s, w)).2.2.sent = w.sent ++ x.tried s w ∧
      (x >>= f).tried s w = x.tried s w ++ (f a).tried (x (s, w)).2.1 (x (s, w)).2.2 := by
  have hworld := hx.world a hresult
  have hrun : (x >>= f) (s, w.recording) = f a ((x (s, w)).2.1, (x (s, w)).2.2.recording) :=
    Step.bind_of_ok (Prod.ext (hx.result.trans hresult) (Prod.ext hx.state hworld))
  have hsent : (x (s, w)).2.2.sent = w.sent ++ x.tried s w := by
    rw [← hx.sent, hworld]
    rfl
  refine ⟨hrun, hsent, tried_eq ?_⟩
  rw [hrun, hf.sent, hsent, List.append_assoc]

theorem Ending.bind_of_ok {a : α} (hx : Ending x s w) (hresult : (x (s, w)).1 = .ok a)
    (hf : Ending (f a) (x (s, w)).2.1 (x (s, w)).2.2) : Ending (x >>= f) s w := by
  obtain ⟨hrun', hsent, htried⟩ := hx.run_of_ok hresult hf
  have hrun : (x >>= f) (s, w) = f a (x (s, w)).2 := Step.bind_of_ok (Prod.ext hresult rfl)
  -- the first operation was answered, so an exchange that fails is one of the second
  have hsecond : ∀ before request after e, (x >>= f).tried s w = before ++ request :: after →
      (w.network (w.sent ++ before) request).Fails request e → ∃ middle,
        before = x.tried s w ++ middle ∧
        (f a).tried (x (s, w)).2.1 (x (s, w)).2.2 = middle ++ request :: after := by
    intro before request after e hsplit hfails
    rw [htried] at hsplit
    rcases List.append_eq_append_iff.mp hsplit with ⟨middle, hbefore, hlater⟩ | ⟨middle, hfirst, hlater⟩
    · exact ⟨middle, hbefore, hlater⟩
    · cases middle with
      | nil => exact ⟨[], by rw [hfirst, List.append_nil, List.append_nil], hlater.symm⟩
      | cons first middle =>
        obtain ⟨rfl, -⟩ := List.cons_eq_cons.mp hlater
        cases hresult.symm.trans (hx.last before request middle e hfirst hfails).1
  refine ⟨?_, ?_, ?_, fun b hb => ?_, ?_, ?_, fun before request after e hsplit hfails => ?_⟩
  · rw [hrun]
    exact hf.network.trans hx.network
  · rw [hrun, hrun']
    exact hf.result
  · rw [hrun, hrun']
    exact hf.state
  · rw [hrun] at hb ⊢
    rw [hrun']
    exact hf.world b hb
  · rw [hrun', hf.sent, hsent, htried, List.append_assoc]
  · rw [Arrived, hrun, htried, ← List.append_assoc, ← hsent]
    rcases hf.arrived with h | ⟨before, request, hlater, hlost, h⟩
    · exact .inl h
    · refine .inr ⟨x.tried s w ++ before, request, ?_, ?_, ?_⟩
      · rw [hlater, List.append_assoc]
      · rw [← List.append_assoc, ← hsent, ← hx.network]
        exact hlost
      · rw [← List.append_assoc, ← hsent]
        exact h
  · obtain ⟨middle, rfl, hlater⟩ := hsecond before request after e hsplit hfails
    rw [← List.append_assoc, ← hsent, ← hx.network] at hfails
    rw [hrun]
    exact hf.last middle request after e hlater hfails

theorem Ending.bind (hx : Ending x s w) (hf : ∀ a, (x (s, w)).1 = .ok a →
    Ending (f a) (x (s, w)).2.1 (x (s, w)).2.2) : Ending (x >>= f) s w := by
  cases hresult : (x (s, w)).1 with
  | error e => exact hx.bind_of_error hresult
  | ok a => exact hx.bind_of_ok hresult (hf a hresult)

theorem Ends.tried_bind (hx : Ends x) (hf : ∀ a, Silent (f a)) (s : σ) (w : World) :
    (x >>= f).tried s w = x.tried s w := by
  have h := hx s w
  cases hresult : (x (s, w)).1 with
  | error e => exact (h.run_of_error hresult).2
  | ok a =>
    obtain ⟨-, -, htried⟩ := h.run_of_ok hresult ((hf a).ends _ _)
    rw [htried, (hf a).tried_eq_nil, List.append_nil]

theorem Ends.bind (hx : Ends x) (hf : ∀ a, Ends (f a)) : Ends (x >>= f) :=
  fun s w => (hx s w).bind fun a _ => hf a _ _

theorem second_bind (x : Step τ α) (f : α → Step τ β) :
    (second (x >>= f) : Step (σ × τ) β) = second x >>= fun a => second (f a) := by
  funext t
  rw [second_apply, bind_apply, bind_apply, second_apply]
  rcases x t.2 with ⟨_ | _, _⟩ <;> rfl

theorem Ends.second_bind {x : Step World α} {f : α → Step World β}
    (hx : Ends (second x : Step (σ × World) α)) (hf : ∀ a, Ends (second (f a) : Step (σ × World) β)) :
    Ends (second (x >>= f) : Step (σ × World) β) := by
  rw [Step.second_bind]
  exact hx.bind hf

end Step

/-! ## Requests -/

section Requests
variable {σ : Type}
open Step (Ends Silent)

theorem Exchange.accept_silent (status : Nat) (body : String) :
    Silent (Step.second (accept status body) : Step (σ × World) Json) := by
  unfold accept
  refine .second fun w => ?_
  split
  · split
    · exact ⟨rfl, rfl, rfl⟩
    · cases Json.read? body <;> exact ⟨rfl, rfl, rfl⟩
  · exact ⟨rfl, rfl, rfl⟩

theorem Exchange.deliver_ends (r : Request) :
    Ends (Step.second (deliver r >>= fun response => accept response.status (bodyOf response)) :
      Step (σ × World) Json) := by
  intro s w
  cases hfault : fault? r with
  | some fault =>
    have hrun : ∀ w, (deliver r >>= fun response => accept response.status (bodyOf response)) w =
        (.error (.transport fault), w) :=
      fun w => Step.bind_of_error (by simp [deliver, hfault])
    refine Silent.ends (fun s w => ?_) s w
    simp only [Step.second_apply, hrun]
    exact ⟨trivial, trivial, trivial⟩
  | none =>
    cases hdelivery : w.network w.sent r with
    | undelivered =>
      have hrun : (deliver r >>= fun response => accept response.status (bodyOf response)) w =
          (.error (.transport (.unanswered r.url.withoutUser.text)), w) :=
        Step.bind_of_error (by simp [deliver, hfault, hdelivery])
      have hrun' : (deliver r >>= fun response => accept response.status (bodyOf response))
          w.recording = (.error (.transport (.unanswered r.url.withoutUser.text)),
            { w.recording with sent := w.sent ++ [r] }) :=
        Step.bind_of_error (by simp [deliver, hfault, hdelivery, World.recording, Network.recording])
      refine Step.Ending.of_one (r := r) ?_ ?_ ?_ ?_ ?_ ?_ fun e hfails => ?_
      all_goals simp only [Step.second_apply, hrun, hrun']
      · exact fun _ h => by cases h
      · exact .inr ⟨hdelivery, trivial⟩
      · rw [hdelivery] at hfails
        cases hfails
        rfl
    | dropped =>
      have hrun : ∀ v : World, v.sent = w.sent → v.network w.sent r = .dropped →
          (deliver r >>= fun response => accept response.status (bodyOf response)) v =
            (.error (.transport (.unanswered r.url.withoutUser.text)),
              { v with sent := w.sent ++ [r] }) :=
        fun v hsent hv => Step.bind_of_error (by simp [deliver, hfault, hsent, hv])
      have hrecorded : w.recording.network w.sent r = .dropped := by
        simp [World.recording, Network.recording, hdelivery]
      refine Step.Ending.of_one (r := r) ?_ ?_ ?_ ?_ ?_ ?_ fun e hfails => ?_
      all_goals simp only [Step.second_apply, hrun w rfl hdelivery, hrun w.recording rfl hrecorded]
      · exact fun _ h => by cases h
      · exact .inl trivial
      · rw [hdelivery] at hfails
        cases hfails
        rfl
    | answered response =>
      have hrun : ∀ v : World, v.sent = w.sent → v.network w.sent r = .answered response →
          (deliver r >>= fun response => accept response.status (bodyOf response)) v =
            accept response.status (bodyOf response) { v with sent := w.sent ++ [r] } :=
        fun v hsent hv => Step.bind_of_ok (by simp [deliver, hfault, hsent, hv])
      have hrecorded : w.recording.network w.sent r = .answered response := by
        simp [World.recording, Network.recording, hdelivery]
      obtain ⟨hnetwork, hsent, haccept⟩ := accept_silent response.status (bodyOf response) s
        { w with sent := w.sent ++ [r] }
      simp only [Step.second_apply] at hnetwork hsent haccept
      have hrun' : (deliver r >>= fun response => accept response.status (bodyOf response))
          w.recording = ((accept response.status (bodyOf response) { w with sent := w.sent ++ [r] }).1,
            (accept response.status (bodyOf response) { w with sent := w.sent ++ [r] }).2.recording) :=
        (hrun w.recording rfl hrecorded).trans
          (Prod.ext (Prod.mk.inj haccept).1 (Prod.mk.inj (Prod.mk.inj haccept).2).2)
      refine Step.Ending.of_one (r := r) ?_ ?_ ?_ ?_ ?_ ?_ fun e hfails => ?_
      all_goals simp only [Step.second_apply, hrun w rfl hdelivery, hrun']
      · exact hnetwork
      · exact fun _ _ => trivial
      · exact hsent
      · exact .inl hsent
      · exact accept_of_fails (hdelivery ▸ hfails) _

theorem Exchange.send_ends (r : Request) : Ends (Step.second (send r) : Step (σ × World) Json) := by
  unfold send
  refine (Silent.note _ _).ends.second_bind fun _ => ?_
  cases r.filter? with
  | none => exact Exchange.deliver_ends r
  | some filter => exact (Silent.note _ _).ends.second_bind fun _ => Exchange.deliver_ends r

end Requests

/-! ## First requests -/

namespace Step
variable {σ α β : Type} {x : Step (σ × World) α} {f : α → Step (σ × World) β}
  {request? : Except Error Request} {s : σ} {w : World}

/-- The operation makes this request first. If there is none, or it cannot be sent, the operation
makes no request, fails for that reason and leaves the state. -/
structure Asks (x : Step (σ × World) α) (request? : Except Error Request) (s : σ) (w : World) :
    Prop where
  first : ∀ r, request? = .ok r → Exchange.fault? r = none → ∃ later, x.tried s w = r :: later
  withheld : ∀ r fault, request? = .ok r → Exchange.fault? r = some fault →
    x.tried s w = [] ∧ (x (s, w)).1 = .error (.transport fault) ∧ (x (s, w)).2.1 = s
  unaddressed : ∀ e, request? = .error e →
    x.tried s w = [] ∧ (x (s, w)).1 = .error e ∧ (x (s, w)).2.1 = s

/-- The operation makes this request and no other. -/
structure AsksOnce (x : Step (σ × World) α) (request? : Except Error Request) (s : σ) (w : World) :
    Prop extends Asks x request? s w where
  single : (x.tried s w).length ≤ 1

theorem AsksOnce.tried_of_ok {r : Request} (h : AsksOnce x request? s w) (hr : request? = .ok r)
    (hfault : Exchange.fault? r = none) : x.tried s w = [r] := by
  obtain ⟨later, htried⟩ := h.first r hr hfault
  have hsingle := h.single
  rw [htried, List.length_cons] at hsingle
  rw [htried, List.eq_nil_of_length_eq_zero (Nat.le_zero.mp (Nat.le_of_succ_le_succ hsingle))]

theorem AsksOnce.cases (h : AsksOnce x request? s w) :
    (x.tried s w = [] ∧ ∃ e, (x (s, w)).1 = .error e) ∨
      ∃ r, request? = .ok r ∧ x.tried s w = [r] := by
  cases hr : request? with
  | error e =>
    obtain ⟨htried, herror, -⟩ := h.unaddressed e hr
    exact .inl ⟨htried, e, herror⟩
  | ok r =>
    cases hfault : Exchange.fault? r with
    | some fault =>
      obtain ⟨htried, herror, -⟩ := h.withheld r fault hr hfault
      exact .inl ⟨htried, _, herror⟩
    | none => exact .inr ⟨r, rfl, h.tried_of_ok hr hfault⟩

theorem AsksOnce.of_error {e : Error} (hrun : ∀ v, x (s, v) = (.error e, s, v)) :
    AsksOnce x (.error e) s w := by
  have htried : x.tried s w = [] := tried_eq (by rw [hrun w.recording, List.append_nil]; rfl)
  refine ⟨⟨fun _ h => (by cases h), fun _ _ h => (by cases h), fun _ h => ?_⟩, by simp [htried]⟩
  cases h
  rw [hrun w]
  exact ⟨htried, rfl, rfl⟩

theorem Asks.bind (h : Asks x request? s w) (hx : Ending x s w)
    (hf : ∀ a, (x (s, w)).1 = .ok a → Ending (f a) (x (s, w)).2.1 (x (s, w)).2.2) :
    Asks (x >>= f) request? s w := by
  have hfails : ∀ e, x.tried s w = [] ∧ (x (s, w)).1 = .error e ∧ (x (s, w)).2.1 = s →
      (x >>= f).tried s w = [] ∧ ((x >>= f) (s, w)).1 = .error e ∧ ((x >>= f) (s, w)).2.1 = s := by
    intro e h
    obtain ⟨htried, herror, hs⟩ := h
    have hrun : (x >>= f) (s, w) = (.error e, (x (s, w)).2) := bind_of_error (Prod.ext herror rfl)
    rw [hrun, (hx.run_of_error herror).2]
    exact ⟨htried, rfl, hs⟩
  refine ⟨fun r hr hfault => ?_, fun r fault hr hfault => hfails _ (h.withheld r fault hr hfault),
    fun e hr => hfails e (h.unaddressed e hr)⟩
  obtain ⟨later, htried⟩ := h.first r hr hfault
  cases hresult : (x (s, w)).1 with
  | error e => exact ⟨later, (hx.run_of_error hresult).2.trans htried⟩
  | ok a =>
    obtain ⟨-, -, hboth⟩ := hx.run_of_ok hresult (hf a hresult)
    exact ⟨_, by rw [hboth, htried, List.cons_append]⟩

theorem AsksOnce.bind (h : AsksOnce x request? s w) (hx : Ends x) (hf : ∀ a, Silent (f a)) :
    AsksOnce (x >>= f) request? s w :=
  ⟨h.toAsks.bind (hx s w) fun a _ => (hf a).ends _ _, by rw [hx.tried_bind hf]; exact h.single⟩

theorem Asks.of_eq {y : Step (σ × World) α} {w' : World} (h : Asks y request? s w')
    (heq : x (s, w) = y (s, w')) (heq' : x (s, w.recording) = y (s, w'.recording))
    (hsent : w.sent = w'.sent) : Asks x request? s w := by
  have htried : x.tried s w = y.tried s w' := by rw [Step.tried, heq', hsent, Step.tried]
  obtain ⟨hfirst, hwithheld, hunaddressed⟩ := h
  rw [← htried] at hfirst hwithheld hunaddressed
  rw [← heq] at hwithheld hunaddressed
  exact ⟨hfirst, hwithheld, hunaddressed⟩

theorem AsksOnce.of_eq {y : Step (σ × World) α} {w' : World} (h : AsksOnce y request? s w')
    (heq : x (s, w) = y (s, w')) (heq' : x (s, w.recording) = y (s, w'.recording))
    (hsent : w.sent = w'.sent) : AsksOnce x request? s w :=
  ⟨h.toAsks.of_eq heq heq' hsent, by rw [Step.tried, heq', hsent]; exact h.single⟩

end Step

namespace Exchange
variable {σ : Type} {r : Request}
open Step (Asks AsksOnce Ends Silent)

theorem send_tried (hfault : fault? r = none) (s : σ) (w : World) :
    (Step.second (send r) : Step (σ × World) Json).tried s w = [r] := by
  have hkept : w.recording.network w.recording.sent r ≠ .undelivered := by
    simp only [World.recording, Network.recording]
    split <;> simp_all
  refine Step.tried_eq ?_
  have hsent := send_sent r w.recording
  rw [Step.second_apply]
  unfold Step.Yields at hsent
  generalize send r w.recording = outcome at hsent
  obtain ⟨result, w'⟩ := outcome
  cases hsent with
  | withheld h => exact absurd (h.resolve_left (not_not_intro hfault)) hkept
  | refused => rfl
  | accepted => rfl

theorem send_untried {fault : TransportError} (hfault : fault? r = some fault) (s : σ) (w : World) :
    (Step.second (send r) : Step (σ × World) Json).tried s w = [] :=
  Step.tried_eq (by rw [List.append_nil]; exact (send_of_fault hfault w.recording).2)

theorem ask_ends (request? : Except Error Request) :
    Ends (Step.second (Step.ofExcept request? >>= send) : Step (σ × World) Json) :=
  (Silent.second fun _ => ⟨rfl, rfl, rfl⟩).ends.second_bind send_ends

theorem ask_asks (request? : Except Error Request) (s : σ) (w : World) :
    AsksOnce (Step.second (Step.ofExcept request? >>= send) : Step (σ × World) Json) request? s w := by
  cases request? with
  | error e => exact .of_error fun _ => rfl
  | ok r =>
    change AsksOnce (Step.second (send r) : Step (σ × World) Json) (.ok r) s w
    cases hfault : fault? r with
    | none =>
      have htried := send_tried hfault s w
      refine ⟨⟨fun _ h _ => ?_, fun _ fault h hfault' => ?_, nofun⟩, ?_⟩
      · cases h
        exact ⟨[], htried⟩
      · cases h
        cases hfault.symm.trans hfault'
      · rw [htried]
        exact Nat.le_refl 1
    | some fault =>
      obtain ⟨herror, -⟩ := send_of_fault hfault w
      have htried := send_untried hfault s w
      refine ⟨⟨fun _ h hnone => ?_, fun _ fault' h hfault' => ?_, nofun⟩, ?_⟩
      · cases h
        cases hfault.symm.trans hnone
      · cases h
        cases hfault.symm.trans hfault'
        exact ⟨htried, herror, rfl⟩
      · rw [htried]
        exact Nat.zero_le 1

end Exchange

end CloudClient
