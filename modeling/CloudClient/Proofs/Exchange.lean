import CloudClient.Client
import CloudClient.Proofs.Step

/-!
# What an exchange does

Sending a request leaves the network and the clock as they are. A request that arrives is recorded
once, and the exchange succeeds exactly when the delivery brings JSON that is accepted.
-/

namespace CloudClient

/-- The JSON that a delivery brings, if it is accepted. -/
def Delivery.json? : Delivery → Option Json
  | .answered response =>
    let body := Exchange.bodyOf response
    if Status.isSuccess response.status then
      if body.toList.all Text.isBlank then some .null else Json.read? body
    else none
  | _ => none

def Delivery.ofJson (v : Json) : Delivery :=
  .answered ⟨200, v.compact.toList.flatMap Utf8.encode⟩

namespace Exchange
variable {r : Request} {w : World}

theorem fault?_eq_none : fault? r = none ↔ r.url.host?.isNone = false ∧
    (r.authorization?.toList ++ r.filter?.toList).all isHeaderText = true ∧
      isHttp r.url = true := by
  unfold fault?
  cases r.url.host?.isNone with
  | true => simp
  | false =>
    cases (r.authorization?.toList ++ r.filter?.toList).all isHeaderText with
    | false => simp
    | true => cases isHttp r.url <;> simp

inductive Sent (r : Request) (w : World) : Except Error Json → World → Prop
  | withheld {e : Error} {log : Log} (h : fault? r ≠ none ∨ w.network w.sent r = .undelivered) :
      Sent r w (.error e) { w with log }
  | refused {e : Error} {log : Log} (harrived : w.network w.sent r ≠ .undelivered)
      (h : (w.network w.sent r).json? = none) :
      Sent r w (.error e) { w with sent := w.sent ++ [r], log }
  | accepted {v : Json} {log : Log} (hfault : fault? r = none)
      (h : (w.network w.sent r).json? = some v) :
      Sent r w (.ok v) { w with sent := w.sent ++ [r], log }

theorem Sent.of_log {log : Log} {result : Except Error Json} {w' : World}
    (h : Sent r { w with log } result w') : Sent r w result w' := by
  cases h with
  | withheld h => exact .withheld h
  | refused harrived h => exact .refused harrived h
  | accepted hfault h => exact .accepted hfault h

theorem accept_yields (response : Response) (w : World) :
    (accept response.status (bodyOf response)).Yields w fun result w' =>
      ∃ log, w' = { w with log } ∧
        ∀ v, result = .ok v ↔ (Delivery.answered response).json? = some v := by
  unfold accept Delivery.json?
  dsimp only
  split
  · split
    · exact ⟨w.log, rfl, fun v => by simp⟩
    · cases hread : Json.read? (bodyOf response) with
      | some v => exact ⟨w.log, rfl, fun v' => by simp⟩
      | none => exact ⟨w.log, rfl, fun v => by simp⟩
  · refine ⟨_, rfl, fun v => ?_⟩
    simp [Step.bind_apply, World.note]

theorem deliver_sent (r : Request) (w : World) :
    (deliver r >>= fun response => accept response.status (bodyOf response)).Yields w
      (Sent r w) := by
  cases hfault : fault? r with
  | some fault =>
    have hdeliver : deliver r w = (.error (.transport fault), w) := by simp [deliver, hfault]
    exact (Step.yields_bind_of_error hdeliver).mpr (.withheld (.inl (by simp [hfault])))
  | none =>
    cases hnetwork : w.network w.sent r with
    | undelivered =>
      have hdeliver : deliver r w = (.error (.transport (.unanswered r.url.withoutUser.text)), w) := by
        simp [deliver, hfault, hnetwork]
      exact (Step.yields_bind_of_error hdeliver).mpr (.withheld (.inr hnetwork))
    | dropped =>
      have hdeliver : deliver r w = (.error (.transport (.unanswered r.url.withoutUser.text)),
          { w with sent := w.sent ++ [r] }) := by simp [deliver, hfault, hnetwork]
      exact (Step.yields_bind_of_error hdeliver).mpr
        (.refused (by simp [hnetwork]) (by rw [hnetwork]; rfl))
    | answered response =>
      have hdeliver : deliver r w = (.ok response, { w with sent := w.sent ++ [r] }) := by
        simp [deliver, hfault, hnetwork]
      refine (Step.yields_bind_of_ok hdeliver).mpr ((accept_yields response _).mono ?_)
      intro result w' h
      obtain ⟨log, rfl, hjson⟩ := h
      cases result with
      | ok v => exact .accepted hfault (by rw [hnetwork]; exact (hjson v).mp rfl)
      | error e =>
        refine .refused (by simp [hnetwork]) ?_
        rw [hnetwork]
        refine Option.eq_none_iff_forall_ne_some.mpr fun v hv => ?_
        cases (hjson v).mpr hv

theorem Sent.after_note {level : Level} {message : String} {x : Step World Json}
    (h : ∀ w, x.Yields w (Sent r w)) (w : World) :
    (World.note level message >>= fun _ => x).Yields w (Sent r w) := by
  apply Step.yields_bind.mpr
  exact (h _).mono fun _ _ ht => ht.of_log

theorem send_sent (r : Request) (w : World) : (send r).Yields w (Sent r w) := by
  unfold send
  refine Sent.after_note (fun w => ?_) w
  cases r.filter? with
  | none => exact deliver_sent r w
  | some filter => exact Sent.after_note (deliver_sent r) w

theorem send_of_fault {fault : TransportError} (hfault : fault? r = some fault) (w : World) :
    (send r).Yields w fun result w' => result = .error (.transport fault) ∧ w'.sent = w.sent := by
  unfold send
  cases r.filter? <;> simp [Step.Yields, Step.bind_apply, World.note, deliver, hfault]

end Exchange
end CloudClient
