import CloudClient.Proofs.Resource.Edits
import CloudClient.Proofs.Resource.Fetching

/-!
# Requests for one resource

Refreshing, saving and deleting send one request to the address of the resource, and none where the
resource has no address or the request does not arrive.
-/

namespace CloudClient

/-! ## Operations -/

inductive Operation
  | refresh | save | delete
deriving DecidableEq, Repr

namespace Operation

def request (client : Client) (r : Resource) (u : Url) : Operation → Request
  | .refresh => client.request .get u
  | .save => { client.request .put u with body? := some r.updateBody.compact }
  | .delete => client.request .delete u

def run (client : Client) (r : Resource) (w : World) : Operation → World
  | .refresh => (Resource.refresh client (r, w)).2.2
  | .save => (Resource.save client (r, w)).2.2
  | .delete => (Resource.delete client (r, w)).2.2

@[simp] theorem request_url (client : Client) (r : Resource) (u : Url) (o : Operation) :
    (o.request client r u).url = u := by
  cases o <;> rfl

end Operation

namespace Exchange
variable {request : Request} {w : World}

def Arrives (w : World) (request : Request) : Prop :=
  fault? request = none ∧ w.network w.sent request ≠ .undelivered

theorem send_recorded (request : Request) (w : World) :
    (send request).Yields w fun _ w' => Arrives w request ∧ w'.sent = w.sent ++ [request] ∨
      ¬ Arrives w request ∧ w'.sent = w.sent := by
  cases hfault : fault? request with
  | some fault =>
    refine (send_of_fault hfault w).mono fun _ _ h => .inr ⟨fun harrives => ?_, h.2⟩
    cases hfault.symm.trans harrives.1
  | none =>
    refine (send_sent request w).mono fun _ _ h => ?_
    cases h with
    | withheld h =>
      refine .inr ⟨fun harrives => ?_, rfl⟩
      rcases h with h | h
      · exact h hfault
      · exact harrives.2 h
    | refused harrived => exact .inl ⟨⟨hfault, harrived⟩, rfl⟩
    | accepted _ hanswer =>
      refine .inl ⟨⟨hfault, fun h => ?_⟩, rfl⟩
      rw [h] at hanswer
      cases hanswer

end Exchange

namespace Resource
variable {client : Client} {r : Resource} {w : World} {request : Url → Request}

/-- The one request goes to the address of the resource, if it has one and the request arrives. -/
inductive Sends (client : Client) (r : Resource) (w : World) (request : Url → Request) :
    List Request → Prop
  | unaddressed {e : Error} (h : r.address client = .error e) : Sends client r w request w.sent
  | lost {u : Url} (haddress : r.address client = .ok u) (h : ¬ Exchange.Arrives w (request u)) :
      Sends client r w request w.sent
  | arrived {u : Url} (haddress : r.address client = .ok u) (h : Exchange.Arrives w (request u)) :
      Sends client r w request (w.sent ++ [request u])

theorem sends_of_endpoint {e : Error} (h : r.endpoint = .error e) :
    Sends client r w request w.sent := by
  refine .unaddressed (e := e) ?_
  rw [address, h]
  rfl

theorem sends_of_send {path : String} (hpath : r.endpoint = .ok path) (log : Log) :
    (Step.ofExcept (client.url path) >>= fun u => Exchange.send (request u)).Yields { w with log }
      fun _ w' => Sends client r w request w'.sent := by
  have haddress : r.address client = client.url path := by
    rw [address, hpath]
    rfl
  cases hurl : client.url path with
  | error e => exact .unaddressed (haddress.trans hurl)
  | ok u =>
    refine Step.yields_ok_bind.mpr ((Exchange.send_recorded _ _).mono fun _ _ h => ?_)
    rcases h with ⟨harrives, hsent⟩ | ⟨hlost, hsent⟩
    · rw [hsent]
      exact .arrived (haddress.trans hurl) harrives
    · rw [hsent]
      exact .lost (haddress.trans hurl) hlost

theorem refresh_sends (client : Client) (r : Resource) (w : World) :
    (refresh client).Yields (r, w) fun _ u =>
      Sends client r w (fun url => Operation.refresh.request client r url) u.2.sent := by
  unfold refresh
  apply Step.yields_read_bind.mpr
  dsimp only
  cases hpath : r.endpoint with
  | error e => exact sends_of_endpoint hpath
  | ok path =>
    have hget := @sends_of_send client r w (client.request .get) path hpath w.log
    refine Step.yields_ok_bind.mpr (.second_bind (fun answer w₁ hanswer => ?_) fun e w₁ hanswer => ?_)
    · have hsent := hget.of_eq hanswer
      unfold Step.Yields
      generalize hpopulate : populate client answer (r, w₁) = outcome
      obtain ⟨result, s, w₂⟩ := outcome
      obtain ⟨log, -, rfl⟩ := populate_eq.mp hpopulate
      exact hsent
    · exact hget.of_eq hanswer

theorem save_sends_to (client : Client) (r : Resource) (w : World) :
    (save client).Yields (r, w) fun _ u =>
      Sends client r w (fun url => Operation.save.request client r url) u.2.sent := by
  refine .congr (asking_sends (fun _ => sends_of_endpoint) ?_) (save_eq client r w)
  exact fun _ hpath log => sends_of_send hpath log

theorem delete_sends (client : Client) (r : Resource) (w : World) :
    (delete client).Yields (r, w) fun _ u =>
      Sends client r w (fun url => Operation.delete.request client r url) u.2.sent := by
  refine .congr (asking_sends (fun _ => sends_of_endpoint) ?_) (delete_eq client r w)
  exact fun _ hpath log => sends_of_send hpath log

end Resource

theorem Operation.run_sends (client : Client) (o : Operation) (r : Resource) (w : World) :
    r.Sends client w (o.request client r ·) (o.run client r w).sent := by
  cases o with
  | refresh => exact Resource.refresh_sends client r w
  | save => exact Resource.save_sends_to client r w
  | delete => exact Resource.delete_sends client r w

end CloudClient
