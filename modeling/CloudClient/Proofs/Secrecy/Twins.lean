import CloudClient.Client
import CloudClient.Proofs.Step

/-!
# Two runs with different tokens

A network that does not look at who asks answers two clients alike that differ in nothing but their
tokens. `Twins` relates the worlds that they live in: the clocks and the logs are equal, and what was
sent since the start is one list of requests, under one token here and under the other there. `Agree`
says that two operations return the same and keep their states related; each way to build an
operation has one rule.
-/

namespace CloudClient

namespace Step
variable {σ τ α β : Type} {R : σ → σ → Prop}

def Agree (R : σ → σ → Prop) (x y : Step σ α) : Prop :=
  ∀ s t, R s t → (x s).1 = (y t).1 ∧ R (x s).2 (y t).2

namespace Agree

theorem pure (a : α) : Agree R (Pure.pure a) (Pure.pure a) := fun _ _ h => ⟨rfl, h⟩

theorem fail (e : Error) : Agree R (Step.fail e : Step σ α) (Step.fail e) := fun _ _ h => ⟨rfl, h⟩

theorem ofExcept (result : Except Error α) : Agree R (Step.ofExcept result) (Step.ofExcept result) :=
  fun _ _ h => ⟨rfl, h⟩

theorem read {f g : σ → α} (hf : ∀ s t, R s t → f s = g t) : Agree R (Step.read f) (Step.read g) :=
  fun s t h => ⟨congrArg Except.ok (hf s t h), h⟩

theorem modify {f g : σ → σ} (hf : ∀ s t, R s t → R (f s) (g t)) :
    Agree R (Step.modify f) (Step.modify g) :=
  fun s t h => ⟨rfl, hf s t h⟩

theorem bind {x y : Step σ α} {f g : α → Step σ β} (hx : Agree R x y)
    (hf : ∀ a, Agree R (f a) (g a)) : Agree R (x >>= f) (y >>= g) := by
  intro s t h
  obtain ⟨hresult, hstate⟩ := hx s t h
  rw [bind_apply, bind_apply]
  generalize x s = p at hresult hstate
  generalize y t = q at hresult hstate
  obtain ⟨result, s'⟩ := p
  obtain ⟨_, t'⟩ := q
  cases hresult
  cases result with
  | ok a => exact hf a s' t' hstate
  | error e => exact ⟨rfl, hstate⟩

/-- What an operation works on is the same in both runs, and the states beside it are related. -/
def Beside (R : τ → τ → Prop) (p q : σ × τ) : Prop := p.1 = q.1 ∧ R p.2 q.2

theorem second {R : τ → τ → Prop} {x y : Step τ α} (hx : Agree R x y) :
    Agree (Beside R) (Step.second x : Step (σ × τ) α) (Step.second y) := by
  intro p q h
  obtain ⟨hresult, hstate⟩ := hx p.2 q.2 h.2
  exact ⟨hresult, h.1, hstate⟩

end Agree
end Step

open Step (Agree)

/-! ## Worlds -/

def Request.bearing (token : String) (r : Request) : Request :=
  { r with authorization? := some ("Bearer " ++ token) }

def Request.anonymous (r : Request) : Request := { r with authorization? := none }

theorem Request.filter?_bearing (token : String) (r : Request) :
    (r.bearing token).filter? = r.filter? := rfl

theorem Request.map_anonymous_bearing (token : String) (rs : List Request) :
    (rs.map (Request.bearing token)).map Request.anonymous = rs.map Request.anonymous :=
  List.map_map

/-- How a request fares does not depend on who sends it and who sent those before it. -/
def Network.Blind (network : Network) : Prop :=
  ∀ earlier earlier' r r', earlier.map Request.anonymous = earlier'.map Request.anonymous →
    r.anonymous = r'.anonymous → network earlier r = network earlier' r'

theorem Network.scripted_blind (script : List (Option Response)) : (scripted script).Blind := by
  intro earlier earlier' r r' hearlier _
  have hlength : earlier.length = earlier'.length := by
    simpa using congrArg List.length hearlier
  simp only [scripted, hlength]

/-- Two worlds that differ in nothing but the token under which requests were sent after the first
ones. -/
structure Twins (before : List Request) (token token' : String) (w w' : World) : Prop where
  blind : w.network.Blind
  network : w'.network = w.network
  now : w'.now = w.now
  log : w'.log = w.log
  sent : ∃ rs : List Request, w.sent = before ++ rs.map (Request.bearing token) ∧
    w'.sent = before ++ rs.map (Request.bearing token')

section Exchanges
variable {before : List Request} {token token' : String} {w w' : World}

theorem Twins.refl (h : w.network.Blind) (token token' : String) :
    Twins w.sent token token' w w :=
  ⟨h, rfl, rfl, rfl, [], by simp, by simp⟩

theorem Twins.anonymous (h : Twins before token token' w w') :
    w'.sent.map Request.anonymous = w.sent.map Request.anonymous := by
  obtain ⟨rs, hsent, hsent'⟩ := h.sent
  rw [hsent, hsent', List.map_append, List.map_append, Request.map_anonymous_bearing,
    Request.map_anonymous_bearing]

theorem Twins.delivery (h : Twins before token token' w w') (r : Request) :
    w'.network w'.sent (r.bearing token') = w.network w.sent (r.bearing token) := by
  rw [h.network]
  exact h.blind _ _ _ _ h.anonymous rfl

theorem Twins.record (h : Twins before token token' w w') (r : Request) :
    Twins before token token' { w with sent := w.sent ++ [r.bearing token] }
      { w' with sent := w'.sent ++ [r.bearing token'] } := by
  obtain ⟨rs, hsent, hsent'⟩ := h.sent
  refine ⟨h.blind, h.network, h.now, h.log, rs ++ [r], ?_, ?_⟩
  · rw [hsent, List.map_append, List.append_assoc]
    rfl
  · rw [hsent', List.map_append, List.append_assoc]
    rfl

theorem Twins.withLog (h : Twins before token token' w w') (log : Log) :
    Twins before token token' { w with log } { w' with log } :=
  ⟨h.blind, h.network, h.now, rfl, h.sent⟩

abbrev World.Alike {α : Type} (before : List Request) (token token' : String) (x y : Step World α) :
    Prop :=
  Agree (Twins before token token') x y

theorem World.note_alike (level : Level) (message : String) :
    World.Alike before token token' (World.note level message) (World.note level message) := by
  refine .modify fun w w' h => ?_
  rw [h.log]
  exact h.withLog _

theorem World.now_alike : World.Alike before token token' (Step.read World.now) (Step.read World.now) :=
  .read fun _ _ h => h.now.symm

/-! ## One exchange -/

namespace Exchange

theorem isHeaderText_bearer (htoken : isHeaderText token = true) :
    isHeaderText ("Bearer " ++ token) = true := by
  unfold isHeaderText at htoken ⊢
  rw [String.toList_append, List.all_append, htoken]
  decide

theorem fault?_bearing (htoken : isHeaderText token = true) (r : Request) :
    fault? (r.bearing token) = fault? r.anonymous := by
  have hheader := isHeaderText_bearer htoken
  simp [fault?, Request.bearing, Request.anonymous, hheader]

variable (htoken : isHeaderText token = true) (htoken' : isHeaderText token' = true)
include htoken htoken'

theorem deliver_alike (r : Request) :
    World.Alike before token token' (deliver (r.bearing token)) (deliver (r.bearing token')) := by
  intro w w' h
  unfold deliver
  rw [fault?_bearing htoken, fault?_bearing htoken']
  cases fault? r.anonymous with
  | some fault => exact ⟨rfl, h⟩
  | none =>
    dsimp only
    rw [h.delivery r]
    cases w.network w.sent (r.bearing token) with
    | undelivered => exact ⟨rfl, h⟩
    | dropped => exact ⟨rfl, h.record r⟩
    | answered response => exact ⟨rfl, h.record r⟩

omit htoken htoken' in
theorem accept_alike (status : Nat) (body : String) :
    World.Alike before token token' (accept status body) (accept status body) := by
  unfold accept
  split
  · split
    · exact .pure _
    · split
      · exact .pure _
      · exact .fail _
  · exact (World.note_alike _ _).bind fun _ => .fail _

theorem send_alike (r : Request) :
    World.Alike before token token' (send (r.bearing token)) (send (r.bearing token')) := by
  unfold send
  refine (World.note_alike _ _).bind fun _ => ?_
  have hrest : World.Alike before token token'
      (deliver (r.bearing token) >>= fun response => accept response.status (bodyOf response))
      (deliver (r.bearing token') >>= fun response => accept response.status (bodyOf response)) :=
    (deliver_alike htoken htoken' r).bind fun response =>
      accept_alike response.status (bodyOf response)
  simp only [Request.filter?_bearing]
  cases r.filter? with
  | some filter => exact (World.note_alike _ _).bind fun _ => hrest
  | none => exact hrest

end Exchange

/-! ## Raw calls -/

namespace Client

def bearing (token : String) (c : Client) : Client := { c with token? := some token }

theorem registry_bearing (c : Client) : (c.bearing token).registry = c.registry := rfl

variable (htoken : Exchange.isHeaderText token = true)
  (htoken' : Exchange.isHeaderText token' = true)
include htoken htoken'

theorem call_alike (c : Client) (path : String) (request : Url → Request) :
    World.Alike before token token'
      (Step.ofExcept (c.url path) >>= fun url => Exchange.send ((request url).bearing token))
      (Step.ofExcept (c.url path) >>= fun url => Exchange.send ((request url).bearing token')) :=
  (Agree.ofExcept _).bind fun url => Exchange.send_alike htoken htoken' (request url)

theorem get_alike (c : Client) (path : String) (filter? : Option Filter) :
    World.Alike before token token' ((c.bearing token).get path filter?)
      ((c.bearing token').get path filter?) :=
  call_alike htoken htoken' c path fun url =>
    { c.request .get url with filter? := filterHeader? filter? }

theorem getPage_alike (c : Client) (path : String) (page : Nat) (filter? : Option Filter) :
    World.Alike before token token' ((c.bearing token).getPage path page filter?)
      ((c.bearing token').getPage path page filter?) :=
  call_alike htoken htoken' c path fun url =>
    { c.request .get ((url.addPair "page" page).addPair "page_size" c.pageSize) with
      filter? := filterHeader? filter? }

theorem post_alike (c : Client) (path : String) (body : Json) :
    World.Alike before token token' ((c.bearing token).post path body)
      ((c.bearing token').post path body) :=
  call_alike htoken htoken' c path fun url =>
    { c.request .post url with body? := some body.compact }

theorem put_alike (c : Client) (path : String) (body : Json) :
    World.Alike before token token' ((c.bearing token).put path body)
      ((c.bearing token').put path body) :=
  call_alike htoken htoken' c path fun url =>
    { c.request .put url with body? := some body.compact }

theorem delete_alike (c : Client) (path : String) :
    World.Alike before token token' ((c.bearing token).delete path) ((c.bearing token').delete path) :=
  call_alike htoken htoken' c path (c.request .delete)

end Client
end Exchanges

end CloudClient
