import CloudClient.Listing
import CloudClient.Proofs.Listing.Request
import Mathlib.Data.List.Forall2

/-!
# Decoded pages

A page is decoded from an answer in one way: its items are read one by one in order, the counts are
those given or stand for one page of just these items, and a page count beyond what the results need
is refused.
-/

namespace CloudClient

def Resource.ReadFrom (registry : Registry) (type : ResourceType) (parent? : Option ParentKey)
    (item : Json) (r : Resource) : Prop :=
  ∃ now log log', ofItem registry now type parent? item log = (.ok r, log')

theorem World.logged_eq {α : Type} {x : Step Log α} {w w' : World} {result : Except Error α} :
    World.logged x w = (result, w') ↔ ∃ log, x w.log = (result, log) ∧ w' = { w with log } := by
  unfold World.logged
  rcases x w.log with ⟨result', log⟩
  refine ⟨fun h => ?_, ?_⟩
  · cases h
    exact ⟨log, rfl, rfl⟩
  · intro h
    obtain ⟨_, h, rfl⟩ := h
    cases h
    rfl

namespace Page
variable {registry : Registry} {type : ResourceType} {parent? : Option ParentKey}

structure DecodedFrom (registry : Registry) (type : ResourceType) (parent? : Option ParentKey)
    (answer : Json) (page : Page) : Prop where
  items : ∃ data, answer.get? "data" = some (.arr data) ∧
    List.Forall₂ (Resource.ReadFrom registry type parent?) data page.items
  results : ∃ given?, count? answer "results" = .ok given? ∧
    page.results = given?.getD page.items.length
  pages : ∃ given?, count? answer "pages" = .ok given? ∧ page.pages = given?.getD 1
  bounded : page.pages ≤ maxPages page.results page.items.length

theorem DecodedFrom.read {answer : Json} {page : Page}
    (h : DecodedFrom registry type parent? answer page) :
    ∀ r ∈ page.items, ∃ item, Resource.ReadFrom registry type parent? item r := by
  obtain ⟨data, -, hitems⟩ := h.items
  intro r hr
  generalize page.items = rs at hitems hr
  induction hitems with
  | nil => cases hr
  | @cons item _ _ _ hfirst _ ih =>
    rcases List.mem_cons.mp hr with rfl | hr
    · exact ⟨item, hfirst⟩
    · exact ih hr

theorem decodeItems_ok {now : Nat} {data : List Json} {log log' : Log} {rs : List Resource}
    (h : decodeItems registry now type parent? data log = (.ok rs, log')) :
    List.Forall₂ (Resource.ReadFrom registry type parent?) data rs := by
  induction data generalizing log rs with
  | nil =>
    cases h
    exact .nil
  | cons item rest ih =>
    obtain ⟨r, log₁, hitem, h⟩ := Step.bind_eq_ok.mp h
    obtain ⟨rs', log₂, hrest, h⟩ := Step.bind_eq_ok.mp h
    cases h
    exact .cons ⟨now, log, log₁, hitem⟩ (ih hrest)

theorem decodeItems_of_read {now : Nat} {data : List Json} (log : Log)
    (h : ∀ item ∈ data, ∀ log, ∃ r log',
      Resource.ofItem registry now type parent? item log = (.ok r, log')) :
    ∃ rs log', decodeItems registry now type parent? data log = (.ok rs, log') := by
  induction data generalizing log with
  | nil => exact ⟨[], log, rfl⟩
  | cons item rest ih =>
    obtain ⟨r, log₁, hitem⟩ := h item List.mem_cons_self log
    obtain ⟨rs, log₂, hrest⟩ := ih log₁ fun other ho => h other (List.mem_cons_of_mem _ ho)
    refine ⟨r :: rs, log₂, ?_⟩
    rw [decodeItems, Step.bind_of_ok hitem, Step.bind_of_ok hrest]
    rfl

theorem decode_ok {now : Nat} {answer : Json} {log log' : Log} {page : Page}
    (h : decode registry now type parent? answer log = (.ok page, log')) :
    DecodedFrom registry type parent? answer page := by
  unfold decode at h
  cases hdata : (answer.get? "data").bind Json.asArr? with
  | none =>
    rw [hdata] at h
    cases h
  | some data =>
    rw [hdata] at h
    obtain ⟨items, log₁, hitems, h⟩ := Step.bind_eq_ok.mp h
    obtain ⟨results?, log₂, hresults, h⟩ := Step.bind_eq_ok.mp h
    obtain ⟨pages?, log₃, hpages, h⟩ := Step.bind_eq_ok.mp h
    split at h
    · cases h
    · rename_i hbound
      cases h
      have hresults := (Prod.mk.inj hresults).1
      have hpages := (Prod.mk.inj hpages).1
      refine ⟨⟨data, ?_, decodeItems_ok hitems⟩, ⟨_, hresults, rfl⟩, ⟨_, hpages, rfl⟩, ?_⟩
      · obtain ⟨v, hv, harr⟩ := Option.bind_eq_some_iff.mp hdata
        cases v <;> cases harr
        exact hv
      · exact Nat.le_of_not_lt hbound

theorem decode_of_read {now : Nat} {answer : Json} {data : List Json} {results? pages? : Option Nat}
    (hdata : answer.get? "data" = some (.arr data))
    (hitems : ∀ item ∈ data, ∀ log, ∃ r log',
      Resource.ofItem registry now type parent? item log = (.ok r, log'))
    (hresults : count? answer "results" = .ok results?) (hpages : count? answer "pages" = .ok pages?)
    (hbound : pages?.getD 1 ≤ maxPages (results?.getD data.length) data.length) (log : Log) :
    ∃ page log', decode registry now type parent? answer log = (.ok page, log') := by
  have harr : (answer.get? "data").bind Json.asArr? = some data := by rw [hdata]; rfl
  obtain ⟨items, log', hread⟩ := decodeItems_of_read log hitems
  have hlength : data.length = items.length := (decodeItems_ok hread).length_eq
  rw [hlength] at hbound
  unfold decode
  rw [harr]
  refine ⟨⟨items, pages?.getD 1, results?.getD items.length⟩, log', ?_⟩
  dsimp only
  rw [Step.bind_of_ok hread, hresults, hpages]
  change (if maxPages (results?.getD items.length) items.length < pages?.getD 1 then _ else _ :
    Step Log Page) log' = _
  rw [if_neg (Nat.not_lt.mpr hbound)]
  rfl

inductive Fetched (client : Client) (type : ResourceType) (path : String)
    (parent? : Option ParentKey) (filter? : Option Filter) (number : Nat) (w : World) :
    Except Error Page → World → Prop
  | unasked {e : Error} (h : client.pageRequest path number filter? = .error e) :
      Fetched client type path parent? filter? number w (.error e) w
  | failed {r : Request} {e : Error} {w' : World}
      (hr : client.pageRequest path number filter? = .ok r) (h : Exchange.Sent r w (.error e) w') :
      Fetched client type path parent? filter? number w (.error e) w'
  | answered {r : Request} {answer : Json} {before after : Log} {result : Except Error Page}
      (hr : client.pageRequest path number filter? = .ok r) (hfault : Exchange.fault? r = none)
      (h : (w.network w.sent r).json? = some answer)
      (hdecode : decode client.registry w.now type parent? answer before = (result, after)) :
      Fetched client type path parent? filter? number w result
        { w with sent := w.sent ++ [r], log := after }

theorem fetch_fetched (client : Client) (type : ResourceType) (path : String)
    (parent? : Option ParentKey) (filter? : Option Filter) (number : Nat) (w : World) :
    (fetch client type path parent? filter? number).Yields w
      (Fetched client type path parent? filter? number w) := by
  unfold fetch
  rw [Client.getPage_eq, bind_assoc]
  cases hr : client.pageRequest path number filter? with
  | error e => exact .unasked hr
  | ok r =>
    refine Step.yields_ok_bind.mpr ((Exchange.send_sent r w).bind ?_ fun e t ht => .failed hr ht)
    intro answer t ht
    cases ht with
    | accepted hfault h => exact .answered hr hfault h rfl

theorem fetch_ok {client : Client} {path : String} {filter? : Option Filter} {number : Nat}
    {w w' : World} {page : Page}
    (h : fetch client type path parent? filter? number w = (.ok page, w')) :
    ∃ answer, DecodedFrom client.registry type parent? answer page := by
  have hfetched := (fetch_fetched client type path parent? filter? number w).of_eq h
  generalize hresult : (.ok page : Except Error Page) = result at hfetched
  cases hfetched with
  | unasked => cases hresult
  | failed => cases hresult
  | @answered _ answer _ _ _ _ _ _ hdecode =>
    subst hresult
    exact ⟨answer, decode_ok hdecode⟩

end Page
end CloudClient
