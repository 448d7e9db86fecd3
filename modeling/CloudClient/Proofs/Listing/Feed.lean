import CloudClient.Proofs.Listing.Call
import CloudClient.Proofs.Listing.Chunk
import CloudClient.Proofs.Population.Clock

/-!
# Feeds

A feed is a collection of items that a server cuts into pages of its own length. The server answers
the request for a page with the chunk of that number and with the counts, or fails the request;
which requests it fails may depend on all that were sent before. Fetching a page of a feed fails only
if the server fails the request for it, and otherwise brings the chunk of that page.
-/

namespace CloudClient

/-- A collection as a client asks for it and as its server keeps it. -/
structure Feed where
  client : Client
  type : ResourceType
  path : String
  parent? : Option ParentKey
  filter? : Option Filter
  /-- What becomes of the requests that the network brings to the server. -/
  server : Network
  items : List Json
  /-- How many items the server puts on a page. -/
  length : Nat

namespace Feed

def request (f : Feed) (page : Nat) : Except Error Request :=
  f.client.pageRequest f.path (page + 1) f.filter?

def chunk (f : Feed) (page : Nat) : List Json := Listing.chunk f.items f.length page

def Reads (f : Feed) : Json → Resource → Prop :=
  Resource.ReadFrom f.client.registry f.type f.parent?

/-- How many pages the server may say that there are: an empty collection has none or one. -/
def Counts (f : Feed) (pages : Nat) : Prop :=
  pages = Listing.chunkCount f.items.length f.length ∨ f.items = [] ∧ pages ≤ 1

structure Serves (f : Feed) : Prop where
  positive : 0 < f.length
  accepted : ∀ item ∈ f.items, ∃ r, f.Reads item r
  answers : ∀ {page r earlier answer}, f.request page = .ok r →
    (f.server earlier r).json? = some answer →
    answer.get? "data" = some (.arr (f.chunk page)) ∧
      answer.get? "results" = some (.nat f.items.length) ∧
      ∃ pages, answer.get? "pages" = some (.nat pages) ∧ f.Counts pages

structure Delivers (f : Feed) (page : Nat) (p : Page) : Prop where
  items : List.Forall₂ f.Reads (f.chunk page) p.items
  results : p.results = f.items.length
  pages : f.Counts p.pages

def fetch (f : Feed) (page : Nat) : Step World Page :=
  Page.fetch f.client f.type f.path f.parent? f.filter? (page + 1)

/-- The network loses requests, or hands on what becomes of them at the server. -/
def Carries (f : Feed) (network : Network) : Prop :=
  ∀ earlier r, network earlier r = .undelivered ∨ network earlier r = f.server earlier r

section Fetching
variable {f : Feed} {page : Nat} {w : World}

theorem count?_of_get? {answer : Json} {key : String} {n : Nat}
    (h : answer.get? key = some (.nat n)) :
    Page.count? answer key = .ok (some n) ∧ n < UInt64.size ∨
      UInt64.size ≤ n ∧ ∃ e, Page.count? answer key = .error e := by
  have hsome : answer.getSome? key = some (.nat n) := by simp [Json.getSome?, h, Json.nat, Json.isNull]
  by_cases hn : n < UInt64.size
  · refine .inl ⟨?_, hn⟩
    simp [Page.count?, hsome, Json.nat, Json.asNatBelow?, Json.asInt?, hn]
  · refine .inr ⟨Nat.le_of_not_lt hn, ?_⟩
    simp [Page.count?, hsome, Json.nat, Json.asNatBelow?, Json.asInt?, hn]

theorem Serves.delivers (hf : f.Serves) {r : Request} {earlier : List Request} {answer : Json}
    (hr : f.request page = .ok r) (haccepted : (f.server earlier r).json? = some answer) {p : Page}
    (hp : Page.DecodedFrom f.client.registry f.type f.parent? answer p) :
    f.Delivers page p ∧ f.items.length < UInt64.size := by
  obtain ⟨hdata, hresults, pages, hpages, hcounts⟩ := hf.answers hr haccepted
  obtain ⟨data, hdata', hitems⟩ := hp.items
  cases hdata.symm.trans hdata'
  obtain ⟨results?, hresults?, hpresults⟩ := hp.results
  obtain ⟨pages?, hpages?, hppages⟩ := hp.pages
  rcases count?_of_get? hresults with ⟨hresults, hsize⟩ | ⟨-, e, hresults⟩
  · cases hresults.symm.trans hresults?
    rcases count?_of_get? hpages with ⟨hpages, -⟩ | ⟨-, e, hpages⟩
    · cases hpages.symm.trans hpages?
      exact ⟨⟨hitems, hpresults, hppages ▸ hcounts⟩, hsize⟩
    · cases hpages.symm.trans hpages?
  · cases hresults.symm.trans hresults?

theorem Serves.decodes (hf : f.Serves) (hsize : f.items.length < UInt64.size) {r : Request}
    {earlier : List Request} {answer : Json} (hr : f.request page = .ok r)
    (haccepted : (f.server earlier r).json? = some answer) (now : Nat) (log : Log) :
    ∃ p log', Page.decode f.client.registry now f.type f.parent? answer log = (.ok p, log') := by
  obtain ⟨hdata, hresults, pages, hpages, hcounts⟩ := hf.answers hr haccepted
  have hheld : (f.chunk page).length ≤ f.length := by
    simp only [chunk, Listing.length_chunk]
    exact Nat.min_le_left _ _
  have hbound : pages ≤ Page.maxPages f.items.length (f.chunk page).length := by
    rcases hcounts with rfl | ⟨-, hone⟩
    · exact Listing.chunkCount_le_maxPages _ hf.positive hheld
    · exact Nat.le_trans hone (Nat.le_add_left 1 _)
  have hfew : pages < UInt64.size := by
    rcases hcounts with rfl | ⟨-, hone⟩
    · refine Nat.lt_of_le_of_lt ?_ hsize
      exact (Listing.chunkCount_le_iff hf.positive).mpr (Nat.le_mul_of_pos_right _ hf.positive)
    · exact Nat.lt_of_le_of_lt hone (by decide)
  have hresults? : Page.count? answer "results" = .ok (some f.items.length) := by
    rcases count?_of_get? hresults with ⟨h, -⟩ | ⟨h, -⟩
    · exact h
    · exact absurd hsize (Nat.not_lt.mpr h)
  have hpages? : Page.count? answer "pages" = .ok (some pages) := by
    rcases count?_of_get? hpages with ⟨h, -⟩ | ⟨h, -⟩
    · exact h
    · exact absurd hfew (Nat.not_lt.mpr h)
  refine Page.decode_of_read hdata (fun item hi log => ?_) hresults? hpages? hbound log
  have hmem : item ∈ f.items := List.mem_of_mem_drop (List.mem_of_mem_take hi)
  obtain ⟨_, _, _, _, hread⟩ := hf.accepted item hmem
  obtain ⟨r, log', hread, -⟩ := Resource.ofItem_any_time hread now log
  exact ⟨r, log', hread⟩

inductive Fetched (f : Feed) (page : Nat) (w : World) : Except Error Page → World → Prop
  | refused {r : Request} {e : Error} {w' : World} (hr : f.request page = .ok r)
      (hrefused : (w.network w.sent r).json? = none) (hnetwork : w'.network = w.network)
      (hsent : w'.sent = w.sent ∨ w'.sent = w.sent ++ [r] ∧ (f.server w.sent r).json? = none) :
      Fetched f page w (.error e) w'
  | received {r : Request} {p : Page} {log : Log} (hr : f.request page = .ok r)
      (haccepted : (f.server w.sent r).json?.isSome = true) (hp : f.Delivers page p) :
      Fetched f page w (.ok p) { w with sent := w.sent ++ [r], log }

theorem Carries.of_json {network : Network} (h : f.Carries network) {earlier : List Request}
    {r : Request} {answer : Json} (hanswer : (network earlier r).json? = some answer) :
    (f.server earlier r).json? = some answer := by
  rcases h earlier r with hlost | hserver
  · rw [hlost] at hanswer
    cases hanswer
  · rwa [← hserver]

theorem fetch_fetched (hf : f.Serves) (hsize : f.items.length < UInt64.size) {r : Request}
    (hr : f.request page = .ok r) (hfault : Exchange.fault? r = none)
    (hnetwork : f.Carries w.network) : (f.fetch page).Yields w (f.Fetched page w) := by
  refine (Page.fetch_fetched _ _ _ _ _ _ w).mono fun result w' h => ?_
  cases h with
  | unasked h => cases hr.symm.trans h
  | failed hr' h =>
    cases hr.symm.trans hr'
    cases h with
    | withheld h =>
      rcases h with h | h
      · exact absurd hfault h
      · exact .refused hr (by rw [h]; rfl) rfl (.inl rfl)
    | refused harrived h =>
      have hserver : (f.server w.sent r).json? = none := (hnetwork w.sent r).resolve_left harrived ▸ h
      exact .refused hr h rfl (.inr ⟨rfl, hserver⟩)
  | @answered _ answer before after result hr' _ h hdecode =>
    cases hr.symm.trans hr'
    have hserver : (f.server w.sent r).json? = some answer := hnetwork.of_json h
    obtain ⟨p, log, hdecodes⟩ := hf.decodes hsize hr hserver w.now before
    cases hdecode.symm.trans hdecodes
    refine .received hr (by rw [hserver]; rfl) ?_
    exact (hf.delivers hr hserver (Page.decode_ok hdecode)).1

end Fetching
end Feed
end CloudClient
