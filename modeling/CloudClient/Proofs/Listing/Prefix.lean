import CloudClient.Proofs.Json.Numbers
import CloudClient.Proofs.Listing.Visits

/-!
# Pages that a prefix needs

A server that fails no request for a page of a feed is asked for the first page when the list is
opened, and then for one page after another as the items on it are reached. So what is read up to a
limit are the first items of the feed, and each page up to that of the last of them was asked for
once and in order, and no other page was.
-/

namespace CloudClient

theorem Delivery.held_of_json? {d : Delivery} {v : Json} (h : d.json? = some v) : v.Held := by
  cases d with
  | answered response =>
    obtain ⟨-, h⟩ := Option.ite_none_right_eq_some.mp h
    split at h
    · cases h
      trivial
    · exact Json.held_of_read? h
  | _ => cases h

namespace Listing
variable {length index : Nat}

/-- How many pages hold the first items, the first page counted in any case. -/
def pagesFor (length count : Nat) : Nat := max 1 (chunkCount count length)

theorem pagesFor_succ (hlength : 0 < length) (index : Nat) :
    pagesFor length (index + 1) = index / length + 1 := by
  have hcount : chunkCount (index + 1) length = index / length + 1 := by
    rw [chunkCount, Nat.succ_add_sub_one, Nat.add_div_right _ hlength]
  rw [pagesFor, hcount]
  exact Nat.max_eq_right (Nat.le_add_left 1 _)

theorem div_le_pagesFor (hlength : 0 < length) (index : Nat) :
    index / length ≤ pagesFor length index := by
  have hcount : index / length ≤ chunkCount index length :=
    Nat.div_le_div_right (by omega)
  exact Nat.le_trans hcount (Nat.le_max_right _ _)

theorem pagesFor_le_succ (hlength : 0 < length) (index : Nat) :
    pagesFor length index ≤ pagesFor length (index + 1) := by
  have hcount : chunkCount index length ≤ chunkCount (index + 1) length :=
    Nat.div_le_div_right (by omega)
  exact Nat.max_le.mpr ⟨Nat.le_max_left _ _, Nat.le_trans hcount (Nat.le_max_right _ _)⟩

theorem pagesFor_of_le (hlength : 0 < length) {count : Nat} (h : count ≤ length) :
    pagesFor length count = 1 := by
  have hcount : chunkCount count length ≤ 1 := by
    rw [chunkCount_le_iff hlength, Nat.one_mul]
    exact h
  exact Nat.max_eq_left hcount

end Listing

namespace Feed
variable {f : Feed} {before : List Request} {length n page index : Nat}
  {s : Listing × World} {w : World}

/-! ## Servers that answer -/

def pageCount (f : Feed) : Nat := Listing.pagesFor f.length f.items.length

structure Answering (f : Feed) : Prop where
  serves : f.Serves
  sendable : ∃ r, f.request 0 = .ok r ∧ Exchange.fault? r = none
  answers : ∀ {page r} earlier, page < f.pageCount → f.request page = .ok r →
    (f.server earlier r).json?.isSome = true

theorem pageCount_pos (f : Feed) : 0 < f.pageCount := Nat.le_max_left _ _

theorem Answering.size (hf : f.Answering) : f.items.length < UInt64.size := by
  obtain ⟨r, hr, -⟩ := hf.sendable
  obtain ⟨answer, hanswer⟩ := Option.isSome_iff_exists.mp (hf.answers [] f.pageCount_pos hr)
  obtain ⟨-, hresults, -⟩ := hf.serves.answers hr hanswer
  have hheld : (Json.nat f.items.length).Held := (Delivery.held_of_json? hanswer).get? hresults
  have hsize : (f.items.length : Int) < 18446744073709551616 := hheld.2
  exact Int.ofNat_lt.mp hsize

theorem Answering.ready (hf : f.Answering) : f.Ready := by
  obtain ⟨r, hr, hfault⟩ := hf.sendable
  exact ⟨hf.serves, hf.size, fun page => Client.pageRequest_sendable hr hfault (page + 1)⟩

theorem Answering.fetch_eq (hf : f.Answering) (hpage : page < f.pageCount)
    (hnetwork : w.network = f.server) : ∃ r p log, f.request page = .ok r ∧
      f.fetch page w = (.ok p, { w with sent := w.sent ++ [r], log }) ∧ f.Delivers page p := by
  obtain ⟨r, hr, hfault⟩ := hf.ready.sendable page
  have hcarries : f.Carries w.network := fun _ _ => .inr (by rw [hnetwork])
  have hfetched := fetch_fetched hf.serves hf.size hr hfault hcarries
  generalize hrun : f.fetch page w = outcome
  obtain ⟨result, w'⟩ := outcome
  have hfetched := hfetched.of_eq hrun
  cases hfetched with
  | refused hr' hrefused =>
    have hanswered := hf.answers w.sent hpage hr'
    rw [hnetwork] at hrefused
    simp [hrefused] at hanswered
  | received hr' _ hp => exact ⟨_, _, _, hr', rfl, hp⟩

/-! ## The pages that were loaded -/

def Requests (f : Feed) (n : Nat) (rs : List Request) : Prop :=
  List.Forall₂ (fun page r => f.request page = .ok r) (List.range n) rs

theorem Requests.succ {rs : List Request} {r : Request} (h : f.Requests n rs)
    (hr : f.request n = .ok r) : f.Requests (n + 1) (rs ++ [r]) := by
  rw [Requests, List.range_succ]
  exact List.rel_append h (.cons hr .nil)

/-- The list holds the first pages, taken to be of a length, and only they were asked for. -/
structure Loaded (f : Feed) (before : List Request) (length n : Nat) (s : Listing × World) :
    Prop where
  faithful : f.Faithful before.length s
  perPage : s.1.perPage = length
  count : s.1.pageCount = f.pageCount
  there : ∀ page, (s.1.page? page).isSome = true ↔ page < n
  network : s.2.network = f.server
  sent : ∃ rs, s.2.sent = before ++ rs ∧ f.Requests n rs

theorem ensurePage_loaded (hf : f.Answering) (hs : f.Loaded before length n s) (hpage : page ≤ n)
    (hcount : page < s.1.pageCount) :
    ∃ t, Listing.ensurePage f.client page s = (.ok (), t) ∧
      f.Loaded before length (max n (page + 1)) t := by
  obtain ⟨list, w⟩ := s
  have hgrown := Listing.page?_grownTo list page
  generalize hrun : Listing.ensurePage f.client page (list, w) = outcome
  obtain ⟨result, t⟩ := outcome
  have houtcome := (Listing.ensurePage_outcome f.client list w page).of_eq hrun
  have hcalls := (ensurePage_calls hf.ready hs.faithful hcount).of_eq hrun
  have hfetch := hf.fetch_eq (hs.count ▸ hcount) hs.network
  rw [← hs.faithful.shape.fetch_eq] at hfetch
  cases houtcome with
  | there h =>
    have hmax : max n (page + 1) = n := Nat.max_eq_left ((hs.there page).mp h)
    rw [hmax]
    exact ⟨_, rfl, hcalls.1.faithful, hs.perPage, hs.count, fun other => by rw [hgrown, hs.there],
      hs.network, hs.sent⟩
  | failed h hfailed =>
    -- The server answers for every page that there is.
    obtain ⟨r, p, log, -, hfetched, -⟩ := hfetch
    cases hfetched.symm.trans hfailed
  | fetched h hfetched =>
    obtain ⟨r, p, log, hr, hfetched', -⟩ := hfetch
    cases hfetched'.symm.trans hfetched
    obtain ⟨rs, hsent, hrs⟩ := hs.sent
    have hnew : ¬ page < n := fun hlt => by simpa [h] using (hs.there page).mpr hlt
    obtain rfl : page = n := Nat.le_antisymm hpage (Nat.le_of_not_lt hnew)
    have hmax : max page (page + 1) = page + 1 := Nat.max_eq_right (Nat.le_succ page)
    rw [hmax]
    refine ⟨_, rfl, hcalls.1.faithful, hs.perPage, hs.count, fun other => ?_, hs.network,
      rs ++ [r], ?_, hrs.succ hr⟩
    · by_cases ho : other = page
      · subst ho
        rw [Listing.page?_withPage_self (Listing.lt_length_grownTo list other)]
        simp
      · rw [Listing.page?_withPage_of_ne ho, hgrown, hs.there]
        omega
    · show w.sent ++ [r] = before ++ (rs ++ [r])
      rw [← List.append_assoc, ← hsent]

/-! ## Reading on -/

theorem get?_loaded (hf : f.Answering) (hs : f.Loaded before length n s)
    (hindex : index < f.items.length) (hpage : index / length ≤ n) :
    ∃ r t, Listing.get? f.client index s = (.ok (some r), t) ∧
      f.Loaded before length (max n (index / length + 1)) t := by
  obtain ⟨hplace, -⟩ := hs.faithful.shape.placed index hindex
  have hin : ¬ (s.1.total ≤ index || s.1.pageCount ≤ index / s.1.perPage) = true := by
    have htotal := hs.faithful.shape.total
    simp only [Bool.or_eq_true, decide_eq_true_eq]
    omega
  have hperPage : index / s.1.perPage ≤ n := by rwa [hs.perPage]
  obtain ⟨t, hensured, ht⟩ := ensurePage_loaded hf hs hperPage hplace
  rw [hs.perPage] at ht
  have hrun : Listing.get? f.client index s = (.ok ((t.1.page? (index / s.1.perPage)).bind
      fun items => items[index % t.1.perPage]?), t) := by
    unfold Listing.get?
    rw [Step.bind_of_ok (Step.read_apply _ _), if_neg hin, Step.bind_of_ok hensured]
    rfl
  have hread := ((get?_calls hf.ready hs.faithful index).of_eq hrun).2
  rw [List.getElem?_eq_getElem hindex] at hread
  generalize (t.1.page? (index / s.1.perPage)).bind _ = r? at hread hrun
  cases hread with
  | some _ => exact ⟨_, t, hrun, ht⟩

theorem walk_loaded (hf : f.Answering) (hlength : 0 < length) (count : Nat)
    (hs : f.Loaded before length (Listing.pagesFor length index) s)
    (hcount : index + count ≤ f.items.length) :
    ∃ rs t, Listing.walk f.client count index s = (.ok rs, t) ∧
      f.Loaded before length (Listing.pagesFor length (index + count)) t := by
  induction count generalizing index s with
  | zero => exact ⟨[], s, rfl, hs⟩
  | succ count ih =>
    have hpage := Listing.div_le_pagesFor hlength index
    obtain ⟨r, t, hget, ht⟩ := get?_loaded hf hs (by omega) hpage
    have hpages : max (Listing.pagesFor length index) (index / length + 1) =
        Listing.pagesFor length (index + 1) := by
      rw [← Listing.pagesFor_succ hlength]
      exact Nat.max_eq_right (Listing.pagesFor_le_succ hlength index)
    rw [hpages] at ht
    obtain ⟨rs, u, hwalk, hu⟩ := ih ht (by omega)
    refine ⟨r :: rs, u, ?_, ?_⟩
    · rw [Listing.walk, Step.bind_of_ok hget]
      exact Step.bind_of_ok hwalk
    · have hsum : index + (count + 1) = index + 1 + count := by omega
      rwa [hsum]

/-! ## From the opening on -/

theorem openedBy_perPage (hf : f.Serves) {first : Page} (h : f.Delivers 0 first) :
    0 < (f.openedBy first).perPage ∧ ∀ count ≤ f.items.length,
      Listing.pagesFor (f.openedBy first).perPage count = Listing.pagesFor f.length count := by
  by_cases hmany : 1 < first.pages
  · rw [h.perPage_of_several hf hmany]
    exact ⟨hf.positive, fun _ _ => rfl⟩
  · have hfits : f.items.length ≤ f.length :=
      (h.pages.le_one_iff hf).mp (Nat.le_of_not_lt hmany)
    have hheld := h.length_eq
    have hperPage : 0 < (f.openedBy first).perPage ∧
        f.items.length ≤ (f.openedBy first).perPage := by
      simp only [openedBy, Listing.ofFirst, if_neg hmany]
      omega
    refine ⟨hperPage.1, fun count hcount => ?_⟩
    rw [Listing.pagesFor_of_le hperPage.1 (Nat.le_trans hcount hperPage.2),
      Listing.pagesFor_of_le hf.positive (Nat.le_trans hcount hfits)]

theorem Delivers.pageCount_eq (hf : f.Serves) {first : Page} (h : f.Delivers 0 first) :
    (f.openedBy first).pageCount = f.pageCount := by
  rcases h.pages with hpages | ⟨hempty, hle⟩
  · simp only [openedBy, Listing.ofFirst, hpages]
    exact Nat.max_comm _ _
  · have hone : f.pageCount = 1 := by
      rw [pageCount, hempty]
      exact Listing.pagesFor_of_le hf.positive (Nat.zero_le _)
    rw [hone]
    exact Nat.max_eq_right hle

theorem opened_of_fetch {client : Client} {type : ResourceType} {path : String}
    {parent? : Option ParentKey} {filter? : Option Filter} {first : Page} {w' : World}
    (h : Page.fetch client type path parent? filter? 1 w = (.ok first, w')) :
    ∃ log, Listing.opened client type path parent? filter? w =
      (.ok (.ofFirst client type path parent? filter? first), { w' with log }) := by
  unfold Listing.opened
  rw [Step.bind_of_ok h]
  split
  · exact ⟨_, rfl⟩
  · exact ⟨_, rfl⟩

theorem opened_loaded (hf : f.Answering) (hnetwork : w.network = f.server) :
    ∃ list w' length, Listing.opened f.client f.type f.path f.parent? f.filter? w =
        (.ok list, w') ∧
      f.Loaded w.sent length 1 (list, w') ∧ 0 < length ∧ ∀ count ≤ f.items.length,
        Listing.pagesFor length count = Listing.pagesFor f.length count := by
  obtain ⟨r, first, log, hr, hfetch, hfirst⟩ := hf.fetch_eq f.pageCount_pos hnetwork
  obtain ⟨log', hopened⟩ := opened_of_fetch hfetch
  have hcarries : f.Carries w.network := fun _ _ => .inr (by rw [hnetwork])
  obtain ⟨-, hfaithful⟩ := opened_faithful hf.serves hcarries hopened
  obtain ⟨hlength, hpages⟩ := openedBy_perPage hf.serves hfirst
  have hcount := hfirst.pageCount_eq hf.serves
  have hthere : ∀ page, ((f.openedBy first).page? page).isSome = true ↔ page < 1 := by
    intro page
    cases page <;> simp [Listing.page?, openedBy, Listing.ofFirst]
  exact ⟨_, _, _, hopened,
    ⟨hfaithful, rfl, hcount, hthere, hnetwork, [r], rfl, .cons hr .nil⟩, hlength, hpages⟩

def shown (f : Feed) (limit? : Option Nat) : Nat := min (limit?.getD f.items.length) f.items.length

/-- A list that is opened and read up to a limit gives the first items of the feed, and the requests
for the pages that hold them, or for the first page if there are none. -/
theorem stream_prefix (hf : f.Answering) (hnetwork : w.network = f.server) (limit? : Option Nat) :
    ∃ list w' rs list' w'' sent, Listing.opened f.client f.type f.path f.parent? f.filter? w =
        (.ok list, w') ∧
      Listing.stream f.client limit? (list, w') = (.ok rs, list', w'') ∧
      List.Forall₂ f.Reads (f.items.take (f.shown limit?)) rs ∧
      w''.sent = w.sent ++ sent ∧
      f.Requests (Listing.pagesFor f.length (f.shown limit?)) sent := by
  obtain ⟨list, w', length, hopened, hs, hlength, hpages⟩ := opened_loaded hf hnetwork
  have htotal : list.total = f.items.length := hs.faithful.shape.total
  have hnone : f.shown none = list.total := by simp [shown, htotal]
  have hsome : ∀ n, f.shown (some n) = min n list.total := by simp [shown, htotal]
  have hshown : f.shown limit? ≤ f.items.length := Nat.min_le_right _ _
  have hfirst : Listing.pagesFor length 0 = 1 := Listing.pagesFor_of_le hlength (Nat.zero_le _)
  rw [← hfirst] at hs
  obtain ⟨rs, t, hwalk, ht⟩ := walk_loaded hf hlength (f.shown limit?) hs (by omega)
  have hread := ((walk_calls hf.ready hs.faithful _ 0).of_eq hwalk).2
  rw [Nat.zero_add, hpages _ hshown] at ht
  obtain ⟨sent, hsent, hrequests⟩ := ht.sent
  refine ⟨list, w', rs, t.1, t.2, sent, hopened, ?_, hread, hsent, hrequests⟩
  cases limit? with
  | none =>
    rw [hnone] at hwalk
    exact hwalk
  | some n =>
    rw [hsome] at hwalk
    exact hwalk

end Feed
end CloudClient
