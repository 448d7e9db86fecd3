import CloudClient.Proofs.Listing.Call
import CloudClient.Proofs.Population.Clock

/-!
# Lists over any server

Of a server nothing is known but what it answered. A page is cached if an answer to the request for
it brought it, only pages of the list are asked for, and a request that brought a page is not sent
again. Every call keeps this, whatever the answers are and whether or not it succeeds.
-/

namespace CloudClient

/-! ## Decoding at any time -/

namespace Page
variable {registry : Registry} {type : ResourceType} {parent? : Option ParentKey} {answer : Json}
  {page : Page}

theorem DecodedFrom.any_time (h : DecodedFrom registry type parent? answer page) (now : Nat)
    (log : Log) :
    ∃ page' log', decode registry now type parent? answer log = (.ok page', log') := by
  obtain ⟨data, hdata, hitems⟩ := h.items
  obtain ⟨results?, hresults, hresults'⟩ := h.results
  obtain ⟨pages?, hpages, hpages'⟩ := h.pages
  have hbounded := h.bounded
  rw [hresults', hpages', ← hitems.length_eq] at hbounded
  refine decode_of_read hdata (fun item hitem log => ?_) hresults hpages hbounded log
  obtain ⟨i, hi, rfl⟩ := List.getElem_of_mem hitem
  obtain ⟨_, _, _, hread⟩ := hitems.get hi (hitems.length_eq ▸ hi)
  obtain ⟨s, log', hread, -⟩ := Resource.ofItem_any_time hread now log
  exact ⟨s, log', hread⟩

end Page

/-! ## Sources -/

structure Listing.Source where
  client : Client
  type : ResourceType
  path : String
  parent? : Option ParentKey
  filter? : Option Filter
  /-- What becomes of the requests that the network brings to the server. -/
  server : Network

namespace Listing.Source
variable {o : Source} {start page : Nat} {list list' : Listing} {earlier sent : List Request}
  {r : Request} {p first : Page} {w w' : World}

def request (o : Source) (page : Nat) : Except Error Request :=
  o.client.pageRequest o.path (page + 1) o.filter?

def Carries (o : Source) (network : Network) : Prop :=
  ∀ earlier r, network earlier r = .undelivered ∨ network earlier r = o.server earlier r

def Decodes (o : Source) (answer : Json) (p : Page) : Prop :=
  ∃ now before after,
    Page.decode o.client.registry now o.type o.parent? answer before = (.ok p, after)

def Brings (o : Source) (earlier : List Request) (r : Request) (p : Page) : Prop :=
  ∃ answer, (o.server earlier r).json? = some answer ∧ o.Decodes answer p

def Brought (o : Source) (sent : List Request) (i : Nat) (r : Request) (p : Page) : Prop :=
  sent[i]? = some r ∧ o.Brings (sent.take i) r p

theorem request_injective {other : Nat} (h : o.request page = .ok r)
    (hother : o.request other = .ok r) : page = other :=
  Nat.succ.inj (Client.pageRequest_injective h hother rfl)

theorem Decodes.from_answer {answer : Json} (h : o.Decodes answer p) :
    Page.DecodedFrom o.client.registry o.type o.parent? answer p := by
  obtain ⟨now, before, after, h⟩ := h
  exact Page.decode_ok h

/-! ## Requests that were sent -/

theorem Brought.lt_length {i : Nat} (h : o.Brought sent i r p) : i < sent.length :=
  (List.getElem?_eq_some_iff.mp h.1).1

theorem brought_append_iff {s : Request} {i : Nat} (hi : i < sent.length) :
    o.Brought (sent ++ [s]) i r p ↔ o.Brought sent i r p := by
  unfold Brought
  rw [List.getElem?_append_left hi, List.take_append_of_le_length (Nat.le_of_lt hi)]

theorem brought_concat_iff {s : Request} :
    o.Brought (sent ++ [s]) sent.length r p ↔ s = r ∧ o.Brings sent r p := by
  simp [Brought]

/-- The requests from a place on, and the table that they led to. -/
structure Trace (o : Source) (start : Nat) (list : Listing) (sent : List Request) : Prop where
  opened : start ≤ sent.length
  cached : ∀ page rs, list.page? page = some rs → ∃ i r p, start ≤ i ∧ o.request page = .ok r ∧
    o.Brought sent i r p ∧ p.items = rs
  asked : ∀ i r, start ≤ i → sent[i]? = some r → ∃ page < list.pageCount,
    o.request page = .ok r ∧ ∀ p, o.Brought sent i r p → (list.page? page).isSome = true
  once : ∀ i j r p, start ≤ i → i < j → o.Brought sent i r p → sent[j]? ≠ some r

theorem Trace.of_same (h : Trace o start list sent) (hcount : list'.pageCount = list.pageCount)
    (hpages : ∀ page, list'.page? page = list.page? page) : Trace o start list' sent := by
  refine ⟨h.opened, fun page rs hrs => h.cached page rs (hpages page ▸ hrs), fun i r hi hr => ?_,
    h.once⟩
  simpa only [hcount, hpages] using h.asked i r hi hr

theorem Trace.append (h : Trace o start list sent) (hpage : page < list.pageCount)
    (hr : o.request page = .ok r) (hnew : list.page? page = none)
    (hcount : list'.pageCount = list.pageCount)
    (hothers : ∀ other ≠ page, list'.page? other = list.page? other)
    (hthere : ∀ rs, list'.page? page = some rs → ∃ p, o.Brings sent r p ∧ p.items = rs)
    (hknown : ∀ p, o.Brings sent r p → (list'.page? page).isSome = true) :
    Trace o start list' (sent ++ [r]) := by
  refine ⟨by simpa using Nat.le_succ_of_le h.opened, fun other rs hrs => ?_, fun i s hi hs => ?_,
    fun i j s p hi hij hbrought hj => ?_⟩
  · by_cases ho : other = page
    · subst ho
      obtain ⟨p, hp, hitems⟩ := hthere rs hrs
      exact ⟨sent.length, r, p, h.opened, hr, brought_concat_iff.mpr ⟨rfl, hp⟩, hitems⟩
    · obtain ⟨i, s, p, hi, hs, hp, hitems⟩ := h.cached other rs (hothers other ho ▸ hrs)
      exact ⟨i, s, p, hi, hs, (brought_append_iff hp.lt_length).mpr hp, hitems⟩
  · have hlength : i < sent.length + 1 := by simpa using (List.getElem?_eq_some_iff.mp hs).1
    rcases Nat.lt_succ_iff_lt_or_eq.mp hlength with hlt | rfl
    · rw [List.getElem?_append_left hlt] at hs
      obtain ⟨other, hother, hrequest, hbrought⟩ := h.asked i s hi hs
      refine ⟨other, hcount ▸ hother, hrequest, fun p hp => ?_⟩
      have hthere := hbrought p ((brought_append_iff hlt).mp hp)
      have hne : other ≠ page := fun heq => by simp [heq, hnew] at hthere
      rwa [hothers other hne]
    · rw [List.getElem?_concat_length] at hs
      cases hs
      exact ⟨page, hcount ▸ hpage, hr, fun p hp => hknown p (brought_concat_iff.mp hp).2⟩
  · have hlength : j < sent.length + 1 := by simpa using (List.getElem?_eq_some_iff.mp hj).1
    have hold : o.Brought sent i s p := (brought_append_iff (by omega)).mp hbrought
    rcases Nat.lt_succ_iff_lt_or_eq.mp hlength with hlt | rfl
    · rw [List.getElem?_append_left hlt] at hj
      exact h.once i j s p hi hij hold hj
    · rw [List.getElem?_concat_length] at hj
      cases hj
      obtain ⟨other, -, hother, hthere⟩ := h.asked i r hi hold.1
      cases request_injective hr hother
      simpa [hnew] using hthere p hold

/-! ## Fetching -/

inductive Fetched (o : Source) (page : Nat) (w : World) : Except Error Page → World → Prop
  | unsent {e : Error} {w' : World} (hnetwork : w'.network = w.network) (hsent : w'.sent = w.sent) :
      Fetched o page w (.error e) w'
  | refused {r : Request} {e : Error} {w' : World} (hr : o.request page = .ok r)
      (h : ∀ p, ¬ o.Brings w.sent r p) (hnetwork : w'.network = w.network)
      (hsent : w'.sent = w.sent ++ [r]) : Fetched o page w (.error e) w'
  | brought {r : Request} {p : Page} {w' : World} (hr : o.request page = .ok r)
      (h : o.Brings w.sent r p) (hnetwork : w'.network = w.network)
      (hsent : w'.sent = w.sent ++ [r]) : Fetched o page w (.ok p) w'

theorem Carries.of_json {network : Network} (h : o.Carries network) {answer : Json}
    (hanswer : (network earlier r).json? = some answer) :
    (o.server earlier r).json? = some answer := by
  rcases h earlier r with hlost | hserver
  · rw [hlost] at hanswer
    cases hanswer
  · rwa [← hserver]

theorem fetch_fetched (hnetwork : o.Carries w.network) (page : Nat) :
    (Page.fetch o.client o.type o.path o.parent? o.filter? (page + 1)).Yields w
      (o.Fetched page w) := by
  refine (Page.fetch_fetched _ _ _ _ _ _ w).mono fun result w' h => ?_
  cases h with
  | unasked => exact .unsent rfl rfl
  | @failed r e w' hr h =>
    cases h with
    | withheld => exact .unsent rfl rfl
    | refused harrived h =>
      have hserver : (o.server w.sent r).json? = none :=
        (hnetwork w.sent r).resolve_left harrived ▸ h
      refine .refused hr (fun p hp => ?_) rfl rfl
      obtain ⟨answer, hanswer, -⟩ := hp
      cases hserver.symm.trans hanswer
  | @answered r answer before after result hr hfault hanswer hdecode =>
    have hserver : (o.server w.sent r).json? = some answer := hnetwork.of_json hanswer
    cases result with
    | ok p => exact .brought hr ⟨answer, hserver, w.now, before, after, hdecode⟩ rfl rfl
    | error e =>
      refine .refused hr (fun p hp => ?_) rfl rfl
      obtain ⟨answer', hanswer', hp⟩ := hp
      cases hserver.symm.trans hanswer'
      obtain ⟨_, _, hdecode'⟩ := hp.from_answer.any_time w.now before
      cases hdecode.symm.trans hdecode'

/-! ## Calls -/

/-- A list that was opened with a page, and what it led to since. -/
structure Grown (o : Source) (first : Page) (start : Nat) (s : Listing × World) : Prop where
  rest : ∃ table, s.1 = { ofFirst o.client o.type o.path o.parent? o.filter? first with table }
  table : s.1.table.length ≤ s.1.pageCount
  network : o.Carries s.2.network
  trace : o.Trace start s.1 s.2.sent

theorem Grown.grownTo (h : Grown o first start (list, w)) (hpage : page < list.pageCount)
    (hnetwork : w'.network = w.network) (htrace : o.Trace start (list.grownTo page) w'.sent) :
    Grown o first start (list.grownTo page, w') := by
  have htable : list.table.length ≤ list.pageCount := h.table
  have hcarries : o.Carries w.network := h.network
  refine ⟨?_, ?_, ?_, htrace⟩
  · obtain ⟨table, rfl⟩ := h.rest
    exact ⟨_, rfl⟩
  · rw [length_grownTo]
    exact Nat.max_le.mpr ⟨htable, hpage⟩
  · rwa [← hnetwork] at hcarries

theorem Grown.perPage_pos {s : Listing × World} (h : Grown o first start s) : 0 < s.1.perPage := by
  obtain ⟨table, hrest⟩ := h.rest
  rw [hrest]
  simp only [ofFirst]
  split <;> omega

theorem Grown.fetch_eq (h : Grown o first start (list, w)) (number : Nat) :
    Page.fetch o.client list.type list.path list.parent? list.filter? number =
      Page.fetch o.client o.type o.path o.parent? o.filter? number := by
  obtain ⟨table, rfl⟩ := h.rest
  rfl

theorem ensurePage_grown (h : Grown o first start (list, w)) (hpage : page < list.pageCount) :
    (ensurePage o.client page).Yields (list, w) fun _ t => Grown o first start t := by
  have hgrown := page?_grownTo list page
  have hsame : o.Trace start (list.grownTo page) w.sent := h.trace.of_same rfl hgrown
  have hfetch := fetch_fetched h.network page
  rw [← h.fetch_eq] at hfetch
  refine (ensurePage_outcome o.client list w page).mono fun result t ht => ?_
  cases ht with
  | there => exact h.grownTo hpage rfl hsame
  | failed hnew hfailed =>
    cases hfetch.of_eq hfailed with
    | unsent hnetwork hsent => exact h.grownTo hpage hnetwork (hsent ▸ hsame)
    | refused hr hnone hnetwork hsent =>
      refine h.grownTo hpage hnetwork (hsent ▸ h.trace.append hpage hr hnew rfl
        (fun other _ => hgrown other) (fun rs hrs => ?_) fun p hp => absurd hp (hnone p))
      cases hnew.symm.trans ((hgrown page).symm.trans hrs)
  | @fetched p w' hnew hfetched =>
    cases hfetch.of_eq hfetched with
    | brought hr hp hnetwork hsent =>
      have hthere := page?_withPage_self (lt_length_grownTo list page) p.items
      have hplace : Grown o first start (list.grownTo page, { w' with sent := w.sent }) :=
        h.grownTo hpage hnetwork hsame
      have htrace : o.Trace start ((list.grownTo page).withPage page p.items) w'.sent := by
        refine hsent ▸ h.trace.append hpage hr hnew rfl (fun other ho => ?_) (fun rs hrs => ?_)
          fun _ _ => Option.isSome_of_eq_some hthere
        · exact (page?_withPage_of_ne ho p.items).trans (hgrown other)
        · exact ⟨p, hp, Option.some.inj (hthere.symm.trans hrs)⟩
      have htable := hplace.table
      obtain ⟨table, hrest⟩ := hplace.rest
      refine ⟨⟨table.set page (some p.items), ?_⟩, by simpa [Listing.withPage] using htable,
        hplace.network, htrace⟩
      dsimp only at hrest ⊢
      rw [Listing.withPage, hrest]

theorem Grown.counts_eq {s s' : Listing × World} (h : Grown o first start s)
    (h' : Grown o first start s') : s.1.pageCount = s'.1.pageCount ∧
      s.1.perPage = s'.1.perPage ∧ s.1.total = s'.1.total := by
  obtain ⟨_, hrest⟩ := h.rest
  obtain ⟨_, hrest'⟩ := h'.rest
  rw [hrest, hrest']
  exact ⟨rfl, rfl, rfl⟩

theorem perform_grown (call : Call) :
    Keeps (Grown o first start) (call.perform o.client) := by
  refine Call.perform_keeps (fun page hpage s hs => ?_) call
  obtain ⟨s', hs', hlt⟩ := hpage
  exact ensurePage_grown hs ((hs.counts_eq hs').1 ▸ hlt)

/-! ## From the opening on -/

theorem opened_grown (hnetwork : o.Carries w.network)
    (h : opened o.client o.type o.path o.parent? o.filter? w = (.ok list, w')) :
    ∃ r first, o.request 0 = .ok r ∧ o.Brings w.sent r first ∧
      Grown o first w.sent.length (list, w') := by
  obtain ⟨first, w₁, hfetch, rfl, hw'⟩ := opened_ok h
  have hfetched := (fetch_fetched hnetwork 0).of_eq hfetch
  cases hfetched with
  | @brought r _ _ hr hp hcarried hsent =>
    have hsent' : w'.sent = w.sent ++ [r] := by rw [hw', hsent]
    have hcarried' : w'.network = w.network := by rw [hw', hcarried]
    refine ⟨r, first, hr, hp, ⟨_, rfl⟩, ?_, ?_, ?_⟩
    · exact Nat.le_max_right first.pages 1
    · rwa [← hcarried'] at hnetwork
    · let list := ofFirst o.client o.type o.path o.parent? o.filter? first
      have hempty : o.Trace w.sent.length { list with table := [] } w.sent := by
        refine ⟨Nat.le_refl _, fun page rs hrs => (by cases hrs), fun i r hi hr => ?_,
          fun i j r p hi hij hp => ?_⟩
        · exact absurd (List.getElem?_eq_some_iff.mp hr).1 (Nat.not_lt.mpr hi)
        · exact absurd hp.lt_length (Nat.not_lt.mpr hi)
      refine hsent' ▸ hempty.append (Nat.lt_of_lt_of_le Nat.zero_lt_one (Nat.le_max_right _ _)) hr
        rfl rfl (fun other ho => ?_) (fun rs hrs => ?_) fun _ _ => rfl
      · obtain ⟨n, rfl⟩ := Nat.exists_eq_succ_of_ne_zero ho
        rfl
      · exact ⟨first, hp, Option.some.inj hrs⟩

/-- What a list can come to: calls one after another, whether or not they succeed, and waiting,
after which the network may lose other requests. -/
inductive Visits (o : Source) (s₀ : Listing × World) : Listing × World → Prop
  | opened : Visits o s₀ s₀
  | waited {s : Listing × World} (now : Nat) {network : Network} (hnetwork : o.Carries network)
      (h : Visits o s₀ s) : Visits o s₀ (s.1, { s.2 with now, network })
  | called {s t : Listing × World} {result : Except Error (Answer Resource)} (call : Call)
      (h : Visits o s₀ s) (hcall : call.perform o.client s = (result, t)) : Visits o s₀ t

theorem visits_grown {s₀ s : Listing × World} (hs : Grown o first start s₀) (h : o.Visits s₀ s) :
    Grown o first start s := by
  induction h with
  | opened => exact hs
  | waited now hnetwork _ ih => exact ⟨ih.rest, ih.table, hnetwork, ih.trace⟩
  | called call _ hcall ih => exact (perform_grown call _ ih).of_eq hcall

end Listing.Source
end CloudClient
