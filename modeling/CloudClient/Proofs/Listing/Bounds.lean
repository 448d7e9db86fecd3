import CloudClient.Proofs.Listing.Checked
import CloudClient.Proofs.Listing.Source
import CloudClient.Proofs.Resource.Requests

/-!
# Lists of any shape

A server chooses every number and every page. Whatever it chose, a list that could be opened keeps
its counts, its table and its requests in bounds through every call.
-/

namespace CloudClient.Listing.Source
variable {o : Source} {first : Page} {start : Nat} {list : Listing} {w w' : World}
  {s : Listing × World}

/-- The page that opens a list. If the answer does not count the results, they are its items. -/
def Opening (o : Source) (earlier : List Request) (first : Page) : Prop :=
  ∃ r answer given?, o.request 0 = .ok r ∧ (o.server earlier r).json? = some answer ∧
    o.Decodes answer first ∧ Page.count? answer "results" = .ok given? ∧
      first.results = given?.getD first.items.length

/-- A list that was opened with a page, after requests that were sent before. -/
structure WellFormed (o : Source) (first : Page) (start : Nat) (s : Listing × World) : Prop where
  perPage : 1 ≤ s.1.perPage
  positive : 1 ≤ s.1.pageCount
  bounded : s.1.pageCount ≤ first.results ⌈/⌉ max 1 first.items.length + 1
  table : s.1.table.length ≤ s.1.pageCount
  cached : ∀ page rs, s.1.page? page = some rs → ∃ i r p, start ≤ i ∧ o.request page = .ok r ∧
    o.Brought s.2.sent i r p ∧ p.items = rs
  asked : ∀ i r, start ≤ i → s.2.sent[i]? = some r → ∃ page < s.1.pageCount, o.request page = .ok r
  once : ∀ i j r p, start ≤ i → i < j → o.Brought s.2.sent i r p → s.2.sent[j]? ≠ some r
  beyond : ∀ index, s.1.total ≤ index → get? o.client index s = (.ok none, s)
  /-- No call leaves 64 bits, divides by zero, misses a slot or asks for a page out of bounds. The
  first page is held, so the number of its items is one of 64 bits. -/
  unstopped : first.items.length < UInt64.size →
    ∀ call : Call, (Checked.perform o.client call).Runs (call.perform o.client) s

theorem get?_of_total_le {client : Client} {index : Nat} (h : s.1.total ≤ index) :
    get? client index s = (.ok none, s) := by
  unfold get?
  rw [Step.bind_of_ok (Step.read_apply _ _)]
  simp [h]

theorem Grown.fitting (h : Grown o first start s) {answer : Json}
    (hfirst : Page.DecodedFrom o.client.registry o.type o.parent? answer first)
    (hheld : first.items.length < UInt64.size) : Checked.Fitting s.1 := by
  obtain ⟨table, hrest⟩ := h.rest
  obtain ⟨results?, hresults, hresults'⟩ := hfirst.results
  obtain ⟨pages?, hpages, hpages'⟩ := hfirst.pages
  have hsize : 1 < UInt64.size := by decide
  have hcount : first.results < UInt64.size := by
    rw [hresults']
    cases results? with
    | none => exact hheld
    | some n => exact Checked.count?_lt hresults
  have hmany : first.pages < UInt64.size := by
    rw [hpages']
    cases pages? with
    | none => exact hsize
    | some n => exact Checked.count?_lt hpages
  have hcounted : (ofFirst o.client o.type o.path o.parent? o.filter? first).total <
      UInt64.size := by
    simp only [ofFirst]
    split <;> assumption
  refine ⟨h.perPage_pos, ?_, ?_⟩
  · rw [hrest]
    exact Nat.max_lt.mpr ⟨hmany, hsize⟩
  · rw [hrest]
    exact hcounted

theorem Grown.wellFormed (h : Grown o first start s) {answer : Json}
    (hfirst : Page.DecodedFrom o.client.registry o.type o.parent? answer first) :
    o.WellFormed first start s := by
  have hbounded : first.pages ≤ first.results ⌈/⌉ max 1 first.items.length + 1 := by
    rw [Nat.max_comm]
    exact hfirst.bounded
  refine ⟨h.perPage_pos, ?_, ?_, h.table, h.trace.cached, fun i r hi hr => ?_, h.trace.once,
    fun index hindex => get?_of_total_le hindex, fun hheld call => ?_⟩
  · obtain ⟨table, hrest⟩ := h.rest
    rw [hrest]
    exact Nat.le_max_right first.pages 1
  · obtain ⟨table, hrest⟩ := h.rest
    rw [hrest]
    exact Nat.max_le.mpr ⟨hbounded, Nat.le_add_left 1 _⟩
  · obtain ⟨page, hpage, hrequest, -⟩ := h.trace.asked i r hi hr
    exact ⟨page, hpage, hrequest⟩
  · exact Checked.perform_runs (h.fitting hfirst hheld) call

/-- A list stays well formed over any server: whatever was answered to the first request and since,
and whatever was called in any order. -/
theorem visits_wellFormed (hnetwork : o.Carries w.network)
    (hopened : opened o.client o.type o.path o.parent? o.filter? w = (.ok list, w'))
    (h : o.Visits (list, w') s) :
    (Checked.fetch o.client o.type o.path o.parent? o.filter? 1).Runs
        (Page.fetch o.client o.type o.path o.parent? o.filter? 1) w ∧
      ∃ first, o.Opening w.sent first ∧ o.WellFormed first w.sent.length s := by
  obtain ⟨r, first, hr, ⟨answer, hanswer, hfirst⟩, hgrown⟩ := opened_grown hnetwork hopened
  obtain ⟨given?, hgiven, hresults⟩ := hfirst.from_answer.results
  refine ⟨Checked.fetch_runs _ _ _ _ _ _ _, first, ?_, ?_⟩
  · exact ⟨r, answer, given?, hr, hanswer, hfirst, hgiven, hresults⟩
  · exact (visits_grown hgrown h).wellFormed hfirst.from_answer

/-! ## Nodes without end -/

/-- One node on the first of as many pages as can be counted, then an answer that is no page, and
then always two nodes. -/
def endless : Source where
  client := Resource.clientOf .nodeRegistry
  type := Registry.nodeType
  path := "/nodes"
  parent? := none
  filter? := none
  server := fun earlier _ => .ofJson <| match earlier.length with
    | 0 => .obj [("data", .arr [.obj [("id", .nat 1)]]), ("pages", .nat (UInt64.size - 1)),
        ("results", .nat (UInt64.size - 1))]
    | 1 => .obj [("data", .null)]
    | _ => .obj [("data", .arr [.obj [("id", .nat 2)], .obj [("id", .nat 3)]])]

theorem visits_wellFormed_endless : ∃ list w' e s answer t first,
    opened endless.client endless.type endless.path none none { network := endless.server } =
        (.ok list, w') ∧
      Call.perform endless.client (.get 1) (list, w') = (.error e, s) ∧
      Call.perform endless.client (.get 1) s = (.ok answer, t) ∧ t.2.sent.length = 3 ∧
      endless.Opening [] first ∧ endless.WellFormed first 0 t := by
  have hruns : (match opened endless.client endless.type endless.path none none
        { network := endless.server } with
      | (.ok list, w') =>
        match Call.perform endless.client (.get 1) (list, w') with
        | (.error _, s) =>
          match Call.perform endless.client (.get 1) s with
          | (.ok _, t) => t.2.sent.length
          | _ => 0
        | _ => 0
      | _ => 0) = 3 := by decide +kernel
  generalize hopened : opened endless.client endless.type endless.path none none
    { network := endless.server } = outcome at hruns
  obtain ⟨_ | list, w'⟩ := outcome
  · cases hruns
  dsimp only at hruns
  generalize hfails : Call.perform endless.client (.get 1) (list, w') = outcome at hruns
  obtain ⟨e | _, s⟩ := outcome
  · dsimp only at hruns
    generalize hget : Call.perform endless.client (.get 1) s = outcome at hruns
    obtain ⟨_ | answer, t⟩ := outcome
    · cases hruns
    · obtain ⟨-, first, hopening, hformed⟩ := visits_wellFormed (o := endless)
        (fun _ _ => .inr rfl) hopened (.called _ (.called _ .opened hfails) hget)
      exact ⟨list, w', e, s, answer, t, first, rfl, hfails, hget, hruns, hopening, hformed⟩
  · cases hruns

end CloudClient.Listing.Source
