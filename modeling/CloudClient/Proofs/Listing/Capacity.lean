import CloudClient.Proofs.Listing.Bounds

/-!
# Room for the table

Reading an item grows the table as far as the page of the item. How far that can be is decided by
two counts of the first answer: the pages, and the results with the items that are held. A page count
beyond what the results need is refused, but the results are whatever the server says, so there are
answers that are accepted and lead to a table that no allocation has room for.
-/

namespace CloudClient

namespace Listing
variable {client : Client} {list : Listing} {s : Listing × World} {index : Nat}

/-- An allocation has at most 2 ^ 63 - 1 octets, and a slot has 24. -/
def maxSlots : Nat := (2 ^ 63 - 1) / 24

/-- The size to which the table is grown for an item; 0 if the list has no page for it. -/
def slotsFor (list : Listing) (index : Nat) : Nat :=
  if list.total ≤ index || list.pageCount ≤ index / list.perPage then 0
  else index / list.perPage + 1

def SlotsFit (list : Listing) : Prop := ∀ index, list.slotsFor index ≤ maxSlots

/-! ## Growing -/

theorem get?_grows (client : Client) (s : Listing × World) (index : Nat) :
    (get? client index).Yields s fun _ t =>
      t.1.table.length = max s.1.table.length (s.1.slotsFor index) := by
  refine Step.yields_read_bind.mpr ?_
  dsimp only
  unfold slotsFor
  split
  · exact (Nat.max_zero _).symm
  · refine (ensurePage_outcome client s.1 s.2 _).bind (fun _ t ht => ?_) fun _ t ht => ?_
    · exact ht.length_table
    · exact ht.length_table

theorem slotsFor_of_total_le (h : list.total ≤ index) : list.slotsFor index = 0 := by
  simp [slotsFor, h]

theorem last?_grows (client : Client) (s : Listing × World) :
    (last? client).Yields s fun _ t =>
      t.1.table.length = max s.1.table.length (s.1.slotsFor (s.1.total - 1)) := by
  refine Step.yields_read_bind.mpr ?_
  split
  · rename_i hempty
    have htotal : s.1.total = 0 := eq_of_beq hempty
    rw [slotsFor_of_total_le (by omega)]
    exact (Nat.max_zero _).symm
  · exact get?_grows client s _

/-! ## Fitting -/

theorem slotsFor_le_pageCount (list : Listing) (index : Nat) :
    list.slotsFor index ≤ list.pageCount := by
  unfold slotsFor
  split
  · exact Nat.zero_le _
  · rename_i hin
    simp only [Bool.or_eq_true, decide_eq_true_eq, not_or, Nat.not_le] at hin
    exact hin.2

theorem slotsFor_le_of_total_le {n : Nat} (hperPage : 0 < list.perPage)
    (h : list.total ≤ n * list.perPage) : list.slotsFor index ≤ n := by
  unfold slotsFor
  split
  · exact Nat.zero_le n
  · rename_i hin
    simp only [Bool.or_eq_true, decide_eq_true_eq, not_or, Nat.not_le] at hin
    exact (Nat.div_lt_iff_lt_mul hperPage).mpr (Nat.lt_of_lt_of_le hin.1 h)

theorem slotsFor_first {page : Nat} (hperPage : 0 < list.perPage) (hpage : page < list.pageCount)
    (htotal : page * list.perPage < list.total) :
    list.slotsFor (page * list.perPage) = page + 1 := by
  rw [slotsFor, Nat.mul_div_cancel page hperPage]
  simp only [Bool.or_eq_true, decide_eq_true_eq, Nat.not_le.mpr hpage, Nat.not_le.mpr htotal]
  rfl

theorem slotsFit_iff_counts (hperPage : 0 < list.perPage) : list.SlotsFit ↔
    list.pageCount ≤ maxSlots ∨ list.total ≤ maxSlots * list.perPage := by
  constructor
  · intro h
    by_contra hbeyond
    simp only [not_or, Nat.not_le] at hbeyond
    have hslots := h (maxSlots * list.perPage)
    rw [slotsFor_first hperPage hbeyond.1 hbeyond.2] at hslots
    exact Nat.not_succ_le_self _ hslots
  · intro h index
    rcases h with hpages | htotal
    · exact Nat.le_trans (slotsFor_le_pageCount list index) hpages
    · exact slotsFor_le_of_total_le hperPage htotal

end Listing

namespace Checked
open Listing (maxSlots)
variable {client : Client} {s : Listing × World}

/-- An access that stops where there is no room for the table. -/
def allocating {α : Type} (index : Nat) (x : Paging α) : Paging α := do
  let list ← lift (Step.read Prod.fst)
  demand (list.slotsFor index ≤ maxSlots)
  x

theorem allocating_runs_iff {α : Type} {m : Paging α} {x : CloudClient.Paging α} (h : m.Runs x s)
    (index : Nat) : (allocating index m).Runs x s ↔ s.1.slotsFor index ≤ maxSlots := by
  have hread : lift (Step.read Prod.fst) s = some (.ok s.1, s) := rfl
  unfold Runs allocating
  rw [bind_of_ok hread]
  by_cases hroom : s.1.slotsFor index ≤ maxSlots
  · have hdemand : demand (s.1.slotsFor index ≤ maxSlots) s = some (.ok (), s) := by
      simp only [demand, if_pos hroom]
      rfl
    rw [bind_of_ok hdemand]
    exact iff_of_true h hroom
  · refine iff_of_false (fun hruns => ?_) hroom
    simp only [demand, if_neg hroom] at hruns
    cases hruns

theorem last?_runs (hs : Fitting s.1) : (last? client).Runs (Listing.last? client) s := by
  refine Runs.bind (.lift _ _) fun list t ht => ?_
  cases ht
  split
  · exact .pure none s
  · exact get?_runs hs _

end Checked

namespace Listing.Source
variable {o : Source} {first : Page} {start : Nat} {list : Listing} {w w' : World}
  {s : Listing × World}

theorem Grown.slotsFor_eq {s' : Listing × World} (h : Grown o first start s)
    (h' : Grown o first start s') (index : Nat) : s.1.slotsFor index = s'.1.slotsFor index := by
  obtain ⟨hcount, hperPage, htotal⟩ := h.counts_eq h'
  simp only [slotsFor, hcount, hperPage, htotal]

theorem Grown.slotsFit_iff_reported (h : Grown o first start s) : s.1.SlotsFit ↔
    first.pages ≤ maxSlots ∨ first.results ≤ maxSlots * max 1 first.items.length := by
  have hroom : 1 ≤ maxSlots := by decide
  rw [slotsFit_iff_counts h.perPage_pos]
  obtain ⟨table, hrest⟩ := h.rest
  rw [hrest]
  simp only [ofFirst]
  by_cases hpages : 1 < first.pages
  · rw [if_pos hpages, if_pos hpages, Nat.max_eq_left (Nat.le_of_lt hpages), Nat.max_comm 1]
  · have hone : first.pages ≤ 1 := Nat.le_of_not_lt hpages
    exact iff_of_true (.inl (Nat.max_le.mpr ⟨Nat.le_trans hone hroom, hroom⟩))
      (.inl (Nat.le_trans hone hroom))

structure Accessed (o : Source) (list : Listing) (s : Listing × World) : Prop where
  get : ∀ index, (get? o.client index).Yields s fun _ t =>
    t.1.table.length = max s.1.table.length (list.slotsFor index)
  last : (last? o.client).Yields s fun _ t =>
    t.1.table.length = max s.1.table.length (list.slotsFor (list.total - 1))
  getRuns : ∀ index, (Checked.allocating index (Checked.get? o.client index)).Runs
    (get? o.client index) s ↔ list.slotsFor index ≤ maxSlots
  lastRuns : (Checked.allocating (list.total - 1) (Checked.last? o.client)).Runs
    (last? o.client) s ↔ list.slotsFor (list.total - 1) ≤ maxSlots

theorem accessed_of_fitting (o : Source) (hfits : Checked.Fitting s.1) : o.Accessed s.1 s :=
  ⟨get?_grows o.client s, last?_grows o.client s,
    fun index => Checked.allocating_runs_iff (Checked.get?_runs hfits index) index,
    Checked.allocating_runs_iff (Checked.last?_runs hfits) _⟩

/-- The table has room for every item of a list exactly if the answer that opened it reports no more
pages than slots that an allocation has room for, or no more results than that many pages hold. Then
no access to an item, at any time, is stopped by the size of the table; otherwise one is. -/
theorem slotsFit_iff (hnetwork : o.Carries w.network)
    (hopened : opened o.client o.type o.path o.parent? o.filter? w = (.ok list, w')) :
    ∃ first, o.Opening w.sent first ∧ list.pageCount = max first.pages 1 ∧
      first.pages ≤ first.results ⌈/⌉ max 1 first.items.length + 1 ∧
      (list.SlotsFit ↔
        first.pages ≤ maxSlots ∨ first.results ≤ maxSlots * max 1 first.items.length) ∧
      (first.items.length < UInt64.size → ∀ s, o.Visits (list, w') s → o.Accessed list s) := by
  obtain ⟨r, first, hr, ⟨answer, hanswer, hfirst⟩, hgrown⟩ := opened_grown hnetwork hopened
  obtain ⟨given?, hgiven, hresults⟩ := hfirst.from_answer.results
  refine ⟨first, ⟨r, answer, given?, hr, hanswer, hfirst, hgiven, hresults⟩, ?_, ?_,
    hgrown.slotsFit_iff_reported, fun hheld s hs => ?_⟩
  · obtain ⟨table, hrest⟩ := hgrown.rest
    exact congrArg Listing.pageCount hrest
  · rw [Nat.max_comm]
    exact hfirst.from_answer.bounded
  · have hvisited := visits_grown hgrown hs
    have hfits := hvisited.fitting hfirst.from_answer hheld
    have hslots : s.1.slotsFor = list.slotsFor := funext (hvisited.slotsFor_eq hgrown)
    have htotal : s.1.total = list.total := (hvisited.counts_eq hgrown).2.2
    obtain ⟨hget, hlast, hgetRuns, hlastRuns⟩ := o.accessed_of_fitting hfits
    rw [hslots] at hget hgetRuns
    rw [hslots, htotal] at hlast hlastRuns
    exact ⟨hget, hlast, hgetRuns, hlastRuns⟩

def brimAnswer : Json := .obj [("data", .arr [.obj [("id", .nat 1)]]), ("pages", .nat maxSlots),
  ("results", .nat (UInt64.size - 1))]

def brim : Source where
  client := Resource.clientOf .nodeRegistry
  type := Registry.nodeType
  path := "/nodes"
  parent? := none
  filter? := none
  server := fun _ _ => .ofJson brimAnswer

theorem slotsFit_iff_brim : ∃ list w' first,
    opened brim.client brim.type brim.path none none { network := brim.server } =
        (.ok list, w') ∧
      brim.Opening [] first ∧ list.SlotsFit ∧ list.slotsFor (maxSlots - 1) = maxSlots ∧
      brim.Accessed list (list, w') := by
  have hruns : (match opened brim.client brim.type brim.path none none
        { network := brim.server } with
      | (.ok list, _) => (list.pageCount, list.slotsFor (maxSlots - 1))
      | _ => (0, 0)) = (maxSlots, maxSlots) := by decide +kernel
  generalize hopened : opened brim.client brim.type brim.path none none
    { network := brim.server } = outcome at hruns
  obtain ⟨_ | list, w'⟩ := outcome
  · cases hruns
  obtain ⟨hpages, hslots⟩ := Prod.mk.inj hruns
  obtain ⟨first, hopening, hcount, -, hfit, haccessed⟩ :=
    slotsFit_iff (o := brim) (fun _ _ => .inr rfl) hopened
  have hheld : first.items.length = 1 := by
    obtain ⟨r, answer, _, -, hanswer, hfirst, -⟩ := hopening
    have hfound : (Delivery.ofJson brimAnswer).json? = some brimAnswer := by decide +kernel
    cases hfound.symm.trans hanswer
    obtain ⟨data, hdata, hitems⟩ := hfirst.from_answer.items
    cases hdata
    exact hitems.length_eq.symm
  refine ⟨list, w', first, rfl, hopening, hfit.mpr (.inl ?_), hslots, ?_⟩
  · rw [← hpages, hcount]
    exact Nat.le_max_left first.pages 1
  · exact haccessed (hheld ▸ by decide) _ .opened

/-- The results account for as many pages as can be counted, and the last item needs them all. -/
theorem not_slotsFit : ¬ ∀ (o : Source) (w w' : World) (list : Listing), o.Carries w.network →
    opened o.client o.type o.path o.parent? o.filter? w = (.ok list, w') → list.SlotsFit := by
  intro hfit
  have hruns : (match opened endless.client endless.type endless.path none none
        { network := endless.server } with
      | (.ok list, _) => list.slotsFor (list.total - 1)
      | _ => 0) = UInt64.size - 1 := by decide +kernel
  generalize hopened : opened endless.client endless.type endless.path none none
    { network := endless.server } = outcome at hruns
  obtain ⟨_ | list, w'⟩ := outcome
  · cases hruns
  dsimp only at hruns
  have hslots := hfit endless _ w' list (fun _ _ => .inr rfl) hopened (list.total - 1)
  rw [hruns] at hslots
  exact absurd hslots (by decide)

end Listing.Source
end CloudClient
