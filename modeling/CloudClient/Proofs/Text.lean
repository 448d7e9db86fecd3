import CloudClient.Text
import Mathlib.Data.List.TakeWhile

/-!
# Cut text and numerals

The pieces between separators are those of the library's own splitting, and none of them has a
separator. What is cut once is cut at the first separator, wherever there is one. Trimming takes the
blanks at both ends and no other character. A numeral is read exactly if it is made of digits, and as
a position if it is in range besides.
-/

namespace CloudClient.Text
variable {separator : Char} {s piece before after : List Char}

theorem splitOn_eq (separator : Char) (s : List Char) :
    splitOn separator s = s.splitOn separator := by
  induction s with
  | nil => rfl
  | cons c rest ih =>
    rw [List.splitOn_cons_eq_if_modifyHead, splitOn, ih]
    by_cases hc : c = separator
    · simp [hc]
    · simp only [hc, if_false, beq_iff_eq]
      cases hrest : rest.splitOn separator with
      | nil => exact absurd hrest (List.splitOn_ne_nil _ _)
      | cons piece pieces => rfl

theorem not_mem_of_mem_splitOn (h : piece ∈ splitOn separator s) : separator ∉ piece := by
  induction s generalizing piece with
  | nil => simp_all [splitOn]
  | cons c rest ih =>
    by_cases hc : c = separator
    · rw [splitOn, if_pos hc] at h
      rcases List.mem_cons.mp h with rfl | h
      · exact List.not_mem_nil
      · exact ih h
    · rw [splitOn, if_neg hc] at h
      generalize hrest : splitOn separator rest = pieces at h
      cases pieces with
      | nil =>
        obtain rfl := List.mem_singleton.mp h
        simpa using Ne.symm hc
      | cons first more =>
        rw [hrest] at ih
        rcases List.mem_cons.mp h with rfl | h
        · have hfirst := ih List.mem_cons_self
          simp [Ne.symm hc, hfirst]
        · exact ih (List.mem_cons_of_mem _ h)

theorem splitOnce?_append (h : separator ∉ before) (after : List Char) :
    splitOnce? separator (before ++ separator :: after) = some (before, after) := by
  induction before with
  | nil => simp [splitOnce?]
  | cons c rest ih =>
    have hne : c ≠ separator := fun hc => h (hc ▸ List.mem_cons_self)
    have hrest := ih fun hmem => h (List.mem_cons_of_mem _ hmem)
    simp [splitOnce?, hne, hrest]

theorem splitOnce?_eq_some : splitOnce? separator s = some (before, after) ↔
    s = before ++ separator :: after ∧ separator ∉ before := by
  refine ⟨fun h => ?_, fun h => h.1 ▸ splitOnce?_append h.2 after⟩
  induction s generalizing before with
  | nil => cases h
  | cons c rest ih =>
    simp only [splitOnce?] at h
    split at h
    · rename_i hc
      cases h
      exact ⟨by rw [hc, List.nil_append], List.not_mem_nil⟩
    · rename_i hne
      obtain ⟨⟨front, back⟩, hsplit, h⟩ := Option.map_eq_some_iff.mp h
      cases h
      obtain ⟨rfl, hfront⟩ := ih hsplit
      exact ⟨rfl, by simp [hfront, Ne.symm hne]⟩

theorem splitOnce?_eq_none : splitOnce? separator s = none ↔ separator ∉ s := by
  induction s with
  | nil => simp [splitOnce?]
  | cons c rest ih =>
    by_cases hc : c = separator
    · simp [splitOnce?, hc]
    · simp [splitOnce?, hc, ih, Ne.symm hc]

/-! ## Trimming -/

structure Trimmed (s kept : List Char) : Prop where
  around : ∃ before after, s = before ++ kept ++ after ∧ (∀ c ∈ before, isBlank c = true) ∧
    ∀ c ∈ after, isBlank c = true
  first : ∀ c, kept.head? = some c → isBlank c = false
  last : ∀ c, kept.getLast? = some c → isBlank c = false

theorem not_isBlank_of_head?_dropWhile {c : Char} (h : (s.dropWhile isBlank).head? = some c) :
    isBlank c = false := by
  have hfirst := List.head?_dropWhile_not isBlank s
  rw [h] at hfirst
  simpa using hfirst

theorem trimmed_trim (s : List Char) : Trimmed s (trim s) := by
  have hright : trim s ++ ((trimLeft s).reverse.takeWhile isBlank).reverse = trimLeft s := by
    rw [trim, trimRight, ← List.reverse_append, List.takeWhile_append_dropWhile,
      List.reverse_reverse]
  refine ⟨⟨s.takeWhile isBlank, ((trimLeft s).reverse.takeWhile isBlank).reverse, ?_,
    fun c => List.mem_takeWhile_imp, fun c hc => ?_⟩, fun c hc => ?_, fun c hc => ?_⟩
  · rw [List.append_assoc, hright]
    exact List.takeWhile_append_dropWhile.symm
  · exact List.mem_takeWhile_imp (List.mem_reverse.mp hc)
  · refine not_isBlank_of_head?_dropWhile (s := s) ?_
    rw [← trimLeft, ← hright, List.head?_append, hc]
    rfl
  · rw [trim, trimRight, List.getLast?_reverse] at hc
    exact not_isBlank_of_head?_dropWhile hc

theorem trim_eq_nil : trim s = [] ↔ ∀ c ∈ s, isBlank c = true := by
  rw [trim, trimRight, List.reverse_eq_nil_iff, List.dropWhile_eq_nil_iff]
  constructor
  · intro h c hc
    rw [← List.takeWhile_append_dropWhile (p := isBlank) (l := s)] at hc
    rcases List.mem_append.mp hc with hc | hc
    · exact List.mem_takeWhile_imp hc
    · exact h c (List.mem_reverse.mpr hc)
  · intro h c hc
    exact h c ((List.dropWhile_sublist _).mem (List.mem_reverse.mp hc))

/-! ## Numerals -/

theorem isPrintable_of_isDigit {c : Char} (h : c.isDigit = true) : isPrintable c = true := by
  simp only [Char.isDigit, Bool.and_eq_true, decide_eq_true_eq, ge_iff_le, UInt32.le_iff_toNat_le]
    at h
  simp only [isPrintable, Bool.and_eq_true, decide_eq_true_eq]
  exact ⟨Nat.le_trans (by decide) h.1, Nat.le_trans h.2 (by decide)⟩

theorem decimal?_eq_some {n : Nat} :
    decimal? s = some n ↔ s ≠ [] ∧ (∀ c ∈ s, c.isDigit = true) ∧ decimalValue s = n := by
  simp [decimal?, List.isEmpty_iff, and_assoc]

def IsIndex (s : List Char) (i : Nat) : Prop :=
  i < UInt64.size ∧ ∃ digits, (s = digits ∨ s = '+' :: digits) ∧ digits ≠ [] ∧
    (∀ c ∈ digits, c.isDigit = true) ∧ decimalValue digits = i

theorem unsigned?_eq_some {n : Nat} :
    unsigned? s = some n ↔ ∃ digits, (s = digits ∨ s = '+' :: digits) ∧ decimal? digits = some n := by
  have hplus : ∀ {digits}, decimal? ('+' :: digits) = none := fun {digits} => rfl
  cases s with
  | nil => simp [unsigned?]
  | cons c rest =>
    by_cases hc : c = '+'
    · subst hc
      simp [unsigned?, hplus]
    · have hread : unsigned? (c :: rest) = decimal? (c :: rest) := by simp [unsigned?, hc]
      simp [hread, hc]

theorem index?_eq_some {i : Nat} : index? s = some i ↔ IsIndex s i := by
  simp only [index?, IsIndex, Option.filter_eq_some_iff, unsigned?_eq_some, decimal?_eq_some,
    decide_eq_true_eq, and_comm]

end CloudClient.Text
