import CloudClient.Proofs.Listing.Chunk

/-!
# Reading pages by index

Pages need not be of one length. An index is led to its page by a length that all pages are taken
to have, so what is read from the first index on is each page cut to that length, up to the first
page that is shorter. It is all there is exactly if the pages are the chunks of what they hold.
-/

namespace CloudClient.Listing
variable {α : Type} {length : Nat} {pages : List (List α)}

/-- What is found under an index if every page is taken to have this length. -/
def look (length : Nat) (pages : List (List α)) (index : Nat) : Option α :=
  pages[index / length]?.bind fun page => page[index % length]?

/-- What is read before the first index under which nothing is found. -/
def readout (length : Nat) : List (List α) → List α
  | [] => []
  | page :: rest =>
    if page.length < length then page else page.take length ++ readout length rest

theorem look_of_lt {page : List α} {index : Nat} (h : index < length) :
    look length (page :: pages) index = page[index]? := by
  simp [look, Nat.div_eq_of_lt h, Nat.mod_eq_of_lt h]

theorem look_add {page : List α} {index : Nat} (hlength : 0 < length) :
    look length (page :: pages) (index + length) = look length pages index := by
  simp [look, Nat.add_div_right _ hlength]

theorem look_eq_getElem? (hlength : 0 < length) {index : Nat}
    (h : index ≤ (readout length pages).length) :
    look length pages index = (readout length pages)[index]? := by
  induction pages generalizing index with
  | nil => simp [look, readout]
  | cons page rest ih =>
    by_cases hshort : page.length < length
    · simp only [readout, if_pos hshort] at h ⊢
      exact look_of_lt (by omega)
    · simp only [readout, if_neg hshort, List.length_append, List.length_take] at h ⊢
      by_cases hindex : index < length
      · rw [look_of_lt hindex, List.getElem?_append_left (by rw [List.length_take]; omega),
          List.getElem?_take_of_lt hindex]
      · obtain ⟨rest', rfl⟩ := Nat.exists_eq_add_of_le' (Nat.le_of_not_lt hindex)
        have htake : (page.take length).length = length := by rw [List.length_take]; omega
        rw [look_add hlength, ih (by omega), List.getElem?_append_right (by omega), htake,
          Nat.add_sub_cancel]

theorem readout_sublist (length : Nat) (pages : List (List α)) :
    (readout length pages).Sublist pages.flatten := by
  induction pages with
  | nil => exact .slnil
  | cons page rest ih =>
    by_cases hshort : page.length < length
    · simp [readout, hshort]
    · simpa [readout, hshort] using (List.take_sublist length page).append ih

/-! ## Pages of one length -/

def Regular (length : Nat) (pages : List (List α)) : Prop :=
  ∀ number page, pages[number]? = some page → page = chunk pages.flatten length number

theorem chunk_append_succ {page rest : List α} (hpage : page.length = length) (number : Nat) :
    chunk (page ++ rest) length (number + 1) = chunk rest length number := by
  have hdrop : (number + 1) * length = page.length + number * length := by
    rw [hpage, Nat.succ_mul, Nat.add_comm]
  rw [chunk, chunk, hdrop, List.drop_length_add_append]

theorem chunk_of_length_le {page : List α} (hpage : page.length ≤ length) (number : Nat) :
    chunk page length (number + 1) = [] := by
  have hdrop : page.length ≤ (number + 1) * length := by
    calc page.length ≤ length := hpage
      _ ≤ (number + 1) * length := Nat.le_mul_of_pos_left _ (Nat.succ_pos number)
  simp [chunk, List.drop_eq_nil_of_le hdrop]

theorem regular_cons {page : List α} :
    Regular length (page :: pages) ↔ page = (page ++ pages.flatten).take length ∧
      ∀ number other, pages[number]? = some other →
        other = chunk (page ++ pages.flatten) length (number + 1) := by
  refine ⟨fun h => ⟨by simpa [chunk] using h 0 page rfl, fun number other ho => ?_⟩, fun h => ?_⟩
  · exact h (number + 1) other ho
  · intro number other ho
    cases number with
    | zero =>
      cases ho
      simpa [chunk] using h.1
    | succ number => exact h.2 number other ho

theorem flatten_eq_nil_of_take {page rest : List α} (hshort : page.length < length)
    (h : page = (page ++ rest).take length) : rest = [] := by
  have hlength := congrArg List.length h
  rw [List.length_take, List.length_append] at hlength
  exact List.eq_nil_of_length_eq_zero (by omega)

theorem readout_eq_flatten_iff : readout length pages = pages.flatten ↔ Regular length pages := by
  induction pages with
  | nil => simp [readout, Regular]
  | cons page rest ih =>
    rw [regular_cons, List.flatten_cons]
    by_cases hshort : page.length < length
    · simp only [readout, if_pos hshort]
      refine ⟨fun h => ?_, fun h => ?_⟩
      · have hnil : rest.flatten = [] := by simpa using h
        rw [hnil, List.append_nil, List.take_of_length_le (Nat.le_of_lt hshort)]
        refine ⟨rfl, fun number other ho => ?_⟩
        rw [chunk_of_length_le (Nat.le_of_lt hshort)]
        exact List.flatten_eq_nil_iff.mp hnil _ (List.mem_of_getElem? ho)
      · rw [flatten_eq_nil_of_take hshort h.1, List.append_nil]
    · simp only [readout, if_neg hshort]
      have hsublist := (readout_sublist length rest).length_le
      refine ⟨fun h => ?_, fun h => ?_⟩
      · have hlengths := congrArg List.length h
        simp only [List.length_append, List.length_take] at hlengths
        have hpage : page.length = length := by omega
        have hrest : readout length rest = rest.flatten := by
          rw [List.take_of_length_le (Nat.le_of_eq hpage)] at h
          exact List.append_cancel_left h
        refine ⟨by simp [← hpage], fun number other ho => ?_⟩
        rw [chunk_append_succ hpage]
        exact ih.mp hrest number other ho
      · have hlength := congrArg List.length h.1
        rw [List.length_take, List.length_append] at hlength
        have hpage : page.length = length := by omega
        have hregular : Regular length rest := fun number other ho => by
          rw [h.2 number other ho, chunk_append_succ hpage]
        rw [List.take_of_length_le (Nat.le_of_eq hpage), ih.mpr hregular]

theorem take_readout_eq_flatten_iff {limit : Nat} :
    (readout length pages).take limit = pages.flatten ↔
      pages.flatten.length ≤ limit ∧ Regular length pages := by
  rw [← readout_eq_flatten_iff]
  refine ⟨fun h => ?_, fun h => ?_⟩
  · have hlimit : pages.flatten.length ≤ limit := by
      rw [← h]
      exact List.length_take_le _ _
    have hall : (readout length pages).length ≤ pages.flatten.length :=
      (readout_sublist length pages).length_le
    exact ⟨hlimit, by rwa [List.take_of_length_le (by omega)] at h⟩
  · rw [h.2, List.take_of_length_le h.1]

end CloudClient.Listing
