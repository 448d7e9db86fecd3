import CloudClient.Listing

/-!
# Chunks of a list

A list cut into chunks of one length, the last of which may be shorter. An index leads to its chunk
and to its place there by division, the chunks one after another are the list, and their number is
never refused as a page count.
-/

namespace CloudClient.Listing
variable {α : Type} {items : List α} {length page : Nat}

def chunk (items : List α) (length page : Nat) : List α := (items.drop (page * length)).take length

def chunkCount (count length : Nat) : Nat := (count + length - 1) / length

theorem length_chunk (items : List α) (length page : Nat) :
    (chunk items length page).length = min length (items.length - page * length) := by
  simp [chunk]

theorem chunk_zero_of_le (h : items.length ≤ length) : chunk items length 0 = items := by
  simp [chunk, List.take_of_length_le h]

theorem getElem?_chunk (hlength : 0 < length) (index : Nat) :
    (chunk items length (index / length))[index % length]? = items[index]? := by
  have hplace : index / length * length + index % length = index := by
    rw [Nat.mul_comm]
    exact Nat.div_add_mod index length
  rw [chunk, List.getElem?_take_of_lt (Nat.mod_lt index hlength), List.getElem?_drop, hplace]

theorem flatMap_range_chunk (items : List α) (length count : Nat) :
    (List.range count).flatMap (chunk items length) = items.take (count * length) := by
  induction count with
  | zero => simp
  | succ count ih =>
    rw [List.range_succ, List.flatMap_append, ih, Nat.succ_mul, List.take_add]
    simp [chunk]

theorem flatMap_chunk {count : Nat} (h : items.length ≤ count * length) :
    (List.range count).flatMap (chunk items length) = items := by
  rw [flatMap_range_chunk, List.take_of_length_le h]

theorem chunkCount_le_iff {count pages : Nat} (hlength : 0 < length) :
    chunkCount count length ≤ pages ↔ count ≤ pages * length := by
  unfold chunkCount
  rw [← Nat.lt_succ_iff, Nat.div_lt_iff_lt_mul hlength, Nat.succ_mul]
  omega

theorem le_chunkCount_mul (count : Nat) (hlength : 0 < length) :
    count ≤ chunkCount count length * length :=
  (chunkCount_le_iff hlength).mp (Nat.le_refl _)

theorem div_lt_chunkCount {index count : Nat} (hlength : 0 < length) (h : index < count) :
    index / length < chunkCount count length := by
  rw [Nat.div_lt_iff_lt_mul hlength]
  exact Nat.lt_of_lt_of_le h (le_chunkCount_mul count hlength)

theorem chunkCount_le_maxPages (count : Nat) {held : Nat} (hlength : 0 < length)
    (hheld : held ≤ length) : chunkCount count length ≤ Page.maxPages count held := by
  have hmax : max held 1 ≤ length := Nat.max_le.mpr ⟨hheld, hlength⟩
  have hpos : 0 < max held 1 := Nat.lt_of_lt_of_le Nat.zero_lt_one (Nat.le_max_right held 1)
  apply (chunkCount_le_iff hlength).mpr
  calc count
      ≤ chunkCount count (max held 1) * max held 1 := le_chunkCount_mul count hpos
    _ ≤ Page.maxPages count held * max held 1 := Nat.mul_le_mul_right _ (Nat.le_succ _)
    _ ≤ Page.maxPages count held * length := Nat.mul_le_mul_left _ hmax

end CloudClient.Listing
