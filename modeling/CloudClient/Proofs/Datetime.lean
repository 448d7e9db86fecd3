import CloudClient.Datetime

/-!
# Canonical timestamps

What is read is a valid timestamp, and the text of a valid timestamp reads as that timestamp again.
So writing what was read keeps the timestamp, and a text that was written comes back unchanged.
-/

namespace CloudClient

/-! ## Padded numbers -/

namespace Text

theorem decimalValue_padZeros (width n : Nat) : decimalValue (padZeros width n) = n := by
  change Nat.ofDigitChars 10 (padZeros width n) 0 = n
  rw [padZeros, Nat.ofDigitChars_append, Nat.ofDigitChars_replicate_zero, Nat.mul_zero,
    Nat.ofDigitChars_ten_toDigits]

theorem isDigit_of_mem_padZeros {width n : Nat} {c : Char} (h : c ∈ padZeros width n) :
    c.isDigit = true := by
  rcases List.mem_append.mp h with h | h
  · rw [List.eq_of_mem_replicate h]
    rfl
  · exact Nat.isDigit_of_mem_toDigits (by decide) (by decide) h

theorem padZeros_ne_nil (width n : Nat) : padZeros width n ≠ [] := by
  simp [padZeros, Nat.toDigits_ne_nil]

theorem length_padZeros {width n : Nat} (h : (Nat.toDigits 10 n).length ≤ width) :
    (padZeros width n).length = width := by
  simp only [padZeros, List.length_append, List.length_replicate]
  omega

theorem toNat_of_isDigit {c : Char} (h : c.isDigit = true) : 48 ≤ c.toNat ∧ c.toNat ≤ 57 := by
  simp only [Char.isDigit, Bool.and_eq_true, decide_eq_true_eq, UInt32.le_iff_toNat_le] at h
  exact h

theorem not_isBlank_of_isDigit {c : Char} (h : c.isDigit = true) : isBlank c = false := by
  have hrange := toNat_of_isDigit h
  unfold isBlank
  grind

theorem trimLeft_append {digits : List Char} (hdigits : ∀ c ∈ digits, c.isDigit = true)
    (hne : digits ≠ []) (rest : List Char) : trimLeft (digits ++ rest) = digits ++ rest := by
  cases digits with
  | nil => exact absurd rfl hne
  | cons c digits =>
    have hc := not_isBlank_of_isDigit (hdigits c List.mem_cons_self)
    simp [trimLeft, hc]

end Text

namespace Datetime
open Text

/-! ## Reading numbers -/

theorem readDigits?_append {digits rest : List Char} {width : Nat}
    (hdigits : ∀ c ∈ digits, c.isDigit = true) (hne : digits ≠ []) (hwidth : digits.length ≤ width)
    (hrest : (rest.take (width - digits.length)).takeWhile Char.isDigit = []) :
    readDigits? width (digits ++ rest) = some (decimalValue digits, rest) := by
  have htake : ((digits ++ rest).take width).takeWhile Char.isDigit = digits := by
    rw [List.take_append, List.take_of_length_le hwidth, List.takeWhile_append_of_pos hdigits, hrest,
      List.append_nil]
  unfold readDigits?
  rw [htake]
  cases digits with
  | nil => exact absurd rfl hne
  | cons c digits => simp

theorem readDigits?_padZeros {width n : Nat} (h : (Nat.toDigits 10 n).length ≤ width)
    (rest : List Char) : readDigits? width (padZeros width n ++ rest) = some (n, rest) := by
  have hlength := length_padZeros h
  rw [readDigits?_append (fun c => isDigit_of_mem_padZeros) (padZeros_ne_nil width n)
    (Nat.le_of_eq hlength) (by simp [hlength]), decimalValue_padZeros]

theorem readNumber?_padZeros {n : Nat} (h : n < 100) (rest : List Char) :
    readNumber? (padZeros 2 n ++ rest) = some (n, rest) := by
  rw [readNumber?, trimLeft_append (fun c => isDigit_of_mem_padZeros) (padZeros_ne_nil 2 n)]
  exact readDigits?_padZeros ((Nat.length_toDigits_le_iff (by decide) (by decide)).mpr h) rest

theorem readDigits?_signed (n : Nat) {rest : List Char}
    (hrest : rest.takeWhile Char.isDigit = []) :
    readDigits? (padZeros 4 n ++ rest).length (padZeros 4 n ++ rest) = some (n, rest) := by
  rw [readDigits?_append (fun c => isDigit_of_mem_padZeros) (padZeros_ne_nil 4 n) (by simp)
    (by simpa using hrest), decimalValue_padZeros]

theorem readYear?_digits {digits : List Char} (hdigits : ∀ c ∈ digits, c.isDigit = true)
    (hne : digits ≠ []) (rest : List Char) :
    readYear? (digits ++ rest) =
      (readDigits? 4 (digits ++ rest)).map fun (n, rest) => ((n : Int), rest) := by
  rw [readYear?, trimLeft_append hdigits hne]
  cases digits with
  | nil => exact absurd rfl hne
  | cons c digits =>
    have hc := hdigits c List.mem_cons_self
    rw [List.cons_append]
    split
    · rename_i heq
      rw [(List.cons.inj heq).1] at hc
      cases hc
    · rename_i heq
      rw [(List.cons.inj heq).1] at hc
      cases hc
    · rfl

theorem readYear?_yearText (year : Int) {rest : List Char}
    (hrest : rest.takeWhile Char.isDigit = []) :
    readYear? (yearText year ++ rest) = some (year, rest) := by
  have hminus : ∀ s, readYear? ('-' :: s) =
      (readDigits? s.length s).map fun (n, rest) => (-(n : Int), rest) := fun _ => rfl
  have hplus : ∀ s, readYear? ('+' :: s) =
      (readDigits? s.length s).map fun (n, rest) => ((n : Int), rest) := fun _ => rfl
  unfold yearText
  split
  · rename_i hyear
    have hread : readDigits? 4 (padZeros 4 year.toNat ++ rest) = some (year.toNat, rest) :=
      readDigits?_padZeros ((Nat.length_toDigits_le_iff (by decide) (by decide)).mpr (by omega)) rest
    rw [readYear?_digits (fun c => isDigit_of_mem_padZeros) (padZeros_ne_nil 4 _), hread]
    simp only [Option.map_some, Int.toNat_of_nonneg hyear.1]
  · split
    · rw [List.cons_append, hminus, readDigits?_signed _ hrest]
      simp only [Option.map_some, Option.some.injEq, Prod.mk.injEq, and_true]
      omega
    · rw [List.cons_append, hplus, readDigits?_signed _ hrest]
      simp only [Option.map_some, Option.some.injEq, Prod.mk.injEq, and_true]
      omega

/-! ## Reading back -/

theorem isValid_of_parse? {s : List Char} {t : Datetime} (h : parse? s = some t) :
    t.isValid = true := by
  unfold parse? at h
  simp only [bind, Option.bind_eq_some_iff, Option.ite_none_right_eq_some, Bool.and_eq_true,
    Option.some.injEq] at h
  obtain ⟨_, -, _, -, _, -, _, -, _, -, _, -, _, -, _, -, _, -, _, -, _, -, ⟨-, hvalid⟩, rfl⟩ := h
  exact hvalid

theorem daysInMonth_le (year : Int) (month : Nat) : daysInMonth year month ≤ 31 := by
  unfold daysInMonth
  grind

theorem parse?_text {t : Datetime} (h : t.isValid = true) : parse? t.text = some t := by
  have hbounds : t.month < 100 ∧ t.day < 100 ∧ t.hour < 100 ∧ t.minute < 100 ∧ t.second < 100 := by
    have hdays := daysInMonth_le t.year t.month
    simp only [isValid, Bool.and_eq_true, decide_eq_true_eq] at h
    omega
  obtain ⟨hmonth, hday, hhour, hminute, hsecond⟩ := hbounds
  have hlast := readNumber?_padZeros hsecond []
  rw [List.append_nil] at hlast
  have hyear : ∀ rest, readYear? (yearText t.year ++ '-' :: rest) = some (t.year, '-' :: rest) :=
    fun rest => readYear?_yearText t.year rfl
  simp only [parse?, text, hyear, readMark?, if_true, Option.bind_eq_bind, Option.bind_some,
    readNumber?_padZeros hmonth, readNumber?_padZeros hday, readNumber?_padZeros hhour,
    readNumber?_padZeros hminute, hlast]
  simp [h]

end Datetime
end CloudClient
