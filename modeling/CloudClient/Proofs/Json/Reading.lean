import CloudClient.Json.Reader
import CloudClient.Json.Writer
import CloudClient.Proofs.Lookup
import Mathlib.Data.List.TakeDrop

/-!
# Reading what was written

A value without binary64 numbers is read back from its compact text, with as many containers open as
the value is deep. Whatever follows the text is left as it is, unless it would continue a number.
-/

namespace CloudClient

/-! ## Digits -/

namespace Text

theorem hexValue?_hexLower : ∀ n < 16, hexValue? (hexLower n) = some n := by decide

theorem decimalValue_toDigits (n : Nat) : decimalValue (Nat.toDigits 10 n) = n :=
  Nat.ofDigitChars_ten_toDigits

theorem isDigit_of_mem_toDigits {n : Nat} {c : Char} (h : c ∈ Nat.toDigits 10 n) :
    c.isDigit = true :=
  Nat.isDigit_of_mem_toDigits (by decide) (by decide) h

theorem head?_toDigits_ne {n : Nat} (h : 0 < n) : (Nat.toDigits 10 n).head? ≠ some '0' := by
  induction n using Nat.strongRecOn with
  | ind n ih =>
    by_cases hn : n < 10
    · have hdigit : ∀ m < 10, 0 < m → m.digitChar ≠ '0' := by decide
      rw [Nat.toDigits_of_lt_base hn]
      simpa using hdigit n hn h
    · have hrest := ih (n / 10) (by omega) (by omega)
      obtain ⟨c, cs, hcs⟩ :=
        List.exists_cons_of_ne_nil (Nat.toDigits_ne_nil (n := n / 10) (b := 10))
      rw [Nat.toDigits_of_base_le (by decide) (by omega), hcs]
      rwa [hcs] at hrest

end Text

theorem List.span_append {α : Type} {p : α → Bool} {front rest : List α}
    (hfront : ∀ a ∈ front, p a = true) (hrest : ∀ a, rest.head? = some a → p a = false) :
    (front ++ rest).span p = (front, rest) := by
  have hstop : rest.takeWhile p = [] ∧ rest.dropWhile p = rest := by
    cases rest with
    | nil => exact ⟨rfl, rfl⟩
    | cons a rest => simp [hrest a rfl]
  rw [List.span_eq_takeWhile_dropWhile, List.takeWhile_append_of_pos hfront,
    List.dropWhile_append_of_pos hfront, hstop.1, hstop.2, List.append_nil]

namespace Json
variable {rest : List Char}

/-! ## Numbers -/

/-- The text does not go on with what a number can go on with. -/
def EndsNumber (rest : List Char) : Prop :=
  ∀ c, rest.head? = some c → c.isDigit = false ∧ c ≠ '.' ∧ c ≠ 'e' ∧ c ≠ 'E'

theorem readWhole?_toDigits (n : Nat) (hrest : EndsNumber rest) :
    readWhole? (Nat.toDigits 10 n ++ rest) = some (Nat.toDigits 10 n, rest) := by
  have hspan : (Nat.toDigits 10 n ++ rest).span Char.isDigit = (Nat.toDigits 10 n, rest) :=
    List.span_append (fun c => Text.isDigit_of_mem_toDigits) fun c hc => (hrest c hc).1
  unfold readWhole?
  rw [hspan]
  split
  · rename_i hnil
    exact absurd (Prod.mk.inj hnil).1 Nat.toDigits_ne_nil
  · rename_i hzero
    have hdigits := (Prod.mk.inj hzero).1
    have hpos : 0 < n := by
      refine Nat.pos_of_ne_zero fun h => ?_
      rw [h] at hdigits
      cases hdigits
    exact absurd (by rw [hdigits]; rfl) (Text.head?_toDigits_ne hpos)
  · rename_i heq
    cases heq
    rfl

theorem readFraction?_of_ends (hrest : EndsNumber rest) : readFraction? rest = some ([], rest) := by
  cases rest with
  | nil => rfl
  | cons c rest =>
    obtain ⟨-, hpoint, -⟩ := hrest c rfl
    unfold readFraction?
    split
    · rename_i heq
      cases heq
      exact absurd rfl hpoint
    · rfl

theorem readExponent?_of_ends (hrest : EndsNumber rest) :
    readExponent? rest = some (none, rest) := by
  cases rest with
  | nil => rfl
  | cons c rest =>
    obtain ⟨-, -, hlower, hupper⟩ := hrest c rfl
    simp [readExponent?, hlower, hupper]

def Holdable (n : Int) : Prop := -9223372036854775808 ≤ n ∧ n < 18446744073709551616

theorem toDigits_eq_cons (n : Nat) :
    ∃ c cs, Nat.toDigits 10 n = c :: cs ∧ c.isDigit = true := by
  obtain ⟨c, cs, hcs⟩ := List.exists_cons_of_ne_nil (Nat.toDigits_ne_nil (n := n) (b := 10))
  exact ⟨c, cs, hcs, Text.isDigit_of_mem_toDigits (n := n) (hcs ▸ List.mem_cons_self)⟩

theorem readSign_toDigits (n : Nat) (rest : List Char) :
    readSign (Nat.toDigits 10 n ++ rest) = (false, Nat.toDigits 10 n ++ rest) := by
  obtain ⟨c, cs, hcs, hdigit⟩ := toDigits_eq_cons n
  have hc : c ≠ '-' := by
    rintro rfl
    cases hdigit
  rw [hcs]
  unfold readSign
  split
  · rename_i heq
    cases heq
    exact absurd rfl hc
  · rfl

theorem readNumeral?_of_sign {s : List Char} {negative : Bool} {n : Nat}
    (hsign : readSign s = (negative, Nat.toDigits 10 n ++ rest)) (hrest : EndsNumber rest) :
    readNumeral? s = some (⟨negative, Nat.toDigits 10 n, [], none⟩, rest) := by
  simp [readNumeral?, hsign, readWhole?_toDigits n hrest, readFraction?_of_ends hrest,
    readExponent?_of_ends hrest]

theorem readNumber?_text {n : Int} (hn : Holdable n) (hrest : EndsNumber rest) :
    readNumber? ((Number.int n).text ++ rest) = some (.int n, rest) := by
  obtain ⟨hlow, hhigh⟩ := hn
  cases n with
  | ofNat n =>
    have hread := readNumeral?_of_sign (readSign_toDigits n rest) hrest
    have hvalue : n < UInt64.size := Int.ofNat_lt.mp hhigh
    simp [readNumber?, Number.text, hread, Numeral.value?, Text.decimalValue_toDigits, hvalue]
  | negSucc n =>
    have hread := readNumeral?_of_sign (s := '-' :: (Nat.toDigits 10 (n + 1) ++ rest)) rfl hrest
    have hvalue : n + 1 ≤ UInt64.size / 2 := by
      simp only [UInt64.size]
      omega
    simp [readNumber?, Number.text, hread, Numeral.value?, Text.decimalValue_toDigits, hvalue,
      Int.negSucc_eq]

/-! ## Texts -/

theorem readUnicode?_hexLower {n : Nat} (h : n < 32) (rest : List Char) :
    readUnicode? ('0' :: '0' :: Text.hexLower (n / 16) :: Text.hexLower (n % 16) :: rest) =
      some (Char.ofNat n, rest) := by
  have hhigh := Text.hexValue?_hexLower (n / 16) (by omega)
  have hlow := Text.hexValue?_hexLower (n % 16) (by omega)
  have hzero : Text.hexValue? '0' = some 0 := rfl
  have hn : n / 16 * 16 + n % 16 = n := by omega
  have hplain : n < 0xD800 := by omega
  simp [readUnicode?, readUnit?, hhigh, hlow, hzero, hn, hplain]

/-- The written form of a character: a short escape, its number, or itself. -/
theorem escape_cases (c : Char) :
    (∃ e, e ≠ 'u' ∧ shortEscape? e = some c ∧ escape c = ['\\', e]) ∨
    (c.toNat < 32 ∧ escape c =
      ['\\', 'u', '0', '0', Text.hexLower (c.toNat / 16), Text.hexLower (c.toNat % 16)]) ∨
    (c ≠ '"' ∧ c ≠ '\\' ∧ 32 ≤ c.toNat ∧ escape c = [c]) := by
  unfold escape
  iterate 7
    split
    · subst_vars
      exact .inl ⟨_, by decide, rfl, rfl⟩
  split
  · rename_i hcontrol
    exact .inr (.inl ⟨hcontrol, rfl⟩)
  · rename_i hquote hslash _ _ _ _ _ hcontrol
    exact .inr (.inr ⟨hquote, hslash, Nat.le_of_not_lt hcontrol, rfl⟩)

theorem readChars?_escape (fuel : Nat) (c : Char) (s : List Char) :
    readChars? (fuel + 1) (escape c ++ s) =
      (readChars? fuel s).map fun (cs, rest) => (c :: cs, rest) := by
  have hmap : (readChars? fuel s).map (fun (cs, rest) => (c :: cs, rest)) =
      (readChars? fuel s >>= fun (cs, rest) => some (c :: cs, rest)) := by
    cases readChars? fuel s <;> rfl
  rw [hmap]
  rcases escape_cases c with ⟨e, hne, hread, hc⟩ | ⟨hcontrol, hc⟩ | ⟨hquote, hslash, hplain, hc⟩
  · simp [hc, readChars?, hread]
  · have hread := readUnicode?_hexLower hcontrol s
    rw [Char.ofNat_toNat] at hread
    simp [hc, readChars?, hread]
  · simp [hc, readChars?, hquote, hslash, Nat.not_lt.mpr hplain]

theorem readChars?_text {fuel : Nat} {cs : List Char} (hfuel : cs.length < fuel)
    (rest : List Char) : readChars? fuel (cs.flatMap escape ++ '"' :: rest) = some (cs, rest) := by
  induction cs generalizing fuel with
  | nil =>
    obtain ⟨fuel, rfl⟩ := Nat.exists_eq_succ_of_ne_zero (Nat.ne_of_gt hfuel)
    rfl
  | cons c cs ih =>
    obtain ⟨fuel, rfl⟩ := Nat.exists_eq_succ_of_ne_zero (Nat.ne_of_gt (Nat.zero_lt_of_lt hfuel))
    rw [List.flatMap_cons, List.append_assoc, readChars?_escape, ih (Nat.lt_of_succ_lt_succ hfuel)]
    rfl

theorem escape_ne_nil (c : Char) : escape c ≠ [] := by
  rcases escape_cases c with ⟨e, -, -, hc⟩ | ⟨-, hc⟩ | ⟨-, -, -, hc⟩ <;>
    rw [hc] <;> exact List.cons_ne_nil _ _

theorem length_le_flatMap_escape (cs : List Char) : cs.length ≤ (cs.flatMap escape).length := by
  induction cs with
  | nil => exact Nat.le_refl 0
  | cons c cs ih =>
    have hpos := List.length_pos_iff.mpr (escape_ne_nil c)
    simp only [List.flatMap_cons, List.length_append, List.length_cons]
    omega

theorem readString?_text (s : String) (rest : List Char) :
    readString? (s.toList.flatMap escape ++ '"' :: rest) = some (s, rest) := by
  have hfuel := length_le_flatMap_escape s.toList
  unfold readString?
  rw [readChars?_text (by simp only [List.length_append]; omega)]
  simp

/-! ## Values -/

mutual
/-- A value as it is held, without binary64 numbers. -/
def Exact : Json → Prop
  | .num (.int n) => Holdable n
  | .num (.float _) => False
  | .arr items => ExactItems items
  | .obj fields => Dict.Sorted fields ∧ ExactFields fields
  | .null | .bool _ | .str _ => True
termination_by structural v => v
def ExactItems : List Json → Prop
  | [] => True
  | v :: rest => Exact v ∧ ExactItems rest
termination_by structural items => items
def ExactFields : List (String × Json) → Prop
  | [] => True
  | (_, v) :: rest => Exact v ∧ ExactFields rest
termination_by structural fields => fields
end

mutual
def depth : Json → Nat
  | .arr items => depthItems items + 1
  | .obj fields => depthFields fields + 1
  | .null | .bool _ | .num _ | .str _ => 0
termination_by structural v => v
def depthItems : List Json → Nat
  | [] => 0
  | v :: rest => max (depth v) (depthItems rest)
termination_by structural items => items
def depthFields : List (String × Json) → Nat
  | [] => 0
  | (_, v) :: rest => max (depth v) (depthFields rest)
termination_by structural fields => fields
end

theorem skipSpace_of_not {c : Char} (h : isSpace c = false) (s : List Char) :
    skipSpace (c :: s) = c :: s := by
  simp [skipSpace, h]

theorem ne_of_isDigit {c d : Char} (hc : c.isDigit = true) (hd : d.isDigit = false) : c ≠ d := by
  rintro rfl
  rw [hc] at hd
  cases hd

theorem text_eq_cons {v : Json} (hv : v.Exact) : ∃ c s, v.text = c :: s ∧ isSpace c = false ∧
    c ≠ ']' ∧ c ≠ '\x7d' := by
  cases v with
  | null => exact ⟨'n', _, rfl, rfl, by decide, by decide⟩
  | bool b => cases b <;> exact ⟨_, _, rfl, rfl, by decide, by decide⟩
  | num n =>
    cases n with
    | float x => exact hv.elim
    | int n =>
      cases n with
      | negSucc n => exact ⟨'-', _, rfl, rfl, by decide, by decide⟩
      | ofNat n =>
        obtain ⟨c, cs, hcs, hdigit⟩ := toDigits_eq_cons n
        refine ⟨c, cs, hcs, ?_, ?_, ?_⟩
        · simp only [isSpace, Bool.or_eq_false_iff, decide_eq_false_iff_not]
          refine ⟨⟨⟨?_, ?_⟩, ?_⟩, ?_⟩ <;> exact ne_of_isDigit hdigit rfl
        · exact ne_of_isDigit hdigit rfl
        · exact ne_of_isDigit hdigit rfl
  | str s => exact ⟨'"', _, rfl, rfl, by decide, by decide⟩
  | arr items => exact ⟨'[', _, rfl, rfl, by decide, by decide⟩
  | obj fields => exact ⟨'\x7b', _, rfl, rfl, by decide, by decide⟩

theorem readValue?_number {fuel depth : Nat} {c : Char} {s : List Char}
    (hc : c = '-' ∨ c.isDigit = true) :
    readValue? (fuel + 1) depth (c :: s) =
      (readNumber? (c :: s)).map fun (n, rest) => (.num n, rest) := by
  have hother : ∀ d, d ≠ '-' → d.isDigit = false → c ≠ d := fun d hminus hd => by
    rcases hc with rfl | hc
    · exact hminus.symm
    · exact ne_of_isDigit hc hd
  unfold readValue?
  split
  case h_7 => rfl
  all_goals
    rename_i heq
    cases heq
    exact absurd rfl (hother _ (by decide) rfl)

theorem readValue?_bracket {fuel depth : Nat} {c : Char} {s : List Char}
    (hspace : isSpace c = false) (hc : c ≠ ']') :
    readValue? (fuel + 1) (depth + 1) ('[' :: c :: s) =
      (readItems? fuel depth (c :: s)).map fun (items, rest) => (.arr items, rest) := by
  simp only [readValue?, skipSpace_of_not hspace]
  split
  · rename_i heq
    cases heq
    exact absurd rfl hc
  · rfl

theorem readValue?_brace {fuel depth : Nat} {c : Char} {s : List Char}
    (hspace : isSpace c = false) (hc : c ≠ '\x7d') :
    readValue? (fuel + 1) (depth + 1) ('\x7b' :: c :: s) =
      (readFields? fuel depth (c :: s)).map fun (fields, rest) => (.obj fields, rest) := by
  simp only [readValue?, skipSpace_of_not hspace]
  split
  · rename_i heq
    cases heq
    exact absurd rfl hc
  · rfl

section Members
variable {fuel depth : Nat} {s more rest : List Char} {key : String} {v : Json} {items : List Json}
  {fields : List (String × Json)}

theorem readItems?_last (h : readValue? fuel depth s = some (v, ']' :: rest)) :
    readItems? (fuel + 1) depth s = some ([v], rest) := by
  simp only [readItems?, h]
  rfl

theorem readItems?_next (h : readValue? fuel depth s = some (v, ',' :: more))
    (hmore : readItems? fuel depth (skipSpace more) = some (items, rest)) :
    readItems? (fuel + 1) depth s = some (v :: items, rest) := by
  have hskip : skipSpace (',' :: more) = ',' :: more := rfl
  simp only [readItems?, h, Option.bind_eq_bind, Option.bind_some, hskip, hmore]

theorem readFields?_last
    (h : readValue? fuel depth (skipSpace s) = some (v, '\x7d' :: rest)) :
    readFields? (fuel + 1) depth (stringText key ++ ':' :: s) = some ([(key, v)], rest) := by
  have hkey : readString? (key.toList.flatMap escape ++ '"' :: ':' :: s) = some (key, ':' :: s) :=
    readString?_text key _
  have hcolon : skipSpace (':' :: s) = ':' :: s := rfl
  have hend : skipSpace ('\x7d' :: rest) = '\x7d' :: rest := rfl
  simp [stringText, readFields?, hkey, hcolon, h, hend]

theorem readFields?_next
    (h : readValue? fuel depth (skipSpace s) = some (v, ',' :: more))
    (hmore : readFields? fuel depth (skipSpace more) = some (fields, rest)) :
    readFields? (fuel + 1) depth (stringText key ++ ':' :: s) =
      some ((key, v) :: fields, rest) := by
  have hkey : readString? (key.toList.flatMap escape ++ '"' :: ':' :: s) = some (key, ':' :: s) :=
    readString?_text key _
  have hcolon : skipSpace (':' :: s) = ':' :: s := rfl
  have hskip : skipSpace (',' :: more) = ',' :: more := rfl
  simp [stringText, readFields?, hkey, hcolon, h, hskip, hmore]

end Members

/-! ## Written values are read -/

theorem endsNumber_of {c : Char} (h : c = ',' ∨ c = ']' ∨ c = '\x7d') (rest : List Char) :
    EndsNumber (c :: rest) := by
  intro d hd
  cases hd
  rcases h with rfl | rfl | rfl <;> exact ⟨rfl, by decide, by decide, by decide⟩

theorem restText_cons (v : Json) (items : List Json) :
    restText (v :: items) = ',' :: itemsText (v :: items) := rfl

theorem restFieldsText_cons (entry : String × Json) (fields : List (String × Json)) :
    restFieldsText (entry :: fields) = ',' :: fieldsText (entry :: fields) := rfl

theorem skipSpace_text {v : Json} (hv : v.Exact) (rest : List Char) :
    skipSpace (v.text ++ rest) = v.text ++ rest := by
  obtain ⟨c, cs, hcs, hspace, -, -⟩ := text_eq_cons hv
  rw [hcs]
  exact skipSpace_of_not hspace _

theorem skipSpace_itemsText {v : Json} (hv : v.Exact) (items : List Json) (rest : List Char) :
    skipSpace (itemsText (v :: items) ++ rest) = itemsText (v :: items) ++ rest := by
  rw [itemsText, List.append_assoc]
  exact skipSpace_text hv _

theorem length_text_pos {v : Json} (hv : v.Exact) : 0 < v.text.length := by
  obtain ⟨c, cs, hcs, -, -, -⟩ := text_eq_cons hv
  rw [hcs]
  exact Nat.succ_pos _

-- a member takes one unit of fuel for itself and one for the list that it is in, and is followed by
-- a mark, so twice the length of the text is enough
mutual
theorem readValue?_text : {v : Json} → (hv : v.Exact) → (fuel depth : Nat) →
    (hfuel : 2 * v.text.length ≤ fuel + 1) → (hdepth : v.depth ≤ depth) → {rest : List Char} →
    (hrest : EndsNumber rest) → readValue? (fuel + 1) depth (v.text ++ rest) = some (v, rest)
  | .null, _, _, _, _, _, _, _ => rfl
  | .bool true, _, _, _, _, _, _, _ => rfl
  | .bool false, _, _, _, _, _, _, _ => rfl
  | .num (.float _), hv, _, _, _, _, _, _ => hv.elim
  | .num (.int n), hv, fuel, depth, _, _, rest, hrest => by
    have hread := readNumber?_text hv hrest
    obtain ⟨c, cs, hcs, hc⟩ :
        ∃ c cs, (Number.int n).text = c :: cs ∧ (c = '-' ∨ c.isDigit = true) := by
      cases n with
      | negSucc n => exact ⟨'-', _, rfl, .inl rfl⟩
      | ofNat n =>
        obtain ⟨c, cs, hcs, hdigit⟩ := toDigits_eq_cons n
        exact ⟨c, cs, hcs, .inr hdigit⟩
    rw [hcs] at hread
    change readValue? (fuel + 1) depth ((Number.int n).text ++ rest) = _
    rw [hcs, List.cons_append, readValue?_number hc, ← List.cons_append, hread]
    rfl
  | .str s, _, fuel, depth, _, _, rest, _ => by
    change (readString? (s.toList.flatMap escape ++ ['"'] ++ rest)).map _ = _
    rw [List.append_assoc, List.singleton_append, readString?_text]
    rfl
  | .arr [], _, _, depth + 1, _, _, _, _ => rfl
  | .arr (v :: items), ⟨hv, hitems⟩, fuel, depth + 1, hfuel, hdepth, rest, _ => by
    obtain ⟨c, cs, hcs, hspace, hc, -⟩ := text_eq_cons hv
    have hstart : itemsText (v :: items) = c :: (cs ++ restText items) := by
      rw [itemsText, hcs, List.cons_append]
    have hlength : (text (.arr (v :: items))).length = (itemsText (v :: items)).length + 2 := by
      simp [text]
    obtain ⟨fuel, rfl⟩ := Nat.exists_eq_succ_of_ne_zero (n := fuel) (by omega)
    have hread := readItems?_text (List.cons_ne_nil v items) ⟨hv, hitems⟩ fuel depth
      (by omega) (Nat.le_of_succ_le_succ hdepth) rest
    change readValue? (fuel + 2) (depth + 1) ('[' :: (itemsText (v :: items) ++ [']'] ++ rest)) = _
    rw [List.append_assoc, List.singleton_append]
    rw [hstart] at hread ⊢
    rw [List.cons_append, readValue?_bracket hspace hc, ← List.cons_append, hread]
    rfl
  | .obj [], _, _, depth + 1, _, _, _, _ => rfl
  | .obj ((key, v) :: fields), ⟨_, hv, hfields⟩, fuel, depth + 1, hfuel, hdepth, rest, _ => by
    have hlength : (text (.obj ((key, v) :: fields))).length =
        (fieldsText ((key, v) :: fields)).length + 2 := by
      simp [text]
    obtain ⟨fuel, rfl⟩ := Nat.exists_eq_succ_of_ne_zero (n := fuel) (by omega)
    have hread := readFields?_text (List.cons_ne_nil (key, v) fields) ⟨hv, hfields⟩ fuel depth
      (by omega) (Nat.le_of_succ_le_succ hdepth) rest
    change readValue? (fuel + 2) (depth + 1)
      ('\x7b' :: (fieldsText ((key, v) :: fields) ++ ['\x7d'] ++ rest)) = _
    rw [List.append_assoc, List.singleton_append]
    have hstart : ∃ s, fieldsText ((key, v) :: fields) = '"' :: s := ⟨_, rfl⟩
    obtain ⟨s, hs⟩ := hstart
    rw [hs] at hread ⊢
    rw [List.cons_append, readValue?_brace (by decide) (by decide), ← List.cons_append, hread]
    rfl
theorem readItems?_text : {items : List Json} → (hne : items ≠ []) →
    (hitems : ExactItems items) → (fuel depth : Nat) →
    (hfuel : 2 * (itemsText items).length < fuel + 1) → (hdepth : depthItems items ≤ depth) →
    (rest : List Char) →
    readItems? (fuel + 1) depth (itemsText items ++ ']' :: rest) = some (items, rest)
  | [], hne, _, _, _, _, _, _ => absurd rfl hne
  | [v], _, ⟨hv, _⟩, fuel, depth, hfuel, hdepth, rest => by
    have hpos := length_text_pos hv
    simp only [itemsText, restText, List.length_append, List.length_nil] at hfuel
    obtain ⟨fuel, rfl⟩ := Nat.exists_eq_succ_of_ne_zero (n := fuel) (by omega)
    rw [itemsText, List.append_assoc]
    exact readItems?_last (readValue?_text hv _ _ (by omega) (Nat.max_le.mp hdepth).1
      (endsNumber_of (.inr (.inl rfl)) _))
  | v :: w :: items, _, ⟨hv, hitems⟩, fuel, depth, hfuel, hdepth, rest => by
    have hpos := length_text_pos hv
    rw [itemsText, restText_cons, List.length_append, List.length_cons] at hfuel
    obtain ⟨fuel, rfl⟩ := Nat.exists_eq_succ_of_ne_zero (n := fuel) (by omega)
    obtain ⟨hfirst, hothers⟩ := Nat.max_le.mp hdepth
    have hmore := readItems?_text (List.cons_ne_nil w items) hitems fuel depth (by omega)
      hothers rest
    rw [← skipSpace_itemsText hitems.1] at hmore
    rw [itemsText, restText_cons, List.append_assoc]
    have hvalue := readValue?_text hv fuel depth (by omega) hfirst
      (endsNumber_of (.inl rfl) (itemsText (w :: items) ++ ']' :: rest))
    exact readItems?_next hvalue hmore
theorem readFields?_text : {fields : List (String × Json)} → (hne : fields ≠ []) →
    (hfields : ExactFields fields) → (fuel depth : Nat) →
    (hfuel : 2 * (fieldsText fields).length < fuel + 1) → (hdepth : depthFields fields ≤ depth) →
    (rest : List Char) →
    readFields? (fuel + 1) depth (fieldsText fields ++ '\x7d' :: rest) = some (fields, rest)
  | [], hne, _, _, _, _, _, _ => absurd rfl hne
  | [(key, v)], _, ⟨hv, _⟩, fuel, depth, hfuel, hdepth, rest => by
    have hpos := length_text_pos hv
    simp only [fieldsText, restFieldsText, List.length_append, List.length_cons,
      List.length_nil] at hfuel
    obtain ⟨fuel, rfl⟩ := Nat.exists_eq_succ_of_ne_zero (n := fuel) (by omega)
    have hvalue := readValue?_text hv fuel depth (by omega) (Nat.max_le.mp hdepth).1
      (endsNumber_of (.inr (.inr rfl)) rest)
    rw [← skipSpace_text hv] at hvalue
    rw [fieldsText, restFieldsText, List.append_nil, List.append_assoc]
    exact readFields?_last hvalue
  | (key, v) :: (name, w) :: fields, _, ⟨hv, hfields⟩, fuel, depth, hfuel, hdepth, rest => by
    have hpos := length_text_pos hv
    rw [fieldsText, restFieldsText_cons] at hfuel
    simp only [List.length_append, List.length_cons] at hfuel
    obtain ⟨fuel, rfl⟩ := Nat.exists_eq_succ_of_ne_zero (n := fuel) (by omega)
    obtain ⟨hfirst, hothers⟩ := Nat.max_le.mp hdepth
    have hmore := readFields?_text (List.cons_ne_nil (name, w) fields) hfields fuel depth
      (by omega) hothers rest
    have hvalue := readValue?_text hv fuel depth (by omega) hfirst (endsNumber_of (.inl rfl)
      (fieldsText ((name, w) :: fields) ++ '\x7d' :: rest))
    rw [← skipSpace_text hv] at hvalue
    rw [fieldsText, restFieldsText_cons]
    simp only [List.append_assoc, List.cons_append]
    exact readFields?_next hvalue hmore
end

mutual
theorem normalize_of_exact : {v : Json} → v.Exact → v.normalize = v
  | .null, _ | .bool _, _ | .num _, _ | .str _, _ => rfl
  | .arr items, hitems => by rw [normalize, normalizeItems_of_exact hitems]
  | .obj fields, ⟨hsorted, hfields⟩ => by
    rw [normalize, normalizeFields_of_exact hfields, hsorted.ofList_eq]
theorem normalizeItems_of_exact : {items : List Json} → ExactItems items →
    normalizeItems items = items
  | [], _ => rfl
  | _ :: _, ⟨hv, hrest⟩ => by
    rw [normalizeItems, normalize_of_exact hv, normalizeItems_of_exact hrest]
theorem normalizeFields_of_exact : {fields : List (String × Json)} → ExactFields fields →
    normalizeFields fields = fields
  | [], _ => rfl
  | (_, _) :: _, ⟨hv, hrest⟩ => by
    rw [normalizeFields, normalize_of_exact hv, normalizeFields_of_exact hrest]
end

theorem readEntriesWithin?_text {v : Json} (hv : v.Exact) {depth : Nat} (hdepth : v.depth ≤ depth) :
    readEntriesWithin? depth v.text = some v := by
  have hends : EndsNumber [] := fun c hc => by cases hc
  have hread := readValue?_text hv (2 * v.text.length + 1) depth (by omega) hdepth hends
  have hskip := skipSpace_text hv []
  rw [List.append_nil] at hread hskip
  rw [readEntriesWithin?, hskip, hread]
  rfl

theorem read?_compact {v : Json} (hv : v.Exact) (hdepth : v.depth ≤ maxDepth) :
    read? v.compact = some v := by
  rw [read?, compact, String.toList_ofList, readEntries?, readEntriesWithin?_text hv hdepth,
    Option.map_some, normalize_of_exact hv]

end Json
end CloudClient
