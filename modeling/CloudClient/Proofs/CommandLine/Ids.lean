import CloudClient.CommandLine
import CloudClient.Proofs.Datetime
import CloudClient.Proofs.Endpoint.Substitution
import CloudClient.Proofs.Json.Reading
import CloudClient.Proofs.Text

/-!
# Ids on the command line

An id that reads as a number of 64 bits is that number, and a path holds the number as it is
written. So the path holds the text that was typed, unless it has a plus sign, spare zeros in front
or the sign of a negative zero; then it addresses what the number addresses.
-/

namespace CloudClient

/-! ## Decimal numerals -/

namespace Text

theorem digitChar_digitValue {c : Char} (h : c.isDigit = true) :
    digitValue c < 10 ∧ Nat.digitChar (digitValue c) = c := by
  have hrange := toNat_of_isDigit h
  have hvalue : digitValue c < 10 := by
    rw [digitValue]
    omega
  refine ⟨hvalue, ?_⟩
  rw [← Char.toNat_inj, Nat.toNat_digitChar_of_lt_ten hvalue, digitValue]
  omega

theorem toDigits_append_digits {n : Nat} {digits : List Char} (hn : 0 < n)
    (hdigits : ∀ c ∈ digits, c.isDigit = true) :
    Nat.toDigits 10 n ++ digits =
      Nat.toDigits 10 (digits.foldl (fun value c => 10 * value + digitValue c) n) := by
  induction digits generalizing n with
  | nil => simp
  | cons c rest ih =>
    obtain ⟨hvalue, hchar⟩ := digitChar_digitValue (hdigits c List.mem_cons_self)
    have hstep : Nat.toDigits 10 n ++ [c] = Nat.toDigits 10 (10 * n + digitValue c) := by
      rw [← Nat.toDigits_append_toDigits (by decide) hn hvalue, Nat.toDigits_of_lt_base hvalue,
        hchar]
    rw [List.foldl_cons, ← ih (by omega) fun d hd => hdigits d (List.mem_cons_of_mem _ hd),
      ← hstep, List.append_assoc, List.singleton_append]

theorem toDigits_decimalValue {c : Char} {rest : List Char} (hc : c ≠ '0')
    (hdigits : ∀ d ∈ c :: rest, d.isDigit = true) :
    Nat.toDigits 10 (decimalValue (c :: rest)) = c :: rest := by
  have hdigit := hdigits c List.mem_cons_self
  obtain ⟨hvalue, hchar⟩ := digitChar_digitValue hdigit
  have hpos : 0 < digitValue c := by
    have hrange := toNat_of_isDigit hdigit
    have hne : c.toNat ≠ 48 := fun h => hc (Char.toNat_inj.mp h)
    rw [digitValue]
    omega
  have hrest := toDigits_append_digits hpos fun d hd => hdigits d (List.mem_cons_of_mem _ hd)
  rw [Nat.toDigits_of_lt_base hvalue, hchar] at hrest
  simpa [decimalValue] using hrest.symm

/-! ## Spellings of a number -/

/-- Signs and zeros that no number is written with. -/
def hasSpareMarks : List Char → Bool
  | '+' :: _ => true
  | '-' :: '0' :: _ => true
  | '0' :: _ :: _ => true
  | _ => false

theorem hasSpareMarks_toDigits (n : Nat) : hasSpareMarks (Nat.toDigits 10 n) = false := by
  by_cases hn : n < 10
  · rw [Nat.toDigits_of_lt_base hn]
    have hall : ∀ n < 10, hasSpareMarks [n.digitChar] = false := by decide
    exact hall n hn
  · have hpos : 0 < n := by omega
    obtain ⟨c, cs, hcs, hdigit⟩ := Json.toDigits_eq_cons n
    have hzero : c ≠ '0' := by
      rintro rfl
      exact head?_toDigits_ne hpos (by rw [hcs]; rfl)
    have hplus : c ≠ '+' := by
      rintro rfl
      cases hdigit
    have hminus : c ≠ '-' := by
      rintro rfl
      cases hdigit
    rw [hcs]
    simp [hasSpareMarks, hzero, hplus, hminus]

theorem hasSpareMarks_text (n : Int) : hasSpareMarks (Number.text (.int n)) = false := by
  cases n with
  | ofNat n => exact hasSpareMarks_toDigits n
  | negSucc n =>
    obtain ⟨c, cs, hcs, hdigit⟩ := Json.toDigits_eq_cons (n + 1)
    have hzero : c ≠ '0' := by
      rintro rfl
      exact head?_toDigits_ne (Nat.succ_pos n) (by rw [hcs]; rfl)
    rw [Number.text, hcs]
    simp [hasSpareMarks, hzero]

theorem int64?_cases {s : List Char} {n : Int} (h : int64? s = some n) :
    ∃ digits m, decimal? digits = some m ∧
      (s = '-' :: digits ∧ n = -m ∨ s = '+' :: digits ∧ n = m ∨ s = digits ∧ n = m) := by
  have hnumber : ∀ {digits : List Char} {signed : Int → Int},
      ((do let m ← decimal? digits; pure (m : Int)) : Option Int).map signed = some n →
        ∃ m : Nat, decimal? digits = some m ∧ n = signed m := by
    intro digits signed hvalue
    obtain ⟨_, hread, rfl⟩ := Option.map_eq_some_iff.mp hvalue
    obtain ⟨m, hm, hpure⟩ := Option.bind_eq_some_iff.mp hread
    exact ⟨m, hm, congrArg signed (Option.some.inj hpure).symm⟩
  have hvalue := (Option.filter_eq_some_iff.mp h).1
  split at hvalue
  · obtain ⟨m, hm, hn⟩ := hnumber hvalue
    exact ⟨_, m, hm, .inl ⟨rfl, hn⟩⟩
  · obtain ⟨m, hm, hn⟩ := hnumber hvalue
    exact ⟨_, m, hm, .inr (.inl ⟨rfl, hn⟩)⟩
  · obtain ⟨m, hm, hn⟩ := hnumber hvalue
    exact ⟨_, m, hm, .inr (.inr ⟨rfl, hn⟩)⟩

theorem decimal?_cons {digits : List Char} {n : Nat} (h : decimal? digits = some n) :
    ∃ c rest, digits = c :: rest ∧ (c ≠ '0' → Nat.toDigits 10 n = digits) := by
  obtain ⟨hne, hdigits, rfl⟩ := decimal?_eq_some.mp h
  obtain ⟨c, rest, rfl⟩ := List.exists_cons_of_ne_nil hne
  exact ⟨c, rest, rfl, fun hc => toDigits_decimalValue hc hdigits⟩

theorem text_eq_iff_of_int64? {s : List Char} {n : Int} (h : int64? s = some n) :
    Number.text (.int n) = s ↔ hasSpareMarks s = false := by
  refine ⟨fun htext => htext ▸ hasSpareMarks_text n, fun hmarks => ?_⟩
  obtain ⟨digits, m, hread, hs⟩ := int64?_cases h
  obtain ⟨c, rest, rfl, hwritten⟩ := decimal?_cons hread
  rcases hs with ⟨rfl, rfl⟩ | ⟨rfl, rfl⟩ | ⟨rfl, rfl⟩
  · have hc : c ≠ '0' := by
      rintro rfl
      cases hmarks
    have hdigits := hwritten hc
    cases m with
    | zero => exact absurd (List.head_eq_of_cons_eq hdigits).symm hc
    | succ m => exact congrArg ('-' :: ·) hdigits
  · cases hmarks
  · by_cases hc : c = '0'
    · subst hc
      cases rest with
      | nil =>
        cases hread
        rfl
      | cons d rest => cases hmarks
    · exact hwritten hc

end Text

/-! ## Ids in a path -/

namespace Endpoint

theorem fillParents_congr {names : List String} {ids others : List Json}
    (h : ids.map segment = others.map segment) (template : List Char) :
    fillParents template (names.zip ids) = fillParents template (names.zip others) := by
  induction names generalizing ids others template with
  | nil => rfl
  | cons name names ih =>
    cases ids with
    | nil => rw [List.map_eq_nil_iff.mp h.symm]
    | cons id ids =>
      cases others with
      | nil => cases h
      | cons other others =>
        obtain ⟨hid, hids⟩ := List.cons.inj h
        simp only [List.zip_cons_cons, fillParents, hid]
        exact ih hids _

theorem format_congr {type : ResourceType} {template : String} {id? other? : Option Json}
    {parent? others? : Option ParentKey} (hid : id?.map segment = other?.map segment)
    (hparents : (parentIds parent?).map segment = (parentIds others?).map segment) :
    format type template id? parent? = format type template other? others? := by
  have hcheck : checkParent type parent? = checkParent type others? := by
    have hcount := congrArg List.length hparents
    rw [List.length_map, List.length_map] at hcount
    simp only [checkParent, parentCount_eq, hcount]
  have hfill : fill type template.toList id? parent? =
      fill type template.toList other? others? := by
    have hpath : fillParents template.toList (type.parentIds.zip (parentIds parent?)) =
        fillParents template.toList (type.parentIds.zip (parentIds others?)) :=
      fillParents_congr hparents _
    cases id? with
    | none =>
      cases other? with
      | none => rw [fill_collection, fill_collection, hpath]
      | some other => cases hid
    | some id =>
      cases other? with
      | none => cases hid
      | some other => rw [fill_item, fill_item, hpath, Option.some.inj hid]
  rw [format, format, hcheck, hfill]

end Endpoint

namespace CommandLine

/-- The text reads as a number of 64 bits and is not how that number is written. -/
def Respelled (raw : String) : Prop :=
  (Text.int64? raw.toList).isSome = true ∧ Text.hasSpareMarks raw.toList = true

instance : DecidablePred Respelled := fun raw =>
  inferInstanceAs (Decidable ((Text.int64? raw.toList).isSome = true ∧
    Text.hasSpareMarks raw.toList = true))

/-- The parents of an invocation with their ids taken as texts. -/
def textKey? (parents : List String) : Option ParentKey :=
  if parents.isEmpty then none else some ⟨parents.map Json.str⟩

theorem segment_readId_of_int64? {raw : String} {n : Int} (h : Text.int64? raw.toList = some n) :
    Endpoint.segment (readId raw) = Number.text (.int n) := by
  rw [readId, h]
  cases n <;> rfl

theorem segment_readId_iff (raw : String) :
    Endpoint.segment (readId raw) = Percent.encodeSegment raw.toList ↔ ¬ Respelled raw := by
  cases hread : Text.int64? raw.toList with
  | none => simp [readId, hread, Endpoint.segment, Respelled]
  | some n =>
    have hinjective : Percent.encodeSegment (Number.text (.int n)) =
        Percent.encodeSegment raw.toList ↔ Number.text (.int n) = raw.toList :=
      ⟨Percent.encodeSegment_injective, congrArg _⟩
    have htext := Text.text_eq_iff_of_int64? hread
    simp [readId, hread, Endpoint.segment_int, hinjective, htext, Respelled]

theorem segments_readId {parents : List String} (h : ∀ parent ∈ parents, ¬ Respelled parent) :
    (Endpoint.parentIds (parentKey? parents)).map Endpoint.segment =
      (Endpoint.parentIds (textKey? parents)).map Endpoint.segment := by
  have hkey : Endpoint.parentIds (parentKey? parents) = parents.map readId ∧
      Endpoint.parentIds (textKey? parents) = parents.map Json.str := by
    cases parents <;> exact ⟨rfl, rfl⟩
  rw [hkey.1, hkey.2, List.map_map, List.map_map]
  exact List.map_congr_left fun parent hparent => (segment_readId_iff parent).mpr (h _ hparent)

/-- The path holds an id as it was typed exactly if it is no number in another spelling, and holds
the number where it is one. With no id respelled, paths are those of the texts that were typed. -/
theorem paths_of_typed_ids :
    (∀ raw : String,
      Endpoint.segment (readId raw) = Percent.encodeSegment raw.toList ↔ ¬ Respelled raw) ∧
    (∀ {raw : String} {n : Int}, Text.int64? raw.toList = some n →
      Endpoint.segment (readId raw) = Number.text (.int n)) ∧
    ∀ (type : ResourceType) {id : String} {parents : List String}, ¬ Respelled id →
      (∀ parent ∈ parents, ¬ Respelled parent) →
      Endpoint.item type (readId id) (parentKey? parents) =
          Endpoint.item type (.str id) (textKey? parents) ∧
        Endpoint.collection type (parentKey? parents) =
          Endpoint.collection type (textKey? parents) := by
  refine ⟨segment_readId_iff, segment_readId_of_int64?, fun type id parents hid hparents => ?_⟩
  have hsegment : Endpoint.segment (readId id) = Endpoint.segment (.str id) :=
    (segment_readId_iff id).mpr hid
  exact ⟨Endpoint.format_congr (congrArg some hsegment) (segments_readId hparents),
    Endpoint.format_congr rfl (segments_readId hparents)⟩

/-- A blank, the least number and one past the greatest are typed as they are written. -/
theorem paths_of_typed_ids_member :
    (∀ raw ∈ ["9223372036854775808", " 7", "-9223372036854775808"], ¬ Respelled raw) ∧
      Endpoint.item ResourceType.memberType (readId "9223372036854775808")
        (parentKey? [" 7", "-9223372036854775808"]) =
          .ok "/balancers/%207/configs/-9223372036854775808/nodes/9223372036854775808" := by
  have hid : ¬ Respelled "9223372036854775808" := by decide
  have hparents : ∀ raw ∈ [" 7", "-9223372036854775808"], ¬ Respelled raw := by decide
  refine ⟨List.forall_mem_cons.mpr ⟨hid, hparents⟩, ?_⟩
  rw [(paths_of_typed_ids.2.2 ResourceType.memberType hid hparents).1]
  exact congrArg Except.ok (by decide +kernel)

/-- A label of zeros is taken for the number that it reads as. -/
theorem typed_id_changed : ¬ ∀ raw : String,
    Endpoint.segment (readId raw) = Percent.encodeSegment raw.toList := by
  intro h
  have hlabel := h "007"
  exact absurd hlabel (by decide)

end CommandLine
end CloudClient
