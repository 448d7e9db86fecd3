import CloudClient.Error
import Mathlib.Data.String.Basic

/-!
# What a user is shown

The text for a failure is short and printable. Of a refusal by the server it tells the status, and
for status 400 the first reason; of an answer of the wrong form it tells nothing. Every other
failure is shown by its message, or by the start of its printable part where that is not all of it.
-/

namespace CloudClient

namespace Text

theorem length_le_utf8Len (s : List Char) : s.length ≤ String.utf8Len s := by
  induction s with
  | nil => exact Nat.le_refl 0
  | cons c s ih =>
    have hc := c.utf8Size_pos
    rw [List.length_cons, String.utf8Len_cons]
    omega

theorem utf8Size_of_isPrintable {c : Char} (h : isPrintable c = true) : c.utf8Size = 1 := by
  simp only [isPrintable, Bool.and_eq_true, decide_eq_true_eq] at h
  refine Char.utf8Size_eq_one_iff.mpr (UInt32.le_iff_toNat_le.mpr ?_)
  exact Nat.le_trans h.2 (by decide)

theorem utf8Len_of_printable {s : List Char} (h : ∀ c ∈ s, isPrintable c = true) :
    String.utf8Len s = s.length := by
  induction s with
  | nil => rfl
  | cons c s ih =>
    obtain ⟨hc, hs⟩ := List.forall_mem_cons.mp h
    rw [String.utf8Len_cons, ih hs, utf8Size_of_isPrintable hc, List.length_cons]

end Text

namespace Error

/-! ## Excerpts -/

def Legible (max : Nat) (s : String) : Prop :=
  (∀ c ∈ s.toList, Text.isPrintable c = true) ∧ s.length ≤ max

instance (max : Nat) (s : String) : Decidable (Legible max s) :=
  decidable_of_iff (s.toList.all Text.isPrintable = true ∧ s.length ≤ max)
    (and_congr_left' List.all_eq_true)

theorem Legible.mono {max max' : Nat} {s : String} (h : Legible max s) (hle : max ≤ max') :
    Legible max' s := ⟨h.1, Nat.le_trans h.2 hle⟩

theorem Legible.append {m n : Nat} {s t : String} (hs : Legible m s) (ht : Legible n t) :
    Legible (m + n) (s ++ t) := by
  refine ⟨fun c hc => ?_, ?_⟩
  · rw [String.toList_append] at hc
    exact (List.mem_append.mp hc).elim (hs.1 c) (ht.1 c)
  · rw [String.length_append]
    exact Nat.add_le_add hs.2 ht.2

def start (message : String) (max : Nat) : String :=
  String.ofList ((message.toList.filter Text.isPrintable).take max)

theorem toList_start (message : String) (max : Nat) :
    (start message max).toList = (message.toList.filter Text.isPrintable).take max :=
  String.toList_ofList

theorem legible_start (message : String) (max : Nat) : Legible max (start message max) := by
  refine ⟨fun c hc => ?_, ?_⟩
  · rw [toList_start] at hc
    exact (List.mem_filter.mp (List.mem_of_mem_take hc)).2
  · rw [← String.length_toList, toList_start]
    exact List.length_take_le _ _

theorem start_eq_self {message : String} {max : Nat} (h : Legible max message) :
    start message max = message := by
  obtain ⟨hprintable, hlength⟩ := h
  rw [← String.length_toList] at hlength
  rw [start, List.filter_eq_self.mpr hprintable, List.take_of_length_le hlength, String.ofList_toList]

theorem length_start_lt_iff (message : String) (max : Nat) :
    (start message max).length < message.utf8ByteSize ↔ ¬ Legible max message := by
  have hstart := legible_start message max
  rw [← String.utf8Len_toList]
  constructor
  · intro hlt hlegible
    rw [start_eq_self hlegible, ← String.length_toList,
      Text.utf8Len_of_printable hlegible.1] at hlt
    exact Nat.lt_irrefl _ hlt
  · intro hnot
    refine Nat.lt_of_not_le fun hle => hnot ?_
    have hsublist : (start message max).toList.Sublist message.toList := by
      rw [toList_start]
      exact (List.take_sublist _ _).trans List.filter_sublist
    have hmany := Nat.le_trans (Text.length_le_utf8Len message.toList) hle
    rw [← String.length_toList] at hmany
    rw [← String.toList_inj.mp (hsublist.eq_of_length_le hmany)]
    exact hstart

theorem abbreviate_eq (message : String) (max : Nat) :
    abbreviate message max =
      if Legible max message then message else start message max ++ "..." := by
  have hkept : abbreviate message max =
      if (start message max).length < message.utf8ByteSize then start message max ++ "..."
      else start message max := by
    unfold abbreviate start
    rw [String.length_ofList]
  rw [hkept]
  by_cases hlegible : Legible max message
  · have hall := mt (length_start_lt_iff message max).mp (not_not_intro hlegible)
    rw [if_neg hall, if_pos hlegible, start_eq_self hlegible]
  · rw [if_pos ((length_start_lt_iff message max).mpr hlegible), if_neg hlegible]

theorem legible_abbreviate (message : String) (max : Nat) :
    Legible (max + 3) (abbreviate message max) := by
  rw [abbreviate_eq]
  split
  · exact Legible.mono ‹_› (Nat.le_add_right max 3)
  · exact (legible_start message max).append (by decide)

/-! ## Refusals -/

theorem shownRefusal_badRequest {e : ApiError} (h : e.status = 400) :
    shownRefusal e = match e.reasons.head? with
      | some reason => "Invalid request: " ++ abbreviate reason 80
      | none => "Invalid request. Check your parameters." := by
  unfold shownRefusal
  rw [h]
  cases e.reasons <;> rfl

theorem shownRefusal_of_ne {e : ApiError} (h : e.status ≠ 400) :
    shownRefusal e = shownRefusal { status := e.status, reasons := [], json := .null } := by
  simp only [shownRefusal, if_neg h]

theorem shownRefusal_congr {e e' : ApiError} (hstatus : e.status = e'.status)
    (hreason : e.status = 400 → e.reasons.head? = e'.reasons.head?) :
    shownRefusal e = shownRefusal e' := by
  by_cases h : e.status = 400
  · rw [shownRefusal_badRequest h, shownRefusal_badRequest (hstatus ▸ h), hreason h]
  · calc shownRefusal e
        = shownRefusal { status := e.status, reasons := [], json := .null } := shownRefusal_of_ne h
      _ = shownRefusal { status := e'.status, reasons := [], json := .null } := by rw [hstatus]
      _ = shownRefusal e' := (shownRefusal_of_ne (hstatus ▸ h)).symm

theorem legible_shownRefusal (e : ApiError) : Legible 100 (shownRefusal e) := by
  by_cases h : e.status = 400
  · rw [shownRefusal_badRequest h]
    split
    · exact Legible.append (m := 17) (by decide) (legible_abbreviate _ 80)
    · decide
  · simp only [shownRefusal, if_neg h]
    repeat' split
    all_goals decide

/-! ## Errors -/

theorem shown_eq {e : Error} (h : ∀ refusal, e ≠ .api refusal) :
    e.shown = abbreviate e.message 80 := by
  cases e with
  | api refusal => exact absurd rfl (h refusal)
  | _ => rfl

/-- What is shown is printable and short. For a failure that is no refusal it is the message if that
is so itself, and otherwise the start of its printable part with an ellipsis; the answer that had the
wrong form is not part of it. For a refusal it depends on the status, and for status 400 on the first
of the reasons that were found in the body. -/
theorem shown_discreet :
    (∀ e : Error, (∀ refusal, e ≠ .api refusal) → Legible 83 e.shown ∧
      e.shown = if Legible 80 e.message then e.message else start e.message 80 ++ "...") ∧
    (∀ message json json', (Error.unexpectedResponse message json).shown =
      (Error.unexpectedResponse message json').shown) ∧
    (∀ refusal, Legible 100 (Error.api refusal).shown) ∧
    (∀ refusal refusal', refusal.status = refusal'.status →
      (refusal.status = 400 → refusal.reasons.head? = refusal'.reasons.head?) →
        (Error.api refusal).shown = (Error.api refusal').shown) ∧
    ∀ status body body', (status = 400 → (ApiError.ofResponse status body).reasons.head? =
        (ApiError.ofResponse status body').reasons.head?) →
      (Error.api (.ofResponse status body)).shown = (Error.api (.ofResponse status body')).shown := by
  refine ⟨fun e he => ?_, fun _ _ _ => rfl, legible_shownRefusal, fun _ _ => shownRefusal_congr,
    fun status body body' => ?_⟩
  · rw [shown_eq he]
    exact ⟨legible_abbreviate e.message 80, abbreviate_eq e.message 80⟩
  · exact @shownRefusal_congr (.ofResponse status body) (.ofResponse status body') rfl

def manyReasons : String :=
  "\x7b\"errors\": [\x7b\"reason\": \"bad region\"\x7d, \x7b\"reason\": \"secret\"\x7d]\x7d"

def oneReason : String := "\x7b\"error\": \"bad region\", \"trace\": [1, 2]\x7d"

/-- A message that is not printable, a page of markup, and two bodies that agree in a reason. -/
theorem shown_discreet_bodies :
    (Error.config "caf\u00e9 \t!").shown = "configuration error: caf !..." ∧
      (Error.api (.ofResponse 502 "<html>bad gateway</html>")).shown =
        (Error.api (.ofResponse 502 "")).shown ∧
      (ApiError.ofResponse 400 manyReasons).reasons = ["bad region", "secret"] ∧
      (ApiError.ofResponse 400 oneReason).reasons = ["bad region"] ∧
      (Error.api (.ofResponse 400 manyReasons)).shown =
        (Error.api (.ofResponse 400 oneReason)).shown := by
  obtain ⟨hlocal, -, -, -, hbodies⟩ := shown_discreet
  obtain ⟨-, hshown⟩ := hlocal (.config "caf\u00e9 \t!") nofun
  have hmany : (ApiError.ofResponse 400 manyReasons).reasons = ["bad region", "secret"] := by
    decide +kernel
  have hone : (ApiError.ofResponse 400 oneReason).reasons = ["bad region"] := by
    decide +kernel
  refine ⟨hshown.trans (by decide +kernel), hbodies 502 _ _ nofun, hmany, hone,
    hbodies 400 _ _ fun _ => ?_⟩
  rw [hmany, hone]
  rfl

end Error
end CloudClient
