import CloudClient.Exchange
import CloudClient.Proofs.Text
import Mathlib.Data.String.Basic

/-!
# What is logged of a refusal

The start of a body that is logged is the longest one that fits and ends between two characters. It
is found in the octets up to the limit alone, so that two bodies of one size that agree in these are
logged alike, and nothing after them gets into the log.
-/

namespace CloudClient.Exchange
variable {max : Nat} {s p : List Char} {body body' : String}

/-! ## Characters that fit -/

theorem takeOctets_prefix (max : Nat) (s : List Char) : takeOctets max s <+: s := by
  induction s generalizing max with
  | nil => exact List.nil_prefix
  | cons c s ih =>
    rw [takeOctets]
    split
    · exact (List.prefix_cons_inj c).mpr (ih _)
    · exact List.nil_prefix

theorem utf8Len_takeOctets_le (max : Nat) (s : List Char) :
    String.utf8Len (takeOctets max s) ≤ max := by
  induction s generalizing max with
  | nil => exact Nat.zero_le max
  | cons c s ih =>
    rw [takeOctets]
    split
    · have hrest := ih (max - c.utf8Size)
      rw [String.utf8Len_cons]
      omega
    · exact Nat.zero_le max

theorem prefix_takeOctets (h : p <+: s) (hfits : String.utf8Len p ≤ max) :
    p <+: takeOctets max s := by
  induction s generalizing max p with
  | nil => exact List.prefix_nil.mp h ▸ List.nil_prefix
  | cons c s ih =>
    rcases List.prefix_cons_iff.mp h with rfl | ⟨p, rfl, hp⟩
    · exact List.nil_prefix
    · rw [String.utf8Len_cons] at hfits
      rw [takeOctets, if_pos (by omega)]
      exact (List.prefix_cons_inj c).mpr (ih hp (by omega))

/-! ## Octets -/

theorem isValid_iff_exists_prefix {p : String.Pos.Raw} :
    p.IsValid body ↔ ∃ start, start <+: body.toList ∧ String.utf8Len start = p.byteIdx := by
  rw [String.Pos.Raw.isValid_iff_exists_append]
  constructor
  · intro h
    obtain ⟨start, rest, rfl, rfl⟩ := h
    refine ⟨start.toList, ?_, String.utf8Len_toList start⟩
    rw [String.toList_append]
    exact List.prefix_append _ _
  · intro h
    obtain ⟨start, ⟨rest, hrest⟩, hp⟩ := h
    refine ⟨String.ofList start, String.ofList rest, ?_, ?_⟩
    · rw [← String.ofList_append, hrest, String.ofList_toList]
    · rw [String.rawEndPos_ofList, hp]

/-- The longest start of a text within a number of octets that ends between two characters. -/
structure LongestStart (body : String) (max : Nat) (start : String) : Prop where
  octets : start.toByteArray = body.toByteArray.extract 0 start.utf8ByteSize
  whole : String.Pos.Raw.IsValid body ⟨start.utf8ByteSize⟩
  fits : start.utf8ByteSize ≤ max
  longest : ∀ p : String.Pos.Raw, p.IsValid body → p.byteIdx ≤ max → p.byteIdx ≤ start.utf8ByteSize

theorem utf8Encode_eq_extract (h : p <+: body.toList) :
    p.utf8Encode = body.toByteArray.extract 0 (String.utf8Len p) := by
  obtain ⟨rest, hrest⟩ := h
  have hsize : p.utf8Encode.size = String.utf8Len p := by
    rw [← String.toByteArray_ofList, String.size_toByteArray, String.utf8ByteSize_ofList]
  rw [← String.utf8Encode_toList, ← hrest, List.utf8Encode_append]
  exact (ByteArray.extract_append_eq_left hsize.symm).symm

theorem longestStart_takeOctets (body : String) (max : Nat) :
    LongestStart body max (String.ofList (takeOctets max body.toList)) := by
  have hprefix := takeOctets_prefix max body.toList
  have hsize := String.utf8ByteSize_ofList (takeOctets max body.toList)
  refine ⟨?_, ?_, ?_, fun p hp hfits => ?_⟩
  · rw [String.toByteArray_ofList, hsize]
    exact utf8Encode_eq_extract hprefix
  · exact isValid_iff_exists_prefix.mpr ⟨_, hprefix, hsize.symm⟩
  · rw [hsize]
    exact utf8Len_takeOctets_le max body.toList
  · obtain ⟨start, hstart, hlength⟩ := isValid_iff_exists_prefix.mp hp
    rw [hsize, ← hlength]
    exact String.utf8Len_le_of_prefix (prefix_takeOctets hstart (hlength ▸ hfits))

/-- Going back from the limit to the first octet that no character goes over finds the same place. -/
theorem LongestStart.offset_posLE {start : String} (h : LongestStart body max start) :
    (body.posLE ⟨max⟩).offset.byteIdx = start.utf8ByteSize := by
  refine Nat.le_antisymm (h.longest _ (body.posLE ⟨max⟩).isValid String.offset_posLE_le) ?_
  have hle : (⟨⟨start.utf8ByteSize⟩, h.whole⟩ : body.Pos) ≤ body.posLE ⟨max⟩ :=
    String.le_posLE_iff.mpr h.fits
  exact hle

theorem takeOctets_prefix_of_agree
    (h : body.toByteArray.extract 0 max = body'.toByteArray.extract 0 max) :
    takeOctets max body.toList <+: takeOctets max body'.toList := by
  have hfits := utf8Len_takeOctets_le max body.toList
  generalize hkept : takeOctets max body.toList = kept at hfits
  have hprefix : kept <+: body.toList := hkept ▸ takeOctets_prefix max body.toList
  have hcut : ∀ a : ByteArray, a.extract 0 (String.utf8Len kept) =
      (a.extract 0 max).extract 0 (String.utf8Len kept) := by
    intro a
    rw [ByteArray.extract_extract, Nat.zero_add, Nat.zero_add, Nat.min_eq_left hfits]
  have hsame : kept.utf8Encode = body'.toByteArray.extract 0 (String.utf8Len kept) := by
    rw [utf8Encode_eq_extract hprefix, hcut, h, ← hcut]
  have hrest : kept.utf8Encode ++
      body'.toByteArray.extract (String.utf8Len kept) body'.toByteArray.size =
        body'.toList.utf8Encode := by
    rw [hsame, ByteArray.extract_append_extract, Nat.zero_min, ByteArray.extract_zero_max_size,
      String.utf8Encode_toList]
  exact prefix_takeOctets (List.isPrefix_of_utf8Encode_append_eq_utf8Encode _ hrest) hfits

theorem takeOctets_congr (h : body.toByteArray.extract 0 max = body'.toByteArray.extract 0 max) :
    takeOctets max body.toList = takeOctets max body'.toList := by
  have hprefix := takeOctets_prefix_of_agree h
  exact hprefix.eq_of_length_le (takeOctets_prefix_of_agree h.symm).length_le

/-! ## The logged text -/

def cutMark (body : String) : String :=
  if maxLogged < body.utf8ByteSize then
    "... [truncated, " ++ toString body.utf8ByteSize ++ " bytes total]"
  else ""

theorem isPrintable_of_mem_cutMark {c : Char} (h : c ∈ (cutMark body).toList) :
    Text.isPrintable c = true := by
  have hdigits : (toString body.utf8ByteSize).toList = Nat.toDigits 10 body.utf8ByteSize :=
    String.toList_ofList
  unfold cutMark at h
  split at h
  · simp only [String.toList_append, hdigits, List.mem_append] at h
    rcases h with (h | h) | h
    · exact List.all_eq_true.mp (by decide) c h
    · exact Text.isPrintable_of_isDigit (Nat.isDigit_of_mem_toDigits (by decide) (by decide) h)
    · exact List.all_eq_true.mp (by decide) c h
  · cases h

theorem sanitize_eq (body : String) : sanitize body =
    String.ofList ((takeOctets maxLogged body.toList).filter Text.isPrintable) ++ cutMark body := by
  have hmark : (cutMark body).toList.filter Text.isPrintable = (cutMark body).toList :=
    List.filter_eq_self.mpr fun c => isPrintable_of_mem_cutMark
  change String.ofList ((takeOctets maxLogged body.toList ++ (cutMark body).toList).filter _) = _
  rw [List.filter_append, hmark, String.ofList_append, String.ofList_toList]

theorem isPrintable_of_mem_sanitize {c : Char} (h : c ∈ (sanitize body).toList) :
    Text.isPrintable c = true := by
  rw [sanitize_eq, String.toList_append, String.toList_ofList] at h
  rcases List.mem_append.mp h with h | h
  · exact (List.mem_filter.mp h).2
  · exact isPrintable_of_mem_cutMark h

theorem sanitize_congr (hsize : body.utf8ByteSize = body'.utf8ByteSize)
    (h : body.toByteArray.extract 0 maxLogged = body'.toByteArray.extract 0 maxLogged) :
    sanitize body = sanitize body' := by
  rw [sanitize_eq, sanitize_eq, takeOctets_congr h, cutMark, cutMark, hsize]

theorem accept_logs (status : Nat) (body : String) (w : World) : (accept status body w).2 =
    if Status.isSuccess status then w
    else { w with log := w.log ++
      [⟨.error, "API error: " ++ Status.text status ++ " - " ++ sanitize body⟩] } := by
  unfold accept
  split
  · split
    · rfl
    · cases Json.read? body <;> rfl
  · rfl

/-- What is logged of a body is printable: the printable characters of the longest start of at most
200 octets that ends between two characters, which is where going back from octet 200 ends, and for
a longer body how long it was. Whatever the body, nothing else of it gets into the log, so two bodies
of one size that agree in their first 200 octets leave the same log. -/
theorem logged_excerpt (body : String) :
    (∀ c ∈ (sanitize body).toList, Text.isPrintable c = true) ∧
    (∃ start, LongestStart body maxLogged start ∧
      (body.posLE ⟨maxLogged⟩).offset.byteIdx = start.utf8ByteSize ∧
      sanitize body = String.ofList (start.toList.filter Text.isPrintable) ++ cutMark body) ∧
    (∀ status w, (accept status body w).2 =
      if Status.isSuccess status then w
      else { w with log := w.log ++
        [⟨.error, "API error: " ++ Status.text status ++ " - " ++ sanitize body⟩] }) ∧
    ∀ body', body.utf8ByteSize = body'.utf8ByteSize →
      body.toByteArray.extract 0 maxLogged = body'.toByteArray.extract 0 maxLogged →
      sanitize body = sanitize body' ∧
        ∀ status w, (accept status body w).2 = (accept status body' w).2 := by
  have hstart := longestStart_takeOctets body maxLogged
  refine ⟨fun c => isPrintable_of_mem_sanitize, ⟨_, hstart, hstart.offset_posLE, ?_⟩,
    fun status => accept_logs status body, fun body' hsize hagree => ?_⟩
  · rw [String.toList_ofList]
    exact sanitize_eq body
  · have hsame := sanitize_congr hsize hagree
    refine ⟨hsame, fun status w => ?_⟩
    rw [accept_logs, accept_logs, hsame]

/-! ## Bodies with a character over octet 200 -/

def opening : String := String.ofList ('a' :: List.replicate 66 '\u20ac')

theorem utf8ByteSize_opening : opening.utf8ByteSize = 199 :=
  (String.utf8ByteSize_ofList _).trans (by decide +kernel)

/-- Octet 200 is the first one of either accented letter, which differ in the second. -/
theorem logged_excerpt_accented :
    (opening ++ "\u00e9!").utf8ByteSize = (opening ++ "\u00e8?").utf8ByteSize ∧
      (opening ++ "\u00e9!").toByteArray.extract 0 maxLogged =
        (opening ++ "\u00e8?").toByteArray.extract 0 maxLogged ∧
      sanitize (opening ++ "\u00e9!") = sanitize (opening ++ "\u00e8?") ∧
      sanitize (opening ++ "\u00e9!") = "a... [truncated, 202 bytes total]" := by
  have hsize : (opening ++ "\u00e9!").utf8ByteSize = (opening ++ "\u00e8?").utf8ByteSize := by
    rw [String.utf8ByteSize_append, String.utf8ByteSize_append]
    exact congrArg _ (by decide)
  have hagree : (opening ++ "\u00e9!").toByteArray.extract 0 maxLogged =
      (opening ++ "\u00e8?").toByteArray.extract 0 maxLogged := by
    rw [String.toByteArray_append, String.toByteArray_append, ByteArray.extract_append,
      ByteArray.extract_append, String.size_toByteArray, utf8ByteSize_opening]
    exact congrArg _ (by decide +kernel)
  obtain ⟨-, -, -, hsame⟩ := logged_excerpt (opening ++ "\u00e9!")
  exact ⟨hsize, hagree, (hsame _ hsize hagree).1, by decide +kernel⟩

end CloudClient.Exchange
