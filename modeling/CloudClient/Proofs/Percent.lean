import CloudClient.Url

/-!
# Percent encoding of segments

An encoded segment has unreserved characters and escapes only, so nothing in it can end a path
segment, and resolving its escapes gives back the octets of the text. Dots are unreserved: a text
that is one dot or two is encoded as itself, and it is the only text whose encoding is a dot segment.
-/

namespace CloudClient

namespace Utf8

theorem flatMap_encode_injective {s t : List Char} (h : s.flatMap encode = t.flatMap encode) :
    s = t := by
  have hbytes : s.utf8Encode = t.utf8Encode := congrArg List.toByteArray h
  have hdecoded := congrArg ByteArray.utf8Decode? hbytes
  rw [List.utf8Decode?_utf8Encode, List.utf8Decode?_utf8Encode] at hdecoded
  exact congrArg Array.toList (Option.some.inj hdecoded)

end Utf8

namespace Percent

theorem hexValue?_hexUpper (n : Fin 16) : Text.hexValue? (Text.hexUpper n) = some n.val := by
  revert n
  decide

def isWritten (c : Char) : Bool := isUnreserved c || c = '%'

theorem isWritten_hexUpper (n : Fin 16) : isWritten (Text.hexUpper n) = true := by
  revert n
  decide

theorem ne_percent_of_isUnreserved {c : Char} (h : isUnreserved c = true) : c ≠ '%' := by
  intro hc
  subst hc
  cases h

theorem mem_octet {c : Char} {b : UInt8} (h : c ∈ octet b) : isWritten c = true := by
  have hhigh : b.toNat / 16 < 16 := Nat.div_lt_of_lt_mul b.toNat_lt
  have hlow : b.toNat % 16 < 16 := Nat.mod_lt _ (by decide)
  simp only [octet, List.mem_cons, List.not_mem_nil, or_false] at h
  rcases h with rfl | rfl | rfl
  · rfl
  · exact isWritten_hexUpper ⟨_, hhigh⟩
  · exact isWritten_hexUpper ⟨_, hlow⟩

theorem mem_encodeSegment {c : Char} {s : List Char} (h : c ∈ encodeSegment s) :
    isWritten c = true := by
  obtain ⟨d, -, hc⟩ := List.mem_flatMap.mp h
  split at hc
  · obtain ⟨b, -, hb⟩ := List.mem_flatMap.mp hc
    exact mem_octet hb
  · rename_i hd
    obtain rfl := List.mem_singleton.mp hc
    have hd : isUnreserved c = true := by simpa using hd
    simp [isWritten, hd]

theorem toNat_le_of_isAlphanum {c : Char} (h : c.isAlphanum = true) : c.toNat ≤ 122 := by
  have hcases : (c.isUpper || c.isLower || c.isDigit) = true := h
  simp only [Bool.or_eq_true] at hcases
  rcases hcases with (hupper | hlower) | hdigit
  · have hle : c.val ≤ 'Z'.val := (of_decide_eq_true hupper).2
    exact Nat.le_trans (UInt32.le_iff_toNat_le.mp hle) (by decide)
  · have hle : c.val ≤ 'z'.val := of_decide_eq_true (Bool.and_eq_true_iff.mp hlower).2
    exact UInt32.le_iff_toNat_le.mp hle
  · have hle : c.val ≤ '9'.val := of_decide_eq_true (Bool.and_eq_true_iff.mp hdigit).2
    exact Nat.le_trans (UInt32.le_iff_toNat_le.mp hle) (by decide)

theorem lt_of_isWritten {c : Char} (h : isWritten c = true) : c.toNat < 128 := by
  simp only [isWritten, isUnreserved, Bool.or_eq_true, decide_eq_true_eq] at h
  rcases h with ((((h | h) | h) | h) | h) | h
  · have := toNat_le_of_isAlphanum h
    omega
  all_goals
    subst h
    decide

theorem encode_of_forall {inSet : Char → Bool} {s : List Char} (h : ∀ c ∈ s, inSet c = false) :
    encode inSet s = s := by
  induction s with
  | nil => rfl
  | cons c rest ih =>
    have hc := h c List.mem_cons_self
    have hrest := ih fun d hd => h d (List.mem_cons_of_mem _ hd)
    simp only [encode, List.flatMap_cons, hc, Bool.false_eq_true, if_false] at hrest ⊢
    rw [hrest]
    rfl

/-! ## Resolving escapes -/

theorem decodeOctets_cons {c : Char} (h : c ≠ '%') (rest : List Char) :
    decodeOctets (c :: rest) = Utf8.encode c ++ decodeOctets rest := by
  rw [decodeOctets]
  intro a b rest' hc
  exact absurd hc h

theorem decodeOctets_octet (b : UInt8) (rest : List Char) :
    decodeOctets (octet b ++ rest) = b :: decodeOctets rest := by
  have hhigh : b.toNat / 16 < 16 := Nat.div_lt_of_lt_mul b.toNat_lt
  have hlow : b.toNat % 16 < 16 := Nat.mod_lt _ (by decide)
  have hfirst := hexValue?_hexUpper ⟨_, hhigh⟩
  have hsecond := hexValue?_hexUpper ⟨_, hlow⟩
  have hvalue : 16 * (b.toNat / 16) + b.toNat % 16 = b.toNat := by omega
  simp only [octet, List.cons_append, List.nil_append]
  rw [decodeOctets]
  simp only [hfirst, hsecond, hvalue, UInt8.ofNat_toNat]

theorem decodeOctets_octets (octets : List UInt8) (rest : List Char) :
    decodeOctets (octets.flatMap octet ++ rest) = octets ++ decodeOctets rest := by
  induction octets with
  | nil => rfl
  | cons b octets ih =>
    rw [List.flatMap_cons, List.append_assoc, decodeOctets_octet, ih]
    rfl

theorem decodeOctets_encodeSegment (s : List Char) :
    decodeOctets (encodeSegment s) = s.flatMap Utf8.encode := by
  induction s with
  | nil =>
    rw [encodeSegment, encode, List.flatMap_nil, decodeOctets]
    rfl
  | cons c rest ih =>
    simp only [encodeSegment, encode, List.flatMap_cons] at ih ⊢
    split
    · rw [encodeChar, decodeOctets_octets, ih]
    · rename_i hc
      have hc : isUnreserved c = true := by simpa using hc
      rw [List.singleton_append, decodeOctets_cons (ne_percent_of_isUnreserved hc), ih]

theorem encodeSegment_injective {s t : List Char} (h : encodeSegment s = encodeSegment t) : s = t := by
  have hoctets := congrArg decodeOctets h
  rw [decodeOctets_encodeSegment, decodeOctets_encodeSegment] at hoctets
  exact Utf8.flatMap_encode_injective hoctets

end Percent

namespace Url

/-- What encoded segments are written in has no meaning in the path of a URL. -/
theorem plain_of_isWritten {c : Char} (h : Percent.isWritten c = true) :
    inPathSet c = false ∧ isSlash true c = false ∧ isEdge c = false ∧ isPathEnd c = false := by
  have hall : ∀ n : Fin 128, Percent.isWritten (Char.ofNat n) = true →
      inPathSet (Char.ofNat n) = false ∧ isSlash true (Char.ofNat n) = false ∧
        isEdge (Char.ofNat n) = false ∧ isPathEnd (Char.ofNat n) = false := by decide
  have hc := hall ⟨c.toNat, Percent.lt_of_isWritten h⟩
  rw [Char.ofNat_toNat] at hc
  exact hc h

/-! ## Dot segments -/

theorem dots_eq_nil {s : List Char} (h : dots s = []) : s = [] := by
  unfold dots at h
  split at h
  · split at h <;> cases h
  · cases h
  · rfl

theorem dots_eq_cons {s more : List Char} (h : dots s = '.' :: more) :
    ∃ rest, dots rest = more ∧
      Percent.decodeOctets s = Utf8.encode '.' ++ Percent.decodeOctets rest := by
  unfold dots at h
  split at h
  · rename_i e rest
    split at h
    · rename_i he
      refine ⟨rest, (List.cons.inj h).2, ?_⟩
      have hvalue : Text.hexValue? e = some 14 := by
        rcases (by simpa using he : e = 'e' ∨ e = 'E') with rfl | rfl <;> rfl
      have htwo : Text.hexValue? '2' = some 2 := rfl
      rw [Percent.decodeOctets]
      simp only [hvalue, htwo]
      rfl
    · cases h
  · rename_i c rest _
    obtain ⟨rfl, hrest⟩ := List.cons.inj h
    exact ⟨rest, hrest, Percent.decodeOctets_cons (by decide) rest⟩
  · cases h

theorem decodeOctets_of_isDot {s : List Char} (h : isDot s = true) :
    Percent.decodeOctets s = ['.'].flatMap Utf8.encode := by
  obtain ⟨rest, hrest, hdecoded⟩ := dots_eq_cons (beq_iff_eq.mp h)
  rw [hdecoded, dots_eq_nil hrest, Percent.decodeOctets]
  rfl

theorem decodeOctets_of_isDoubleDot {s : List Char} (h : isDoubleDot s = true) :
    Percent.decodeOctets s = ['.', '.'].flatMap Utf8.encode := by
  obtain ⟨rest, hrest, hdecoded⟩ := dots_eq_cons (beq_iff_eq.mp h)
  obtain ⟨rest', hrest', hdecoded'⟩ := dots_eq_cons hrest
  rw [hdecoded, hdecoded', dots_eq_nil hrest', Percent.decodeOctets]
  rfl

theorem isDot_encodeSegment {s : List Char} : isDot (Percent.encodeSegment s) = true ↔ s = ['.'] := by
  constructor
  · intro h
    have hdecoded := decodeOctets_of_isDot h
    rw [Percent.decodeOctets_encodeSegment] at hdecoded
    exact Utf8.flatMap_encode_injective hdecoded
  · intro h
    subst h
    decide

theorem isDoubleDot_encodeSegment {s : List Char} :
    isDoubleDot (Percent.encodeSegment s) = true ↔ s = ['.', '.'] := by
  constructor
  · intro h
    have hdecoded := decodeOctets_of_isDoubleDot h
    rw [Percent.decodeOctets_encodeSegment] at hdecoded
    exact Utf8.flatMap_encode_injective hdecoded
  · intro h
    subst h
    decide

end Url
end CloudClient
