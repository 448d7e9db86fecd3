import CloudClient.Proofs.Yaml.Line
import CloudClient.Yaml

/-!
# Entries of a mapping

What is written line by line reads as a mapping of the names to the texts, each text in the style of
its line, and nothing else: no node has a name or a tag.
-/

namespace CloudClient.Yaml
variable {fuel : Nat} {inBlock afterKey : Bool} {names : Names} {rest : List Token}

def Line.entry (l : Line) : Yaml × Yaml :=
  (.scalar .plain none l.name, .scalar l.style none l.text)

theorem readNode?_scalar (style : Style) (text : List Char) :
    readNode? (fuel + 2) inBlock afterKey names (.scalar style text :: rest) =
      some (.scalar style none text, names, rest) := rfl

theorem readOptional?_scalar (style : Style) (text : List Char) :
    readOptional? (fuel + 3) inBlock afterKey [.key, .value, .blockEnd] names
      (.scalar style text :: rest) = some (.scalar style none text, names, rest) := by
  rw [readOptional?, readNode?_scalar]
  simp [startsWith]

theorem readEntries?_lines (fuel : Nat) (names : Names) (rest : List Token) (lines : List Line) :
    readEntries? (fuel + lines.length + 4) names (lines.flatMap Line.tokens ++ .blockEnd :: rest) =
      some (lines.map Line.entry, names, rest) := by
  induction lines with
  | nil => rw [List.flatMap_nil, List.nil_append, readEntries?]; rfl
  | cons l lines ih =>
    have hfuel : fuel + (l :: lines).length + 4 = fuel + lines.length + 4 + 1 := by
      rw [List.length_cons]
      omega
    have htokens : (l :: lines).flatMap Line.tokens ++ .blockEnd :: rest =
        .key :: .scalar .plain l.name :: .value :: .scalar l.style l.text ::
          (lines.flatMap Line.tokens ++ .blockEnd :: rest) := rfl
    rw [hfuel, htokens, readEntries?]
    simp only [readOptional?_scalar, Option.bind_eq_bind, Option.bind_some, ih]
    rfl

theorem readNode?_mapping (afterKey : Bool) {tokens rest : List Token}
    {entries : List (Yaml × Yaml)} {names' : Names}
    (h : readEntries? fuel names tokens = some (entries, names', rest)) :
    readNode? (fuel + 2) true afterKey names (.blockMapping :: tokens) =
      some (.mapping entries, names', rest) := by
  have hcontent : readContent? (fuel + 1) true afterKey false none names (.blockMapping :: tokens) =
      some (.mapping entries, names', rest) := by
    change (readEntries? fuel names tokens).map _ = _
    rw [h]
    rfl
  change (readContent? (fuel + 1) true afterKey false none names (.blockMapping :: tokens) >>= _) =
    _
  rw [hcontent]
  rfl

theorem length_tokens (lines : List Line) :
    (lines.flatMap Line.tokens).length = 4 * lines.length := by
  induction lines with
  | nil => rfl
  | cons l lines ih =>
    rw [List.flatMap_cons, List.length_append, ih, List.length_cons, Line.tokens]
    simp only [List.length_cons, List.length_nil]
    omega

theorem ofTokens?_lines (lines : List Line) :
    ofTokens? (.blockMapping :: (lines.flatMap Line.tokens ++ [.blockEnd])) =
      some ⟨.mapping (lines.map Line.entry), []⟩ := by
  obtain ⟨fuel, hfuel⟩ : ∃ fuel,
      4 * (Token.blockMapping :: (lines.flatMap Line.tokens ++ [.blockEnd])).length + 8 =
        fuel + lines.length + 4 + 2 := by
    rw [List.length_cons, List.length_append, length_tokens]
    exact ⟨15 * lines.length + 10, by simp only [List.length_cons, List.length_nil]; omega⟩
  have hnode :=
    readNode?_mapping false (readEntries?_lines fuel { handles := standardHandles } [] lines)
  rw [ofTokens?, hfuel]
  simp only [readDocument?, readRoot?, hnode]
  rfl

theorem Line.Fits.mem_chars {l : Line} {c : Char} (h : l.Fits) (hc : c ∈ l.chars) :
    Text.isPrintable c = true ∨ c = '\n' := by
  simp only [Line.chars, List.mem_append, List.mem_cons, List.not_mem_nil, or_false] at hc
  rcases hc with hc | rfl | rfl | hc | rfl
  · have hmark := h.name.marks c hc
    simp only [isNameMark, Bool.and_eq_true] at hmark
    exact .inl hmark.1.1.1
  · exact .inl rfl
  · exact .inl rfl
  · exact .inl (h.form.printable c hc)
  · exact .inr rfl

theorem isBanned_eq_false {c : Char} (h : Text.isPrintable c = true ∨ c = '\n') :
    isBanned c = false := by
  rcases h with h | rfl
  · simp only [Text.isPrintable, Bool.and_eq_true, decide_eq_true_eq] at h
    have hbound : ¬ c.toNat < 0x20 ∧ c.toNat ≠ 0x7F ∧ ¬ 0x80 ≤ c.toNat ∧ c.toNat ≠ 0xFFFE ∧
        c.toNat ≠ 0xFFFF := by omega
    simp [isBanned, hbound]
  · rfl

theorem parse?_lines {l : Line} {lines : List Line} (h : ∀ m ∈ l :: lines, m.Fits) :
    parse? (String.ofList ((l :: lines).flatMap Line.chars)) =
      some ⟨.mapping ((l :: lines).map Line.entry), []⟩ := by
  have hbanned : ((l :: lines).flatMap Line.chars).any isBanned = false := by
    refine List.any_eq_false.mpr fun c hc => ?_
    obtain ⟨m, hm, hc⟩ := List.mem_flatMap.mp hc
    simp [isBanned_eq_false ((h m hm).mem_chars hc)]
  rw [parse?, String.toList_ofList, hbanned, tokens?_lines h]
  exact ofTokens?_lines (l :: lines)

end CloudClient.Yaml
