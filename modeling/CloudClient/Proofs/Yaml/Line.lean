import CloudClient.Proofs.Yaml.Scalar

/-!
# Lines of a mapping

A mapping is written one entry a line: a name, a colon, and a text that ends with the line. Each
line is scanned in three steps, and after them the scan stands at the start of the next line with
four tokens more. The first line opens the block and the end of the text closes it.
-/

namespace CloudClient.Yaml
variable {c : Char} {name rest more : List Char} {index line fuel : Nat} {indents : List Nat}
  {front : List Token}

/-! ## Names and lines -/

def isNameMark (c : Char) : Bool :=
  Text.isPrintable c && !isGap c && !Scan.isIndicator c && c != '.'

structure IsName (name : List Char) : Prop where
  nonempty : name ≠ []
  marks : ∀ c ∈ name, isNameMark c = true
  short : name.length ≤ Scan.maxKey

structure Line where
  name : List Char
  style : Style
  text : List Char
  written : List Char

namespace Line

structure Fits (l : Line) : Prop where
  name : IsName l.name
  form : Form l.text l.style l.written

def chars (l : Line) : List Char := l.name ++ ':' :: ' ' :: (l.written ++ ['\n'])

def tokens (l : Line) : List Token :=
  [.key, .scalar .plain l.name, .value, .scalar l.style l.text]

end Line

/-! ## One step -/

namespace Scan

/-- The text goes on with a character at which no gap, comment or order mark is passed over. -/
def Stays (s : List Char) : Prop := ∀ c, s.head? = some c → isGap c = false ∧ c ≠ '#' ∧ c ≠ '\ufeff'

theorem stays_cons (hgap : isGap c = false) (hmark : c ≠ '#') (horder : c ≠ '\ufeff') :
    Stays (c :: rest) := by
  intro d hd
  cases hd
  exact ⟨hgap, hmark, horder⟩

theorem skip_of_head {source : Source} {test : Char → Bool}
    (h : ∀ c, source.rest.head? = some c → test c = false) : source.skip test = source := by
  have htake : source.rest.takeWhile test = [] := by
    cases hrest : source.rest with
    | nil => rfl
    | cons c rest => simp [h c (by rw [hrest]; rfl)]
  rw [Source.skip, htake]
  exact advance_zero source

theorem isAt_of_head {source : Source} {test : Char → Bool}
    (h : ∀ c, source.rest.head? = some c → test c = false) : source.isAt test = false := by
  cases hrest : source.rest with
  | nil => rw [Source.isAt, hrest]; rfl
  | cons c rest => rw [isAt_cons hrest, h c (by rw [hrest]; rfl)]

theorem ne_of_not_isBlank (h : isBlank c = false) : c ≠ ' ' ∧ c ≠ '\t' := by
  constructor <;> rintro rfl <;> cases h

theorem skipGap_succ {s : Scan} (fuel : Nat) (h : ∀ c, s.source.rest.head? = some c →
    isBlank c = false ∧ c ≠ '#' ∧ c ≠ '\ufeff') : s.skipGap (fuel + 1) =
      if s.source.isAt isBreak then skipGap fuel
        { s with source := s.source.skipBreak, keyAllowed := s.keyAllowed || !s.inFlow }
      else s := by
  have horder : skipOrderMark s.source = s.source := by
    rw [skipOrderMark, isAt_of_head fun c hc => by simpa using (h c hc).2.2, Bool.and_false]
    rfl
  have hskip : ∀ tabs : Bool, s.source.skip (fun c => c = ' ' || (tabs && c = '\t')) = s.source :=
    fun tabs => skip_of_head fun c hc => by simp [ne_of_not_isBlank (h c hc).1]
  have hcomment : s.source.isAt (· = '#') = false :=
    isAt_of_head fun c hc => by simpa using (h c hc).2.1
  rw [skipGap]
  simp only [horder, hskip, hcomment, Bool.false_eq_true, if_false]

theorem Stays.not_break (h : Stays rest) :
    ∀ c, rest.head? = some c → isBlank c = false ∧ isBreak c = false :=
  fun c hc => Bool.or_eq_false_iff.mp (h c hc).1

theorem skipGap_of_stays {s : Scan} (h : Stays s.source.rest) (fuel : Nat) :
    s.skipGap (fuel + 1) = s := by
  rw [skipGap_succ fuel fun c hc => ⟨(h.not_break c hc).1, (h c hc).2⟩,
    isAt_of_head fun c hc => (h.not_break c hc).2]
  rfl

theorem run?_step {s s₁ s₂ : Scan} (hskip : s.skipGap (s.source.rest.length + 1) = s₁)
    (hstale : s₁.dropStale? = some s₁) (hunroll : s₁.unroll s₁.source.column = s₁)
    (hrest : s₁.source.rest = c :: rest) (hnext : s₁.next? c rest = some s₂) :
    run? (fuel + 1) s = run? fuel s₂ := by
  rw [run?, hskip, hstale]
  simp only [Option.bind_eq_bind, Option.bind_some, hunroll, hrest, hnext]

theorem next?_plain {s : Scan} (hmarker : s.source.isAtMarker = false) (hflow : s.inFlow = false)
    (hgap : isGap c = false) (hstart : startsIndicator (c :: rest) = false) :
    s.next? c rest = s.plain? := by
  obtain ⟨hopens, hcloses⟩ := Bool.or_eq_false_iff.mp hmarker
  rw [startsIndicator] at hstart
  split at hstart
  · rename_i hmark
    have hmark : (c = '?' ∨ c = ':') ∨ c = '-' := by simpa using hmark
    have hends : (rest.head?.map isBlank).getD false = false := by
      cases hrest : rest.head? with
      | none => rfl
      | some d =>
        rw [hrest] at hstart
        exact (Bool.or_eq_false_iff.mp hstart).1
    -- these three are marks of their own only before a blank or the end
    rcases hmark with (rfl | rfl) | rfl <;>
      simp [next?, hopens, hcloses, hflow, hstart, startsPlain, hends]
  · have hmarks := hstart
    simp only [isIndicator, List.contains_cons, List.contains_nil, Bool.or_false,
      Bool.or_eq_false_iff, beq_eq_false_iff_ne] at hmarks
    simp [next?, hopens, hcloses, hflow, startsPlain, hgap, hstart, hmarks]

theorem next?_colon {s : Scan} (hmarker : s.source.isAtMarker = false)
    (hend : isGapOrEnd rest.head? = true) : s.next? ':' rest = s.value? := by
  obtain ⟨hopens, hcloses⟩ := Bool.or_eq_false_iff.mp hmarker
  simp [next?, hopens, hcloses, hend]

theorem next?_quote {s : Scan} (hmarker : s.source.isAtMarker = false) :
    s.next? '\'' rest = s.quoted? '\'' .singleQuoted := by
  obtain ⟨hopens, hcloses⟩ := Bool.or_eq_false_iff.mp hmarker
  simp [next?, hopens, hcloses]

/-! ## A line in three steps -/

def lineStart (rest : List Char) (index line : Nat) (tokens : List Token) (indents : List Nat) :
    Scan where
  source := { rest, index, line, column := 0 }
  tokens
  indents
  keyAllowed := true
  candidates := [none]

/-- After a name at the start of a line. Inside of the mapping it has to turn out to be a key. -/
def afterName (name rest : List Char) (index line : Nat) (tokens : List Token)
    (indents : List Nat) : Scan where
  source := { rest, index := index + name.length, line, column := name.length }
  tokens := tokens ++ [.scalar .plain name]
  indents
  keyAllowed := false
  candidates := [some ⟨tokens.length, index, line, 0, !indents.isEmpty⟩]

def afterColon (rest : List Char) (index line column : Nat) (tokens : List Token) : Scan where
  source := { rest, index, line, column }
  tokens
  indents := [0]
  keyAllowed := false
  candidates := [none]

theorem isGap_of_isNameMark (h : isNameMark c = true) : isGap c = false := by
  simp only [isNameMark, Bool.and_eq_true, Bool.not_eq_true'] at h
  exact h.1.1.2

theorem isIndicator_of_isNameMark (h : isNameMark c = true) : isIndicator c = false := by
  simp only [isNameMark, Bool.and_eq_true, Bool.not_eq_true'] at h
  exact h.1.2

theorem plainRun?_name (hmarks : ∀ c ∈ name, isNameMark c = true) (rest : List Char) :
    plainRun? false (name ++ ':' :: ' ' :: rest) = some name := by
  induction name with
  | nil => rfl
  | cons c name ih =>
    obtain ⟨hc, hname⟩ := List.forall_mem_cons.mp hmarks
    have hcolon : c ≠ ':' := by
      rintro rfl
      cases hc
    rw [List.cons_append, plainRun?, isGap_of_isNameMark hc, ih hname]
    simp [hcolon]

theorem isMarker_of_ne {mark : Char} (h : c ≠ mark) : Source.isMarker mark (c :: rest) = false := by
  unfold Source.isMarker
  split
  · rename_i heq
    obtain ⟨rfl, -⟩ := List.cons_eq_cons.mp heq
    simp [h]
  · rfl

theorem isAtMarker_of_name {source : Source} (hname : IsName name)
    (hrest : source.rest = name ++ rest) : source.isAtMarker = false := by
  obtain ⟨c, more, rfl⟩ := List.exists_cons_of_ne_nil hname.nonempty
  have hc := hname.marks c List.mem_cons_self
  have hdash : c ≠ '-' := by
    rintro rfl
    cases hc
  have hdot : c ≠ '.' := by
    rintro rfl
    cases hc
  rw [Source.isAtMarker, Source.isAtDocumentStart, Source.isAtDocumentEnd, hrest, List.cons_append,
    isMarker_of_ne hdash, isMarker_of_ne hdot, Bool.and_false]
  rfl

theorem readPlain?_name {source : Source} {limit : Nat} (hname : IsName name)
    (hrest : source.rest = name ++ ':' :: ' ' :: rest) :
    readPlain? false limit (fuel + 1) {} source =
      some (name, false, source.advance name.length) := by
  obtain ⟨c, more, hc, hmark⟩ : ∃ c more, name = c :: more ∧ c ≠ '#' := by
    obtain ⟨c, more, rfl⟩ := List.exists_cons_of_ne_nil hname.nonempty
    refine ⟨c, more, rfl, ?_⟩
    rintro rfl
    cases hname.marks _ List.mem_cons_self
  have hstart : (source.isAtMarker || source.isAt (· = '#')) = false := by
    rw [isAtMarker_of_name hname hrest, isAt_cons (hrest.trans (by rw [hc]; rfl))]
    simpa using hmark
  have hafter : (source.advance name.length).rest = ':' :: ' ' :: rest := rest_advance name hrest
  rw [readPlain?, hstart, hrest, plainRun?_name hname.marks]
  simp [hname.nonempty, isAt_cons hafter, Gap.text, show isGap ':' = false from rfl]

theorem plain?_of_read {s s' : Scan} {text : List Char} {isBroken : Bool} {source : Source}
    (hsave : s.saveKey? = some s') (hflow : s'.inFlow = false)
    (hread : readPlain? false (s'.indent + 1).toNat (s'.source.rest.length + 1) {} s'.source =
      some (text, isBroken, source)) :
    s.plain? = some ({ s' with source }.withKeyAllowed isBroken |>.emit (.scalar .plain text)) := by
  rw [plain?, hsave]
  simp only [Option.bind_eq_bind, Option.bind_some, hflow, hread]

theorem startsIndicator_of_isNameMark (h : isNameMark c = true) (rest : List Char) :
    startsIndicator (c :: rest) = false := by
  have hindicator := isIndicator_of_isNameMark h
  rw [startsIndicator]
  split
  · rename_i hmark
    rcases (by simpa using hmark : (c = '?' ∨ c = ':') ∨ c = '-') with (rfl | rfl) | rfl <;>
      cases hindicator
  · exact hindicator

theorem run?_name {s : Scan} (hname : IsName name) (hindents : indents = [] ∨ indents = [0])
    (hskip : s.skipGap (s.source.rest.length + 1) =
      lineStart (name ++ ':' :: ' ' :: rest) index line front indents) :
    run? (fuel + 1) s =
      run? fuel (afterName name (':' :: ' ' :: rest) index line front indents) := by
  have hplain : (lineStart (name ++ ':' :: ' ' :: rest) index line front indents).plain? =
      some (afterName name (':' :: ' ' :: rest) index line front indents) := by
    rw [plain?_of_read rfl rfl (readPlain?_name hname rfl)]
    simp only [lineStart]
    rw [advance_append name (':' :: ' ' :: rest) rfl, Nat.zero_add]
    rcases hindents with rfl | rfl <;> rfl
  obtain ⟨c, more, rfl⟩ := List.exists_cons_of_ne_nil hname.nonempty
  have hc := hname.marks c List.mem_cons_self
  refine run?_step hskip rfl ?_ rfl ?_
  · rcases hindents with rfl | rfl <;> simp [unroll, inFlow, lineStart]
  · rw [← hplain]
    exact next?_plain (isAtMarker_of_name hname rfl) rfl (isGap_of_isNameMark hc)
      (startsIndicator_of_isNameMark hc _)

theorem insertIdx_length {α : Type} (front back : List α) (a : α) :
    (front ++ back).insertIdx front.length a = front ++ a :: back := by
  induction front with
  | nil => rfl
  | cons b front ih => rw [List.cons_append, List.length_cons, List.insertIdx_succ_cons, ih]; rfl

def opening (indents : List Nat) : List Token := if indents.isEmpty then [.blockMapping] else []

theorem value?_afterName (hindents : indents = [] ∨ indents = [0]) :
    (afterName name (':' :: ' ' :: rest) index line front indents).value? =
      some (afterColon (' ' :: rest) (index + name.length + 1) line (name.length + 1)
        (front ++ (opening indents ++ [.key, .scalar .plain name, .value]))) := by
  rcases hindents with rfl | rfl <;>
    simp [value?, afterName, roll, inFlow, indent, insertIdx_length, withKeyAllowed, emitMark, emit,
      afterColon, opening, Source.advance]

theorem run?_colon (hname : IsName name) (hindents : indents = [] ∨ indents = [0]) :
    run? (fuel + 1) (afterName name (':' :: ' ' :: rest) index line front indents) =
      run? fuel (afterColon (' ' :: rest) (index + name.length + 1) line (name.length + 1)
        (front ++ (opening indents ++ [.key, .scalar .plain name, .value]))) := by
  have hcolumn : name.length ≠ 0 := mt List.eq_nil_of_length_eq_zero hname.nonempty
  have hfresh : isStale (afterName name (':' :: ' ' :: rest) index line front indents)
      ⟨front.length, index, line, 0, !indents.isEmpty⟩ = false := by
    simp [isStale, afterName, hname.short]
  refine run?_step (skipGap_of_stays (stays_cons rfl (by decide) (by decide)) _) ?_ ?_ rfl ?_
  · simp only [afterName] at hfresh
    simp [dropStale?, afterName, hfresh]
  · rcases hindents with rfl | rfl <;> simp [unroll, inFlow, afterName]
  · rw [← value?_afterName hindents]
    exact next?_colon (isAtMarker_of_column hcolumn) rfl

def Reaches (s : Scan) (rest : List Char) (tokens : List Token) : Prop :=
  ∃ index line, s.skipGap (s.source.rest.length + 1) = lineStart rest index line tokens [0]

theorem skipGap_blank {column : Nat} (h : Stays rest) (fuel : Nat) :
    (afterColon (' ' :: rest) index line column front).skipGap (fuel + 1) =
      afterColon rest (index + 1) line (column + 1) front := by
  have htake : rest.takeWhile (fun c => c = ' ' || c = '\t') = [] := by
    cases rest with
    | nil => rfl
    | cons c rest => simp [ne_of_not_isBlank (h.not_break c rfl).1]
  have hcomment : ({ rest, index := index + 1, line, column := column + 1 } : Source).isAt
      (· = '#') = false := isAt_of_head fun c hc => by simpa using (h c hc).2.1
  have hbreak : ({ rest, index := index + 1, line, column := column + 1 } : Source).isAt
      isBreak = false := isAt_of_head fun c hc => (h.not_break c hc).2
  have horder : skipOrderMark { rest := ' ' :: rest, index, line, column } =
      { rest := ' ' :: rest, index, line, column } := by
    simp [skipOrderMark, Source.isAt]
  rw [skipGap]
  simp [afterColon, horder, Source.skip, htake, Source.advance, hcomment, hbreak]

theorem skipGap_break {s : Scan} (hflow : s.inFlow = false) (hrest : s.source.rest = '\n' :: rest)
    (h : Stays rest) (fuel : Nat) : s.skipGap (fuel + 2) =
      { s with source := s.source.skipBreak, keyAllowed := true } := by
  have hnext : s.source.skipBreak.rest = rest := by simp [Source.skipBreak, hrest]
  have hfirst : ∀ c, s.source.rest.head? = some c → isBlank c = false ∧ c ≠ '#' ∧ c ≠ '\ufeff' := by
    rw [hrest]
    intro c hc
    cases hc
    decide
  rw [skipGap_succ _ hfirst, isAt_cons hrest, hflow, Bool.not_false, Bool.or_true]
  exact skipGap_of_stays (s := { s with source := s.source.skipBreak, keyAllowed := true })
    (by rwa [hnext]) fuel

theorem stays_written {text written : List Char} {style : Style} (hform : Form text style written) :
    Stays (written ++ rest) := by
  obtain ⟨c, more, rfl, hgap, hmark⟩ := hform.exists_cons
  refine stays_cons hgap hmark ?_
  rintro rfl
  exact absurd (hform.printable _ List.mem_cons_self) (by decide)

theorem Stays.startsWord (h : Stays rest) : StartsWord rest := fun c hc => (h c hc).1

theorem startsIndicator_line (h : startsIndicator (c :: more) = false) (rest : List Char) :
    startsIndicator (c :: (more ++ '\n' :: rest)) = false := by
  rw [startsIndicator] at h ⊢
  split
  · rename_i hmark
    rw [if_pos hmark] at h
    cases more with
    | nil => cases h
    | cons d more => exact h
  · rename_i hmark
    rwa [if_neg hmark] at h

section Written
variable (index line : Nat) (front : List Token) {text : List Char} {column : Nat}

theorem next?_words (hwords : Words text) (hstart : startsIndicator text = false)
    (hnext : Stays rest) (hcolumn : column ≠ 0) (hrest : text ++ '\n' :: rest = c :: more) :
    ∃ s, (afterColon (c :: more) index line column front).next? c more = some s ∧
      Reaches s rest (front ++ [.scalar .plain text]) := by
  obtain ⟨d, tail, rfl, hgap, -⟩ := hwords.exists_cons
  obtain ⟨rfl, hmore⟩ := List.cons_eq_cons.mp hrest
  have hplain : startsIndicator (d :: more) = false := hmore ▸ startsIndicator_line hstart rest
  obtain ⟨after, hread, hafter, hzero⟩ : ∃ after, readPlain? false 1 ((d :: more).length + 1) {}
      { rest := d :: more, index, line, column } = some (d :: tail, true, after) ∧
      after.rest = rest ∧ after.column = 0 :=
    readPlain?_line {} Nat.one_pos hnext.startsWord hwords hrest.symm (Nat.pos_of_ne_zero hcolumn)
      (by rw [← hrest, List.length_append]; omega)
  refine ⟨_, (next?_plain (isAtMarker_of_column hcolumn) rfl hgap hplain).trans
    (plain?_of_read rfl rfl hread), ?_⟩
  refine ⟨after.index, after.line, (skipGap_of_stays (hafter ▸ hnext) _).trans ?_⟩
  obtain ⟨_, _, _, _⟩ := after
  cases hafter
  cases hzero
  rfl

theorem next?_quoted (hs : Printable text) (hnext : Stays rest) (hcolumn : column ≠ 0)
    (hmore : singleQuotedRest false text ++ '\n' :: rest = more) :
    ∃ s, (afterColon ('\'' :: more) index line column front).next? '\'' more = some s ∧
      Reaches s rest (front ++ [.scalar .singleQuoted text]) := by
  have hlength : text.length < more.length + 1 := by
    have hquoted := length_le_singleQuotedRest hs
    rw [← hmore, List.length_append]
    omega
  obtain ⟨after, hread, hafter⟩ : ∃ after, readQuoted? '\'' (more.length + 1)
      { rest := more, index := index + 1, line, column := column + 1 } = some (text, after) ∧
      after.rest = '\n' :: rest :=
    readQuoted?_singleQuoted hs (by simp) hmore.symm (Nat.succ_ne_zero _) hlength
  have hquoted : (afterColon ('\'' :: more) index line column front).quoted? '\'' .singleQuoted =
      some ({ afterColon ('\'' :: more) index line column front with source := after }.emit
        (.scalar .singleQuoted text)) := by
    simp [quoted?, saveKey?, afterColon, Source.advance, hread, withKeyAllowed]
  refine ⟨_, (next?_quote (isAtMarker_of_column hcolumn)).trans hquoted, ?_⟩
  -- the break after the quote is passed over before the next token is looked for
  have hfuel : after.rest.length + 1 = rest.length + 2 := by rw [hafter]; rfl
  refine ⟨after.index + 1, after.line + 1, ?_⟩
  simp only [emit]
  rw [hfuel, skipGap_break rfl hafter hnext]
  simp [Source.skipBreak, hafter, lineStart, afterColon]

theorem next?_written {written : List Char} {style : Style} (hform : Form text style written)
    (hnext : Stays rest) (hcolumn : column ≠ 0) (hrest : written ++ '\n' :: rest = c :: more) :
    ∃ s, (afterColon (c :: more) index line column front).next? c more = some s ∧
      Reaches s rest (front ++ [.scalar style text]) := by
  cases hform with
  | plain hwords hstart => exact next?_words index line front hwords hstart hnext hcolumn hrest
  | quoted hs =>
    obtain ⟨rfl, hmore⟩ : '\'' = c ∧ singleQuotedRest false text ++ '\n' :: rest = more :=
      List.cons_eq_cons.mp hrest
    exact next?_quoted index line front hs hnext hcolumn hmore

end Written

theorem run?_value (fuel index line column : Nat) (front : List Token) {text written : List Char}
    {style : Style} (hform : Form text style written) (hnext : Stays rest) :
    ∃ s, run? (fuel + 1) (afterColon (' ' :: (written ++ '\n' :: rest)) index line column front) =
        run? fuel s ∧ Reaches s rest (front ++ [.scalar style text]) := by
  obtain ⟨c, more, hfirst, -⟩ := hform.exists_cons
  have hrest : written ++ '\n' :: rest = c :: (more ++ '\n' :: rest) := by rw [hfirst]; rfl
  obtain ⟨s, hs, hreaches⟩ :=
    next?_written (index + 1) line front hform hnext (Nat.succ_ne_zero column) hrest
  refine ⟨s, run?_step (skipGap_blank (stays_written hform) _) rfl ?_ hrest ?_, hreaches⟩
  · simp [unroll, inFlow, afterColon]
  · rw [hrest]
    exact hs

/-! ## Whole lines -/

theorem run?_line (fuel : Nat) {s : Scan} {l : Line} (hl : l.Fits)
    (hindents : indents = [] ∨ indents = [0])
    (hskip : s.skipGap (s.source.rest.length + 1) =
      lineStart (l.chars ++ rest) index line front indents) (hnext : Stays rest) :
    ∃ s', run? (fuel + 3) s = run? fuel s' ∧
      Reaches s' rest (front ++ (opening indents ++ l.tokens)) := by
  have hchars : l.chars ++ rest = l.name ++ ':' :: ' ' :: (l.written ++ '\n' :: rest) := by
    simp [Line.chars]
  rw [hchars] at hskip
  obtain ⟨s', hrun, hreaches⟩ := run?_value fuel (index + l.name.length + 1) line
    (l.name.length + 1) (front ++ (opening indents ++ [.key, .scalar .plain l.name, .value]))
    hl.form hnext
  refine ⟨s', ?_, ?_⟩
  · rw [run?_name hl.name hindents hskip, run?_colon hl.name hindents, hrun]
  · rwa [List.append_assoc, List.append_assoc] at hreaches

theorem stays_lines {lines : List Line} (h : ∀ l ∈ lines, l.Fits) :
    Stays (lines.flatMap Line.chars) := by
  cases lines with
  | nil => exact fun c hc => by cases hc
  | cons l lines =>
    obtain ⟨c, more, hname⟩ := List.exists_cons_of_ne_nil (h l List.mem_cons_self).name.nonempty
    have hc := (h l List.mem_cons_self).name.marks c (hname ▸ List.mem_cons_self)
    rw [List.flatMap_cons, Line.chars, hname]
    refine stays_cons (isGap_of_isNameMark hc) ?_ ?_ <;> rintro rfl <;> exact absurd hc (by decide)

theorem run?_lines {lines : List Line} {s : Scan} (h : ∀ l ∈ lines, l.Fits)
    (hs : Reaches s (lines.flatMap Line.chars) front) :
    run? (fuel + 3 * lines.length + 1) s =
      some (front ++ (lines.flatMap Line.tokens ++ [.blockEnd])) := by
  induction lines generalizing s front fuel with
  | nil =>
    obtain ⟨index, line, hskip⟩ := hs
    have hstale : (lineStart [] index line front [0]).dropStale? =
        some (lineStart [] index line front [0]) := rfl
    have hunroll : (lineStart [] index line front [0]).unroll 0 =
        lineStart [] index line front [0] := by
      simp [unroll, inFlow, lineStart]
    rw [run?, hskip]
    simp only [Option.bind_eq_bind, List.flatMap_nil, hstale, Option.bind_some]
    exact congrArg (fun s : Scan => s.finish?) hunroll
  | cons l lines ih =>
    obtain ⟨hl, hlines⟩ := List.forall_mem_cons.mp h
    obtain ⟨index, line, hskip⟩ := hs
    -- each line takes three steps
    obtain ⟨s', hrun, hreaches⟩ := run?_line (fuel + 3 * lines.length + 1) hl (.inr rfl)
      hskip (stays_lines hlines)
    have hfuel : fuel + 3 * (l :: lines).length + 1 = fuel + 3 * lines.length + 1 + 3 := by
      rw [List.length_cons]
      omega
    rw [hfuel, hrun, ih hlines hreaches]
    simp [opening]

end Scan

theorem length_lines (lines : List Line) :
    3 * lines.length ≤ (lines.flatMap Line.chars).length := by
  induction lines with
  | nil => exact Nat.zero_le _
  | cons l lines ih =>
    simp only [List.flatMap_cons, List.length_append, List.length_cons, Line.chars, List.length_nil]
    omega

theorem tokens?_lines {l : Line} {lines : List Line} (h : ∀ m ∈ l :: lines, m.Fits) :
    tokens? ((l :: lines).flatMap Line.chars) =
      some (.blockMapping :: ((l :: lines).flatMap Line.tokens ++ [.blockEnd])) := by
  obtain ⟨hl, hlines⟩ := List.forall_mem_cons.mp h
  obtain ⟨fuel, hfuel⟩ : ∃ fuel, ((l :: lines).flatMap Line.chars).length + 2 =
      fuel + 3 * lines.length + 1 + 3 := by
    have hlength := length_lines (l :: lines)
    rw [List.length_cons] at hlength
    exact ⟨((l :: lines).flatMap Line.chars).length - 3 * lines.length - 2, by omega⟩
  have hstart : ({ source := { rest := (l :: lines).flatMap Line.chars } } : Scan).skipGap
      (((l :: lines).flatMap Line.chars).length + 1) =
        Scan.lineStart (l.chars ++ lines.flatMap Line.chars) 0 0 [] [] :=
    Scan.skipGap_of_stays (Scan.stays_lines h) _
  obtain ⟨s, hrun, hreaches⟩ := Scan.run?_line (fuel + 3 * lines.length + 1) hl (.inl rfl)
    hstart (Scan.stays_lines hlines)
  rw [tokens?, hfuel, hrun, Scan.run?_lines hlines hreaches]
  simp [Scan.opening]

end CloudClient.Yaml
