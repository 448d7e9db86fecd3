import CloudClient.Yaml.Writer
import Mathlib.Data.List.TakeWhile

/-!
# Written texts read back

A printable text is written as it is, where that means the text and nothing else, and in single
quotes otherwise. Either way the reader gets it back from a line that it ends: word by word, with
the blanks between them, for the marks that would end a plain text or begin a comment stand in
quotes.
-/

namespace CloudClient.Yaml
variable {c : Char} {s text rest blanks : List Char} {source : Source}

/-! ## Printable characters -/

def Printable (s : List Char) : Prop := ∀ c ∈ s, Text.isPrintable c = true

theorem isBreak_of_isPrintable (h : Text.isPrintable c = true) : isBreak c = false := by
  have hn : ∀ d : Char, d.toNat < 0x20 → c ≠ d := by
    rintro d hd rfl
    simp only [Text.isPrintable, Bool.and_eq_true, decide_eq_true_eq] at h
    omega
  simp only [Text.isPrintable, Bool.and_eq_true, decide_eq_true_eq] at h
  simp only [isBreak, hn '\n' (by decide), hn '\r' (by decide), decide_false, Bool.false_or,
    Bool.or_eq_false_iff, beq_eq_false_iff_ne]
  omega

theorem isGap_of_isPrintable (h : Text.isPrintable c = true) : isGap c = decide (c = ' ') := by
  have htab : c ≠ '\t' := by
    rintro rfl
    exact absurd h (by decide)
  simp [isGap, isBlank, isBreak_of_isPrintable h, htab]

theorem isWritable_of_isPrintable (h : Text.isPrintable c = true) : isWritable c = true := by
  simp only [Text.isPrintable, Bool.and_eq_true, decide_eq_true_eq] at h
  simp [isWritable, h]

/-! ## Places -/

theorem advance_append (s rest : List Char) (h : source.rest = s ++ rest) :
    source.advance s.length =
      { source with rest, index := source.index + s.length, column := source.column + s.length } := by
  rw [Source.advance, h, List.drop_left]

theorem rest_advance (s : List Char) (h : source.rest = s ++ rest) :
    (source.advance s.length).rest = rest := by
  rw [advance_append _ _ h]

theorem column_advance_ne {n : Nat} (hn : 0 < n) : (source.advance n).column ≠ 0 :=
  Nat.ne_of_gt (Nat.lt_of_lt_of_le hn (Nat.le_add_left _ _))

@[simp] theorem advance_zero (source : Source) : source.advance 0 = source := by
  simp [Source.advance]

theorem advance_advance (source : Source) (m n : Nat) :
    (source.advance m).advance n = source.advance (m + n) := by
  simp [Source.advance, Nat.add_assoc]

theorem isAt_cons (h : source.rest = c :: rest) (test : Char → Bool) :
    source.isAt test = test c := by
  rw [Source.isAt, h]
  rfl

/-! ## Gaps -/

theorem readGap?_blanks {fuel limit : Nat} {g : Gap} (hblanks : ∀ b ∈ blanks, b = ' ')
    (hc : isGap c = false) (hrest : source.rest = blanks ++ c :: rest) (hg : g.isBroken = false)
    (hfuel : blanks.length < fuel) : source.readGap? fuel limit g =
      some ({ g with blanks := g.blanks ++ blanks }, source.advance blanks.length) := by
  induction blanks generalizing fuel g source with
  | nil =>
    obtain ⟨fuel, rfl⟩ := Nat.exists_eq_succ_of_ne_zero (Nat.ne_of_gt hfuel)
    obtain ⟨hblank, hbreak⟩ := Bool.or_eq_false_iff.mp hc
    rw [List.nil_append] at hrest
    simp [Source.readGap?, hrest, hblank, hbreak]
  | cons b more ih =>
    obtain ⟨rfl, hmore⟩ := List.forall_mem_cons.mp hblanks
    obtain ⟨fuel, rfl⟩ := Nat.exists_eq_succ_of_ne_zero (Nat.ne_of_gt (Nat.zero_lt_of_lt hfuel))
    have hnext : (source.advance 1).rest = more ++ c :: rest := by simp [Source.advance, hrest]
    have hrest' := ih (g := { g with blanks := g.blanks ++ [' '] }) hmore hnext hg
      (Nat.lt_of_succ_lt_succ hfuel)
    rw [Source.readGap?, hrest]
    simp only [List.cons_append, show isBreak ' ' = false from rfl,
      show isBlank ' ' = true from rfl, hg, Bool.not_true, Bool.not_false, Bool.false_eq_true,
      if_false, if_true]
    rw [hrest', advance_advance, List.append_assoc, Nat.add_comm]
    rfl

theorem gap?_blanks (limit : Nat) (hblanks : ∀ b ∈ blanks, b = ' ') (hc : isGap c = false)
    (hrest : source.rest = blanks ++ c :: rest) :
    source.gap? limit = some ({ blanks }, source.advance blanks.length) :=
  readGap?_blanks hblanks hc hrest rfl (by rw [hrest, List.length_append]; omega)

theorem exists_blanks (s : List Char) : ∃ blanks more, s = blanks ++ more ∧
    (∀ b ∈ blanks, b = ' ') ∧ more.head? ≠ some ' ' := by
  refine ⟨s.takeWhile (· = ' '), s.dropWhile (· = ' '), List.takeWhile_append_dropWhile.symm,
    fun b hb => by simpa using List.mem_takeWhile_imp hb, fun hfirst => ?_⟩
  have hnot := List.head?_dropWhile_not (· = ' ') s
  rw [hfirst] at hnot
  simp at hnot

/-- The text begins with a character that is neither a blank nor a break, unless it is empty. -/
def StartsWord (s : List Char) : Prop := ∀ c, s.head? = some c → isGap c = false

theorem gap?_break {limit : Nat} (hrest : source.rest = '\n' :: rest) (hnext : StartsWord rest) :
    source.gap? limit = some ({ breaks := ['\n'] }, source.skipBreak) := by
  have hskip : source.skipBreak.rest = rest := by simp [Source.skipBreak, hrest]
  rw [Source.gap?, Source.readGap?, hrest]
  simp only [show isBreak '\n' = true from rfl, if_true, List.length_cons]
  cases rest with
  | nil => simp [Source.readGap?, hskip, Source.breakChar]
  | cons c rest =>
    obtain ⟨hblank, hbreak⟩ := Bool.or_eq_false_iff.mp (hnext c rfl)
    simp [Source.readGap?, hskip, Source.breakChar, hblank, hbreak]

/-! ## Plain texts -/

/-- Words with blanks between them and no mark that would end the text or begin a comment. -/
structure Words (s : List Char) : Prop where
  printable : Printable s
  nonempty : s ≠ []
  first : s.head? ≠ some ' '
  last : s.getLast? ≠ some ' '
  unmarked : hasInnerIndicator true s = false

theorem plainRun?_line {after : Bool} (hs : Printable s) (h : hasInnerIndicator after s = false)
    (rest : List Char) :
    plainRun? false (s ++ '\n' :: rest) = some (s.takeWhile (· ≠ ' ')) := by
  induction s generalizing after with
  | nil => rfl
  | cons c s ih =>
    obtain ⟨hc, hs⟩ := List.forall_mem_cons.mp hs
    simp only [hasInnerIndicator, Bool.or_eq_false_iff] at h
    obtain ⟨⟨hcolon, -⟩, hmarks⟩ := h
    have hgap := isGap_of_isPrintable hc
    by_cases hblank : c = ' '
    · simp [plainRun?, hblank, isGap, isBlank]
    · have hend : (c = ':' && isGapOrEnd (s ++ '\n' :: rest).head?) = false := by
        cases s with
        | nil =>
          have hne : c ≠ ':' := by simpa [isGapOrEnd] using hcolon
          simp [hne]
        | cons d s => exact hcolon
      have hgap' : isGap c = false := by rw [hgap, decide_eq_false hblank]
      rw [List.cons_append, plainRun?, hgap', ih hs hmarks, hend]
      simp [hblank]

theorem hasInnerIndicator_after_blank {after : Bool}
    (h : hasInnerIndicator after (s ++ ' ' :: text) = false) :
    hasInnerIndicator true text = false := by
  induction s generalizing after with
  | nil =>
    simp only [List.nil_append, hasInnerIndicator, Bool.or_eq_false_iff] at h
    exact h.2
  | cons c s ih =>
    simp only [List.cons_append, hasInnerIndicator, Bool.or_eq_false_iff] at h
    exact ih h.2

theorem hasInnerIndicator_after_blanks (hblanks : ∀ b ∈ blanks, b = ' ')
    (h : hasInnerIndicator true (blanks ++ text) = false) :
    hasInnerIndicator true text = false := by
  induction blanks with
  | nil => exact h
  | cons b blanks ih =>
    obtain ⟨rfl, hrest⟩ := List.forall_mem_cons.mp hblanks
    exact ih hrest (hasInnerIndicator_after_blank (s := []) h)

theorem Words.after_blanks {word : List Char} (h : Words (word ++ ' ' :: blanks ++ text))
    (hblanks : ∀ b ∈ blanks, b = ' ') (hfirst : text.head? ≠ some ' ') : Words text where
  printable c hc := h.printable c (List.mem_append_right _ hc)
  nonempty := by
    rintro rfl
    have hall : ∀ b ∈ ' ' :: blanks, b = ' ' := List.forall_mem_cons.mpr ⟨rfl, hblanks⟩
    have hlast : (' ' :: blanks).getLast? = some ' ' := by
      rw [List.getLast?_eq_some_getLast (List.cons_ne_nil _ _), hall _ (List.getLast_mem _)]
    exact h.last (by rw [List.append_nil, List.getLast?_append, hlast]; rfl)
  first := hfirst
  last hlast := h.last (by rw [List.getLast?_append, hlast]; rfl)
  unmarked := by
    have hmarks := h.unmarked
    rw [List.append_assoc, List.cons_append] at hmarks
    exact hasInnerIndicator_after_blanks hblanks (hasInnerIndicator_after_blank hmarks)

theorem Words.split (h : Words s) :
    (∀ c ∈ s, c ≠ ' ') ∨ ∃ word blanks more, s = word ++ ' ' :: blanks ++ more ∧
      s.takeWhile (· ≠ ' ') = word ∧ word ≠ [] ∧ (∀ b ∈ blanks, b = ' ') ∧ Words more := by
  have hword : s.takeWhile (· ≠ ' ') ≠ [] := by
    obtain ⟨c, rest, rfl⟩ := List.exists_cons_of_ne_nil h.nonempty
    have hc : c ≠ ' ' := fun hc => h.first (by rw [hc]; rfl)
    simp [hc]
  cases htail : s.dropWhile (· ≠ ' ') with
  | nil => exact .inl fun c hc => by simpa using List.dropWhile_eq_nil_iff.mp htail c hc
  | cons b tail =>
    have hb : b = ' ' := by
      have hfirst := List.head?_dropWhile_not (· ≠ ' ') s
      rw [htail] at hfirst
      simpa using hfirst
    subst hb
    obtain ⟨blanks, more, rfl, hblanks, hfirst⟩ := exists_blanks tail
    have hsplit : s = s.takeWhile (· ≠ ' ') ++ ' ' :: blanks ++ more := by
      rw [List.append_assoc, List.cons_append, ← htail, List.takeWhile_append_dropWhile]
    exact .inr ⟨_, blanks, more, hsplit, rfl, hword, hblanks,
      (hsplit ▸ h).after_blanks hblanks hfirst⟩

theorem isAtMarker_of_column (h : source.column ≠ 0) : source.isAtMarker = false := by
  simp [Source.isAtMarker, Source.isAtDocumentStart, Source.isAtDocumentEnd, h]

theorem Words.exists_cons (h : Words s) : ∃ c more, s = c :: more ∧ isGap c = false ∧ c ≠ '#' := by
  obtain ⟨c, more, rfl⟩ := List.exists_cons_of_ne_nil h.nonempty
  have hc : c ≠ ' ' := fun hc => h.first (by rw [hc]; rfl)
  have hmark : c ≠ '#' := by
    rintro rfl
    have hmarks := h.unmarked
    simp [hasInnerIndicator] at hmarks
  exact ⟨c, more, rfl, by simp [isGap_of_isPrintable (h.printable c List.mem_cons_self), hc], hmark⟩

theorem readPlain?_run {limit fuel : Nat} {gap next : Gap} {after : Source} {run : List Char}
    (hstart : (source.isAtMarker || source.isAt (· = '#')) = false)
    (hrun : plainRun? false source.rest = some run) (hne : run ≠ [])
    (hat : (source.advance run.length).isAt isGap = true)
    (hgap : (source.advance run.length).gap? limit = some (next, after)) :
    readPlain? false limit (fuel + 1) gap source =
      if after.column < limit then some (gap.text ++ run, next.isBroken, after)
      else (readPlain? false limit fuel next after).map fun (more, isBroken, s) =>
        (gap.text ++ run ++ more, isBroken, s) := by
  rw [readPlain?, hstart, hrun]
  simp only [Option.bind_eq_bind, Option.bind_some, hne, List.isEmpty_iff, if_false, hgap, hat,
    Bool.not_true, Bool.false_eq_true, Bool.not_false, Bool.true_and, decide_eq_true_eq]
  split
  · rfl
  · cases readPlain? false limit fuel next after <;> rfl

theorem readPlain?_line {limit fuel : Nat} (gap : Gap) (hlimit : 0 < limit)
    (hnext : StartsWord rest) (h : Words s) (hrest : source.rest = s ++ '\n' :: rest)
    (hcolumn : limit ≤ source.column) (hfuel : s.length < fuel) :
    ∃ after, readPlain? false limit fuel gap source = some (gap.text ++ s, true, after) ∧
      after.rest = rest ∧ after.column = 0 := by
  induction fuel generalizing s gap source with
  | zero => cases hfuel
  | succ fuel ih =>
    obtain ⟨c, tail, hs, -, hmark⟩ := h.exists_cons
    have hstart : (source.isAtMarker || source.isAt (· = '#')) = false := by
      rw [isAtMarker_of_column (by omega), isAt_cons (hs ▸ hrest)]
      simpa using hmark
    have hrun := plainRun?_line h.printable h.unmarked rest
    rw [← hrest] at hrun
    rcases h.split with hword | ⟨word, blanks, more, hsplit, hword, hne, hblanks, hmore⟩
    · have hself : s.takeWhile (· ≠ ' ') = s :=
        List.takeWhile_eq_self_iff.mpr fun c hc => by simpa using hword c hc
      rw [hself] at hrun
      have hafter : (source.advance s.length).rest = '\n' :: rest := rest_advance s hrest
      refine ⟨(source.advance s.length).skipBreak, ?_, by simp [Source.skipBreak, hafter], rfl⟩
      rw [readPlain?_run hstart hrun h.nonempty (isAt_cons hafter _) (gap?_break hafter hnext)]
      exact if_pos hlimit
    · rw [hword] at hrun
      obtain ⟨d, tail', hd, hgapless, -⟩ := hmore.exists_cons
      have hafter : (source.advance word.length).rest =
          ' ' :: blanks ++ (more ++ '\n' :: rest) :=
        rest_advance word (by rw [hrest, hsplit, List.append_assoc, List.append_assoc])
      have hgap := gap?_blanks limit (List.forall_mem_cons.mpr ⟨rfl, hblanks⟩) hgapless
        (hafter.trans (by rw [hd]; rfl))
      rw [readPlain?_run hstart hrun hne (isAt_cons hafter _) hgap]
      -- the rest is read from the next word, with these blanks still to be written before it
      generalize hnextSource : (source.advance word.length).advance (' ' :: blanks).length = next
      have hnextRest : next.rest = more ++ '\n' :: rest := by
        rw [← hnextSource]
        exact rest_advance (' ' :: blanks) hafter
      have hnextColumn : limit ≤ next.column := by
        rw [← hnextSource]
        exact Nat.le_add_right_of_le (Nat.le_add_right_of_le hcolumn)
      have hlength : more.length < fuel := by
        rw [hsplit, List.length_append, List.length_append, List.length_cons] at hfuel
        omega
      obtain ⟨last, hread, hlastRest, hlastColumn⟩ :=
        ih { blanks := ' ' :: blanks } hmore hnextRest hnextColumn hlength
      refine ⟨last, ?_, hlastRest, hlastColumn⟩
      rw [if_neg (Nat.not_lt.mpr hnextColumn), hread, hsplit]
      simp [Gap.text]

/-! ## Quoted texts -/

theorem singleQuotedRest_cons (hc : Text.isPrintable c = true) (s : List Char) :
    singleQuotedRest false (c :: s) =
      (if c = '\'' then ['\'', c] else [c]) ++ singleQuotedRest false s := by
  rw [singleQuotedRest, isBreak_of_isPrintable hc]
  rfl

theorem length_le_singleQuotedRest (hs : Printable s) :
    s.length ≤ (singleQuotedRest false s).length := by
  induction s with
  | nil => exact Nat.zero_le _
  | cons c s ih =>
    obtain ⟨hc, hrest⟩ := List.forall_mem_cons.mp hs
    have hmore := ih hrest
    rw [singleQuotedRest_cons hc, List.length_append, List.length_cons]
    split <;> simp only [List.length_cons, List.length_nil] <;> omega

theorem singleQuotedRest_blanks (hblanks : ∀ b ∈ blanks, b = ' ') (s : List Char) :
    singleQuotedRest false (blanks ++ s) = blanks ++ singleQuotedRest false s := by
  induction blanks with
  | nil => rfl
  | cons b blanks ih =>
    obtain ⟨rfl, hrest⟩ := List.forall_mem_cons.mp hblanks
    rw [List.cons_append, singleQuotedRest_cons (by decide), ih hrest]
    rfl

theorem exists_cons_singleQuotedRest (hs : Printable s) (hfirst : s.head? ≠ some ' ') :
    ∃ c more, singleQuotedRest false s = c :: more ∧ isGap c = false := by
  cases s with
  | nil => exact ⟨'\'', [], rfl, rfl⟩
  | cons c s =>
    have hprintable := hs c List.mem_cons_self
    have hc : c ≠ ' ' := fun hc => hfirst (by rw [hc]; rfl)
    rw [singleQuotedRest_cons hprintable]
    split
    · exact ⟨'\'', _, rfl, rfl⟩
    · exact ⟨c, _, rfl, by simp [isGap_of_isPrintable hprintable, hc]⟩

section Steps
variable {more : List Char} {fuel : Nat} {after : Source}

theorem readQuoted?_close (hcolumn : source.column ≠ 0) (hrest : source.rest = '\'' :: rest)
    (hnext : rest.head? ≠ some '\'') :
    readQuoted? '\'' (fuel + 1) source = some ([], source.advance 1) := by
  rw [readQuoted?, isAtMarker_of_column hcolumn, hrest]
  simp [hnext]

theorem readQuoted?_pair (hcolumn : source.column ≠ 0)
    (hrest : source.rest = '\'' :: '\'' :: more)
    (h : readQuoted? '\'' fuel (source.advance 2) = some (s, after)) :
    readQuoted? '\'' (fuel + 1) source = some ('\'' :: s, after) := by
  rw [readQuoted?, isAtMarker_of_column hcolumn, hrest]
  simp [h]

theorem readQuoted?_char (hcolumn : source.column ≠ 0) (hrest : source.rest = c :: more)
    (hquote : c ≠ '\'') (hgap : isGap c = false)
    (h : readQuoted? '\'' fuel (source.advance 1) = some (s, after)) :
    readQuoted? '\'' (fuel + 1) source = some (c :: s, after) := by
  rw [readQuoted?, isAtMarker_of_column hcolumn, hrest]
  simp [h, hquote, hgap]

theorem readQuoted?_blanks (hcolumn : source.column ≠ 0)
    (hrest : source.rest = ' ' :: blanks ++ c :: more) (hblanks : ∀ b ∈ blanks, b = ' ')
    (hgap : isGap c = false)
    (h : readQuoted? '\'' fuel (source.advance (' ' :: blanks).length) = some (s, after)) :
    readQuoted? '\'' (fuel + 1) source = some (' ' :: blanks ++ s, after) := by
  have hread := gap?_blanks 0 (List.forall_mem_cons.mpr ⟨rfl, hblanks⟩) hgap hrest
  rw [readQuoted?, isAtMarker_of_column hcolumn, hrest]
  simp only [List.cons_append, Bool.false_eq_true, if_false, Char.reduceEq,
    show isGap ' ' = true from rfl, if_true, hread, Option.bind_eq_bind, Option.bind_some, h]
  rfl

end Steps

theorem readQuoted?_singleQuoted {fuel : Nat} (hs : Printable s) (hnext : rest.head? ≠ some '\'')
    (hrest : source.rest = singleQuotedRest false s ++ rest) (hcolumn : source.column ≠ 0)
    (hfuel : s.length < fuel) :
    ∃ after, readQuoted? '\'' fuel source = some (s, after) ∧ after.rest = rest := by
  induction fuel generalizing s source with
  | zero => cases hfuel
  | succ fuel ih =>
    cases s with
    | nil =>
      exact ⟨source.advance 1, readQuoted?_close hcolumn hrest hnext, rest_advance ['\''] hrest⟩
    | cons c s =>
      obtain ⟨hc, hs'⟩ := List.forall_mem_cons.mp hs
      have hlength : s.length < fuel := Nat.lt_of_succ_lt_succ hfuel
      -- blanks are read as one gap, so the step may pass over more than one character
      by_cases hblank : c = ' '
      · subst hblank
        obtain ⟨blanks, more, rfl, hblanks, hfirst⟩ := exists_blanks s
        have hmore : Printable more := fun c hc => hs' c (List.mem_append_right _ hc)
        have hread : source.rest = ' ' :: blanks ++ (singleQuotedRest false more ++ rest) := by
          rw [hrest, ← List.cons_append,
            singleQuotedRest_blanks (List.forall_mem_cons.mpr ⟨rfl, hblanks⟩), List.append_assoc]
        obtain ⟨after, hrec, hafter⟩ := ih hmore (rest_advance _ hread)
          (column_advance_ne (Nat.succ_pos _))
          (Nat.lt_of_le_of_lt (List.suffix_append blanks more).length_le hlength)
        obtain ⟨d, tail, hd, hgap⟩ := exists_cons_singleQuotedRest hmore hfirst
        have hfollows : source.rest = ' ' :: blanks ++ d :: (tail ++ rest) := by
          rw [hread, hd]
          rfl
        exact ⟨after, readQuoted?_blanks hcolumn hfollows hblanks hgap hrec, hafter⟩
      · rw [singleQuotedRest_cons hc, List.append_assoc] at hrest
        by_cases hquote : c = '\''
        · rw [if_pos hquote] at hrest
          subst hquote
          obtain ⟨after, hrec, hafter⟩ := ih hs' (rest_advance ['\'', '\''] hrest)
            (column_advance_ne (Nat.succ_pos _)) hlength
          exact ⟨after, readQuoted?_pair hcolumn hrest hrec, hafter⟩
        · rw [if_neg hquote] at hrest
          obtain ⟨after, hrec, hafter⟩ := ih hs' (rest_advance [c] hrest)
            (column_advance_ne (Nat.succ_pos _)) hlength
          have hgap : isGap c = false := by rw [isGap_of_isPrintable hc, decide_eq_false hblank]
          exact ⟨after, readQuoted?_char hcolumn hrest hquote hgap hrec, hafter⟩

/-! ## The choice -/

inductive Form (s : List Char) : Style → List Char → Prop
  | plain (hwords : Words s) (hstart : startsIndicator s = false) : Form s .plain s
  | quoted (h : Printable s) : Form s .singleQuoted (singleQuoted s)

theorem words_of_canBePlain (hs : Printable s) (hne : s ≠ []) (h : canBePlain s = true) :
    Words s ∧ startsIndicator s = false := by
  simp only [canBePlain, Bool.not_eq_true', Bool.or_eq_false_iff] at h
  obtain ⟨⟨⟨⟨-, hframed⟩, -⟩, hstart⟩, hinner⟩ := h
  obtain ⟨hfirst, hlast⟩ := Bool.or_eq_false_iff.mp hframed
  have hspace : isSpaceOrBreak ' ' = true := rfl
  refine ⟨⟨hs, hne, fun hspaced => ?_, fun hspaced => ?_, ?_⟩, hstart⟩
  · rw [hspaced] at hfirst
    cases hfirst
  · rw [hspaced] at hlast
    cases hlast
  · obtain ⟨c, rest, rfl⟩ := List.exists_cons_of_ne_nil hne
    have hc : c ≠ ' ' := by
      rintro rfl
      cases hfirst
    have hgap : isGap c = false := by
      simp [isGap_of_isPrintable (hs c List.mem_cons_self), hc]
    have hcolon : (c = ':' && isGapOrEnd rest.head?) = false := by
      by_cases hcolon : c = ':'
      · simpa [startsIndicator, hcolon] using hstart
      · simp [hcolon]
    have hmark : c ≠ '#' := by
      rintro rfl
      cases hstart
    rw [hasInnerIndicator, hcolon, hgap]
    simpa [hmark] using hinner

theorem hasPair_eq_false {first second : Char → Bool}
    (h : ∀ a ∈ s, ∀ b ∈ s, (first a && second b) = false) : hasPair first second s = false := by
  induction s with
  | nil => rfl
  | cons a s ih =>
    have hrest := ih fun a ha b hb => h a (List.mem_cons_of_mem _ ha) b (List.mem_cons_of_mem _ hb)
    cases s with
    | nil => rfl
    | cons b s =>
      rw [hasPair, h a List.mem_cons_self b (List.mem_cons_of_mem _ List.mem_cons_self), hrest]
      rfl

def writtenStyle (s : List Char) : Style :=
  if !isTyped s && canBePlain s then .plain else .singleQuoted

theorem written_eq (hs : Printable s) :
    written s = if !isTyped s && canBePlain s then s else singleQuoted s := by
  have hbreak : ∀ c ∈ s, isBreak c = false := fun c hc => isBreak_of_isPrintable (hs c hc)
  have hline : s.contains '\n' = false := by
    refine Bool.eq_false_iff.mpr fun hline => ?_
    exact absurd (hs _ (List.contains_iff_mem.mp hline)) (by decide)
  have hwritable : s.all isWritable = true :=
    List.all_eq_true.mpr fun c hc => isWritable_of_isPrintable (hs c hc)
  have hbefore : hasSpaceBeforeBreak s = false :=
    hasPair_eq_false fun a _ b hb => by rw [hbreak b hb, Bool.and_false]
  have hafter : hasSpaceAfterBreak s = false :=
    hasPair_eq_false fun a ha b _ => by rw [hbreak a ha, Bool.false_and]
  rw [written, hline, canBeSingleQuoted, hwritable, hbefore, hafter]
  rfl

theorem form_written (hs : Printable s) : Form s (writtenStyle s) (written s) := by
  rw [written_eq hs, writtenStyle]
  split
  · rename_i hplain
    obtain ⟨htyped, hplain⟩ := Bool.and_eq_true_iff.mp hplain
    have hne : s ≠ [] := by
      rintro rfl
      cases htyped
    obtain ⟨hwords, hstart⟩ := words_of_canBePlain hs hne hplain
    exact .plain hwords hstart
  · exact .quoted hs

theorem printable_singleQuotedRest (hs : Printable s) : Printable (singleQuotedRest false s) := by
  induction s with
  | nil => exact List.forall_mem_singleton.mpr rfl
  | cons c s ih =>
    obtain ⟨hc, hrest⟩ := List.forall_mem_cons.mp hs
    rw [singleQuotedRest_cons hc]
    refine List.forall_mem_append.mpr ⟨?_, ih hrest⟩
    split
    · exact List.forall_mem_cons.mpr ⟨rfl, List.forall_mem_singleton.mpr hc⟩
    · exact List.forall_mem_singleton.mpr hc

namespace Form
variable {style : Style}

theorem printable (h : Form s style text) : Printable text := by
  cases h with
  | plain hwords => exact hwords.printable
  | quoted hs => exact List.forall_mem_cons.mpr ⟨rfl, printable_singleQuotedRest hs⟩

theorem exists_cons (h : Form s style text) :
    ∃ c more, text = c :: more ∧ isGap c = false ∧ c ≠ '#' := by
  cases h with
  | plain hwords => exact hwords.exists_cons
  | quoted hs => exact ⟨'\'', _, rfl, rfl, by decide⟩

end Form

theorem writtenLine_eq (hs : Printable s) : writtenLine s = written s ++ ['\n'] := by
  have hprintable := (form_written hs).printable
  have hlast : ((written s).getLast?.map isBreak).getD false = false := by
    cases hlast : (written s).getLast? with
    | none => rfl
    | some c => exact isBreak_of_isPrintable (hprintable c (List.mem_of_getLast? hlast))
  rw [writtenLine, hlast]
  rfl

end CloudClient.Yaml
