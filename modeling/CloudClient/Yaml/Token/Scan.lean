import CloudClient.Yaml.Token.Name

/-!
# From text to tokens

Tokens are read one after another. What is indented deeper than the block around it and starts with
an item or a key opens a block, and what is indented less closes blocks. A node on whose line a
colon follows turns out to be a key, so its place is kept while that can still happen: on the same
line and within 1024 characters.
-/

namespace CloudClient.Yaml

/-- A place where a key may have started: before which token, and where in the text. Where the
block at hand has its keys, only a key may stand. -/
structure Candidate where
  before : Nat
  index : Nat
  line : Nat
  column : Nat
  isRequired : Bool
deriving Repr, Inhabited

/-- How far a text has been read. `indents` has the innermost block first, `candidates` the
innermost flow collection and last the block level. -/
structure Scan where
  source : Source
  tokens : List Token := []
  indents : List Nat := []
  keyAllowed : Bool := true
  candidates : List (Option Candidate) := [none]
deriving Repr, Inhabited

namespace Scan

def inFlow (s : Scan) : Bool := 1 < s.candidates.length

/-- The indentation of the block at hand; one before the first column outside of all blocks. -/
def indent (s : Scan) : Int :=
  match s.indents with
  | [] => -1
  | n :: _ => n

def emit (s : Scan) (t : Token) : Scan := { s with tokens := s.tokens ++ [t] }

def emitMark (s : Scan) (t : Token) (n : Nat) : Scan :=
  { s.emit t with source := s.source.advance n }

def withKeyAllowed (s : Scan) (allowed : Bool) : Scan := { s with keyAllowed := allowed }

/-! ## Blocks -/

def unroll (s : Scan) (column : Nat) : Scan :=
  if s.inFlow then s
  else
    { s with
      tokens := s.tokens ++ List.replicate (s.indents.takeWhile (column < ·)).length .blockEnd
      indents := s.indents.dropWhile (column < ·) }

def unrollAll (s : Scan) : Scan :=
  if s.inFlow then s
  else
    { s with
      tokens := s.tokens ++ List.replicate s.indents.length .blockEnd
      indents := [] }

/-- Opens a block at a column that is deeper than the block at hand, before a token that has been
read already or after all of them. -/
def roll (s : Scan) (column : Nat) (before : Nat) (t : Token) : Scan :=
  if s.inFlow || column ≤ s.indent then s
  else { s with tokens := s.tokens.insertIdx before t, indents := column :: s.indents }

def rollHere (s : Scan) (t : Token) : Scan := s.roll s.source.column s.tokens.length t

/-! ## Candidates for keys -/

def maxKey : Nat := 1024

def isStale (s : Scan) (c : Candidate) : Bool :=
  c.line < s.source.line || c.index + maxKey < s.source.index

/-- Without the candidates that have no colon in reach any more. -/
def dropStale? (s : Scan) : Option Scan := do
  let candidates ← s.candidates.mapM fun candidate? =>
    match candidate? with
    | none => some none
    | some c => if !s.isStale c then some (some c) else if c.isRequired then none else some none
  some { s with candidates }

def dropKey? (s : Scan) : Option Scan :=
  match s.candidates with
  | some c :: outer => if c.isRequired then none else some { s with candidates := none :: outer }
  | _ => some s

def saveKey? (s : Scan) : Option Scan :=
  if !s.keyAllowed then some s
  else do
    let s ← s.dropKey?
    let here : Candidate := {
      before := s.tokens.length
      index := s.source.index
      line := s.source.line
      column := s.source.column
      isRequired := !s.inFlow && s.indent == s.source.column }
    some { s with candidates := some here :: s.candidates.tail }

/-! ## Tokens -/

/-- Past a byte order mark that starts a line; it takes a column. -/
def skipOrderMark (source : Source) : Source :=
  if source.column == 0 && source.isAt (· = '\ufeff') then source.advance 1 else source

/-- Past blanks, comments and line breaks. A tab may not stand where a key may, except in flow
notation. -/
def skipGap : Nat → Scan → Scan
  | 0, s => s
  | fuel + 1, s =>
    let tabs := s.inFlow || !s.keyAllowed
    let source := (skipOrderMark s.source).skip fun c => c = ' ' || (tabs && c = '\t')
    let source := if source.isAt (· = '#') then source.skip (fun c => !isBreak c) else source
    let s := { s with source }
    if source.isAt isBreak then
      skipGap fuel { s with source := source.skipBreak, keyAllowed := s.keyAllowed || !s.inFlow }
    else s

def documentMark? (s : Scan) (t : Token) : Option Scan := do
  let s ← s.unrollAll.dropKey?
  some ((s.withKeyAllowed false).emitMark t 3)

def directive? (s : Scan) : Option Scan := do
  let s ← s.unrollAll.dropKey?
  let (token, source) ← readDirective? (s.source.advance 1)
  some ({ s with source }.withKeyAllowed false |>.emit token)

def openFlow? (s : Scan) (t : Token) : Option Scan := do
  let s ← s.saveKey?
  some ({ s with candidates := none :: s.candidates }.withKeyAllowed true |>.emitMark t 1)

def closeFlow? (s : Scan) (t : Token) : Option Scan := do
  let s ← s.dropKey?
  let candidates := if s.inFlow then s.candidates.tail else s.candidates
  some ({ s with candidates }.withKeyAllowed false |>.emitMark t 1)

def separator? (s : Scan) : Option Scan := do
  let s ← s.dropKey?
  some ((s.withKeyAllowed true).emitMark .separator 1)

def item? (s : Scan) : Option Scan := do
  if !s.inFlow && !s.keyAllowed then none else
  let s ← (s.rollHere .blockSequence).dropKey?
  some ((s.withKeyAllowed true).emitMark .item 1)

def explicitKey? (s : Scan) : Option Scan := do
  if !s.inFlow && !s.keyAllowed then none else
  let s ← (s.rollHere .blockMapping).dropKey?
  some ((s.withKeyAllowed (!s.inFlow)).emitMark .key 1)

/-- A colon before a value. It makes a key of the candidate, if there is one. -/
def value? (s : Scan) : Option Scan :=
  match s.candidates with
  | some c :: outer =>
    let s := { s with tokens := s.tokens.insertIdx c.before .key, candidates := none :: outer }
    some (((s.roll c.column c.before .blockMapping).withKeyAllowed false).emitMark .value 1)
  | _ =>
    if !s.inFlow && !s.keyAllowed then none
    else
      let s := s.rollHere .blockMapping
      some ((s.withKeyAllowed (!s.inFlow)).emitMark .value 1)

def named? (s : Scan) (t : List Char → Token) : Option Scan := do
  let s ← s.saveKey?
  let (name, source) ← readName? (s.source.advance 1)
  some ({ s with source }.withKeyAllowed false |>.emit (t name))

def tag? (s : Scan) : Option Scan := do
  let s ← s.saveKey?
  let ((handle, suffix), source) ← readTag? s.inFlow s.source
  some ({ s with source }.withKeyAllowed false |>.emit (.tag handle suffix))

def blockScalar? (s : Scan) (style : Style) : Option Scan := do
  let s ← s.dropKey?
  let (text, source) ← readBlockScalar? (style == .folded) s.indent (s.source.advance 1)
  some ({ s with source }.withKeyAllowed true |>.emit (.scalar style text))

def quoted? (s : Scan) (quote : Char) (style : Style) : Option Scan := do
  let s ← s.saveKey?
  let source := s.source.advance 1
  let (text, source) ← readQuoted? quote (source.rest.length + 1) source
  some ({ s with source }.withKeyAllowed false |>.emit (.scalar style text))

def plain? (s : Scan) : Option Scan := do
  let s ← s.saveKey?
  let limit := (s.indent + 1).toNat
  let (text, isBroken, source) ←
    readPlain? s.inFlow limit (s.source.rest.length + 1) {} s.source
  some ({ s with source }.withKeyAllowed isBroken |>.emit (.scalar .plain text))

def isIndicator (c : Char) : Bool :=
  ['-', '?', ':', ',', '[', ']', '\x7b', '\x7d', '#', '&', '*', '!', '|', '>', '\'', '"', '%', '@',
    '\x60'].contains c

def startsPlain (inFlow : Bool) (c : Char) (next? : Option Char) : Bool :=
  !(isGap c || isIndicator c) || (c = '-' && !(next?.map isBlank).getD false) ||
    (!inFlow && (c = '?' || c = ':') && !isGapOrEnd next?)

def next? (s : Scan) (c : Char) (rest : List Char) : Option Scan :=
  let ends := isGapOrEnd rest.head?
  if s.source.column == 0 && c = '%' then s.directive?
  else if s.source.isAtDocumentStart then s.documentMark? .documentStart
  else if s.source.isAtDocumentEnd then s.documentMark? .documentEnd
  else if c = '[' then s.openFlow? .flowSequence
  else if c = '\x7b' then s.openFlow? .flowMapping
  else if c = ']' then s.closeFlow? .flowSequenceEnd
  else if c = '\x7d' then s.closeFlow? .flowMappingEnd
  else if c = ',' then s.separator?
  else if c = '-' && ends then s.item?
  else if c = '?' && (s.inFlow || ends) then s.explicitKey?
  else if c = ':' && (s.inFlow || ends) then s.value?
  else if c = '*' then s.named? .alias
  else if c = '&' then s.named? .anchor
  else if c = '!' then s.tag?
  else if c = '|' && !s.inFlow then s.blockScalar? .literal
  else if c = '>' && !s.inFlow then s.blockScalar? .folded
  else if c = '\'' then s.quoted? c .singleQuoted
  else if c = '"' then s.quoted? c .doubleQuoted
  else if startsPlain s.inFlow c rest.head? then s.plain?
  else none

def finish? (s : Scan) : Option (List Token) := s.unrollAll.dropKey?.map Scan.tokens

def run? : Nat → Scan → Option (List Token)
  | 0, _ => none
  | fuel + 1, s => do
    let s ← (s.skipGap (s.source.rest.length + 1)).dropStale?
    let s := s.unroll s.source.column
    match s.source.rest with
    | [] => s.finish?
    | c :: rest => run? fuel (← s.next? c rest)

end Scan

def tokens? (text : List Char) : Option (List Token) :=
  Scan.run? (text.length + 2) { source := { rest := text } }

end CloudClient.Yaml
