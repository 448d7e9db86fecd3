import CloudClient.Text
import CloudClient.Yaml.Source
import CloudClient.Yaml.Token

/-!
# Scalars

A plain scalar ends before a mark that would mean something else, a quoted one at its quote, and a
block scalar at the end of its indentation. Blanks and breaks inside a plain or quoted scalar are
folded.
-/

namespace CloudClient.Yaml

def isFlowMark (c : Char) : Bool := [',', '[', ']', '\x7b', '\x7d'].contains c

/-! ## Plain scalars -/

/-- The characters of a plain scalar up to the next gap. In flow notation a colon may not stand
before a mark. -/
def plainRun? (inFlow : Bool) : List Char → Option (List Char)
  | [] => some []
  | c :: rest =>
    if isGap c then some []
    else if inFlow && c = ':' && (rest.head?.map fun d => isFlowMark d || d = '?').getD false then
      none
    else if (c = ':' && isGapOrEnd rest.head?) || (inFlow && isFlowMark c) then some []
    else (plainRun? inFlow rest).map (c :: ·)

/-- The words of a plain scalar after a gap, and whether its end lies behind a line break. Lines
after the first are indented up to the column `limit`, except in flow notation. -/
def readPlain? (inFlow : Bool) (limit : Nat) :
    Nat → Gap → Source → Option (List Char × Bool × Source)
  | 0, _, _ => none
  | fuel + 1, gap, s =>
    if s.isAtMarker || s.isAt (· = '#') then some ([], gap.isBroken, s)
    else do
      let run ← plainRun? inFlow s.rest
      let after := s.advance run.length
      if run.isEmpty then some ([], gap.isBroken, s)
      else if !after.isAt isGap then some (gap.text ++ run, false, after)
      else
        let (next, s) ← after.gap? limit
        if !inFlow && s.column < limit then some (gap.text ++ run, next.isBroken, s)
        else
          let (more, isBroken, s) ← readPlain? inFlow limit fuel next s
          some (gap.text ++ run ++ more, isBroken, s)

/-! ## Quoted scalars -/

def simpleEscape? : Char → Option Char
  | '0' => some '\x00'
  | 'a' => some '\x07'
  | 'b' => some '\x08'
  | 't' => some '\t'
  | '\t' => some '\t'
  | 'n' => some '\n'
  | 'v' => some '\x0b'
  | 'f' => some '\x0c'
  | 'r' => some '\r'
  | 'e' => some '\x1b'
  | ' ' => some ' '
  | '"' => some '"'
  | '/' => some '/'
  | '\\' => some '\\'
  | 'N' => some '\u0085'
  | '_' => some '\u00a0'
  | 'L' => some '\u2028'
  | 'P' => some '\u2029'
  | _ => none

def escapeWidth? : Char → Option Nat
  | 'x' => some 2
  | 'u' => some 4
  | 'U' => some 8
  | _ => none

def readEscape? (c : Char) (rest : List Char) : Option (Char × Nat) :=
  match escapeWidth? c with
  | none => (simpleEscape? c).map fun d => (d, 0)
  | some width => do
    let digits := rest.take width
    let n ← if digits.length = width then Text.radix? 16 digits else none
    if n < 0xD800 || (0xE000 ≤ n && n ≤ 0x10FFFF) then some (Char.ofNat n, width) else none

def readQuoted? (quote : Char) : Nat → Source → Option (List Char × Source)
  | 0, _ => none
  | fuel + 1, s =>
    if s.isAtMarker then none
    else match s.rest with
      | [] => none
      | c :: rest =>
        if c = quote then
          if quote = '\'' && rest.head? = some '\'' then do
            let (more, s) ← readQuoted? quote fuel (s.advance 2)
            some ('\'' :: more, s)
          else some ([], s.advance 1)
        else if isGap c then do
          let (gap, s) ← s.gap? 0
          let (more, s) ← readQuoted? quote fuel s
          some (gap.text ++ more, s)
        else if quote = '"' && c = '\\' then
          match rest with
          | [] => none
          | d :: digits =>
            if isBreak d then do
              let s := (s.advance 1).skipBreak
              let (gap, s) ← s.readGap? (s.rest.length + 1) 0 ⟨[], [], true⟩
              let (more, s) ← readQuoted? quote fuel s
              some (gap.text ++ more, s)
            else do
              let (e, width) ← readEscape? d digits
              let (more, s) ← readQuoted? quote fuel (s.advance (width + 2))
              some (e :: more, s)
        else do
          let (more, s) ← readQuoted? quote fuel (s.advance 1)
          some (c :: more, s)

/-! ## Block scalars -/

inductive Chomping
  | strip | clip | keep
deriving DecidableEq, Repr

def chomping? : Char → Option Chomping
  | '+' => some .keep
  | '-' => some .strip
  | _ => none

def indentDigit? (c : Char) : Option Nat :=
  if c.isDigit && c != '0' then some (Text.digitValue c) else none

/-- The chomping and the indentation that are given after the mark, in any order, and the number of
characters that they take. -/
def blockHeader (s : List Char) : Chomping × Nat × Nat :=
  match s with
  | [] => (.clip, 0, 0)
  | a :: rest =>
    match chomping? a, indentDigit? a with
    | some chomping, _ =>
      match rest.head?.bind indentDigit? with
      | some n => (chomping, n, 2)
      | none => (chomping, 0, 1)
    | none, some n =>
      match rest.head?.bind chomping? with
      | some chomping => (chomping, n, 2)
      | none => (.clip, n, 1)
    | none, none => (.clip, 0, 0)

/-- Past the blanks and the comment at the end of a line; nothing where something else stands. -/
def Source.lineEnd? (s : Source) : Option Source :=
  let s := s.skip isBlank
  let s := if s.isAt (· = '#') then s.skip (fun c => !isBreak c) else s
  if s.rest.isEmpty then some s else if s.isAt isBreak then some s.skipBreak else none

/-- The breaks of empty lines, the deepest column reached, and the place where a line says
something. An indentation of zero is not known yet; no tab may stand in it. -/
def readEmptyLines? (indent : Nat) :
    Nat → Nat → List Char → Source → Option (List Char × Nat × Source)
  | 0, _, _, _ => none
  | fuel + 1, deepest, breaks, s =>
    let spaces := (s.rest.takeWhile (· = ' ')).length
    let s := s.advance (if indent = 0 then spaces else min spaces (indent - s.column))
    let deepest := max deepest s.column
    if (indent = 0 || s.column < indent) && s.isAt (· = '\t') then none
    else match s.rest with
      | [] => some (breaks, deepest, s)
      | c :: _ =>
        if isBreak c then readEmptyLines? indent fuel deepest (breaks ++ [Source.breakChar c])
          s.skipBreak
        else some (breaks, deepest, s)

def Source.emptyLines? (s : Source) (indent : Nat) : Option (List Char × Nat × Source) :=
  readEmptyLines? indent (s.rest.length + 1) 0 [] s

/-- What the break between two lines stands for: nothing or a space in a folded scalar whose lines
both start with a word, and itself otherwise. -/
def lineJoint (isFolded startsBlank : Bool) (ending breaks : List Char) : List Char :=
  if isFolded && ending = ['\n'] && !startsBlank then (if breaks.isEmpty then [' '] else [])
  else ending

/-- The lines of a block scalar, the break at the end of the last one, and the empty lines after
it. -/
def readLines? (isFolded : Bool) (indent : Nat) : Nat → Bool → List Char → List Char → Source →
    Option (List Char × List Char × List Char × Source)
  | 0, _, _, _, _ => none
  | fuel + 1, wasBlank, ending, breaks, s =>
    if s.column != indent || s.rest.isEmpty then some ([], ending, breaks, s)
    else do
      let startsBlank := s.isAt isBlank
      let line := s.rest.takeWhile fun c => !isBreak c
      let after := s.advance line.length
      let (next, s) := match after.rest with
        | [] => ([], after)
        | c :: _ => ([Source.breakChar c], after.skipBreak)
      let (empty, _, s) ← s.emptyLines? indent
      let (more, last, tail, s) ← readLines? isFolded indent fuel startsBlank next empty s
      some (lineJoint isFolded (wasBlank || startsBlank) ending breaks ++ breaks ++ line ++ more,
        last, tail, s)

def readBlockScalar? (isFolded : Bool) (parent : Int) (s : Source) :
    Option (List Char × Source) := do
  let (chomping, increment, width) := blockHeader s.rest
  let s ← (s.advance width).lineEnd?
  let given := if increment = 0 then 0 else (max parent 0).toNat + increment
  let (breaks, deepest, s) ← s.emptyLines? given
  let indent := if given = 0 then max (max deepest (parent + 1).toNat) 1 else given
  let (text, last, tail, s) ← readLines? isFolded indent (s.rest.length + 1) false [] breaks s
  some (text ++ (if chomping = .strip then [] else last) ++ (if chomping = .keep then tail else []),
    s)

end CloudClient.Yaml
