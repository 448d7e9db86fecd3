/-!
# Places in a text

A text is read from a place that knows how far it is from the start of the text and of its line,
because indentation and the reach of a key depend on that. Five characters break a line, and the two
that end a DOS line count as one break.
-/

namespace CloudClient.Yaml

def isBlank (c : Char) : Bool := c = ' ' || c = '\t'

def isBreak (c : Char) : Bool :=
  c = '\n' || c = '\r' || c.toNat == 0x85 || c.toNat == 0x2028 || c.toNat == 0x2029

def isGap (c : Char) : Bool := isBlank c || isBreak c

def isGapOrEnd (next? : Option Char) : Bool := (next?.map isGap).getD true

structure Source where
  rest : List Char
  index : Nat := 0
  line : Nat := 0
  column : Nat := 0
deriving Repr, Inhabited

namespace Source

def advance (s : Source) (n : Nat) : Source :=
  { s with rest := s.rest.drop n, index := s.index + n, column := s.column + n }

def skip (s : Source) (test : Char → Bool) : Source := s.advance (s.rest.takeWhile test).length

def skipBreak (s : Source) : Source :=
  let n := match s.rest with
    | '\r' :: '\n' :: _ => 2
    | _ => 1
  { rest := s.rest.drop n, index := s.index + n, line := s.line + 1, column := 0 }

/-- What a line break stands for: the two separators for themselves, any other for a line feed. -/
def breakChar (c : Char) : Char :=
  if c.toNat == 0x2028 || c.toNat == 0x2029 then c else '\n'

def isAt (s : Source) (test : Char → Bool) : Bool := (s.rest.head?.map test).getD false

def isMarker (mark : Char) (s : List Char) : Bool :=
  match s with
  | a :: b :: c :: rest => a = mark && b = mark && c = mark && isGapOrEnd rest.head?
  | _ => false

def isAtDocumentStart (s : Source) : Bool := s.column == 0 && isMarker '-' s.rest

def isAtDocumentEnd (s : Source) : Bool := s.column == 0 && isMarker '.' s.rest

def isAtMarker (s : Source) : Bool := s.isAtDocumentStart || s.isAtDocumentEnd

end Source

/-! ## Blanks and breaks between words -/

/-- The blanks and line breaks between two words: the blanks before the first break, and the breaks.
An escaped gap follows a line break that stands for nothing. -/
structure Gap where
  blanks : List Char := []
  breaks : List Char := []
  isEscaped : Bool := false
deriving Repr, Inhabited

namespace Gap

def isBroken (g : Gap) : Bool := g.isEscaped || !g.breaks.isEmpty

/-- What a gap stands for: itself within a line, a space for one line feed, and the breaks after the
first for several; a separator of lines or paragraphs stands for itself. -/
def text (g : Gap) : List Char :=
  if g.isEscaped then g.breaks
  else match g.breaks with
    | [] => g.blanks
    | ['\n'] => [' ']
    | '\n' :: more => more
    | breaks => breaks

end Gap

/-- The rest of a gap. After a break no tab may stand before the column `limit`. -/
def Source.readGap? : Nat → Nat → Gap → Source → Option (Gap × Source)
  | 0, _, g, s => some (g, s)
  | fuel + 1, limit, g, s =>
    match s.rest with
    | [] => some (g, s)
    | c :: _ =>
      if isBreak c then
        readGap? fuel limit { g with breaks := g.breaks ++ [breakChar c] } s.skipBreak
      else if !isBlank c then some (g, s)
      else if !g.isBroken then
        readGap? fuel limit { g with blanks := g.blanks ++ [c] } (s.advance 1)
      else if c = '\t' && s.column < limit then none
      else readGap? fuel limit g (s.advance 1)

def Source.gap? (s : Source) (limit : Nat) : Option (Gap × Source) :=
  s.readGap? (s.rest.length + 1) limit {}

end CloudClient.Yaml
