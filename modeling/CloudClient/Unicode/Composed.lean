import CloudClient.Unicode.CombiningClass
import CloudClient.Unicode.Decomposition

/-!
# Composed form

Texts that are written with different sequences of letters and marks but mean the same characters
have one composed form: all characters are decomposed, the marks after a letter are sorted by
combining class, and pairs are composed again from left to right.
-/

namespace CloudClient.Unicode

structure Classed where
  order : Nat
  char : Char
deriving DecidableEq, Repr

def Classed.of (c : Char) : Classed := ⟨combiningClass c, c⟩

/-- The mark before those of the same or a higher class and before the next letter. -/
def insertMark (m : Classed) : List Classed → List Classed
  | [] => [m]
  | n :: rest =>
    if n.order ≠ 0 ∧ n.order < m.order then n :: insertMark m rest else m :: n :: rest

def sortMarks : List Classed → List Classed
  | [] => []
  | m :: rest => if m.order = 0 then m :: sortMarks rest else insertMark m (sortMarks rest)

/-- Whether the marks kept since the letter stand between it and a character of this class. -/
def isBlocked (kept : List Classed) (order : Nat) : Bool :=
  match kept with
  | [] => false
  | last :: _ => order ≤ last.order

/-- The letter at hand with the marks that it did not take up, the last one first, and the text
that follows. -/
def composeFrom (letter : Char) (kept : List Classed) : List Classed → List Char
  | [] => letter :: (kept.reverse.map Classed.char)
  | next :: rest =>
    match if isBlocked kept next.order then none else composed? letter next.char with
    | some c => composeFrom c kept rest
    | none =>
      if next.order = 0 then
        letter :: (kept.reverse.map Classed.char ++ composeFrom next.char [] rest)
      else composeFrom letter (next :: kept) rest

def compose : List Classed → List Char
  | [] => []
  | first :: rest =>
    if first.order = 0 then composeFrom first.char [] rest else first.char :: compose rest

/-- More steps than any decomposition takes. -/
def decompositionDepth : Nat := 8

def decomposed (s : List Char) : List Char :=
  (sortMarks ((s.flatMap (decompose decompositionDepth)).map Classed.of)).map Classed.char

/-- The composed form; ASCII is composed already. -/
def composed (s : List Char) : List Char :=
  if s.all isAscii then s else compose ((decomposed s).map Classed.of)

end CloudClient.Unicode
