import CloudClient.Yaml.Scalar
import CloudClient.Yaml.Token.Scan

/-!
# Written texts

How a text is written as the value of an entry: plain where that reads back as the same text, in
single quotes where it does not, line by line where it has several lines, and in double quotes where
characters have to be escaped.
-/

namespace CloudClient.Yaml

def isWritable (c : Char) : Bool :=
  let n := c.toNat
  n == 0x0A || (0x20 ≤ n && n ≤ 0x7E) || (0xA0 ≤ n && n != 0xFEFF && n != 0xFFFE && n != 0xFFFF)

def startsIndicator : List Char → Bool
  | [] => false
  | c :: rest =>
    if c = '?' || c = ':' || c = '-' then isGapOrEnd rest.head? else Scan.isIndicator c

/-- A colon before a gap, or a number sign after one. -/
def hasInnerIndicator (afterGap : Bool) : List Char → Bool
  | [] => false
  | c :: rest =>
    (c = ':' && isGapOrEnd rest.head?) || (c = '#' && afterGap) ||
      hasInnerIndicator (isGap c) rest

def startsMarker (s : List Char) : Bool :=
  ['-', '-', '-'].isPrefixOf s || ['.', '.', '.'].isPrefixOf s

def isSpaceOrBreak (c : Char) : Bool := c = ' ' || isBreak c

def isFramed (s : List Char) : Bool :=
  (s.head?.map isSpaceOrBreak).getD false || (s.getLast?.map isSpaceOrBreak).getD false

def hasPair (first second : Char → Bool) : List Char → Bool
  | a :: b :: rest => (first a && second b) || hasPair first second (b :: rest)
  | _ => false

def hasSpaceBeforeBreak (s : List Char) : Bool := hasPair (· = ' ') isBreak s
def hasSpaceAfterBreak (s : List Char) : Bool := hasPair isBreak (· = ' ') s

def canBePlain (s : List Char) : Bool :=
  !(s.any isBreak || isFramed s || startsMarker s || startsIndicator s ||
    hasInnerIndicator false s.tail)

def canBeSingleQuoted (s : List Char) : Bool :=
  s.all isWritable && !hasSpaceBeforeBreak s && !hasSpaceAfterBreak s

def canBeLiteral (s : List Char) : Bool :=
  s.all isWritable && !hasSpaceBeforeBreak s && s.getLast? != some ' '

/-! ## Single quotes -/

def indentation : List Char := [' ', ' ']

def singleQuotedRest (afterBreak : Bool) : List Char → List Char
  | [] => (if afterBreak then indentation else []) ++ ['\'']
  | c :: rest =>
    if isBreak c then c :: singleQuotedRest true rest
    else (if afterBreak then indentation else []) ++ (if c = '\'' then ['\'', c] else [c]) ++
      singleQuotedRest false rest

def singleQuoted (s : List Char) : List Char := '\'' :: singleQuotedRest false s

/-! ## Double quotes -/

def hexText (width n : Nat) : List Char :=
  let digits := (Nat.toDigits 16 n).map Char.toUpper
  List.replicate (width - digits.length) '0' ++ digits

def escapeChar (c : Char) : List Char :=
  match c with
  | '"' => ['\\', '"']
  | '\\' => ['\\', '\\']
  | '\n' => ['\\', 'n']
  | '\r' => ['\\', 'r']
  | '\t' => ['\\', 't']
  | _ =>
    let n := c.toNat
    if isWritable c && !isBreak c then [c]
    else if n = 0 then ['\\', '0']
    else if n = 7 then ['\\', 'a']
    else if n = 8 then ['\\', 'b']
    else if n = 11 then ['\\', 'v']
    else if n = 12 then ['\\', 'f']
    else if n = 0x1B then ['\\', 'e']
    else if n = 0x85 then ['\\', 'N']
    else if n = 0x2028 then ['\\', 'L']
    else if n = 0x2029 then ['\\', 'P']
    else if n ≤ 0xFF then '\\' :: 'x' :: hexText 2 n
    else if n ≤ 0xFFFF then '\\' :: 'u' :: hexText 4 n
    else '\\' :: 'U' :: hexText 8 n

def doubleQuoted (s : List Char) : List Char := '"' :: (s.flatMap escapeChar ++ ['"'])

/-! ## Lines -/

/-- What tells how the text ends: without a break, with one, or with more. -/
def chompingMark (s : List Char) : List Char :=
  match s.reverse with
  | [] => ['-']
  | [c] => if isBreak c then ['+'] else ['-']
  | c :: d :: _ => if !isBreak c then ['-'] else if isBreak d then ['+'] else []

def indentedLines (afterBreak : Bool) : List Char → List Char
  | [] => []
  | c :: rest =>
    if isBreak c then c :: indentedLines true rest
    else (if afterBreak then indentation else []) ++ c :: indentedLines false rest

/-- The text line by line. A first line that could be taken for indentation needs the indentation to
be named. -/
def literal (s : List Char) : List Char :=
  let width := if (s.head?.map isSpaceOrBreak).getD false then ['2'] else []
  '|' :: (width ++ chompingMark s ++ '\n' :: indentedLines true s)

/-! ## The choice -/

def written (s : List Char) : List Char :=
  if s.contains '\n' then (if canBeLiteral s then literal s else doubleQuoted s)
  else if s.all isWritable && !isTyped s && canBePlain s then s
  else if canBeSingleQuoted s then singleQuoted s
  else doubleQuoted s

/-- The written text up to the end of its last line, which a text may bring itself. -/
def writtenLine (s : List Char) : List Char :=
  let text := written s
  if (text.getLast?.map isBreak).getD false then text else text ++ ['\n']

end CloudClient.Yaml
