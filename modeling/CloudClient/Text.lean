/-!
# Scanning and cutting text

Texts are cut as lists of characters. Blanks are those of the Unicode property `White_Space`;
digits, letters and case are ASCII, which is all that the formats of this library speak of.
-/

namespace CloudClient.Text

/-- Unicode `White_Space`. -/
def isBlank (c : Char) : Bool :=
  let n := c.toNat
  (9 ≤ n && n ≤ 13) || n == 0x20 || n == 0x85 || n == 0xA0 || n == 0x1680 ||
    (0x2000 ≤ n && n ≤ 0x200A) || n == 0x2028 || n == 0x2029 || n == 0x202F || n == 0x205F ||
    n == 0x3000

def trimLeft (s : List Char) : List Char := s.dropWhile isBlank

def trimRight (s : List Char) : List Char := (s.reverse.dropWhile isBlank).reverse

def trim (s : List Char) : List Char := trimRight (trimLeft s)

def isPrintable (c : Char) : Bool := 0x20 ≤ c.toNat && c.toNat ≤ 0x7E

def isControl (c : Char) : Bool := c.toNat < 0x20 || c.toNat == 0x7F

def stripSuffix? (ending s : List Char) : Option (List Char) :=
  if ending.isSuffixOf s then some (s.take (s.length - ending.length)) else none

theorem eq_append_of_stripSuffix? {ending s start : List Char}
    (h : stripSuffix? ending s = some start) : s = start ++ ending := by
  obtain ⟨hsuffix, hstart⟩ := Option.ite_none_right_eq_some.mp h
  obtain ⟨start, rfl⟩ := List.isSuffixOf_iff_suffix.mp hsuffix
  cases hstart
  simp

def occurs (pattern : List Char) : List Char → Bool
  | [] => pattern.isEmpty
  | c :: rest => pattern.isPrefixOf (c :: rest) || occurs pattern rest

/-- `skip` counts the characters of a match that are still to be passed over. -/
def replaceFrom (pattern replacement : List Char) : Nat → List Char → List Char
  | _, [] => []
  | skip + 1, _ :: rest => replaceFrom pattern replacement skip rest
  | 0, c :: rest =>
    if pattern.isPrefixOf (c :: rest) then
      replacement ++ replaceFrom pattern replacement (pattern.length - 1) rest
    else c :: replaceFrom pattern replacement 0 rest

/-- Every occurrence from left to right, none overlapping another. The pattern is not empty. -/
def replaceAll (pattern replacement s : List Char) : List Char :=
  replaceFrom pattern replacement 0 s

/-- The pieces between separators; the empty text is one empty piece. -/
def splitOn (separator : Char) : List Char → List (List Char)
  | [] => [[]]
  | c :: rest =>
    if c = separator then [] :: splitOn separator rest
    else match splitOn separator rest with
      | piece :: pieces => (c :: piece) :: pieces
      | [] => [[c]]

def splitOnce? (separator : Char) : List Char → Option (List Char × List Char)
  | [] => none
  | c :: rest =>
    if c = separator then some ([], rest)
    else (splitOnce? separator rest).map fun (before, after) => (c :: before, after)

def digitValue (c : Char) : Nat := c.toNat - 48

def decimalValue (digits : List Char) : Nat :=
  digits.foldl (fun value c => 10 * value + digitValue c) 0

def decimal? (s : List Char) : Option Nat :=
  if s.isEmpty || !s.all Char.isDigit then none else some (decimalValue s)

def hexValue? (c : Char) : Option Nat :=
  if c.isDigit then some (c.toNat - 48)
  else if 'a' ≤ c ∧ c ≤ 'f' then some (c.toNat - 87)
  else if 'A' ≤ c ∧ c ≤ 'F' then some (c.toNat - 55)
  else none

def hexLower (n : Nat) : Char := if n < 10 then Char.ofNat (48 + n) else Char.ofNat (87 + n)

def hexUpper (n : Nat) : Char := if n < 10 then Char.ofNat (48 + n) else Char.ofNat (55 + n)

def radix? (radix : Nat) (s : List Char) : Option Nat :=
  if s.isEmpty then none else
    s.foldl (fun value c => do
      let v ← value
      let d ← hexValue? c
      if d < radix then some (radix * v + d) else none) (some 0)

def unsigned? : List Char → Option Nat
  | '+' :: digits => decimal? digits
  | digits => decimal? digits

/-- A position: a number of 64 bits. -/
def index? (s : List Char) : Option Nat := (unsigned? s).filter fun n => n < UInt64.size

def isInt64 (n : Int) : Bool := -9223372036854775808 ≤ n && n ≤ 9223372036854775807

def int64? (s : List Char) : Option Int :=
  let value? : Option Int := match s with
    | '-' :: digits => (decimal? digits).map fun n => -(n : Int)
    | '+' :: digits => (decimal? digits).map fun n => (n : Int)
    | digits => (decimal? digits).map fun n => (n : Int)
  value?.filter isInt64

def padRight (width : Nat) (s : List Char) : List Char := s ++ List.replicate (width - s.length) ' '

def padZeros (width n : Nat) : List Char :=
  let digits := Nat.toDigits 10 n
  List.replicate (width - digits.length) '0' ++ digits

end CloudClient.Text
