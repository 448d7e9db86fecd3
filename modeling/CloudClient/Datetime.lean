import CloudClient.Text

/-!
# Timestamps

A timestamp is written `YYYY-MM-DDThh:mm:ss`. On reading, each number may follow blanks and have
fewer digits; a year of more than four digits needs a sign. On writing, numbers are padded with
zeros and a year outside 0 to 9999 carries its sign. Second 60 is kept as it is.
-/

namespace CloudClient

structure Datetime where
  year : Int
  month : Nat
  day : Nat
  hour : Nat
  minute : Nat
  second : Nat
deriving DecidableEq, Repr, Inhabited

namespace Datetime

def isLeapYear (year : Int) : Bool := year % 4 = 0 && (year % 100 ≠ 0 || year % 400 = 0)

def daysInMonth (year : Int) (month : Nat) : Nat :=
  if month = 2 then (if isLeapYear year then 29 else 28)
  else if month = 4 || month = 6 || month = 9 || month = 11 then 30
  else 31

def isValid (t : Datetime) : Bool :=
  -262143 ≤ t.year && t.year ≤ 262142 && 1 ≤ t.month && t.month ≤ 12 && 1 ≤ t.day &&
    t.day ≤ daysInMonth t.year t.month && t.hour ≤ 23 && t.minute ≤ 59 && t.second ≤ 60

def readDigits? (width : Nat) (s : List Char) : Option (Nat × List Char) :=
  match (s.take width).takeWhile Char.isDigit with
  | [] => none
  | digits => some (Text.decimalValue digits, s.drop digits.length)

def readNumber? (s : List Char) : Option (Nat × List Char) := readDigits? 2 (Text.trimLeft s)

def readYear? (s : List Char) : Option (Int × List Char) :=
  match Text.trimLeft s with
  | '-' :: rest => (readDigits? rest.length rest).map fun (n, rest) => (-(n : Int), rest)
  | '+' :: rest => (readDigits? rest.length rest).map fun (n, rest) => ((n : Int), rest)
  | rest => (readDigits? 4 rest).map fun (n, rest) => ((n : Int), rest)

def readMark? (mark : Char) : List Char → Option (List Char)
  | c :: rest => if c = mark then some rest else none
  | [] => none

def parse? (s : List Char) : Option Datetime := do
  let (year, s) ← readYear? s
  let s ← readMark? '-' s
  let (month, s) ← readNumber? s
  let s ← readMark? '-' s
  let (day, s) ← readNumber? s
  let s ← readMark? 'T' s
  let (hour, s) ← readNumber? s
  let s ← readMark? ':' s
  let (minute, s) ← readNumber? s
  let s ← readMark? ':' s
  let (second, s) ← readNumber? s
  let t : Datetime := ⟨year, month, day, hour, minute, second⟩
  if s.isEmpty && t.isValid then some t else none

def yearText (year : Int) : List Char :=
  if 0 ≤ year ∧ year ≤ 9999 then Text.padZeros 4 year.toNat
  else (if year < 0 then '-' else '+') :: Text.padZeros 4 year.natAbs

def text (t : Datetime) : List Char :=
  yearText t.year ++ '-' :: (Text.padZeros 2 t.month ++ '-' :: (Text.padZeros 2 t.day ++
    'T' :: (Text.padZeros 2 t.hour ++ ':' :: (Text.padZeros 2 t.minute ++
      ':' :: Text.padZeros 2 t.second))))

end Datetime
end CloudClient
