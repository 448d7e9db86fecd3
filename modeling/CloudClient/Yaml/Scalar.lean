import CloudClient.Binary64
import CloudClient.Text

/-!
# Plain scalars

What a plain scalar stands for besides a text: nothing, a truth value or a number.
-/

namespace CloudClient.Yaml

def isNullWord (s : List Char) : Bool := ["~", "null", "Null", "NULL"].contains (String.ofList s)

def isNull (s : List Char) : Bool := s.isEmpty || isNullWord s

def isBool (s : List Char) : Bool :=
  ["true", "True", "TRUE", "false", "False", "FALSE"].contains (String.ofList s)

def hasSign (s : List Char) : Bool := s.head? = some '+' || s.head? = some '-'

def radixNumber? : List Char → Option Nat
  | '0' :: 'x' :: digits => Text.radix? 16 digits
  | '0' :: 'o' :: digits => Text.radix? 8 digits
  | '0' :: 'b' :: digits => Text.radix? 2 digits
  | _ => none

/-- Decimal digits after a leading zero are a text. -/
def hasLeadingZero (s : List Char) : Bool :=
  match s with
  | '0' :: digits => !digits.isEmpty && digits.all Char.isDigit
  | _ => false

def unsigned? (s : List Char) : Option Nat :=
  let body := match s with
    | '+' :: rest => rest
    | _ => s
  match radixNumber? body with
  | some n => some n
  | none => if hasSign body || hasLeadingZero body then none else Text.decimal? body

def isNegative (s : List Char) : Bool :=
  match s with
  | '-' :: body =>
    match radixNumber? body with
    | some n => n ≤ Nat.pow 2 127
    | none =>
      !hasLeadingZero body && ((Text.decimal? body).any fun n => n ≤ Nat.pow 2 127)
  | _ => false

/-- The exponent of a decimal, if what is left is one or nothing at all. -/
def exponent? : List Char → Option Int
  | [] => some 0
  | c :: rest =>
    if c = 'e' || c = 'E' then
      match rest with
      | '-' :: digits => (Text.decimal? digits).map fun n => -(n : Int)
      | '+' :: digits => (Text.decimal? digits).map fun n => (n : Int)
      | digits => (Text.decimal? digits).map fun n => (n : Int)
    else none

def isFinite (digits : Nat) (exponent : Int) : Bool :=
  let k := (-exponent).toNat
  if digits = 0 || (Nat.toDigits 10 digits).length ≤ k then true
  else if 310 < exponent then false
  else (Binary64.ofRatio false (digits * Nat.pow 10 exponent.toNat) (Nat.pow 10 k)).isSome

/-- Digits with at most one point among or around them, then an optional exponent. -/
def isDecimal (s : List Char) : Bool :=
  let body := match s with
    | '-' :: rest | '+' :: rest => rest
    | _ => s
  let whole := body.takeWhile Char.isDigit
  let rest := body.dropWhile Char.isDigit
  let (fraction, rest) := match rest with
    | '.' :: more => (more.takeWhile Char.isDigit, more.dropWhile Char.isDigit)
    | _ => ([], rest)
  if whole.isEmpty && fraction.isEmpty then false
  else match exponent? rest with
    | none => false
    | some e => isFinite (Text.decimalValue (whole ++ fraction)) (e - fraction.length)

def isSpecialFloat (s : List Char) : Bool :=
  [".inf", ".Inf", ".INF", "+.inf", "+.Inf", "+.INF", "-.inf", "-.Inf", "-.INF", ".nan", ".NaN",
   ".NAN"].contains (String.ofList s)

def isNumber (s : List Char) : Bool :=
  ((unsigned? s).any fun n => n < Nat.pow 2 128) || isNegative s || isDecimal s ||
    isSpecialFloat s

/-- Plain scalars that stand for something other than their text, and digit strings that look as
if they did. -/
def isTyped (s : List Char) : Bool :=
  isNull s || isBool s || isNumber s || hasLeadingZero (if hasSign s then s.tail else s)

end CloudClient.Yaml
