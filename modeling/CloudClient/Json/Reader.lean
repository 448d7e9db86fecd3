import CloudClient.Json
import CloudClient.Text

/-!
# Reading JSON

One value between blanks, with nothing after it. Nesting is bounded; a number beyond binary64 is
refused, as are lone surrogates. `readEntries?` keeps the entries of objects as they are written,
repetitions included; `read?` sorts them.
-/

namespace CloudClient.Json

def isSpace (c : Char) : Bool := c = ' ' || c = '\t' || c = '\n' || c = '\r'

def skipSpace (s : List Char) : List Char := s.dropWhile isSpace

structure Numeral where
  negative : Bool
  whole : List Char
  fraction : List Char
  exponent : Option Int

/-- The leading digits that keep the significand within 64 bits, the power of ten that the
dropped ones amount to, and the fraction digits taken. -/
def gather : Nat → List Char → Nat × List Char
  | significand, [] => (significand, [])
  | significand, c :: rest =>
    let next := 10 * significand + Text.digitValue c
    if next < UInt64.size then gather next rest else (significand, c :: rest)

def Numeral.float? (n : Numeral) : Option Binary64 :=
  let (whole, dropped) := gather 0 n.whole
  let (significand, unread) := gather whole n.fraction
  let taken := n.fraction.length - unread.length
  let exponent : Int := (dropped.length : Int) - taken + n.exponent.getD 0
  Binary64.ofDecimal n.negative significand exponent

def Numeral.value? (n : Numeral) : Option Number :=
  if n.fraction.isEmpty && n.exponent.isNone then
    let whole := Text.decimalValue n.whole
    if !n.negative && whole < UInt64.size then some (.int whole)
    else if n.negative && 0 < whole && whole ≤ UInt64.size / 2 then some (.int (-whole))
    else n.float?.map .float
  else n.float?.map .float

def readSign : List Char → Bool × List Char
  | '-' :: rest => (true, rest)
  | rest => (false, rest)

def readWhole? (s : List Char) : Option (List Char × List Char) :=
  match s.span Char.isDigit with
  | ([], _) => none
  | ('0' :: _ :: _, _) => none
  | (digits, rest) => some (digits, rest)

def readFraction? : List Char → Option (List Char × List Char)
  | '.' :: rest =>
    match rest.span Char.isDigit with
    | ([], _) => none
    | (digits, rest) => some (digits, rest)
  | rest => some ([], rest)

def readPower? (negative : Bool) (s : List Char) : Option (Option Int × List Char) :=
  match s.span Char.isDigit with
  | ([], _) => none
  | (digits, rest) =>
    let n : Int := Text.decimalValue digits
    some (some (if negative then -n else n), rest)

def readExponent? : List Char → Option (Option Int × List Char)
  | c :: rest =>
    if c = 'e' || c = 'E' then
      match rest with
      | '-' :: rest => readPower? true rest
      | '+' :: rest => readPower? false rest
      | rest => readPower? false rest
    else some (none, c :: rest)
  | [] => some (none, [])

def readNumeral? (s : List Char) : Option (Numeral × List Char) := do
  let (negative, s) := readSign s
  let (whole, s) ← readWhole? s
  let (fraction, s) ← readFraction? s
  let (exponent, s) ← readExponent? s
  some (⟨negative, whole, fraction, exponent⟩, s)

def readNumber? (s : List Char) : Option (Number × List Char) := do
  let (numeral, s) ← readNumeral? s
  let n ← numeral.value?
  some (n, s)

def readUnit? : List Char → Option (Nat × List Char)
  | a :: b :: c :: d :: rest => do
    let a ← Text.hexValue? a
    let b ← Text.hexValue? b
    let c ← Text.hexValue? c
    let d ← Text.hexValue? d
    some (((a * 16 + b) * 16 + c) * 16 + d, rest)
  | _ => none

def shortEscape? : Char → Option Char
  | '"' => some '"'
  | '\\' => some '\\'
  | '/' => some '/'
  | 'b' => some '\x08'
  | 'f' => some '\x0c'
  | 'n' => some '\n'
  | 'r' => some '\r'
  | 't' => some '\t'
  | _ => none

/-- The character of an escape after its `\u`: one unit, or a high and a low surrogate. -/
def readUnicode? (s : List Char) : Option (Char × List Char) := do
  let (n, rest) ← readUnit? s
  if n < 0xD800 || 0xE000 ≤ n then some (Char.ofNat n, rest)
  else if 0xDC00 ≤ n then none
  else match rest with
    | '\\' :: 'u' :: rest =>
      let (low, rest) ← readUnit? rest
      if 0xDC00 ≤ low && low < 0xE000 then
        some (Char.ofNat (0x10000 + (n - 0xD800) * 0x400 + (low - 0xDC00)), rest)
      else none
    | _ => none

def readChars? : Nat → List Char → Option (List Char × List Char)
  | 0, _ => none
  | _ + 1, [] => none
  | fuel + 1, c :: rest =>
    if c = '"' then some ([], rest)
    else if c.toNat < 0x20 then none
    else if c = '\\' then
      match rest with
      | 'u' :: rest => do
        let (decoded, rest) ← readUnicode? rest
        let (more, rest) ← readChars? fuel rest
        some (decoded :: more, rest)
      | e :: rest => do
        let decoded ← shortEscape? e
        let (more, rest) ← readChars? fuel rest
        some (decoded :: more, rest)
      | [] => none
    else do
      let (more, rest) ← readChars? fuel rest
      some (c :: more, rest)

def readString? (s : List Char) : Option (String × List Char) :=
  (readChars? (s.length + 1) s).map fun (cs, rest) => (String.ofList cs, rest)

mutual
/-- A value whose first character is at hand; `depth` containers may still be opened. -/
def readValue? : Nat → Nat → List Char → Option (Json × List Char)
  | 0, _, _ => none
  | fuel + 1, depth, s =>
    match s with
    | 'n' :: 'u' :: 'l' :: 'l' :: rest => some (.null, rest)
    | 't' :: 'r' :: 'u' :: 'e' :: rest => some (.bool true, rest)
    | 'f' :: 'a' :: 'l' :: 's' :: 'e' :: rest => some (.bool false, rest)
    | '"' :: rest => (readString? rest).map fun (t, rest) => (.str t, rest)
    | '[' :: rest =>
      match depth with
      | 0 => none
      | depth + 1 =>
        match skipSpace rest with
        | ']' :: rest => some (.arr [], rest)
        | rest => (readItems? fuel depth rest).map fun (items, rest) => (.arr items, rest)
    | '\x7b' :: rest =>
      match depth with
      | 0 => none
      | depth + 1 =>
        match skipSpace rest with
        | '\x7d' :: rest => some (.obj [], rest)
        | rest => (readFields? fuel depth rest).map fun (fields, rest) => (.obj fields, rest)
    | s => (readNumber? s).map fun (n, rest) => (.num n, rest)
def readItems? : Nat → Nat → List Char → Option (List Json × List Char)
  | 0, _, _ => none
  | fuel + 1, depth, s => do
    let (item, rest) ← readValue? fuel depth s
    match skipSpace rest with
    | ']' :: rest => some ([item], rest)
    | ',' :: rest =>
      let (items, rest) ← readItems? fuel depth (skipSpace rest)
      some (item :: items, rest)
    | _ => none
def readFields? : Nat → Nat → List Char → Option (List (String × Json) × List Char)
  | 0, _, _ => none
  | fuel + 1, depth, s =>
    match s with
    | '"' :: rest => do
      let (key, rest) ← readString? rest
      match skipSpace rest with
      | ':' :: rest =>
        let (value, rest) ← readValue? fuel depth (skipSpace rest)
        match skipSpace rest with
        | '\x7d' :: rest => some ([(key, value)], rest)
        | ',' :: rest =>
          let (fields, rest) ← readFields? fuel depth (skipSpace rest)
          some ((key, value) :: fields, rest)
        | _ => none
      | _ => none
    | _ => none
end

def maxDepth : Nat := 127

def readEntriesWithin? (depth : Nat) (s : List Char) : Option Json :=
  match readValue? (2 * s.length + 2) depth (skipSpace s) with
  | some (v, rest) => if (skipSpace rest).isEmpty then some v else none
  | none => none

def readEntries? (s : List Char) : Option Json := readEntriesWithin? maxDepth s

def read? (s : String) : Option Json := (readEntries? s.toList).map normalize

end CloudClient.Json
