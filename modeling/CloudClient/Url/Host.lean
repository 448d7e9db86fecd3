import CloudClient.Percent
import CloudClient.Url.Domain

/-!
# Hosts of URLs

A host is a domain name in ASCII, an address, or the uninterpreted host of a scheme that is not
one of the web's. Domain names are percent-decoded before they are brought to ASCII, and a name
whose last label is a number has to be an address.
-/

namespace CloudClient

inductive UrlError
  | relativeWithoutBase | emptyHost | invalidPort | invalidIpv4 | invalidIpv6 | invalidDomain
  | invalidHostCharacter
deriving DecidableEq, Repr

def UrlError.message : UrlError → String
  | .relativeWithoutBase => "relative URL without a base"
  | .emptyHost => "empty host"
  | .invalidPort => "invalid port number"
  | .invalidIpv4 => "invalid IPv4 address"
  | .invalidIpv6 => "invalid IPv6 address"
  | .invalidDomain => "invalid international domain name"
  | .invalidHostCharacter => "invalid domain character"

inductive Host
  | domain (name : List Char)
  | ipv4 (address : Nat)
  | ipv6 (pieces : List Nat)
  | named (name : List Char)
deriving DecidableEq, Repr

namespace Host

/-! ## Addresses of four octets -/

def ipv4Number? (s : List Char) : Option Nat :=
  match s with
  | '0' :: x :: digits =>
    if x = 'x' || x = 'X' then (if digits.isEmpty then some 0 else Text.radix? 16 digits)
    else Text.radix? 8 (x :: digits)
  | digits => Text.decimal? digits

def ipv4Parts (s : List Char) : List (List Char) :=
  let parts := Text.splitOn '.' s
  if parts.length > 1 && parts.getLast? == some [] then parts.dropLast else parts

def endsInNumber (s : List Char) : Bool :=
  match (ipv4Parts s).getLast? with
  | some last => !last.isEmpty && (last.all Char.isDigit || (ipv4Number? last).isSome)
  | none => false

def ipv4? (s : List Char) : Option Nat := do
  let numbers ← (ipv4Parts s).mapM ipv4Number?
  let last ← numbers.getLast?
  let leading := numbers.dropLast
  if numbers.length > 4 || leading.any (· > 255) ||
      last ≥ Nat.pow 256 (5 - numbers.length) then none
  else some (leading.zipIdx.foldl (fun n (octet, i) => n + octet * Nat.pow 256 (3 - i)) last)

def ipv4Text (n : Nat) : List Char :=
  Nat.toDigits 10 (n / 16777216) ++ '.' :: (Nat.toDigits 10 (n / 65536 % 256) ++
    '.' :: (Nat.toDigits 10 (n / 256 % 256) ++ '.' :: Nat.toDigits 10 (n % 256)))

/-! ## Addresses of eight pieces -/

def ipv6Group? (s : List Char) : Option Nat :=
  if s.length ≤ 4 then Text.radix? 16 s else none

/-- One octet of the dotted end of an address: no leading zero. -/
def dottedOctet? (s : List Char) : Option Nat :=
  match s with
  | '0' :: _ :: _ => none
  | digits => (Text.decimal? digits).filter (· ≤ 255)

def dottedPieces? (s : List Char) : Option (List Nat) := do
  match ← (Text.splitOn '.' s).mapM dottedOctet? with
  | [a, b, c, d] => some [a * 256 + b, c * 256 + d]
  | _ => none

/-- The pieces between colons; the last group may be dotted. -/
def ipv6Pieces? : List (List Char) → Option (List Nat)
  | [] => some []
  | [last] => if last.contains '.' then dottedPieces? last else (ipv6Group? last).map fun n => [n]
  | group :: rest => do
    let n ← ipv6Group? group
    let ns ← ipv6Pieces? rest
    some (n :: ns)

def groupsOf (s : List Char) : List (List Char) := if s.isEmpty then [] else Text.splitOn ':' s

def splitDoubleColon? : List Char → Option (List Char × List Char)
  | ':' :: ':' :: rest => some ([], rest)
  | c :: rest => (splitDoubleColon? rest).map fun (before, after) => (c :: before, after)
  | [] => none

def ipv6? (s : List Char) : Option (List Nat) :=
  match splitDoubleColon? s with
  | none => do
    let pieces ← ipv6Pieces? (groupsOf s)
    if pieces.length = 8 then some pieces else none
  | some (before, after) => do
    if before.contains '.' then none else
    let left ← ipv6Pieces? (groupsOf before)
    let right ← ipv6Pieces? (groupsOf after)
    if left.length + right.length ≤ 7 then
      some (left ++ List.replicate (8 - left.length - right.length) 0 ++ right)
    else none

def zeroRun (pieces : List Nat) : Nat := (pieces.takeWhile (· == 0)).length

/-- Where the first of the longest runs of at least two zeros starts, and its length. -/
def longestRun (pieces : List Nat) : Option (Nat × Nat) :=
  (List.range pieces.length).foldl (fun best i =>
    let length := zeroRun (pieces.drop i)
    if 2 ≤ length && ((best.map Prod.snd).getD 0) < length then some (i, length) else best) none

def piecesText (pieces : List Nat) : List Char :=
  [':'].intercalate (pieces.map (Nat.toDigits 16))

def ipv6Text (pieces : List Nat) : List Char :=
  let inner := match longestRun pieces with
    | none => piecesText pieces
    | some (i, length) =>
      piecesText (pieces.take i) ++ ':' :: ':' :: piecesText (pieces.drop (i + length))
  '[' :: (inner ++ [']'])

/-! ## Names -/

/-- Characters that an uninterpreted host may not hold; a percent sign is allowed there. -/
def isForbiddenName (c : Char) : Bool :=
  [0, 9, 10, 13, 32].contains c.toNat ||
    ['#', '/', ':', '<', '>', '?', '@', '[', '\\', ']', '^', '|'].contains c

def domainText? (s : List Char) : Option (List Char) :=
  (Utf8.decode? (Percent.decodeOctets s)).bind fun name => Domain.ascii? name.toList

def bracketed? (s : List Char) : Option (List Char) :=
  match s with
  | '[' :: inner => if inner.getLast? = some ']' then some inner.dropLast else none
  | _ => none

def ofBrackets (s : List Char) : Except UrlError Host :=
  match (bracketed? s).bind ipv6? with
  | some pieces => .ok (.ipv6 pieces)
  | none => .error .invalidIpv6

def parse (s : List Char) : Except UrlError Host :=
  if s.head? = some '[' then ofBrackets s
  else match domainText? s with
    | none => .error .invalidDomain
    | some [] => .error .emptyHost
    | some name =>
      if endsInNumber name then
        match ipv4? name with
        | some n => .ok (.ipv4 n)
        | none => .error .invalidIpv4
      else .ok (.domain name)

def isControl (c : Char) : Bool := Text.isControl c || 0x80 ≤ c.toNat

def parseNamed (s : List Char) : Except UrlError Host :=
  if s.head? = some '[' then ofBrackets s
  else if s.any isForbiddenName then .error .invalidHostCharacter
  else .ok (.named (Percent.encode isControl s))

def text : Host → List Char
  | .domain name | .named name => name
  | .ipv4 n => ipv4Text n
  | .ipv6 pieces => ipv6Text pieces

end Host
end CloudClient
