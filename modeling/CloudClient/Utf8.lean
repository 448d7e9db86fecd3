/-!
# UTF-8

Octets are decoded by a machine that remembers how many continuation octets are owed and the range
that the next one must lie in. Where an octet cannot continue, the part read so far is malformed
and the octet is tried as the start of a new character. Lossy decoding writes U+FFFD for every
malformed part; strict decoding refuses the whole.
-/

namespace CloudClient.Utf8

def encode (c : Char) : List UInt8 := String.utf8EncodeChar c

structure Pending where
  owed : Nat
  value : Nat
  low : Nat
  high : Nat
deriving DecidableEq, Repr

inductive Outcome
  | char (c : Char)
  | more (p : Pending)
  | malformed
deriving DecidableEq, Repr

def start (b : Nat) : Outcome :=
  if b ≤ 0x7F then .char (Char.ofNat b)
  else if 0xC2 ≤ b ∧ b ≤ 0xDF then .more ⟨1, b - 0xC0, 0x80, 0xBF⟩
  else if b = 0xE0 then .more ⟨2, 0, 0xA0, 0xBF⟩
  else if b = 0xED then .more ⟨2, 0xD, 0x80, 0x9F⟩
  else if 0xE1 ≤ b ∧ b ≤ 0xEF then .more ⟨2, b - 0xE0, 0x80, 0xBF⟩
  else if b = 0xF0 then .more ⟨3, 0, 0x90, 0xBF⟩
  else if 0xF1 ≤ b ∧ b ≤ 0xF3 then .more ⟨3, b - 0xF0, 0x80, 0xBF⟩
  else if b = 0xF4 then .more ⟨3, 4, 0x80, 0x8F⟩
  else .malformed

def continued (p : Pending) (b : Nat) : Outcome :=
  if p.low ≤ b ∧ b ≤ p.high then
    let value := p.value * 64 + (b - 0x80)
    if p.owed ≤ 1 then .char (Char.ofNat value) else .more ⟨p.owed - 1, value, 0x80, 0xBF⟩
  else .malformed

/-- Characters read, in order; `none` stands for a malformed part. -/
def parts : Option Pending → List UInt8 → List (Option Char)
  | none, [] => []
  | some _, [] => [none]
  | state, b :: rest =>
    let again := match start b.toNat with
      | .char c => some c :: parts none rest
      | .more p => parts (some p) rest
      | .malformed => none :: parts none rest
    match state with
    | none => again
    | some p =>
      match continued p b.toNat with
      | .char c => some c :: parts none rest
      | .more q => parts (some q) rest
      | .malformed => none :: again

def decodeLossy (octets : List UInt8) : String :=
  String.ofList ((parts none octets).map fun part => part.getD '\ufffd')

def decode? (octets : List UInt8) : Option String := ((parts none octets).mapM id).map String.ofList

end CloudClient.Utf8
