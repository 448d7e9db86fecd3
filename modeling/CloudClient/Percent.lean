import CloudClient.Text
import CloudClient.Utf8

/-!
# Percent encoding

A character of an encoding set is written as its UTF-8 octets, each as a percent sign and two
upper-case hexadecimal digits.
-/

namespace CloudClient.Percent

def octet (b : UInt8) : List Char :=
  ['%', Text.hexUpper (b.toNat / 16), Text.hexUpper (b.toNat % 16)]

def encodeChar (c : Char) : List Char := (Utf8.encode c).flatMap octet

def encode (inSet : Char → Bool) (s : List Char) : List Char :=
  s.flatMap fun c => if inSet c then encodeChar c else [c]

def isUnreserved (c : Char) : Bool :=
  c.isAlphanum || c = '-' || c = '_' || c = '.' || c = '~'

def encodeSegment (s : List Char) : List Char := encode (fun c => !isUnreserved c) s

/-- The octets of a text whose escapes are resolved; a percent sign without two hexadecimal digits
stands for itself. -/
def decodeOctets : List Char → List UInt8
  | '%' :: a :: b :: rest =>
    match Text.hexValue? a, Text.hexValue? b with
    | some x, some y => UInt8.ofNat (16 * x + y) :: decodeOctets rest
    | _, _ => Utf8.encode '%' ++ decodeOctets (a :: b :: rest)
  | c :: rest => Utf8.encode c ++ decodeOctets rest
  | [] => []
termination_by s => s.length

end CloudClient.Percent
