import CloudClient.Percent
import CloudClient.Yaml.Token.Scalar

/-!
# Names of nodes and types

An anchor names a node and an alias stands for it. A tag names the type of a node, in full or by a
handle that stands for the start of the name. Directives before a document give its version and
its handles.
-/

namespace CloudClient.Yaml

def isNameChar (c : Char) : Bool := c.isAlphanum || c = '_' || c = '-'

def readName? (s : Source) : Option (List Char × Source) :=
  let name := s.rest.takeWhile isNameChar
  let s := s.advance name.length
  let ends := s.rest.isEmpty || s.isAt fun c =>
    isGap c || ['?', ':', ',', ']', '\x7d', '%', '@', '\x60'].contains c
  if name.isEmpty || !ends then none else some (name, s)

def isTagChar (inFull : Bool) (c : Char) : Bool :=
  isNameChar c ||
    [';', '/', '?', ':', '@', '&', '=', '+', '$', '.', '%', '!', '~', '*', '\'', '(',
      ')'].contains c ||
    (inFull && [',', '[', ']'].contains c)

/-- The number of octets after the first one of a character, told by that one alone. -/
def owedOctets? (first : Nat) : Option Nat :=
  if first < 0x80 then some 0
  else if first < 0xC0 then none
  else if first < 0xE0 then some 1
  else if first < 0xF0 then some 2
  else if first < 0xF8 then some 3
  else none

/-- Whether every percent sign starts an escape, and the escapes of a character stand together;
`owed` of them are still to come. -/
def escapesFit (owed : Nat) : List Char → Bool
  | '%' :: a :: b :: rest =>
    match Text.hexValue? a, Text.hexValue? b with
    | some x, some y =>
      match owed with
      | 0 => (owedOctets? (16 * x + y)).any fun n => escapesFit n rest
      | n + 1 => x / 4 == 2 && escapesFit n rest
    | _, _ => false
  | '%' :: _ => false
  | _ :: rest => owed == 0 && escapesFit 0 rest
  | [] => owed == 0

def readTagText? (inFull : Bool) (s : Source) : Option (List Char × Source) :=
  let text := s.rest.takeWhile (isTagChar inFull)
  if escapesFit 0 text then
    some ((Utf8.decodeLossy (Percent.decodeOctets text)).toList, s.advance text.length)
  else none

/-- A handle: an exclamation mark, or two with a name between them; a name without the second mark
is not known to be one yet. -/
def readHandle? (s : Source) : Option (List Char × Source) :=
  match s.rest with
  | '!' :: rest =>
    let name := rest.takeWhile isNameChar
    let handle := '!' :: name ++ ((rest.drop name.length).takeWhile (· = '!')).take 1
    some (handle, s.advance handle.length)
  | _ => none

def isClosedHandle (handle : List Char) : Bool :=
  2 ≤ handle.length && handle.getLast? = some '!'

def readTagBody? (s : Source) : Option ((List Char × List Char) × Source) :=
  match s.rest with
  | '!' :: '<' :: _ => do
    let (suffix, s) ← readTagText? true (s.advance 2)
    if suffix.isEmpty || !s.isAt (· = '>') then none else some (([], suffix), s.advance 1)
  | _ => do
    let (handle, s) ← readHandle? s
    if isClosedHandle handle then
      let (suffix, s) ← readTagText? false s
      if suffix.isEmpty then none else some ((handle, suffix), s)
    else
      let (more, s) ← readTagText? false s
      let suffix := handle.tail ++ more
      some (if suffix.isEmpty then ([], ['!']) else (['!'], suffix), s)

def readTag? (inFlow : Bool) (s : Source) : Option ((List Char × List Char) × Source) := do
  let (tag, s) ← readTagBody? s
  if s.rest.isEmpty || s.isAt isGap || (inFlow && s.isAt (· = ',')) then some (tag, s) else none

/-! ## Directives -/

def readVersionNumber? (s : Source) : Option (Nat × Source) :=
  let digits := s.rest.takeWhile Char.isDigit
  if digits.isEmpty || 9 < digits.length then none
  else some (Text.decimalValue digits, s.advance digits.length)

def readVersion? (s : Source) : Option (Token × Source) := do
  let (major, s) ← readVersionNumber? (s.skip isBlank)
  if !s.isAt (· = '.') then none else
  let (minor, s) ← readVersionNumber? (s.advance 1)
  some (.version major minor, s)

def readShorthand? (s : Source) : Option (Token × Source) := do
  let (handle, s) ← readHandle? (s.skip isBlank)
  if !(handle = ['!'] || isClosedHandle handle) || !s.isAt isBlank then none else
  let (expansion, s) ← readTagText? true (s.skip isBlank)
  if expansion.isEmpty || !(s.rest.isEmpty || s.isAt isGap) then none
  else some (.shorthand handle expansion, s)

def readDirective? (s : Source) : Option (Token × Source) := do
  let name := s.rest.takeWhile isNameChar
  let s := s.advance name.length
  if !(s.rest.isEmpty || s.isAt isGap) then none else
  let (token, s) ← match String.ofList name with
    | "YAML" => readVersion? s
    | "TAG" => readShorthand? s
    | _ => none
  some (token, ← s.lineEnd?)

end CloudClient.Yaml
