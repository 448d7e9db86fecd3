import CloudClient.Unicode.Direction
import CloudClient.Unicode.Joining
import CloudClient.Url.Domain.Mapping
import CloudClient.Url.Punycode

/-!
# Domain names

A domain name is brought to ASCII label by label. Its characters take their one spelling, labels
that are already encoded are decoded, every label is checked, and those that go beyond ASCII are
encoded. A name in plain ASCII only loses its capitals.
-/

namespace CloudClient.Domain

def isForbidden (c : Char) : Bool :=
  c.toNat ≤ 0x20 || c.toNat == 0x7F ||
    ['%', '#', '/', ':', '<', '>', '?', '@', '[', '\\', ']', '^', '|'].contains c

def isAllowed (c : Char) : Bool :=
  if Unicode.isAscii c then !isForbidden c
  else !(banned.contains c || Unicode.unassigned.contains c)

def encodedMark : List Char := ['x', 'n', '-', '-']

def isEncoded (label : List Char) : Bool := encodedMark.isPrefixOf label

/-- The longest code that is decoded, and the longest label that is encoded. -/
def maxCode : Nat := 2000
def maxLabel : Nat := 1000

/-- The text of an encoded label. It goes beyond ASCII, is spelled as it has to be, and is not
itself an encoded label. -/
def decodedLabel? (label : List Char) : Option (List Char) := do
  let code := label.drop encodedMark.length
  if maxCode < code.length then none else
  let text ← Punycode.decode? code
  if text.all Unicode.isAscii || isEncoded text || spelled text != text then none else some text

def readLabel? (label : List Char) : Option (List Char) :=
  if isEncoded label then decodedLabel? label else some label

def isValidLabel (label : List Char) : Bool :=
  !(label.head?.map Unicode.isMark).getD false && label.all isAllowed &&
    Unicode.joinersFit [] label

def isRightToLeft (label : List Char) : Bool :=
  label.any fun c => (Unicode.direction c).isRightToLeft

def encodedLabel? (label : List Char) : Option (List Char) :=
  if label.all Unicode.isAscii then some label
  else if maxLabel < label.length then none
  else some (encodedMark ++ Punycode.encode label)

def isPlain (name : List Char) : Bool :=
  name.all Unicode.isAscii && !(Text.splitOn '.' (name.map Char.toLower)).any isEncoded

def joinLabels (labels : List (List Char)) : List Char := ['.'].intercalate labels

def ascii? (name : List Char) : Option (List Char) := do
  if isPlain name then
    if name.any isForbidden then none else some (name.map Char.toLower)
  else
    let labels ← (Text.splitOn '.' (spelled name)).mapM readLabel?
    if !labels.all isValidLabel then none
    else if labels.any isRightToLeft && !labels.all Unicode.isDirected then none
    else (labels.mapM encodedLabel?).map joinLabels

end CloudClient.Domain
