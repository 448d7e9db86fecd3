import CloudClient.Json.Reader

/-!
# Parts of a JSON text

The outermost container of a text is taken apart into the texts of its values, which are passed over
by their grammar alone. So a value that nobody reads may nest as deep as it likes, hold numbers
beyond binary64, and escape surrogates that have no partner.
-/

namespace CloudClient.Json

def skipString? : List Char → Option (List Char)
  | [] => none
  | '"' :: rest => some rest
  | '\\' :: 'u' :: a :: b :: c :: d :: rest =>
    if [a, b, c, d].all fun x => (Text.hexValue? x).isSome then skipString? rest else none
  | '\\' :: e :: rest => if (shortEscape? e).isSome then skipString? rest else none
  | c :: rest => if c.toNat < 0x20 || c = '\\' then none else skipString? rest

def skipScalar? (s : List Char) : Option (List Char) :=
  match s with
  | 'n' :: 'u' :: 'l' :: 'l' :: rest => some rest
  | 't' :: 'r' :: 'u' :: 'e' :: rest => some rest
  | 'f' :: 'a' :: 'l' :: 's' :: 'e' :: rest => some rest
  | '"' :: rest => skipString? rest
  | s => (readNumeral? s).map Prod.snd

inductive Bracket
  | array | object
deriving DecidableEq, Repr

def skipKey? (s : List Char) : Option (List Char) :=
  match s with
  | '"' :: rest => do
    match skipSpace (← skipString? rest) with
    | ':' :: rest => some (skipSpace rest)
    | _ => none
  | _ => none

/-- The text after a value or after the containers around it. A value is due at the start or, when
one is behind, a separator or the end of the innermost container. -/
def skipWithin? : Nat → Bool → List Bracket → List Char → Option (List Char)
  | 0, _, _, _ => none
  | _ + 1, false, [], s => some s
  | fuel + 1, false, bracket :: outer, s =>
    match bracket, skipSpace s with
    | .array, ']' :: rest => skipWithin? fuel false outer rest
    | .array, ',' :: rest => skipWithin? fuel true (.array :: outer) (skipSpace rest)
    | .object, '\x7d' :: rest => skipWithin? fuel false outer rest
    | .object, ',' :: rest =>
      (skipKey? (skipSpace rest)).bind (skipWithin? fuel true (.object :: outer))
    | _, _ => none
  | fuel + 1, true, outer, s =>
    match s with
    | '[' :: rest =>
      match skipSpace rest with
      | ']' :: rest => skipWithin? fuel false outer rest
      | rest => skipWithin? fuel true (.array :: outer) rest
    | '\x7b' :: rest =>
      match skipSpace rest with
      | '\x7d' :: rest => skipWithin? fuel false outer rest
      | rest => (skipKey? rest).bind (skipWithin? fuel true (.object :: outer))
    | s => (skipScalar? s).bind (skipWithin? fuel false outer)

def splitValue? (s : List Char) : Option (List Char × List Char) :=
  (skipWithin? (2 * s.length + 2) true [] s).map fun rest =>
    (s.take (s.length - rest.length), rest)

inductive Parts
  | members (entries : List (String × List Char))
  | items (texts : List (List Char))
  | scalar (v : Json)

def readItemTexts? : Nat → List Char → Option (List (List Char))
  | 0, _ => none
  | fuel + 1, s => do
    let (text, rest) ← splitValue? s
    match skipSpace rest with
    | ',' :: rest => (readItemTexts? fuel (skipSpace rest)).map (text :: ·)
    | _ => some [text]

def readMemberTexts? : Nat → List Char → Option (List (String × List Char))
  | 0, _ => none
  | fuel + 1, s =>
    match s with
    | '"' :: rest => do
      let (key, rest) ← readString? rest
      let (text, rest) ← splitValue? (skipSpace ((skipSpace rest).drop 1))
      match skipSpace rest with
      | ',' :: rest => (readMemberTexts? fuel (skipSpace rest)).map ((key, text) :: ·)
      | _ => some [(key, text)]
    | _ => none

def parts? (s : List Char) : Option Parts :=
  match s with
  | '[' :: rest =>
    match skipSpace rest with
    | ']' :: _ => some (.items [])
    | rest => (readItemTexts? (rest.length + 1) rest).map .items
  | '\x7b' :: rest =>
    match skipSpace rest with
    | '\x7d' :: _ => some (.members [])
    | rest => (readMemberTexts? (rest.length + 1) rest).map .members
  | s => (readEntriesWithin? 0 s).map .scalar

def Parts.slots? (names : List String) : Parts → Option (List (Option (List Char)))
  | .members entries => fieldSlots? names entries
  | .items texts => itemSlots? names texts
  | .scalar _ => none

def valueText? (s : List Char) : Option (List Char) :=
  match splitValue? (skipSpace s) with
  | some (text, rest) => if (skipSpace rest).isEmpty then some text else none
  | none => none

def scalar? (s : List Char) : Option Json :=
  match parts? s with
  | some (.scalar v) => some v
  | _ => none

end CloudClient.Json
