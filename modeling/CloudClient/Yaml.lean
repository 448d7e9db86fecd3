import CloudClient.Yaml.Token.Scan

/-!
# YAML documents

A node is a scalar, a sequence or a mapping, in block or flow notation, or an alias of a node that
has a name, and is read from the tokens of a text. The named nodes are kept beside the tree, so an
alias may stand inside of the node that it means. A text holds at most one document.
-/

namespace CloudClient

inductive Yaml
  | scalar (style : Yaml.Style) (tag? : Option (List Char)) (text : List Char)
  | sequence (items : List Yaml)
  | mapping (entries : List (Yaml × Yaml))
  | alias (number : Nat)
deriving Inhabited, Repr

namespace Yaml

def empty : Yaml := .scalar .plain none []

/-- A node with a name. Its number is that of the different names before it, so numbers can meet
once a name has been given again; the later node has the number then. -/
structure Anchor where
  name : List Char
  number : Nat
  node : Yaml
deriving Inhabited, Repr

/-- The nodes that have names, the latest first, and the handles of tags with what they stand
for. -/
structure Names where
  anchors : List Anchor := []
  handles : List (List Char × List Char) := []
deriving Inhabited, Repr

namespace Names

def number? (names : Names) (name : List Char) : Option Nat :=
  (names.anchors.find? fun a => a.name == name).map Anchor.number

/-- With a name for a node that is still to be read. -/
def declare (names : Names) (name : List Char) : Names :=
  let number := (names.anchors.map Anchor.name).eraseDups.length
  { names with anchors := ⟨name, number, .empty⟩ :: names.anchors }

/-- Completes the anchor that was declared after `older` others. -/
def complete (names : Names) (older : Nat) (v : Yaml) : Names :=
  { names with
    anchors := names.anchors.modify (names.anchors.length - 1 - older) fun a =>
      { a with node := v } }

def tag? (names : Names) (handle suffix : List Char) : Option (List Char) :=
  if handle.isEmpty then some suffix
  else (names.handles.find? fun (h, _) => h == handle).map fun (_, expansion) =>
    expansion ++ suffix

end Names

structure Properties where
  anchor? : Option (List Char) := none
  tag? : Option (List Char × List Char) := none

def properties : List Token → Properties × List Token
  | .anchor a :: .tag h s :: rest | .tag h s :: .anchor a :: rest => (⟨some a, some (h, s)⟩, rest)
  | .anchor a :: rest => (⟨some a, none⟩, rest)
  | .tag h s :: rest => (⟨none, some (h, s)⟩, rest)
  | rest => ({}, rest)

/-- A single exclamation mark leaves a written scalar without a tag. -/
def scalarTag? (tag? : Option (List Char)) : Option (List Char) := tag?.filter (· != ['!'])

def startsWith (tokens marks : List Token) : Bool :=
  (tokens.head?.map marks.contains).getD false

mutual
/-- A node. Where block notation is allowed it may be a block, and after a key also a sequence whose
items are not indented. -/
def readNode? : Nat → Bool → Bool → Names → List Token → Option (Yaml × Names × List Token)
  | 0, _, _, _, _ => none
  | fuel + 1, inBlock, afterKey, names, tokens =>
    match tokens with
    | .alias name :: rest => (names.number? name).map fun n => (.alias n, names, rest)
    | tokens => do
      let (p, rest) := properties tokens
      let tag? ← match p.tag? with
        | none => some none
        | some (handle, suffix) => (names.tag? handle suffix).map some
      let inner := (p.anchor?.map names.declare).getD names
      let hasProperties := p.anchor?.isSome || p.tag?.isSome
      let (v, inner, rest) ← readContent? fuel inBlock afterKey hasProperties tag? inner rest
      some (v, if p.anchor?.isSome then inner.complete names.anchors.length v else inner, rest)
/-- A node after its properties, which may stand for an empty node. -/
def readContent? : Nat → Bool → Bool → Bool → Option (List Char) → Names → List Token →
    Option (Yaml × Names × List Token)
  | 0, _, _, _, _, _, _ => none
  | fuel + 1, inBlock, afterKey, hasProperties, tag?, names, tokens =>
    let absent := if hasProperties then some (.scalar .plain tag? [], names, tokens) else none
    match tokens with
    | .item :: _ =>
      if afterKey then
        (readLooseItems? fuel names tokens).map fun (items, names, rest) =>
          (.sequence items, names, rest)
      else absent
    | .scalar style text :: rest => some (.scalar style (scalarTag? tag?) text, names, rest)
    | .flowSequence :: rest =>
      (readFlowItems? fuel true names rest).map fun (items, names, rest) =>
        (.sequence items, names, rest)
    | .flowMapping :: rest =>
      (readFlowEntries? fuel true names rest).map fun (entries, names, rest) =>
        (.mapping entries, names, rest)
    | .blockSequence :: rest =>
      if inBlock then
        (readItems? fuel names rest).map fun (items, names, rest) => (.sequence items, names, rest)
      else absent
    | .blockMapping :: rest =>
      if inBlock then
        (readEntries? fuel names rest).map fun (entries, names, rest) =>
          (.mapping entries, names, rest)
      else absent
    | _ => absent
def readOptional? : Nat → Bool → Bool → List Token → Names → List Token →
    Option (Yaml × Names × List Token)
  | 0, _, _, _, _, _ => none
  | fuel + 1, inBlock, afterKey, marks, names, tokens =>
    if startsWith tokens marks then some (empty, names, tokens)
    else readNode? fuel inBlock afterKey names tokens
def readItems? : Nat → Names → List Token → Option (List Yaml × Names × List Token)
  | 0, _, _ => none
  | fuel + 1, names, tokens =>
    match tokens with
    | .item :: rest => do
      let (v, names, rest) ← readOptional? fuel true false [.item, .blockEnd] names rest
      let (more, names, rest) ← readItems? fuel names rest
      some (v :: more, names, rest)
    | .blockEnd :: rest => some ([], names, rest)
    | _ => none
/-- Items at the indentation of the key before them. -/
def readLooseItems? : Nat → Names → List Token → Option (List Yaml × Names × List Token)
  | 0, _, _ => none
  | fuel + 1, names, tokens =>
    match tokens with
    | .item :: rest => do
      let (v, names, rest) ←
        readOptional? fuel true false [.item, .key, .value, .blockEnd] names rest
      let (more, names, rest) ← readLooseItems? fuel names rest
      some (v :: more, names, rest)
    | tokens => some ([], names, tokens)
def readEntries? : Nat → Names → List Token → Option (List (Yaml × Yaml) × Names × List Token)
  | 0, _, _ => none
  | fuel + 1, names, tokens =>
    match tokens with
    | .key :: rest => do
      let marks := [.key, .value, .blockEnd]
      let (k, names, rest) ← readOptional? fuel true true marks names rest
      let (v, names, rest) ← match rest with
        | .value :: rest => readOptional? fuel true true marks names rest
        | rest => some (empty, names, rest)
      let (more, names, rest) ← readEntries? fuel names rest
      some ((k, v) :: more, names, rest)
    | .blockEnd :: rest => some ([], names, rest)
    | _ => none
/-- The items of a flow sequence up to its end. A separator stands between two items and may stand
after the last one; a pair is a mapping of one entry. -/
def readFlowItems? : Nat → Bool → Names → List Token → Option (List Yaml × Names × List Token)
  | 0, _, _, _ => none
  | fuel + 1, isFirst, names, tokens =>
    match isFirst, tokens with
    | _, .flowSequenceEnd :: rest => some ([], names, rest)
    | true, tokens | false, .separator :: tokens =>
      match tokens with
      | .flowSequenceEnd :: rest => some ([], names, rest)
      | .key :: rest => do
        let (pair, names, rest) ← readFlowPair? fuel names rest
        let (more, names, rest) ← readFlowItems? fuel false names rest
        some (.mapping [pair] :: more, names, rest)
      | tokens => do
        let (v, names, rest) ← readNode? fuel false false names tokens
        let (more, names, rest) ← readFlowItems? fuel false names rest
        some (v :: more, names, rest)
    | _, _ => none
/-- A pair of a flow sequence after the mark of its key. A mark in the place of the key is passed
over. -/
def readFlowPair? : Nat → Names → List Token → Option ((Yaml × Yaml) × Names × List Token)
  | 0, _, _ => none
  | fuel + 1, names, tokens => do
    let (k, names, rest) ←
      if startsWith tokens [.value, .separator, .flowSequenceEnd] then
        some (empty, names, tokens.tail)
      else readNode? fuel false false names tokens
    let (v, names, rest) ← match rest with
      | .value :: rest => readOptional? fuel false false [.separator, .flowSequenceEnd] names rest
      | rest => some (empty, names, rest)
    some ((k, v), names, rest)
/-- The entries of a flow mapping up to its end; a node that is no key has no value. -/
def readFlowEntries? : Nat → Bool → Names → List Token →
    Option (List (Yaml × Yaml) × Names × List Token)
  | 0, _, _, _ => none
  | fuel + 1, isFirst, names, tokens =>
    match isFirst, tokens with
    | _, .flowMappingEnd :: rest => some ([], names, rest)
    | true, tokens | false, .separator :: tokens =>
      match tokens with
      | .flowMappingEnd :: rest => some ([], names, rest)
      | .key :: rest => do
        let (k, names, rest) ←
          readOptional? fuel false false [.value, .separator, .flowMappingEnd] names rest
        let (v, names, rest) ← match rest with
          | .value :: rest =>
            readOptional? fuel false false [.separator, .flowMappingEnd] names rest
          | rest => some (empty, names, rest)
        let (more, names, rest) ← readFlowEntries? fuel false names rest
        some ((k, v) :: more, names, rest)
      | tokens => do
        let (k, names, rest) ← readNode? fuel false false names tokens
        let (more, names, rest) ← readFlowEntries? fuel false names rest
        some ((k, empty) :: more, names, rest)
    | _, _ => none
end

/-! ## Documents -/

def standardHandles : List (List Char × List Char) :=
  [(['!'], ['!']), (['!', '!'], "tag:yaml.org,2002:".toList)]

/-- The handles that the directives before a document declare, and the text from its start on. One
version, 1.1 or 1.2, may be named, and a handle only once. -/
def readDirectives? (hasVersion : Bool) (handles : List (List Char × List Char)) :
    List Token → Option (List (List Char × List Char) × List Token)
  | .version major minor :: rest =>
    if hasVersion || major != 1 || !(minor == 1 || minor == 2) then none
    else readDirectives? true handles rest
  | .shorthand handle expansion :: rest =>
    if handles.any fun (h, _) => h == handle then none
    else readDirectives? hasVersion (handles ++ [(handle, expansion)]) rest
  | .documentStart :: rest => some (handles, rest)
  | _ => none

def startsDocument : List Token → Bool
  | .version _ _ :: _ | .shorthand _ _ :: _ | .documentStart :: _ => true
  | _ => false

structure Document where
  root : Yaml
  anchors : List Anchor := []
deriving Inhabited, Repr

def Document.node (d : Document) : Yaml → Yaml
  | .alias n => ((d.anchors.find? fun a => a.number == n).map Anchor.node).getD empty
  | v => v

def readRoot? (fuel : Nat) (handles : List (List Char × List Char)) (tokens : List Token) :
    Option (Document × List Token) := do
  let (v, names, rest) ← readNode? fuel true false { handles } tokens
  some (⟨v, names.anchors⟩, rest)

def readOpened? (fuel : Nat) (tokens : List Token) : Option (Document × List Token) := do
  let (handles, rest) ← readDirectives? false [] tokens
  if rest.isEmpty || startsDocument rest || startsWith rest [.documentEnd] then
    some ({ root := empty }, rest)
  else readRoot? fuel (handles ++ standardHandles) rest

def readDocument? (fuel : Nat) (tokens : List Token) : Option (Document × List Token) :=
  if tokens.isEmpty then some ({ root := empty }, [])
  else if startsDocument tokens then readOpened? fuel tokens
  else readRoot? fuel standardHandles tokens

def ofTokens? (tokens : List Token) : Option Document := do
  let (d, rest) ← readDocument? (4 * tokens.length + 8) tokens
  if rest.all (· == .documentEnd) then some d else none

def isBanned (c : Char) : Bool :=
  let n := c.toNat
  (n < 0x20 && c != '\n' && c != '\t' && c != '\r') || n == 0x7F ||
    (0x80 ≤ n && n ≤ 0x9F && n != 0x85) || n == 0xFFFE || n == 0xFFFF

def parse? (s : String) : Option Document :=
  if s.toList.any isBanned then none else (tokens? s.toList).bind ofTokens?

end Yaml
end CloudClient
