import CloudClient.Text

/-!
# Tables of code points

A property of characters is written as a text of words in hexadecimal. In a set each word is a code
point or a range, as in `5F 61-7A`. In a map a word also names the image: of one code point, which
may be several, as in `DF>73.73`; of a range that is shifted as a whole, as in `41-5A>61`; or of
every second code point of a range, as in `100-12E/2>101`.
-/

namespace CloudClient.Unicode

def words (s : String) : List (List Char) :=
  let (done, last) := s.toList.foldl (fun (done, word) c =>
    if c = ' ' || c = '\n' then (if word.isEmpty then (done, []) else (word.reverse :: done, []))
    else (done, c :: word)) (([] : List (List Char)), ([] : List Char))
  (if last.isEmpty then done else last.reverse :: done).reverse

def number? (s : List Char) : Option Nat := Text.radix? 16 s

def range? (word : List Char) : Option (Nat × Nat) :=
  match Text.splitOnce? '-' word with
  | none => (number? word).map fun n => (n, n)
  | some (first, last) => do some (← number? first, ← number? last)

structure CodeSet where
  ranges : List (Nat × Nat)
deriving Inhabited, Repr

def CodeSet.ofText (s : String) : CodeSet := ⟨(words s).filterMap range?⟩

def CodeSet.contains (s : CodeSet) (c : Char) : Bool :=
  s.ranges.any fun (first, last) => first ≤ c.toNat && c.toNat ≤ last

/-- Code points from `first` to `last` in steps, with an image that is shifted along with them. -/
structure MapRow where
  first : Nat
  last : Nat
  step : Nat
  image : List Nat
deriving Inhabited, Repr

def MapRow.image? (row : MapRow) (n : Nat) : Option (List Nat) :=
  if row.first ≤ n && n ≤ row.last && (n - row.first) % row.step == 0 then
    some (row.image.map fun m => m + (n - row.first))
  else none

def mapRow? (word : List Char) : Option MapRow := do
  let (source, target) ← Text.splitOnce? '>' word
  let (source, step) ← match Text.splitOnce? '/' source with
    | none => some (source, 1)
    | some (source, step) => (number? step).map fun n => (source, n)
  let (first, last) ← range? source
  let image ← (Text.splitOn '.' target).mapM number?
  some { first, last, step, image }

structure CodeMap where
  rows : List MapRow
deriving Inhabited, Repr

def CodeMap.ofText (s : String) : CodeMap := ⟨(words s).filterMap mapRow?⟩

def CodeMap.get? (m : CodeMap) (c : Char) : Option (List Char) :=
  (m.rows.findSome? fun row => row.image? c.toNat).map (·.map Char.ofNat)

def CodeMap.ofPair? (m : CodeMap) (a b : Char) : Option Char :=
  (m.rows.find? fun row => row.image == [a.toNat, b.toNat]).map fun row => Char.ofNat row.first

def isAscii (c : Char) : Bool := c.toNat < 128

end CloudClient.Unicode
