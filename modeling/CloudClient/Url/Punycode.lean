import CloudClient.Text

/-!
# Punycode

The ASCII form of a host label: its basic characters, a hyphen, and the other characters in the
order of their code points, each as a variable-length number in base 36 whose digit thresholds
adapt to the numbers before. Decoding inserts the characters one by one; its numbers are of 32
bits.
-/

namespace CloudClient.Punycode

def digit (d : Nat) : Char := if d < 26 then Char.ofNat (97 + d) else Char.ofNat (22 + d)

def threshold (k bias : Nat) : Nat :=
  if k ≤ bias then 1 else if bias + 26 ≤ k then 26 else k - bias

theorem threshold_pos (k bias : Nat) : 1 ≤ threshold k bias := by
  unfold threshold
  repeat' split
  all_goals omega

def shrink (delta k : Nat) : Nat × Nat :=
  if 455 < delta then shrink (delta / 35) (k + 36) else (delta, k)
termination_by delta
decreasing_by exact Nat.div_lt_self (by omega) (by omega)

def adapt (delta points : Nat) (first : Bool) : Nat :=
  let scaled := if first then delta / 700 else delta / 2
  let (rest, k) := shrink (scaled + scaled / points) 0
  k + 36 * rest / (rest + 38)

def number (bias k q : Nat) : List Char :=
  let t := threshold k bias
  if q < t then [digit q]
  else digit (t + (q - t) % (36 - t)) :: number bias (k + 36) ((q - t) / (36 - t))
termination_by q
decreasing_by
  have := threshold_pos k bias
  exact Nat.lt_of_le_of_lt (Nat.div_le_self _ _) (by omega)

structure Progress where
  text : List Char
  delta : Nat
  bias : Nat
  written : Nat

/-- One pass over the label for the code point `m`. -/
def pass (basic m : Nat) (p : Progress) (c : Char) : Progress :=
  if c.toNat < m then { p with delta := p.delta + 1 }
  else if c.toNat = m then
    { text := p.text ++ number p.bias 36 p.delta
      delta := 0
      bias := adapt p.delta (p.written + 1) (p.written == basic)
      written := p.written + 1 }
  else p

def passes (label : List Char) (basic : Nat) : List Nat → Nat → Progress → Progress
  | [], _, p => p
  | m :: rest, n, p =>
    let ready := { p with delta := p.delta + (m - n) * (p.written + 1) }
    let done := label.foldl (pass basic m) ready
    passes label basic rest (m + 1) { done with delta := done.delta + 1 }

def insertPoint (n : Nat) : List Nat → List Nat
  | [] => [n]
  | m :: rest =>
    if n < m then n :: m :: rest else if n = m then m :: rest else m :: insertPoint n rest

def encode (label : List Char) : List Char :=
  let basic := label.filter fun c => c.toNat < 128
  let others := label.filter fun c => 128 ≤ c.toNat
  let points := others.foldl (fun ps c => insertPoint c.toNat ps) []
  let start := if basic.isEmpty then [] else basic ++ ['-']
  (passes label basic.length points 128 ⟨start, 0, 72, basic.length⟩).text

/-! ## Decoding -/

def digitValue? (c : Char) : Option Nat :=
  if 'a' ≤ c ∧ c ≤ 'z' then some (c.toNat - 97)
  else if c.isDigit then some (c.toNat - 22)
  else none

def isWord (n : Nat) : Bool := n < 4294967296

/-- The number that starts here, added to `value`, and the digits after it. -/
def readNumber? (bias : Nat) : Nat → Nat → Nat → List Char → Option (Nat × List Char)
  | _, _, _, [] => none
  | k, weight, value, c :: rest => do
    let d ← digitValue? c
    let sum := value + d * weight
    let t := threshold k bias
    if !isWord sum then none
    else if d < t then some (sum, rest)
    else if isWord (weight * (36 - t)) then readNumber? bias (k + 36) (weight * (36 - t)) sum rest
    else none

theorem length_lt_of_readNumber? {bias : Nat} {s : List Char} :
    ∀ {k weight value n : Nat} {rest : List Char},
      readNumber? bias k weight value s = some (n, rest) → rest.length < s.length := by
  induction s with
  | nil => intro k weight value n rest h; simp [readNumber?] at h
  | cons c s ih =>
    intro k weight value n rest h
    rw [readNumber?] at h
    cases hd : digitValue? c with
    | none => simp [hd] at h
    | some d =>
      simp only [hd, Option.bind_eq_bind, Option.bind_some] at h
      split at h
      · simp at h
      · split at h
        · simp only [Option.some.injEq, Prod.mk.injEq] at h
          simp [← h.2]
        · split at h
          · exact Nat.lt_succ_of_lt (ih h)
          · simp at h

def isScalar (n : Nat) : Bool := n < 0xD800 || (0xE000 ≤ n && n ≤ 0x10FFFF)

/-- The text so far, the code point and place of the last insertion, and the digits left. -/
def insertions? (point place bias : Nat) (text digits : List Char) : Option (List Char) :=
  if digits.isEmpty then some text
  else match _h : readNumber? bias 36 1 place digits with
    | none => none
    | some (n, rest) =>
      let points := text.length + 1
      let point' := point + n / points
      let at' := n % points
      if isScalar point' then
        insertions? point' (at' + 1) (adapt (n - place) points (place == 0))
          (text.take at' ++ Char.ofNat point' :: text.drop at') rest
      else none
termination_by digits.length
decreasing_by exact length_lt_of_readNumber? (by assumption)

/-- The label whose code this is: what stands before the last hyphen is basic. -/
def decode? (code : List Char) : Option (List Char) :=
  match Text.splitOnce? '-' code.reverse with
  | none => insertions? 128 0 72 [] code
  | some (digits, basic) =>
    if basic.all fun c => c.toNat < 128 then insertions? 128 0 72 basic.reverse digits.reverse
    else none

end CloudClient.Punycode
