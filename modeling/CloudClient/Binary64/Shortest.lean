import CloudClient.Binary64

/-!
# The shortest decimal of a binary64

Among the decimals that lie in the rounding interval of a value, the ones with the fewest digits
are those on the coarsest decimal grid that meets the interval; of two such neighbours the nearer
one is taken. The text is positional for decimal exponents from -5 to 15 and scientific beyond,
where the exponent carries its sign.
-/

namespace CloudClient.Binary64

structure Decimal where
  digits : Nat
  exponent : Int
deriving DecidableEq, Repr

/-- The bounds of the interval that rounds to a value, and the value between them, in units of a
quarter of its last bit. -/
structure Interval where
  low : Nat
  value : Nat
  high : Nat
  closed : Bool

def interval (x : Binary64) : Interval :=
  let m := x.significand
  let low := if m = Nat.pow 2 52 && -1074 < x.exponent then 4 * m - 1 else 4 * m - 2
  ⟨low, 4 * m, 4 * m + 2, m % 2 == 0⟩

def Interval.holds (i : Interval) (a b : Nat) : Bool :=
  if i.closed then i.low * b ≤ a && a ≤ i.high * b else i.low * b < a && a < i.high * b

/-- The better of the two neighbours of the value on the grid of `10 ^ k`. -/
def onGrid? (i : Interval) (unit k : Int) : Option Nat :=
  let tens := if 0 ≤ k then Nat.pow 10 k.toNat else 1
  let tenths := if 0 ≤ k then 1 else Nat.pow 10 (-k).toNat
  let twos := if 0 ≤ unit then Nat.pow 2 unit.toNat else 1
  let halves := if 0 ≤ unit then 1 else Nat.pow 2 (-unit).toNat
  let a := tens * halves
  let b := tenths * twos
  let below := i.value * b / a
  let above := below + 1
  let belowHits := below ≠ 0 && i.holds (below * a) b
  let aboveHits := i.holds (above * a) b
  if belowHits && aboveHits then
    let down := i.value * b - below * a
    let up := above * a - i.value * b
    some (if down < up then below else if up < down then above
      else if below % 2 = 0 then below else above)
  else if belowHits then some below
  else if aboveHits then some above
  else none

def search (i : Interval) (unit : Int) : Nat → Int → Decimal
  | 0, k => ⟨i.value, k⟩
  | fuel + 1, k =>
    match onGrid? i unit k with
    | some digits => ⟨digits, k⟩
    | none => search i unit fuel (k - 1)

def shortest (x : Binary64) : Decimal :=
  let i := interval x
  let unit := x.exponent - 2
  let bits : Int := (i.high.log2 : Int) + 1 + unit
  search i unit 24 (bits * 30103 / 100000 + 1)

def pointed (digits : List Char) (whole : Nat) : List Char :=
  digits.take whole ++ '.' :: digits.drop whole

def layout (digits : List Char) (exponent : Int) : List Char :=
  let length : Int := digits.length
  let leading := length - 1 + exponent
  if -5 ≤ leading && leading ≤ 15 then
    if 0 ≤ exponent then digits ++ List.replicate exponent.toNat '0' ++ ['.', '0']
    else if 0 ≤ leading then pointed digits (leading.toNat + 1)
    else ['0', '.'] ++ List.replicate (-leading - 1).toNat '0' ++ digits
  else
    let mantissa := if digits.length = 1 then digits else pointed digits 1
    let sign := if 0 ≤ leading then '+' else '-'
    mantissa ++ ['e', sign] ++ Nat.toDigits 10 leading.natAbs

def text (x : Binary64) : List Char :=
  let sign := if x.negative then ['-'] else []
  if x.isZero then sign ++ ['0', '.', '0']
  else
    let d := shortest x
    sign ++ layout (Nat.toDigits 10 d.digits) d.exponent

end CloudClient.Binary64
