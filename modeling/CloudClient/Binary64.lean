import CloudClient.Text

/-!
# Finite binary64 numbers

A value is a sign, a significand below 2 ^ 53 and a power of two not below -1074. Products and
quotients are formed as exact fractions and rounded once, to nearest with ties to even, so the
rounding of every operation is `ofRatio`.

A decimal is read in two roundings: the leading digits that fit 64 bits become a binary64, which
is then multiplied or divided by a rounded power of ten. The last bit may therefore differ from
that of the nearest value.
-/

namespace CloudClient

structure Binary64 where
  negative : Bool
  significand : Nat
  exponent : Int
deriving DecidableEq, Repr, Inhabited

namespace Binary64

def zero (negative : Bool) : Binary64 := ⟨negative, 0, -1074⟩

def isZero (x : Binary64) : Bool := x.significand == 0

/-- Numeric equality: both zeros are one value. -/
def same (x y : Binary64) : Bool := (x.isZero && y.isZero) || x == y

/-- The quotient rounded to nearest, ties to even. -/
def roundDiv (num den : Nat) : Nat :=
  let q := num / den
  let r := num % den
  if 2 * r < den then q
  else if den < 2 * r then q + 1
  else q + q % 2

def scaled (num den : Nat) (shift : Int) : Nat × Nat :=
  if 0 ≤ shift then (num * Nat.pow 2 shift.toNat, den) else (num, den * Nat.pow 2 (-shift).toNat)

def lastBit (num den : Nat) : Int :=
  let estimate : Int := (num.log2 : Int) - (den.log2 : Int)
  let (n, d) := scaled num den (-estimate)
  let leading := if n < d then estimate - 1 else estimate
  max (leading - 52) (-1074)

def ofRatio (negative : Bool) (num den : Nat) : Option Binary64 :=
  if num = 0 then some (zero negative) else
    let e := lastBit num den
    let (n, d) := scaled num den (-e)
    let m := roundDiv n d
    let (m, e) := if m = Nat.pow 2 53 then (Nat.pow 2 52, e + 1) else (m, e)
    if 971 < e then none else some ⟨negative, m, e⟩

def ofNat (n : Nat) : Option Binary64 := ofRatio false n 1

def ratio (x : Binary64) : Nat × Nat := scaled x.significand 1 x.exponent

def mul (x y : Binary64) : Option Binary64 :=
  let (a, b) := x.ratio
  let (c, d) := y.ratio
  ofRatio (x.negative != y.negative) (a * c) (b * d)

def div (x y : Binary64) : Option Binary64 :=
  let (a, b) := x.ratio
  let (c, d) := y.ratio
  ofRatio (x.negative != y.negative) (a * d) (b * c)

def powerOfTen (k : Nat) : Option Binary64 := ofNat (Nat.pow 10 k)

/-- Division by `1e308` until the decimal exponent is within the table of powers. -/
def scaleDown : Nat → Binary64 → Nat → Option Binary64
  | 0, x, _ => some (zero x.negative)
  | fuel + 1, x, k =>
    if k ≤ 308 then do div x (← powerOfTen k)
    else if x.isZero then some x
    else do
      let smaller ← div x (← powerOfTen 308)
      scaleDown fuel smaller (k - 308)

/-- `significand · 10 ^ exponent`, the significand rounded before it is scaled. -/
def ofDecimal (negative : Bool) (significand : Nat) (exponent : Int) : Option Binary64 := do
  let x ← ofNat significand
  let y ←
    if 0 ≤ exponent then
      if exponent ≤ 308 then mul x (← powerOfTen exponent.toNat)
      else if x.isZero then some x
      else none
    else scaleDown 8 x (-exponent).toNat
  some { y with negative := negative }

end Binary64
end CloudClient
