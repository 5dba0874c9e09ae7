import LinkSearch.Decimal.Pair
import LinkSearch.Text.Numeral

/-!
# Numerals of few digits

A numeral is read as a significand of less than 64 bits and a power of ten.  Digits that the
significand has no room for count as zeros.  The power of ten is multiplied in as pairs, in steps of
100, 10 and 1, so that the number read is very near to the numeral, but not always the nearest.
-/

namespace LinkSearch.Decimal

/-- A natural number times a power of ten: `digits * 10 ^ exponent`. -/
structure Significand where
  digits : Nat
  exponent : Int
  deriving DecidableEq

namespace Significand

/-- The least digits to which no further one is added. -/
def full : Nat := (Nat.pow 2 64 - 10) / 10

/-- A digit before the point is added. -/
def addWhole (x : Significand) (digit : Char) : Significand :=
  if full ≤ x.digits then ⟨x.digits, x.exponent + 1⟩
  else ⟨10 * x.digits + Text.decimal [digit], x.exponent⟩

/-- A digit after the point is added. -/
def addFraction (x : Significand) (digit : Char) : Significand :=
  if full ≤ x.digits then x
  else ⟨10 * x.digits + Text.decimal [digit], x.exponent - 1⟩

/-- The significand of the digits on both sides of a point. -/
def ofDigits (whole fraction : List Char) : Significand :=
  fraction.foldl addFraction (whole.foldl addWhole ⟨0, 0⟩)

/-- From here on an exponent that goes on counts as this one. -/
def greatExponent : Nat := 10000

def exponentOf (digits : List Char) : Nat :=
  digits.foldl (fun n digit =>
    if n < greatExponent then 10 * n + Text.decimal [digit] else greatExponent) 0

/-- The least digits that do not take up a zero from the exponent. -/
def fullOfZeros : Nat := (Nat.pow 2 64 - Nat.pow 2 11) / 10

/-- Zeros of a positive exponent taken up into the digits; the digits, and the exponent left. -/
def takeZeros (digits : Nat) : Nat → Nat × Nat
  | 0 => (digits, 0)
  | exponent + 1 =>
    if digits < fullOfZeros then takeZeros (10 * digits) exponent else (digits, exponent + 1)

/-- Zeros of the digits given up to a negative exponent; the digits, and the exponent left. -/
def dropZeros (digits : Nat) : Nat → Nat × Nat
  | 0 => (digits, 0)
  | exponent + 1 =>
    if digits % 10 = 0 then dropZeros (digits / 10) exponent else (digits, exponent + 1)

/-- The same number with an exponent as near to zero as the digits allow. -/
def settled (x : Significand) : Significand :=
  match x.exponent with
  | .ofNat n =>
    let (digits, exponent) := takeZeros x.digits n
    ⟨digits, exponent⟩
  | .negSucc n =>
    let (digits, exponent) := dropZeros x.digits (n + 1)
    ⟨digits, -exponent⟩

/-- The digits as a pair; nothing is added to a first number of more than 64 bits. -/
def start? (digits : Nat) : Option Pair := do
  let high ← rounded? digits
  return ⟨high, ← if high < Nat.pow 2 64 then rounded? (digits - high) else some 0⟩

/-- The steps in which a power of ten is multiplied in. -/
def steps (exponent : Int) : List Int :=
  let size := exponent.natAbs
  let sizes : List Int := List.replicate (size / 100) 100 ++ List.replicate (size % 100 / 10) 10 ++
    List.replicate (size % 10) 1
  sizes.map fun step => if exponent < 0 then -step else step

/-- The number read, unless it is too large. -/
def value? (x : Significand) : Option Rat := do
  if x.digits = 0 then return 0
  let x := x.settled
  if x.exponent = 0 then rounded? x.digits
  else
    let pair ← (steps x.exponent).foldlM Pair.timesPower? (← start? x.digits)
    rounded? (pair.high + pair.low)

def magnitude (x : Significand) : Magnitude :=
  (x.value?.map nearestMagnitude).getD .infinite

end Significand

end LinkSearch.Decimal
