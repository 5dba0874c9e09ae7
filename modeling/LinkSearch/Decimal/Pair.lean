import LinkSearch.Decimal.Binary64

/-!
# Numbers as pairs

The sum of two numbers of 64 bits, the second small beside the first, has about twice the digits of
one of them.  Pairs are multiplied by numbers of 64 bits alone: every sum and product on the way is
rounded.  The factors are cut in two before, so that the products of their parts are short enough to
be exact.
-/

namespace LinkSearch.Decimal

/-- The number that a magnitude is, unless it is too large. -/
def Magnitude.value? : Magnitude → Option Rat
  | .finite mantissa exponent =>
    let ratio := ratioOf mantissa exponent
    some (mkRat ratio.1 ratio.2)
  | .infinite => none

/-- The magnitude nearest to a number without its sign. -/
def nearestMagnitude (x : Rat) : Magnitude :=
  nearest x.num.natAbs x.den

/-- A number with the sign of another one. -/
def withSign (sign size : Rat) : Rat :=
  if sign < 0 then -size else size

/-- The number of the format nearest to a number, unless it is too large. -/
def rounded? (x : Rat) : Option Rat :=
  (nearestMagnitude x).value?.map (withSign x)

/-- How many binary digits the second part of a number has that is cut in two. -/
def cutDigits : Nat := 26

/-- A number of the format without the last digits of its mantissa. -/
def firstPart (x : Rat) : Rat :=
  match nearestMagnitude x with
  | .finite mantissa exponent =>
    let kept := mantissa / Nat.pow 2 cutDigits * Nat.pow 2 cutDigits
    withSign x (((Magnitude.finite kept exponent).value?).getD 0)
  | .infinite => x

/-- The sum of two numbers of the format, the second small beside the first. -/
structure Pair where
  high : Rat
  low : Rat
  deriving DecidableEq

namespace Pair

/-- The pair nearest to a number. -/
def ofRat? (x : Rat) : Option Pair := do
  let high ← rounded? x
  return ⟨high, ← rounded? (x - high)⟩

/-- The sum of two numbers as a pair. -/
def ofSum? (x y : Rat) : Option Pair := do
  let high ← rounded? (x + y)
  return ⟨high, ← rounded? ((← rounded? (x - high)) + y)⟩

/-- A product as a number and what is missing to the product. -/
def product? (x y : Rat) : Option (Rat × Rat) := do
  let first := firstPart x
  let second := firstPart y
  let main ← rounded? (first * second)
  let mixed ← rounded?
    ((← rounded? (first * (y - second))) + (← rounded? ((x - first) * second)))
  let high ← rounded? (main + mixed)
  let missing ← rounded? ((← rounded? (main - high)) + mixed)
  return (high, ← rounded? (missing + (← rounded? ((x - first) * (y - second)))))

/-- The product of two pairs without that of their low parts, unless it is too large. -/
def multiply? (x y : Pair) : Option Pair := do
  let (high, missing) ← product? x.high y.high
  let mixed ← rounded? ((← rounded? (x.high * y.low)) + (← rounded? (x.low * y.high)))
  ofSum? high (← rounded? (mixed + missing))

/-- A pair times ten to the power of an integer, which is made a pair itself. -/
def timesPower? (x : Pair) (exponent : Int) : Option Pair := do
  let power := Nat.pow 10 exponent.natAbs
  x.multiply? (← ofRat? (if exponent < 0 then mkRat 1 power else power))

end Pair

end LinkSearch.Decimal
