/-!
# Binary floating point of 64 bits

A decimal numeral denotes the nearest number of this format, a half going to the even neighbour.  A
number is shown with the fewest decimal digits that denote it again, and of those the nearest to it.
All arithmetic is exact, on natural numbers.
-/

namespace LinkSearch.Decimal

/-- A number without its sign: `mantissa * 2 ^ exponent`, or a number that is too large. -/
inductive Magnitude where
  | finite (mantissa : Nat) (exponent : Int)
  | infinite
  deriving DecidableEq

/-- A number of the format. -/
inductive Binary64 where
  | signed (negative : Bool) (magnitude : Magnitude)
  | notANumber
  deriving DecidableEq

/-- The quotient rounded to the nearest natural number, a half going to the even one. -/
def divideRounding (numerator denominator : Nat) : Nat :=
  let quotient := numerator / denominator
  let doubled := 2 * (numerator % denominator)
  if doubled < denominator then quotient
  else if denominator < doubled then quotient + 1
  else if quotient % 2 = 0 then quotient
  else quotient + 1

/-- The positive ratio divided by a power of two, as a ratio. -/
def scaleDown (numerator denominator : Nat) (exponent : Int) : Nat × Nat :=
  match exponent with
  | .ofNat n => (numerator, denominator * Nat.pow 2 n)
  | .negSucc n => (numerator * Nat.pow 2 (n + 1), denominator)

/-- The least exponent of the format. -/
def leastExponent : Int := -1074

/-- The greatest exponent of the format, with a mantissa of 53 bits. -/
def greatestExponent : Int := 971

/-- The magnitude nearest to a ratio. -/
def nearest (numerator denominator : Nat) : Magnitude :=
  if numerator = 0 then .finite 0 leastExponent
  else
    let guess : Int := (Nat.log2 numerator : Int) - Nat.log2 denominator - 53
    let rounded (exponent : Int) : Nat :=
      let ratio := scaleDown numerator denominator exponent
      divideRounding ratio.1 ratio.2
    let fits := [guess, guess + 1, guess + 2].filter fun exponent =>
      leastExponent ≤ exponent && rounded exponent ≤ Nat.pow 2 53
    let exponent := fits.headD leastExponent
    let mantissa := rounded exponent
    let normal :=
      if mantissa = Nat.pow 2 53 then (Nat.pow 2 52, exponent + 1) else (mantissa, exponent)
    if greatestExponent < normal.2 then .infinite else .finite normal.1 normal.2

/-- The magnitude that the numeral `digits * 10 ^ exponent` denotes. -/
def ofDecimal (digits : Nat) (exponent : Int) : Magnitude :=
  let length : Int := (toString digits).length
  if digits = 0 || length + exponent < -330 then .finite 0 leastExponent
  else if 310 < length + exponent then .infinite
  else
    match exponent with
    | .ofNat n => nearest (digits * Nat.pow 10 n) 1
    | .negSucc n => nearest digits (Nat.pow 10 (n + 1))

/-- A ratio with a power of two in it: `mantissa * 2 ^ exponent`. -/
def ratioOf (mantissa : Nat) (exponent : Int) : Nat × Nat :=
  scaleDown mantissa 1 (-exponent)

/-- Whether the decimal `digits * 10 ^ exponent` denotes the magnitude. -/
def denotes (mantissa : Nat) (exponent : Int) (digits : Nat) (decimal : Int) : Bool :=
  ofDecimal digits decimal == .finite mantissa exponent

/-- The decimal exponent of the first digit of a positive ratio, plus one. -/
def decimalLength (numerator denominator : Nat) : Int :=
  let bits : Int := (Nat.log2 numerator : Int) - Nat.log2 denominator
  let guess := bits * 30103 / 100000
  let below (length : Int) : Bool :=
    match length with
    | .ofNat n => numerator < denominator * Nat.pow 10 n
    | .negSucc n => numerator * Nat.pow 10 (n + 1) < denominator
  ([guess - 1, guess, guess + 1, guess + 2].filter below).headD (guess + 3)

/--
The decimals with `count` digits on either side of a ratio, nearer first, with their exponent.
-/
def neighbours (numerator denominator count : Nat) : List Nat × Int :=
  let exponent := decimalLength numerator denominator - count
  let ratio : Nat × Nat :=
    match exponent with
    | .ofNat n => (numerator, denominator * Nat.pow 10 n)
    | .negSucc n => (numerator * Nat.pow 10 (n + 1), denominator)
  let below := ratio.1 / ratio.2
  let nearer := divideRounding ratio.1 ratio.2
  (if nearer = below then [below, below + 1] else [below + 1, below], exponent)

/-- The shortest decimal that denotes a positive magnitude: its digits and its exponent. -/
def shortest (mantissa : Nat) (exponent : Int) : Nat × Int :=
  let ratio := ratioOf mantissa exponent
  let hits := (List.range 17).filterMap fun count =>
    let candidates := neighbours ratio.1 ratio.2 (count + 1)
    (candidates.1.find? (denotes mantissa exponent · candidates.2)).map (·, candidates.2)
  hits.headD (0, 0)

/-- Digits and exponent in positional notation, with a digit on either side of the point. -/
def positional (digits : Nat) (exponent : Int) : String :=
  let shown := (toString digits).toList
  let zeros (n : Nat) : List Char := List.replicate n '0'
  String.ofList <|
    match exponent with
    | .ofNat n => shown ++ zeros n ++ ['.', '0']
    | .negSucc n =>
      let places := n + 1
      let padded := zeros (places + 1 - shown.length) ++ shown
      let whole := padded.length - places
      padded.take whole ++ '.' :: padded.drop whole

/-- Drops the zeros at the end of some digits, adding to the exponent. -/
def trimZeros (fuel : Nat) (digits : Nat) (exponent : Int) : Nat × Int :=
  match fuel with
  | 0 => (digits, exponent)
  | fuel + 1 =>
    if digits ≠ 0 ∧ digits % 10 = 0 then trimZeros fuel (digits / 10) (exponent + 1)
    else (digits, exponent)

/-- A number as messages show it. -/
def Binary64.text : Binary64 → String
  | .notANumber => "NaN"
  | .signed negative magnitude =>
    (if negative then "-" else "") ++
      match magnitude with
      | .infinite => "inf"
      | .finite 0 _ => "0.0"
      | .finite mantissa exponent =>
        let decimal := shortest mantissa exponent
        let trimmed := trimZeros 17 decimal.1 decimal.2
        positional trimmed.1 trimmed.2

end LinkSearch.Decimal
