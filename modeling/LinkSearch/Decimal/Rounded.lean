import LinkSearch.Decimal.Pair

/-!
# Numbers to fifteen digits

A number of 64 bits as a decimal of fifteen digits at most: rounded to them, without zeros at the
end, and with an exponent if it is very small or very large.  The digits are those of a pair that is
scaled to 18 or 19 digits, so that the last one shown is very nearly always the nearest.
-/

namespace LinkSearch.Decimal

def shownDigits : Nat := 15

/-- Digits, of which the first stands before the point, and an exponent of two digits at least. -/
def scientific (digits : Nat) (exponent : Int) : String :=
  let shown := (toString digits).toList
  let fraction := if shown.length < 2 then ['0'] else shown.tail
  let power := (toString exponent.natAbs).toList
  String.ofList <|
    shown.take 1 ++ '.' :: fraction ++ 'e' :: (if exponent < 0 then '-' else '+') ::
      (List.replicate (2 - power.length) '0' ++ power)

/-- A pair times a power of ten: `pair * 10 ^ exponent`. -/
structure Scaled where
  pair : Pair
  exponent : Int

/--
The same number with a power of ten moved from the exponent into the pair as often as the pair asks
for it, at most `room` times.
-/
def Scaled.shift (x : Scaled) (due : Rat → Bool) (power : Int) : (room : Nat) → Scaled
  | 0 => x
  | room + 1 =>
    if due x.pair.high then
      match x.pair.timesPower? power with
      | some pair => Scaled.shift ⟨pair, x.exponent - power⟩ due power room
      | none => x
    else x

/-- The number of the format that a decimal denotes, as a bound to compare with. -/
def mark (digits : Nat) (exponent : Int) : Rat :=
  ((ofDecimal digits exponent).value?).getD 0

/-- The greatest number that is not scaled down, times a power of ten. -/
def greatestMark (exponent : Int) : Rat :=
  mark (Nat.pow 2 63 - Nat.pow 2 10) exponent

/-- The least number that is not scaled up. -/
def leastMark : Rat :=
  mark 922337203685477478 0

/-- More steps of one size than any number takes. -/
def greatestRoom : Nat := 20

/-- A positive number as a pair of 18 or 19 digits before the point, and a power of ten. -/
def Scaled.ofMagnitude (x : Rat) : Scaled :=
  let start : Scaled := ⟨⟨x, 0⟩, 0⟩
  let shift (x : Scaled) (due : Rat → Bool) (power : Int) := x.shift due power greatestRoom
  if greatestMark 0 < x then
    let small := shift start (greatestMark 100 < ·) (-100)
    shift (shift small (greatestMark 10 < ·) (-10)) (greatestMark 0 < ·) (-1)
  else
    let large := shift start (· < greatestMark (-101)) 100
    shift (shift large (· < greatestMark (-11)) 10) (· < leastMark) 1

/-- The whole part of a pair, each number of it cut to its own whole part. -/
def Pair.whole (x : Pair) : Nat :=
  let high := x.high.floor.toNat
  if x.low < 0 then high - (-x.low).floor.toNat else high + x.low.floor.toNat

/-- A number cut to `count` digits and rounded by the digit after them alone, a five going up. -/
def roundDigits (count n : Nat) : Nat :=
  let rest := (toString n).length - count
  let kept := n / Nat.pow 10 (rest - 1)
  if 5 ≤ kept % 10 then kept / 10 + 1 else kept / 10

/-- A positive magnitude to fifteen digits. -/
def roundedMagnitude (magnitude : Rat) : String :=
  let scaled := Scaled.ofMagnitude magnitude
  let whole := scaled.pair.whole
  let dropped := (toString whole).length - shownDigits
  let decimal :=
    trimZeros (shownDigits + 1) (roundDigits shownDigits whole) (scaled.exponent + dropped)
  let leading : Int := (toString decimal.1).length - 1 + decimal.2
  if leading < -4 ∨ (shownDigits : Int) ≤ leading then scientific decimal.1 leading
  else positional decimal.1 decimal.2

/-- A number to fifteen digits. -/
def Binary64.rounded : Binary64 → String
  | .notANumber => "NaN"
  | .signed negative magnitude =>
    match magnitude.value? with
    | some size =>
      if size = 0 then "0.0" else (if negative then "-" else "") ++ roundedMagnitude size
    | none => if negative then "-Inf" else "Inf"

/-- A number as a ratio; one that is too large counts as the power of two above all others. -/
def Binary64.ratio : Binary64 → Int × Nat
  | .notANumber => (0, 1)
  | .signed negative magnitude =>
    let positive := match magnitude with
      | .finite mantissa exponent => ratioOf mantissa exponent
      | .infinite => (Nat.pow 2 1024, 1)
    (if negative then -(positive.1 : Int) else positive.1, positive.2)

end LinkSearch.Decimal
