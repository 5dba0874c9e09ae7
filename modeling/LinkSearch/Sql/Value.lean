import LinkSearch.Decimal.Rounded
import LinkSearch.Decimal.Significand
import LinkSearch.Sql.Fragment

/-!
# Values of a table

A cell of a table, and what a statement computes, is a number or a text.  Every number is less than
every text.  A column may prefer texts or numbers; a value that meets such a column is brought into
the preferred form first, if it has one.  The length of a text has no bound here: that no value has
more than 10^9 bytes, which a database refuses, is assumed throughout.
-/

namespace LinkSearch.Sql

open LinkSearch.Decimal

/-- A number or a text. -/
inductive Value where
  | integer (n : Int)
  | real (x : Binary64)
  | text (s : String)
  deriving DecidableEq

/-- What a column prefers to hold. -/
inductive Affinity where
  | text
  | numeric
  /-- Any value as it is. -/
  | none
  deriving DecidableEq

/-- A bound value as a value of the statement. -/
def Bound.value : Bound → Value
  | .integer n => .integer n
  | .text s => .text s

namespace Value

/-- The value written as a text. -/
def shown : Value → String
  | .integer n => toString n
  | .real x => x.rounded
  | .text s => s

/-- The number as a ratio, if the value is one. -/
def ratio? : Value → Option (Int × Nat)
  | .integer n => some (n, 1)
  | .real x => some x.ratio
  | .text _ => Option.none

/-- Numbers in their order, then texts in the order of their characters. -/
def compare (first second : Value) : Ordering :=
  match first.ratio?, second.ratio? with
  | some a, some b => Ord.compare (a.1 * b.2) (b.1 * a.2)
  | some _, Option.none => .lt
  | Option.none, some _ => .gt
  | Option.none, Option.none => Ord.compare first.shown second.shown

/-- The integers of 64 bits. -/
def isWord (n : Int) : Bool :=
  -(Nat.pow 2 63) ≤ n && n < Nat.pow 2 63

/-! ### Texts that are numbers -/

/-- Blanks that may surround a numeral. -/
def isBlank (c : Char) : Bool :=
  c = ' ' || ('\t' ≤ c && c ≤ '\r')

/-- Drops the blanks on both sides. -/
def trim (s : List Char) : List Char :=
  ((s.dropWhile isBlank).reverse.dropWhile isBlank).reverse

/-- A sign at the start, taken off; whether it is a minus. -/
def splitSign : List Char → Bool × List Char
  | '-' :: rest => (true, rest)
  | '+' :: rest => (false, rest)
  | s => (false, s)

/-- The exponent at the end of a numeral: nothing, or `e` with a sign and digits. -/
def exponent? : List Char → Option Int
  | [] => some 0
  | c :: rest =>
    let (negative, digits) := splitSign rest
    if c.toLower = 'e' ∧ digits ≠ [] ∧ digits.all Char.isDigit then
      let size := Significand.exponentOf digits
      some (if negative then -(size : Int) else size)
    else Option.none

/-- A number that is whole and of less than 64 bits becomes an integer. -/
def ofReal (x : Binary64) : Value :=
  let ratio := x.ratio
  let n := ratio.1 / ratio.2
  if n * ratio.2 = ratio.1 ∧ -(Nat.pow 2 63) < n ∧ n < Nat.pow 2 63 - 1 then .integer n
  else .real x

/-- The number that a text writes, if it writes one and nothing else but blanks around it. -/
def ofNumeral? (s : List Char) : Option Value := do
  let (negative, body) := splitSign (trim s)
  let whole := body.takeWhile Char.isDigit
  let after := body.dropWhile Char.isDigit
  let (fraction, tail) := match after with
    | '.' :: rest => (rest.takeWhile Char.isDigit, rest.dropWhile Char.isDigit)
    | _ => ([], after)
  if whole = [] ∧ fraction = [] then Option.none
  let exponent ← exponent? tail
  let size := Text.decimal whole
  let n : Int := if negative then -(size : Int) else size
  if after = [] ∧ isWord n then return .integer n
  else
    let read := Significand.ofDigits whole fraction
    let scaled : Significand := ⟨read.digits, read.exponent + exponent⟩
    return ofReal (.signed negative scaled.magnitude)

/-- A value in the form that a column prefers. -/
def prefer (affinity : Affinity) (value : Value) : Value :=
  match affinity, value with
  | .text, value => .text value.shown
  | .numeric, .text s => (ofNumeral? s.toList).getD (.text s)
  | _, value => value

end Value

/--
What two compared sides prefer together: numbers before texts, and two texts stay as they are.
-/
def Affinity.meet : Affinity → Affinity → Affinity
  | .none, other | other, .none => other
  | .text, .text => .none
  | .numeric, _ | _, .numeric => .numeric

end LinkSearch.Sql
