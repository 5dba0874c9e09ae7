/-!
# Numerals

What digits stand for, and the number that a row of them writes.
-/

namespace LinkSearch.Text

/-- The digit that a character stands for, in a base up to sixteen. -/
def digit? (base : Nat) (c : Char) : Option Nat :=
  let value? :=
    if '0' ≤ c ∧ c ≤ '9' then some (c.toNat - '0'.toNat)
    else if 'a' ≤ c ∧ c ≤ 'f' then some (c.toNat - 'a'.toNat + 10)
    else if 'A' ≤ c ∧ c ≤ 'F' then some (c.toNat - 'A'.toNat + 10)
    else none
  value?.filter (· < base)

/-- The number that some digits write in a base, after the number that those before them write. -/
def numeralAfter? (base : Nat) (before : Nat) : List Char → Option Nat
  | [] => some before
  | c :: rest => (digit? base c).bind fun d => numeralAfter? base (before * base + d) rest

/-- The number that some digits write in a base; no digits write zero. -/
def numeral? (base : Nat) (digits : List Char) : Option Nat :=
  numeralAfter? base 0 digits

/-- The number that decimal digits write. -/
def decimal (digits : List Char) : Nat :=
  (numeral? 10 digits).getD 0

end LinkSearch.Text
