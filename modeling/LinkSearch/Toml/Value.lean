import LinkSearch.Decimal.Binary64

/-!
# Values of a TOML document

A document is a table.  The entries of a table keep the order in which they were written; no two
have the same key.
-/

namespace LinkSearch.Toml

/-- A value of a document. -/
inductive Value where
  | string (text : String)
  | integer (n : Int)
  | float (x : Decimal.Binary64)
  /-- What counts as a numeral, but not of an integer or float of 64 bits. -/
  | outOfRange
  | boolean (flag : Bool)
  /-- A date, a time or both, as written. -/
  | moment (text : String)
  | array (items : List Value)
  | table (entries : List (String × Value))

/-- The integer, if 64 bits hold it. -/
def Value.ofInteger (n : Int) : Value :=
  if -(Nat.pow 2 63) ≤ n ∧ n < Nat.pow 2 63 then .integer n else .outOfRange

end LinkSearch.Toml
