import LinkSearch.Sql.Value
import LinkSearch.Text.Case
import LinkSearch.Text.Occurrence

/-!
# Expressions of a statement

The condition of a statement compares operands and joins the comparisons with AND and OR.  What a
name in it stands for is a parameter: first the name as written, later a column of a table.
-/

namespace LinkSearch.Sql

variable {ν μ : Type}

/-- What a comparison compares. -/
inductive Operand (ν : Type) where
  | name (x : ν)
  | constant (value : Value)
  /-- The text with the capital letters of ASCII made small. -/
  | lower (text : Operand ν)
  /-- The place of a part in a text, counted from one; zero if it does not occur. -/
  | position (text part : Operand ν)
  deriving DecidableEq

/-- How two operands are compared. -/
inductive Relation where
  | equal
  | different
  | less
  | lessOrEqual
  | greater
  | greaterOrEqual
  deriving DecidableEq

/-- A condition on a row. -/
inductive Expression (ν : Type) where
  | compare (relation : Relation) (left right : Operand ν)
  | and (left right : Expression ν)
  | or (left right : Expression ν)
  deriving DecidableEq

/-- Whether a relation holds of two sides with this order. -/
def Relation.holds : Relation → Ordering → Bool
  | .equal, order => order == .eq
  | .different, order => order != .eq
  | .less, order => order == .lt
  | .lessOrEqual, order => order != .gt
  | .greater, order => order == .gt
  | .greaterOrEqual, order => order != .lt

namespace Operand

/-- The operand with every name replaced, unless one of them cannot be. -/
def mapNames {ε : Type} (f : ν → Except ε μ) : Operand ν → Except ε (Operand μ)
  | .name x => .name <$> f x
  | .constant value => .ok (.constant value)
  | .lower text => .lower <$> text.mapNames f
  | .position text part => do
    let text ← text.mapNames f
    let part ← part.mapNames f
    return .position text part

/-- The value of an operand, given those of the names. -/
def value (values : ν → Value) : Operand ν → Value
  | .name x => values x
  | .constant value => value
  | .lower text => .text (String.ofList (Text.lowerAscii (text.value values).shown.toList))
  | .position text part =>
    match Text.occurrence? (part.value values).shown.toList (text.value values).shown.toList with
    | some before => .integer (before + 1)
    | none => .integer 0

/-- What an operand prefers: only a name does. -/
def affinity (affinities : ν → Affinity) : Operand ν → Affinity
  | .name x => affinities x
  | _ => .none

end Operand

namespace Expression

/-- The condition with every name replaced, from left to right, unless one of them cannot be. -/
def mapNames {ε : Type} (f : ν → Except ε μ) : Expression ν → Except ε (Expression μ)
  | .compare relation left right => do
    let left ← left.mapNames f
    let right ← right.mapNames f
    return .compare relation left right
  | .and left right => do
    let left ← left.mapNames f
    let right ← right.mapNames f
    return .and left right
  | .or left right => do
    let left ← left.mapNames f
    let right ← right.mapNames f
    return .or left right

/-- Whether the condition holds, given what the names stand for and what they prefer. -/
def holds (values : ν → Value) (affinities : ν → Affinity) : Expression ν → Bool
  | .compare relation left right =>
    let preferred := (left.affinity affinities).meet (right.affinity affinities)
    relation.holds <|
      ((left.value values).prefer preferred).compare ((right.value values).prefer preferred)
  | .and left right => left.holds values affinities && right.holds values affinities
  | .or left right => left.holds values affinities || right.holds values affinities

end Expression

end LinkSearch.Sql
