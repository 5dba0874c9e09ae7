import LinkSearch.Sql.Expression
import LinkSearch.Sql.Token

/-!
# Reading expressions

An expression is a chain of comparisons and bracketed expressions, joined by AND and OR, of which
AND binds more tightly.  Reading stops at the first token that continues nothing and leaves the
rest.
-/

namespace LinkSearch.Sql

/-- The function that a word names, as far as expressions use functions. -/
inductive Function where
  | lower
  | position

def Function.ofWord? (word : String) : Option Function :=
  if Text.sameAscii word "lower" then some .lower
  else if Text.sameAscii word "instr" then some .position
  else none

inductive Connective where
  | and
  | or

/-- The connective that a word names. -/
def Connective.ofWord? (word : String) : Option Connective :=
  if Text.sameAscii word "AND" then some .and
  else if Text.sameAscii word "OR" then some .or
  else none

/-- The relation that a token names.  No value is missing, so IS is plain equality. -/
def Relation.ofToken? : Token → Option Relation
  | .mark "=" | .mark "==" => some .equal
  | .mark "!=" | .mark "<>" => some .different
  | .mark "<" => some .less
  | .mark "<=" => some .lessOrEqual
  | .mark ">" => some .greater
  | .mark ">=" => some .greaterOrEqual
  | .word word => if Text.sameAscii word "IS" then some .equal else none
  | _ => none

/-- What follows a mark that must come next. -/
def expect? (mark : String) : List Token → Option (List Token)
  | .mark found :: rest => if found = mark then some rest else none
  | _ => none

/-- The operand at the start of some tokens, nested less deep than `fuel`, and what follows it. -/
def Operand.read? : Nat → List Token → Option (Operand Mention × List Token)
  | 0, _ => none
  | _ + 1, .name mention :: rest => some (.name mention, rest)
  | _ + 1, .value bound :: rest => some (.constant bound.value, rest)
  | _ + 1, .number digits :: rest =>
    some (.constant (.integer (Text.decimal digits.toList)), rest)
  | fuel + 1, .word word :: rest => do
    let (first, rest) ← Operand.read? fuel (← expect? "(" rest)
    match ← Function.ofWord? word with
    | .lower => return (.lower first, ← expect? ")" rest)
    | .position =>
      let (second, rest) ← Operand.read? fuel (← expect? "," rest)
      return (.position first second, ← expect? ")" rest)
  | _ + 1, _ => none

namespace Expression

/-- The comparison at the start of some tokens, and what follows it. -/
def readComparison? (fuel : Nat) (tokens : List Token) :
    Option (Expression Mention × List Token) := do
  let (left, rest) ← Operand.read? fuel tokens
  match rest with
  | [] => none
  | token :: rest =>
    let relation ← Relation.ofToken? token
    let (right, rest) ← Operand.read? fuel rest
    return (.compare relation left right, rest)

/--
A chain put together from the left: what AND joins first, then what OR joins.  `done` is what stands
before the last OR so far, and `last` what stands after it.
-/
def assemble {ν : Type} (done : Option (Expression ν)) (last : Expression ν) :
    List (Connective × Expression ν) → Expression ν
  | [] => (done.map (Expression.or · last)).getD last
  | (.and, next) :: rest => assemble done (.and last next) rest
  | (.or, next) :: rest => assemble (some ((done.map (Expression.or · last)).getD last)) next rest

mutual

/-- A bracketed expression or a comparison, and what follows it. -/
def readAtom? : Nat → List Token → Option (Expression Mention × List Token)
  | 0, _ => none
  | fuel + 1, .mark "(" :: rest => do
    let (inner, rest) ← readChain? fuel rest
    return (inner, ← expect? ")" rest)
  | fuel + 1, tokens => readComparison? fuel tokens

/-- A chain of atoms as one expression, and what follows it. -/
def readChain? : Nat → List Token → Option (Expression Mention × List Token)
  | 0, _ => none
  | fuel + 1, tokens => do
    let (first, rest) ← readAtom? fuel tokens
    let (links, rest) ← readLinks? fuel rest
    return (assemble none first links, rest)

/-- The rest of a chain, each atom with the connective before it, and what follows it. -/
def readLinks? : Nat → List Token →
    Option (List (Connective × Expression Mention) × List Token)
  | 0, _ => none
  | _ + 1, [] => some ([], [])
  | fuel + 1, token :: rest =>
    match token with
    | .word word =>
      match Connective.ofWord? word with
      | none => some ([], token :: rest)
      | some connective => do
        let (next, rest) ← readAtom? fuel rest
        let (links, rest) ← readLinks? fuel rest
        return ((connective, next) :: links, rest)
    | _ => some ([], token :: rest)

end

/-- The expression at the start of some tokens, and what follows it. -/
def read? (tokens : List Token) : Option (Expression Mention × List Token) :=
  readChain? (3 * tokens.length + 3) tokens

end Expression

end LinkSearch.Sql
