import LinkSearch.Query.Error
import LinkSearch.Query.Term
import LinkSearch.Sql.Fragment
import LinkSearch.Text.Case

/-!
# Fields and the conditions they make

A field has a name, the kind of value it takes, and a predicate for each such value.  A term that
names a field becomes a condition with that field's predicate; a loose term stays text until the
columns to look in are known.
-/

namespace LinkSearch.Query

open LinkSearch.Sql

/-- What a field takes as its value. -/
inductive Kind where
  /-- `true` or `false`, in any case. -/
  | boolean
  /-- Any text. -/
  | string
  deriving DecidableEq

/-- The word for a kind in settings and listings. -/
def Kind.word : Kind → String
  | .boolean => "boolean"
  | .string => "string"

/-- A field that a query can ask for. -/
inductive Field where
  /-- A field that is true or false, with the predicate of each. -/
  | boolean (name : String) (predicate : Bool → Fragment)
  /-- A field of text, with the predicate of each value. -/
  | string (name : String) (predicate : String → Fragment)

namespace Field

/-- The name, which a query must spell exactly. -/
def name : Field → String
  | .boolean name _ | .string name _ => name

/-- The kind of value it takes. -/
def kind : Field → Kind
  | .boolean .. => .boolean
  | .string .. => .string

/-- The field that compares one column: a flag for equality, a text for containment. -/
def ofColumn (kind : Kind) (name : String) (column : ColumnName) : Field :=
  match kind with
  | .boolean => .boolean name (Fragment.flagEquals column)
  | .string => .string name (Fragment.contains column)

@[simp] theorem name_ofColumn (kind : Kind) (name : String) (column : ColumnName) :
    (ofColumn kind name column).name = name := by
  cases kind <;> rfl

/-- The first field with this very name. -/
def find? (fields : List Field) (name : String) : Option Field :=
  fields.find? (·.name == name)

end Field

/-- Reads `true` or `false`, without regard to the case of ASCII letters. -/
def readBoolean? (value : String) : Option Bool :=
  if Text.sameAscii value "true" then some true
  else if Text.sameAscii value "false" then some false
  else none

/-- What one accepted term asks of a row. -/
inductive Condition where
  /-- The predicate of the field with this name. -/
  | field (name : String) (predicate : Fragment)
  /-- Some column to be searched contains this text. -/
  | loose (value : String)
  deriving DecidableEq

/-- One line that shows a condition to whoever maintains the schema. -/
def Condition.summary : Condition → String
  | .field name predicate => "Field(" ++ Text.quote name ++ "): " ++ predicate.sql
  | .loose value => "Loose(" ++ Text.quote value ++ ")"

/-- The condition of one term, or the issue that it has. -/
def Term.classify (fields : List Field) : Term → Except Issue Condition
  | .loose value => .ok (.loose value)
  | .field name value =>
    match Field.find? fields name with
    | none => .error (.unknownField name)
    | some (.boolean registered predicate) =>
      match readBoolean? value with
      | none => .error (.invalidBoolean name value)
      | some flag => .ok (.field registered (predicate flag))
    | some (.string registered predicate) => .ok (.field registered (predicate value))

/-- A query taken apart: what its terms ask for, and the issues of the others. -/
structure Reading where
  /-- The conditions of the accepted terms, in the order of the query. -/
  conditions : List Condition
  /-- The issues of the other terms, in the order of the query. -/
  issues : List Issue
  deriving DecidableEq

namespace Reading

/-- Sorts the outcomes of terms into conditions and issues, each in order. -/
def ofOutcomes : List (Except Issue Condition) → Reading
  | [] => ⟨[], []⟩
  | outcome :: rest =>
    let reading := ofOutcomes rest
    match outcome with
    | .ok condition => { reading with conditions := condition :: reading.conditions }
    | .error issue => { reading with issues := issue :: reading.issues }

/-- What the issues say, in order. -/
def messages (reading : Reading) : List String :=
  reading.issues.map Issue.message

/-- Whether some term has an issue. -/
def hasIssues (reading : Reading) : Bool :=
  !reading.issues.isEmpty

/-- The conditions, if every term was accepted. -/
def accepted (reading : Reading) : Except Error (List Condition) :=
  if reading.hasIssues then .error (.rejected reading.issues) else .ok reading.conditions

/-- Every outcome is kept, in one list or the other. -/
theorem length_ofOutcomes (outcomes : List (Except Issue Condition)) :
    (ofOutcomes outcomes).conditions.length + (ofOutcomes outcomes).issues.length =
      outcomes.length := by
  induction outcomes with
  | nil => rfl
  | cons outcome rest ih =>
    cases outcome <;> simp only [ofOutcomes, List.length_cons] <;> omega

end Reading

/-- The terms of a query, if there are not too many. -/
def terms (query : String) : Except Error (List Term) :=
  match Term.readAtMost? Term.limit query.toList with
  | some terms => .ok terms
  | none => .error (.tooManyTerms Term.limit)

/-- Takes a query apart.  A query of separators only asks for nothing. -/
def read (fields : List Field) (query : String) : Except Error Reading :=
  if query.toList.all Text.isSeparator then .ok (.ofOutcomes [])
  else do
    let terms ← terms query
    return .ofOutcomes (terms.map (Term.classify fields))

end LinkSearch.Query
