import LinkSearch.Links.Table
import LinkSearch.Sql.ExpressionReader

/-!
# The statement of a search

A search is one statement: the columns of a link, a condition, the newest first, and a limit.  The
statement is made around a condition, and it is read back into the condition and the limit.  A name
in the condition stands for a column of the table `link`, which the statement calls `l`; a quoted
name without qualifier that is no column is a text.
-/

namespace LinkSearch.Links

open LinkSearch.Sql

def selectHead : String :=
  "SELECT id, title, url, note, archive, favorite FROM link AS l WHERE "

/-- What stands between the condition and the limit. -/
def selectTail : String :=
  " ORDER BY l.id DESC LIMIT "

/-- The statement that selects the links of a condition, at most `limit` of them. -/
def select (condition : Fragment) (limit : Nat) : Fragment :=
  .raw selectHead ++ condition ++ .raw selectTail ++
    .param (.integer (min (limit : Int) Table.greatestId))

/-- The most levels of which a condition may be built. -/
def greatestHeight : Nat := 1000

/-- Why a statement cannot be carried out. -/
inductive Fault where
  /-- A token stands where none like it can. -/
  | unexpected (token : String) (offset : Nat)
  | noTable (name : String)
  /-- The file of the store is no database. -/
  | noDatabase
  | noColumn (name : String) (offset : Nat)
  /-- The condition is built of too many levels. -/
  | tooHigh
  /-- The statement is not of the form that a search has. -/
  | unreadable
  deriving DecidableEq

namespace Fault

def message : Fault → String
  | .unexpected token _ => "near \"" ++ token ++ "\": syntax error"
  | .noTable name => "no such table: " ++ name
  | .noDatabase => "file is not a database"
  | .noColumn name _ => "no such column: " ++ name
  | .tooHigh =>
    "Expression tree is too large (maximum depth " ++ toString greatestHeight ++ ")"
  | .unreadable => "incomplete input"

/-- How many bytes of the statement stand before what is wrong. -/
def offset? : Fault → Option Nat
  | .unexpected _ offset | .noColumn _ offset => some offset
  | .noTable _ | .noDatabase | .tooHigh | .unreadable => none

/-- What is wrong in a statement, and where. -/
def located (sql : String) (fault : Fault) : String :=
  match fault.offset? with
  | some offset => fault.message ++ " in " ++ sql ++ " at offset " ++ toString offset
  | none => fault.message

end Fault

/-- What a name in a condition stands for. -/
inductive Reference where
  | column (column : Column)
  | literal (text : String)
  deriving DecidableEq

namespace Reference

/-- The column of the table `l`, for a name with a qualifier. -/
def qualified (mention : Mention) (database table name : String) : Except Fault Reference :=
  match Column.ofName? name with
  | some found =>
    if Text.sameAscii database "main" && Text.sameAscii table "l" then .ok (.column found)
    else .error (.noColumn (".".intercalate mention.segments) mention.offset)
  | none => .error (.noColumn (".".intercalate mention.segments) mention.offset)

/-- What a name of at most three parts stands for. -/
def ofMention (mention : Mention) : Except Fault Reference :=
  match mention.segments with
  | [name] =>
    match Column.ofName? name with
    | some found => .ok (.column found)
    | none => .ok (.literal name)
  | [table, name] => qualified mention "main" table name
  | [database, table, name] => qualified mention database table name
  | _ => .error .unreadable

/-- The value of a name in a row. -/
def value (row : Row) : Reference → Value
  | .column found => row.get found
  | .literal text => .text text

def affinity : Reference → Affinity
  | .column found => found.affinity
  | .literal _ => .none

end Reference

def headTokens : List Token :=
  [.word "SELECT", .word "id", .mark ",", .word "title", .mark ",", .word "url", .mark ",",
    .word "note", .mark ",", .word "archive", .mark ",", .word "favorite", .word "FROM",
    .word "link", .word "AS", .word "l", .word "WHERE"]

/-- The tokens between the condition and the limit. -/
def tailTokens : List Token :=
  [.word "ORDER", .word "BY", .word "l", .mark ".", .word "id", .word "DESC", .word "LIMIT"]

/-! ### Levels -/

/--
The levels of a name, one for each of its parts.  A name of more than three is cut before its third
dot, where the statement goes wrong.
-/
def mentionHeight (mention : Mention) : Except Fault Nat :=
  match mention.segments with
  | first :: second :: third :: _ :: _ =>
    let kept := Token.name ⟨[first, second, third], mention.offset⟩
    .error (.unexpected "." (mention.offset + kept.written.utf8ByteSize))
  | segments => .ok segments.length

def operandHeight : Operand Mention → Except Fault Nat
  | .name mention => mentionHeight mention
  | .constant _ => .ok 1
  | .lower text => do return (← operandHeight text) + 1
  | .position text part => do
    let first ← operandHeight text
    let second ← operandHeight part
    return max first second + 1

/-- One level above two others, if there may be so many. -/
def levelAbove (first second : Nat) : Except Fault Nat :=
  if max first second < greatestHeight then .ok (max first second + 1) else .error .tooHigh

/-- The levels of a condition, or the first fault met in reading it. -/
def conditionHeight : Expression Mention → Except Fault Nat
  | .compare _ left right => do
    let first ← operandHeight left
    let second ← operandHeight right
    levelAbove first second
  | .and left right | .or left right => do
    let first ← conditionHeight left
    let second ← conditionHeight right
    levelAbove first second

/-! ### Reading a statement -/

/-- A search as its statement says it. -/
structure Selection (ν : Type) where
  condition : Expression ν
  limit : Int

/-- The selection that some tokens write. -/
def Selection.ofTokens? (tokens : List Token) : Option (Selection Mention) := do
  let rest ← headTokens.isPrefixOf? tokens
  let (condition, rest) ← Expression.read? rest
  match ← tailTokens.isPrefixOf? rest with
  | [.value (.integer limit)] => return ⟨condition, limit⟩
  | _ => none

/-- The selection that a statement writes, its names as they are written. -/
def Selection.parse (statement : Fragment) : Except Fault (Selection Mention) :=
  match statement.tokens?.bind Selection.ofTokens? with
  | none => .error .unreadable
  | some selection => do
    let _ ← conditionHeight selection.condition
    return selection

/-- The selection with every name replaced by what it stands for. -/
def Selection.resolve (selection : Selection Mention) : Except Fault (Selection Reference) := do
  let condition ← selection.condition.mapNames Reference.ofMention
  return ⟨condition, selection.limit⟩

end LinkSearch.Links
