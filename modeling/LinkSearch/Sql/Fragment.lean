import LinkSearch.Sql.ColumnName

/-!
# Fragments of a statement

A fragment is the text of a piece of a statement with `?` where a value is bound, and the values in
the order of their places.  Text and values grow together, so fragments can be put side by side
without losing which value belongs to which place.
-/

namespace LinkSearch.Sql

/-- A value bound to a place in a statement. -/
inductive Bound where
  | integer (n : Int)
  | text (s : String)
  deriving DecidableEq

/-- A truth value is bound as 1 or 0. -/
def Bound.ofBool (value : Bool) : Bound :=
  .integer (if value then 1 else 0)

/--
A value as a literal would write it: an integer in decimal digits, a text between single quotes with
every single quote in it written twice.
-/
def Bound.literal : Bound → String
  | .integer n => toString n
  | .text s => String.ofList ('\x27' ::
      s.toList.flatMap (fun c => if c = '\x27' then ['\x27', '\x27'] else [c]) ++ ['\x27'])

/-- A piece of a statement with the values bound in it. -/
structure Fragment where
  /-- The text, with `?` for each bound value. -/
  sql : String
  /-- The bound values, in the order of their places. -/
  params : List Bound
  deriving DecidableEq

namespace Fragment

/-- The fragment with no text and no values. -/
def empty : Fragment := ⟨"", []⟩

def raw (text : String) : Fragment := ⟨text, []⟩

def name (column : ColumnName) : Fragment := raw column.render

/-- One place with the value bound to it. -/
def param (value : Bound) : Fragment := ⟨"?", [value]⟩

protected def append (first second : Fragment) : Fragment :=
  ⟨first.sql ++ second.sql, first.params ++ second.params⟩

instance : Append Fragment := ⟨Fragment.append⟩

@[simp] theorem sql_append (first second : Fragment) :
    (first ++ second).sql = first.sql ++ second.sql := rfl

@[simp] theorem params_append (first second : Fragment) :
    (first ++ second).params = first.params ++ second.params := rfl

/-- The fragments in order, with literal text between each two. -/
def join (separator : String) : List Fragment → Fragment
  | [] => empty
  | [only] => only
  | first :: rest => first ++ raw separator ++ join separator rest

@[simp] theorem params_join (separator : String) (fragments : List Fragment) :
    (join separator fragments).params = fragments.flatMap params := by
  fun_induction join separator fragments with
  | case1 => rfl
  | case2 => simp
  | case3 first rest _ ih => simp [ih, raw]

@[simp] theorem sql_join (separator : String) (fragments : List Fragment) :
    (join separator fragments).sql = separator.intercalate (fragments.map sql) := by
  rw [← String.toList_inj, String.toList_intercalate]
  fun_induction join separator fragments with
  | case1 => rfl
  | case2 => simp
  | case3 first rest more ih =>
    obtain ⟨second, others, rfl⟩ := List.exists_cons_of_ne_nil (by simpa using more)
    simp only [List.map_cons] at ih
    simp [ih, raw, List.intercalate_cons_cons]

theorem append_assoc (first second third : Fragment) :
    first ++ second ++ third = first ++ (second ++ third) := by
  change Fragment.mk _ _ = Fragment.mk _ _
  simp [String.append_assoc]

/-- Two joins with the separator between them are one join. -/
theorem join_append (separator : String) {first second : List Fragment} (present : first ≠ [])
    (more : second ≠ []) :
    join separator (first ++ second) =
      join separator first ++ raw separator ++ join separator second := by
  obtain ⟨next, later, rfl⟩ := List.exists_cons_of_ne_nil more
  induction first with
  | nil => exact absurd rfl present
  | cons head tail ih =>
    cases tail with
    | nil => rfl
    | cons middle tail =>
      have inner := ih (List.cons_ne_nil _ _)
      simp only [List.cons_append, join] at inner ⊢
      rw [inner]
      simp only [append_assoc]

def parenthesized (fragment : Fragment) : Fragment :=
  raw "(" ++ fragment ++ raw ")"

/-- The predicate that holds of every row. -/
def alwaysTrue : Fragment := raw "1=1"

/-- The predicate that a flag column holds `value`. -/
def flagEquals (column : ColumnName) (value : Bool) : Fragment :=
  name column ++ raw " = " ++ param (.ofBool value)

/--
The predicate that a text column contains `value`, without regard to the case of ASCII letters.  The
empty text is contained in every text.
-/
def contains (column : ColumnName) (value : String) : Fragment :=
  raw "instr(lower(" ++ name column ++ raw "), lower(" ++ param (.text value) ++ raw ")) != 0"

@[simp] theorem sql_raw (text : String) : (raw text).sql = text := rfl

@[simp] theorem params_raw (text : String) : (raw text).params = [] := rfl

@[simp] theorem sql_name (column : ColumnName) : (name column).sql = column.render := rfl

@[simp] theorem params_name (column : ColumnName) : (name column).params = [] := rfl

@[simp] theorem sql_param (value : Bound) : (param value).sql = "?" := rfl

@[simp] theorem params_param (value : Bound) : (param value).params = [value] := rfl

@[simp] theorem sql_parenthesized (fragment : Fragment) :
    fragment.parenthesized.sql = "(" ++ fragment.sql ++ ")" := rfl

@[simp] theorem params_parenthesized (fragment : Fragment) :
    fragment.parenthesized.params = fragment.params := by
  simp [parenthesized]

@[simp] theorem sql_flagEquals (column : ColumnName) (value : Bool) :
    (flagEquals column value).sql = column.render ++ " = ?" := by
  simp [flagEquals, String.append_assoc]

@[simp] theorem params_flagEquals (column : ColumnName) (value : Bool) :
    (flagEquals column value).params = [.ofBool value] := by
  simp [flagEquals]

@[simp] theorem sql_contains (column : ColumnName) (value : String) :
    (contains column value).sql = "instr(lower(" ++ column.render ++ "), lower(?)) != 0" := by
  simp [contains, String.append_assoc]

@[simp] theorem params_contains (column : ColumnName) (value : String) :
    (contains column value).params = [.text value] := by
  simp [contains]

def isEmpty (fragment : Fragment) : Bool :=
  fragment.sql.isEmpty

end Fragment

end LinkSearch.Sql
