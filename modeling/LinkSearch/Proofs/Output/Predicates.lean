import LinkSearch.Proofs.Lists
import LinkSearch.Proofs.Output.BoundLists
import LinkSearch.Text.Line

/-!
# How a predicate is shown

For people a predicate is its text and, after a blank line, a line for each bound value with the
number of its place.  As JSON it is an object of the text and the list of the values.  A character
that cannot stand in JSON is spelled by a letter of its own, or by its code.
-/

namespace LinkSearch.Output

open LinkSearch.Sql

variable {predicate : Fragment} {params : List Bound}

/-! ### Lines -/

/-- A value as a statement would write it. -/
inductive IsLiteral : Bound → String → Prop where
  | integer (n : Int) : IsLiteral (.integer n) (toString n)
  | text (s : String) :
      IsLiteral (.text s) (String.ofList ('\x27' :: (quotesDoubled '\x27' s.toList ++ ['\x27'])))

/-- The lines of some bound values, from the place of the first one on. -/
inductive ValueLines : Nat → List Bound → String → Prop where
  | nil (place : Nat) : ValueLines place [] ""
  | cons {place : Nat} {param : Bound} {others : List Bound} {literal lines : String}
      (first : IsLiteral param literal) (later : ValueLines (place + 1) others lines) :
      ValueLines place (param :: others)
        ("   ?" ++ toString place ++ " = " ++ literal ++ "\n" ++ lines)

theorem isLiteral_literal (param : Bound) : IsLiteral param param.literal := by
  cases param with
  | integer n => exact .integer n
  | text s =>
    rw [← String.ofList_toList (s := (Bound.text s).literal), toList_literal_text]
    exact .text s

theorem IsLiteral.unique {param : Bound} {first second : String} (one : IsLiteral param first)
    (two : IsLiteral param second) : first = second := by
  cases one <;> cases two <;> rfl

theorem ValueLines.unique {place : Nat} {first second : String}
    (one : ValueLines place params first) (two : ValueLines place params second) :
    first = second := by
  induction one generalizing second with
  | nil =>
    cases two
    rfl
  | cons literal _ ih =>
    cases two with
    | cons other later => rw [literal.unique other, ih later]

theorem unlines_cons (line : String) (lines : List String) :
    Text.unlines (line :: lines) = line ++ "\n" ++ Text.unlines lines := by
  rw [Text.unlines, List.map_cons, String.join_cons, Text.unlines]

theorem unlines_singleton (line : String) : Text.unlines [line] = line ++ "\n" := by
  simp [Text.unlines]

/-- By induction on the values; the place goes up by one with each of them. -/
theorem valueLines_unlines (place : Nat) (params : List Bound) :
    ValueLines place params (Text.unlines (params.mapIdx fun i param =>
      indented ("?" ++ toString (i + place) ++ " = " ++ param.literal))) := by
  induction params generalizing place with
  | nil => exact .nil place
  | cons param params ih =>
    have later := ih (place + 1)
    simp only [← Nat.add_assoc, Nat.add_right_comm _ place 1] at later
    have mark : "   ?" = "   " ++ "?" := rfl
    have whole := ValueLines.cons (isLiteral_literal param) later
    rw [List.mapIdx_cons, unlines_cons, Nat.zero_add, indented]
    simpa only [mark, String.append_assoc] using whole

/-! ### JSON -/

/-- The characters that JSON spells by a letter of their own. -/
def letters : List (Char × Char) :=
  [('\x22', '\x22'), ('\\', '\\'), ('\x08', 'b'), ('\x0c', 'f'), ('\n', 'n'), ('\r', 'r'),
    ('\t', 't')]

/-- How JSON spells a character between double quotes. -/
inductive Spells : Char → List Char → Prop where
  | itself {c : Char} (visible : ' ' ≤ c) (unlisted : c ∉ letters.map Prod.fst) :
      Spells c [c]
  | letter {c letter : Char} (listed : (c, letter) ∈ letters) : Spells c ['\\', letter]
  | code {c : Char} (control : c < ' ') (unlisted : c ∉ letters.map Prod.fst) :
      Spells c ['\\', 'u', '0', '0', Nat.digitChar (c.toNat / 16), Nat.digitChar (c.toNat % 16)]

/-- A text as JSON writes it: its characters, each spelled, between double quotes. -/
inductive IsJsonText (s : String) : String → Prop where
  | quoted {spelled : List (List Char)} (each : List.Forall₂ Spells s.toList spelled) :
      IsJsonText s (String.ofList ('\x22' :: (spelled.flatten ++ ['\x22'])))

inductive IsJsonValue : Bound → String → Prop where
  | integer (n : Int) : IsJsonValue (.integer n) (toString n)
  | text {s written : String} (quoted : IsJsonText s written) : IsJsonValue (.text s) written

/-- Bound values as JSON lists them, each on a line of its own. -/
inductive IsJsonList (params : List Bound) : String → Prop where
  | none (empty : params = []) : IsJsonList params "[]"
  | some {values : List String} (present : params ≠ [])
      (each : List.Forall₂ IsJsonValue params values) :
      IsJsonList params ("[\n    " ++ ",\n    ".intercalate values ++ "\n  ]")

theorem Spells.unique {c : Char} {first second : List Char} (one : Spells c first)
    (two : Spells c second) : first = second := by
  have alone : ∀ listed ∈ letters, ∀ other ∈ letters, listed.1 = other.1 → listed = other := by
    decide
  have named {letter : Char} (listed : (c, letter) ∈ letters) : c ∈ letters.map Prod.fst :=
    List.mem_map_of_mem listed
  cases one with
  | itself visible unlisted =>
    cases two with
    | itself => rfl
    | letter listed => exact absurd (named listed) unlisted
    | code control => exact absurd control (Char.not_lt.mpr visible)
  | letter listed =>
    cases two with
    | itself _ unlisted | code _ unlisted => exact absurd (named listed) unlisted
    | letter other =>
      cases alone _ listed _ other rfl
      rfl
  | code control unlisted =>
    cases two with
    | itself visible => exact absurd control (Char.not_lt.mpr visible)
    | letter listed => exact absurd (named listed) unlisted
    | code => rfl

theorem IsJsonText.unique {s first second : String} (one : IsJsonText s first)
    (two : IsJsonText s second) : first = second := by
  obtain ⟨each⟩ := one
  obtain ⟨other⟩ := two
  have unique : Relator.RightUnique Spells := by
    intro c first second one two
    exact one.unique two
  rw [unique.forall₂ each other]

theorem IsJsonValue.unique {param : Bound} {first second : String}
    (one : IsJsonValue param first) (two : IsJsonValue param second) : first = second := by
  cases one with
  | integer =>
    cases two
    rfl
  | text quoted =>
    cases two with
    | text other => exact quoted.unique other

theorem IsJsonList.unique {first second : String} (one : IsJsonList params first)
    (two : IsJsonList params second) : first = second := by
  have unique : Relator.RightUnique IsJsonValue := by
    intro param first second one two
    exact one.unique two
  cases one with
  | none empty =>
    cases two with
    | none => rfl
    | some present => exact absurd empty present
  | some present each =>
    cases two with
    | none empty => exact absurd empty present
    | some _ other => rw [unique.forall₂ each other]

theorem escapeChar_of_listed {c letter : Char} (listed : (c, letter) ∈ letters) :
    Json.escapeChar c = ['\\', letter] := by
  simp only [letters, List.mem_cons, Prod.mk.injEq, List.not_mem_nil, or_false] at listed
  rcases listed with ⟨rfl, rfl⟩ | ⟨rfl, rfl⟩ | ⟨rfl, rfl⟩ | ⟨rfl, rfl⟩ | ⟨rfl, rfl⟩ | ⟨rfl, rfl⟩ |
    ⟨rfl, rfl⟩ <;> rfl

/-- The code of a control character has two digits, the first of them 0 or 1. -/
theorem code_of_control {n : Nat} (control : n < 32) :
    List.replicate (4 - (Text.lowerHex n).length) '0' ++ Text.lowerHex n =
      ['0', '0', Nat.digitChar (n / 16), Nat.digitChar (n % 16)] := by
  revert n
  decide

theorem escapeChar_of_unlisted {c : Char} (unlisted : c ∉ letters.map Prod.fst) :
    Json.escapeChar c = if c < ' ' then
      ['\\', 'u', '0', '0', Nat.digitChar (c.toNat / 16), Nat.digitChar (c.toNat % 16)]
      else [c] := by
  have other : ∀ listed ∈ letters, c ≠ listed.1 := by
    intro listed member same
    apply unlisted
    rw [same]
    exact List.mem_map_of_mem member
  simp only [letters, List.forall_mem_cons] at other
  obtain ⟨quote, backslash, backspace, feed, line, carriage, tab, _⟩ := other
  unfold Json.escapeChar
  rw [if_neg (by simp [quote, backslash]), if_neg backspace, if_neg feed, if_neg line,
    if_neg carriage, if_neg tab]
  by_cases control : c < ' '
  · have small : c.toNat < 32 := control
    rw [if_pos control, if_pos control, ← code_of_control small]
    rfl
  · rw [if_neg control, if_neg control]

theorem spells_escapeChar (c : Char) : Spells c (Json.escapeChar c) := by
  by_cases listed : c ∈ letters.map Prod.fst
  · obtain ⟨⟨_, letter⟩, member, rfl⟩ := List.mem_map.mp listed
    rw [escapeChar_of_listed member]
    exact .letter member
  · rw [escapeChar_of_unlisted listed]
    by_cases control : c < ' '
    · rw [if_pos control]
      exact .code control listed
    · rw [if_neg control]
      exact .itself (Char.not_lt.mp control) listed

theorem isJsonText_writeText (s : String) : IsJsonText s (Json.writeText s) := by
  have each : List.Forall₂ Spells s.toList (s.toList.map Json.escapeChar) := by
    rw [List.forall₂_map_right_iff, List.forall₂_same]
    intro c _
    exact spells_escapeChar c
  rw [Json.writeText, List.flatMap_def]
  exact .quoted each

theorem isJsonValue_write (depth : Nat) (param : Bound) :
    IsJsonValue param ((boundJson param).write depth) := by
  cases param with
  | integer n =>
    rw [boundJson, Json.write]
    exact .integer n
  | text s =>
    rw [boundJson, Json.write]
    exact .text (isJsonText_writeText s)

theorem writeItems_eq_map (depth : Nat) (items : List Json) :
    Json.writeItems depth items = items.map (Json.write (depth + 1)) := by
  induction items with
  | nil => rfl
  | cons item items ih => rw [Json.writeItems, List.map_cons, ih]

/-- The end of a line, and the blanks with which the next one begins. -/
def newLine (depth : Nat) : String :=
  "\n" ++ String.ofList (List.replicate (2 * depth) ' ')

theorem enclose_of_ne_nil {opening closing : String} {depth : Nat} {items : List String}
    (present : items ≠ []) :
    Json.enclose opening closing depth items = opening ++ newLine (depth + 1) ++
      ("," ++ newLine (depth + 1)).intercalate items ++ newLine depth ++ closing := by
  rw [Json.enclose, if_neg (by simpa using present)]
  rfl

theorem isJsonList_write (params : List Bound) :
    IsJsonList params (Json.write 1 (.list (params.map boundJson))) := by
  have each : List.Forall₂ IsJsonValue params
      (params.map fun param => (boundJson param).write 2) := by
    rw [List.forall₂_map_right_iff, List.forall₂_same]
    intro param _
    exact isJsonValue_write 2 param
  rw [Json.write, writeItems_eq_map, List.map_map]
  by_cases empty : params = []
  · cases empty
    exact .none rfl
  · have brackets : "[\n    " = "[" ++ "\n    " ∧ "\n  ]" = "\n  " ++ "]" := ⟨rfl, rfl⟩
    have shown := IsJsonList.some empty each
    rw [brackets.1, brackets.2, ← String.append_assoc] at shown
    rw [enclose_of_ne_nil (by simpa using empty)]
    exact shown

/-! ### Predicates -/

/-- What is shown for a predicate, to people or, if the flag is set, to programs. -/
inductive Displays (predicate : Fragment) : Bool → String → Prop where
  | bare (empty : predicate.params = []) : Displays predicate false (predicate.sql ++ "\n")
  | lines {lines : String} (present : predicate.params ≠ [])
      (values : ValueLines 1 predicate.params lines) :
      Displays predicate false (predicate.sql ++ "\n\n" ++ lines)
  | json {template values : String} (sql : IsJsonText predicate.sql template)
      (params : IsJsonList predicate.params values) :
      Displays predicate true
        ("\x7b\n  \"sql\": " ++ template ++ ",\n  \"params\": " ++ values ++ "\n\x7d\n")

/-- The text and the values of a predicate leave nothing open. -/
theorem Displays.unique {json : Bool} {first second : String} (one : Displays predicate json first)
    (two : Displays predicate json second) : first = second := by
  cases one with
  | bare empty =>
    cases two with
    | bare => rfl
    | lines present => exact absurd empty present
  | lines present values =>
    cases two with
    | bare empty => exact absurd empty present
    | lines _ others => rw [values.unique others]
  | json sql params =>
    cases two with
    | json others more => rw [sql.unique others, params.unique more]

theorem displays_lines (predicate : Fragment) :
    Displays predicate false (Text.unlines (fragmentLines predicate)) := by
  unfold fragmentLines
  rw [unlines_cons]
  by_cases empty : predicate.params = []
  · simpa [empty, Text.unlines] using Displays.bare empty
  · have gap : "\n\n" = "\n" ++ "\n" := rfl
    have shown := Displays.lines empty (valueLines_unlines 1 predicate.params)
    rw [if_neg (by simpa using empty), unlines_cons]
    simpa only [gap, String.append_assoc, String.empty_append] using shown

theorem displays_json (predicate : Fragment) :
    Displays predicate true (Text.unlines [(fragmentJson predicate).text]) := by
  have shown := Displays.json (isJsonText_writeText predicate.sql)
    (isJsonList_write predicate.params)
  have keys : Json.writeText "sql" = "\"sql\"" ∧
      Json.writeText "params" = "\"params\"" := by decide
  have first : "\x7b\n  \"sql\": " = "\x7b" ++ newLine 1 ++ "\"sql\"" ++ ": " := rfl
  have second : ",\n  \"params\": " = "," ++ newLine 1 ++ "\"params\"" ++ ": " := rfl
  have last : "\n\x7d\n" = newLine 0 ++ "\x7d" ++ "\n" := rfl
  rw [first, second, last] at shown
  rw [unlines_singleton, fragmentJson, Json.text, Json.write, Json.writeEntries, Json.writeEntries,
    Json.writeEntries, enclose_of_ne_nil (List.cons_ne_nil _ _), keys.1, keys.2, Json.write,
    String.intercalate_cons_cons, String.intercalate_singleton]
  simpa only [String.append_assoc] using shown

end LinkSearch.Output
