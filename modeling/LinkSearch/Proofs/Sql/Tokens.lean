import LinkSearch.Proofs.Sql.Names

/-!
# Reading a statement piece by piece

The tokens of a statement are read from the front, and each place takes the first of the values that
are left.  So a piece of a statement adds the same tokens whatever stands behind it, as long as its
last word cannot go on there.
-/

namespace LinkSearch.Sql

/-- A place in a statement, with the text and the values that are left. -/
structure Reader where
  offset : Nat
  values : List Bound
  text : List Char

namespace Reader

/-- The tokens from here to the end. -/
def tokens? (reader : Reader) : Option (List Token) :=
  Token.readAll? reader.offset reader.values reader.text

/-- Between two places there are these tokens. -/
def Yields (before : Reader) (tokens : List Token) (after : Reader) : Prop :=
  before.tokens? = after.tokens?.map (tokens ++ ·)

theorem Yields.append {before between after : Reader} {tokens more : List Token}
    (first : before.Yields tokens between) (second : between.Yields more after) :
    before.Yields (tokens ++ more) after := by
  rw [Yields, first, second]
  simp [Function.comp_def]

/-- One blank, one place or one token. -/
def step? : Reader → Option (List Token × Reader)
  | ⟨_, _, []⟩ => none
  | ⟨offset, values, c :: rest⟩ =>
    if c = ' ' then some ([], ⟨offset + 1, values, rest⟩)
    else if c = '?' then
      match values with
      | [] => none
      | bound :: values => some ([.value bound], ⟨offset + 1, values, rest⟩)
    else (Token.read? offset c rest).map fun (token, after) =>
      ([token], ⟨offset + token.written.utf8ByteSize, values, after⟩)

theorem yields_of_step? {before after : Reader} {tokens : List Token}
    (step : before.step? = some (tokens, after)) : before.Yields tokens after := by
  obtain ⟨offset, values, _ | ⟨c, rest⟩⟩ := before
  · cases step
  unfold Yields tokens?
  rw [Token.readAll?.eq_def]
  unfold step? at step
  by_cases blank : c = ' '
  · simp only [blank, if_true] at step ⊢
    cases step
    simp
  by_cases place : c = '?'
  · simp only [place, if_true] at step ⊢
    cases values with
    | nil => cases step
    | cons bound values =>
      cases step
      rfl
  · simp only [blank, place, if_false] at step ⊢
    obtain ⟨⟨token, left⟩, read, equal⟩ := Option.map_eq_some_iff.mp step
    cases equal
    split
    · next missing => simp [read] at missing
    · next found =>
      cases read.symm.trans found
      rfl

/-- So many steps, one after the other. -/
def steps? : Nat → Reader → Option (List Token × Reader)
  | 0, reader => some ([], reader)
  | count + 1, reader => do
    let (tokens, next) ← reader.step?
    let (more, after) ← steps? count next
    return (tokens ++ more, after)

theorem yields_of_steps? (count : Nat) {before after : Reader} {tokens : List Token}
    (steps : before.steps? count = some (tokens, after)) : before.Yields tokens after := by
  induction count generalizing before tokens with
  | zero =>
    cases steps
    simp [Yields]
  | succ count ih =>
    obtain ⟨⟨first, next⟩, step, steps⟩ := Option.bind_eq_some_iff.mp steps
    obtain ⟨⟨more, last⟩, later, equal⟩ := Option.bind_eq_some_iff.mp steps
    cases equal
    exact (yields_of_step? step).append (ih later)

/-- A name that is written is one token. -/
theorem yields_render (offset : Nat) (values : List Bound) (column : ColumnName)
    (rest : List Char) (ends : EndsName rest) :
    Yields ⟨offset, values, column.render.toList ++ rest⟩ [.name ⟨column.segments, offset⟩]
      ⟨offset + column.render.utf8ByteSize, values, rest⟩ := by
  obtain ⟨body, text, read⟩ := Token.readName?_render column
  have token : Token.read? offset '\x22' (body ++ rest) =
      some (.name ⟨column.segments, offset⟩, rest) := by
    rw [Token.read?, if_pos rfl, read rest ends]
    rfl
  apply yields_of_step?
  rw [text, List.cons_append]
  change (Token.read? offset '\x22' (body ++ rest)).map _ = _
  rw [token]
  rfl

end Reader

/-! ### Tokens of fragments -/

/-- A text in front of which every word and every number ends. -/
def Apart (s : List Char) : Prop := ∀ c ∈ s.head?, c = ' ' ∨ c = ')'

theorem apart_iff {s : List Char} :
    Apart s ↔ s = [] ∨ ∃ rest, s = ' ' :: rest ∨ s = ')' :: rest := by
  cases s <;> simp [Apart, exists_or]

/-- At the offset, the fragment is read as the tokens, whatever stands apart behind it. -/
def Fragment.Lexes (fragment : Fragment) (offset : Nat) (tokens : List Token) : Prop :=
  ∀ values rest, Apart rest → Reader.Yields
    ⟨offset, fragment.params ++ values, fragment.sql.toList ++ rest⟩ tokens
    ⟨offset + fragment.sql.utf8ByteSize, values, rest⟩

open Reader

theorem lexes_alwaysTrue (offset : Nat) :
    Fragment.alwaysTrue.Lexes offset [.number "1", .mark "=", .number "1"] := by
  intro values rest apart
  have steps : steps? 3 ⟨offset, values, '1' :: '=' :: '1' :: rest⟩ =
      some ([.number "1", .mark "=", .number "1"], ⟨offset + 3, values, rest⟩) := by
    rcases apart_iff.mp apart with rfl | ⟨rest, rfl | rfl⟩ <;> rfl
  exact yields_of_steps? 3 steps

theorem lexes_flagEquals (offset : Nat) (column : ColumnName) (value : Bool) :
    (Fragment.flagEquals column value).Lexes offset
      [.name ⟨column.segments, offset⟩, .mark "=", .value (.ofBool value)] := by
  intro values rest _
  have size : " = ?".utf8ByteSize = 4 := rfl
  have name := yields_render offset (.ofBool value :: values) column
    (' ' :: '=' :: ' ' :: '?' :: rest) (by simp [EndsName])
  have test : steps? 4 ⟨offset + column.render.utf8ByteSize, .ofBool value :: values,
      ' ' :: '=' :: ' ' :: '?' :: rest⟩ = some ([.mark "=", .value (.ofBool value)],
        ⟨offset + column.render.utf8ByteSize + 4, values, rest⟩) := rfl
  simpa [Nat.add_assoc, size] using name.append (yields_of_steps? 4 test)

theorem lexes_contains (offset : Nat) (column : ColumnName) (value : String) :
    (Fragment.contains column value).Lexes offset
      [.word "instr", .mark "(", .word "lower", .mark "(", .name ⟨column.segments, offset + 12⟩,
        .mark ")", .mark ",", .word "lower", .mark "(", .value (.text value), .mark ")", .mark ")",
        .mark "!=", .number "0"] := by
  intro values rest apart
  have sizes : "instr(lower(".utf8ByteSize = 12 ∧ "), lower(?)) != 0".utf8ByteSize = 17 :=
    ⟨rfl, rfl⟩
  have before (tail : List Char) : steps? 4 ⟨offset, .text value :: values,
      'i' :: 'n' :: 's' :: 't' :: 'r' :: '(' :: 'l' :: 'o' :: 'w' :: 'e' :: 'r' :: '(' :: tail⟩ =
        some ([.word "instr", .mark "(", .word "lower", .mark "("],
          ⟨offset + 12, .text value :: values, tail⟩) := rfl
  have after (start : Nat) : steps? 12 ⟨start, .text value :: values,
      ')' :: ',' :: ' ' :: 'l' :: 'o' :: 'w' :: 'e' :: 'r' :: '(' :: '?' :: ')' :: ')' :: ' ' ::
        '!' :: '=' :: ' ' :: '0' :: rest⟩ =
        some ([.mark ")", .mark ",", .word "lower", .mark "(", .value (.text value), .mark ")",
          .mark ")", .mark "!=", .number "0"], ⟨start + 17, values, rest⟩) := by
    rcases apart_iff.mp apart with rfl | ⟨rest, rfl | rfl⟩ <;> rfl
  have name := yields_render (offset + 12) (.text value :: values) column
    (')' :: ',' :: ' ' :: 'l' :: 'o' :: 'w' :: 'e' :: 'r' :: '(' :: '?' :: ')' :: ')' ::
      ' ' :: '!' :: '=' :: ' ' :: '0' :: rest) (by simp [EndsName])
  have whole := ((yields_of_steps? 4 (before _)).append name).append (yields_of_steps? 12 (after _))
  simpa [Nat.add_assoc, sizes] using whole

end LinkSearch.Sql
