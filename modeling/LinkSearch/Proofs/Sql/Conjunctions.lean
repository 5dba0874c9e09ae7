import LinkSearch.Proofs.Sql.Conditions
import LinkSearch.Proofs.Sql.Tokens
import Mathlib.Data.List.Forall2

/-!
# Fragments that are read as conditions

A fragment between AND or OR is read as one condition if its text is one comparison or one pair of
brackets, whatever stands before and behind it.  Such fragments with AND between them are read as
the chain of their conditions, and so are those with OR; in brackets a chain is one condition again.
-/

namespace LinkSearch.Sql

namespace Expression

/-- With tokens behind them, these tokens are read as the condition, and the others are left. -/
def ReadsAtom (condition : Expression Mention) (tokens : List Token) : Prop :=
  ∀ fuel rest, 3 * tokens.length ≤ fuel →
    readAtom? fuel (tokens ++ rest) = some (condition, rest)

/-- Tokens that do not go on with a chain. -/
def EndsChain (tokens : List Token) : Prop :=
  ∀ word, tokens.head? = some (.word word) → Connective.ofWord? word = none

/-- With tokens behind them that end a chain, these tokens are read as the condition. -/
def ReadsChain (condition : Expression Mention) (tokens : List Token) : Prop :=
  ∀ fuel rest, EndsChain rest → 3 * tokens.length + 2 ≤ fuel →
    readChain? fuel (tokens ++ rest) = some (condition, rest)

theorem readLinks?_of_endsChain {fuel : Nat} {tokens : List Token} (ends : EndsChain tokens)
    (enough : 0 < fuel) : readLinks? fuel tokens = some ([], tokens) := by
  cases fuel with
  | zero => omega
  | succ fuel =>
    cases tokens with
    | nil => rfl
    | cons token tokens =>
      cases token with
      | word word =>
        have unknown : Connective.ofWord? word = none := ends word rfl
        simp [readLinks?, unknown]
      | name | number | value | mark => rfl

theorem assemble_links (connective : Connective) (first : Expression Mention)
    (rest : List (Expression Mention)) :
    assemble none first (rest.map (connective, ·)) = chain connective first rest := by
  -- What OR joins is done at once, so both connectives fold from the left.
  cases connective with
  | and =>
    induction rest generalizing first with
    | nil => rfl
    | cons next rest ih => exact ih (first.and next)
  | or =>
    have both (done : Option (Expression Mention)) (last : Expression Mention) :
        assemble done last (rest.map (Connective.or, ·)) =
          chain .or ((done.map (Expression.or · last)).getD last) rest := by
      induction rest generalizing done last with
      | nil => rfl
      | cons next rest ih => exact ih (some _) next
    exact both none first

theorem readsAtom_oneIsOne :
    ReadsAtom (.compare .equal (.constant (.integer 1)) (.constant (.integer 1)))
      [.number "1", .mark "=", .number "1"] := by
  intro fuel rest enough
  obtain ⟨more, rfl⟩ : ∃ more, fuel = more + 9 := Nat.exists_eq_add_of_le' enough
  rfl

theorem readsAtom_flagTest (mention : Mention) (value : Bool) :
    ReadsAtom (flagTest mention value) [.name mention, .mark "=", .value (.ofBool value)] := by
  intro fuel rest enough
  obtain ⟨more, rfl⟩ : ∃ more, fuel = more + 9 := Nat.exists_eq_add_of_le' enough
  rfl

theorem readsAtom_textTest (mention : Mention) (value : String) :
    ReadsAtom (textTest mention value)
      [.word "instr", .mark "(", .word "lower", .mark "(", .name mention, .mark ")", .mark ",",
        .word "lower", .mark "(", .value (.text value), .mark ")", .mark ")", .mark "!=",
        .number "0"] := by
  intro fuel rest enough
  obtain ⟨more, rfl⟩ : ∃ more, fuel = more + 42 := Nat.exists_eq_add_of_le' enough
  rfl

theorem ReadsAtom.readsChain {condition : Expression Mention} {tokens : List Token}
    (reads : ReadsAtom condition tokens) : ReadsChain condition tokens := by
  intro fuel rest ends enough
  cases fuel with
  | zero => omega
  | succ fuel =>
    have links : readLinks? fuel rest = some ([], rest) :=
      readLinks?_of_endsChain ends (by omega)
    rw [readChain?, reads fuel rest (by omega)]
    simp [links, assemble]

/-- Brackets make one condition of a chain. -/
theorem ReadsChain.bracketed {condition : Expression Mention} {tokens : List Token}
    (reads : ReadsChain condition tokens) :
    ReadsAtom condition (.mark "(" :: (tokens ++ [.mark ")"])) := by
  intro fuel rest enough
  simp only [List.length_cons, List.length_append, List.length_nil] at enough
  cases fuel with
  | zero => omega
  | succ fuel =>
    have inner := reads fuel (.mark ")" :: rest) (by simp [EndsChain]) (by omega)
    rw [List.cons_append, List.append_assoc, List.singleton_append, readAtom?, inner]
    rfl

end Expression

/-! ### Fragments -/

open Expression Reader

/-- Wherever it stands, the fragment is read as one comparison or bracket that same this. -/
def Fragment.IsAtom (fragment : Fragment) (condition : Expression (List String)) : Prop :=
  ∀ offset, ∃ tokens read, fragment.Lexes offset tokens ∧ ReadsAtom read tokens ∧
    read.map Mention.segments = condition

/-- Wherever it stands, the fragment is read as a chain that same this. -/
def Fragment.IsChain (fragment : Fragment) (condition : Expression (List String)) : Prop :=
  ∀ offset, ∃ tokens read, fragment.Lexes offset tokens ∧ ReadsChain read tokens ∧
    read.map Mention.segments = condition

theorem isAtom_alwaysTrue : Fragment.alwaysTrue.IsAtom
    (.compare .equal (.constant (.integer 1)) (.constant (.integer 1))) :=
  fun offset => ⟨_, _, lexes_alwaysTrue offset, readsAtom_oneIsOne, rfl⟩

theorem isAtom_flagEquals (column : ColumnName) (value : Bool) :
    (Fragment.flagEquals column value).IsAtom (flagTest column.segments value) :=
  fun offset => ⟨_, _, lexes_flagEquals offset column value, readsAtom_flagTest _ _, rfl⟩

theorem isAtom_contains (column : ColumnName) (value : String) :
    (Fragment.contains column value).IsAtom (textTest column.segments value) :=
  fun offset => ⟨_, _, lexes_contains offset column value, readsAtom_textTest _ _, rfl⟩

theorem Fragment.IsAtom.isChain {fragment : Fragment} {condition : Expression (List String)}
    (atom : fragment.IsAtom condition) : fragment.IsChain condition := by
  intro offset
  obtain ⟨tokens, read, lexes, reads, same⟩ := atom offset
  exact ⟨tokens, read, lexes, reads.readsChain, same⟩

theorem Fragment.IsChain.parenthesized {fragment : Fragment}
    {condition : Expression (List String)} (inner : fragment.IsChain condition) :
    fragment.parenthesized.IsAtom condition := by
  intro offset
  obtain ⟨tokens, read, lexes, reads, same⟩ := inner (offset + 1)
  refine ⟨_, read, ?_, reads.bracketed, same⟩
  intro values rest _
  have before : steps? 1 ⟨offset, fragment.params ++ values,
      '(' :: (fragment.sql.toList ++ ')' :: rest)⟩ = some ([.mark "("], ⟨offset + 1, _, _⟩) := rfl
  have after : steps? 1 ⟨offset + 1 + fragment.sql.utf8ByteSize, values, ')' :: rest⟩ =
      some ([.mark ")"], ⟨offset + 1 + fragment.sql.utf8ByteSize + 1, values, rest⟩) := rfl
  have sizes : "(".utf8ByteSize = 1 ∧ ")".utf8ByteSize = 1 := ⟨rfl, rfl⟩
  have whole := (yields_of_steps? 1 before).append
    ((lexes values (')' :: rest) (by simp [Apart])).append (yields_of_steps? 1 after))
  simpa [sizes, Nat.add_assoc] using whole

/-- The text of a connective between two conditions. -/
def Connective.separator : Connective → String
  | .and => " AND "
  | .or => " OR "

def Connective.word : Connective → String
  | .and => "AND"
  | .or => "OR"

theorem Connective.ofWord?_word (connective : Connective) :
    Connective.ofWord? connective.word = some connective := by
  cases connective <;> rfl

theorem yields_separator (connective : Connective) (offset : Nat) (values : List Bound)
    (rest : List Char) :
    Yields ⟨offset, values, connective.separator.toList ++ rest⟩ [.word connective.word]
      ⟨offset + connective.separator.utf8ByteSize, values, rest⟩ := by
  cases connective with
  | and => exact yields_of_steps? 3 (by simp [Connective.separator]; rfl)
  | or => exact yields_of_steps? 3 (by simp [Connective.separator]; rfl)

/--
Fragments with one connective between them: the first is read as an atom, the others as links.  By
induction on the fragments, each of which but the last is followed by the connective.
-/
theorem reads_join (connective : Connective) {fragments : List Fragment}
    {conditions : List (Expression (List String))} (some_there : fragments ≠ [])
    (each : List.Forall₂ Fragment.IsAtom fragments conditions) (offset : Nat) :
    ∃ tokens first links, (Fragment.join connective.separator fragments).Lexes offset tokens ∧
      (∀ fuel rest, EndsChain rest → 3 * tokens.length < fuel →
        ∃ left, readAtom? fuel (tokens ++ rest) = some (first, left) ∧
          readLinks? fuel left = some (links.map (connective, ·), rest)) ∧
      (first :: links).map (Expression.map Mention.segments) = conditions := by
  induction each generalizing offset with
  | nil => exact absurd rfl some_there
  | @cons fragment condition fragments conditions atom each ih =>
    obtain ⟨tokens, first, lexes, reads, same⟩ := atom offset
    cases each with
    | nil =>
      refine ⟨tokens, first, [], lexes, ?_, by simp [same]⟩
      intro fuel rest ends enough
      exact ⟨rest, reads fuel rest (by omega), readLinks?_of_endsChain ends (by omega)⟩
    | @cons other _ others _ _ _ =>
      obtain ⟨later, second, links, lexes_later, reads_later, same_later⟩ :=
        ih (by simp) (offset + fragment.sql.utf8ByteSize + connective.separator.utf8ByteSize)
      refine ⟨tokens ++ .word connective.word :: later, first, second :: links, ?_, ?_, ?_⟩
      · intro values rest apart
        have joined : Fragment.join connective.separator (fragment :: other :: others) = fragment ++
            .raw connective.separator ++ Fragment.join connective.separator (other :: others) := rfl
        have here := lexes ((Fragment.join connective.separator (other :: others)).params ++ values)
          (connective.separator.toList ++
            ((Fragment.join connective.separator (other :: others)).sql.toList ++ rest))
          (by cases connective <;> simp [Connective.separator, Apart])
        have whole := (here.append (yields_separator connective _ _ _)).append
          (lexes_later values rest apart)
        rw [joined]
        simpa [Nat.add_assoc] using whole
      · intro fuel rest ends enough
        simp only [List.length_append, List.length_cons] at enough
        refine ⟨.word connective.word :: (later ++ rest), ?_, ?_⟩
        · have read := reads fuel (.word connective.word :: (later ++ rest)) (by omega)
          simpa using read
        · cases fuel with
          | zero => omega
          | succ fuel =>
            obtain ⟨left, atom, tail⟩ := reads_later fuel rest ends (by omega)
            simp [readLinks?, Connective.ofWord?_word, atom, tail]
      · rw [List.map_cons, same, same_later]

/-- Fragments with one connective between them are read as the chain of their conditions. -/
theorem isChain_join (connective : Connective) {fragments : List Fragment}
    {first : Expression (List String)} {others : List (Expression (List String))}
    (each : List.Forall₂ Fragment.IsAtom fragments (first :: others)) :
    (Fragment.join connective.separator fragments).IsChain (chain connective first others) := by
  intro offset
  have some_there : fragments ≠ [] := by
    rintro rfl
    cases each
  obtain ⟨tokens, head, links, lexes, reads, same⟩ := reads_join connective some_there each offset
  refine ⟨tokens, chain connective head links, lexes, ?_, ?_⟩
  · intro fuel rest ends enough
    cases fuel with
    | zero => omega
    | succ fuel =>
      obtain ⟨left, atom, tail⟩ := reads fuel rest ends (by omega)
      rw [readChain?, atom]
      simp [tail, assemble_links]
  · rw [List.map_cons, List.cons.injEq] at same
    rw [map_chain, same.1, same.2]

end LinkSearch.Sql
