import LinkSearch.Proofs.Lists
import LinkSearch.Proofs.Sql.Precedence
import LinkSearch.Query.Schema

/-!
# What the conditions of a query ask together

A row that satisfies every condition of a query satisfies its predicate.  The predicate asks for all
conditions together unless a field makes a predicate with an OR outside brackets and there are other
conditions beside it.  Such an OR is not kept apart from the AND around it: it makes alternatives of
the conditions on both its sides.
-/

namespace LinkSearch.Query

open LinkSearch.Sql

variable {columns : List ColumnName}

/--
A row satisfies the condition by itself.  The row says what names stand for: a loose value occurs,
up to the case of ASCII letters, in what one of the columns stands for.
-/
def Condition.IsMet (columns : List ColumnName) (values : List String → Value)
    (affinities : List String → Affinity) : Condition → Prop
  | .field _ predicate =>
    ∃ asked, predicate.condition? = some asked ∧ asked.holds values affinities = true
  | .loose value => ∃ column ∈ columns, ContainsUpToCase (values column.segments).shown value

/-- The leg that a condition adds to a predicate, and its parts. -/
structure Condition.HasParts (columns : List ColumnName) (condition : Condition) (leg : Fragment)
    (parts : Parts (List String)) : Prop where
  predicate : condition.predicate columns = .ok leg
  consists : leg.Consists parts
  /-- The parts hold together just where the condition is met. -/
  holds_iff : ∀ values affinities,
    parts.Holds values affinities ↔ condition.IsMet columns values affinities
  /-- An OR outside brackets comes from the predicate of a field. -/
  not_hasOr : (∀ name predicate, condition = .field name predicate → ¬ predicate.HasOuterOr) →
    ¬ parts.HasOr

theorem exists_hasParts_field {name : String} {predicate : Fragment}
    (whole : predicate.condition?.isSome) :
    ∃ leg parts, Condition.HasParts columns (.field name predicate) leg parts := by
  obtain ⟨asked, read⟩ := Option.isSome_iff_exists.mp whole
  have read_parts := read
  rw [Fragment.condition?_eq] at read_parts
  obtain ⟨parts, found, rfl⟩ := Option.map_eq_some_iff.mp read_parts
  refine ⟨predicate, parts, rfl, Fragment.parts?_eq_some_iff.mp found, ?_, ?_⟩
  · intro values affinities
    rw [← Parts.holds_condition_iff]
    constructor
    · intro holds
      exact ⟨parts.condition, read, holds⟩
    · rintro ⟨other, same, holds⟩
      cases read.symm.trans same
      exact holds
  · intro plain has_or
    exact plain name predicate rfl ⟨parts, found, has_or⟩

theorem exists_hasParts_loose (value : String) (present : columns ≠ []) :
    ∃ leg parts, Condition.HasParts columns (.loose value) leg parts := by
  obtain ⟨first, others, rfl⟩ := List.exists_cons_of_ne_nil present
  have atoms : List.Forall₂ Fragment.IsAtom
      ((first :: others).map (Fragment.contains · value))
      ((first :: others).map fun column => textTest column.segments value) := by
    rw [List.forall₂_map_left_iff, List.forall₂_map_right_iff, List.forall₂_same]
    intro column _
    exact isAtom_contains column value
  refine ⟨_, _, rfl, (isChain_join .or atoms).parenthesized.consists, ?_,
    fun _ => Parts.not_hasOr_single _⟩
  intro values affinities
  rw [Parts.holds_single_iff, holds_chain_or]
  change (∃ part ∈ (first :: others).map fun column => textTest column.segments value,
    part.holds values affinities = true) ↔ _
  constructor
  · rintro ⟨_, test, holds⟩
    obtain ⟨column, member, rfl⟩ := List.mem_map.mp test
    exact ⟨column, member, (holds_textTest_iff value).mp holds⟩
  · rintro ⟨column, member, contains⟩
    exact ⟨_, List.mem_map_of_mem member, (holds_textTest_iff value).mpr contains⟩

/-- These are the legs of the conditions, in order, with their parts. -/
def HaveParts (columns : List ColumnName) (conditions : List Condition)
    (pairs : List (Fragment × Parts (List String))) : Prop :=
  List.Forall₂ (fun condition pair => condition.HasParts columns pair.1 pair.2) conditions pairs

/-- Conditions whose fields make whole conditions have legs, and each leg has its parts. -/
theorem exists_haveParts {conditions : List Condition} (present : columns ≠ [])
    (whole : ∀ name predicate, .field name predicate ∈ conditions → predicate.condition?.isSome) :
    ∃ pairs, HaveParts columns conditions pairs := by
  induction conditions with
  | nil => exact ⟨[], .nil⟩
  | cons condition conditions ih =>
    obtain ⟨pairs, later⟩ := ih fun name predicate member =>
      whole name predicate (List.mem_cons_of_mem _ member)
    have here : ∃ leg parts, condition.HasParts columns leg parts := by
      cases condition with
      | field name leg => exact exists_hasParts_field (whole name leg List.mem_cons_self)
      | loose value => exact exists_hasParts_loose value present
    obtain ⟨leg, parts, has⟩ := here
    exact ⟨(leg, parts) :: pairs, .cons has later⟩

variable {conditions : List Condition} {pair : Fragment × Parts (List String)}
  {pairs : List (Fragment × Parts (List String))}

/-- The predicate is read as one chain of the parts of all legs. -/
theorem HaveParts.exists_predicate (have_parts : HaveParts columns conditions (pair :: pairs)) :
    ∃ fragment, predicate columns conditions = .ok fragment ∧
      fragment.Consists (Parts.join .and pair.2 (pairs.map Prod.snd)) := by
  have legs : List.Forall₂ (fun condition leg => condition.predicate columns = .ok leg)
      conditions ((pair :: pairs).map Prod.fst) := by
    rw [List.forall₂_map_right_iff]
    exact have_parts.imp fun _ _ has => has.predicate
  have some_asked : conditions.isEmpty = false := by
    cases have_parts
    rfl
  refine ⟨Fragment.join " AND " ((pair :: pairs).map Prod.fst), ?_, ?_⟩
  · rw [predicate, some_asked, mapM_eq_ok_iff.mpr legs]
    rfl
  · have consists : ∀ other ∈ pair :: pairs, other.1.Consists other.2 := by
      intro other member
      obtain ⟨condition, _, has⟩ := exists_mem_of_forall₂ have_parts member
      exact has.consists
    refine consists_join .and (consists pair List.mem_cons_self) ?_
    rw [List.forall₂_map_left_iff, List.forall₂_map_right_iff, List.forall₂_same]
    exact fun other member => consists other (List.mem_cons_of_mem _ member)

theorem HaveParts.holds_iff (have_parts : HaveParts columns conditions pairs)
    (values : List String → Value) (affinities : List String → Affinity) :
    (∀ parts ∈ pairs.map Prod.snd, parts.Holds values affinities) ↔
      ∀ condition ∈ conditions, condition.IsMet columns values affinities := by
  apply forall_mem_iff_of_forall₂
  rw [List.forall₂_map_left_iff]
  exact have_parts.flip.imp fun _ _ has => has.holds_iff values affinities

/-- Where no field has an OR outside brackets, no leg has one. -/
theorem HaveParts.not_hasOr (have_parts : HaveParts columns conditions pairs)
    (plain : ∀ name leg, .field name leg ∈ conditions → ¬ leg.HasOuterOr) :
    ∀ parts ∈ pairs.map Prod.snd, ¬ parts.HasOr := by
  rw [List.forall_mem_map]
  intro other member
  obtain ⟨condition, asks, has⟩ := exists_mem_of_forall₂ have_parts member
  apply has.not_hasOr
  rintro name predicate rfl
  exact plain name predicate asks

/-- A predicate with an OR outside brackets, such as the generator of a field may make. -/
def unreadOrStarred : Fragment :=
  .join " OR " [.flagEquals ⟨["unread"], by decide, by decide⟩ true,
    .flagEquals ⟨["starred"], by decide, by decide⟩ true]

theorem isChain_unreadOrStarred : unreadOrStarred.IsChain
    (chain .or (flagTest ["unread"] true) [flagTest ["starred"] true]) :=
  isChain_join .or (.cons (isAtom_flagEquals _ _) (.cons (isAtom_flagEquals _ _) .nil))

theorem consists_unreadOrStarred : unreadOrStarred.Consists
    ⟨flagTest ["unread"] true, [(.or, flagTest ["starred"] true)]⟩ :=
  consists_join .or (isAtom_flagEquals _ _).consists (.cons (isAtom_flagEquals _ _).consists .nil)

def subjectColumn : ColumnName := ⟨["subject"], by decide, by decide⟩

/--
What the predicate of some conditions asks of a row, for predicates of fields that are any whole
conditions.  It is read as one chain of the parts of all legs, in order, with AND between the legs.
It holds where each condition is met by itself.  If there is only one condition, or if no field has
an OR outside brackets, then it holds nowhere else.
-/
theorem predicate_holds_iff {columns : List ColumnName} {conditions : List Condition}
    (present : columns ≠ []) (asked : conditions ≠ [])
    (whole : ∀ name leg, .field name leg ∈ conditions → leg.condition?.isSome) :
    ∃ fragment first others, predicate columns conditions = .ok fragment ∧
      List.Forall₂ (fun condition parts => ∃ leg, condition.predicate columns = .ok leg ∧
        leg.parts? = some parts) conditions (first :: others) ∧
      fragment.parts? = some (Parts.join .and first others) ∧
      fragment.condition? = some (Parts.join .and first others).condition ∧
      ∀ values affinities,
        ((∀ condition ∈ conditions, condition.IsMet columns values affinities) →
          (Parts.join .and first others).condition.holds values affinities = true) ∧
        ((conditions.length = 1 ∨
            ∀ name leg, .field name leg ∈ conditions → ¬ leg.HasOuterOr) →
          ((Parts.join .and first others).condition.holds values affinities = true ↔
            ∀ condition ∈ conditions, condition.IsMet columns values affinities)) := by
  obtain ⟨_ | ⟨pair, pairs⟩, have_parts⟩ := exists_haveParts present whole
  · cases have_parts
    exact absurd rfl asked
  obtain ⟨fragment, made, consists⟩ := have_parts.exists_predicate
  refine ⟨fragment, pair.2, pairs.map Prod.snd, made, ?_, Fragment.parts?_eq_some_iff.mpr consists,
    consists.condition?_eq_some, ?_⟩
  · rw [← List.map_cons, List.forall₂_map_right_iff]
    exact have_parts.imp fun _ other has =>
      ⟨other.1, has.predicate, Fragment.parts?_eq_some_iff.mpr has.consists⟩
  · intro values affinities
    have met := have_parts.holds_iff values affinities
    rw [Parts.holds_condition_iff]
    refine ⟨fun all => Parts.Holds.join (met.mpr all), fun apart => Iff.trans ?_ met⟩
    rcases apart with single | plain
    · have alone : pairs = [] := by
        have same := have_parts.length_eq
        rw [single, List.length_cons] at same
        exact List.length_eq_zero_iff.mp (by omega)
      simp [alone, Parts.join]
    · exact Parts.holds_join_iff (have_parts.not_hasOr plain)

/-- Between brackets the alternatives are kept apart from the other conditions. -/
theorem predicate_holds_iff_bracketed :
    let conditions : List Condition :=
      [.field "either" unreadOrStarred.parenthesized, .loose "jay"]
    (∀ name leg, .field name leg ∈ conditions → leg.condition?.isSome) ∧
    ∃ fragment condition, predicate [subjectColumn] conditions = .ok fragment ∧
      fragment.condition? = some condition ∧
      ∀ values affinities, condition.holds values affinities = true ↔
        ∀ condition ∈ conditions, condition.IsMet [subjectColumn] values affinities := by
  intro conditions
  have atom := isChain_unreadOrStarred.parenthesized
  have one_leg {name : String} {leg : Fragment} (asked : .field name leg ∈ conditions) :
      leg = unreadOrStarred.parenthesized := by
    simp only [conditions, List.mem_cons, Condition.field.injEq, reduceCtorEq, List.not_mem_nil,
      or_false] at asked
    exact asked.2
  have whole : ∀ name leg, .field name leg ∈ conditions → leg.condition?.isSome := by
    intro name leg asked
    rw [one_leg asked]
    exact Option.isSome_of_eq_some atom.consists.condition?_eq_some
  have plain : ∀ name leg, .field name leg ∈ conditions → ¬ leg.HasOuterOr := by
    intro name leg asked
    rw [one_leg asked]
    exact atom.not_hasOuterOr
  obtain ⟨fragment, first, others, made, _, _, read, holds⟩ :=
    predicate_holds_iff (List.cons_ne_nil subjectColumn []) (List.cons_ne_nil _ _) whole
  exact ⟨whole, fragment, _, made, read, fun values affinities =>
    (holds values affinities).2 (.inr plain)⟩

/--
Without brackets they are not: an unread row passes, although its subject does not contain the loose
value.
-/
theorem outer_alternatives_not_kept_together :
    let conditions : List Condition := [.field "either" unreadOrStarred, .loose "jay"]
    let values : List String → Value := fun name =>
      if name = ["subject"] then .text "owl" else .integer 1
    let affinities : List String → Affinity := fun name =>
      if name = ["subject"] then .text else .numeric
    unreadOrStarred.condition?.isSome ∧
    ∃ fragment condition, predicate [subjectColumn] conditions = .ok fragment ∧
      fragment.sql = "\x22unread\x22 = ? OR \x22starred\x22 = ? AND " ++
        "(instr(lower(\x22subject\x22), lower(?)) != 0)" ∧
      fragment.condition? = some condition ∧ condition.holds values affinities = true ∧
      ¬ (Condition.loose "jay").IsMet [subjectColumn] values affinities := by
  intro conditions values affinities
  have loose :=
    (isChain_join .or (.cons (isAtom_contains subjectColumn "jay") .nil)).parenthesized.consists
  have joined := consists_join .and consists_unreadOrStarred (.cons loose .nil)
  have whole := Option.isSome_of_eq_some consists_unreadOrStarred.condition?_eq_some
  refine ⟨whole, _, _, rfl, by decide, joined.condition?_eq_some, ?_, ?_⟩
  · have stored : values ["unread"] = .integer 1 := rfl
    have unread : (flagTest ["unread"] true).holds values affinities = true :=
      (holds_flagTest true stored rfl).mpr rfl
    rw [Parts.holds_condition_iff]
    exact .inl unread
  · rintro ⟨column, member, contains⟩
    obtain rfl := List.mem_singleton.mp member
    have inside : Text.lowerAscii "jay".toList <:+: Text.lowerAscii "owl".toList :=
      lowerAscii_infix_iff.mpr contains
    exact absurd inside (by decide)

end LinkSearch.Query
