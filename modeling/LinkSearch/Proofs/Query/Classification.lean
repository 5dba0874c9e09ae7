import LinkSearch.Proofs.Query.Terms
import LinkSearch.Query.Schema
import Mathlib.Data.List.Forall2
import Mathlib.Data.List.Nodup

/-!
# What becomes of one term

A term either has an issue or becomes a condition.  This module states which of the two from the
fields of a schema alone: by the fields that there are, not by the order in which they are looked
through, and by the spellings of a truth value, not by the comparison that accepts them.  A reading
then holds the issues of its terms, one for each term that has one, and the conditions of the
others.
-/

namespace LinkSearch.Query

open LinkSearch.Text LinkSearch.Sql

/-! ### Spellings of truth values -/

/-- The value is the word `true` or `false`, with each letter small or capital. -/
def SpellsBoolean (flag : Bool) (value : String) : Prop :=
  List.Forall₂ (fun letter c => c = letter ∨ c = letter.toUpper)
    (if flag then "true" else "false").toList value.toList

instance (flag : Bool) (value : String) : Decidable (SpellsBoolean flag value) :=
  inferInstanceAs (Decidable (List.Forall₂ _ _ _))

/-- The characters that become a given small letter are that letter and its capital. -/
theorem toLower_eq_iff {c letter : Char} (small : letter.isLower = true) :
    c.toLower = letter ↔ c = letter ∨ c = letter.toUpper := by
  unfold Char.isLower at small
  simp only [Bool.and_eq_true, decide_eq_true_eq] at small
  unfold Char.toLower Char.toUpper
  rw [dif_pos (c := 'a'.val ≤ letter.val ∧ _) small]
  simp only [ge_iff_le, UInt32.le_iff_toNat_le, Char.toNat_val, Char.reduceToNat] at small
  simp only [← Char.val_inj, ← UInt32.toNat_inj]
  split
  · next capital =>
    simp only [ge_iff_le, UInt32.le_iff_toNat_le, Char.toNat_val, Char.reduceToNat] at capital
    simp only [UInt32.toNat_add, Char.toNat_val, Char.reduceVal, UInt32.reduceSub,
      UInt32.reduceToNat]
    omega
  · next other =>
    simp only [ge_iff_le, UInt32.le_iff_toNat_le, Char.toNat_val, Char.reduceToNat] at other
    simp only [UInt32.toNat_add, Char.toNat_val, Char.reduceVal, UInt32.reduceSub,
      UInt32.reduceToNat]
    omega

theorem lowerAscii_eq_iff {word value : List Char}
    (small : ∀ letter ∈ word, letter.isLower = true) :
    lowerAscii value = word ↔
      List.Forall₂ (fun letter c => c = letter ∨ c = letter.toUpper) word value := by
  induction word generalizing value with
  | nil => simp [lowerAscii]
  | cons letter word ih =>
    cases value with
    | nil => simp
    | cons c value =>
      have first := toLower_eq_iff (c := c) (small letter List.mem_cons_self)
      have later := @ih value fun d member => small d (List.mem_cons_of_mem letter member)
      simpa [lowerAscii, first] using fun _ => later

/-- Truth values are read from their spellings and from nothing else. -/
theorem readBoolean?_eq_some_iff {value : String} {flag : Bool} :
    readBoolean? value = some flag ↔ SpellsBoolean flag value := by
  have truth : sameAscii value "true" = true ↔ SpellsBoolean true value := by
    simp only [sameAscii, beq_iff_eq]
    exact lowerAscii_eq_iff (by simp [lowerAscii])
  have falsehood : sameAscii value "false" = true ↔ SpellsBoolean false value := by
    simp only [sameAscii, beq_iff_eq]
    exact lowerAscii_eq_iff (by simp [lowerAscii])
  have apart : sameAscii value "true" = true → ¬ sameAscii value "false" = true := by
    simp only [sameAscii, beq_iff_eq]
    intro first second
    exact absurd (first.symm.trans second) (by decide)
  unfold readBoolean?
  cases flag with
  | true => grind
  | false => grind

/-- A value spells one truth value at most. -/
theorem SpellsBoolean.unique {first second : Bool} {value : String}
    (one : SpellsBoolean first value) (two : SpellsBoolean second value) : first = second :=
  Option.some.inj ((readBoolean?_eq_some_iff.mpr one).symm.trans (readBoolean?_eq_some_iff.mpr two))

/-! ### Issues and conditions -/

/--
What is wrong with a term: no field has its name, or a field of truth values has it and the value
spells none.  The name and the value are those of the term.
-/
def issue? (schema : Schema) : Term → Option Issue
  | .loose _ => none
  | .field name value =>
    if ∀ field ∈ schema.fields, field.name ≠ name then some (.unknownField name)
    else if (∃ field ∈ schema.fields, field.name = name ∧ field.kind = .boolean) ∧
        ∀ flag, ¬ SpellsBoolean flag value then
      some (.invalidBoolean name value)
    else none

/-- A schema has one field of each name, so the order of its fields does not matter. -/
theorem Schema.find?_eq_some_iff {schema : Schema} {name : String} {field : Field} :
    Field.find? schema.fields name = some field ↔ field ∈ schema.fields ∧ field.name = name := by
  constructor
  · intro found
    exact ⟨List.mem_of_find?_eq_some found, by simpa using List.find?_some found⟩
  · rintro ⟨member, rfl⟩
    have present : (Field.find? schema.fields field.name).isSome := by
      rw [Field.find?, List.find?_isSome]
      exact ⟨field, member, by simp⟩
    obtain ⟨other, found⟩ := Option.isSome_iff_exists.mp present
    have named : other.name = field.name := by simpa using List.find?_some found
    have same : other = field :=
      List.inj_on_of_nodup_map schema.names_nodup (List.mem_of_find?_eq_some found) member named
    rw [found, same]

theorem Field.find?_eq_none_iff {fields : List Field} {name : String} :
    Field.find? fields name = none ↔ ∀ field ∈ fields, field.name ≠ name := by
  simp [Field.find?]

/-- A registered field of truth values is the only one of its name. -/
theorem issue?_boolean {schema : Schema} {name value : String} {predicate : Bool → Fragment}
    (registered : .boolean name predicate ∈ schema.fields) :
    issue? schema (.field name value) =
      if ∀ flag, ¬ SpellsBoolean flag value then some (.invalidBoolean name value) else none := by
  have known : ¬ ∀ field ∈ schema.fields, field.name ≠ name :=
    fun unknown => unknown _ registered rfl
  have boolean : ∃ field ∈ schema.fields, field.name = name ∧ field.kind = .boolean :=
    ⟨_, registered, rfl, rfl⟩
  simp [issue?, known, boolean]

/-- A registered field of text takes every value. -/
theorem issue?_string {schema : Schema} {name value : String} {predicate : String → Fragment}
    (registered : .string name predicate ∈ schema.fields) :
    issue? schema (.field name value) = none := by
  have known : ¬ ∀ field ∈ schema.fields, field.name ≠ name :=
    fun unknown => unknown _ registered rfl
  have text : ¬ ∃ field ∈ schema.fields, field.name = name ∧ field.kind = .boolean := by
    rintro ⟨field, member, named, boolean⟩
    have same : field = .string name predicate :=
      List.inj_on_of_nodup_map schema.names_nodup member registered named
    simp [same, Field.kind] at boolean
  rw [issue?, if_neg known, if_neg fun both => text both.1]

/-- The condition that a term without issues becomes. -/
inductive HasCondition (schema : Schema) : Term → Condition → Prop where
  /-- The predicate of the field for the truth value that the term spells. -/
  | boolean {name value : String} {predicate : Bool → Fragment} {flag : Bool}
      (registered : .boolean name predicate ∈ schema.fields) (spelled : SpellsBoolean flag value) :
      HasCondition schema (.field name value) (.field name (predicate flag))
  /-- The predicate of the field for the value as it is written. -/
  | string {name value : String} {predicate : String → Fragment}
      (registered : .string name predicate ∈ schema.fields) :
      HasCondition schema (.field name value) (.field name (predicate value))
  /-- A loose value is kept as it is written. -/
  | loose {value : String} : HasCondition schema (.loose value) (.loose value)

/-- A term is refused with its issue, or becomes its condition if it has none. -/
theorem Term.classify_spec (schema : Schema) (term : Term) :
    (∃ issue, issue? schema term = some issue ∧ term.classify schema.fields = .error issue) ∨
      (∃ condition, issue? schema term = none ∧ HasCondition schema term condition ∧
        term.classify schema.fields = .ok condition) := by
  cases term with
  | loose value => exact .inr ⟨_, rfl, .loose, rfl⟩
  | field name value =>
    cases found : Field.find? schema.fields name with
    | none =>
      refine .inl ⟨.unknownField name, ?_, by simp [Term.classify, found]⟩
      rw [issue?, if_pos (Field.find?_eq_none_iff.mp found)]
    | some field =>
      obtain ⟨registered, rfl⟩ := Schema.find?_eq_some_iff.mp found
      cases field with
      | string name predicate =>
        exact .inr ⟨_, issue?_string registered, .string registered, by
          simp only [Field.name] at found
          simp [Term.classify, Field.name, found]⟩
      | boolean name predicate =>
        simp only [Field.name] at found ⊢
        cases spelling : readBoolean? value with
        | none =>
          refine .inl ⟨.invalidBoolean name value, ?_, by simp [Term.classify, found, spelling]⟩
          rw [issue?_boolean registered, if_pos]
          intro flag spelled
          simp [readBoolean?_eq_some_iff.mpr spelled] at spelling
        | some flag =>
          have spelled := readBoolean?_eq_some_iff.mp spelling
          refine .inr ⟨_, ?_, .boolean registered spelled, by simp [Term.classify, found, spelling]⟩
          rw [issue?_boolean registered, if_neg]
          exact fun unspelled => unspelled flag spelled

theorem HasCondition.classify {schema : Schema} {term : Term} {condition : Condition}
    (becomes : HasCondition schema term condition) :
    term.classify schema.fields = .ok condition := by
  cases becomes with
  | boolean registered spelled =>
    have found := Schema.find?_eq_some_iff.mpr ⟨registered, rfl⟩
    simp only [Field.name] at found
    simp [Term.classify, found, readBoolean?_eq_some_iff.mpr spelled]
  | string registered =>
    have found := Schema.find?_eq_some_iff.mpr ⟨registered, rfl⟩
    simp only [Field.name] at found
    simp [Term.classify, found]
  | loose => rfl

/-- A term has one condition at most. -/
theorem HasCondition.unique {schema : Schema} {term : Term} {first second : Condition}
    (one : HasCondition schema term first) (other : HasCondition schema term second) :
    first = second :=
  Except.ok.inj (one.classify.symm.trans other.classify)

/-! ### Readings -/

/-- The issues of a reading are those of its terms, one for each term that has one, in order. -/
theorem issues_ofOutcomes (schema : Schema) (terms : List Term) :
    (Reading.ofOutcomes (terms.map (Term.classify schema.fields))).issues =
      terms.filterMap (issue? schema) := by
  induction terms with
  | nil => rfl
  | cons term rest ih =>
    rcases Term.classify_spec schema term with
      ⟨issue, faulty, refused⟩ | ⟨condition, sound, _, accepted⟩
    · simp [Reading.ofOutcomes, refused, faulty, ih]
    · simp [Reading.ofOutcomes, accepted, sound, ih]

/-- Without issues each term has its condition in the reading, in order. -/
theorem conditions_ofOutcomes {schema : Schema} {terms : List Term}
    (sound : ∀ term ∈ terms, issue? schema term = none) :
    List.Forall₂ (HasCondition schema) terms
      (Reading.ofOutcomes (terms.map (Term.classify schema.fields))).conditions := by
  induction terms with
  | nil => exact .nil
  | cons term rest ih =>
    rcases Term.classify_spec schema term with
      ⟨issue, faulty, refused⟩ | ⟨condition, _, becomes, accepted⟩
    · simp [sound term List.mem_cons_self] at faulty
    · simp only [List.map_cons, Reading.ofOutcomes, accepted]
      exact .cons becomes (ih fun later member => sound later (List.mem_cons_of_mem term member))

/-- Reading a query takes all its terms apart, unless there are more than five. -/
theorem read_eq_ite (fields : List Field) (query : String) :
    read fields query =
      if (Term.readAll query.toList).length ≤ 5 then
        .ok (.ofOutcomes ((Term.readAll query.toList).map (Term.classify fields)))
      else .error (.tooManyTerms 5) := by
  unfold read
  split
  · next blank =>
    -- The general path would come to the same result.
    rw [Term.readAll_of_separators (List.all_eq_true.mp blank)]
    simp
  · rw [terms_eq_ite]
    split
    · rfl
    · rfl

end LinkSearch.Query
