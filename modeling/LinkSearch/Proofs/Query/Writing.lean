import LinkSearch.Proofs.Query.Continuation
import Mathlib.Data.List.Forall2

/-!
# Writing terms

There is no way to write a quote inside quotes, so not every term can be written in a query.  This
module says which terms can: every term that is read from a query is one of them, and each of them
is read back from what is written for it.  The only texts that are hard to write are those that hold
all three quotes; they have to stand bare, and a loose one among them must not look like a field.
-/

namespace LinkSearch.Query

open LinkSearch.Text
open Direct (isPlain)

namespace Term

/-- A value that can be enclosed in a quote that it does not hold, or that can stand bare. -/
def IsWritableValue (value : List Char) : Prop :=
  (∃ quote, isQuote quote = true ∧ quote ∉ value) ∨
    ∃ first more, value = first :: more ∧ isQuote first = false ∧
      ∀ c ∈ value, isSeparator c = false

/-- Each of the three quotes occurs in the value. -/
def HoldsAllQuotes (value : List Char) : Prop := ∀ quote, isQuote quote = true → quote ∈ value

/-- A term that can be written in a query. -/
def IsWritable : Term → Prop
  | .field name value => isQueryable name = true ∧ IsWritableValue value.toList
  | .loose value => IsWritableValue value.toList ∧ (HoldsAllQuotes value.toList →
      ∀ name rest, isQueryable name = true → rest ≠ "" → value ≠ name ++ ":" ++ rest)

/-- How a value is written: in any quote that it does not hold, or bare if it holds all of them. -/
inductive WritesValue : List Char → List Char → Prop where
  | quoted {quote : Char} {value : List Char} (mark : isQuote quote = true)
      (absent : quote ∉ value) : WritesValue value (quote :: (value ++ [quote]))
  | bare {value : List Char} (all : HoldsAllQuotes value) : WritesValue value value

/-- How a term is written: its value, after the name and a colon if it has a name. -/
inductive Writes : Term → List Char → Prop where
  | field {name value : String} {text : List Char} (writes : WritesValue value.toList text) :
      Writes (.field name value) (name.toList ++ ':' :: text)
  | loose {value : String} {text : List Char} (writes : WritesValue value.toList text) :
      Writes (.loose value) text

theorem isQueryable_iff {name : String} :
    isQueryable name = true ↔ name.toList ≠ [] ∧ ∀ c ∈ name.toList, isPlain c = true := by
  simp only [isQueryable, isFieldName, Bool.and_eq_true, Bool.not_eq_true',
    List.isEmpty_eq_false_iff, List.all_eq_true, isNameChar, isPlain_iff, List.contains_eq_mem,
    decide_eq_false_iff_not]
  constructor
  · rintro ⟨⟨filled, named⟩, colon⟩
    refine ⟨filled, fun c member => ?_⟩
    obtain ⟨separator, quote⟩ := named c member
    exact ⟨separator, quote, fun same => colon (same ▸ member)⟩
  · rintro ⟨filled, plain⟩
    refine ⟨⟨filled, fun c member => ⟨(plain c member).1, (plain c member).2.1⟩⟩, fun member => ?_⟩
    exact (plain ':' member).2.2 rfl

theorem exists_writesValue (value : List Char) : ∃ text, WritesValue value text := by
  by_cases all : HoldsAllQuotes value
  · exact ⟨value, .bare all⟩
  · unfold HoldsAllQuotes at all
    push Not at all
    obtain ⟨quote, mark, absent⟩ := all
    exact ⟨_, .quoted mark absent⟩

theorem exists_writes (term : Term) : ∃ text, Writes term text := by
  cases term with
  | field name value =>
    obtain ⟨text, writes⟩ := exists_writesValue value.toList
    exact ⟨_, .field writes⟩
  | loose value =>
    obtain ⟨text, writes⟩ := exists_writesValue value.toList
    exact ⟨text, .loose writes⟩

/-! ### Terms that are read -/

theorem isWritableValue_readValue {c : Char} (rest : List Char) (visible : isSeparator c = false) :
    IsWritableValue (readValue c rest).1 := by
  rcases hasValue_or_open rest visible with ⟨value, after, has⟩ | ⟨mark, absent⟩
  · rw [has.readValue]
    cases has with
    | quoted _ mark absent => exact .inl ⟨_, mark, absent⟩
    | bare plain whole => exact .inr ⟨_, _, rfl, plain, whole⟩
  · rw [readValue, if_pos mark, readQuoted_of_open absent]
    exact .inl ⟨c, mark, absent⟩

/-- A loose value with all quotes is bare, and a bare value that looks like a field is one. -/
theorem namesField_of_readValue {c : Char} {rest name more : List Char}
    (visible : isSeparator c = false) (all : HoldsAllQuotes (readValue c rest).1)
    (filled : name ≠ []) (plain : ∀ d ∈ name, isPlain d = true) (present : more ≠ [])
    (looks : (readValue c rest).1 = name ++ ':' :: more) : NamesField (c :: rest) := by
  rcases hasValue_or_open rest visible with ⟨value, after, has⟩ | ⟨mark, absent⟩
  · rw [has.readValue] at all looks
    dsimp only at all looks
    cases has with
    | quoted _ mark absent => exact absurd (all _ mark) absent
    | bare _ whole =>
      obtain ⟨next, more, rfl⟩ := List.exists_cons_of_ne_nil present
      refine ⟨name, next, more ++ after, filled, plain, whole next ?_, ?_⟩
      · rw [looks]
        simp
      · rw [← List.cons_append, looks]
        simp
  · rw [readValue, if_pos mark, readQuoted_of_open absent] at all
    exact absurd (all c mark) absent

theorem isWritable_read {c : Char} (rest : List Char) (visible : isSeparator c = false) :
    (read c rest).1.IsWritable := by
  by_cases named : NamesField (c :: rest)
  · obtain ⟨name, next, more, filled, plain, visible_next, text⟩ := named
    rw [read_of_name filled plain visible_next text]
    refine ⟨isQueryable_iff.mpr ?_, ?_⟩
    · simpa using And.intro filled plain
    · simpa using isWritableValue_readValue more visible_next
  · rw [read_of_unnamed named]
    refine ⟨by simpa using isWritableValue_readValue rest visible, ?_⟩
    intro all name more queryable present looks
    obtain ⟨filled, plain⟩ := isQueryable_iff.mp queryable
    rw [← String.toList_inj] at looks
    apply named
    apply namesField_of_readValue visible _ filled plain
      (fun empty => present (String.toList_eq_nil_iff.mp empty))
    · simpa using looks
    · simpa using all

theorem isWritable_of_mem_readAll {s : List Char} {term : Term} (member : term ∈ readAll s) :
    term.IsWritable := by
  fun_induction readAll s with
  | case1 => simp at member
  | case2 c rest separator ih => exact ih member
  | case3 c rest plain _ ih =>
    rcases List.mem_cons.mp member with rfl | member
    · exact isWritable_read rest (Bool.not_eq_true _ ▸ plain)
    · exact ih member

/-! ### Terms that are written -/

theorem WritesValue.hasValue {value text more : List Char} (writes : WritesValue value text)
    (writable : IsWritableValue value) (apart : StartsApart more) :
    HasValue (text ++ more) value more := by
  cases writes with
  | quoted mark absent => simpa using HasValue.quoted more mark absent
  | bare all =>
    rcases writable with ⟨quote, mark, absent⟩ | ⟨first, rest, rfl, plain, whole⟩
    · exact absurd (all quote mark) absent
    · exact .bare plain whole apart

/-- What is written for a loose term does not look like a field. -/
theorem WritesValue.not_namesField {value : String} {text : List Char}
    (writes : WritesValue value.toList text) (writable : (loose value).IsWritable) :
    ¬ NamesField text := by
  rintro ⟨name, next, more, filled, plain, visible, look⟩
  cases writes with
  | @quoted quote _ mark =>
    obtain ⟨first, name, rfl⟩ := List.exists_cons_of_ne_nil filled
    have same : quote = first := by simpa using congrArg List.head? look
    have no_quote := (isPlain_iff.mp (plain first List.mem_cons_self)).2.1
    rw [← same, mark] at no_quote
    cases no_quote
  | bare all =>
    apply writable.2 all (String.ofList name) (String.ofList (next :: more))
    · rw [isQueryable_iff]
      simpa using And.intro filled plain
    · simp
    · rw [← String.toList_inj, look]
      simp

theorem Writes.hasTerm {term : Term} {text more : List Char} (writes : Writes term text)
    (writable : term.IsWritable) (apart : StartsApart more) : HasTerm (text ++ more) term more := by
  cases writes with
  | @field name value text writes =>
    obtain ⟨filled, plain⟩ := isQueryable_iff.mp writable.1
    simpa using HasTerm.field filled plain (writes.hasValue writable.2 apart)
  | loose writes =>
    have unnamed := not_namesField_append (writes.not_namesField writable) apart
    simpa using HasTerm.loose unnamed (writes.hasValue writable.1 apart)

/-- Each written term ends at the space behind it, so that the next one is read from its start. -/
theorem readAll_of_writes {terms : List Term} {texts : List (List Char)}
    (each : List.Forall₂ Writes terms texts) (writable : ∀ term ∈ terms, term.IsWritable) :
    readAll ([' '].intercalate texts) = terms := by
  have space : isSeparator ' ' = true := rfl
  induction each with
  | nil => simp
  | @cons term text terms texts writes others ih =>
    have later := ih fun other member => writable other (List.mem_cons_of_mem term member)
    have first := writable term List.mem_cons_self
    cases others with
    | nil =>
      have has := writes.hasTerm first StartsApart.nil
      rw [List.append_nil] at has
      simpa using has.readAll
    | cons =>
      rw [List.intercalate_cons_cons, List.append_assoc, List.singleton_append,
        (writes.hasTerm first (startsApart_cons.mpr space)).readAll,
        readAll_cons_of_isSeparator space, later]

end Term

/--
Some query has exactly these terms if there are at most five of them and each can be written.  Then
the query that writes each of them, with one space between each two, has exactly these terms,
whatever quotes are chosen; and there is a way to write each.
-/
theorem exists_terms_iff :
    (∀ all : List Term, (∃ query, terms query = .ok all) ↔
      all.length ≤ 5 ∧ ∀ term ∈ all, term.IsWritable) ∧
    (∀ (all : List Term) (texts : List (List Char)), all.length ≤ 5 →
      (∀ term ∈ all, term.IsWritable) → List.Forall₂ Term.Writes all texts →
      terms (String.ofList ([' '].intercalate texts)) = .ok all) ∧
    ∀ all : List Term, ∃ texts, List.Forall₂ Term.Writes all texts := by
  have written (all : List Term) (texts : List (List Char)) (fits : all.length ≤ 5)
      (writable : ∀ term ∈ all, term.IsWritable) (each : List.Forall₂ Term.Writes all texts) :
      terms (String.ofList ([' '].intercalate texts)) = .ok all := by
    rw [terms_eq_ite, String.toList_ofList, Term.readAll_of_writes each writable, if_pos fits]
  have possible (all : List Term) : ∃ texts, List.Forall₂ Term.Writes all texts := by
    induction all with
    | nil => exact ⟨[], .nil⟩
    | cons term all ih =>
      obtain ⟨texts, each⟩ := ih
      obtain ⟨text, writes⟩ := Term.exists_writes term
      exact ⟨text :: texts, .cons writes each⟩
  refine ⟨fun all => ⟨?_, ?_⟩, written, possible⟩
  · rintro ⟨query, read⟩
    rw [terms_eq_ite] at read
    split at read
    · next fits =>
      cases read
      exact ⟨fits, fun _ => Term.isWritable_of_mem_readAll⟩
    · cases read
  · rintro ⟨fits, writable⟩
    obtain ⟨texts, each⟩ := possible all
    exact ⟨_, written all texts fits writable each⟩

/-- A value of two words after a name, and a loose value that holds all three quotes. -/
theorem exists_terms_iff_all_quotes :
    (∀ term ∈ [Term.field "title" "a \"b\"", .loose "c'\x60\""], term.IsWritable) ∧
      terms "title:'a \"b\"' c'\x60\"" =
        .ok [.field "title" "a \"b\"", .loose "c'\x60\""] := by
  have writable : ∀ term ∈ [Term.field "title" "a \"b\"", .loose "c'\x60\""],
      term.IsWritable := by
    simp only [List.forall_mem_cons, List.not_mem_nil, false_implies, implies_true, and_true]
    have bare : ∀ c ∈ "c'\x60\"".toList, isSeparator c = false := by
      simp [isSeparator, isWhiteSpace]
    refine ⟨⟨by decide, .inl ⟨'\x27', rfl, by decide⟩⟩, .inr ⟨'c', _, rfl, rfl, bare⟩, ?_⟩
    intro _ name rest _ _ same
    have colon : ':' ∈ "c'\x60\"".toList := by rw [same]; simp
    exact absurd colon (by decide)
  have all (quote : Char) (mark : isQuote quote = true) : quote ∈ "c'\x60\"".toList := by
    simp only [isQuote, Bool.or_eq_true, beq_iff_eq] at mark
    rcases mark with (rfl | rfl) | rfl <;> decide
  have absent : '\x27' ∉ "a \"b\"".toList := by decide
  exact ⟨writable, exists_terms_iff.2.1 [.field "title" "a \"b\"", .loose "c'\x60\""]
    ["title:'a \"b\"'".toList, "c'\x60\"".toList] (by decide) writable
    (.cons (.field (.quoted rfl absent)) (.cons (.loose (.bare all)) .nil))⟩

end LinkSearch.Query
