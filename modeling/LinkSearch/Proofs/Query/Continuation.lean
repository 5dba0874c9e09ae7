import LinkSearch.Proofs.Query.DirectReading
import Mathlib.Data.List.TakeWhile

/-!
# What follows a term

A term is settled if it is bare up to a separator or the end, or its quotes are closed.  A settled
term stays as it is whatever is written after it, if that begins with a separator or if the text
goes on behind the term.  The only other term is one in a quote that is still open, which takes in
everything that follows it.  So a text is closed, and what follows it after a separator is read as
it would be alone, or its last term changes with any text that follows.  The terms before the last
one never change.
-/

namespace LinkSearch.Query

open LinkSearch.Text
open Direct (isPlain)

namespace Term

/-- A text that no bare value before it goes on into: it is empty or begins with a separator. -/
def StartsApart (s : List Char) : Prop := ∀ c ∈ s.head?, isSeparator c = true

theorem StartsApart.nil : StartsApart [] := by simp [StartsApart]

theorem startsApart_cons {c : Char} {s : List Char} :
    StartsApart (c :: s) ↔ isSeparator c = true := by
  simp [StartsApart]

theorem StartsApart.append {gap s : List Char} (first : StartsApart gap)
    (second : gap = [] → StartsApart s) : StartsApart (gap ++ s) := by
  cases gap with
  | nil => exact second rfl
  | cons c gap => exact startsApart_cons.mpr (startsApart_cons.mp first)

/-! ### Values -/

/-- The value that a text begins with, and what follows it, if the value is settled. -/
inductive HasValue : List Char → List Char → List Char → Prop where
  /-- Between a quote and the next one of its kind. -/
  | quoted {quote : Char} {value : List Char} (after : List Char) (mark : isQuote quote = true)
      (absent : quote ∉ value) : HasValue (quote :: (value ++ quote :: after)) value after
  /-- Up to a separator or the end. -/
  | bare {first : Char} {more after : List Char} (plain : isQuote first = false)
      (whole : ∀ c ∈ first :: more, isSeparator c = false) (apart : StartsApart after) :
      HasValue (first :: (more ++ after)) (first :: more) after

theorem readQuoted_of_closed {quote : Char} {value : List Char} (after : List Char)
    (absent : quote ∉ value) : readQuoted quote (value ++ quote :: after) = (value, after) := by
  have other : ∀ c ∈ value, (c != quote) = true := by
    intro c member
    simpa using fun same : c = quote => absent (same ▸ member)
  simp [readQuoted, List.takeWhile_append_of_pos other, List.dropWhile_append_of_pos other]

/-- Without a closing quote all that follows is the value. -/
theorem readQuoted_of_open {quote : Char} {body : List Char} (absent : quote ∉ body) :
    readQuoted quote body = (body, []) := by
  have other : ∀ c ∈ body, (c != quote) = true := by
    intro c member
    simpa using fun same : c = quote => absent (same ▸ member)
  rw [readQuoted, List.takeWhile_eq_self_iff.mpr other, List.dropWhile_eq_nil_iff.mpr other]
  rfl

theorem readBare_append {word after : List Char} (whole : ∀ c ∈ word, isSeparator c = false)
    (apart : StartsApart after) : readBare (word ++ after) = (word, after) := by
  have visible : ∀ c ∈ word, (!isSeparator c) = true := by simpa using whole
  rw [readBare, List.takeWhile_append_of_pos visible, List.dropWhile_append_of_pos visible]
  cases after with
  | nil => simp
  | cons c after => simp [startsApart_cons.mp apart]

theorem HasValue.readValue {c : Char} {rest value after : List Char}
    (has : HasValue (c :: rest) value after) : readValue c rest = (value, after) := by
  cases has with
  | quoted after mark absent => rw [Term.readValue, if_pos mark, readQuoted_of_closed _ absent]
  | bare plain whole apart =>
    rw [Term.readValue, if_neg (by simp [plain])]
    exact readBare_append whole apart

/-- A value is settled, or it stands in a quote that is never closed. -/
theorem hasValue_or_open {c : Char} (rest : List Char) (visible : isSeparator c = false) :
    (∃ value after, HasValue (c :: rest) value after) ∨ isQuote c = true ∧ c ∉ rest := by
  by_cases mark : isQuote c = true
  · by_cases closed : c ∈ rest
    · obtain ⟨value, after, rfl, absent⟩ := List.eq_append_cons_of_mem closed
      exact .inl ⟨_, _, .quoted after mark absent⟩
    · exact .inr ⟨mark, closed⟩
  · have whole : ∀ d ∈ c :: rest.takeWhile (!isSeparator ·), isSeparator d = false := by
      intro d member
      rcases List.mem_cons.mp member with rfl | member
      · exact visible
      · simpa using List.mem_takeWhile_imp member
    have apart : StartsApart (rest.dropWhile (!isSeparator ·)) := by
      intro d first
      have stop := List.head?_dropWhile_not (!isSeparator ·) rest
      rw [Option.mem_def.mp first] at stop
      simpa using stop
    have has := HasValue.bare (by simpa using mark) whole apart
    rw [List.takeWhile_append_dropWhile] at has
    exact .inl ⟨_, _, has⟩

theorem HasValue.visible {s value after : List Char} (has : HasValue s value after) :
    ∃ c rest, s = c :: rest ∧ isSeparator c = false := by
  cases has with
  | quoted _ mark => exact ⟨_, _, rfl, not_isSeparator_of_isQuote mark⟩
  | bare _ whole => exact ⟨_, _, rfl, whole _ List.mem_cons_self⟩

/-- A settled value stays as it is, unless text is written right behind it. -/
theorem HasValue.append {s value after more : List Char} (has : HasValue s value after)
    (apart : after = [] → StartsApart more) : HasValue (s ++ more) value (after ++ more) := by
  cases has with
  | quoted after mark absent => simpa using HasValue.quoted (after ++ more) mark absent
  | bare plain whole apart_after => simpa using HasValue.bare plain whole (apart_after.append apart)

/-! ### Terms -/

/-- A text that begins with the name of a field, a colon and a value. -/
def NamesField (s : List Char) : Prop :=
  ∃ name next more, name ≠ [] ∧ (∀ c ∈ name, isPlain c = true) ∧ isSeparator next = false ∧
    s = name ++ ':' :: next :: more

theorem read_of_name {c next : Char} {rest name more : List Char} (filled : name ≠ [])
    (plain : ∀ c ∈ name, isPlain c = true) (visible : isSeparator next = false)
    (text : c :: rest = name ++ ':' :: next :: more) :
    read c rest = (.field (String.ofList name) (String.ofList (readValue next more).1),
      (readValue next more).2) := by
  have found := readField?_eq_some_iff.mpr
    ⟨name, next, more, filled, plain, visible, text, rfl, rfl⟩
  rw [read, found]
  rfl

theorem read_of_unnamed {c : Char} {rest : List Char} (unnamed : ¬ NamesField (c :: rest)) :
    read c rest = (.loose (String.ofList (readValue c rest).1), (readValue c rest).2) := by
  unfold read
  cases found : readField? (c :: rest) with
  | none => rfl
  | some pair =>
    obtain ⟨name, next, more, filled, plain, visible, text, _⟩ := readField?_eq_some_iff.mp found
    exact absurd ⟨name, next, more, filled, plain, visible, text⟩ unnamed

/-- No text that is written apart makes a field of a text before it. -/
theorem not_namesField_append {s more : List Char} (unnamed : ¬ NamesField s)
    (apart : StartsApart more) : ¬ NamesField (s ++ more) := by
  rintro ⟨name, next, later, filled, plain, visible, text⟩
  have split : s ++ more = (name ++ [':', next]) ++ later := by simpa using text
  rcases List.append_eq_append_iff.mp split with ⟨missing, start, rfl⟩ | ⟨surplus, rfl, rfl⟩
  · cases missing with
    | nil => exact unnamed ⟨name, next, [], filled, plain, visible, by simpa using start.symm⟩
    | cons c missing =>
      -- The first character of what is appended would have to be no separator.
      have separator : isSeparator c = true := startsApart_cons.mp apart
      have member : c ∈ name ∨ c = ':' ∨ c = next := by
        have inside : c ∈ name ++ [':', next] := by simp [start]
        simpa using inside
      rcases member with inside | rfl | rfl
      · simp [(isPlain_iff.mp (plain c inside)).1] at separator
      · exact absurd separator (by decide)
      · simp [visible] at separator
  · exact unnamed ⟨name, next, surplus, filled, plain, visible, by simp⟩

theorem NamesField.append {s : List Char} (named : NamesField s) (more : List Char) :
    NamesField (s ++ more) := by
  obtain ⟨name, next, later, filled, plain, visible, rfl⟩ := named
  exact ⟨name, next, later ++ more, filled, plain, visible, by simp⟩

theorem not_namesField_of_isQuote {quote : Char} (mark : isQuote quote = true) (s : List Char) :
    ¬ NamesField (quote :: s) := by
  rintro ⟨name, next, more, filled, plain, _, text⟩
  obtain ⟨c, name, rfl⟩ := List.exists_cons_of_ne_nil filled
  obtain ⟨rfl, _⟩ := List.cons.inj text
  simp [(isPlain_iff.mp (plain quote List.mem_cons_self)).2.1] at mark

/-- Behind a settled value no text makes a field of what comes before. -/
theorem HasValue.not_namesField_append {s value after more : List Char}
    (has : HasValue s value after) (unnamed : ¬ NamesField s)
    (apart : after = [] → StartsApart more) : ¬ NamesField (s ++ more) := by
  cases has with
  | quoted after mark => exact not_namesField_of_isQuote mark _
  | @bare first word after _ _ apart_after =>
    have alone : ¬ NamesField (first :: word) := fun named => unnamed (named.append after)
    simpa using Term.not_namesField_append alone (apart_after.append apart)

/-- The term that a text begins with, and what follows it, if the term is settled. -/
inductive HasTerm : List Char → Term → List Char → Prop where
  | field {name text value after : List Char} (filled : name ≠ [])
      (plain : ∀ c ∈ name, isPlain c = true) (has : HasValue text value after) :
      HasTerm (name ++ ':' :: text) (.field (String.ofList name) (String.ofList value)) after
  | loose {text value after : List Char} (unnamed : ¬ NamesField text)
      (has : HasValue text value after) : HasTerm text (.loose (String.ofList value)) after

theorem HasTerm.read {c : Char} {rest after : List Char} {term : Term}
    (has : HasTerm (c :: rest) term after) : read c rest = (term, after) := by
  generalize text_eq : c :: rest = s at has
  cases has with
  | field filled plain has =>
    obtain ⟨next, more, rfl, visible⟩ := has.visible
    rw [read_of_name filled plain visible text_eq, has.readValue]
  | loose unnamed has =>
    subst text_eq
    rw [read_of_unnamed unnamed, has.readValue]

/-- A settled term stays as it is, unless text is written right behind it. -/
theorem HasTerm.append {s after more : List Char} {term : Term} (has : HasTerm s term after)
    (apart : after = [] → StartsApart more) : HasTerm (s ++ more) term (after ++ more) := by
  cases has with
  | field filled plain has => simpa using HasTerm.field filled plain (has.append apart)
  | loose unnamed has => exact .loose (has.not_namesField_append unnamed apart) (has.append apart)

/-- A text is read from its first term on. -/
theorem HasTerm.readAll {s after : List Char} {term : Term} (has : HasTerm s term after) :
    readAll s = term :: readAll after := by
  have visible : ∃ c rest, s = c :: rest ∧ isSeparator c = false := by
    cases has with
    | @field name _ _ _ filled plain has =>
      obtain ⟨c, name, rfl⟩ := List.exists_cons_of_ne_nil filled
      exact ⟨c, _, rfl, (isPlain_iff.mp (plain c List.mem_cons_self)).1⟩
    | loose _ has => exact has.visible
  obtain ⟨c, rest, rfl, visible⟩ := visible
  rw [readAll_cons visible, has.read]

/-- A value in an open quote takes in at least the first character of what is written apart. -/
theorem readValue_of_open {quote c : Char} {body more : List Char} (mark : isQuote quote = true)
    (absent : quote ∉ body) (separator : isSeparator c = true) :
    (readValue quote (body ++ c :: more)).1 ≠ (readValue quote body).1 := by
  have other : ∀ d ∈ body, (d != quote) = true := by
    intro d member
    simpa using fun same : d = quote => absent (same ▸ member)
  have different : c ≠ quote := by
    rintro rfl
    simp [not_isSeparator_of_isQuote mark] at separator
  rw [readValue, readValue, if_pos mark, if_pos mark, readQuoted_of_open absent, readQuoted,
    List.takeWhile_append_of_pos other, List.takeWhile_cons_of_pos (by simpa using different)]
  simp

/-- A term is settled, or it takes in all of its text and changes with any text written apart. -/
theorem hasTerm_or_open {c : Char} (rest : List Char) (visible : isSeparator c = false) :
    HasTerm (c :: rest) (read c rest).1 (read c rest).2 ∨
      (read c rest).2 = [] ∧ ∀ d more, isSeparator d = true →
        (read c (rest ++ d :: more)).1 ≠ (read c rest).1 := by
  by_cases named : NamesField (c :: rest)
  · obtain ⟨name, next, more, filled, plain, visible_next, text⟩ := named
    rw [read_of_name filled plain visible_next text]
    rcases hasValue_or_open more visible_next with ⟨value, after, has⟩ | ⟨mark, absent⟩
    · rw [text, has.readValue]
      exact .inl (.field filled plain has)
    · refine .inr ⟨by rw [readValue, if_pos mark, readQuoted_of_open absent], ?_⟩
      intro d later separator
      have longer : c :: (rest ++ d :: later) = name ++ ':' :: next :: (more ++ d :: later) := by
        rw [← List.cons_append, text]
        simp
      rw [read_of_name filled plain visible_next longer]
      simpa [String.ofList_inj] using readValue_of_open mark absent separator
  · rw [read_of_unnamed named]
    rcases hasValue_or_open rest visible with ⟨value, after, has⟩ | ⟨mark, absent⟩
    · rw [has.readValue]
      exact .inl (.loose named has)
    · refine .inr ⟨by rw [readValue, if_pos mark, readQuoted_of_open absent], ?_⟩
      intro d later separator
      have unnamed : ¬ NamesField (c :: (rest ++ d :: later)) :=
        not_namesField_append named (startsApart_cons.mpr separator)
      rw [read_of_unnamed unnamed]
      simpa [String.ofList_inj] using readValue_of_open mark absent separator

/-! ### Closed texts -/

/-- A text after which everything written apart is read as it would be alone. -/
def IsClosed (s : List Char) : Prop :=
  ∀ more, StartsApart more → readAll (s ++ more) = readAll s ++ readAll more

/-- A text is closed, or its last term changes with any text written apart. -/
theorem isClosed_or_open (s : List Char) :
    IsClosed s ∨ ∃ before last, readAll s = before ++ [last] ∧
      ∀ d more, isSeparator d = true → ∃ longer later, longer ≠ last ∧
        readAll (s ++ d :: more) = before ++ longer :: later := by
  fun_induction readAll s with
  | case1 => exact .inl fun more _ => by simp
  | case2 c rest separator ih =>
    rcases ih with closed | ⟨before, last, terms, grows⟩
    · refine .inl fun more apart => ?_
      rw [List.cons_append, readAll_cons_of_isSeparator separator, closed more apart,
        readAll_cons_of_isSeparator separator]
    · refine .inr ⟨before, last, terms, fun d more separator_more => ?_⟩
      rw [List.cons_append, readAll_cons_of_isSeparator separator]
      exact grows d more separator_more
  | case3 c rest plain _ ih =>
    have visible : isSeparator c = false := Bool.not_eq_true _ ▸ plain
    rcases hasTerm_or_open rest visible with has | ⟨taken, grows⟩
    · rcases ih with closed | ⟨before, last, terms, grows⟩
      · refine .inl fun more apart => ?_
        rw [(has.append fun _ => apart).readAll, closed more apart, has.readAll, List.cons_append]
      · refine .inr ⟨(read c rest).1 :: before, last, by rw [terms, List.cons_append], ?_⟩
        intro d more separator
        obtain ⟨longer, later, different, read_more⟩ := grows d more separator
        refine ⟨longer, later, different, ?_⟩
        have apart : StartsApart (d :: more) := startsApart_cons.mpr separator
        rw [(has.append fun _ => apart).readAll, read_more, List.cons_append]
    · refine .inr ⟨[], (read c rest).1, by rw [taken]; simp, ?_⟩
      intro d more separator
      refine ⟨_, readAll (read c (rest ++ d :: more)).2, grows d more separator, ?_⟩
      rw [List.cons_append, readAll_cons visible]
      rfl

/-- A text whose terms stay the same when separators follow is closed. -/
theorem isClosed_of_readAll_eq {s gap : List Char} (present : gap ≠ [])
    (separators : ∀ c ∈ gap, isSeparator c = true) (same : readAll (s ++ gap) = readAll s) :
    IsClosed s := by
  rcases isClosed_or_open s with closed | ⟨before, last, terms, grows⟩
  · exact closed
  · obtain ⟨d, gap, rfl⟩ := List.exists_cons_of_ne_nil present
    obtain ⟨longer, later, different, read_gap⟩ := grows d gap (separators d List.mem_cons_self)
    rw [read_gap, terms, List.append_cancel_left_eq] at same
    exact absurd (List.cons.inj same).1 different

/-! ### Longer texts -/

/-- Whatever follows a text, no term is taken away, and those before the last one stay. -/
theorem dropLast_readAll_prefix (s more : List Char) :
    (readAll s).length ≤ (readAll (s ++ more)).length ∧
      (readAll s).dropLast <+: readAll (s ++ more) := by
  fun_induction readAll s with
  | case1 => simp
  | case2 c rest separator ih =>
    rwa [List.cons_append, readAll_cons_of_isSeparator separator]
  | case3 c rest plain _ ih =>
    have visible : isSeparator c = false := Bool.not_eq_true _ ▸ plain
    by_cases last : readAll (read c rest).2 = []
    · -- The last term may change, but some term remains in its place.
      rw [last, List.cons_append, readAll_cons visible]
      simp
    · have goes_on : (read c rest).2 ≠ [] := fun nothing => last (by rw [nothing, readAll_nil])
      have has := (hasTerm_or_open rest visible).resolve_right fun taken => goes_on taken.1
      have apart : (read c rest).2 = [] → StartsApart more := fun nothing => absurd nothing goes_on
      rw [(has.append apart).readAll, List.dropLast_cons_of_ne_nil last, List.prefix_cons_inj,
        List.length_cons, List.length_cons]
      exact ⟨Nat.succ_le_succ ih.1, ih.2⟩

end Term

/--
A query with too many terms has too many whatever is written after it.  If a query is read before
and after more is written, then it has at least as many terms after it, and all of its terms but
the last are the first ones then.
-/
theorem terms_stay_in_longer_query (query more : String) :
    (∀ error, terms query = .error error → terms (query ++ more) = .error error) ∧
    ∀ found longer, terms query = .ok found → terms (query ++ more) = .ok longer →
      found.length ≤ longer.length ∧ found.dropLast <+: longer := by
  have kept := Term.dropLast_readAll_prefix query.toList more.toList
  rw [terms_eq_ite, terms_eq_ite, String.toList_append]
  constructor
  · intro error refused
    by_cases fits : (Term.readAll query.toList).length ≤ 5
    · simp [fits] at refused
    · rw [if_neg fits] at refused
      rw [if_neg (by omega), refused]
  · intro found longer read read_longer
    split at read
    · split at read_longer
      · cases read
        cases read_longer
        exact kept
      · cases read_longer
    · cases read

/-- The last term goes on in its open quote, and six terms stay too many. -/
theorem terms_stay_in_longer_query_open :
    terms "don't title:'a" = .ok [.loose "don't", .field "title" "a"] ∧
      terms ("don't title:'a" ++ " b' :c") =
        .ok [.loose "don't", .field "title" "a b", .loose ":c"] ∧
      [Term.loose "don't"] <+: [.loose "don't", .field "title" "a b", .loose ":c"] ∧
      terms "a b c d e f" = .error (.tooManyTerms 5) ∧
      terms ("a b c d e f" ++ ":'") = .error (.tooManyTerms 5) := by
  have first : terms "don't title:'a" = .ok [.loose "don't", .field "title" "a"] :=
    terms_of_readSteps (show Term.readSteps 3 _ = _ by decide) (by decide)
  have second : terms ("don't title:'a" ++ " b' :c") =
      .ok [.loose "don't", .field "title" "a b", .loose ":c"] :=
    terms_of_readSteps (show Term.readSteps 5 _ = _ by decide) (by decide)
  have six : Term.readAll "a b c d e f".toList =
      [.loose "a", .loose "b", .loose "c", .loose "d", .loose "e", .loose "f"] :=
    Term.readAll_of_readSteps (show Term.readSteps 11 _ = _ by decide)
  have many : terms "a b c d e f" = .error (.tooManyTerms 5) := by
    rw [terms_eq_ite, six]
    rfl
  have kept := (terms_stay_in_longer_query _ _).2 _ _ first second
  exact ⟨first, second, kept.2, many, (terms_stay_in_longer_query _ _).1 _ many⟩

end LinkSearch.Query
