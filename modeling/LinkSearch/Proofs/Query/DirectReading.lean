import LinkSearch.Proofs.Query.Terms

/-!
# Reading terms without looking ahead

The reader of queries looks for a colon through any number of quoted stretches, which may belong to
the terms that follow, before it decides whether a term names a field.  This module states a reader
that keeps no track of quotes.  It takes the longest stretch of plain characters and looks at the
next two characters only.  Both readers give the same terms for every text: a colon found beyond a
quote has that quote in the name before it, and no such name is the name of a field.
-/

namespace LinkSearch.Query

open LinkSearch.Text

namespace Direct

/-- A character that is no separator, no quote and no colon. -/
def isPlain (c : Char) : Bool :=
  !(isSeparator c || isQuote c || c == ':')

/--
The value at the start of a text, and what follows it.  A quote encloses all that comes before the
next such quote, or the whole text if there is none; any other value ends before a separator.
-/
def value : List Char → List Char × List Char
  | [] => ([], [])
  | first :: rest =>
    if isQuote first then (rest.takeWhile (· != first), (rest.dropWhile (· != first)).drop 1)
    else ((first :: rest).takeWhile (!isSeparator ·), (first :: rest).dropWhile (!isSeparator ·))

/-- The value at the start of a text as a loose term, and what follows it. -/
def loose (s : List Char) : Term × List Char :=
  (.loose (String.ofList (value s).1), (value s).2)

/--
The term at the start of a text, and what follows it.  It names a field if the longest stretch of
plain characters is not empty and is followed by a colon and then by what is no separator.
-/
def term (s : List Char) : Term × List Char :=
  let name := s.takeWhile isPlain
  match s.dropWhile isPlain with
  | ':' :: next :: more =>
    if name ≠ [] ∧ isSeparator next = false then
      (.field (String.ofList name) (String.ofList (value (next :: more)).1),
        (value (next :: more)).2)
    else loose s
  | _ => loose s

end Direct

namespace Term

open Direct (isPlain)

theorem isPlain_iff {c : Char} :
    isPlain c = true ↔ isSeparator c = false ∧ isQuote c = false ∧ c ≠ ':' := by
  simp [isPlain, and_assoc]

/-- A text in plain characters is cut at the colon that follows it. -/
theorem splitAtColon_append_of_plain {name : List Char} (after : List Char)
    (plain : ∀ c ∈ name, isPlain c = true) :
    splitAtColon none (name ++ ':' :: after) = some (name, after) := by
  induction name with
  | nil => simp [splitAtColon]
  | cons c name ih =>
    obtain ⟨separator, quote, colon⟩ := isPlain_iff.mp (plain c List.mem_cons_self)
    have further := ih fun d member => plain d (List.mem_cons_of_mem c member)
    simp [splitAtColon, separator, quote, colon, further]

/--
The search for a colon may go through quotes, but then there is a quote in what it cuts off.  So a
part without quotes is plain, and the colon is the one right behind it.
-/
theorem plain_of_splitAtColon {s name after : List Char}
    (found : splitAtColon none s = some (name, after)) (named : ∀ c ∈ name, isNameChar c = true) :
    (∀ c ∈ name, isPlain c = true) ∧ s = name ++ ':' :: after := by
  induction s generalizing name with
  | nil => simp [splitAtColon] at found
  | cons c rest ih =>
    by_cases colon : c = ':'
    · subst colon
      simp only [splitAtColon, ↓reduceIte, Option.some.injEq, Prod.mk.injEq] at found
      obtain ⟨rfl, rfl⟩ := found
      simp
    · by_cases separator : isSeparator c = true
      · simp [splitAtColon, colon, separator] at found
      · simp only [splitAtColon, colon, separator, if_false] at found
        obtain ⟨⟨others, tail⟩, later, equal⟩ := Option.map_eq_some_iff.mp found
        cases equal
        have quote : isQuote c = false := by
          simpa [isNameChar, separator] using named c List.mem_cons_self
        rw [if_neg (by simp [quote])] at later
        obtain ⟨plain, rfl⟩ := ih later fun d member => named d (List.mem_cons_of_mem c member)
        refine ⟨?_, rfl⟩
        intro d member
        rcases List.mem_cons.mp member with rfl | member
        · exact isPlain_iff.mpr ⟨by simpa using separator, quote, colon⟩
        · exact plain d member

/-- When a text begins with a term that names a field, and which term that is. -/
theorem readField?_eq_some_iff {s rest : List Char} {term : Term} :
    readField? s = some (term, rest) ↔
      ∃ name next more, name ≠ [] ∧ (∀ c ∈ name, isPlain c = true) ∧ isSeparator next = false ∧
        s = name ++ ':' :: next :: more ∧
        term = .field (String.ofList name) (String.ofList (readValue next more).1) ∧
        rest = (readValue next more).2 := by
  constructor
  · intro taken
    simp only [readField?, Option.bind_eq_bind, Option.bind_eq_some_iff] at taken
    obtain ⟨⟨name, after⟩, found, taken⟩ := taken
    split at taken
    · next named =>
      obtain ⟨⟨value, tail⟩, present, equal⟩ := Option.bind_eq_some_iff.mp taken
      cases equal
      simp only [isFieldName, Bool.and_eq_true, Bool.not_eq_true', List.isEmpty_eq_false_iff,
        List.all_eq_true] at named
      obtain ⟨plain, rfl⟩ := plain_of_splitAtColon found named.2
      cases after with
      | nil => simp [readValue?] at present
      | cons next more =>
        simp only [readValue?] at present
        split at present
        · simp at present
        · next visible =>
          have same := Option.some.inj present
          exact ⟨name, next, more, named.1, plain, by simpa using visible, rfl, by rw [same],
            by rw [same]⟩
    · simp at taken
  · rintro ⟨name, next, more, filled, plain, visible, rfl, rfl, rfl⟩
    have named : isFieldName name = true := by
      simp only [isFieldName, Bool.and_eq_true, Bool.not_eq_true', List.isEmpty_eq_false_iff,
        List.all_eq_true]
      refine ⟨filled, ?_⟩
      intro c member
      simp [isNameChar, isPlain_iff.mp (plain c member)]
    simp [readField?, splitAtColon_append_of_plain _ plain, named, readValue?, visible]

end Term

namespace Direct

theorem value_cons (c : Char) (rest : List Char) : value (c :: rest) = Term.readValue c rest := by
  simp only [value, Term.readValue, Term.readQuoted, Term.readBare, List.drop_one]

theorem loose_cons (c : Char) (rest : List Char) : loose (c :: rest) = Term.readLoose c rest := by
  simp [loose, Term.readLoose, value_cons]

/-- A plain name, a colon and what is no separator begin a term that names a field. -/
theorem term_of_name {name more : List Char} {next : Char} (filled : name ≠ [])
    (plain : ∀ c ∈ name, isPlain c = true) (visible : isSeparator next = false) :
    term (name ++ ':' :: next :: more) =
      (.field (String.ofList name) (String.ofList (value (next :: more)).1),
        (value (next :: more)).2) := by
  have colon : isPlain ':' = false := rfl
  have taken : (name ++ ':' :: next :: more).takeWhile isPlain = name := by
    rw [List.takeWhile_append_of_pos plain]
    simp [colon]
  have left : (name ++ ':' :: next :: more).dropWhile isPlain = ':' :: next :: more := by
    rw [List.dropWhile_append_of_pos plain]
    simp [colon]
  simp [term, taken, left, filled, visible]

/-- Any other text begins a loose term. -/
theorem term_eq_loose {s : List Char}
    (unnamed : ∀ name next more, name ≠ [] → (∀ c ∈ name, isPlain c = true) →
      isSeparator next = false → s ≠ name ++ ':' :: next :: more) : term s = loose s := by
  unfold term
  split
  · next next more left =>
    rw [if_neg]
    rintro ⟨filled, visible⟩
    apply unnamed (s.takeWhile isPlain) next more filled _ visible
    · rw [← left, List.takeWhile_append_dropWhile]
    · intro c member
      exact List.all_eq_true.mp List.all_takeWhile c member
  · rfl

/-- Looking through quotes for a colon never changes the term that is read. -/
theorem term_cons (c : Char) (rest : List Char) : term (c :: rest) = Term.read c rest := by
  unfold Term.read
  cases found : Term.readField? (c :: rest) with
  | some pair =>
    obtain ⟨term, after⟩ := pair
    obtain ⟨name, next, more, filled, plain, visible, text, rfl, rfl⟩ :=
      Term.readField?_eq_some_iff.mp found
    rw [text, term_of_name filled plain visible, value_cons]
    rfl
  | none =>
    rw [term_eq_loose, loose_cons]
    · rfl
    · intro name next more filled plain visible text
      have present := Term.readField?_eq_some_iff.mpr
        ⟨name, next, more, filled, plain, visible, text, rfl, rfl⟩
      simp [found] at present

-- The apostrophe opens no quote here, so the colon of the next term is not looked for.
example : term "don't title:bird".toList = (.loose "don't", " title:bird".toList) := by decide

/-- The terms of a text, however many, with separators between them. -/
def terms : List Char → List Term
  | [] => []
  | c :: rest =>
    if h : isSeparator c then terms rest
    else
      have : (term (c :: rest)).2.length ≤ rest.length :=
        term_cons c rest ▸ Term.read_length_le (Bool.not_eq_true _ ▸ h)
      (term (c :: rest)).1 :: terms (term (c :: rest)).2
termination_by s => s.length
decreasing_by all_goals simp only [List.length_cons]; omega

/-- Both readers find the same terms in every text. -/
theorem terms_eq_readAll (s : List Char) : terms s = Term.readAll s := by
  fun_induction terms s with
  | case1 => simp
  | case2 c rest separator ih => rw [Term.readAll_cons_of_isSeparator separator, ih]
  | case3 c rest plain _ ih =>
    rw [Term.readAll_cons (Bool.not_eq_true _ ▸ plain), ih, term_cons]

end Direct

/--
The terms of a query are those that the direct reader finds, in the same order, if there are at most
five of them.  The query is refused for having more than five if the direct reader finds more.
-/
theorem terms_eq_direct (query : String) :
    terms query =
      if (Direct.terms query.toList).length ≤ 5 then .ok (Direct.terms query.toList)
      else .error (.tooManyTerms 5) := by
  rw [Direct.terms_eq_readAll]
  exact terms_eq_ite query

end LinkSearch.Query
