import LinkSearch.Query.Field

/-!
# All terms of a text, and the most that a query may have

`readAtMost?` stops at the first term that finds no room.  What it gives is decided by the list of
all terms alone: that list if it fits, and nothing if it does not.
-/

namespace LinkSearch.Query

open LinkSearch.Text

namespace Term

@[simp] theorem readAll_nil : readAll [] = [] := by
  rw [readAll.eq_def]

theorem readAll_cons_of_isSeparator {c : Char} {rest : List Char} (h : isSeparator c = true) :
    readAll (c :: rest) = readAll rest := by
  rw [readAll.eq_def (c :: rest)]
  exact dif_pos h

theorem readAll_cons {c : Char} {rest : List Char} (h : isSeparator c = false) :
    readAll (c :: rest) = (read c rest).1 :: readAll (read c rest).2 := by
  rw [readAll.eq_def (c :: rest)]
  exact dif_neg (by simp [h])

/-- Separators at the start of a text are not seen. -/
theorem readAll_append_of_separators {gap : List Char} (rest : List Char)
    (h : ∀ c ∈ gap, isSeparator c = true) : readAll (gap ++ rest) = readAll rest := by
  induction gap with
  | nil => rfl
  | cons c gap ih =>
    rw [List.cons_append, readAll_cons_of_isSeparator (h c List.mem_cons_self)]
    exact ih fun d member => h d (List.mem_cons_of_mem c member)

/-- A text of separators has no terms. -/
theorem readAll_of_separators {s : List Char} (h : ∀ c ∈ s, isSeparator c = true) :
    readAll s = [] := by
  simpa using readAll_append_of_separators [] h

/-- Only a text of separators has no terms. -/
theorem readAll_eq_nil_iff {s : List Char} :
    readAll s = [] ↔ ∀ c ∈ s, isSeparator c = true := by
  refine ⟨?_, readAll_of_separators⟩
  induction s with
  | nil => simp
  | cons c rest ih =>
    intro nothing
    by_cases separator : isSeparator c = true
    · rw [readAll_cons_of_isSeparator separator] at nothing
      exact List.forall_mem_cons.mpr ⟨separator, ih nothing⟩
    · simp [readAll_cons (Bool.not_eq_true _ ▸ separator)] at nothing

/-- Reading with room for some terms gives all of them, unless there are more. -/
theorem readAtMost?_eq_ite (room : Nat) (s : List Char) :
    readAtMost? room s = if (readAll s).length ≤ room then some (readAll s) else none := by
  fun_induction readAtMost? room s with
  | case1 => simp
  | case2 room c rest separator ih => rw [readAll_cons_of_isSeparator separator, ih]
  | case3 c rest plain => simp [readAll_cons (Bool.not_eq_true _ ▸ plain)]
  | case4 c rest plain _ room ih =>
    rw [readAll_cons (Bool.not_eq_true _ ▸ plain), ih, apply_ite (Option.map _)]
    simp

/--
Reading in at most so many steps, a term or a separator each.  Unlike `readAll` this evaluates, so
the terms of a given text can be computed.
-/
def readSteps : Nat → List Char → Option (List Term)
  | _, [] => some []
  | 0, _ :: _ => none
  | steps + 1, c :: rest =>
    if isSeparator c then readSteps steps rest
    else (readSteps steps (read c rest).2).map ((read c rest).1 :: ·)

/-- What is read in some number of steps is what the text holds. -/
theorem readAll_of_readSteps {steps : Nat} {s : List Char} {terms : List Term}
    (h : readSteps steps s = some terms) : readAll s = terms := by
  fun_induction readSteps steps s generalizing terms with
  | case1 => simpa using h
  | case2 => cases h
  | case3 steps c rest separator ih => rw [readAll_cons_of_isSeparator separator, ih h]
  | case4 steps c rest plain ih =>
    obtain ⟨later, found, rfl⟩ := Option.map_eq_some_iff.mp h
    rw [readAll_cons (Bool.not_eq_true _ ▸ plain), ih found]

end Term

/-- The terms of a query are all its terms, and an error stands for more than five. -/
theorem terms_eq_ite (query : String) :
    terms query =
      if (Term.readAll query.toList).length ≤ 5 then .ok (Term.readAll query.toList)
      else .error (.tooManyTerms 5) := by
  unfold terms
  rw [Term.readAtMost?_eq_ite]
  by_cases fits : (Term.readAll query.toList).length ≤ 5
  · simp [Term.limit, fits]
  · simp [Term.limit, fits]

/-- The terms of a given query, which are read in some number of steps. -/
theorem terms_of_readSteps {steps : Nat} {query : String} {all : List Term}
    (read : Term.readSteps steps query.toList = some all) (fits : all.length ≤ 5) :
    terms query = .ok all := by
  rw [terms_eq_ite, Term.readAll_of_readSteps read, if_pos fits]

end LinkSearch.Query
