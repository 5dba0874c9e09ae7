/-!
# Texts between quotes

A text is written between two quotes, with every quote in it written twice.  It is read up to the
first quote that stands alone, which gives back the text whatever it holds, if no further quote
follows.  Which character the quote is does not matter.
-/

namespace LinkSearch.Sql

/-- The characters of a text with every quote written twice. -/
def quotesDoubled (quote : Char) (s : List Char) : List Char :=
  s.flatMap fun c => if c = quote then [quote, quote] else [c]

/--
The text between two quotes, read after the first of them, and what follows the other one.  A quote
written twice stands for one in the text.
-/
def readQuoted? (quote : Char) : List Char → Option (List Char × List Char)
  | [] => none
  | [c] => if c = quote then some ([], []) else none
  | c :: d :: rest =>
    if c ≠ quote then (readQuoted? quote (d :: rest)).map (Prod.map (c :: ·) id)
    else if d = quote then (readQuoted? quote rest).map (Prod.map (quote :: ·) id)
    else some ([], d :: rest)

theorem readQuoted?_length_lt {quote : Char} {s inner rest : List Char}
    (read : readQuoted? quote s = some (inner, rest)) : rest.length < s.length := by
  fun_induction readQuoted? quote s generalizing inner with
  | case1 => cases read
  | case2 =>
    cases read
    exact Nat.zero_lt_one
  | case3 => cases read
  | case4 c d tail _ ih =>
    obtain ⟨⟨_, _⟩, found, equal⟩ := Option.map_eq_some_iff.mp read
    cases equal
    exact Nat.lt_succ_of_lt (ih found)
  | case5 c tail _ ih =>
    obtain ⟨⟨_, _⟩, found, equal⟩ := Option.map_eq_some_iff.mp read
    cases equal
    exact Nat.lt_succ_of_lt (Nat.lt_succ_of_lt (ih found))
  | case6 =>
    cases read
    exact Nat.lt_succ_self _

/-- By induction on the text; at its end, one more quote would go on with it. -/
theorem readQuoted?_quotesDoubled {quote : Char} (s : List Char) {rest : List Char}
    (ends : ∀ c ∈ rest.head?, c ≠ quote) :
    readQuoted? quote (quotesDoubled quote s ++ quote :: rest) = some (s, rest) := by
  induction s with
  | nil =>
    cases rest with
    | nil => simp [quotesDoubled, readQuoted?]
    | cons c rest =>
      have other : c ≠ quote := ends c rfl
      simp [quotesDoubled, readQuoted?, other]
  | cons c s ih =>
    by_cases same : c = quote
    · have doubled : quotesDoubled quote (c :: s) = quote :: quote :: quotesDoubled quote s := by
        simp [quotesDoubled, same]
      rw [doubled, List.cons_append, List.cons_append, readQuoted?, ih, same]
      simp
    · have single : quotesDoubled quote (c :: s) = c :: quotesDoubled quote s := by
        simp [quotesDoubled, same]
      rw [single, List.cons_append]
      -- Behind a character of the text there is another one, or the quote that ends it.
      obtain ⟨d, more, behind⟩ :=
        List.exists_cons_of_ne_nil (List.append_ne_nil_of_right_ne_nil (quotesDoubled quote s)
          (List.cons_ne_nil quote rest))
      rw [behind] at ih ⊢
      rw [readQuoted?, if_pos same, ih]
      rfl

end LinkSearch.Sql
