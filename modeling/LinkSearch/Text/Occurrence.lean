/-!
# Occurrences of a text in another

The first place at which a text occurs in another one.  The empty text occurs at the start of every
text.
-/

namespace LinkSearch.Text

/-- How many characters stand before the first occurrence of `part`; none if it does not occur. -/
def occurrence? (part : List Char) : List Char → Option Nat
  | [] => if part = [] then some 0 else none
  | c :: rest =>
    if part.isPrefixOf (c :: rest) then some 0 else (occurrence? part rest).map (· + 1)

theorem isSome_occurrence?_iff {part s : List Char} :
    (occurrence? part s).isSome = true ↔ part <:+: s := by
  induction s with
  | nil => by_cases h : part = [] <;> simp [occurrence?, h]
  | cons c rest ih =>
    unfold occurrence?
    split
    · next starts => simp [List.infix_cons_iff, List.isPrefixOf_iff_prefix.1 starts]
    · next fails =>
      rw [Option.isSome_map, ih, List.infix_cons_iff]
      simp [mt List.isPrefixOf_iff_prefix.2 fails]

@[simp] theorem occurrence?_nil (s : List Char) : occurrence? [] s = some 0 := by
  cases s <;> simp [occurrence?]

end LinkSearch.Text
