import LinkSearch.Text.Line

/-!
# The lines of a text

A text consists of lines, each with a line feed behind it; only behind the last line the line feed
may be missing, and then that line is not empty.  Every text consists of lines in this way, and
without carriage returns these are the lines that cutting the text gives.
-/

namespace LinkSearch.Text

/-- The text consists of these lines, in this order. -/
inductive HasLines : List Char → List (List Char) → Prop
  | none : HasLines [] []
  | unended {line : List Char} (written : line ≠ []) (single : '\n' ∉ line) : HasLines line [line]
  | ended {line rest : List Char} {others : List (List Char)} (single : '\n' ∉ line)
      (further : HasLines rest others) : HasLines (line ++ '\n' :: rest) (line :: others)

variable {s line : List Char} {ls : List (List Char)}

/-- By induction on the text: a character in front begins a line or belongs to the first one. -/
theorem exists_hasLines (s : List Char) : ∃ ls, HasLines s ls := by
  induction s with
  | nil => exact ⟨[], .none⟩
  | cons c s ih =>
    obtain ⟨ls, cut⟩ := ih
    by_cases ends : c = '\n'
    · subst ends
      exact ⟨[] :: ls, HasLines.ended List.not_mem_nil cut⟩
    · have outside {line : List Char} (single : '\n' ∉ line) : '\n' ∉ c :: line :=
        List.not_mem_cons_of_ne_of_not_mem (Ne.symm ends) single
      cases cut with
      | none => exact ⟨[[c]], .unended (List.cons_ne_nil c []) (outside List.not_mem_nil)⟩
      | unended _ single => exact ⟨[c :: s], .unended (List.cons_ne_nil c s) (outside single)⟩
      | ended single further => exact ⟨_, .ended (outside single) further⟩

/-- No line reaches over a line feed, and the characters of the lines are those of the text. -/
theorem HasLines.mem (cut : HasLines s ls) (member : line ∈ ls) : '\n' ∉ line ∧ line ⊆ s := by
  induction cut with
  | none => cases member
  | unended _ single =>
    cases List.mem_singleton.mp member
    exact ⟨single, List.Subset.refl _⟩
  | ended single _ ih =>
    rcases List.mem_cons.mp member with rfl | later
    · exact ⟨single, List.subset_append_left _ _⟩
    · obtain ⟨alone, within⟩ := ih later
      exact ⟨alone, fun c inside =>
        List.mem_append_right _ (List.mem_cons_of_mem _ (within inside))⟩

theorem hasLines_ended (single : ∀ line ∈ ls, '\n' ∉ line) :
    HasLines (ls.flatMap (· ++ ['\n'])) ls := by
  induction ls with
  | nil => exact .none
  | cons line ls ih =>
    obtain ⟨first, others⟩ := List.forall_mem_cons.mp single
    rw [List.flatMap_cons, List.append_assoc, List.singleton_append]
    exact .ended first (ih others)

/-! ### Cutting a text into its lines -/

theorem dropCarriageReturn_eq_self (noReturn : '\r' ∉ line) : dropCarriageReturn line = line :=
  if_neg fun last => noReturn (List.mem_of_getLast? last)

theorem lines_of_single (written : line ≠ []) (single : '\n' ∉ line) : lines line = [line] := by
  have whole : line.splitOn '\n' = [line] := List.splitOn_eq_singleton single
  cases line with
  | nil => exact absurd rfl written
  | cons c line => simp [lines, whole]

theorem lines_append_lineFeed (single : '\n' ∉ line) (rest : List Char) :
    lines (line ++ '\n' :: rest) = dropCarriageReturn line :: lines rest := by
  obtain ⟨part, parts, cut⟩ := List.exists_cons_of_ne_nil (List.splitOn_ne_nil '\n' rest)
  have whole : (line ++ '\n' :: rest).splitOn '\n' = line :: part :: parts := by
    rw [List.splitOn_append_cons_self, List.splitOn_eq_singleton single, cut, List.singleton_append]
  simp only [lines, whole, cut, List.dropLast_cons_cons, List.getLast?_cons_cons, List.map_cons]
  split <;> rfl

theorem HasLines.lines_eq (cut : HasLines s ls) (noReturn : '\r' ∉ s) : lines s = ls := by
  induction cut with
  | none => rfl
  | unended written single => exact lines_of_single written single
  | ended single _ ih =>
    rw [List.mem_append, List.mem_cons, not_or, not_or] at noReturn
    obtain ⟨first, _, others⟩ := noReturn
    rw [lines_append_lineFeed single, dropCarriageReturn_eq_self first, ih others]

theorem hasLines_lines (noReturn : '\r' ∉ s) : HasLines s (lines s) := by
  obtain ⟨ls, cut⟩ := exists_hasLines s
  rwa [cut.lines_eq noReturn]

end LinkSearch.Text
