import LinkSearch.Proofs.Settings.Acceptance
import LinkSearch.Proofs.Text.Lines
import LinkSearch.Settings.Template

/-!
# A new settings file declares nothing

A text that is commented out has the lines it had before, in the same order, and each of them is
empty or a comment.  A document of such lines is empty, unless a control character in it would end
a comment, and settings that declare nothing are the built-in ones.
-/

namespace LinkSearch.Toml

/-! ### Documents without content -/

/-- A line that says nothing: a blank one, or a comment without control characters. -/
def IsRemark (line : List Char) : Prop :=
  line = [] ∨ ∃ text, line = '#' :: text ∧ ∀ c ∈ text, isPlain c = true

theorem IsRemark.dropComment? {line : List Char} (remark : IsRemark line) (rest : List Char) :
    dropComment? (dropBlanks (line ++ '\n' :: rest)) = some ('\n' :: rest) := by
  rcases remark with rfl | ⟨text, rfl, plain⟩
  · rfl
  · have ends : (text ++ '\n' :: rest).dropWhile isPlain = '\n' :: rest := by
      rw [List.dropWhile_append_of_pos plain]
      rfl
    change Toml.dropComment? ('#' :: (text ++ '\n' :: rest)) = _
    simp [Toml.dropComment?, ends, readLineEnd?]

/-- By induction on the lines, each of which takes one step. -/
theorem dropFiller?_remarks {lines : List (List Char)} (remarks : ∀ line ∈ lines, IsRemark line)
    {fuel : Nat} (enough : lines.length < fuel) :
    dropFiller? fuel (lines.flatMap (· ++ ['\n'])) = some [] := by
  induction lines generalizing fuel with
  | nil =>
    obtain ⟨fuel, rfl⟩ := Nat.exists_eq_add_of_lt enough
    rfl
  | cons line lines ih =>
    obtain ⟨first, others⟩ := List.forall_mem_cons.mp remarks
    obtain ⟨fuel, rfl⟩ := Nat.exists_eq_add_of_lt enough
    have rest : dropFiller? (lines.length + 1 + fuel) _ = some [] := ih others (by omega)
    rw [List.flatMap_cons, List.append_assoc, List.singleton_append, List.length_cons, dropFiller?,
      first.dropComment?]
    exact rest

theorem length_le_flatMap_lineEnd (lines : List (List Char)) :
    lines.length ≤ (lines.flatMap (· ++ ['\n'])).length := by
  induction lines with
  | nil => exact Nat.le_refl 0
  | cons line lines ih =>
    simp only [List.flatMap_cons, List.length_append, List.length_cons, List.length_nil] at ih ⊢
    omega

theorem IsRemark.dropByteOrderMark {line : List Char} (remark : IsRemark line) (rest : List Char) :
    dropByteOrderMark (line ++ '\n' :: rest) = line ++ '\n' :: rest := by
  rcases remark with rfl | ⟨text, rfl, _⟩ <;> rfl

theorem readDocument?_remarks {lines : List (List Char)} (remarks : ∀ line ∈ lines, IsRemark line) :
    readDocument? (String.ofList (lines.flatMap (· ++ ['\n']))) = some [] := by
  have skipped : skipFiller? (lines.flatMap (· ++ ['\n'])) = some [] :=
    dropFiller?_remarks remarks (Nat.lt_succ_of_le (length_le_flatMap_lineEnd lines))
  have unmarked : dropByteOrderMark (lines.flatMap (· ++ ['\n'])) =
      lines.flatMap (· ++ ['\n']) := by
    cases lines with
    | nil => rfl
    | cons line lines =>
      rw [List.flatMap_cons, List.append_assoc, List.singleton_append]
      exact (remarks line List.mem_cons_self).dropByteOrderMark _
  simp [readDocument?, unmarked, readLines?, skipped, entriesToValues]

end LinkSearch.Toml

namespace LinkSearch.Settings

open LinkSearch.Files LinkSearch.Toml

/-! ### Lines that are commented out -/

/-- An empty line or a comment. -/
def IsInert (line : List Char) : Prop := line = [] ∨ line.head? = some '#'

/-- What a line becomes: an inert line stays as it is, any other line has `# ` put before it. -/
inductive CommentedAs (line : List Char) : List Char → Prop
  | kept (inert : IsInert line) : CommentedAs line line
  | marked (active : ¬ IsInert line) : CommentedAs line ('#' :: ' ' :: line)

variable {line after : List Char} {text : String}

theorem commentedAs_commentLine (line : List Char) : CommentedAs line (commentLine line) := by
  unfold commentLine
  split
  · exact .kept (.inl rfl)
  · exact .kept (.inr rfl)
  · next filled uncommented =>
    refine .marked ?_
    rintro (rfl | first)
    · exact filled rfl
    · obtain ⟨rest, rfl⟩ := List.head?_eq_some_iff.mp first
      exact uncommented rest rfl

theorem CommentedAs.isInert (commented : CommentedAs line after) : IsInert after := by
  cases commented with
  | kept inert => exact inert
  | marked _ => exact .inr rfl

theorem CommentedAs.eq_of_isInert (commented : CommentedAs line after) (inert : IsInert line) :
    after = line := by
  cases commented with
  | kept _ => rfl
  | marked active => exact absurd inert active

theorem CommentedAs.not_mem {c : Char} (commented : CommentedAs line after) (absent : c ∉ line)
    (other : c ∉ ['#', ' ']) : c ∉ after := by
  cases commented with
  | kept _ => exact absent
  | marked _ =>
    intro inside
    have parts : c ∈ ['#', ' '] ++ line := inside
    rcases List.mem_append.mp parts with mark | within
    · exact other mark
    · exact absent within

theorem CommentedAs.isRemark (commented : CommentedAs line after)
    (plain : ∀ c ∈ line, isPlain c = true) : IsRemark after := by
  cases commented with
  | kept inert =>
    rcases inert with rfl | first
    · exact .inl rfl
    · obtain ⟨rest, rfl⟩ := List.head?_eq_some_iff.mp first
      exact .inr ⟨rest, rfl, fun c inside => plain c (List.mem_cons_of_mem _ inside)⟩
  | marked _ => exact .inr ⟨_, rfl, List.forall_mem_cons.mpr ⟨by decide, plain⟩⟩

theorem commentLine_commentLine (line : List Char) :
    commentLine (commentLine line) = commentLine line :=
  (commentedAs_commentLine _).eq_of_isInert (commentedAs_commentLine line).isInert

/-! ### Texts that are commented out -/

theorem toList_commentOut (text : String) :
    (commentOut text).toList =
      ((Text.lines text.toList).map commentLine).flatMap (· ++ ['\n']) := by
  rw [commentOut, String.toList_ofList, List.flatMap_map]

/-- A commented line comes from a line of the text, which has no line feed in it. -/
theorem exists_commentedAs (noReturn : '\r' ∉ text.toList)
    (member : after ∈ (Text.lines text.toList).map commentLine) :
    ∃ line, CommentedAs line after ∧ '\n' ∉ line ∧ line ⊆ text.toList := by
  obtain ⟨line, part, rfl⟩ := List.mem_map.mp member
  exact ⟨line, commentedAs_commentLine line, (Text.hasLines_lines noReturn).mem part⟩

theorem hasLines_commentOut (noReturn : '\r' ∉ text.toList) :
    Text.HasLines (commentOut text).toList ((Text.lines text.toList).map commentLine) := by
  rw [toList_commentOut]
  refine Text.hasLines_ended fun after member => ?_
  obtain ⟨line, commented, single, _⟩ := exists_commentedAs noReturn member
  exact commented.not_mem single (by decide)

theorem return_not_mem_commentOut (noReturn : '\r' ∉ text.toList) :
    '\r' ∉ (commentOut text).toList := by
  intro inside
  rw [toList_commentOut] at inside
  obtain ⟨after, member, within⟩ := List.mem_flatMap.mp inside
  obtain ⟨line, commented, _, original⟩ := exists_commentedAs noReturn member
  rcases List.mem_append.mp within with held | ends
  · exact commented.not_mem (fun inner => noReturn (original inner)) (by decide) held
  · exact absurd (List.mem_singleton.mp ends) (by decide)

theorem lines_commentOut (noReturn : '\r' ∉ text.toList) :
    Text.lines (commentOut text).toList = (Text.lines text.toList).map commentLine :=
  (hasLines_commentOut noReturn).lines_eq (return_not_mem_commentOut noReturn)

/-- The lines are cut out again as they were written, and a line that is inert already stays. -/
theorem commentOut_commentOut (noReturn : '\r' ∉ text.toList) :
    commentOut (commentOut text) = commentOut text := by
  have again : commentLine ∘ commentLine = commentLine := funext commentLine_commentLine
  rw [← String.toList_inj, toList_commentOut, lines_commentOut noReturn, List.map_map, again,
    ← toList_commentOut]

/--
Commenting out keeps the lines of a text, their number and their order.  Each line is empty or a
comment afterwards: it stays if it was so before and has `# ` put before it if not.  Every line
ends with a line feed, also a last one that had none, and commenting out once more changes nothing.
-/
theorem commentOut_keeps_lines {text : String} (noReturn : '\r' ∉ text.toList) :
    let before := Text.lines text.toList
    let after := Text.lines (commentOut text).toList
    Text.HasLines text.toList before ∧ Text.HasLines (commentOut text).toList after ∧
      List.Forall₂ CommentedAs before after ∧ (∀ line ∈ after, IsInert line) ∧
      (commentOut text).toList = after.flatMap (· ++ ['\n']) ∧
      commentOut (commentOut text) = commentOut text := by
  intro before after
  have mapped : after = before.map commentLine := lines_commentOut noReturn
  have each : List.Forall₂ CommentedAs before after := by
    rw [mapped, List.forall₂_map_right_iff, List.forall₂_same]
    exact fun line _ => commentedAs_commentLine line
  have inert : ∀ line ∈ after, IsInert line := by
    intro line member
    obtain ⟨original, _, commented⟩ := exists_mem_of_forall₂ each member
    exact commented.isInert
  have written : (commentOut text).toList = after.flatMap (· ++ ['\n']) := by
    rw [mapped, toList_commentOut]
  exact ⟨Text.hasLines_lines noReturn, Text.hasLines_lines (return_not_mem_commentOut noReturn),
    each, inert, written, commentOut_commentOut noReturn⟩

/-- A line that looks like a comment stays, also inside a text over several lines. -/
theorem commentOut_keeps_lines_unended :
    let text := "# birds\n\n \n[store]\npath = \"\"\"\n#x\n\"\"\""
    '\r' ∉ text.toList ∧ (Text.lines text.toList).length = 7 ∧
      commentOut text =
        "# birds\n\n#  \n# [store]\n# path = \"\"\"\n#x\n# \"\"\"\n" ∧
      List.Forall₂ CommentedAs (Text.lines text.toList) (Text.lines (commentOut text).toList) ∧
      commentOut (commentOut text) = commentOut text := by
  intro text
  have noReturn : '\r' ∉ text.toList := by decide
  obtain ⟨_, _, each, _, _, stable⟩ := commentOut_keeps_lines noReturn
  exact ⟨noReturn, by decide, by decide, each, stable⟩

-- With the line feed that is added, a carriage return at the end of the text becomes a line end.
example : commentOut (commentOut "\r") ≠ commentOut "\r" := by decide

/-- A text without control characters but its line ends declares nothing once commented out. -/
theorem read_commentOut {text : String} (plain : ∀ c ∈ text.toList, c = '\n' ∨ isPlain c = true) :
    Declared.read (commentOut text) = .ok ⟨none, none, none⟩ := by
  have noReturn : '\r' ∉ text.toList := fun inside => absurd (plain _ inside) (by decide)
  have remarks : ∀ after ∈ (Text.lines text.toList).map commentLine, IsRemark after := by
    intro after member
    obtain ⟨line, commented, single, original⟩ := exists_commentedAs noReturn member
    refine commented.isRemark fun c inside => ?_
    exact (plain c (original inside)).resolve_left fun ends => single (ends ▸ inside)
  have empty := readDocument?_remarks remarks
  rw [List.flatMap_map] at empty
  rw [Declared.read, commentOut, empty]
  simp [Declared.ofDocument, Declared.visit, pure, Except.pure]

theorem plain_unlines {lines : List String}
    (plain : ∀ line ∈ lines, ∀ c ∈ line.toList, isPlain c = true) :
    ∀ c ∈ (Text.unlines lines).toList, c = '\n' ∨ isPlain c = true := by
  intro c inside
  simp only [Text.unlines, String.toList_join, List.flatMap_map, List.mem_flatMap,
    String.toList_append, List.mem_append] at inside
  obtain ⟨line, member, within | ends⟩ := inside
  · exact .inr (plain line member c within)
  · exact .inl (List.mem_singleton.mp ends)

/-- The characters of a text that is written out are looked at as a list, which is much faster. -/
theorem plain_ofList {chars : List Char} (plain : chars.all isPlain = true) :
    ∀ c ∈ (String.ofList chars).toList, isPlain c = true := by
  rw [String.toList_ofList]
  exact List.all_eq_true.mp plain

theorem read_template : Declared.read template = .ok ⟨none, none, none⟩ := by
  refine read_commentOut (plain_unlines ?_)
  simp only [List.forall_mem_cons, List.not_mem_nil, false_imp_iff, implies_true, and_true]
  and_intros <;> exact plain_ofList (by decide +kernel)

end LinkSearch.Settings
