import LinkSearch.Files.Path
import LinkSearch.Sql.ColumnName

/-!
# Joined paths, parents and ancestors

A joined path is absolute if either part of it is, and a parent is absolute if the path is.  Joining a
relative path puts the names of the directory before its own, so doing it once more gives the same
path only if the directory has no names.  The ancestors of a path are in order: each is shorter than
what it is an ancestor of.
-/

namespace LinkSearch.Files.Path

theorem isAbsolute_iff_head {path : Path} :
    path.isAbsolute = true ↔ path.text.toList.head? = some '/' := by
  simp [isAbsolute]

theorem isAbsolute_join {base path : Path} :
    (base.join path).isAbsolute = true ↔ path.isAbsolute = true ∨ base.isAbsolute = true := by
  unfold join
  by_cases absolute : path.isAbsolute = true
  · simp [absolute]
  · rw [if_neg absolute]
    simp only [absolute, Bool.false_eq_true, false_or]
    cases written : base.text.toList with
    | nil =>
      have empty : base.text = "" := String.toList_eq_nil_iff.mp written
      rw [isAbsolute_iff_head] at absolute ⊢
      simp [empty, absolute, isAbsolute_iff_head]
    | cons c rest =>
      split <;> simp [isAbsolute_iff_head, written]

theorem isAbsolute_join_eq_false {base path : Path} :
    (base.join path).isAbsolute = false ↔ path.isAbsolute = false ∧ base.isAbsolute = false := by
  rw [← Bool.not_eq_true, isAbsolute_join, not_or, Bool.not_eq_true, Bool.not_eq_true]

/-- The pieces of the directory come first, but for an empty one at its end. -/
theorem exists_pieces_join {base path : Path} (relative : path.isAbsolute = false)
    (given : base.text ≠ "") :
    ∃ front, front ≠ [] ∧ (base.pieces = front ∨ base.pieces = front ++ [[]]) ∧
      (base.join path).pieces = front ++ path.pieces := by
  rw [join, relative, if_neg Bool.false_ne_true]
  by_cases slash : base.text.toList.getLast? = some '/'
  · obtain ⟨front, written⟩ := List.getLast?_eq_some_iff.mp slash
    refine ⟨front.splitOn '/', List.splitOn_ne_nil _ _, .inr ?_, ?_⟩
    · rw [pieces, written, List.splitOn_append_cons_self]
      rfl
    · rw [if_pos (by simp [slash]), pieces, String.toList_append, written, List.append_assoc,
        List.singleton_append, List.splitOn_append_cons_self]
      rfl
  · refine ⟨base.pieces, List.splitOn_ne_nil _ _, .inl rfl, ?_⟩
    have slashed : (base.text.toList ++ '/' :: path.text.toList).splitOn '/' =
        base.pieces ++ path.pieces := List.splitOn_append_cons_self _ _
    simpa [given, slash, pieces] using slashed

theorem steps_empty : (Path.mk "").steps = [] := by decide

theorem steps_join {base path : Path} (relative : path.isAbsolute = false) :
    (base.join path).steps = base.steps ++ path.steps := by
  by_cases given : base.text = ""
  · obtain ⟨text⟩ := base
    cases given
    simp [join, relative, steps_empty]
  · obtain ⟨front, _, directory | directory, whole⟩ := exists_pieces_join relative given
    · simp [steps, whole, directory]
    · simp [steps, whole, directory, isIdle]

theorem beginsWithDot_join {base path : Path} (relative : path.isAbsolute = false)
    (given : base.text ≠ "") : (base.join path).beginsWithDot = base.beginsWithDot := by
  obtain ⟨front, some_piece, directory, whole⟩ := exists_pieces_join relative given
  obtain ⟨first, rest, rfl⟩ := List.exists_cons_of_ne_nil some_piece
  rcases directory with directory | directory <;> simp [beginsWithDot, whole, directory]

theorem head?_join {base path : Path} (relative : path.isAbsolute = false)
    (given : base.text ≠ "") : (base.join path).text.toList.head? = base.text.toList.head? := by
  rw [join, relative, if_neg Bool.false_ne_true]
  cases written : base.text.toList with
  | nil => exact absurd (String.toList_eq_nil_iff.mp written) given
  | cons c rest => split <;> simp [written]

/-- A directory is put before a relative path without a change only if it has no names. -/
theorem same_join_join_iff {base path : Path} (relative : (base.join path).isAbsolute = false) :
    (base.join (base.join path)).same (base.join path) = true ↔ base.steps = [] := by
  have both := isAbsolute_join_eq_false.mp relative
  have dots : (base.join (base.join path)).beginsWithDot = (base.join path).beginsWithDot := by
    by_cases given : base.text = ""
    · obtain ⟨text⟩ := base
      cases given
      simp [join, both.1]
    · rw [beginsWithDot_join relative given, beginsWithDot_join both.1 given]
  have rooted : (base.join (base.join path)).isAbsolute = false :=
    isAbsolute_join_eq_false.mpr ⟨relative, both.2⟩
  rw [same, rooted, relative, dots, steps_join relative]
  simp

theorem isAbsolute_ofPieces {first : List Char} {rest : List (List Char)} (single : '/' ∉ first) :
    (ofPieces (first :: rest)).isAbsolute = true ↔ first = [] ∧ rest ≠ [] := by
  rw [isAbsolute_iff_head, ofPieces, String.toList_ofList]
  cases first with
  | nil => cases rest <;> simp [List.intercalate_singleton, List.intercalate_cons_cons]
  | cons c first =>
    rw [List.mem_cons, not_or] at single
    have other : c ≠ '/' := Ne.symm single.1
    cases rest <;> simp [List.intercalate_singleton, List.intercalate_cons_cons, other]

theorem ofPieces_pieces (path : Path) : ofPieces path.pieces = path := by
  rw [ofPieces, pieces, List.intercalate_splitOn, String.ofList_toList]

/-- A relative path without names is empty or begins with a dot. -/
theorem head?_of_steps_eq_nil {path : Path} (relative : path.isAbsolute = false)
    (nameless : path.steps = []) : path.text = "" ∨ path.text.toList.head? = some '.' := by
  have idle : ∀ piece ∈ path.pieces, isIdle piece = true := by
    simpa [steps, List.filter_eq_nil_iff] using nameless
  have whole := ofPieces_pieces path
  obtain ⟨first, rest, parts⟩ := List.exists_cons_of_ne_nil (List.splitOn_ne_nil '/' path.text.toList)
  change path.pieces = first :: rest at parts
  have begins : first = [] ∨ first = ['.'] := by
    simpa [isIdle] using idle first (by rw [parts]; exact List.mem_cons_self)
  rw [parts] at whole
  rcases begins with rfl | rfl
  · cases rest with
    | nil =>
      left
      rw [← whole]
      rfl
    | cons second rest =>
      have absolute : (ofPieces ([] :: second :: rest)).isAbsolute = true :=
        (isAbsolute_ofPieces List.not_mem_nil).mpr ⟨rfl, List.cons_ne_nil _ _⟩
      rw [whole, relative] at absolute
      cases absolute
  · right
    rw [← whole, ofPieces, String.toList_ofList]
    cases rest <;> simp [List.intercalate_singleton, List.intercalate_cons_cons]

/-- The parent begins where the path begins. -/
theorem isAbsolute_of_parent? {path parent : Path} (found : path.parent? = some parent) :
    parent.isAbsolute = true ↔ path.isAbsolute = true := by
  have whole := ofPieces_pieces path
  unfold parent? at found
  split at found
  · cases found
  · next first rest parts =>
    have piece : first ∈ path.text.toList.splitOn '/' := by
      change first ∈ path.pieces
      rw [parts]
      exact List.mem_cons_self
    have single : '/' ∉ first := (Sql.ColumnName.mem_splitOn piece).1
    rw [parts] at whole
    rw [← whole, isAbsolute_ofPieces single]
    split at found
    · split at found
      · cases found
      · next named =>
        cases found
        simp [named, isAbsolute]
    · next component others trimmed =>
      have longer : rest ≠ [] := by
        rintro rfl
        cases trimmed
      split at found
      · cases found
        simp [longer, isAbsolute]
      · next rooted =>
        cases found
        rw [isAbsolute_ofPieces single]
        exact ⟨fun ⟨empty, _⟩ => ⟨empty, longer⟩, fun ⟨empty, _⟩ => ⟨empty, rooted empty⟩⟩

/-! ### Ancestors -/

variable {path first second : Path}

theorem ancestors_of_top (top : path.parent? = none) : path.ancestors = [path] := by
  rw [ancestors]
  split
  · rfl
  · next parent found => cases top.symm.trans found

theorem ancestors_of_parent? {parent : Path} (found : path.parent? = some parent) :
    path.ancestors = path :: parent.ancestors := by
  rw [ancestors]
  split
  · next top => cases top.symm.trans found
  · next other same =>
    cases found.symm.trans same
    rfl

theorem mem_ancestors_iff {dir : Path} :
    dir ∈ path.ancestors ↔
      dir = path ∨ ∃ parent, path.parent? = some parent ∧ dir ∈ parent.ancestors := by
  cases found : path.parent? with
  | none => simp [ancestors_of_top found]
  | some parent => simp [ancestors_of_parent? found]

theorem mem_ancestors_self (path : Path) : path ∈ path.ancestors :=
  mem_ancestors_iff.mpr (.inl rfl)

theorem mem_ancestors_of_parent? {parent dir : Path} (found : path.parent? = some parent)
    (above : dir ∈ parent.ancestors) : dir ∈ path.ancestors :=
  mem_ancestors_iff.mpr (.inr ⟨parent, found, above⟩)

/-- By induction along the parents, each of which is shorter. -/
theorem eq_or_length_lt_of_mem_ancestors (above : first ∈ second.ancestors) :
    first = second ∨ first.text.toList.length < second.text.toList.length := by
  induction second using ancestors.induct with
  | case1 second ih =>
    rcases mem_ancestors_iff.mp above with same | ⟨parent, found, above⟩
    · exact .inl same
    · have shorter := parent?_length_lt found
      rcases ih parent found above with rfl | further
      · exact .inr shorter
      · exact .inr (Nat.lt_trans further shorter)

theorem mem_ancestors_antisymm (one : first ∈ second.ancestors) (two : second ∈ first.ancestors) :
    first = second := by
  rcases eq_or_length_lt_of_mem_ancestors one with same | shorter
  · exact same
  · rcases eq_or_length_lt_of_mem_ancestors two with same | longer
    · exact same.symm
    · exact absurd longer (Nat.lt_asymm shorter)

end LinkSearch.Files.Path
