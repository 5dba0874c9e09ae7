/-!
# Paths

A path is a text with slashes between the names of directories.  Joining and taking the parent work
on the text and normalise nothing; two paths are the same if their components are.
-/

namespace LinkSearch.Files

/-- The path of a file or a directory. -/
structure Path where
  /-- The path as written. -/
  text : String
  deriving DecidableEq

namespace Path

def pieces (path : Path) : List (List Char) :=
  path.text.toList.splitOn '/'

/-- Whether the path begins at the root. -/
def isAbsolute (path : Path) : Bool :=
  path.text.toList.head? == some '/'

/-- A piece that names nothing: an empty one or a dot. -/
def isIdle (piece : List Char) : Bool :=
  piece == [] || piece == ['.']

/-- The names on the way, including `..`, without idle pieces. -/
def steps (path : Path) : List String :=
  (path.pieces.filter (!isIdle ·)).map String.ofList

/-- Whether a relative path begins with a dot, which counts as a component there. -/
def beginsWithDot (path : Path) : Bool :=
  path.pieces.head? == some ['.']

/-- Whether two paths have the same components. -/
def same (first second : Path) : Bool :=
  first.isAbsolute == second.isAbsolute && first.beginsWithDot == second.beginsWithDot &&
    first.steps == second.steps

/-- `path` seen from the directory `base`; an absolute path stays what it is. -/
def join (base path : Path) : Path :=
  if path.isAbsolute then path
  else if base.text.isEmpty || base.text.toList.getLast? == some '/' then ⟨base.text ++ path.text⟩
  else ⟨base.text ++ "/" ++ path.text⟩

/-- Drops the idle pieces at the end. -/
def trimIdle (pieces : List (List Char)) : List (List Char) :=
  (pieces.reverse.dropWhile isIdle).reverse

def ofPieces (pieces : List (List Char)) : Path :=
  ⟨String.ofList (['/'].intercalate pieces)⟩

/--
The path without its last component, and without the slashes and dots around it.  The root and the
empty path have no parent; the parent of a single name is the empty path.
-/
def parent? (path : Path) : Option Path :=
  match path.pieces with
  | [] => none
  | first :: rest =>
    match trimIdle rest with
    | [] => if first = [] then none else some ⟨""⟩
    | component :: more =>
      match first, trimIdle (component :: more).dropLast with
      | [], [] => some ⟨"/"⟩
      | _, kept => some (ofPieces (first :: kept))

@[simp] theorem length_intercalate_cons (piece : List Char) (pieces : List (List Char)) :
    (['/'].intercalate (piece :: pieces)).length =
      piece.length + (pieces.flatMap ('/' :: ·)).length := by
  induction pieces generalizing piece with
  | nil => simp [List.intercalate_singleton]
  | cons next rest ih =>
    simp only [List.intercalate_cons_cons, List.length_append, ih, List.flatMap_cons,
      List.length_cons, List.length_nil]
    omega

theorem trimIdle_prefix (pieces : List (List Char)) : trimIdle pieces <+: pieces := by
  rw [← List.reverse_suffix, trimIdle, List.reverse_reverse]
  exact List.dropWhile_suffix _

/-- What ends the trimmed pieces is a name. -/
theorem isIdle_getLast_trimIdle {pieces : List (List Char)} (h : trimIdle pieces ≠ []) :
    isIdle ((trimIdle pieces).getLast h) = false := by
  simp only [trimIdle, List.getLast_reverse]
  exact List.head_dropWhile_not _ _

/-- Taking the last name away takes at least its slash and a character. -/
theorem length_trimIdle_dropLast {pieces : List (List Char)} (h : trimIdle pieces ≠ []) :
    ((trimIdle (trimIdle pieces).dropLast).flatMap ('/' :: ·)).length + 2 ≤
      (pieces.flatMap ('/' :: ·)).length := by
  have named := isIdle_getLast_trimIdle h
  have last : 1 ≤ ((trimIdle pieces).getLast h).length := by
    cases found : (trimIdle pieces).getLast h with
    | nil => simp [found, isIdle] at named
    | cons c rest => simp
  obtain ⟨dropped, whole⟩ := trimIdle_prefix pieces
  obtain ⟨further, shorter⟩ := trimIdle_prefix (trimIdle pieces).dropLast
  have kept : (trimIdle pieces).dropLast ++ [(trimIdle pieces).getLast h] = trimIdle pieces :=
    List.dropLast_concat_getLast h
  have total := congrArg (fun pieces => (pieces.flatMap ('/' :: ·)).length) whole
  have middle := congrArg (fun pieces => (pieces.flatMap ('/' :: ·)).length) kept
  have front := congrArg (fun pieces => (pieces.flatMap ('/' :: ·)).length) shorter
  simp only [List.flatMap_append, List.length_append, List.flatMap_cons, List.flatMap_nil,
    List.length_cons, List.length_nil] at total middle front
  omega

/-- A parent is shorter than the path. -/
theorem parent?_length_lt {path parent : Path} (h : path.parent? = some parent) :
    parent.text.toList.length < path.text.toList.length := by
  have whole : ['/'].intercalate path.pieces = path.text.toList := List.intercalate_splitOn '/'
  rw [← whole]
  unfold parent? at h
  split at h
  · simp at h
  · next first rest split =>
    rw [split, length_intercalate_cons]
    split at h
    · split at h
      · simp at h
      · next named =>
        cases h
        have := List.length_pos_iff.2 named
        simp only [String.toList_empty, List.length_nil]
        omega
    · next component more trimmed =>
      have bound := length_trimIdle_dropLast (trimmed ▸ List.cons_ne_nil component more)
      rw [trimmed] at bound
      split at h
      · cases h
        have : (Path.mk "/").text.toList.length = 1 := rfl
        simp only [List.length_nil] at *
        omega
      · cases h
        simp only [ofPieces, String.toList_ofList, length_intercalate_cons]
        omega

/-- The path, its parent, the parent of that, and so on. -/
def ancestors (path : Path) : List Path :=
  path :: match h : path.parent? with
    | none => []
    | some parent =>
      have := parent?_length_lt h
      ancestors parent
termination_by path.text.toList.length

end Path

/-- The names that lead from the root to a place. -/
abbrev Address := List String

/-- The absolute path of a place. -/
def Address.path (address : Address) : Path :=
  ⟨"/" ++ "/".intercalate address⟩

end LinkSearch.Files
