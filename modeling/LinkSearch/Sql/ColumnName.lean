/-!
# Names of columns

A column is named by segments joined with dots, such as `title` or `l.title`.  In a statement each
segment stands between double quotes, with every double quote in it written twice, so no name can
end its own quoting.
-/

namespace LinkSearch.Sql

/-- The name of a column, with the names that qualify it before it. -/
structure ColumnName where
  /-- The parts between the dots. -/
  segments : List String
  /-- There is a part at least. -/
  segments_ne_nil : segments ≠ []
  /-- A part is not empty, and holds neither a dot nor the null character. -/
  segment_ok : ∀ segment ∈ segments,
    segment ≠ "" ∧ '.' ∉ segment.toList ∧ '\x00' ∉ segment.toList
  deriving DecidableEq

namespace ColumnName

/-- The part of `s` that `splitOn` cuts out holds no separator and only characters of `s`. -/
theorem mem_splitOn {s part : List Char} {separator : Char} (h : part ∈ s.splitOn separator) :
    separator ∉ part ∧ ∀ c ∈ part, c ∈ s := by
  induction s generalizing part with
  | nil => simp_all [List.splitOn_nil]
  | cons d rest ih =>
    rw [List.splitOn_cons_eq_if_modifyHead] at h
    split at h
    · rcases List.mem_cons.1 h with rfl | later
      · simp
      · exact ⟨(ih later).1, fun c member => List.mem_cons_of_mem _ ((ih later).2 c member)⟩
    · next different =>
      obtain ⟨first, others, parts⟩ :=
        List.exists_cons_of_ne_nil (List.splitOn_ne_nil separator rest)
      rw [parts, List.modifyHead_cons] at h
      rw [parts] at ih
      rcases List.mem_cons.1 h with rfl | later
      · have inFirst := ih List.mem_cons_self
        refine ⟨?_, ?_⟩
        · simp only [beq_iff_eq] at different
          simp only [List.mem_cons, not_or]
          exact ⟨fun equal => different equal.symm, inFirst.1⟩
        · intro c member
          rcases List.mem_cons.1 member with rfl | member
          · exact List.mem_cons_self
          · exact List.mem_cons_of_mem _ (inFirst.2 c member)
      · have inLater := ih (List.mem_cons_of_mem _ later)
        exact ⟨inLater.1, fun c member => List.mem_cons_of_mem _ (inLater.2 c member)⟩

/--
Reads a name.  It is refused if it is empty, holds the null character, or has an empty part before,
between or after its dots.
-/
def parse? (name : String) : Option ColumnName :=
  if ok : '\x00' ∉ name.toList ∧ [] ∉ name.toList.splitOn '.' then
    some {
      segments := (name.toList.splitOn '.').map String.ofList
      segments_ne_nil := by simp [List.splitOn_ne_nil]
      segment_ok := by
        intro segment member
        obtain ⟨part, cut, rfl⟩ := List.mem_map.1 member
        refine ⟨?_, ?_, ?_⟩
        · intro empty
          have : part = [] := String.ofList_inj.1 empty
          exact ok.2 (this ▸ cut)
        · simpa using (mem_splitOn cut).1
        · simpa using fun null => ok.1 ((mem_splitOn cut).2 _ null) }
  else none

/-- The last part: the column without what qualifies it. -/
def column (name : ColumnName) : String :=
  name.segments.getLast name.segments_ne_nil

/-- The text as it was read. -/
def text (name : ColumnName) : String :=
  ".".intercalate name.segments

/-- A part between double quotes, with every double quote in it written twice. -/
def quoteSegment (segment : String) : String :=
  String.ofList ('\x22' ::
    segment.toList.flatMap (fun c => if c = '\x22' then ['\x22', '\x22'] else [c]) ++ ['\x22'])

/-- The name as it stands in a statement. -/
def render (name : ColumnName) : String :=
  ".".intercalate (name.segments.map quoteSegment)

/-- An accepted name is the text of what was read from it. -/
theorem text_of_parse? {name : String} {column : ColumnName} (h : parse? name = some column) :
    column.text = name := by
  unfold parse? at h
  split at h
  · cases h
    rw [text, ← String.toList_inj, String.toList_intercalate]
    simp [Function.comp_def]
  · simp at h

end ColumnName

end LinkSearch.Sql
