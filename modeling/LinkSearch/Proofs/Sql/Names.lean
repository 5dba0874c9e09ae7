import LinkSearch.Proofs.Sql.Quoting
import LinkSearch.Sql.Token

/-!
# Reading the names of columns

The name of a column is read back from a statement part by part, whatever characters its parts hold
and whatever follows it, unless that begins with a quote or a dot.  So different columns are written
differently.
-/

namespace LinkSearch.Sql

/-- The characters of a part with every double quote written twice. -/
def doubled (s : List Char) : List Char :=
  s.flatMap fun c => if c = '\x22' then ['\x22', '\x22'] else [c]

/-- A text that neither goes on with the name before it nor with its last part. -/
def EndsName (s : List Char) : Prop := ∀ c ∈ s.head?, c ≠ '\x22' ∧ c ≠ '.'

theorem doubled_cons (c : Char) (s : List Char) :
    doubled (c :: s) = (if c = '\x22' then ['\x22', '\x22'] else [c]) ++ doubled s :=
  List.flatMap_cons

namespace ColumnName

theorem toList_quoteSegment (segment : String) :
    (quoteSegment segment).toList = '\x22' :: (doubled segment.toList ++ ['\x22']) := by
  simp [quoteSegment, doubled]

/-- Parts with dots between them are the first and then, each after a dot, the others. -/
theorem toList_quoteSegments (first : String) (others : List String) :
    (".".intercalate ((first :: others).map quoteSegment)).toList = (quoteSegment first).toList ++
      others.flatMap fun segment => '.' :: (quoteSegment segment).toList := by
  rw [String.toList_intercalate]
  induction others generalizing first with
  | nil => simp
  | cons second others ih =>
    have later := ih second
    simp only [List.map_cons] at later ⊢
    rw [List.intercalate_cons_cons, later]
    simp

theorem toList_render {column : ColumnName} {first : String} {others : List String}
    (parts : column.segments = first :: others) :
    column.render.toList = (quoteSegment first).toList ++
      others.flatMap fun segment => '.' :: (quoteSegment segment).toList := by
  rw [render, parts, toList_quoteSegments]

end ColumnName

namespace Token

open ColumnName

theorem readSegment?_eq_readQuoted? (s : List Char) : readSegment? s = readQuoted? '\x22' s := by
  fun_induction readQuoted? '\x22' s with
  | case1 | case2 => rfl
  | case3 c other => simp [readSegment?, other]
  | case4 c d rest other ih => simp [readSegment?, other, ih]
  | case5 c rest same ih =>
    obtain rfl : c = '\x22' := Classical.not_not.mp same
    simp [readSegment?, ih]
  | case6 c d rest same other =>
    obtain rfl : c = '\x22' := Classical.not_not.mp same
    simp [readSegment?, other]

/-- A quote that stands alone ends a part, and the doubled ones stand for themselves. -/
theorem readSegment?_doubled (s rest : List Char) (ends : ∀ c ∈ rest.head?, c ≠ '\x22') :
    readSegment? (doubled s ++ '\x22' :: rest) = some (s, rest) := by
  rw [readSegment?_eq_readQuoted?]
  exact readQuoted?_quotesDoubled s ends

theorem readName?_of_end {s segment rest : List Char}
    (found : readSegment? s = some (segment, rest)) (ends : EndsName rest) :
    readName? s = some ([String.ofList segment], rest) := by
  rw [readName?.eq_def]
  split
  · next missing => simp [found] at missing
  · next more =>
    cases found.symm.trans more
    exact absurd rfl (ends '.' rfl).2
  · next same =>
    cases found.symm.trans same
    rfl

theorem readName?_of_dot {s segment more : List Char}
    (found : readSegment? s = some (segment, '.' :: '\x22' :: more)) :
    readName? s = (readName? more).map (Prod.map (String.ofList segment :: ·) id) := by
  rw [readName?.eq_def]
  split
  · next missing => simp [found] at missing
  · next same =>
    cases found.symm.trans same
    rfl
  · next last same =>
    cases found.symm.trans same
    exact absurd rfl (last _)

/-- By induction on the parts behind the first, each of which begins with a dot and a quote. -/
theorem readName?_parts (first : String) (others : List String) {rest : List Char}
    (ends : EndsName rest) :
    readName? (doubled first.toList ++ '\x22' ::
        (others.flatMap (fun segment => '.' :: (quoteSegment segment).toList) ++ rest)) =
      some (first :: others, rest) := by
  induction others generalizing first with
  | nil =>
    have found := readSegment?_doubled first.toList rest fun c member => (ends c member).1
    simpa using readName?_of_end found ends
  | cons second others ih =>
    rw [List.flatMap_cons, toList_quoteSegment]
    have found := readSegment?_doubled first.toList ('.' :: '\x22' ::
      (doubled second.toList ++ '\x22' :: (others.flatMap (fun segment =>
        '.' :: (quoteSegment segment).toList) ++ rest))) (by simp)
    simp only [List.cons_append, List.append_assoc, List.nil_append]
    rw [readName?_of_dot found, ih second]
    simp

/-- A name that is written is read back. -/
theorem readName?_render (column : ColumnName) :
    ∃ body, column.render.toList = '\x22' :: body ∧ ∀ rest, EndsName rest →
      readName? (body ++ rest) = some (column.segments, rest) := by
  obtain ⟨first, others, parts⟩ := List.exists_cons_of_ne_nil column.segments_ne_nil
  refine ⟨_, by rw [toList_render parts, toList_quoteSegment, List.cons_append], ?_⟩
  intro rest ends
  have read := readName?_parts first others ends
  simpa [parts] using read

end Token

/-- A quoted name: a quote, and then the parts of the name. -/
def Token.readQuotedName? : List Char → Option (List String × List Char)
  | '\x22' :: rest => readName? rest
  | _ => none

theorem Token.readQuotedName?_render (column : ColumnName) {rest : List Char}
    (ends : EndsName rest) :
    readQuotedName? (column.render.toList ++ rest) = some (column.segments, rest) := by
  obtain ⟨body, text, read⟩ := readName?_render column
  rw [text]
  exact read rest ends

namespace ColumnName

theorem segments_injective {first second : ColumnName} (same : first.segments = second.segments) :
    first = second := by
  cases first
  cases second
  cases same
  rfl

theorem render_injective {first second : ColumnName} (same : first.render = second.render) :
    first = second := by
  have ends : EndsName [] := by simp [EndsName]
  have read := Token.readQuotedName?_render first ends
  rw [same, Token.readQuotedName?_render second ends] at read
  simp only [Option.some.injEq, Prod.mk.injEq, and_true] at read
  exact segments_injective read.symm

/-! ### Names that are accepted -/

theorem exists_parse?_iff {name : String} :
    (∃ column, parse? name = some column) ↔
      name ≠ "" ∧ '\x00' ∉ name.toList ∧ ∀ segment ∈ name.toList.splitOn '.', segment ≠ [] := by
  constructor
  · rintro ⟨column, found⟩
    unfold parse? at found
    split at found
    · next ok =>
      refine ⟨?_, ok.1, fun segment member empty => ok.2 (empty ▸ member)⟩
      rintro rfl
      exact ok.2 List.mem_cons_self
    · cases found
  · rintro ⟨_, null, parts⟩
    have ok : '\x00' ∉ name.toList ∧ [] ∉ name.toList.splitOn '.' :=
      ⟨null, fun empty => parts [] empty rfl⟩
    exact ⟨_, dif_pos ok⟩

theorem segments_of_parse? {name : String} {column : ColumnName}
    (found : parse? name = some column) :
    column.segments = (name.toList.splitOn '.').map String.ofList := by
  unfold parse? at found
  split at found
  · cases found
    rfl
  · cases found

/--
A name is accepted if it is not empty, holds no null character and has no empty part between its
dots.  Its parts joined with dots are the name again.  Written in a statement it is read as exactly
these parts, up to its own last quote, before any text that begins with neither a quote nor a dot.
So different names are written differently.
-/
theorem parsed_name_reads_back (name : String) :
    ((∃ column, parse? name = some column) ↔
      name ≠ "" ∧ '\x00' ∉ name.toList ∧ ∀ segment ∈ name.toList.splitOn '.', segment ≠ []) ∧
    ∀ column, parse? name = some column →
      column.segments = (name.toList.splitOn '.').map String.ofList ∧
      ".".intercalate column.segments = name ∧
      (∀ rest, EndsName rest →
        Token.readQuotedName? (column.render.toList ++ rest) = some (column.segments, rest)) ∧
      ∀ other otherColumn, parse? other = some otherColumn → other ≠ name →
        otherColumn.render ≠ column.render := by
  refine ⟨exists_parse?_iff, fun column found => ?_⟩
  have text : column.text = name := text_of_parse? found
  refine ⟨segments_of_parse? found, text, fun rest => Token.readQuotedName?_render column, ?_⟩
  intro other otherColumn found_other different same
  apply different
  rw [← text, ← text_of_parse? found_other, render_injective same]

/-- One part is nothing but quotes, and the other one has a quote inside. -/
theorem parsed_name_reads_back_quotes :
    ∃ column other, parse? "\"\".ti\"tle" = some column ∧ parse? "\".ti\"tle" = some other ∧
      column.segments = ["\"\"", "ti\"tle"] ∧ EndsName " = ?".toList ∧
      Token.readQuotedName? (column.render.toList ++ " = ?".toList) =
        some (["\"\"", "ti\"tle"], " = ?".toList) ∧
      other.render ≠ column.render := by
  obtain ⟨accepted, reads⟩ := parsed_name_reads_back "\"\".ti\"tle"
  obtain ⟨column, found⟩ := accepted.mpr (by decide)
  obtain ⟨other, found_other⟩ := (parsed_name_reads_back "\".ti\"tle").1.mpr (by decide)
  obtain ⟨cut, _, read, different⟩ := reads column found
  have segments : column.segments = ["\"\"", "ti\"tle"] := cut.trans (by decide)
  have ends : EndsName " = ?".toList := by simp [EndsName]
  exact ⟨column, other, found, found_other, segments, ends, segments ▸ read _ ends,
    different _ other found_other (by decide)⟩

end ColumnName

end LinkSearch.Sql
