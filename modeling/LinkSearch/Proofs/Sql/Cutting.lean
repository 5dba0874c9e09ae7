import LinkSearch.Proofs.Sql.Names
import LinkSearch.Proofs.Sql.Places

/-!
# Cutting a text at a separator

A text is cut wherever a separator stands outside double quotes and outside brackets.  Texts that
are put together with the separator between them are got back by cutting, if none of them leaves a
quote or a bracket open and the separator begins nowhere in them, whatever follows.  The name of a
column is such a text, since all that it holds is inside its quotes.
-/

namespace LinkSearch.Sql

/-- How many brackets are open after one more character.  A bracket in quotes is none. -/
def depthNext (quoted : Bool) (depth : Nat) (c : Char) : Nat :=
  if quoted then depth
  else if c = '(' then depth + 1
  else if c = ')' then depth - 1
  else depth

/-- How many brackets are open after a text. -/
def depthAfter (quoted : Bool) (depth : Nat) : List Char → Nat
  | [] => depth
  | c :: rest => depthAfter (quotedNext quoted c) (depthNext quoted depth c) rest

/-- The pieces of a text between the separators outside quotes and brackets. -/
def cut (separator : List Char) (quoted : Bool) (depth : Nat) : List Char → List (List Char)
  | [] => [[]]
  | c :: rest =>
    if quoted = false ∧ depth = 0 ∧ separator.isPrefixOf (c :: rest) then
      [] :: cut separator false 0 (rest.drop (separator.length - 1))
    else
      (cut separator (quotedNext quoted c) (depthNext quoted depth c) rest).modifyHead (c :: ·)
termination_by s => s.length
decreasing_by all_goals simp only [List.length_cons, List.length_drop]; omega

/-- What is inside the brackets of a text that is one pair of brackets with something inside. -/
def group? : List Char → Option (List Char)
  | '(' :: rest =>
    match cut [')'] false 0 rest with
    | [inner, []] => some inner
    | _ => none
  | _ => none

/-- The separator begins nowhere in the text outside quotes and brackets, whatever follows it. -/
def Uncut (separator : List Char) (quoted : Bool) (depth : Nat) : List Char → Prop
  | [] => True
  | c :: rest =>
    (quoted = false → depth = 0 → ∀ more, ¬ separator <+: c :: (rest ++ more)) ∧
      Uncut separator (quotedNext quoted c) (depthNext quoted depth c) rest

variable {separator : List Char}

theorem depthAfter_append (quoted : Bool) (depth : Nat) (s t : List Char) :
    depthAfter quoted depth (s ++ t) =
      depthAfter (quotedAfter quoted s) (depthAfter quoted depth s) t := by
  induction s generalizing quoted depth with
  | nil => rfl
  | cons c rest ih => exact ih _ _

theorem Uncut.append {quoted : Bool} {depth : Nat} {s t : List Char}
    (first : Uncut separator quoted depth s)
    (second : Uncut separator (quotedAfter quoted s) (depthAfter quoted depth s) t) :
    Uncut separator quoted depth (s ++ t) := by
  induction s generalizing quoted depth with
  | nil => exact second
  | cons c rest ih =>
    rw [List.cons_append]
    refine ⟨fun outside top more => ?_, ih first.2 second⟩
    rw [List.append_assoc]
    exact first.1 outside top (t ++ more)

/-! ### Cutting and putting together -/

theorem cut_of_uncut {quoted : Bool} {depth : Nat} {s : List Char}
    (uncut : Uncut separator quoted depth s) : cut separator quoted depth s = [s] := by
  induction s generalizing quoted depth with
  | nil => rw [cut.eq_def]
  | cons c rest ih =>
    rw [cut.eq_def]
    dsimp only
    rw [if_neg, ih uncut.2]
    · rfl
    · rintro ⟨outside, top, begins⟩
      have absent := uncut.1 outside top []
      rw [List.append_nil] at absent
      exact absent (List.isPrefixOf_iff_prefix.mp begins)

theorem cut_append_separator {quoted : Bool} {depth : Nat} {s t : List Char}
    (present : separator ≠ []) (uncut : Uncut separator quoted depth s)
    (closed : quotedAfter quoted s = false) (level : depthAfter quoted depth s = 0) :
    cut separator quoted depth (s ++ (separator ++ t)) = s :: cut separator false 0 t := by
  induction s generalizing quoted depth with
  | nil =>
    obtain rfl : quoted = false := closed
    obtain rfl : depth = 0 := level
    obtain ⟨c, word, rfl⟩ := List.exists_cons_of_ne_nil present
    have begins : (c :: word).isPrefixOf (c :: (word ++ t)) = true :=
      List.isPrefixOf_iff_prefix.mpr ⟨t, rfl⟩
    rw [List.nil_append, List.cons_append, cut.eq_def]
    simp [begins]
  | cons c rest ih =>
    rw [List.cons_append, cut.eq_def]
    dsimp only
    rw [if_neg, ih uncut.2 closed level]
    · rfl
    · rintro ⟨outside, top, begins⟩
      exact uncut.1 outside top _ (List.isPrefixOf_iff_prefix.mp begins)

/--
A text that is not cut, and that a scan from outside quotes leaves outside quotes; the brackets that
are open before it and after it are counted.
-/
structure Spans (separator : List Char) (before : Nat) (s : List Char) (after : Nat) : Prop where
  closed : quotedAfter false s = false
  level : depthAfter false before s = after
  uncut : Uncut separator false before s

theorem cut_intercalate {pieces : List (List Char)} (present : separator ≠ [])
    (some_there : pieces ≠ []) (each : ∀ piece ∈ pieces, Spans separator 0 piece 0) :
    cut separator false 0 (separator.intercalate pieces) = pieces := by
  induction pieces with
  | nil => exact absurd rfl some_there
  | cons first rest ih =>
    have whole := each first List.mem_cons_self
    cases rest with
    | nil => simpa using cut_of_uncut whole.uncut
    | cons second others =>
      have later := ih (List.cons_ne_nil _ _) fun piece member =>
        each piece (List.mem_cons_of_mem first member)
      rw [List.intercalate_cons_cons, List.append_assoc,
        cut_append_separator present whole.uncut whole.closed whole.level, later]

theorem Spans.nil (depth : Nat) : Spans separator depth [] depth := ⟨rfl, rfl, trivial⟩

theorem Spans.append {before between after : Nat} {s t : List Char}
    (first : Spans separator before s between) (second : Spans separator between t after) :
    Spans separator before (s ++ t) after where
  closed := by rw [quotedAfter_append, first.closed, second.closed]
  level := by rw [depthAfter_append, first.closed, first.level, second.level]
  uncut := by
    apply first.uncut.append
    rw [first.closed, first.level]
    exact second.uncut

theorem Spans.intercalate {depth : Nat} {between : List Char} {pieces : List (List Char)}
    (spans : Spans separator depth between depth)
    (each : ∀ piece ∈ pieces, Spans separator depth piece depth) :
    Spans separator depth (between.intercalate pieces) depth := by
  induction pieces with
  | nil => exact .nil depth
  | cons first rest ih =>
    have later := ih fun piece member => each piece (List.mem_cons_of_mem first member)
    have this := each first List.mem_cons_self
    cases rest with
    | nil => simpa using this
    | cons second others =>
      rw [List.intercalate_cons_cons]
      exact (this.append spans).append later

theorem group?_bracketed {s : List Char} (whole : Spans [')'] 0 s 0) :
    group? ('(' :: (s ++ [')'])) = some s := by
  have pieces := cut_append_separator (t := []) (by simp) whole.uncut whole.closed whole.level
  rw [List.append_nil, cut.eq_def _ _ _ []] at pieces
  simp [group?, pieces]

/-! ### Names -/

section Name

variable {first : Char} {word : List Char} (quote : first ≠ '\x22') (dot : first ≠ '.')

include quote

theorem uncut_doubled (depth : Nat) (s : List Char) :
    Uncut (first :: word) true depth (doubled s) ∧ depthAfter true depth (doubled s) = depth := by
  induction s with
  | nil => exact ⟨trivial, rfl⟩
  | cons c s ih =>
    rw [doubled_cons]
    by_cases double : c = '\x22'
    · -- Between the two quotes the scan is outside, but there stands a quote and no separator.
      simpa [double, Uncut, depthAfter, depthNext, quotedNext, quote] using ih
    · simpa [double, Uncut, depthAfter, depthNext, quotedNext] using ih

theorem Spans.quoteSegment (depth : Nat) (segment : String) :
    Spans (first :: word) depth (ColumnName.quoteSegment segment).toList depth := by
  have ⟨uncut, level⟩ : Uncut (first :: word) true depth (doubled segment.toList) ∧ _ :=
    uncut_doubled quote depth segment.toList
  have inside : quotedAfter true (doubled segment.toList) = true := (quoted_doubled _).1
  refine ⟨(Silent.quoteSegment segment).closed, ?_, ?_⟩
  · simp [ColumnName.toList_quoteSegment, depthAfter, depthNext, quotedNext, depthAfter_append,
      inside, level]
  · rw [ColumnName.toList_quoteSegment]
    refine ⟨by simp [quote], ?_⟩
    simpa [depthNext, quotedNext] using uncut.append (by simp [inside, Uncut])

include dot

theorem Spans.render (depth : Nat) (column : ColumnName) :
    Spans (first :: word) depth column.render.toList depth := by
  obtain ⟨head, others, parts⟩ := List.exists_cons_of_ne_nil column.segments_ne_nil
  rw [ColumnName.toList_render parts]
  refine (Spans.quoteSegment quote depth head).append ?_
  clear parts
  induction others with
  | nil => exact .nil depth
  | cons segment others ih =>
    rw [List.flatMap_cons]
    have point : Spans (first :: word) depth ['.'] depth :=
      ⟨rfl, by simp [depthAfter, depthNext], by simp [Uncut, dot]⟩
    exact (point.append (.quoteSegment quote depth segment)).append ih

end Name

end LinkSearch.Sql
