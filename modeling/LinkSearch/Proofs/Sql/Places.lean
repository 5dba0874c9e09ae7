import LinkSearch.Sql.Fragment
import Mathlib.Data.List.Forall2

/-!
# Places and their values

A place is a `?` outside double quotes; the name of a column may hold any number of `?`, but only
inside its quotes.  However a fragment is built, it has as many places as values, and the values
stand in the order of the places: writing each value into its place gives the text that the same
building steps give when they write the value at once.

What all steps keep is `Paired`.  It says more than the count: the text also ends outside quotes,
so that a scan of two texts put together comes to the second as it would to that text alone.
-/

namespace LinkSearch.Sql

/-! ### Scanning a text -/

/-- Whether a scan stands inside double quotes after one more character. -/
def quotedNext (quoted : Bool) (c : Char) : Bool :=
  if c = '\x22' then !quoted else quoted

/-- Whether a scan stands inside double quotes after a text.  A doubled quote changes nothing. -/
def quotedAfter (quoted : Bool) : List Char → Bool
  | [] => quoted
  | c :: rest => quotedAfter (quotedNext quoted c) rest

/-- The number of places in a text. -/
def places (quoted : Bool) : List Char → Nat
  | [] => 0
  | c :: rest => (if c = '?' ∧ quoted = false then 1 else 0) + places (quotedNext quoted c) rest

/--
The text with the first value in its first place, the second in its second place, and so on.  A
place for which there is no value stays a place.
-/
def fill (quoted : Bool) : List Char → List (List Char) → List Char
  | [], _ => []
  | c :: rest, values =>
    if c = '?' ∧ quoted = false then
      values.headD [c] ++ fill (quotedNext quoted c) rest values.tail
    else c :: fill (quotedNext quoted c) rest values

theorem quotedAfter_append (quoted : Bool) (s t : List Char) :
    quotedAfter quoted (s ++ t) = quotedAfter (quotedAfter quoted s) t := by
  induction s generalizing quoted with
  | nil => rfl
  | cons c rest ih => exact ih _

theorem places_append (quoted : Bool) (s t : List Char) :
    places quoted (s ++ t) = places quoted s + places (quotedAfter quoted s) t := by
  induction s generalizing quoted with
  | nil => simp [places, quotedAfter]
  | cons c rest ih =>
    simp only [List.cons_append, places, quotedAfter]
    rw [ih, Nat.add_assoc]

/-- A text without places stays as it is. -/
theorem fill_eq_self {quoted : Bool} {s : List Char} (none_there : places quoted s = 0)
    (values : List (List Char)) : fill quoted s values = s := by
  induction s generalizing quoted with
  | nil => rfl
  | cons c rest ih =>
    simp only [places, Nat.add_eq_zero_iff] at none_there
    have no_place : ¬ (c = '?' ∧ quoted = false) := by
      intro place
      simp [place] at none_there
    rw [fill, if_neg no_place, ih none_there.2]

/-- The values for the first of two texts are those for its places; the second gets the others. -/
theorem fill_append {quoted : Bool} {s t : List Char} {values : List (List Char)}
    (others : List (List Char)) (count : places quoted s = values.length) :
    fill quoted (s ++ t) (values ++ others) =
      fill quoted s values ++ fill (quotedAfter quoted s) t others := by
  induction s generalizing quoted values with
  | nil =>
    obtain rfl : values = [] := by simpa [places, eq_comm] using count
    rfl
  | cons c rest ih =>
    simp only [places] at count
    by_cases place : c = '?' ∧ quoted = false
    · cases values with
      | nil => simp [place] at count
      | cons value values =>
        have later : places (quotedNext quoted c) rest = values.length := by
          simp only [if_pos place, List.length_cons] at count
          omega
        simp only [List.cons_append, fill, if_pos place, quotedAfter, List.headD_cons,
          List.tail_cons, List.append_assoc]
        rw [ih later]
    · have later : places (quotedNext quoted c) rest = values.length := by
        simpa [if_neg place] using count
      simp only [List.cons_append, fill, if_neg place, quotedAfter]
      rw [ih later]

/-! ### Texts without places -/

/-- A text that has no places, and that leaves a scan outside quotes if it comes from outside. -/
structure Silent (s : List Char) : Prop where
  closed : quotedAfter false s = false
  none_there : places false s = 0

theorem Silent.nil : Silent [] := ⟨rfl, rfl⟩

theorem Silent.append {s t : List Char} (first : Silent s) (second : Silent t) :
    Silent (s ++ t) where
  closed := by rw [quotedAfter_append, first.closed, second.closed]
  none_there := by rw [places_append, first.closed, first.none_there, second.none_there]

/-- Text without question marks and double quotes is silent. -/
theorem Silent.of_plain {s : List Char} (plain : ∀ c ∈ s, c ≠ '?' ∧ c ≠ '\x22') : Silent s := by
  induction s with
  | nil => exact .nil
  | cons c rest ih =>
    obtain ⟨mark, quote⟩ := plain c List.mem_cons_self
    have later := ih fun d member => plain d (List.mem_cons_of_mem c member)
    have next : quotedNext false c = false := by simp [quotedNext, quote]
    exact ⟨by rw [quotedAfter, next, later.closed], by simp [places, next, mark, later.none_there]⟩

/-- What stands between the quotes of a name keeps a scan inside, with its quotes written twice. -/
theorem quoted_doubled (s : List Char) :
    quotedAfter true (s.flatMap fun c => if c = '\x22' then ['\x22', '\x22'] else [c]) = true ∧
    places true (s.flatMap fun c => if c = '\x22' then ['\x22', '\x22'] else [c]) = 0 := by
  induction s with
  | nil => exact ⟨rfl, rfl⟩
  | cons c rest ih =>
    rw [List.flatMap_cons, quotedAfter_append, places_append]
    by_cases quote : c = '\x22'
    · -- The first of the two quotes ends the name and the second goes back into it.
      simpa [quote, quotedAfter, quotedNext, places] using ih
    · simpa [quote, quotedAfter, quotedNext, places] using ih

theorem Silent.quoteSegment (segment : String) :
    Silent (ColumnName.quoteSegment segment).toList := by
  obtain ⟨inside, none_there⟩ := quoted_doubled segment.toList
  constructor
  · simp [ColumnName.quoteSegment, quotedAfter, quotedNext, quotedAfter_append, inside]
  · simp [ColumnName.quoteSegment, places, quotedNext, places_append, inside, none_there]

/-- Silent texts stay silent with silent text between them. -/
theorem Silent.intercalate {separator : List Char} {texts : List (List Char)}
    (between : Silent separator) (each : ∀ text ∈ texts, Silent text) :
    Silent (separator.intercalate texts) := by
  induction texts with
  | nil => exact .nil
  | cons first rest ih =>
    have later := ih fun text member => each text (List.mem_cons_of_mem first member)
    have silent := each first List.mem_cons_self
    cases rest with
    | nil => simpa using silent
    | cons second others =>
      rw [List.intercalate_cons_cons]
      exact (silent.append between).append later

/-- The name of a column is silent, whatever characters it is made of. -/
theorem Silent.render (column : ColumnName) : Silent column.render.toList := by
  rw [ColumnName.render, String.toList_intercalate]
  apply Silent.intercalate
  · exact .of_plain (by simp)
  · intro text member
    simp only [List.map_map, List.mem_map, Function.comp_apply] at member
    obtain ⟨segment, _, rfl⟩ := member
    exact .quoteSegment segment

/-! ### Fragments whose values have places -/

section Pairing

variable {encode : Bound → String}

/--
The places of a fragment are those of its values, and the fragment with its values written into
their places is the given text.
-/
structure Paired (encode : Bound → String) (fragment : Fragment) (text : String) : Prop where
  closed : quotedAfter false fragment.sql.toList = false
  count : places false fragment.sql.toList = fragment.params.length
  filled : fill false fragment.sql.toList (fragment.params.map fun value => (encode value).toList) =
    text.toList

theorem Paired.of_silent {text : String} (silent : Silent text.toList) :
    Paired encode (.raw text) text where
  closed := silent.closed
  count := silent.none_there
  filled := fill_eq_self silent.none_there _

theorem Paired.of_plain {text : String} (plain : ∀ c ∈ text.toList, c ≠ '?' ∧ c ≠ '\x22') :
    Paired encode (.raw text) text :=
  .of_silent (.of_plain plain)

theorem Paired.name (column : ColumnName) : Paired encode (.name column) column.render :=
  .of_silent (.render column)

theorem Paired.param (value : Bound) : Paired encode (.param value) (encode value) where
  closed := by simp [quotedAfter, quotedNext]
  count := by simp [places]
  filled := by simp [fill]

theorem Paired.empty : Paired encode .empty "" :=
  .of_plain (by simp)

/-- Texts and values that are put side by side keep their places. -/
theorem Paired.append {first second : Fragment} {text after : String}
    (one : Paired encode first text) (two : Paired encode second after) :
    Paired encode (first ++ second) (text ++ after) where
  closed := by
    -- The second text is scanned from outside quotes, as it would be alone.
    rw [Fragment.sql_append, String.toList_append, quotedAfter_append, one.closed, two.closed]
  count := by
    rw [Fragment.sql_append, String.toList_append, places_append, one.closed, one.count, two.count,
      Fragment.params_append, List.length_append]
  filled := by
    rw [Fragment.sql_append, String.toList_append, Fragment.params_append, List.map_append,
      fill_append _ (by simpa using one.count), one.closed, one.filled, two.filled,
      String.toList_append]

theorem Paired.join {separator : String} {fragments : List Fragment} {texts : List String}
    (between : Paired encode (.raw separator) separator)
    (each : List.Forall₂ (Paired encode) fragments texts) :
    Paired encode (.join separator fragments) (separator.intercalate texts) := by
  induction each with
  | nil => exact .empty
  | @cons first text fragments texts paired each ih =>
    cases each with
    | nil => simpa [Fragment.join] using paired
    | cons second others =>
      rw [Fragment.join, String.intercalate_cons_cons]
      · exact (paired.append between).append ih
      · simp

theorem Paired.parenthesized {fragment : Fragment} {text : String}
    (paired : Paired encode fragment text) :
    Paired encode fragment.parenthesized ("(" ++ text ++ ")") :=
  ((Paired.of_plain (by simp)).append paired).append (.of_plain (by simp))

end Pairing

/-! ### Building a fragment step by step -/

/-- Literal text of the steps: without question marks and double quotes. -/
structure Literal where
  text : String
  plain : ∀ c ∈ text.toList, c ≠ '?' ∧ c ≠ '\x22'

/-- The steps that build a fragment, each with the steps of the fragments that it starts from. -/
inductive Build where
  | new
  | raw (literal : Literal)
  | alwaysTrue
  | pushRaw (start : Build) (literal : Literal)
  | pushName (start : Build) (column : ColumnName)
  | pushParam (start : Build) (value : Bound)
  | pushFragment (start other : Build)
  | join (separator : Literal) (parts : List Build)
  | parenthesized (inner : Build)
  | flagEquals (column : ColumnName) (value : Bool)
  | contains (column : ColumnName) (value : String)

namespace Build

mutual

/-- The fragment that the steps build. -/
def fragment : Build → Fragment
  | new => .empty
  | raw literal => .raw literal.text
  | alwaysTrue => .alwaysTrue
  | pushRaw start literal => start.fragment ++ .raw literal.text
  | pushName start column => start.fragment ++ .name column
  | pushParam start value => start.fragment ++ .param value
  | pushFragment start other => start.fragment ++ other.fragment
  | join separator parts => .join separator.text (fragments parts)
  | parenthesized inner => inner.fragment.parenthesized
  | flagEquals column value => .flagEquals column value
  | contains column value => .contains column value

/-- The fragments of several builds, in order. -/
def fragments : List Build → List Fragment
  | [] => []
  | part :: parts => part.fragment :: fragments parts

end

mutual

/-- The text that the same steps build when each value is written at once, and not bound. -/
def inline (encode : Bound → String) : Build → String
  | new => ""
  | raw literal => literal.text
  | alwaysTrue => "1=1"
  | pushRaw start literal => start.inline encode ++ literal.text
  | pushName start column => start.inline encode ++ column.render
  | pushParam start value => start.inline encode ++ encode value
  | pushFragment start other => start.inline encode ++ other.inline encode
  | join separator parts => separator.text.intercalate (inlines encode parts)
  | parenthesized inner => "(" ++ inner.inline encode ++ ")"
  | flagEquals column value => column.render ++ " = " ++ encode (.integer (if value then 1 else 0))
  | contains column value =>
    "instr(lower(" ++ column.render ++ "), lower(" ++ encode (.text value) ++ ")) != 0"

/-- The texts of several builds, in order. -/
def inlines (encode : Bound → String) : List Build → List String
  | [] => []
  | part :: parts => part.inline encode :: inlines encode parts

end

mutual

/-- Every step keeps places and values paired. -/
theorem paired (encode : Bound → String) :
    ∀ build : Build, Paired encode build.fragment (build.inline encode)
  | new => .empty
  | raw literal => .of_plain literal.plain
  | alwaysTrue => .of_plain (by simp)
  | pushRaw start literal => (paired encode start).append (.of_plain literal.plain)
  | pushName start column => (paired encode start).append (.name column)
  | pushParam start value => (paired encode start).append (.param value)
  | pushFragment start other => (paired encode start).append (paired encode other)
  | join separator parts => .join (.of_plain separator.plain) (all_paired encode parts)
  | parenthesized inner => (paired encode inner).parenthesized
  | flagEquals column value =>
    ((Paired.name column).append (.of_plain (by simp))).append (.param _)
  | contains column value =>
    ((((Paired.of_plain (by simp)).append (.name column)).append (.of_plain (by simp))).append
      (.param _)).append (.of_plain (by simp))

theorem all_paired (encode : Bound → String) :
    ∀ parts : List Build, List.Forall₂ (Paired encode) (fragments parts) (inlines encode parts)
  | [] => .nil
  | part :: parts => .cons (paired encode part) (all_paired encode parts)

end

/--
A fragment has one place for each value, and with each value written into its place, in whatever
way values are written, it is the text that the same steps give when they write the values at once.
-/
theorem places_filled (build : Build) (encode : Bound → String) :
    places false build.fragment.sql.toList = build.fragment.params.length ∧
    fill false build.fragment.sql.toList
        (build.fragment.params.map fun value => (encode value).toList) =
      (build.inline encode).toList :=
  ⟨(paired encode build).count, (paired encode build).filled⟩

example : fill false "\x22what?\x22 = ?".toList [['1']] = "\x22what?\x22 = 1".toList := by
  decide

end Build

end LinkSearch.Sql
