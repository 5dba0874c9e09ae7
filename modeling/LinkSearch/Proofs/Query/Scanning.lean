import LinkSearch.Proofs.Lists
import LinkSearch.Proofs.Query.Continuation
import Mathlib.Data.String.Basic

/-!
# Reading a query at byte offsets

A reader that keeps a byte offset into its text has to cut the text at offsets that it computes from
the sizes of characters.  A cut inside a character fails, and a piece that cannot be read has to be
stepped over.  This module states the reader of queries in this form, with every cut checked.  No
cut ever fails, nothing is ever stepped over but separators, and the terms are those that the
reader of characters finds.  The terms take up stretches of the text with only separators between
them.
-/

namespace LinkSearch.Query

open LinkSearch.Text
open Direct (isPlain)
open String (utf8Len)

/-! ### Cutting a text -/

/-- At this byte offset a character of the text begins, or the text ends. -/
abbrev IsBoundary (s : String) (offset : Nat) : Prop :=
  String.Pos.Raw.IsValid s ⟨offset⟩

/--
The text from one byte offset to another.  It fails if the offsets are not in order, or if one of
them is beyond the end or inside a character.
-/
def slice? (s : String) (start stop : Nat) : Option (List Char) :=
  if start ≤ stop ∧ IsBoundary s start ∧ IsBoundary s stop then
    some (String.Pos.Raw.extract s ⟨start⟩ ⟨stop⟩).toList
  else none

-- The first character has two bytes.
example : slice? "übc" 2 3 = some ['b'] ∧ slice? "übc" 1 3 = none := by decide

theorem isBoundary_iff {s : String} {offset : Nat} :
    IsBoundary s offset ↔ ∃ before after, s.toList = before ++ after ∧ offset = utf8Len before := by
  rw [IsBoundary, String.Pos.Raw.isValid_iff_exists_append]
  constructor
  · rintro ⟨before, after, rfl, here⟩
    refine ⟨before.toList, after.toList, String.toList_append, ?_⟩
    rw [String.utf8Len_toList]
    exact congrArg String.Pos.Raw.byteIdx here
  · rintro ⟨before, after, text, rfl⟩
    refine ⟨String.ofList before, String.ofList after, ?_, ?_⟩
    · rw [← String.ofList_append, ← text, String.ofList_toList]
    · rw [String.rawEndPos_ofList]

theorem slice?_between {s : String} {before between after : List Char}
    (text : s.toList = before ++ between ++ after) :
    slice? s (utf8Len before) (utf8Len before + utf8Len between) = some between := by
  have whole : s = String.ofList (before ++ between ++ after) := by
    rw [← text, String.ofList_toList]
  have start : IsBoundary s (utf8Len before) :=
    isBoundary_iff.mpr ⟨before, between ++ after, by rw [text, List.append_assoc], rfl⟩
  have stop : IsBoundary s (utf8Len before + utf8Len between) :=
    isBoundary_iff.mpr ⟨before ++ between, after, text, (String.utf8Len_append _ _).symm⟩
  rw [slice?, if_pos ⟨Nat.le_add_right _ _, start, stop⟩]
  rw [whole, String.extract_of_valid, String.toList_ofList]

theorem slice?_rest {s : String} {before after : List Char} (text : s.toList = before ++ after) :
    slice? s (utf8Len before) s.utf8ByteSize = some after := by
  rw [← String.utf8Len_toList, text, String.utf8Len_append]
  exact slice?_between (by rw [text, List.append_nil])

/-- Where a text can be cut off, it is what stands behind the offset. -/
theorem exists_of_slice?_rest {s : String} {offset : Nat} {after : List Char}
    (cut : slice? s offset s.utf8ByteSize = some after) :
    ∃ before, s.toList = before ++ after ∧ offset = utf8Len before := by
  have here : IsBoundary s offset := by
    unfold slice? at cut
    split at cut
    · next fits => exact fits.2.1
    · cases cut
  obtain ⟨before, rest, text, rfl⟩ := isBoundary_iff.mp here
  rw [slice?_rest text] at cut
  cases cut
  exact ⟨before, text, rfl⟩

/-! ### The scanner -/

/-- A stretch of a text, between two byte offsets. -/
structure Span where
  start : Nat
  stop : Nat
  deriving DecidableEq

namespace Scan

/-- How many bytes stand before the first character of some kind. -/
def offsetOf? (p : Char → Bool) : List Char → Option Nat
  | [] => none
  | c :: rest => if p c then some 0 else (offsetOf? p rest).map (c.utf8Size + ·)

/--
The offset of the first colon outside quotes, if no separator outside quotes comes before it, in a
text that begins at the given offset.  The text begins inside the quote `opened`, if there is one.
-/
def colon? (opened : Option Char) (offset : Nat) : List Char → Option Nat
  | [] => none
  | c :: rest =>
    match opened with
    | some quote => colon? (if c = quote then none else some quote) (offset + c.utf8Size) rest
    | none =>
      if c = ':' then some offset
      else if isQuote c then colon? (some c) (offset + c.utf8Size) rest
      else if isSeparator c then none
      else colon? none (offset + c.utf8Size) rest

/-- The value at an offset, if there is one, with the offset behind it.  It fails at a bad cut. -/
def value? (s : String) (start : Nat) : Option (Option (String × Nat)) := do
  match ← slice? s start s.utf8ByteSize with
  | [] => return none
  | first :: more =>
    if isQuote first then
      let bodyStart := start + first.utf8Size
      let body ← slice? s bodyStart s.utf8ByteSize
      match offsetOf? (· == first) body with
      | some size =>
        let value ← slice? s bodyStart (bodyStart + size)
        return some (String.ofList value, bodyStart + size + first.utf8Size)
      | none => return some (String.ofList body, s.utf8ByteSize)
    else
      let size := (offsetOf? isSeparator (first :: more)).getD (utf8Len (first :: more))
      if size = 0 then return none
      else
        let value ← slice? s start (start + size)
        return some (String.ofList value, start + size)

/-- The value at an offset as a loose term. -/
def loose? (s : String) (start : Nat) : Option (Option (Term × Nat)) := do
  match ← value? s start with
  | some (value, stop) => return some (.loose value, stop)
  | none => return none

/-- The term at an offset, if there is one, with the offset behind it.  It fails at a bad cut. -/
def term? (s : String) (start : Nat) : Option (Option (Term × Nat)) := do
  match colon? none start (← slice? s start s.utf8ByteSize) with
  | none => loose? s start
  | some colon =>
    let name ← slice? s start colon
    if Term.isFieldName name then
      match ← value? s (colon + 1) with
      | some (value, stop) => return some (.field (String.ofList name) value, stop)
      | none => loose? s start
    else loose? s start

/-- How far a text has been scanned. -/
structure Progress where
  /-- Everything before this offset has been scanned. -/
  position : Nat
  /-- The terms so far, each with its place in the text. -/
  found : List (Term × Span)

/-- What a scan ends with: the terms with their places, unless there are too many. -/
abbrev Result := Except Error (List (Term × Span))

/--
One step over a separator or a term.  Where there is neither, it goes over one character.  It fails
at a bad cut.
-/
def step? (s : String) (progress : Progress) : Option (Progress ⊕ Result) := do
  match ← slice? s progress.position s.utf8ByteSize with
  | [] => return .inr (.ok progress.found)
  | c :: _ =>
    let next : Progress := { progress with position := progress.position + c.utf8Size }
    if isSeparator c then return .inl next
    match ← term? s progress.position with
    | none => return .inl next
    | some (term, stop) =>
      let found := progress.found ++ [(term, ⟨progress.position, stop⟩)]
      if Term.limit < found.length then return .inr (.error (.tooManyTerms Term.limit))
      return .inl ⟨stop, found⟩

/-- What a scan has come to within so many steps, if it has ended and no cut has failed. -/
def run? (s : String) : Nat → Progress → Option Result
  | 0, _ => none
  | count + 1, progress => do
    match ← step? s progress with
    | .inl next => run? s count next
    | .inr result => return result

/-! ### Values -/

theorem offsetOf?_append {p : Char → Bool} {before : List Char} {c : Char} (after : List Char)
    (other : ∀ d ∈ before, p d = false) (here : p c = true) :
    offsetOf? p (before ++ c :: after) = some (utf8Len before) := by
  induction before with
  | nil => simp [offsetOf?, here]
  | cons d before ih =>
    have later := ih fun e member => other e (List.mem_cons_of_mem d member)
    simp [offsetOf?, other d List.mem_cons_self, later, Nat.add_comm]

theorem offsetOf?_eq_none {p : Char → Bool} {s : List Char} (other : ∀ d ∈ s, p d = false) :
    offsetOf? p s = none := by
  induction s with
  | nil => rfl
  | cons d s ih =>
    have later := ih fun e member => other e (List.mem_cons_of_mem d member)
    simp [offsetOf?, other d List.mem_cons_self, later]

/-- There is no value where the text ends or a separator stands. -/
theorem value?_of_startsApart {s : String} {before rest : List Char}
    (text : s.toList = before ++ rest) (apart : Term.StartsApart rest) :
    value? s (utf8Len before) = some none := by
  cases rest with
  | nil => simp [value?, slice?_rest text]
  | cons c rest =>
    have separator := Term.startsApart_cons.mp apart
    have unquoted : ¬ isQuote c = true := by
      intro mark
      simp [not_isSeparator_of_isQuote mark] at separator
    simp [value?, slice?_rest text, unquoted, offsetOf?, separator]

theorem value?_of_quoted {s : String} {before value after : List Char} {quote : Char}
    (text : s.toList = before ++ quote :: (value ++ quote :: after))
    (mark : isQuote quote = true) (absent : quote ∉ value) :
    value? s (utf8Len before) = some (some (String.ofList value,
      utf8Len before + utf8Len (quote :: (value ++ [quote])))) := by
  have cut := slice?_rest text
  have behind : s.toList = before ++ [quote] ++ (value ++ quote :: after) := by simpa using text
  have body : slice? s (utf8Len before + quote.utf8Size) s.utf8ByteSize =
      some (value ++ quote :: after) := by
    simpa using slice?_rest behind
  have inner : slice? s (utf8Len before + quote.utf8Size)
      (utf8Len before + quote.utf8Size + utf8Len value) = some value := by
    have parts : s.toList = before ++ [quote] ++ value ++ quote :: after := by simpa using text
    simpa using slice?_between parts
  have other : ∀ d ∈ value, (d == quote) = false := by
    intro d member
    simpa using fun same : d = quote => absent (same ▸ member)
  have stop : utf8Len before + utf8Len (quote :: (value ++ [quote])) =
      utf8Len before + quote.utf8Size + utf8Len value + quote.utf8Size := by
    simp only [String.utf8Len_cons, String.utf8Len_append, String.utf8Len_nil]
    omega
  rw [stop]
  simp [value?, cut, mark, body, offsetOf?_append after other, inner]

theorem value?_of_bare {s : String} {before more after : List Char} {first : Char}
    (text : s.toList = before ++ first :: (more ++ after)) (plain : isQuote first = false)
    (whole : ∀ c ∈ first :: more, isSeparator c = false) (apart : Term.StartsApart after) :
    value? s (utf8Len before) = some (some (String.ofList (first :: more),
      utf8Len before + utf8Len (first :: more))) := by
  have cut := slice?_rest text
  have size : (offsetOf? isSeparator (first :: (more ++ after))).getD
      (utf8Len (first :: (more ++ after))) = utf8Len (first :: more) := by
    cases after with
    | nil => rw [List.append_nil, offsetOf?_eq_none whole, Option.getD_none]
    | cons d after =>
      have separator := Term.startsApart_cons.mp apart
      rw [← List.cons_append, offsetOf?_append after whole separator, Option.getD_some]
  have inner : slice? s (utf8Len before) (utf8Len before + utf8Len (first :: more)) =
      some (first :: more) := slice?_between (by simpa using text)
  have filled : utf8Len (first :: more) ≠ 0 :=
    mt String.utf8Len_eq_zero.mp (List.cons_ne_nil first more)
  simp [value?, cut, plain, size, inner, filled, -String.utf8Len_cons]

/-- Without a second quote the value goes on to the end of the text. -/
theorem value?_of_open {s : String} {before rest : List Char} {quote : Char}
    (text : s.toList = before ++ quote :: rest) (mark : isQuote quote = true)
    (absent : quote ∉ rest) :
    value? s (utf8Len before) = some (some (String.ofList rest,
      utf8Len before + utf8Len (quote :: rest))) := by
  have cut := slice?_rest text
  have behind : s.toList = before ++ [quote] ++ rest := by simpa using text
  have body : slice? s (utf8Len before + quote.utf8Size) s.utf8ByteSize = some rest := by
    simpa using slice?_rest behind
  have other : ∀ d ∈ rest, (d == quote) = false := by
    intro d member
    simpa using fun same : d = quote => absent (same ▸ member)
  rw [← String.utf8Len_append, ← text, String.utf8Len_toList]
  simp [value?, cut, mark, body, offsetOf?_eq_none other]

/-- Everywhere else the value is the one that the reader of characters finds. -/
theorem value?_eq {s : String} {before rest : List Char} {c : Char}
    (text : s.toList = before ++ c :: rest) (visible : isSeparator c = false) :
    ∃ piece, piece ≠ [] ∧ c :: rest = piece ++ (Term.readValue c rest).2 ∧
      value? s (utf8Len before) =
        some (some (String.ofList (Term.readValue c rest).1, utf8Len before + utf8Len piece)) := by
  rcases Term.hasValue_or_open rest visible with ⟨value, after, has⟩ | ⟨mark, absent⟩
  · rw [has.readValue]
    generalize start : c :: rest = whole at has
    cases has with
    | quoted _ mark absent =>
      obtain ⟨rfl, rfl⟩ := List.cons.inj start
      exact ⟨_, List.cons_ne_nil _ _, by simp, value?_of_quoted text mark absent⟩
    | bare plain whole apart =>
      obtain ⟨rfl, rfl⟩ := List.cons.inj start
      exact ⟨_, List.cons_ne_nil _ _, rfl, value?_of_bare text plain whole apart⟩
  · have read : Term.readValue c rest = (rest, []) := by
      rw [Term.readValue, if_pos mark, Term.readQuoted_of_open absent]
    rw [read]
    exact ⟨c :: rest, List.cons_ne_nil c rest, by simp, value?_of_open text mark absent⟩

/-! ### Terms -/

theorem colon?_eq (opened : Option Char) (offset : Nat) (s : List Char) :
    colon? opened offset s =
      (Term.splitAtColon opened s).map fun (name, _) => offset + utf8Len name := by
  induction s generalizing opened offset with
  | nil => rfl
  | cons c rest ih =>
    have longer (opened : Option Char) : colon? opened (offset + c.utf8Size) rest =
        ((Term.splitAtColon opened rest).map (Prod.map (c :: ·) id)).map
          fun (name, _) => offset + utf8Len name := by
      rw [ih, Option.map_map]
      congr 1
      funext ⟨name, after⟩
      simp only [Function.comp, Prod.map, String.utf8Len_cons]
      omega
    cases opened with
    | some quote => rw [colon?, Term.splitAtColon, longer]
    | none =>
      unfold colon? Term.splitAtColon
      by_cases colon : c = ':'
      · simp [colon]
      by_cases mark : isQuote c = true
      · simp [colon, mark, not_isSeparator_of_isQuote mark, longer]
      · by_cases separator : isSeparator c = true
        · simp [colon, mark, separator]
        · simp [colon, mark, separator, longer]

theorem eq_append_of_splitAtColon {opened : Option Char} {s name after : List Char}
    (found : Term.splitAtColon opened s = some (name, after)) : s = name ++ ':' :: after := by
  induction s generalizing opened name with
  | nil => cases found
  | cons c rest ih =>
    have further {opened : Option Char}
        (found : (Term.splitAtColon opened rest).map (Prod.map (c :: ·) id) = some (name, after)) :
        c :: rest = name ++ ':' :: after := by
      obtain ⟨⟨others, tail⟩, later, equal⟩ := Option.map_eq_some_iff.mp found
      cases equal
      rw [ih later, List.cons_append]
    unfold Term.splitAtColon at found
    split at found
    · exact further found
    · split at found
      · next colon =>
        cases found
        rw [colon, List.nil_append]
      · split at found
        · cases found
        · exact further found

theorem loose?_eq {s : String} {before rest : List Char} {c : Char}
    (text : s.toList = before ++ c :: rest) (visible : isSeparator c = false) :
    ∃ piece, piece ≠ [] ∧ c :: rest = piece ++ (Term.readLoose c rest).2 ∧
      loose? s (utf8Len before) =
        some (some ((Term.readLoose c rest).1, utf8Len before + utf8Len piece)) := by
  obtain ⟨piece, filled, parts, read⟩ := value?_eq text visible
  refine ⟨piece, filled, parts, ?_⟩
  rw [loose?, read]
  rfl

/-- Where a colon is found, the text can be cut in front of it and behind it. -/
theorem cuts_at_colon {s : String} {before rest name after : List Char}
    (text : s.toList = before ++ rest)
    (found : Term.splitAtColon none rest = some (name, after)) :
    colon? none (utf8Len before) rest = some (utf8Len before + utf8Len name) ∧
      slice? s (utf8Len before) (utf8Len before + utf8Len name) = some name ∧
      s.toList = before ++ name ++ [':'] ++ after ∧
      utf8Len (before ++ name ++ [':']) = utf8Len before + utf8Len name + 1 := by
  have parts := eq_append_of_splitAtColon found
  have named_text : s.toList = before ++ name ++ ':' :: after := by
    rw [text, parts, List.append_assoc]
  refine ⟨?_, slice?_between named_text, by simp [named_text], ?_⟩
  · rw [colon?_eq, found, Option.map_some]
  · rw [String.utf8Len_append, String.utf8Len_append]
    rfl

/-- A name, its colon and a value behind it are a term with a field. -/
theorem term?_of_value {s : String} {before rest name more : List Char} {c next : Char}
    (text : s.toList = before ++ c :: rest)
    (found : Term.splitAtColon none (c :: rest) = some (name, next :: more))
    (named : Term.isFieldName name = true) (visible : isSeparator next = false) :
    ∃ piece, piece ≠ [] ∧ c :: rest = piece ++ (Term.read c rest).2 ∧
      term? s (utf8Len before) =
        some (some ((Term.read c rest).1, utf8Len before + utf8Len piece)) := by
  have cut := slice?_rest text
  obtain ⟨colon, name_cut, behind, colon_size⟩ := cuts_at_colon text found
  obtain ⟨piece, _, after_parts, value⟩ := value?_eq behind visible
  have read : Term.read c rest = (.field (String.ofList name)
      (String.ofList (Term.readValue next more).1), (Term.readValue next more).2) := by
    simp [Term.read, Term.readField?, found, named, Term.readValue?, visible]
  have stop : utf8Len before + utf8Len (name ++ ':' :: piece) =
      utf8Len before + utf8Len name + 1 + utf8Len piece := by
    rw [← colon_size, ← String.utf8Len_append, ← String.utf8Len_append]
    simp
  rw [colon_size] at value
  refine ⟨name ++ ':' :: piece, by simp, ?_, ?_⟩
  · rw [eq_append_of_splitAtColon found, after_parts, read, List.append_assoc, List.cons_append]
  · rw [stop]
    simp [term?, cut, colon, name_cut, named, value, read]

/--
Where a character stands that is no separator, there is a term: the one that the reader of
characters finds.  It takes up some text.
-/
theorem term?_eq {s : String} {before rest : List Char} {c : Char}
    (text : s.toList = before ++ c :: rest) (visible : isSeparator c = false) :
    ∃ piece, piece ≠ [] ∧ c :: rest = piece ++ (Term.read c rest).2 ∧
      term? s (utf8Len before) =
        some (some ((Term.read c rest).1, utf8Len before + utf8Len piece)) := by
  have cut := slice?_rest text
  have loosely := loose?_eq text visible
  cases found : Term.splitAtColon none (c :: rest) with
  | none =>
    have colon : colon? none (utf8Len before) (c :: rest) = none := by
      rw [colon?_eq, found, Option.map_none]
    have read : Term.read c rest = Term.readLoose c rest := by
      simp [Term.read, Term.readField?, found]
    simpa [term?, cut, colon, read] using loosely
  | some pair =>
    obtain ⟨name, after⟩ := pair
    obtain ⟨colon, name_cut, behind, colon_size⟩ := cuts_at_colon text found
    by_cases named : Term.isFieldName name = true
    · by_cases apart : Term.StartsApart after
      · have missing := value?_of_startsApart behind apart
        have nothing : Term.readValue? after = none := by
          cases after with
          | nil => rfl
          | cons next more => simp [Term.readValue?, Term.startsApart_cons.mp apart]
        have read : Term.read c rest = Term.readLoose c rest := by
          simp [Term.read, Term.readField?, found, named, nothing]
        rw [colon_size] at missing
        simpa [term?, cut, colon, name_cut, named, missing, read] using loosely
      · obtain ⟨next, more, rfl⟩ : ∃ next more, after = next :: more :=
          List.exists_cons_of_ne_nil fun nothing => apart (nothing ▸ .nil)
        have visible_next : isSeparator next = false :=
          Bool.not_eq_true _ ▸ mt Term.startsApart_cons.mpr apart
        exact term?_of_value text found named visible_next
    · have read : Term.read c rest = Term.readLoose c rest := by
        simp [Term.read, Term.readField?, found, named]
      simpa [term?, cut, colon, name_cut, named, read] using loosely

/-! ### Places of terms -/

/--
The text, which begins at the given offset, is put together of these stretches, none of them empty,
and of separators before, between and behind them.
-/
inductive Tiles : Nat → List Char → List Span → Prop where
  | last {offset : Nat} {gap : List Char} (separators : ∀ c ∈ gap, isSeparator c = true) :
      Tiles offset gap []
  | span {offset : Nat} {gap piece rest : List Char} {spans : List Span}
      (separators : ∀ c ∈ gap, isSeparator c = true) (filled : piece ≠ [])
      (later : Tiles (offset + utf8Len gap + utf8Len piece) rest spans) :
      Tiles offset (gap ++ piece ++ rest)
        (⟨offset + utf8Len gap, offset + utf8Len gap + utf8Len piece⟩ :: spans)

/-- A separator in front widens the first gap. -/
theorem Tiles.separator {offset : Nat} {c : Char} {rest : List Char} {spans : List Span}
    (separator : isSeparator c = true) (tiles : Tiles (offset + c.utf8Size) rest spans) :
    Tiles offset (c :: rest) spans := by
  cases tiles with
  | last separators => exact .last (List.forall_mem_cons.mpr ⟨separator, separators⟩)
  | @span _ gap piece rest spans separators filled later =>
    have size : offset + c.utf8Size + utf8Len gap = offset + utf8Len (c :: gap) := by
      rw [String.utf8Len_cons]
      omega
    rw [size] at later ⊢
    exact .span (List.forall_mem_cons.mpr ⟨separator, separators⟩) filled later

theorem Tiles.bounds {offset : Nat} {text : List Char} {spans : List Span}
    (tiles : Tiles offset text spans) :
    ∀ span ∈ spans, offset ≤ span.start ∧ span.start < span.stop := by
  induction tiles with
  | last => simp
  | @span offset gap piece rest spans _ filled _ ih =>
    have size : 0 < utf8Len piece := Nat.pos_of_ne_zero (mt String.utf8Len_eq_zero.mp filled)
    intro span member
    rcases List.mem_cons.mp member with rfl | member
    · simp only
      omega
    · have := ih span member
      omega

/-- The stretches are in order and do not overlap. -/
theorem Tiles.pairwise {offset : Nat} {text : List Char} {spans : List Span}
    (tiles : Tiles offset text spans) :
    spans.Pairwise fun first second => first.stop ≤ second.start := by
  induction tiles with
  | last => exact .nil
  | span _ _ later ih => exact .cons (fun span member => (later.bounds span member).1) ih

/-- What is no separator stands in a stretch. -/
theorem Tiles.exists_span {offset : Nat} {text : List Char} {spans : List Span}
    (tiles : Tiles offset text spans) {before after : List Char} {c : Char}
    (parts : text = before ++ c :: after) (visible : isSeparator c = false) :
    ∃ span ∈ spans, span.start ≤ offset + utf8Len before ∧
      offset + utf8Len before < span.stop := by
  have not_in {front gap more : List Char} (separators : ∀ d ∈ gap, isSeparator d = true)
      (inside : gap = front ++ c :: more) : False := by
    have separator := separators c (by simp [inside])
    simp [visible] at separator
  induction tiles generalizing before with
  | last separators => exact (not_in separators parts).elim
  | @span offset gap piece rest spans separators filled later ih =>
    rcases append_eq_append_cons parts with ⟨more, front⟩ | ⟨more, rfl, behind⟩
    · rcases append_eq_append_cons front with ⟨more, inside⟩ | ⟨first, rfl, rfl⟩
      · exact (not_in separators inside).elim
      · have size := c.utf8Size_pos
        refine ⟨_, List.mem_cons_self, ?_⟩
        simp only [String.utf8Len_append, String.utf8Len_cons]
        omega
    · obtain ⟨span, member, inside⟩ := ih behind
      refine ⟨span, List.mem_cons_of_mem _ member, ?_⟩
      simp only [String.utf8Len_append] at inside ⊢
      omega

/-- The stretches begin and end between characters. -/
theorem Tiles.isBoundary {s : String} {before rest : List Char} {spans : List Span}
    (tiles : Tiles (utf8Len before) rest spans) (text : s.toList = before ++ rest) :
    ∀ span ∈ spans, IsBoundary s span.start ∧ IsBoundary s span.stop := by
  generalize here : utf8Len before = offset at tiles
  induction tiles generalizing before with
  | last => simp
  | @span offset gap piece rest spans _ _ _ ih =>
    subst here
    have start : IsBoundary s (utf8Len before + utf8Len gap) :=
      isBoundary_iff.mpr ⟨before ++ gap, piece ++ rest, by simp [text], by simp⟩
    have stop : IsBoundary s (utf8Len before + utf8Len gap + utf8Len piece) :=
      isBoundary_iff.mpr ⟨before ++ gap ++ piece, rest, by simp [text], by simp [Nat.add_assoc]⟩
    have behind : s.toList = before ++ gap ++ piece ++ rest := by simp [text]
    exact List.forall_mem_cons.mpr ⟨⟨start, stop⟩, ih behind (by simp [Nat.add_assoc])⟩

/-! ### Steps -/

theorem step?_of_end {s : String} {before : List Char} (text : s.toList = before)
    (found : List (Term × Span)) : step? s ⟨utf8Len before, found⟩ = some (.inr (.ok found)) := by
  have parts : s.toList = before ++ [] := by rw [text, List.append_nil]
  simp [step?, slice?_rest parts]

theorem step?_of_separator {s : String} {before rest : List Char} {c : Char}
    (text : s.toList = before ++ c :: rest) (separator : isSeparator c = true)
    (found : List (Term × Span)) :
    step? s ⟨utf8Len before, found⟩ = some (.inl ⟨utf8Len before + c.utf8Size, found⟩) := by
  simp [step?, slice?_rest text, separator]

/-- One step takes in a term, which is kept with its place unless there is no room for it. -/
theorem step?_of_term {s : String} {before rest : List Char} {c : Char} {term : Term} {stop : Nat}
    (text : s.toList = before ++ c :: rest) (visible : isSeparator c = false)
    (read : term? s (utf8Len before) = some (some (term, stop))) (found : List (Term × Span)) :
    step? s ⟨utf8Len before, found⟩ =
      some (if Term.limit ≤ found.length then .inr (.error (.tooManyTerms Term.limit))
        else .inl ⟨stop, found ++ [(term, ⟨utf8Len before, stop⟩)]⟩) := by
  by_cases full : Term.limit ≤ found.length
  · simp [step?, slice?_rest text, visible, read, full, Nat.lt_succ_of_le full]
  · have room : ¬ Term.limit < found.length + 1 := by omega
    simp [step?, slice?_rest text, visible, read, full, room]

/-- The text behind an offset holds these terms at these places. -/
structure Holds (s : String) (offset : Nat) (rest : List Char) (entries : List (Term × Span)) :
    Prop where
  /-- They are the terms that the reader of characters finds. -/
  terms : entries.map Prod.fst = Term.readAll rest
  /-- Their places leave only separators over. -/
  tiles : Tiles offset rest (entries.map Prod.snd)
  /-- Each is read where its place begins, up to where it ends. -/
  read : ∀ entry ∈ entries, term? s entry.2.start = some (some (entry.1, entry.2.stop))

theorem Holds.separator {s : String} {offset : Nat} {c : Char} {rest : List Char}
    {entries : List (Term × Span)} (separator : isSeparator c = true)
    (holds : Holds s (offset + c.utf8Size) rest entries) : Holds s offset (c :: rest) entries where
  terms := by rw [holds.terms, Term.readAll_cons_of_isSeparator separator]
  tiles := holds.tiles.separator separator
  read := holds.read

theorem Holds.term {s : String} {offset : Nat} {c : Char} {rest piece : List Char}
    {entries : List (Term × Span)} (visible : isSeparator c = false) (filled : piece ≠ [])
    (parts : c :: rest = piece ++ (Term.read c rest).2)
    (read : term? s offset = some (some ((Term.read c rest).1, offset + utf8Len piece)))
    (holds : Holds s (offset + utf8Len piece) (Term.read c rest).2 entries) :
    Holds s offset (c :: rest)
      (((Term.read c rest).1, ⟨offset, offset + utf8Len piece⟩) :: entries) where
  terms := by rw [List.map_cons, holds.terms, Term.readAll_cons visible]
  tiles := by
    have tiles : Tiles offset ([] ++ piece ++ (Term.read c rest).2) _ :=
      .span (by simp) filled holds.tiles
    rw [List.nil_append, ← parts] at tiles
    exact tiles
  read := List.forall_mem_cons.mpr ⟨read, holds.read⟩

/--
A scan ends within one step for each character that is left and one more.  It ends with all terms
that are left, unless they find no room.
-/
theorem run?_eq {s : String} {before rest : List Char} {found : List (Term × Span)} {count : Nat}
    (text : s.toList = before ++ rest) (enough : rest.length < count)
    (room : found.length ≤ Term.limit) :
    ∃ entries, Holds s (utf8Len before) rest entries ∧
      run? s count ⟨utf8Len before, found⟩ =
        some (if found.length + entries.length ≤ Term.limit then .ok (found ++ entries)
          else .error (.tooManyTerms Term.limit)) := by
  obtain ⟨count, rfl⟩ : ∃ more, count = more + 1 := Nat.exists_eq_add_of_le' (by omega)
  fun_induction Term.readAll rest generalizing before found count with
  | case1 =>
    refine ⟨[], ⟨by simp, .last (by simp), by simp⟩, ?_⟩
    simp [run?, step?_of_end (by simpa using text), room]
  | case2 c rest separator ih =>
    have size : utf8Len (before ++ [c]) = utf8Len before + c.utf8Size := by simp
    rw [List.length_cons] at enough
    obtain ⟨count, rfl⟩ : ∃ more, count = more + 1 := Nat.exists_eq_add_of_le' (by omega)
    have behind : s.toList = before ++ [c] ++ rest := by simpa using text
    obtain ⟨entries, holds, ends⟩ := ih behind room count (by omega)
    rw [size] at holds ends
    refine ⟨entries, holds.separator separator, ?_⟩
    rw [run?, step?_of_separator text separator]
    exact ends
  | case3 c rest plain _ ih =>
    have visible : isSeparator c = false := Bool.not_eq_true _ ▸ plain
    obtain ⟨piece, filled, parts, read⟩ := term?_eq text visible
    have behind : s.toList = before ++ piece ++ (Term.read c rest).2 := by
      rw [text, parts, List.append_assoc]
    have size : utf8Len (before ++ piece) = utf8Len before + utf8Len piece :=
      String.utf8Len_append _ _
    have shorter : (Term.read c rest).2.length ≤ rest.length := Term.read_length_le visible
    rw [List.length_cons] at enough
    obtain ⟨count, rfl⟩ : ∃ more, count = more + 1 := Nat.exists_eq_add_of_le' (by omega)
    have step := step?_of_term text visible read found
    by_cases full : Term.limit ≤ found.length
    · -- The terms that are left are there, but the scan does not come to them.
      have none_found : ([] : List (Term × Span)).length ≤ Term.limit := Nat.zero_le _
      obtain ⟨entries, holds, _⟩ := ih behind none_found count (by omega)
      rw [size] at holds
      refine ⟨_, holds.term visible filled parts read, ?_⟩
      rw [if_pos full] at step
      rw [run?, step, if_neg (by simp only [List.length_cons]; omega)]
      rfl
    · have more_room : (found ++ [((Term.read c rest).1,
          (⟨utf8Len before, utf8Len before + utf8Len piece⟩ : Span))]).length ≤ Term.limit := by
        rw [List.length_append, List.length_singleton]
        omega
      obtain ⟨entries, holds, ends⟩ := ih behind more_room count (by omega)
      rw [size] at holds ends
      refine ⟨_, holds.term visible filled parts read, ?_⟩
      rw [if_neg full] at step
      rw [run?, step]
      simpa [Nat.add_assoc, Nat.add_comm 1] using ends

end Scan

/--
Wherever a character stands that is no separator there is a term, and it ends further on and between
two characters.
-/
theorem Scan.exists_term? {query : String} {offset : Nat} {c : Char} {rest : List Char}
    (here : slice? query offset query.utf8ByteSize = some (c :: rest))
    (visible : isSeparator c = false) :
    ∃ term stop, Scan.term? query offset = some (some (term, stop)) ∧
      offset < stop ∧ IsBoundary query stop := by
  obtain ⟨before, text, rfl⟩ := exists_of_slice?_rest here
  obtain ⟨piece, filled, parts, read⟩ := Scan.term?_eq text visible
  have size : 0 < utf8Len piece := Nat.pos_of_ne_zero (mt String.utf8Len_eq_zero.mp filled)
  refine ⟨_, _, read, Nat.lt_add_of_pos_right size, isBoundary_iff.mpr ?_⟩
  refine ⟨before ++ piece, (Term.read c rest).2, ?_, (String.utf8Len_append _ _).symm⟩
  rw [text, parts, List.append_assoc]

/-- A character that is no separator stands in the place of exactly one of the terms. -/
theorem Scan.Holds.existsUnique_entry {query : String} {entries : List (Term × Span)}
    (holds : Scan.Holds query 0 query.toList entries) {offset : Nat} {c : Char} {rest : List Char}
    (here : slice? query offset query.utf8ByteSize = some (c :: rest))
    (visible : isSeparator c = false) :
    ∃! entry, entry ∈ entries ∧ entry.2.start ≤ offset ∧ offset < entry.2.stop := by
  obtain ⟨before, text, rfl⟩ := exists_of_slice?_rest here
  obtain ⟨span, member, inside⟩ := holds.tiles.exists_span text visible
  obtain ⟨entry, present, rfl⟩ := List.mem_map.mp member
  rw [Nat.zero_add] at inside
  refine ⟨entry, ⟨present, inside⟩, ?_⟩
  rintro other ⟨other_present, other_inside⟩
  -- The places of two different terms do not overlap, so only one of them holds the character.
  have apart := List.pairwise_map.mp holds.tiles.pairwise
  rcases eq_or_rel_of_pairwise apart other_present present with same | before | after
  · exact same
  · omega
  · omega

/--
Reading a query at byte offsets.  Wherever a character stands that is no separator, there is a term,
which ends further on and between two characters; so nothing but separators is ever stepped over.
A scan of the query ends, with at most one step for each character and one more, without a bad cut,
and with the terms of the query or the same refusal.  The places of the terms do not overlap, are in
the order of the terms and have only separators between them, so each character that is no separator
stands in the place of exactly one term.
-/
theorem scan_accounts_for_text (query : String) :
    (∀ offset c rest, slice? query offset query.utf8ByteSize = some (c :: rest) →
      isSeparator c = false → ∃ term stop, Scan.term? query offset = some (some (term, stop)) ∧
        offset < stop ∧ IsBoundary query stop) ∧
    ∃ result, Scan.run? query (query.length + 1) ⟨0, []⟩ = some result ∧
      terms query = result.map (List.map Prod.fst) ∧
      ∀ entries, result = .ok entries →
        Scan.Tiles 0 query.toList (entries.map Prod.snd) ∧
        (∀ entry ∈ entries,
          Scan.term? query entry.2.start = some (some (entry.1, entry.2.stop)) ∧
          IsBoundary query entry.2.start ∧ IsBoundary query entry.2.stop ∧
          entry.2.start < entry.2.stop) ∧
        entries.Pairwise (fun first second => first.2.stop ≤ second.2.start) ∧
        ∀ offset c rest, slice? query offset query.utf8ByteSize = some (c :: rest) →
          isSeparator c = false →
          ∃! entry, entry ∈ entries ∧ entry.2.start ≤ offset ∧ offset < entry.2.stop := by
  refine ⟨fun _ _ _ => Scan.exists_term?, ?_⟩
  have whole : query.toList = [] ++ query.toList := rfl
  have none_found : ([] : List (Term × Span)).length ≤ Term.limit := Nat.zero_le _
  have enough : query.toList.length < query.length + 1 := Nat.lt_succ_self _
  obtain ⟨entries, holds, ends⟩ := Scan.run?_eq whole enough none_found
  refine ⟨_, ends, ?_, ?_⟩
  · rw [terms_eq_ite, ← holds.terms, List.length_map]
    by_cases fits : entries.length ≤ 5 <;> simp [fits, Term.limit, Except.map]
  · intro all accepted
    obtain rfl : entries = all := by
      split at accepted
      · rwa [Except.ok.injEq, List.nil_append] at accepted
      · cases accepted
    refine ⟨holds.tiles, ?_, List.pairwise_map.mp holds.tiles.pairwise,
      fun _ _ _ => holds.existsUnique_entry⟩
    intro entry member
    have placed : entry.2 ∈ entries.map Prod.snd := List.mem_map_of_mem member
    obtain ⟨start, stop⟩ := holds.tiles.isBoundary whole entry.2 placed
    exact ⟨holds.read entry member, start, stop, (holds.tiles.bounds entry.2 placed).2⟩

/--
Two characters of this query have two bytes each.  The place of the first term holds both, and a
separator between them.
-/
theorem scan_accounts_for_text_umlauts :
    Scan.run? "é:'x ü' don't" 14 ⟨0, []⟩ =
      some (.ok [(.field "é" "x ü", ⟨0, 9⟩), (.loose "don't", ⟨10, 15⟩)]) ∧
    (∃ term stop, Scan.term? "é:'x ü' don't" 10 = some (some (term, stop)) ∧
      10 < stop ∧ IsBoundary "é:'x ü' don't" stop) ∧
    ∃! entry, entry ∈ [(Term.field "é" "x ü", Span.mk 0 9), (.loose "don't", ⟨10, 15⟩)] ∧
      entry.2.start ≤ 6 ∧ 6 < entry.2.stop := by
  obtain ⟨readable, result, ends, _, places⟩ := scan_accounts_for_text "é:'x ü' don't"
  have run : Scan.run? "é:'x ü' don't" 14 ⟨0, []⟩ =
      some (.ok [(.field "é" "x ü", ⟨0, 9⟩), (.loose "don't", ⟨10, 15⟩)]) := rfl
  cases run.symm.trans ends
  obtain ⟨_, _, _, exactly⟩ := places _ rfl
  have apostrophe : slice? "é:'x ü' don't" 10 15 = some ['d', 'o', 'n', '\'', 't'] := by decide
  have umlaut : slice? "é:'x ü' don't" 6 15 =
      some ['ü', '\'', ' ', 'd', 'o', 'n', '\'', 't'] := by decide
  exact ⟨run, readable 10 _ _ apostrophe (by decide), exactly 6 _ _ umlaut (by decide)⟩

end LinkSearch.Query
