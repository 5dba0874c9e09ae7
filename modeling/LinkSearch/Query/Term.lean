import LinkSearch.Text.Separator

/-!
# Terms of a query

A query is a sequence of terms, each `field:value` or a bare value.  A value is bare, up to the next
separator, or quoted with one of three quotes; a quote that is never closed runs to the end of the
text.  A colon inside quotes separates nothing.

The reader looks for the colon first, skipping quoted stretches, and only then decides whether the
text before it can be the name of a field.
-/

namespace LinkSearch.Query

open LinkSearch.Text

inductive Term where
  /-- A value asked of one field, written `name:value`. -/
  | field (name value : String)
  /-- A value with no field. -/
  | loose (value : String)
  deriving DecidableEq

namespace Term

/-- A query may hold this many terms at most. -/
def limit : Nat := 5

/--
Splits a text at its first colon outside quotes.  There is none if a separator outside quotes or the
end of the text comes first.  The reader is inside the quote `opened`, if there is one.
-/
def splitAtColon (opened : Option Char) : List Char → Option (List Char × List Char)
  | [] => none
  | c :: rest =>
    match opened with
    | some quote =>
      (splitAtColon (if c = quote then none else some quote) rest).map (Prod.map (c :: ·) id)
    | none =>
      if c = ':' then some ([], rest)
      else if isSeparator c then none
      else (splitAtColon (if isQuote c then some c else none) rest).map (Prod.map (c :: ·) id)

/-- The text up to the closing quote, and what follows that quote. -/
def readQuoted (quote : Char) (body : List Char) : List Char × List Char :=
  (body.takeWhile (· != quote), (body.dropWhile (· != quote)).tail)

/-- The longest start without a separator, and what follows it. -/
def readBare (s : List Char) : List Char × List Char :=
  (s.takeWhile (!isSeparator ·), s.dropWhile (!isSeparator ·))

/-- The value that begins with the character `c`, and what follows it. -/
def readValue (c : Char) (rest : List Char) : List Char × List Char :=
  if isQuote c then readQuoted c rest else readBare (c :: rest)

/-- The value at the start of a text, and what follows it; none at a separator or at the end. -/
def readValue? : List Char → Option (List Char × List Char)
  | [] => none
  | c :: rest => if isSeparator c then none else some (readValue c rest)

/-- A field name is not empty and holds neither separators nor quotes. -/
def isFieldName (name : List Char) : Bool :=
  !name.isEmpty && name.all isNameChar

/-- The term `name:value` at the start of a text, and what follows it. -/
def readField? (s : List Char) : Option (Term × List Char) := do
  let (name, after) ← splitAtColon none s
  if isFieldName name then
    let (value, rest) ← readValue? after
    return (.field (String.ofList name) (String.ofList value), rest)
  else
    none

/-- The value that begins with the character `c` as a term of its own, and what follows it. -/
def readLoose (c : Char) (rest : List Char) : Term × List Char :=
  let (value, after) := readValue c rest
  (.loose (String.ofList value), after)

/-- The term that begins with the character `c`, which is no separator, and what follows it. -/
def read (c : Char) (rest : List Char) : Term × List Char :=
  (readField? (c :: rest)).getD (readLoose c rest)

/-! ### A term takes text -/

private theorem length_dropWhile_le (p : Char → Bool) (s : List Char) :
    (s.dropWhile p).length ≤ s.length :=
  (List.dropWhile_sublist p).length_le

theorem readValue_length_le {c : Char} {rest : List Char} (h : isSeparator c = false) :
    (readValue c rest).2.length ≤ rest.length := by
  unfold readValue
  split
  · have dropped := length_dropWhile_le (· != c) rest
    simp only [readQuoted, List.length_tail]
    omega
  · simpa [readBare, List.dropWhile_cons, h] using length_dropWhile_le (!isSeparator ·) rest

theorem readValue?_length_lt {s value rest : List Char} (h : readValue? s = some (value, rest)) :
    rest.length < s.length := by
  cases s with
  | nil => simp [readValue?] at h
  | cons c tail =>
    simp only [readValue?] at h
    split at h
    · simp at h
    · next plain =>
      have bound : (readValue c tail).2.length ≤ tail.length :=
        readValue_length_le (Bool.not_eq_true _ ▸ plain)
      rw [Option.some.inj h] at bound
      simp only [List.length_cons]
      exact Nat.lt_succ_of_le bound

theorem splitAtColon_length_lt {opened : Option Char} {s before after : List Char}
    (h : splitAtColon opened s = some (before, after)) : after.length < s.length := by
  induction s generalizing opened before with
  | nil => simp [splitAtColon] at h
  | cons c rest ih =>
    have further {opened : Option Char}
        (h : (splitAtColon opened rest).map (Prod.map (c :: ·) id) = some (before, after)) :
        after.length < (c :: rest).length := by
      obtain ⟨⟨b, a⟩, found, equal⟩ := Option.map_eq_some_iff.1 h
      cases equal
      exact Nat.lt_succ_of_lt (ih found)
    unfold splitAtColon at h
    split at h
    · exact further h
    · split at h
      · cases h
        simp
      · split at h
        · simp at h
        · exact further h

theorem readField?_length_lt {s rest : List Char} {term : Term}
    (h : readField? s = some (term, rest)) : rest.length < s.length := by
  simp only [readField?, Option.bind_eq_bind, Option.bind_eq_some_iff] at h
  obtain ⟨⟨name, after⟩, found, h⟩ := h
  split at h
  · obtain ⟨⟨value, tail⟩, taken, equal⟩ := Option.bind_eq_some_iff.1 h
    cases equal
    exact Nat.lt_trans (readValue?_length_lt taken) (splitAtColon_length_lt found)
  · simp at h

/-- What follows a term is shorter than the text that the term begins. -/
theorem read_length_le {c : Char} {rest : List Char} (h : isSeparator c = false) :
    (read c rest).2.length ≤ rest.length := by
  unfold read
  cases found : readField? (c :: rest) with
  | none => exact readValue_length_le h
  | some pair => exact Nat.le_of_lt_succ (readField?_length_lt found)

/-! ### All terms -/

/-- All terms of a text, however many. -/
def readAll : List Char → List Term
  | [] => []
  | c :: rest =>
    if h : isSeparator c then readAll rest
    else
      have : (read c rest).2.length ≤ rest.length := read_length_le (Bool.not_eq_true _ ▸ h)
      (read c rest).1 :: readAll (read c rest).2
termination_by s => s.length
decreasing_by all_goals simp only [List.length_cons]; omega

/--
The terms of a text, if there are at most `room` of them.  Reading stops at the first term that
finds no room, whatever follows it.
-/
def readAtMost? (room : Nat) : List Char → Option (List Term)
  | [] => some []
  | c :: rest =>
    if h : isSeparator c then readAtMost? room rest
    else
      have : (read c rest).2.length ≤ rest.length := read_length_le (Bool.not_eq_true _ ▸ h)
      match room with
      | 0 => none
      | room + 1 => (readAtMost? room (read c rest).2).map ((read c rest).1 :: ·)
termination_by s => s.length
decreasing_by all_goals simp only [List.length_cons]; omega

/-- A name that some query can ask for: not empty, without separators, quotes and colons. -/
def isQueryable (name : String) : Bool :=
  isFieldName name.toList && !name.toList.contains ':'

end Term

end LinkSearch.Query
