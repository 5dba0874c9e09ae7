import LinkSearch.Sql.Fragment

/-!
# Tokens of a statement

A statement is read as words, quoted names, numbers, marks and places for values.  Each place gets
its value at once, the values being taken in order, so what is read further on has no places left.
-/

namespace LinkSearch.Sql

/-- A name as a statement writes it. -/
structure Mention where
  /-- The parts between the dots. -/
  segments : List String
  /-- How many bytes of the statement stand before it. -/
  offset : Nat
  deriving DecidableEq

/-- The smallest meaningful piece of a statement. -/
inductive Token where
  /-- Letters, digits and underscores, beginning with no digit. -/
  | word (text : String)
  /-- A name whose parts stand between double quotes. -/
  | name (mention : Mention)
  /-- Decimal digits. -/
  | number (digits : String)
  /-- The value bound to a place. -/
  | value (bound : Bound)
  /-- One or two characters of punctuation. -/
  | mark (text : String)
  deriving DecidableEq

namespace Token

/-- A token as a statement writes it. -/
def written : Token → String
  | .word text => text
  | .name mention => ".".intercalate (mention.segments.map ColumnName.quoteSegment)
  | .number digits => digits
  | .value _ => "?"
  | .mark text => text

/--
A part of a quoted name, read after its first quote: the characters up to the quote that ends it,
and what follows that quote.  A quote written twice stands for one in the name.
-/
def readSegment? : List Char → Option (List Char × List Char)
  | [] => none
  | '\x22' :: '\x22' :: rest => (readSegment? rest).map (Prod.map ('\x22' :: ·) id)
  | c :: rest =>
    if c = '\x22' then some ([], rest) else (readSegment? rest).map (Prod.map (c :: ·) id)

theorem readSegment?_length_lt {s segment rest : List Char}
    (h : readSegment? s = some (segment, rest)) : rest.length < s.length := by
  fun_induction readSegment? s generalizing segment with
  | case1 => simp at h
  | case2 tail ih =>
    obtain ⟨⟨_, _⟩, found, equal⟩ := Option.map_eq_some_iff.1 h
    cases equal
    have := ih found
    simp only [List.length_cons]
    omega
  | case3 =>
    cases h
    simp
  | case4 _ tail _ _ ih =>
    obtain ⟨⟨_, _⟩, found, equal⟩ := Option.map_eq_some_iff.1 h
    cases equal
    have := ih found
    simp only [List.length_cons]
    omega

/--
A quoted name, read after its first quote; a dot and a quote after a part begin the next part.
-/
def readName? (s : List Char) : Option (List String × List Char) :=
  match h : readSegment? s with
  | none => none
  | some (segment, '.' :: '\x22' :: more) =>
    have := readSegment?_length_lt h
    (readName? more).map (Prod.map (String.ofList segment :: ·) id)
  | some (segment, rest) => some ([String.ofList segment], rest)
termination_by s.length
decreasing_by simp_all only [List.length_cons]; omega

theorem readName?_length_lt {s rest : List Char} {segments : List String}
    (h : readName? s = some (segments, rest)) : rest.length < s.length := by
  fun_induction readName? s generalizing segments with
  | case1 => simp at h
  | case2 _ segment more found _ ih =>
    obtain ⟨⟨_, _⟩, read, equal⟩ := Option.map_eq_some_iff.1 h
    cases equal
    have := ih read
    have := readSegment?_length_lt found
    simp only [List.length_cons] at this
    omega
  | case3 _ segment rest _ found =>
    cases h
    exact readSegment?_length_lt found

def isWordChar (c : Char) : Bool :=
  c.isAlphanum || c = '_'

/-- The mark that begins with a character, and what follows it. -/
def readMark? (c : Char) (rest : List Char) : Option (Token × List Char) :=
  match c, rest with
  | '=', '=' :: rest => some (.mark "==", rest)
  | '!', '=' :: rest => some (.mark "!=", rest)
  | '<', '>' :: rest => some (.mark "<>", rest)
  | '<', '=' :: rest => some (.mark "<=", rest)
  | '>', '=' :: rest => some (.mark ">=", rest)
  | c, rest =>
    if c ∈ ['(', ')', ',', '.', '=', '<', '>'] then some (.mark c.toString, rest) else none

/--
The token that begins with the character `c` at the given offset, and what follows it.  Places for
values are not among them.
-/
def read? (offset : Nat) (c : Char) (rest : List Char) : Option (Token × List Char) :=
  if c = '\x22' then
    (readName? rest).map (Prod.map (fun segments => .name ⟨segments, offset⟩) id)
  else if c.isDigit then
    some (.number (String.ofList (c :: rest.takeWhile Char.isDigit)), rest.dropWhile Char.isDigit)
  else if isWordChar c then
    some (.word (String.ofList (c :: rest.takeWhile isWordChar)), rest.dropWhile isWordChar)
  else readMark? c rest

theorem readMark?_length_le {c : Char} {rest after : List Char} {token : Token}
    (h : readMark? c rest = some (token, after)) : after.length ≤ rest.length := by
  unfold readMark? at h
  split at h
  all_goals first
    | (cases h; simp only [List.length_cons]; omega)
    | (split at h <;> simp_all)

theorem read?_length_le {offset : Nat} {c : Char} {rest after : List Char} {token : Token}
    (h : read? offset c rest = some (token, after)) : after.length ≤ rest.length := by
  unfold read? at h
  split at h
  · obtain ⟨⟨_, _⟩, found, equal⟩ := Option.map_eq_some_iff.1 h
    cases equal
    exact Nat.le_of_lt (readName?_length_lt found)
  · split at h
    · cases h
      exact (List.dropWhile_sublist _).length_le
    · split at h
      · cases h
        exact (List.dropWhile_sublist _).length_le
      · exact readMark?_length_le h

/--
The tokens of a statement of which `offset` bytes have been read, with the values for its places.
There are none if the values do not match the places in number, or if something is no token.
-/
def readAll? (offset : Nat) (values : List Bound) : List Char → Option (List Token)
  | [] => if values.isEmpty then some [] else none
  | c :: rest =>
    if c = ' ' then readAll? (offset + 1) values rest
    else if c = '?' then
      match values with
      | [] => none
      | bound :: values => (readAll? (offset + 1) values rest).map (.value bound :: ·)
    else
      match h : read? offset c rest with
      | none => none
      | some (token, after) =>
        have := read?_length_le h
        (readAll? (offset + token.written.utf8ByteSize) values after).map (token :: ·)
termination_by s => s.length
decreasing_by all_goals simp only [List.length_cons]; omega

end Token

/-- The tokens of a statement with its values. -/
def Fragment.tokens? (statement : Fragment) : Option (List Token) :=
  Token.readAll? 0 statement.params statement.sql.toList

end LinkSearch.Sql
