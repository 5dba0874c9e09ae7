import LinkSearch.Text.Numeral

/-!
# Strings of a TOML document

A string stands in one of four forms: between double or single quotes, on one line or, with three
quotes on either side, on several.  Double quotes take escapes, single quotes do not.  The writer
picks the first form that needs no escape, and escapes only where none does.
-/

namespace LinkSearch.Toml

/-- The form in which a string is written. -/
inductive Form where
  | basic
  | literal
  | multilineBasic
  | multilineLiteral
  deriving DecidableEq

/-! ### Reading -/

/-- A control character, which no string holds unescaped; tab and line ends are judged apart. -/
def isControl (c : Char) : Bool :=
  c.toNat < 0x20 || c == '\x7f'

/-- A character that may stand unescaped inside a string of one line. -/
def isPlain (c : Char) : Bool :=
  c == '\t' || !isControl c

/-- The character whose code point some hexadecimal digits write; surrogates are no characters. -/
def charOfHex? (digits : List Char) : Option Char := do
  let code ← Text.numeral? 16 digits
  if code.isValidChar then some (Char.ofNat code) else none

/-- The character that an escape of two characters stands for, given the second. -/
def simpleEscape? (c : Char) : Option Char :=
  if c = 'b' then some '\x08'
  else if c = 't' then some '\t'
  else if c = 'n' then some '\n'
  else if c = 'f' then some '\x0c'
  else if c = 'r' then some '\r'
  else if c = 'e' then some '\x1b'
  else if c = '\x22' then some '\x22'
  else if c = '\\' then some '\\'
  else none

/-- The character of the escape whose backslash has been read, and what follows the escape. -/
def readEscape? : List Char → Option (Char × List Char)
  | 'x' :: a :: b :: rest => (charOfHex? [a, b]).map (·, rest)
  | 'u' :: a :: b :: c :: d :: rest => (charOfHex? [a, b, c, d]).map (·, rest)
  | 'U' :: a :: b :: c :: d :: e :: f :: g :: h :: rest =>
    (charOfHex? [a, b, c, d, e, f, g, h]).map (·, rest)
  | c :: rest => (simpleEscape? c).map (·, rest)
  | [] => none

theorem readEscape?_length_lt {s rest : List Char} {c : Char}
    (h : readEscape? s = some (c, rest)) : rest.length < s.length := by
  unfold readEscape? at h
  split at h
  case h_5 => simp at h
  all_goals
    obtain ⟨_, _, equal⟩ := Option.map_eq_some_iff.1 h
    cases equal
    simp only [List.length_cons]
    omega

/-- The rest of a string between double quotes on one line, and what follows it. -/
def readBasic? : List Char → Option (List Char × List Char)
  | [] => none
  | c :: rest =>
    if c = '\x22' then some ([], rest)
    else if c = '\\' then
      match h : readEscape? rest with
      | none => none
      | some (escaped, after) =>
        have := readEscape?_length_lt h
        (readBasic? after).map (Prod.map (escaped :: ·) id)
    else if isPlain c then (readBasic? rest).map (Prod.map (c :: ·) id)
    else none
termination_by s => s.length
decreasing_by all_goals simp only [List.length_cons]; omega

/-- The rest of a string between single quotes on one line, and what follows it. -/
def readLiteral? : List Char → Option (List Char × List Char)
  | [] => none
  | c :: rest =>
    if c = '\x27' then some ([], rest)
    else if isPlain c then (readLiteral? rest).map (Prod.map (c :: ·) id)
    else none

/-- The line end at the start of a text: a line feed, or a carriage return and a line feed. -/
def readLineEnd? : List Char → Option (List Char × List Char)
  | '\n' :: rest => some (['\n'], rest)
  | '\r' :: '\n' :: rest => some (['\r', '\n'], rest)
  | _ => none

/-- Whether only blanks stand before the next line end. -/
def blankLine (s : List Char) : Bool :=
  (readLineEnd? (s.dropWhile (fun c => c == ' ' || c == '\t'))).isSome

def dropBlankLines : List Char → List Char
  | [] => []
  | c :: rest =>
    if c = ' ' ∨ c = '\t' ∨ c = '\n' then dropBlankLines rest
    else if c = '\r' then
      match rest with
      | '\n' :: more => dropBlankLines more
      | _ => c :: rest
    else c :: rest

theorem dropBlankLines_length_le (s : List Char) : (dropBlankLines s).length ≤ s.length := by
  fun_induction dropBlankLines s <;> simp_all <;> omega

/--
What three closing quotes leave of a text that begins after them: up to two further quotes belong to
the string.
-/
def closeMultiline (quote : Char) : List Char → List Char × List Char
  | c :: rest =>
    if c = quote then
      match rest with
      | d :: more => if d = quote then ([c, d], more) else ([c], rest)
      | [] => ([c], [])
    else ([], c :: rest)
  | [] => ([], [])

/-- Whether a text begins with three quotes. -/
def startsClosing (quote : Char) : List Char → Bool
  | a :: b :: c :: _ => a == quote && b == quote && c == quote
  | _ => false

/--
The rest of a string between triple double quotes, and what follows it.  A backslash at the end of a
line takes the blanks and line ends after it along.
-/
def readMultilineBasic? (s : List Char) : Option (List Char × List Char) :=
  if startsClosing '\x22' s then some (closeMultiline '\x22' (s.drop 3))
  else
    match s with
    | [] => none
    | c :: rest =>
      if c = '\\' then
        if blankLine rest then
          have := dropBlankLines_length_le rest
          readMultilineBasic? (dropBlankLines rest)
        else
          match h : readEscape? rest with
          | none => none
          | some (escaped, after) =>
            have := readEscape?_length_lt h
            (readMultilineBasic? after).map (Prod.map (escaped :: ·) id)
      else if c = '\r' then
        match rest with
        | '\n' :: more => (readMultilineBasic? more).map (Prod.map (['\r', '\n'] ++ ·) id)
        | _ => none
      else if isPlain c || c = '\n' then
        (readMultilineBasic? rest).map (Prod.map (c :: ·) id)
      else none
termination_by s.length
decreasing_by all_goals simp_all only [List.length_cons]; omega

/-- The rest of a string between triple single quotes, and what follows it. -/
def readMultilineLiteral? (s : List Char) : Option (List Char × List Char) :=
  if startsClosing '\x27' s then some (closeMultiline '\x27' (s.drop 3))
  else
    match s with
    | [] => none
    | c :: rest =>
      if c = '\r' then
        match rest with
        | '\n' :: more => (readMultilineLiteral? more).map (Prod.map (['\r', '\n'] ++ ·) id)
        | _ => none
      else if isPlain c || c = '\n' then
        (readMultilineLiteral? rest).map (Prod.map (c :: ·) id)
      else none

/-- Drops the line end that may follow three opening quotes. -/
def dropFirstLineEnd (s : List Char) : List Char :=
  match readLineEnd? s with
  | some (_, rest) => rest
  | none => s

/-- The string at the start of a text, in any form, and what follows it. -/
def readString? : List Char → Option (List Char × List Char)
  | '\x22' :: '\x22' :: '\x22' :: rest => readMultilineBasic? (dropFirstLineEnd rest)
  | '\x27' :: '\x27' :: '\x27' :: rest => readMultilineLiteral? (dropFirstLineEnd rest)
  | '\x22' :: rest => readBasic? rest
  | '\x27' :: rest => readLiteral? rest
  | _ => none

/-- The string of one line at the start of a text, and what follows it; a key is written so. -/
def readSingleLine? : List Char → Option (List Char × List Char)
  | '\x22' :: rest => readBasic? rest
  | '\x27' :: rest => readLiteral? rest
  | _ => none

/-! ### Writing -/

/-- Whether a text holds three of the quotes in a row. -/
def hasTriple (quote : Char) : List Char → Bool
  | [] => false
  | c :: rest => startsClosing quote (c :: rest) || hasTriple quote rest

/-- The first form that holds the text without escapes other than that of the tab. -/
def plainForm? (s : List Char) : Option Form :=
  let oneLine := s.all isPlain
  let lines := s.all fun c => isPlain c || c == '\n'
  if oneLine && !s.contains '\\' && !s.contains '\x22' then some .basic
  else if oneLine && !s.contains '\x27' then some .literal
  else if lines && !s.contains '\\' && !hasTriple '\x22' s then some .multilineBasic
  else if lines && !hasTriple '\x27' s then some .multilineLiteral
  else none

/-- The form in which a text is written. -/
def formOf (s : List Char) : Form :=
  (plainForm? s).getD (if s.contains '\n' then .multilineBasic else .basic)

/-- Four upper-case hexadecimal digits of a code point below 2 ^ 16. -/
def upperHex (n : Nat) : List Char :=
  let digits := (Nat.toDigits 16 n).map Char.toUpper
  List.replicate (4 - digits.length) '0' ++ digits

/-- A character between double quotes on one line. -/
def escapeBasic (c : Char) : List Char :=
  if c = '\x08' then ['\\', 'b']
  else if c = '\t' then ['\\', 't']
  else if c = '\n' then ['\\', 'n']
  else if c = '\x0c' then ['\\', 'f']
  else if c = '\r' then ['\\', 'r']
  else if c = '\x22' ∨ c = '\\' then ['\\', c]
  else if isControl c then ['\\', 'u'] ++ upperHex c.toNat
  else [c]

/--
A text between triple double quotes, where `quotes` of them stand right before it: line ends stay,
and a quote is escaped only if it would be the third in a row.
-/
def escapeMultiline (quotes : Nat) : List Char → List Char
  | [] => []
  | c :: rest =>
    if c = '\x22' then
      if quotes = 2 then ['\\', c] ++ escapeMultiline 0 rest
      else c :: escapeMultiline (quotes + 1) rest
    else if c = '\n' then c :: escapeMultiline 0 rest
    else escapeBasic c ++ escapeMultiline 0 rest

/-- The line end that follows three opening quotes if the text has several lines. -/
def openingLineEnd (s : List Char) : List Char :=
  if s.contains '\n' then ['\n'] else []

/-- A text in one of the forms. -/
def writeIn (form : Form) (s : List Char) : List Char :=
  match form with
  | .basic => '\x22' :: s.flatMap escapeBasic ++ ['\x22']
  | .literal => '\x27' :: s ++ ['\x27']
  | .multilineBasic =>
    List.replicate 3 '\x22' ++ openingLineEnd s ++ escapeMultiline 0 s ++ List.replicate 3 '\x22'
  | .multilineLiteral =>
    List.replicate 3 '\x27' ++ openingLineEnd s ++ s ++ List.replicate 3 '\x27'

/-- A text as a string of a document. -/
def writeString (s : String) : String :=
  String.ofList (writeIn (formOf s.toList) s.toList)

end LinkSearch.Toml
