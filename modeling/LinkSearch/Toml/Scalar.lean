import LinkSearch.Text.Numeral
import LinkSearch.Toml.Value

/-!
# Values written in one word

Numbers, truth values, dates and times stand without quotes.  The reader takes everything up to a
blank or a delimiter and then decides what this word is.
-/

namespace LinkSearch.Toml

open LinkSearch.Decimal

/-- A character that does not end a word. -/
def isWordChar (c : Char) : Bool :=
  c ∉ [' ', '\t', '\r', '\n', ',', '=', '#', '[', ']', '\x7b', '\x7d']

/-- Drops the underscores of a numeral; each must stand between two characters other than it. -/
def dropUnderscores? : List Char → Option (List Char)
  | [] => some []
  | ['_'] => none
  | [c] => some [c]
  | '_' :: _ => none
  | c :: '_' :: rest =>
    match rest with
    | [] | '_' :: _ => none
    | _ => (dropUnderscores? rest).map (c :: ·)
  | c :: rest => (dropUnderscores? rest).map (c :: ·)

/-- Digits in a base, with underscores between them; there must be one. -/
def digits? (base : Nat) (s : List Char) : Option (List Char) := do
  let plain ← dropUnderscores? s
  if plain.isEmpty || !plain.all (fun c => (Text.digit? base c).isSome) then none else some plain

/-- Decimal digits without a zero in front, except for zero itself. -/
def wholeDigits? (s : List Char) : Option (List Char) := do
  let plain ← digits? 10 s
  match plain with
  | '0' :: _ :: _ => none
  | _ => some plain

/-- Splits off a sign; there is none before most numbers. -/
def splitSign : List Char → Option Bool × List Char
  | '+' :: rest => (some false, rest)
  | '-' :: rest => (some true, rest)
  | s => (none, s)

/-- An integer in decimal, hexadecimal, octal or binary digits; only decimal takes a sign. -/
def integer? (word : List Char) : Option Int :=
  let inBase (base : Nat) (s : List Char) : Option Int :=
    (digits? base s).bind fun plain => (Text.numeral? base plain).map Int.ofNat
  match word with
  | '0' :: 'x' :: rest => inBase 16 rest
  | '0' :: 'o' :: rest => inBase 8 rest
  | '0' :: 'b' :: rest => inBase 2 rest
  | _ => do
    let (sign, rest) := splitSign word
    let plain ← wholeDigits? rest
    let n ← Text.numeral? 10 plain
    return if sign = some true then -(n : Int) else n

/-- Splits a text before its first character that satisfies `p`. -/
def splitBefore (p : Char → Bool) (s : List Char) : List Char × List Char :=
  (s.takeWhile (!p ·), s.dropWhile (!p ·))

/-- The exponent of a float, after its `e`: digits with an optional sign, where zeros may lead. -/
def exponent? (s : List Char) : Option Int := do
  let (sign, rest) := splitSign s
  let plain ← digits? 10 rest
  let n ← Text.numeral? 10 plain
  return if sign = some true then -(n : Int) else n

/-- The part of a float after its point, if it has one: some digits. -/
def fraction? : List Char → Option (List Char)
  | [] => some []
  | '.' :: rest => digits? 10 rest
  | _ => none

/-- The value of whole digits with a fraction, an exponent or both. -/
def decimal? (negative : Bool) (word : List Char) : Option Value := do
  let (mantissa, power) := splitBefore (fun c => c == 'e' || c == 'E') word
  let (whole, fraction) := splitBefore (· == '.') mantissa
  let wholePlain ← wholeDigits? whole
  let fractionPlain ← fraction? fraction
  let exponent ← match power with
    | [] => if fraction.isEmpty then none else some 0
    | _ :: rest => exponent? rest
  let digits ← Text.numeral? 10 (wholePlain ++ fractionPlain)
  match ofDecimal digits (exponent - fractionPlain.length) with
  | .infinite => return .outOfRange
  | magnitude => return .float (.signed negative magnitude)

/-- A float with an optional sign: one of the special words, or a decimal numeral. -/
def float? (word : List Char) : Option Value :=
  let (sign, rest) := splitSign word
  let negative := sign = some true
  if rest = ['i', 'n', 'f'] then some (.float (.signed negative .infinite))
  else if rest = ['n', 'a', 'n'] then some (.float .notANumber)
  else decimal? negative rest

/-- Exactly `count` decimal digits at the start of a text, as a number, and what follows. -/
def fixedDigits? (count : Nat) (s : List Char) : Option (Nat × List Char) :=
  if s.length < count then none
  else (Text.numeral? 10 (s.take count)).map (·, s.drop count)

def daysIn (year month : Nat) : Nat :=
  if month = 2 then
    if year % 4 = 0 && (year % 100 ≠ 0 || year % 400 = 0) then 29 else 28
  else if month = 4 || month = 6 || month = 9 || month = 11 then 30
  else 31

/-- A date `YYYY-MM-DD` at the start of a text: what follows it. -/
def afterDate? (s : List Char) : Option (List Char) := do
  let (year, s) ← fixedDigits? 4 s
  let '-' :: s := s | none
  let (month, s) ← fixedDigits? 2 s
  let '-' :: s := s | none
  let (day, s) ← fixedDigits? 2 s
  if 1 ≤ month && month ≤ 12 && 1 ≤ day && day ≤ daysIn year month then some s else none

/-- A time `HH:MM`, with optional seconds and their fraction: what follows it. -/
def afterTime? (s : List Char) : Option (List Char) := do
  let (hour, s) ← fixedDigits? 2 s
  let ':' :: s := s | none
  let (minute, s) ← fixedDigits? 2 s
  if 23 < hour || 59 < minute then none
  else
    match s with
    | ':' :: s =>
      let (second, s) ← fixedDigits? 2 s
      if 60 < second then none
      else
        match s with
        | '.' :: s =>
          let fraction := s.takeWhile Char.isDigit
          if fraction.isEmpty then none else some (s.dropWhile Char.isDigit)
        | _ => some s
    | _ => some s

/-- Whether a text is an offset from universal time, or nothing. -/
def isOffset : List Char → Bool
  | [] | ['Z'] | ['z'] => true
  | sign :: s =>
    (sign == '+' || sign == '-') &&
      match fixedDigits? 2 s with
      | some (hour, ':' :: s) =>
        match fixedDigits? 2 s with
        | some (minute, []) => hour ≤ 23 && minute ≤ 59
        | _ => false
      | _ => false

/-- Whether a word is a date, a time, or a date and a time with an optional offset. -/
def isMoment (word : List Char) : Bool :=
  match afterDate? word with
  | some [] => true
  | some (delimiter :: rest) =>
    (delimiter == 'T' || delimiter == 't' || delimiter == ' ') &&
      match afterTime? rest with
      | some offset => isOffset offset
      | none => false
  | none => afterTime? word == some []

/-- Whether underscores stand between hexadecimal digits only. -/
def underscoresFit (s : List Char) : Bool :=
  let isDigit (c : Char) : Bool := (Text.digit? 16 c).isSome
  let parts := s.splitOn '_'
  parts.tail.all (fun part => part.head?.any isDigit) &&
    parts.dropLast.all (fun part => part.getLast?.any isDigit)

/--
Whether a word counts as an integer although it writes none: a base without digits, or decimal
digits and an underscore before something that cannot belong to a float.
-/
def isVainInteger (word : List Char) : Bool :=
  let (_, body) := splitSign word
  let (_, tail) := splitBefore (!·.isDigit) body
  [['0', 'x'], ['0', 'o'], ['0', 'b']].contains word ||
    (body.head? != some '0' && body.head?.any Char.isDigit && tail.head? == some '_' &&
      tail.all (· ∉ ['.', 'e', 'E']) && underscoresFit body)

/-- The value that a word writes. -/
def wordValue? (word : List Char) : Option Value :=
  if word = ['t', 'r', 'u', 'e'] then some (.boolean true)
  else if word = ['f', 'a', 'l', 's', 'e'] then some (.boolean false)
  else if isMoment word then some (.moment (String.ofList word))
  else
    (((integer? word).map Value.ofInteger).or (float? word)).or
      (if isVainInteger word then some .outOfRange else none)

/-- The longest word at the start of a text, and what follows it. -/
def splitWord (s : List Char) : List Char × List Char :=
  (s.takeWhile isWordChar, s.dropWhile isWordChar)

/--
The value of the word at the start of a text, and what follows it.  A date may be followed by one
space and a time.
-/
def readWord? (s : List Char) : Option (Value × List Char) :=
  let (word, rest) := splitWord s
  match afterDate? word, rest with
  | some [], ' ' :: more =>
    let (time, after) := splitWord more
    match time with
    | c :: _ =>
      if c.isDigit then (wordValue? (word ++ ' ' :: time)).map (·, after)
      else (wordValue? word).map (·, rest)
    | [] => (wordValue? word).map (·, rest)
  | _, _ => (wordValue? word).map (·, rest)

end LinkSearch.Toml
