import LinkSearch.Text.Printable

/-!
# Quoted text

How a text is shown between double quotes in messages: the quote, the backslash, and the usual
controls have short escapes, and every other character that cannot be shown on its own is written
as its code point.
-/

namespace LinkSearch.Text

/-- Lower-case hexadecimal digits of a number, without leading zeros. -/
def lowerHex (n : Nat) : List Char :=
  Nat.toDigits 16 n

/-- The characters that stand for `c` inside a quoted text. -/
def escapeChar (c : Char) : List Char :=
  if c = '\x00' then ['\\', '0']
  else if c = '\t' then ['\\', 't']
  else if c = '\r' then ['\\', 'r']
  else if c = '\n' then ['\\', 'n']
  else if c = '\x22' || c = '\\' then ['\\', c]
  else if isPrintable c then [c]
  else ['\\', 'u', '\x7b'] ++ lowerHex c.toNat ++ ['\x7d']

/-- The text between double quotes, with escapes. -/
def quote (s : String) : String :=
  String.ofList ('\x22' :: s.toList.flatMap escapeChar ++ ['\x22'])

end LinkSearch.Text
