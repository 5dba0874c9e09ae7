/-!
# Separators and quotes

The characters that end a bare piece of a query, and the characters that open and close a quoted
piece.  Separators are the characters with the Unicode property `White_Space` and the byte order
mark U+FEFF, which pasted text often begins with.
-/

namespace LinkSearch.Text

/-- The 25 characters with the Unicode property `White_Space`. -/
def isWhiteSpace (c : Char) : Bool :=
  let n := c.toNat
  (9 ≤ n && n ≤ 13) || n == 0x20 || n == 0x85 || n == 0xA0 || n == 0x1680 ||
    (0x2000 ≤ n && n ≤ 0x200A) || n == 0x2028 || n == 0x2029 || n == 0x202F ||
    n == 0x205F || n == 0x3000

/-- White space or the byte order mark. -/
def isSeparator (c : Char) : Bool :=
  isWhiteSpace c || c == '\ufeff'

/-- The double quote, the single quote and the backquote. -/
def isQuote (c : Char) : Bool :=
  c == '\x22' || c == '\x27' || c == '\x60'

/-- A character that may stand in the unquoted name of a field. -/
def isNameChar (c : Char) : Bool :=
  !isSeparator c && !isQuote c

theorem not_isSeparator_of_isQuote {c : Char} (h : isQuote c = true) :
    isSeparator c = false := by
  simp only [isQuote, Bool.or_eq_true, beq_iff_eq] at h
  rcases h with (rfl | rfl) | rfl <;> rfl

end LinkSearch.Text
