/-!
# Case of ASCII letters

Comparisons that disregard case do so for the letters of ASCII only; `É` and `é` stay different.
-/

namespace LinkSearch.Text

/-- The text with the capital letters of ASCII made small. -/
def lowerAscii (s : List Char) : List Char :=
  s.map Char.toLower

@[simp] theorem lowerAscii_nil : lowerAscii [] = [] := rfl

/-- Whether two texts differ in the case of ASCII letters at most. -/
def sameAscii (s t : String) : Bool :=
  lowerAscii s.toList == lowerAscii t.toList

end LinkSearch.Text
