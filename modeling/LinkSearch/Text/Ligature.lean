import LinkSearch.Text.Columns
import LinkSearch.Text.Emoji

/-!
# Ligatures

Letters of some scripts merge with the letter before them: Lam with Alef, a tone letter of Lisu with
the one before, two consonants of Tifinagh with a joiner between them, and a few more.  Such a
letter is described by what it is and by whether a zero-width joiner stands before it.
-/

namespace LinkSearch.Text

/-! ### Classes of letters -/

/-- The Arabic letters of the joining group Lam. -/
def isLam (c : Char) : Bool :=
  inRanges [(0x644, 0x644), (0x6b5, 0x6b8), (0x76a, 0x76a), (0x8a6, 0x8a6), (0x8c7, 0x8c7)] c

/-- The Arabic letters of the joining group Alef. -/
def isAlef (c : Char) : Bool :=
  inRanges [(0x622, 0x623), (0x625, 0x625), (0x627, 0x627), (0x671, 0x673), (0x675, 0x675),
    (0x773, 0x774), (0x870, 0x882)] c

/-- The Khmer letters that have a form below the line. -/
def isSubscribable (c : Char) : Bool :=
  inRanges [(0x1780, 0x1782), (0x1784, 0x1787), (0x1789, 0x178c), (0x178e, 0x1793),
    (0x1795, 0x1798), (0x179b, 0x179d), (0x17a0, 0x17a0), (0x17a2, 0x17a2), (0x17a7, 0x17a7),
    (0x17ab, 0x17ac), (0x17af, 0x17af)] c

/-- The consonants of Tifinagh. -/
def isTifinagh (c : Char) : Bool :=
  inRanges [(0x2d31, 0x2d65), (0x2d6f, 0x2d6f)] c

/-- The tone letters of Lisu that come first in a pair. -/
def isFirstTone (c : Char) : Bool :=
  inRanges [(0xa4f8, 0xa4fb)] c

/-- The tone letters of Lisu that come second in a pair. -/
def isSecondTone (c : Char) : Bool :=
  inRanges [(0xa4fc, 0xa4fd)] c

/-- Characters without columns across which Lam and Alef do not merge. -/
def severingRanges : List (Nat × Nat) :=
  [(0x605, 0x605), (0x890, 0x891), (0x8e2, 0x8e2), (0x9be, 0x9be), (0x9d7, 0x9d7), (0xb3e, 0xb3e),
   (0xb57, 0xb57), (0xbbe, 0xbbe), (0xbd7, 0xbd7), (0xcc0, 0xcc0), (0xcc2, 0xcc2), (0xcc7, 0xcc8),
   (0xcca, 0xccb), (0xcd5, 0xcd6), (0xd3e, 0xd3e), (0xd4e, 0xd4e), (0xd57, 0xd57), (0xdcf, 0xdcf),
   (0xddf, 0xddf), (0x1160, 0x11ff), (0x1715, 0x1715), (0x1734, 0x1734), (0x180e, 0x180e),
   (0x1b35, 0x1b35), (0x1b3b, 0x1b3b), (0x1b3d, 0x1b3d), (0x1b43, 0x1b44), (0x1baa, 0x1baa),
   (0x1bf2, 0x1bf3), (0x200c, 0x200d), (0x2065, 0x2069), (0x302e, 0x302f), (0x3164, 0x3164),
   (0xa8fa, 0xa8fa), (0xa953, 0xa953), (0xa9c0, 0xa9c0), (0xd7b0, 0xd7c6), (0xd7cb, 0xd7fb),
   (0xffa0, 0xffa0), (0xfff0, 0xfff8), (0x111c0, 0x111c0), (0x111c2, 0x111c3), (0x11235, 0x11235),
   (0x1133e, 0x1133e), (0x1134d, 0x1134d), (0x11357, 0x11357), (0x113b8, 0x113b8),
   (0x113c2, 0x113c2), (0x113c5, 0x113c5), (0x113c7, 0x113c9), (0x113cf, 0x113cf),
   (0x113d1, 0x113d1), (0x114b0, 0x114b0), (0x114bd, 0x114bd), (0x115af, 0x115af),
   (0x116b6, 0x116b6), (0x11930, 0x11930), (0x1193d, 0x1193d), (0x1193f, 0x1193f),
   (0x11941, 0x11941), (0x11a84, 0x11a89), (0x11d46, 0x11d46), (0x11f02, 0x11f02),
   (0x11f41, 0x11f41), (0x16ff0, 0x16ff1), (0x1d165, 0x1d166), (0x1d16d, 0x1d172),
   (0xe0000, 0xe0000), (0xe0002, 0xe001f), (0xe0080, 0xe00ff), (0xe01f0, 0xe0fff)]

/-- A character across which Lam and Alef merge. -/
def isTransparent (c : Char) : Bool :=
  charWidth c == 0 && !inRanges severingRanges c

/-- Characters that may stand anywhere in a ligature of another script. -/
def isIgnoredInLigature (c : Char) : Bool :=
  inRanges [(0x34f, 0x34f), (0x17b4, 0x17b5), (0x180b, 0x180d), (0x180f, 0x180f), (0x200d, 0x200d),
    (0xfe00, 0xfe0f), (0xe0100, 0xe01ef)] c

/-! ### Letters that the letter before them may merge with -/

/-- The second part of a ligature; `joined` tells that a joiner stands before it. -/
inductive Letter where
  | alef
  | lamed (joined : Bool)
  /-- The letter Ya of Buginese. -/
  | ya (joined : Bool)
  /-- The letter Ya of Buginese after the vowel I. -/
  | yaAfterVowel
  | tifinagh (joined : Bool)
  /-- A consonant of Tifinagh after the sign that joins two of them. -/
  | tifinaghAfterSign
  | tone
  /-- The letter I of Old Turkic. -/
  | orkhonI (joined : Bool)
  /-- A Khmer letter with a form below the line. -/
  | subscribable
  deriving DecidableEq

namespace Letter

/-- The letter that a character is, if the one before it may merge with it. -/
def ofChar? (c : Char) : Option Letter :=
  if isAlef c then some .alef
  else if c = 'ל' then some (.lamed false)
  else if c = 'ᨐ' then some (.ya false)
  else if isTifinagh c then some (.tifinagh false)
  else if isSecondTone c then some .tone
  else if c = '𐰃' then some (.orkhonI false)
  else if isSubscribable c then some .subscribable
  else none

/-- The letter with a joiner before it. -/
def join : Letter → Letter
  | .lamed _ => .lamed true
  | .ya _ => .ya true
  | .tifinagh _ => .tifinagh true
  | .orkhonI _ => .orkhonI true
  | letter => letter

/-- The letter seen from a character further on, if the character before it may be passed over. -/
def passOver? (letter : Letter) (c : Char) : Option Letter :=
  match letter with
  | .alef => if isTransparent c then some letter else none
  | _ =>
    if c = zeroWidthJoiner then some letter.join
    else if isIgnoredInLigature c then some letter
    else none

/--
What a character adds to the columns of the letter after it if the two merge, and the letter that
the whole is then, if the character before may merge with it in turn.
-/
def merge? (letter : Letter) (c : Char) : Option (Int × Option Letter) :=
  match letter with
  | .alef => if isLam c then some (0, none) else none
  | .lamed true => if c = 'א' then some (0, none) else none
  | .ya true => if c = '\u1a17' then some (0, some .yaAfterVowel) else none
  | .yaAfterVowel => if c = 'ᨕ' then some (0, none) else none
  | .tifinagh joined =>
    if c = tifinaghJoiner then some (1, some .tifinaghAfterSign)
    else if joined && isTifinagh c then some (0, none)
    else none
  | .tifinaghAfterSign => if isTifinagh c then some (-1, none) else none
  | .tone => if isFirstTone c then some (0, none) else none
  | .orkhonI true => if c = '𐰲' then some (0, none) else none
  | .subscribable => if c = '\u17d2' then some (-1, none) else none
  | _ => none

end Letter

end LinkSearch.Text
