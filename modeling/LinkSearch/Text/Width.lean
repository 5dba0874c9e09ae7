import LinkSearch.Text.Ligature

/-!
# Width on a terminal

How many columns a line of text takes.  A line is measured from its end, because what a character
adds hangs on what follows it: an emoji written as several characters (a selector, a skin tone, or
several emoji tied by zero-width joiners) takes two columns in all, and the letters of a ligature
take those of one letter.
-/

namespace LinkSearch.Text

/-- What a selector asks of the character before it. -/
inductive Selector where
  /-- The coloured form, two columns wide. -/
  | coloured
  /-- The plain form, one column wide. -/
  | plain
  /-- The form of a quotation mark that is two columns wide. -/
  | fullWidth
  deriving DecidableEq

/-- What follows a character, as far as the character may join it. -/
inductive Follower where
  /-- Nothing that a character joins. -/
  | other
  | letter (letter : Letter)
  /-- The first vowel sign of Kirat Rai, of which others are composed. -/
  | kiratE
  /-- A vowel sign of Kirat Rai composed of two. -/
  | kiratAi
  | skinTone
  | emoji
  /-- A joiner and an emoji. -/
  | joinedEmoji
  /-- The mark of a key, a joiner, and an emoji. -/
  | joinedKeycap
  /-- A letter of a flag. -/
  | flagLetter
  /-- Several letters of flags. -/
  | flagLetters
  /-- One letter of a flag before a joiner and an emoji. -/
  | joinedFlagLetter
  /-- Letters of whole flags before a joiner and an emoji. -/
  | joinedFlags
  /-- Letters of whole flags and one more before a joiner and an emoji. -/
  | joinedFlagsAndLetter
  /-- So many tags, letters before digits, then the last tag, a joiner, and an emoji. -/
  | joinedTags (letters digits : Nat)
  deriving DecidableEq

/-- What follows a character, and the selector between the two if there is one. -/
structure Context where
  follower : Follower
  selector : Option Selector
  deriving DecidableEq

namespace Context

/-- The context in which a character joins nothing, as at the end of a line. -/
def free : Context := ⟨.other, none⟩

/-- The context of what follows when no selector stands between. -/
def before (follower : Follower) : Context := ⟨follower, none⟩

/-- The context before a character that joins nothing after it. -/
def starting (c : Char) : Context :=
  match Letter.ofChar? c with
  | some letter => before (.letter letter)
  | none =>
    before <|
      if c = '𖵧' then .kiratE
      else if c = '𖵨' then .kiratAi
      else if isFlagLetter c then .flagLetter
      else if isSkinTone c then .skinTone
      else if isColoured c then .emoji
      else .other

/-- The context without its selector; only a letter is still joined across one. -/
def dropSelector (context : Context) : Context :=
  match context with
  | ⟨.letter letter, _⟩ => before (.letter letter)
  | ⟨_, some _⟩ => free
  | ⟨_, none⟩ => context

/-- The context before a selector. -/
def select (context : Context) (selector : Selector) : Context :=
  match context.follower, selector with
  | .letter _, _ | .joinedEmoji, .coloured | .joinedKeycap, .coloured =>
    ⟨context.follower, some selector⟩
  | _, _ => ⟨.other, some selector⟩

end Context

/-- The selector that a character is. -/
def Selector.ofChar? (c : Char) : Option Selector :=
  if c = emojiSelector then some .coloured
  else if c = textSelector then some .plain
  else if c = '\ufe01' then some .fullWidth
  else none

/-- The quotation marks that have a form of two columns. -/
def isQuotationMark (c : Char) : Bool :=
  c = '‘' || c = '’' || c = '“' || c = '”'

namespace Follower

/-- Tags before the ones that follow, if they can still be those of a flag. -/
def addTag? (letters digits : Nat) (c : Char) : Option Follower :=
  if isTagLetter c ∧ digits = 0 ∧ letters < 6 then some (.joinedTags (letters + 1) 0)
  else if isTagDigit c ∧ digits < 3 ∧ letters ≤ 4 then some (.joinedTags 0 (digits + 1))
  else none

/-- What a character adds to the columns of a composed vowel sign after it. -/
def composeVowel? (follower : Follower) (c : Char) : Option (Int × Follower) :=
  match follower with
  | .kiratE =>
    if c = '𖵣' ∨ c = '𖵩' then some (0, .other)
    else if c = '𖵧' then some (0, .kiratAi)
    else if c = '𖵨' then some (1, .kiratE)
    else none
  | .kiratAi => if c = '𖵣' then some (0, .other) else none
  | _ => none

/-- What a character adds to the columns of what follows a joiner after it. -/
def tie? (c : Char) : Option (Int × Follower) :=
  if c = keycap then some (0, .joinedKeycap)
  else if isFlagLetter c then some (1, .joinedFlagLetter)
  else if isSkinTone c then some (0, .skinTone)
  else if c = lastTag then some (0, .joinedTags 0 0)
  else if isColoured c then some (0, .emoji)
  else none

/-- What a character adds to the columns of an emoji, or of a part of one, that follows it. -/
def extend? (follower : Follower) (c : Char) : Option (Int × Follower) :=
  match follower with
  | .skinTone =>
    if isToneable c then some (0, .emoji)
    else if c = zeroWidthJoiner then some (0, .joinedEmoji)
    else none
  | .emoji => if c = zeroWidthJoiner then some (0, .joinedEmoji) else none
  | .joinedEmoji => tie? c
  | .flagLetter => if isFlagLetter c then some (1, .flagLetters) else none
  | .flagLetters =>
    if isFlagLetter c then some (1, .flagLetters)
    else if c = zeroWidthJoiner then some (0, .joinedEmoji)
    else none
  | .joinedFlagLetter => if isFlagLetter c then some (-1, .joinedFlags) else none
  | .joinedFlags =>
    if isFlagLetter c then some (3, .joinedFlagsAndLetter)
    else if c = zeroWidthJoiner then some (0, .joinedEmoji)
    else none
  | .joinedFlagsAndLetter =>
    if isFlagLetter c then some (-1, .joinedFlags)
    else if c = zeroWidthJoiner then some (0, .joinedEmoji)
    else none
  | .joinedTags letters digits =>
    if c = blackFlag ∧ (3 ≤ letters ∨ digits = 3) then some (0, .emoji)
    else (addTag? letters digits c).map (0, ·)
  | _ => none

end Follower

namespace Context

/-- What a character adds to the columns of what follows it, where no selector asks for a form. -/
def join? (context : Context) (c : Char) : Option (Int × Context) :=
  match context.follower with
  | .letter letter =>
    match letter.passOver? c with
    | some letter => some (0, before (.letter letter))
    | none => (letter.merge? c).map fun (columns, merged) =>
      (columns, (merged.map fun letter => before (.letter letter)).getD free)
  | follower =>
    ((follower.composeVowel? c).or (follower.extend? c)).map fun (columns, follower) =>
      (columns, before follower)

/-- What a character adds to the columns of what follows it if a selector asks for its form. -/
def choose? (context : Context) (c : Char) : Option (Int × Context) :=
  match context.selector with
  | some .coloured =>
    if isSelectable c then
      let tied := context.follower = .joinedEmoji ∨ context.follower = .joinedKeycap
      some (if tied then 0 else 2, before .emoji)
    else none
  | some .plain => if isNarrowable c then some (1, free) else none
  | some .fullWidth => if isQuotationMark c then some (2, free) else none
  | none => none

/-- What a character adds to the columns of what follows it, and the context before it. -/
def add (c : Char) (context : Context) : Int × Context :=
  match context.choose? c with
  | some found => found
  | none =>
    if c.toNat ≤ 0xa0 then (1, free)
    else
      match Selector.ofChar? c with
      | some selector => (0, context.dropSelector.select selector)
      | none => (context.dropSelector.join? c).getD (charWidth c, starting c)

end Context

/-- Columns that a line takes on a terminal. -/
def width (line : String) : Nat :=
  let measured := line.toList.foldr (fun c (columns, context) =>
    let (more, before) := context.add c
    (columns + more, before)) ((0 : Int), Context.free)
  measured.1.toNat

end LinkSearch.Text
