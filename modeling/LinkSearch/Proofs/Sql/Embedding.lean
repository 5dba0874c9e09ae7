import LinkSearch.Proofs.Sql.Conjunctions
import Mathlib.Data.String.Basic

/-!
# A condition in its place

A text that is read as a condition by itself is read so too as a piece of a statement, if what
stands behind it is a blank, a closing bracket or the end.  Only the places of its names are other
ones.  Tokens are read without a look at what stands behind them, except that a word, a number or a
name must end there; and a condition takes the tokens that it is written with and no others.
-/

namespace LinkSearch.Sql

/-! ### Tokens -/

theorem takeWhile_append_of_head {p : Char → Bool} {tail : List Char}
    (ends : ∀ c ∈ tail.head?, p c = false) (s : List Char) :
    (s ++ tail).takeWhile p = s.takeWhile p ∧ (s ++ tail).dropWhile p = s.dropWhile p ++ tail := by
  induction s with
  | nil => cases tail <;> simp_all
  | cons c s ih => by_cases here : p c = true <;> simp [here, ih]

theorem Apart.head {s : List Char} (apart : Apart s) {p : Char → Bool} (blank : p ' ' = false)
    (bracket : p ')' = false) : ∀ c ∈ s.head?, p c = false := by
  intro c first
  rcases apart c first with rfl | rfl
  · exact blank
  · exact bracket

theorem Apart.endsName {s : List Char} (apart : Apart s) : EndsName s := by
  intro c first
  rcases apart c first with rfl | rfl <;> decide

/-- What begins with neither a blank nor a bracket does not begin behind the first text. -/
theorem Apart.exists_eq_cons {s tail more : List Char} {c : Char} (apart : Apart tail)
    (text : s ++ tail = c :: more) (visible : c ≠ ' ') (other : c ≠ ')') :
    ∃ inner, s = c :: inner := by
  cases s with
  | nil =>
    have first : tail = c :: more := text
    rcases apart c (by rw [first]; rfl) with rfl | rfl
    · exact absurd rfl visible
    · exact absurd rfl other
  | cons d s => exact ⟨s, by rw [(List.cons.inj text).1]⟩

/-- A mention so many bytes further on. -/
def Mention.later (shift : Nat) (mention : Mention) : Mention :=
  ⟨mention.segments, shift + mention.offset⟩

namespace Token

open ColumnName

/-- The token with the place of a name in it replaced. -/
def mapMention (f : Mention → Mention) : Token → Token
  | .name mention => .name (f mention)
  | token => token

theorem readSegment?_of_single {rest : List Char} (single : ∀ c ∈ rest.head?, c ≠ '\x22') :
    readSegment? ('\x22' :: rest) = some ([], rest) := by
  cases rest with
  | nil => rfl
  | cons c rest =>
    have other : c ≠ '\x22' := single c rfl
    simp [readSegment?, other]

/-- The head of two texts together is that of the first, unless the first is empty. -/
theorem forall_head_append {p : Char → Prop} {s tail : List Char} (first : ∀ c ∈ s.head?, p c)
    (second : ∀ c ∈ tail.head?, p c) : ∀ c ∈ (s ++ tail).head?, p c := by
  cases s with
  | nil => exact second
  | cons c s => exact first

theorem readSegment?_append {s segment after tail : List Char}
    (read : readSegment? s = some (segment, after)) (ends : EndsName tail) :
    readSegment? (s ++ tail) = some (segment, after ++ tail) := by
  fun_induction readSegment? s generalizing segment with
  | case1 => cases read
  | case2 rest ih =>
    obtain ⟨⟨_, _⟩, found, equal⟩ := Option.map_eq_some_iff.mp read
    cases equal
    simp [readSegment?, ih found]
  | case3 rest single =>
    cases read
    refine readSegment?_of_single (forall_head_append ?_ fun c first => (ends c first).1)
    rintro c first rfl
    obtain ⟨more, parts⟩ := List.head?_eq_some_iff.mp first
    exact single more rfl parts
  | case4 c rest single other ih =>
    obtain ⟨⟨_, _⟩, found, equal⟩ := Option.map_eq_some_iff.mp read
    cases equal
    simp [readSegment?, other, ih found]

theorem readSegment?_written {s segment after : List Char}
    (read : readSegment? s = some (segment, after)) : s = doubled segment ++ '\x22' :: after := by
  fun_induction readSegment? s generalizing segment with
  | case1 => cases read
  | case2 rest ih =>
    obtain ⟨⟨_, _⟩, found, equal⟩ := Option.map_eq_some_iff.mp read
    cases equal
    simpa [doubled_cons] using ih found
  | case3 rest single =>
    cases read
    rfl
  | case4 c rest single other ih =>
    obtain ⟨⟨_, _⟩, found, equal⟩ := Option.map_eq_some_iff.mp read
    cases equal
    simpa [doubled_cons, other] using ih found

theorem readName?_of_last {s segment after : List Char}
    (found : readSegment? s = some (segment, after))
    (last : ∀ more, after ≠ '.' :: '\x22' :: more) :
    readName? s = some ([String.ofList segment], after) := by
  rw [readName?.eq_def]
  split
  · next missing => simp [found] at missing
  · next more =>
    cases found.symm.trans more
    exact absurd rfl (last _)
  · next same =>
    cases found.symm.trans same
    rfl

theorem readName?_append {s after tail : List Char} {segments : List String}
    (read : readName? s = some (segments, after)) (ends : EndsName tail) :
    readName? (s ++ tail) = some (segments, after ++ tail) := by
  fun_induction readName? s generalizing segments with
  | case1 => cases read
  | case2 s segment more found _ ih =>
    obtain ⟨⟨_, _⟩, later, equal⟩ := Option.map_eq_some_iff.mp read
    cases equal
    have here : readSegment? (s ++ tail) = some (segment, '.' :: '\x22' :: (more ++ tail)) :=
      readSegment?_append found ends
    rw [readName?_of_dot here, ih later]
    rfl
  | case3 s segment rest last found =>
    cases read
    refine readName?_of_last (readSegment?_append found ends) fun more parts => ?_
    -- What stands behind begins neither with a dot nor with a quote.
    rcases after with _ | ⟨dot, _ | ⟨quote, rest⟩⟩
    · have begins : tail = '.' :: '\x22' :: more := parts
      exact (ends '.' (by rw [begins]; rfl)).2 rfl
    · have begins : tail = '\x22' :: more := (List.cons.inj parts).2
      exact (ends '\x22' (by rw [begins]; rfl)).1 rfl
    · obtain ⟨first, behind⟩ := List.cons.inj parts
      obtain ⟨second, _⟩ := List.cons.inj behind
      exact last rest (by rw [first, second])

theorem readName?_written {s after : List Char} {segments : List String}
    (read : readName? s = some (segments, after)) :
    '\x22' :: s = (".".intercalate (segments.map quoteSegment)).toList ++ after := by
  fun_induction readName? s generalizing segments with
  | case1 => cases read
  | case2 s segment more found _ ih =>
    obtain ⟨⟨others, left⟩, later, equal⟩ := Option.map_eq_some_iff.mp read
    cases equal
    have behind := ih later
    cases others with
    | nil =>
      have longer : '\x22' :: more = left := by simpa using behind
      have shorter := readName?_length_lt later
      rw [← longer, List.length_cons] at shorter
      omega
    | cons second others =>
      rw [toList_quoteSegments] at behind ⊢
      rw [toList_quoteSegment, List.flatMap_cons, readSegment?_written found]
      simp only [List.cons_append, List.append_assoc, List.nil_append] at behind ⊢
      rw [behind]
      simp
  | case3 s segment rest last found =>
    cases read
    rw [toList_quoteSegments, toList_quoteSegment, readSegment?_written found]
    simp

theorem readMark?_append {c : Char} {rest after tail : List Char} {token : Token}
    (read : readMark? c rest = some (token, after)) (apart : Apart tail) :
    readMark? c (rest ++ tail) = some (token, after ++ tail) := by
  unfold readMark? at read
  split at read
  case h_6 no_equal no_different no_other no_less no_greater =>
    split at read
    · next single =>
      cases read
      unfold readMark?
      split
      case h_6 => rw [if_pos single]
      all_goals
        next text =>
          obtain ⟨more, here⟩ := apart.exists_eq_cons text (by decide) (by decide)
          first
            | exact (no_equal more rfl here).elim
            | exact (no_different more rfl here).elim
            | exact (no_other more rfl here).elim
            | exact (no_less more rfl here).elim
            | exact (no_greater more rfl here).elim
    · cases read
  all_goals
    cases read
    rfl

theorem exists_eq_mark {c : Char} {rest after : List Char} {token : Token}
    (read : readMark? c rest = some (token, after)) : ∃ text, token = .mark text := by
  unfold readMark? at read
  split at read
  case h_6 =>
    split at read
    · cases read
      exact ⟨_, rfl⟩
    · cases read
  all_goals
    cases read
    exact ⟨_, rfl⟩

theorem readMark?_written {c : Char} {rest after : List Char} {token : Token}
    (read : readMark? c rest = some (token, after)) :
    c :: rest = token.written.toList ++ after := by
  unfold readMark? at read
  split at read
  case h_6 =>
    split at read
    · cases read
      simp [written]
    · cases read
  all_goals
    cases read
    rfl

/-- A token does not depend on what stands behind it, if it must end there. -/
theorem read?_append {offset shift : Nat} {c : Char} {rest after tail : List Char} {token : Token}
    (read : read? offset c rest = some (token, after)) (apart : Apart tail) :
    read? (shift + offset) c (rest ++ tail) =
      some (token.mapMention (Mention.later shift), after ++ tail) := by
  unfold read? at read ⊢
  by_cases quote : c = '\x22'
  · rw [if_pos quote] at read ⊢
    obtain ⟨⟨segments, left⟩, found, equal⟩ := Option.map_eq_some_iff.mp read
    cases equal
    rw [readName?_append found apart.endsName]
    rfl
  rw [if_neg quote] at read ⊢
  by_cases digit : c.isDigit = true
  · rw [if_pos digit] at read ⊢
    cases read
    have ends := takeWhile_append_of_head (apart.head (p := Char.isDigit) rfl rfl) rest
    rw [ends.1, ends.2]
    rfl
  rw [if_neg digit] at read ⊢
  by_cases letter : isWordChar c = true
  · rw [if_pos letter] at read ⊢
    cases read
    have ends := takeWhile_append_of_head (apart.head (p := isWordChar) rfl rfl) rest
    rw [ends.1, ends.2]
    rfl
  · rw [if_neg letter] at read ⊢
    obtain ⟨text, rfl⟩ := exists_eq_mark read
    exact readMark?_append read apart

/-- A token is read from the text that writes it. -/
theorem read?_written {offset : Nat} {c : Char} {rest after : List Char} {token : Token}
    (read : read? offset c rest = some (token, after)) :
    c :: rest = token.written.toList ++ after := by
  unfold read? at read
  by_cases quote : c = '\x22'
  · rw [if_pos quote] at read
    obtain ⟨⟨segments, left⟩, found, equal⟩ := Option.map_eq_some_iff.mp read
    cases equal
    rw [quote]
    exact readName?_written found
  rw [if_neg quote] at read
  by_cases digit : c.isDigit = true
  · rw [if_pos digit] at read
    cases read
    simp [written]
  rw [if_neg digit] at read
  by_cases letter : isWordChar c = true
  · rw [if_pos letter] at read
    cases read
    simp [written]
  · rw [if_neg letter] at read
    exact readMark?_written read

end Token

open Reader
open String (utf8Len)

/-- What is read of a text by itself is read of it in front of another one, which is then left. -/
theorem yields_of_readAll? {offset : Nat} {values : List Bound} {s : List Char}
    {tokens : List Token} (found : Token.readAll? offset values s = some tokens) (shift : Nat)
    (more : List Bound) {tail : List Char} (apart : Apart tail) :
    Yields ⟨shift + offset, values ++ more, s ++ tail⟩
      (tokens.map (Token.mapMention (Mention.later shift)))
      ⟨shift + offset + utf8Len s, more, tail⟩ := by
  fun_induction Token.readAll? offset values s generalizing tokens with
  | case1 offset values done =>
    cases found
    rw [List.isEmpty_iff.mp done]
    simp [Yields]
  | case2 => cases found
  | case3 offset values rest ih =>
    have step : step? ⟨shift + offset, values ++ more, ' ' :: (rest ++ tail)⟩ =
        some ([], ⟨shift + (offset + 1), values ++ more, rest ++ tail⟩) := rfl
    have size : shift + (offset + 1) + utf8Len rest = shift + offset + utf8Len (' ' :: rest) := by
      rw [String.utf8Len_cons, show ' '.utf8Size = 1 from rfl]
      omega
    have later := ih found
    rw [size] at later
    exact (yields_of_step? step).append later
  | case4 => cases found
  | case5 offset rest bound values _ ih =>
    obtain ⟨others, behind, rfl⟩ := Option.map_eq_some_iff.mp found
    have step : step? ⟨shift + offset, bound :: (values ++ more), '?' :: (rest ++ tail)⟩ =
        some ([.value bound], ⟨shift + (offset + 1), values ++ more, rest ++ tail⟩) := rfl
    have size : shift + (offset + 1) + utf8Len rest = shift + offset + utf8Len ('?' :: rest) := by
      rw [String.utf8Len_cons, show '?'.utf8Size = 1 from rfl]
      omega
    have later := ih behind
    rw [size] at later
    exact (yields_of_step? step).append later
  | case6 => cases found
  | case7 offset values c rest blank place token after read _ ih =>
    obtain ⟨others, behind, rfl⟩ := Option.map_eq_some_iff.mp found
    have same_size : (token.mapMention (Mention.later shift)).written = token.written := by
      cases token <;> rfl
    have step : step? ⟨shift + offset, values ++ more, c :: (rest ++ tail)⟩ =
        some ([token.mapMention (Mention.later shift)],
          ⟨shift + (offset + token.written.utf8ByteSize), values ++ more, after ++ tail⟩) := by
      simp [step?, blank, place, Token.read?_append read apart, same_size, Nat.add_assoc]
    have size : shift + (offset + token.written.utf8ByteSize) + utf8Len after =
        shift + offset + utf8Len (c :: rest) := by
      rw [Token.read?_written read, String.utf8Len_append, String.utf8Len_toList]
      omega
    have later := ih behind
    rw [size] at later
    exact (yields_of_step? step).append later

/-- A fragment that is read by itself is read wherever it stands, with its names there. -/
theorem Fragment.lexes_of_tokens? {fragment : Fragment} {tokens : List Token}
    (found : fragment.tokens? = some tokens) (offset : Nat) :
    fragment.Lexes offset (tokens.map (Token.mapMention (Mention.later offset))) := by
  intro values rest apart
  have yields := yields_of_readAll? found offset values apart
  rw [String.utf8Len_toList] at yields
  exact yields

/-! ### Operands and comparisons -/

/--
Reading takes the first of these tokens and leaves the others.  The ones that it takes are read so
wherever they stand, with their names at other places too.
-/
def Takes (tokens left : List Token) (reads : (Mention → Mention) → List Token → Prop) : Prop :=
  ∃ used, tokens = used ++ left ∧ ∀ f, reads f (used.map (Token.mapMention f))

theorem expect?_eq_some_iff {mark : String} {tokens rest : List Token} :
    expect? mark tokens = some rest ↔ tokens = .mark mark :: rest := by
  cases tokens with
  | nil => simp [expect?]
  | cons token others =>
    cases token with
    | mark found => by_cases same : found = mark <;> simp [expect?, same]
    | word | name | number | value => simp [expect?]

namespace Operand

/-- With tokens behind them, these tokens are read as the operand, and the others are left. -/
def Reads (operand : Operand Mention) (tokens : List Token) : Prop :=
  ∀ fuel rest, tokens.length ≤ fuel → read? fuel (tokens ++ rest) = some (operand, rest)

theorem reads_name (mention : Mention) : (name mention).Reads [.name mention] := by
  intro fuel rest enough
  obtain ⟨fuel, rfl⟩ : ∃ more, fuel = more + 1 := Nat.exists_eq_add_of_le' enough
  rfl

theorem reads_value (bound : Bound) : (constant bound.value).Reads [.value bound] := by
  intro fuel rest enough
  obtain ⟨fuel, rfl⟩ : ∃ more, fuel = more + 1 := Nat.exists_eq_add_of_le' enough
  rfl

theorem reads_number (digits : String) :
    (constant (.integer (Text.decimal digits.toList))).Reads [.number digits] := by
  intro fuel rest enough
  obtain ⟨fuel, rfl⟩ : ∃ more, fuel = more + 1 := Nat.exists_eq_add_of_le' enough
  rfl

theorem Reads.lower {word : String} {text : Operand Mention} {tokens : List Token}
    (named : Function.ofWord? word = some .lower) (reads : text.Reads tokens) :
    (Operand.lower text).Reads (.word word :: .mark "(" :: (tokens ++ [.mark ")"])) := by
  intro fuel rest enough
  simp only [List.length_cons, List.length_append, List.length_nil] at enough
  obtain ⟨fuel, rfl⟩ : ∃ more, fuel = more + 1 := Nat.exists_eq_add_of_le' (by omega)
  have inner := reads fuel (.mark ")" :: rest) (by omega)
  simp [read?, expect?, named, inner]

theorem Reads.position {word : String} {text part : Operand Mention} {first second : List Token}
    (named : Function.ofWord? word = some .position) (reads_text : text.Reads first)
    (reads_part : part.Reads second) :
    (Operand.position text part).Reads
      (.word word :: .mark "(" :: (first ++ .mark "," :: (second ++ [.mark ")"]))) := by
  intro fuel rest enough
  simp only [List.length_cons, List.length_append, List.length_nil] at enough
  obtain ⟨fuel, rfl⟩ : ∃ more, fuel = more + 1 := Nat.exists_eq_add_of_le' (by omega)
  have before := reads_text fuel (.mark "," :: (second ++ .mark ")" :: rest)) (by omega)
  have behind := reads_part fuel (.mark ")" :: rest) (by omega)
  simp [read?, expect?, named, before, behind]

theorem takes_of_read? {fuel : Nat} {tokens left : List Token} {operand : Operand Mention}
    (read : read? fuel tokens = some (operand, left)) :
    Takes tokens left fun f => (operand.map f).Reads := by
  fun_induction read? fuel tokens generalizing operand left with
  | case1 => cases read
  | case2 fuel mention rest =>
    cases read
    exact ⟨[.name mention], rfl, fun f => reads_name (f mention)⟩
  | case3 fuel bound rest =>
    cases read
    exact ⟨[.value bound], rfl, fun f => reads_value bound⟩
  | case4 fuel digits rest =>
    cases read
    exact ⟨[.number digits], rfl, fun f => reads_number digits⟩
  | case5 fuel word rest ih =>
    obtain ⟨opened, bracket, read⟩ := Option.bind_eq_some_iff.mp read
    obtain ⟨⟨first, behind⟩, read_first, read⟩ := Option.bind_eq_some_iff.mp read
    obtain ⟨function, named, read⟩ := Option.bind_eq_some_iff.mp read
    obtain rfl := expect?_eq_some_iff.mp bracket
    obtain ⟨used, rfl, reads⟩ := ih _ read_first
    cases function with
    | lower =>
      obtain ⟨rest, closed, equal⟩ := Option.bind_eq_some_iff.mp read
      obtain rfl := expect?_eq_some_iff.mp closed
      cases equal
      refine ⟨.word word :: .mark "(" :: (used ++ [.mark ")"]), by simp, fun f => ?_⟩
      simpa [Token.mapMention, Operand.map] using (reads f).lower named
    | position =>
      obtain ⟨between, comma, read⟩ := Option.bind_eq_some_iff.mp read
      obtain ⟨⟨second, behind⟩, read_second, read⟩ := Option.bind_eq_some_iff.mp read
      obtain ⟨rest, closed, equal⟩ := Option.bind_eq_some_iff.mp read
      obtain rfl := expect?_eq_some_iff.mp comma
      obtain ⟨more, rfl, reads_more⟩ := ih _ read_second
      obtain rfl := expect?_eq_some_iff.mp closed
      cases equal
      refine ⟨.word word :: .mark "(" :: (used ++ .mark "," :: (more ++ [.mark ")"])), by simp,
        fun f => ?_⟩
      simpa [Token.mapMention, Operand.map] using (reads f).position named (reads_more f)
  | case6 => cases read

end Operand

namespace Expression

theorem readAtom?_eq_readComparison? {tokens : List Token} (fuel : Nat)
    (unbracketed : ∀ rest, tokens ≠ .mark "(" :: rest) :
    readAtom? (fuel + 1) tokens = readComparison? fuel tokens := by
  rw [readAtom?.eq_def]
  split
  · next same => cases same
  · next rest _ => exact absurd rfl (unbracketed rest)
  · next same _ =>
    cases same
    rfl

theorem readsAtom_compare {relation : Relation} {left right : Operand Mention}
    {before after : List Token} {token : Token} (reads_left : left.Reads before)
    (reads_right : right.Reads after)
    (named : Relation.ofToken? token = some relation) :
    ReadsAtom (.compare relation left right) (before ++ token :: after) := by
  intro fuel rest enough
  simp only [List.length_append, List.length_cons] at enough
  obtain ⟨fuel, rfl⟩ : ∃ more, fuel = more + 1 := Nat.exists_eq_add_of_le' (by omega)
  have first := reads_left fuel (token :: (after ++ rest)) (by omega)
  have second := reads_right fuel rest (by omega)
  rw [List.append_assoc, List.cons_append, readAtom?_eq_readComparison?, readComparison?]
  · simp [first, named, second]
  · -- No operand begins with a bracket.
    intro others bracketed
    rw [bracketed] at first
    cases fuel <;> cases first

theorem takes_of_readComparison? {fuel : Nat} {tokens left : List Token}
    {condition : Expression Mention} (read : readComparison? fuel tokens = some (condition, left)) :
    Takes tokens left fun f => ReadsAtom (condition.map f) := by
  unfold readComparison? at read
  obtain ⟨⟨first, rest⟩, read_first, remaining⟩ := Option.bind_eq_some_iff.mp read
  obtain ⟨before, rfl, reads_first⟩ := Operand.takes_of_read? read_first
  cases rest with
  | nil => cases remaining
  | cons token rest =>
    obtain ⟨relation, named, remaining⟩ := Option.bind_eq_some_iff.mp remaining
    obtain ⟨⟨second, rest⟩, read_second, equal⟩ := Option.bind_eq_some_iff.mp remaining
    obtain ⟨after, rfl, reads_second⟩ := Operand.takes_of_read? read_second
    cases equal
    refine ⟨before ++ token :: after, by simp, fun f => ?_⟩
    have same : Relation.ofToken? (token.mapMention f) = Relation.ofToken? token := by
      cases token <;> rfl
    rw [List.map_append, List.map_cons]
    exact readsAtom_compare (reads_first f) (reads_second f) (same.trans named)

/-! ### Chains -/

/-- These tokens are read as the links of a chain, each a connective and an atom. -/
inductive ReadsLinks : List (Connective × Expression Mention) → List Token → Prop where
  | nil : ReadsLinks [] []
  | cons {word : String} {connective : Connective} {next : Expression Mention}
      {links : List (Connective × Expression Mention)} {used more : List Token}
      (named : Connective.ofWord? word = some connective) (reads : ReadsAtom next used)
      (later : ReadsLinks links more) :
      ReadsLinks ((connective, next) :: links) (.word word :: (used ++ more))

theorem ReadsLinks.append {first second : List (Connective × Expression Mention)}
    {before after : List Token} (reads : ReadsLinks first before)
    (later : ReadsLinks second after) : ReadsLinks (first ++ second) (before ++ after) := by
  induction reads with
  | nil => exact later
  | cons named here _ ih =>
    rw [List.cons_append, List.cons_append, List.append_assoc]
    exact .cons named here ih

theorem ReadsLinks.readLinks?_eq {links : List (Connective × Expression Mention)}
    {tokens : List Token} (reads : ReadsLinks links tokens) {fuel : Nat} {rest : List Token}
    (ends : EndsChain rest) (enough : 3 * tokens.length < fuel) :
    readLinks? fuel (tokens ++ rest) = some (links, rest) := by
  induction reads generalizing fuel with
  | nil => exact readLinks?_of_endsChain ends (by omega)
  | @cons word connective next links used more named reads _ ih =>
    simp only [List.length_cons, List.length_append] at enough
    obtain ⟨fuel, rfl⟩ : ∃ more, fuel = more + 1 := Nat.exists_eq_add_of_le' (by omega)
    have here := reads fuel (more ++ rest) (by omega)
    have later := @ih fuel (by omega)
    simp [readLinks?, named, here, later]

/-- An atom and links are read as the chain of both. -/
theorem ReadsLinks.readsChain {first : Expression Mention}
    {links : List (Connective × Expression Mention)} {used more : List Token}
    (reads : ReadsAtom first used) (later : ReadsLinks links more) :
    ReadsChain (assemble none first links) (used ++ more) := by
  intro fuel rest ends enough
  rw [List.length_append] at enough
  obtain ⟨fuel, rfl⟩ : ∃ more, fuel = more + 1 := Nat.exists_eq_add_of_le' (by omega)
  have here := reads fuel (more ++ rest) (by omega)
  have behind : readLinks? fuel (more ++ rest) = some (links, rest) :=
    later.readLinks?_eq ends (by omega)
  rw [List.append_assoc, readChain?, here]
  simp [behind]

/-- The links with every name replaced. -/
def mapLinks {ν μ : Type} (f : ν → μ) (links : List (Connective × Expression ν)) :
    List (Connective × Expression μ) :=
  links.map fun (connective, condition) => (connective, condition.map f)

theorem map_assemble {ν μ : Type} (f : ν → μ) (done : Option (Expression ν))
    (last : Expression ν) (links : List (Connective × Expression ν)) :
    (assemble done last links).map f =
      assemble (done.map (Expression.map f)) (last.map f) (mapLinks f links) := by
  fun_induction assemble done last links with
  | case1 done last => cases done <;> rfl
  | case2 done last next rest ih => exact ih
  | case3 done last next rest ih =>
    rw [ih]
    cases done <;> rfl

/-- With this fuel, what is read as an atom, a chain or links is read so wherever it stands. -/
structure ReadsAnywhere (fuel : Nat) : Prop where
  atom {tokens left : List Token} {condition : Expression Mention} :
    readAtom? fuel tokens = some (condition, left) →
      Takes tokens left fun f => ReadsAtom (condition.map f)
  chain {tokens left : List Token} {condition : Expression Mention} :
    readChain? fuel tokens = some (condition, left) →
      Takes tokens left fun f => ReadsChain (condition.map f)
  links {tokens left : List Token} {list : List (Connective × Expression Mention)} :
    readLinks? fuel tokens = some (list, left) →
      Takes tokens left fun f => ReadsLinks (mapLinks f list)

theorem ReadsAnywhere.atom_succ {fuel : Nat} (anywhere : ReadsAnywhere fuel)
    {tokens left : List Token} {condition : Expression Mention}
    (read : readAtom? (fuel + 1) tokens = some (condition, left)) :
    Takes tokens left fun f => ReadsAtom (condition.map f) := by
  by_cases bracketed : ∃ rest, tokens = .mark "(" :: rest
  · obtain ⟨rest, rfl⟩ := bracketed
    rw [readAtom?] at read
    obtain ⟨⟨inner, behind⟩, read_inner, read⟩ := Option.bind_eq_some_iff.mp read
    obtain ⟨rest, closed, equal⟩ := Option.bind_eq_some_iff.mp read
    cases equal
    obtain rfl := expect?_eq_some_iff.mp closed
    obtain ⟨used, rfl, reads⟩ := anywhere.chain read_inner
    refine ⟨.mark "(" :: (used ++ [.mark ")"]), by simp, fun f => ?_⟩
    simpa [Token.mapMention] using (reads f).bracketed
  · push Not at bracketed
    rw [readAtom?_eq_readComparison? fuel bracketed] at read
    exact takes_of_readComparison? read

theorem ReadsAnywhere.chain_succ {fuel : Nat} (anywhere : ReadsAnywhere fuel)
    {tokens left : List Token} {condition : Expression Mention}
    (read : readChain? (fuel + 1) tokens = some (condition, left)) :
    Takes tokens left fun f => ReadsChain (condition.map f) := by
  rw [readChain?] at read
  obtain ⟨⟨first, behind⟩, read_first, read⟩ := Option.bind_eq_some_iff.mp read
  obtain ⟨⟨list, rest⟩, read_links, equal⟩ := Option.bind_eq_some_iff.mp read
  cases equal
  obtain ⟨used, rfl, reads⟩ := anywhere.atom read_first
  obtain ⟨more, rfl, reads_links⟩ := anywhere.links read_links
  refine ⟨used ++ more, by simp, fun f => ?_⟩
  change ReadsChain ((assemble none first list).map f) _
  rw [map_assemble, List.map_append]
  exact (reads_links f).readsChain (reads f)

/-- Links that stop take no token. -/
theorem takes_none (tokens : List Token) :
    Takes tokens tokens fun f => ReadsLinks (mapLinks f []) :=
  ⟨[], rfl, fun _ => .nil⟩

theorem ReadsAnywhere.links_succ {fuel : Nat} (anywhere : ReadsAnywhere fuel)
    {tokens left : List Token} {list : List (Connective × Expression Mention)}
    (read : readLinks? (fuel + 1) tokens = some (list, left)) :
    Takes tokens left fun f => ReadsLinks (mapLinks f list) := by
  rw [readLinks?.eq_def] at read
  rcases tokens with _ | ⟨_ | _ | _ | _ | _, rest⟩
  case cons.word word =>
    dsimp only at read
    split at read
    · cases read
      exact takes_none _
    · next connective named =>
      obtain ⟨⟨next, behind⟩, read_next, read⟩ := Option.bind_eq_some_iff.mp read
      obtain ⟨⟨others, rest⟩, read_links, equal⟩ := Option.bind_eq_some_iff.mp read
      cases equal
      obtain ⟨used, rfl, reads⟩ := anywhere.atom read_next
      obtain ⟨more, rfl, reads_links⟩ := anywhere.links read_links
      refine ⟨.word word :: (used ++ more), by simp, fun f => ?_⟩
      rw [List.map_cons, List.map_append]
      exact .cons named (reads f) (reads_links f)
  all_goals
    cases read
    exact takes_none _

/-- By induction on the fuel, for the three together, as each of them reads the others. -/
theorem readsAnywhere (fuel : Nat) : ReadsAnywhere fuel := by
  induction fuel with
  | zero => constructor <;> simp [readAtom?, readChain?, readLinks?]
  | succ fuel ih => exact ⟨ih.atom_succ, ih.chain_succ, ih.links_succ⟩

end Expression

end LinkSearch.Sql
