import LinkSearch.Toml.Quoted
import Mathlib.Data.List.Infix

/-!
# Strings are read back

Whatever its characters, a text is read back from the string that is written for it, in each of the
four forms, up to the quotes that close it.  Only the form between triple double quotes needs some
thought: two quotes may stand at the end of the text, right before those that close it.
-/

namespace LinkSearch.Toml

/-- A text that does not go on with a string that ends before it. -/
def EndsString (s : List Char) : Prop := ∀ c ∈ s.head?, c ≠ '\x22' ∧ c ≠ '\x27'

theorem endsString_cons {c : Char} {s : List Char} :
    EndsString (c :: s) ↔ c ≠ '\x22' ∧ c ≠ '\x27' := by
  simp [EndsString]

/-! ### Escapes -/

theorem charOfHex?_upperHex : ∀ n < 0x80, (upperHex n).length = 4 ∧
    charOfHex? (upperHex n) = some (Char.ofNat n) := by
  decide

theorem toNat_lt_of_isControl {c : Char} (control : isControl c = true) : c.toNat < 0x80 := by
  unfold isControl at control
  simp only [Bool.or_eq_true, decide_eq_true_eq, beq_iff_eq] at control
  rcases control with small | rfl
  · omega
  · decide

/-- The escape of a control character by its code. -/
theorem readEscape?_upperHex {c : Char} (control : isControl c = true) (rest : List Char) :
    readEscape? ('u' :: (upperHex c.toNat ++ rest)) = some (c, rest) := by
  obtain ⟨four, code⟩ := charOfHex?_upperHex c.toNat (toNat_lt_of_isControl control)
  obtain ⟨a, b, d, e, digits⟩ := List.length_eq_four.mp four
  rw [digits, Char.ofNat_toNat] at code
  simp [digits, readEscape?, code]

/-- The code of an escape begins with a letter, a quote or a backslash, so its line goes on. -/
theorem blankLine_cons {c : Char} {s : List Char}
    (solid : c ≠ ' ' ∧ c ≠ '\t' ∧ c ≠ '\n' ∧ c ≠ '\r') : blankLine (c :: s) = false := by
  obtain ⟨space, tab, feed, carriage⟩ := solid
  simp [blankLine, space, tab, readLineEnd?, feed, carriage]

/--
A character is written as it is, if it is neither a quote nor a backslash nor a control character,
or as an escape that is read back.
-/
theorem escapeBasic_cases (c : Char) :
    (escapeBasic c = [c] ∧ c ≠ '\x22' ∧ c ≠ '\\' ∧ isControl c = false) ∨
      ∃ first code, escapeBasic c = '\\' :: first :: code ∧
        (first ≠ ' ' ∧ first ≠ '\t' ∧ first ≠ '\n' ∧ first ≠ '\r') ∧
        ∀ rest, readEscape? (first :: (code ++ rest)) = some (c, rest) := by
  by_cases letter : c ∈ ['\x08', '\t', '\n', '\x0c', '\r', '\x22', '\\']
  · right
    simp only [List.mem_cons, List.not_mem_nil, or_false] at letter
    rcases letter with rfl | rfl | rfl | rfl | rfl | rfl | rfl <;>
      exact ⟨_, [], rfl, by decide, fun _ => rfl⟩
  · simp only [List.mem_cons, List.not_mem_nil, or_false, not_or] at letter
    obtain ⟨backspace, tab, feed, page, carriage, quote, backslash⟩ := letter
    by_cases control : isControl c = true
    · refine .inr ⟨'u', upperHex c.toNat, ?_, by decide, readEscape?_upperHex control⟩
      simp [escapeBasic, backspace, tab, feed, page, carriage, quote, backslash, control]
    · refine .inl ⟨?_, quote, backslash, Bool.not_eq_true _ ▸ control⟩
      simp [escapeBasic, backspace, tab, feed, page, carriage, quote, backslash, control]

/-! ### Between double quotes -/

theorem readBasic?_quote (rest : List Char) : readBasic? ('\x22' :: rest) = some ([], rest) := by
  rw [readBasic?.eq_def]
  simp

theorem readBasic?_escape {c : Char} {rest after : List Char}
    (escape : readEscape? rest = some (c, after)) :
    readBasic? ('\\' :: rest) = (readBasic? after).map (Prod.map (c :: ·) id) := by
  rw [readBasic?.eq_def]
  simp only [Char.reduceEq, if_false, if_true]
  split
  · next missing => simp [escape] at missing
  · next other more found =>
    cases escape.symm.trans found
    rfl

theorem readBasic?_plain {c : Char} (quote : c ≠ '\x22') (backslash : c ≠ '\\')
    (plain : isPlain c = true) (rest : List Char) :
    readBasic? (c :: rest) = (readBasic? rest).map (Prod.map (c :: ·) id) := by
  rw [readBasic?.eq_def]
  simp [quote, backslash, plain]

theorem isPlain_of_not_isControl {c : Char} (control : isControl c = false) :
    isPlain c = true := by
  simp [isPlain, control]

theorem readBasic?_escapeBasic (s rest : List Char) :
    readBasic? (s.flatMap escapeBasic ++ '\x22' :: rest) = some (s, rest) := by
  induction s with
  | nil => exact readBasic?_quote rest
  | cons c s ih =>
    rw [List.flatMap_cons, List.append_assoc]
    rcases escapeBasic_cases c with ⟨same, quote, backslash, control⟩ | ⟨first, code, escape, _, read⟩
    · rw [same, List.singleton_append,
        readBasic?_plain quote backslash (isPlain_of_not_isControl control), ih]
      rfl
    · rw [escape, List.cons_append, List.cons_append, readBasic?_escape (read _), ih]
      rfl

/-! ### Between single quotes -/

theorem readLiteral?_append {s : List Char} (plain : ∀ c ∈ s, isPlain c = true)
    (absent : '\x27' ∉ s) (rest : List Char) :
    readLiteral? (s ++ '\x27' :: rest) = some (s, rest) := by
  induction s with
  | nil => simp [readLiteral?]
  | cons c s ih =>
    obtain ⟨first, others⟩ := List.forall_mem_cons.mp plain
    rw [List.mem_cons, not_or] at absent
    obtain ⟨quote, later⟩ := absent
    simp [readLiteral?, first, Ne.symm quote, ih others later]

/-! ### Between three quotes -/

/-- Up to two quotes right before the closing ones belong to the text. -/
theorem closeMultiline_replicate {quote : Char} {many : Nat} (few : many ≤ 2) {rest : List Char}
    (ends : rest.head? ≠ some quote) :
    closeMultiline quote (List.replicate many quote ++ rest) =
      (List.replicate many quote, rest) := by
  have stops : closeMultiline quote rest = ([], rest) := by
    cases rest with
    | nil => rfl
    | cons c rest =>
      have other : c ≠ quote := by simpa using ends
      simp [closeMultiline, other]
  obtain rfl | rfl | rfl : many = 0 ∨ many = 1 ∨ many = 2 := by omega
  · exact stops
  · cases rest with
    | nil => simp [closeMultiline]
    | cons c rest =>
      have other : c ≠ quote := by simpa using ends
      simp [closeMultiline, other]
  · simp [closeMultiline, List.replicate]

theorem startsClosing_replicate (quote : Char) (many : Nat) (rest : List Char) :
    startsClosing quote (List.replicate many quote ++ List.replicate 3 quote ++ rest) = true := by
  rw [List.replicate_append_replicate, Nat.add_comm, ← List.replicate_append_replicate]
  simp [startsClosing, List.replicate]

theorem drop_replicate (quote : Char) (many : Nat) (rest : List Char) :
    (List.replicate many quote ++ List.replicate 3 quote ++ rest).drop 3 =
      List.replicate many quote ++ rest := by
  rw [List.replicate_append_replicate, Nat.add_comm, ← List.replicate_append_replicate,
    List.append_assoc]
  rfl

theorem startsClosing_cons_of_ne {quote c : Char} (other : c ≠ quote) (s : List Char) :
    startsClosing quote (c :: s) = false := by
  unfold startsClosing
  split
  · next a _ _ _ same =>
    cases same
    simp [other]
  · rfl

theorem readMultilineBasic?_closing {s : List Char} (closing : startsClosing '\x22' s = true) :
    readMultilineBasic? s = some (closeMultiline '\x22' (s.drop 3)) := by
  rw [readMultilineBasic?.eq_def, if_pos closing]

theorem readMultilineBasic?_escape {c : Char} {rest after : List Char}
    (goes_on : blankLine rest = false) (escape : readEscape? rest = some (c, after)) :
    readMultilineBasic? ('\\' :: rest) =
      (readMultilineBasic? after).map (Prod.map (c :: ·) id) := by
  rw [readMultilineBasic?.eq_def, if_neg (by simp [startsClosing_cons_of_ne])]
  simp only [if_true, goes_on, Bool.false_eq_true, if_false]
  split
  · next missing => simp [escape] at missing
  · next other more found =>
    cases escape.symm.trans found
    rfl

theorem ne_carriageReturn_of_plain {c : Char} (plain : isPlain c = true ∨ c = '\n') : c ≠ '\r' := by
  rintro rfl
  rcases plain with plain | plain <;> exact absurd plain (by decide)

theorem readMultilineBasic?_plain {c : Char} {rest : List Char}
    (goes_on : startsClosing '\x22' (c :: rest) = false) (backslash : c ≠ '\\')
    (plain : isPlain c = true ∨ c = '\n') :
    readMultilineBasic? (c :: rest) = (readMultilineBasic? rest).map (Prod.map (c :: ·) id) := by
  have carriage := ne_carriageReturn_of_plain plain
  rw [readMultilineBasic?.eq_def, if_neg (by simp [goes_on])]
  simp [backslash, carriage, plain]

theorem startsClosing_iff {quote : Char} {s : List Char} :
    startsClosing quote s = true ↔ List.replicate 3 quote <+: s := by
  unfold startsClosing
  split
  · next a b c rest =>
    simp only [Bool.and_eq_true, beq_iff_eq, List.replicate, List.cons_prefix_cons,
      List.nil_prefix, and_true]
    constructor
    · rintro ⟨⟨rfl, rfl⟩, rfl⟩
      exact ⟨rfl, rfl, rfl⟩
    · rintro ⟨rfl, rfl, rfl⟩
      exact ⟨⟨rfl, rfl⟩, rfl⟩
  · next short =>
    simp only [Bool.false_eq_true, false_iff]
    rintro ⟨rest, rfl⟩
    exact short quote quote quote rest rfl

theorem escapeMultiline_cons (quotes : Nat) (c : Char) (s : List Char) :
    escapeMultiline quotes (c :: s) =
      if c = '\x22' then
        if quotes = 2 then '\\' :: c :: escapeMultiline 0 s
        else c :: escapeMultiline (quotes + 1) s
      else if c = '\n' then c :: escapeMultiline 0 s
      else escapeBasic c ++ escapeMultiline 0 s := rfl

/-- Unless it is a quote that stays as it is, a character is not written with a quote in front. -/
theorem escapeMultiline_cons_of_ne {quotes : Nat} {c : Char} (s : List Char)
    (other : c ≠ '\x22' ∨ quotes = 2) :
    ∃ first more, escapeMultiline quotes (c :: s) = first :: more ∧ first ≠ '\x22' := by
  rw [escapeMultiline_cons]
  by_cases quote : c = '\x22'
  · have third : quotes = 2 := other.resolve_left fun different => different quote
    exact ⟨'\\', _, by rw [if_pos quote, if_pos third], by decide⟩
  · rw [if_neg quote]
    by_cases feed : c = '\n'
    · exact ⟨c, _, by rw [if_pos feed], quote⟩
    · rw [if_neg feed]
      rcases escapeBasic_cases c with ⟨same, _⟩ | ⟨first, code, escape, _⟩
      · exact ⟨c, _, by rw [same, List.singleton_append], quote⟩
      · exact ⟨'\\', _, by rw [escape, List.cons_append], by decide⟩

/--
What is written goes on with three quotes, those right before it included, only if nothing but
quotes is left of the text.
-/
theorem exists_replicate_of_prefix {quotes : Nat} {s rest : List Char} (few : quotes ≤ 2)
    (closing : List.replicate (3 - quotes) '\x22' <+:
      escapeMultiline quotes s ++ List.replicate 3 '\x22' ++ rest) :
    ∃ many, many + quotes ≤ 2 ∧ s = List.replicate many '\x22' ∧
      escapeMultiline quotes s = List.replicate many '\x22' := by
  induction s generalizing quotes with
  | nil => exact ⟨0, by omega, rfl, rfl⟩
  | cons c s ih =>
    have one_more : 3 - quotes = (3 - (quotes + 1)) + 1 := by omega
    by_cases other : c ≠ '\x22' ∨ quotes = 2
    · obtain ⟨first, more, written, different⟩ := escapeMultiline_cons_of_ne s other
      rw [written, one_more, List.replicate_succ, List.cons_append, List.cons_append,
        List.cons_prefix_cons] at closing
      exact absurd closing.1.symm different
    · push Not at other
      obtain ⟨rfl, others⟩ := other
      have written : escapeMultiline quotes ('\x22' :: s) =
          '\x22' :: escapeMultiline (quotes + 1) s := by
        rw [escapeMultiline_cons, if_pos rfl, if_neg others]
      rw [written, one_more, List.replicate_succ, List.cons_append, List.cons_append,
        List.cons_prefix_cons] at closing
      obtain ⟨many, bound, whole, kept⟩ := ih (by omega) closing.2
      refine ⟨many + 1, by omega, ?_, ?_⟩
      · rw [whole, List.replicate_succ]
      · rw [written, kept, List.replicate_succ]

theorem readMultilineBasic?_of_startsClosing {quotes : Nat} {s rest : List Char}
    (few : quotes ≤ 2) (apart : rest.head? ≠ some '\x22')
    (closing : startsClosing '\x22'
      (escapeMultiline quotes s ++ List.replicate 3 '\x22' ++ rest) = true) :
    readMultilineBasic? (escapeMultiline quotes s ++ List.replicate 3 '\x22' ++ rest) =
      some (s, rest) := by
  have shorter : List.replicate (3 - quotes) '\x22' <+: List.replicate 3 '\x22' := by
    refine ⟨List.replicate quotes '\x22', ?_⟩
    rw [List.replicate_append_replicate]
    congr 1
    omega
  obtain ⟨many, bound, whole, written⟩ :=
    exists_replicate_of_prefix few (shorter.trans (startsClosing_iff.mp closing))
  rw [readMultilineBasic?_closing closing, written, drop_replicate, whole,
    closeMultiline_replicate (by omega) apart]

/-- Between three quotes too, a character stands as it is or as an escape that is read back. -/
theorem escapeMultiline_cons_cases {quotes : Nat} (few : quotes ≤ 2) (c : Char) (s : List Char) :
    ∃ next ≤ 2,
      (escapeMultiline quotes (c :: s) = c :: escapeMultiline next s ∧ c ≠ '\\' ∧
        (isPlain c = true ∨ c = '\n')) ∨
      ∃ first code, escapeMultiline quotes (c :: s) =
          '\\' :: first :: (code ++ escapeMultiline next s) ∧
        (first ≠ ' ' ∧ first ≠ '\t' ∧ first ≠ '\n' ∧ first ≠ '\r') ∧
        ∀ rest, readEscape? (first :: (code ++ rest)) = some (c, rest) := by
  rw [escapeMultiline_cons]
  by_cases quote : c = '\x22'
  · subst quote
    rw [if_pos rfl]
    by_cases third : quotes = 2
    · rw [if_pos third]
      exact ⟨0, by omega, .inr ⟨'\x22', [], rfl, by decide, fun _ => rfl⟩⟩
    · rw [if_neg third]
      exact ⟨quotes + 1, by omega, .inl ⟨rfl, by decide, .inl rfl⟩⟩
  · rw [if_neg quote]
    refine ⟨0, by omega, ?_⟩
    by_cases feed : c = '\n'
    · rw [if_pos feed]
      exact .inl ⟨rfl, fun backslash => absurd (backslash.symm.trans feed) (by decide), .inr feed⟩
    · rw [if_neg feed]
      rcases escapeBasic_cases c with
        ⟨same, _, backslash, control⟩ | ⟨first, code, escape, solid, read⟩
      · rw [same]
        exact .inl ⟨rfl, backslash, .inl (isPlain_of_not_isControl control)⟩
      · rw [escape]
        exact .inr ⟨first, code, rfl, solid, read⟩

/-- By induction on the text; each character that does not begin the closing quotes is one step. -/
theorem readMultilineBasic?_escapeMultiline {quotes : Nat} (few : quotes ≤ 2) (s : List Char)
    {rest : List Char} (apart : rest.head? ≠ some '\x22') :
    readMultilineBasic? (escapeMultiline quotes s ++ List.replicate 3 '\x22' ++ rest) =
      some (s, rest) := by
  induction s generalizing quotes with
  | nil => exact readMultilineBasic?_of_startsClosing few apart (startsClosing_replicate _ 0 rest)
  | cons c s ih =>
    by_cases closing : startsClosing '\x22'
        (escapeMultiline quotes (c :: s) ++ List.replicate 3 '\x22' ++ rest) = true
    · exact readMultilineBasic?_of_startsClosing few apart closing
    · rw [Bool.not_eq_true] at closing
      obtain ⟨next, bound, ⟨written, backslash, plain⟩ | ⟨first, code, written, solid, read⟩⟩ :=
        escapeMultiline_cons_cases few c s
      · rw [written, List.cons_append, List.cons_append] at closing ⊢
        rw [readMultilineBasic?_plain closing backslash plain, ih bound]
        rfl
      · simp only [written, List.cons_append, List.append_assoc]
        rw [readMultilineBasic?_escape (blankLine_cons solid) (read _), ← List.append_assoc,
          ih bound]
        rfl

/-! ### Between three single quotes -/

theorem hasTriple_cons {quote c : Char} {s : List Char} (none_here : hasTriple quote (c :: s) = false) :
    startsClosing quote (c :: s) = false ∧ hasTriple quote s = false := by
  simpa [hasTriple] using none_here

/-- Without three quotes in a row the closing ones are met only where the text ends. -/
theorem eq_replicate_of_startsClosing {quote : Char} {s rest : List Char}
    (no_triple : hasTriple quote s = false)
    (closing : startsClosing quote (s ++ List.replicate 3 quote ++ rest) = true) :
    ∃ many ≤ 2, s = List.replicate many quote := by
  match s with
  | [] => exact ⟨0, by omega, rfl⟩
  | [a] =>
    simp [startsClosing, List.replicate] at closing
    exact ⟨1, by omega, by simp [closing]⟩
  | [a, b] =>
    simp [startsClosing, List.replicate] at closing
    exact ⟨2, by omega, by simp [closing, List.replicate]⟩
  | a :: b :: c :: s =>
    have triple := (hasTriple_cons no_triple).1
    simp only [startsClosing, List.cons_append] at closing triple
    rw [closing] at triple
    cases triple

theorem readMultilineLiteral?_cons {c : Char} {rest : List Char}
    (goes_on : startsClosing '\x27' (c :: rest) = false) (plain : isPlain c = true ∨ c = '\n') :
    readMultilineLiteral? (c :: rest) =
      (readMultilineLiteral? rest).map (Prod.map (c :: ·) id) := by
  have carriage := ne_carriageReturn_of_plain plain
  rw [readMultilineLiteral?.eq_def, if_neg (by simp [goes_on])]
  simp [carriage, plain]

theorem readMultilineLiteral?_of_startsClosing {s rest : List Char}
    (no_triple : hasTriple '\x27' s = false) (apart : rest.head? ≠ some '\x27')
    (closing : startsClosing '\x27' (s ++ List.replicate 3 '\x27' ++ rest) = true) :
    readMultilineLiteral? (s ++ List.replicate 3 '\x27' ++ rest) = some (s, rest) := by
  obtain ⟨many, few, whole⟩ := eq_replicate_of_startsClosing no_triple closing
  rw [readMultilineLiteral?.eq_def, if_pos closing, whole, drop_replicate,
    closeMultiline_replicate few apart]

theorem readMultilineLiteral?_append {s : List Char}
    (plain : ∀ c ∈ s, isPlain c = true ∨ c = '\n') (no_triple : hasTriple '\x27' s = false)
    {rest : List Char} (apart : rest.head? ≠ some '\x27') :
    readMultilineLiteral? (s ++ List.replicate 3 '\x27' ++ rest) = some (s, rest) := by
  induction s with
  | nil =>
    exact readMultilineLiteral?_of_startsClosing no_triple apart (startsClosing_replicate _ 0 rest)
  | cons c s ih =>
    by_cases closing : startsClosing '\x27' (c :: s ++ List.replicate 3 '\x27' ++ rest) = true
    · exact readMultilineLiteral?_of_startsClosing no_triple apart closing
    · obtain ⟨first, others⟩ := List.forall_mem_cons.mp plain
      rw [Bool.not_eq_true, List.cons_append, List.cons_append] at closing
      rw [List.cons_append, List.cons_append, readMultilineLiteral?_cons closing first,
        ih others (hasTriple_cons no_triple).2]
      rfl

/-! ### Every string -/

/-- One double quote, and not three, opens a string of one line. -/
theorem readString?_doubleQuote {s : List Char} (single : ∀ rest, s ≠ '\x22' :: '\x22' :: rest) :
    readString? ('\x22' :: s) = readBasic? s := by
  unfold readString?
  split
  · next rest same =>
    cases same
    exact absurd rfl (single rest)
  · next same => cases same
  · next same =>
    cases same
    rfl
  · next same => cases same
  · next other _ => exact absurd rfl (other s)

theorem readString?_singleQuote {s : List Char} (single : ∀ rest, s ≠ '\x27' :: '\x27' :: rest) :
    readString? ('\x27' :: s) = readLiteral? s := by
  unfold readString?
  split
  · next same => cases same
  · next rest same =>
    cases same
    exact absurd rfl (single rest)
  · next same => cases same
  · next same =>
    cases same
    rfl
  · next other => exact absurd rfl (other s)

theorem readString?_basic (s : List Char) {rest : List Char} (ends : EndsString rest) :
    readString? (writeIn .basic s ++ rest) = some (s, rest) := by
  have single (more : List Char) :
      s.flatMap escapeBasic ++ '\x22' :: rest ≠ '\x22' :: '\x22' :: more := by
    intro same
    cases s with
    | nil =>
      have next : rest = '\x22' :: more := by simpa using same
      exact (ends '\x22' (by rw [next]; rfl)).1 rfl
    | cons c s =>
      rcases escapeBasic_cases c with ⟨kept, quote, _⟩ | ⟨first, code, escape, _⟩
      · simp [List.flatMap_cons, kept, quote] at same
      · simp [List.flatMap_cons, escape] at same
  have written : writeIn .basic s ++ rest = '\x22' :: (s.flatMap escapeBasic ++ '\x22' :: rest) := by
    simp [writeIn]
  rw [written, readString?_doubleQuote single, readBasic?_escapeBasic]

theorem readString?_literal {s : List Char} (plain : ∀ c ∈ s, isPlain c = true)
    (absent : '\x27' ∉ s) {rest : List Char} (ends : EndsString rest) :
    readString? (writeIn .literal s ++ rest) = some (s, rest) := by
  have single (more : List Char) : s ++ '\x27' :: rest ≠ '\x27' :: '\x27' :: more := by
    intro same
    cases s with
    | nil =>
      have next : rest = '\x27' :: more := by simpa using same
      exact (ends '\x27' (by rw [next]; rfl)).2 rfl
    | cons c s =>
      have first : c = '\x27' := (List.cons.inj same).1
      exact absent (first ▸ List.mem_cons_self)
  have written : writeIn .literal s ++ rest = '\x27' :: (s ++ '\x27' :: rest) := by
    simp [writeIn]
  rw [written, readString?_singleQuote single, readLiteral?_append plain absent]

/-- The line end that is written for a text of several lines is dropped again, and no other. -/
theorem dropFirstLineEnd_openingLineEnd {s t : List Char}
    (goes_on : '\n' ∉ s → ∀ c ∈ t.head?, c ≠ '\n' ∧ c ≠ '\r') :
    dropFirstLineEnd (openingLineEnd s ++ t) = t := by
  by_cases lines : '\n' ∈ s
  · have opening : openingLineEnd s = ['\n'] := by simp [openingLineEnd, lines]
    rw [opening]
    rfl
  · have opening : openingLineEnd s = [] := by simp [openingLineEnd, lines]
    rw [opening, List.nil_append]
    cases t with
    | nil => rfl
    | cons c t =>
      obtain ⟨feed, carriage⟩ := goes_on lines c rfl
      simp [dropFirstLineEnd, readLineEnd?, feed, carriage]

theorem not_lineEnd_of_isPlain {c : Char} (plain : isPlain c = true) : c ≠ '\n' ∧ c ≠ '\r' := by
  constructor <;> rintro rfl <;> exact absurd plain (by decide)

theorem readString?_multilineBasic (s : List Char) {rest : List Char} (ends : EndsString rest) :
    readString? (writeIn .multilineBasic s ++ rest) = some (s, rest) := by
  have apart : rest.head? ≠ some '\x22' := fun quote => (ends _ quote).1 rfl
  have written : writeIn .multilineBasic s ++ rest = '\x22' :: '\x22' :: '\x22' ::
      (openingLineEnd s ++ (escapeMultiline 0 s ++ List.replicate 3 '\x22' ++ rest)) := by
    simp [writeIn, List.replicate]
  rw [written, readString?, dropFirstLineEnd_openingLineEnd,
    readMultilineBasic?_escapeMultiline (Nat.zero_le 2) s apart]
  intro one_line c first
  cases s with
  | nil =>
    cases first
    decide
  | cons d s =>
    obtain ⟨next, _, ⟨whole, _, plain⟩ | ⟨letter, code, whole, _⟩⟩ :=
      escapeMultiline_cons_cases (Nat.zero_le 2) d s
    · rw [whole] at first
      cases first
      have feed : c ≠ '\n' := fun feed => one_line (feed ▸ List.mem_cons_self)
      exact not_lineEnd_of_isPlain (plain.resolve_right feed)
    · rw [whole] at first
      cases first
      decide

theorem readString?_multilineLiteral {s : List Char}
    (plain : ∀ c ∈ s, isPlain c = true ∨ c = '\n') (no_triple : hasTriple '\x27' s = false)
    {rest : List Char} (ends : EndsString rest) :
    readString? (writeIn .multilineLiteral s ++ rest) = some (s, rest) := by
  have apart : rest.head? ≠ some '\x27' := fun quote => (ends _ quote).2 rfl
  have written : writeIn .multilineLiteral s ++ rest = '\x27' :: '\x27' :: '\x27' ::
      (openingLineEnd s ++ (s ++ List.replicate 3 '\x27' ++ rest)) := by
    simp [writeIn, List.replicate]
  rw [written, readString?, dropFirstLineEnd_openingLineEnd,
    readMultilineLiteral?_append plain no_triple apart]
  intro one_line c first
  cases s with
  | nil =>
    cases first
    decide
  | cons d s =>
    cases first
    have feed : c ≠ '\n' := fun feed => one_line (feed ▸ List.mem_cons_self)
    exact not_lineEnd_of_isPlain ((plain c List.mem_cons_self).resolve_right feed)

/-- What the forms without escapes are chosen for. -/
theorem formOf_cases (s : List Char) :
    formOf s = .basic ∨ formOf s = .multilineBasic ∨
      (formOf s = .literal ∧ (∀ c ∈ s, isPlain c = true) ∧ '\x27' ∉ s) ∨
      (formOf s = .multilineLiteral ∧ (∀ c ∈ s, isPlain c = true ∨ c = '\n') ∧
        hasTriple '\x27' s = false) := by
  unfold formOf plainForm?
  simp only [Bool.and_eq_true, Bool.not_eq_true', List.all_eq_true, Bool.or_eq_true, beq_iff_eq,
    List.contains_eq_mem, decide_eq_false_iff_not]
  split
  · exact .inl rfl
  · split
    · next literal => exact .inr (.inr (.inl ⟨rfl, literal⟩))
    · split
      · exact .inr (.inl rfl)
      · split
        · next lines => exact .inr (.inr (.inr ⟨rfl, lines⟩))
        · by_cases several : '\n' ∈ s
          · exact .inr (.inl (by simp [several]))
          · exact .inl (by simp [several])

/-- A written string is read back, and what follows it is left. -/
theorem readString?_writeIn_formOf (s : List Char) {rest : List Char} (ends : EndsString rest) :
    readString? (writeIn (formOf s) s ++ rest) = some (s, rest) := by
  rcases formOf_cases s with form | form | ⟨form, plain, absent⟩ | ⟨form, plain, no_triple⟩
  · rw [form, readString?_basic s ends]
  · rw [form, readString?_multilineBasic s ends]
  · rw [form, readString?_literal plain absent ends]
  · rw [form, readString?_multilineLiteral plain no_triple ends]

end LinkSearch.Toml
