import LinkSearch.Output.Listing
import LinkSearch.Proofs.Sql.Quoting

/-!
# Reading a row of bound values

Bound values are shown in a row, as a statement would write them.  The row is read back value by
value, whatever the texts among them hold: a quote begins a text, which ends at a quote that stands
alone, and anything else is a number.  So a row stands for one list of values only.
-/

namespace LinkSearch.Output

open LinkSearch.Sql

/-- Decimal digits at the start of a text, at least one, and what follows them. -/
def readDigits? (s : List Char) : Option (Nat × List Char) :=
  if s.takeWhile Char.isDigit = [] then none
  else some (Nat.ofDigitChars 10 (s.takeWhile Char.isDigit) 0, s.dropWhile Char.isDigit)

/-- A bound value at the start of a text: a text between quotes, or digits that may have a sign. -/
def readBound? : List Char → Option (Bound × List Char)
  | '\x27' :: rest => (readQuoted? '\x27' rest).map (Prod.map (.text ∘ String.ofList) id)
  | '-' :: rest => (readDigits? rest).map (Prod.map (fun n : Nat => .integer (-n)) id)
  | '+' :: rest => (readDigits? rest).map (Prod.map (fun n : Nat => .integer n) id)
  | s => (readDigits? s).map (Prod.map (fun n : Nat => .integer n) id)

theorem readDigits?_length_le {s rest : List Char} {n : Nat}
    (read : readDigits? s = some (n, rest)) : rest.length ≤ s.length := by
  unfold readDigits? at read
  split at read
  · cases read
  · cases read
    exact (List.dropWhile_sublist _).length_le

theorem readBound?_length_le {s rest : List Char} {bound : Bound}
    (read : readBound? s = some (bound, rest)) : rest.length ≤ s.length := by
  unfold readBound? at read
  split at read
  all_goals
    obtain ⟨⟨_, _⟩, found, equal⟩ := Option.map_eq_some_iff.mp read
    cases equal
  · exact Nat.le_succ_of_le (Nat.le_of_lt (readQuoted?_length_lt found))
  · exact Nat.le_succ_of_le (readDigits?_length_le found)
  · exact Nat.le_succ_of_le (readDigits?_length_le found)
  · exact readDigits?_length_le found

/-- One or more bound values, with a comma and a blank between each two, up to the end. -/
def readBounds? (s : List Char) : Option (List Bound) :=
  match h : readBound? s with
  | some (bound, []) => some [bound]
  | some (bound, ',' :: ' ' :: more) =>
    have := readBound?_length_le h
    (readBounds? more).map (bound :: ·)
  | _ => none
termination_by s.length
decreasing_by simp_all only [List.length_cons]; omega

/-- The bound values that a text shows in a row; an empty text shows none. -/
def readBoundList? (s : String) : Option (List Bound) :=
  if s = "" then some [] else readBounds? s.toList

/-! ### One value -/

/-- A text that goes on with no value before it: neither with a text nor with a number. -/
def EndsBound (s : List Char) : Prop := ∀ c ∈ s.head?, c ≠ '\x27' ∧ c.isDigit = false

theorem readDigits?_toDigits (n : Nat) {rest : List Char} (ends : EndsBound rest) :
    readDigits? (Nat.toDigits 10 n ++ rest) = some (n, rest) := by
  have all : ∀ c ∈ Nat.toDigits 10 n, c.isDigit = true :=
    fun c member => Nat.isDigit_of_mem_toDigits (by decide) (by decide) member
  have after : rest.takeWhile Char.isDigit = [] ∧ rest.dropWhile Char.isDigit = rest := by
    cases rest with
    | nil => exact ⟨rfl, rfl⟩
    | cons c rest =>
      have other : ¬ c.isDigit = true := by simp [(ends c rfl).2]
      exact ⟨List.takeWhile_cons_of_neg other, List.dropWhile_cons_of_neg other⟩
  rw [readDigits?, List.takeWhile_append_of_pos all, List.dropWhile_append_of_pos all, after.1,
    after.2, List.append_nil, if_neg Nat.toDigits_ne_nil, Nat.ofDigitChars_ten_toDigits]

theorem toList_literal_text (s : String) :
    (Bound.text s).literal.toList = '\x27' :: (quotesDoubled '\x27' s.toList ++ ['\x27']) := by
  simp [Bound.literal, quotesDoubled]

/-- Digits begin with none of the characters that begin another value. -/
theorem readBound?_of_digits (n : Nat) (rest : List Char) :
    readBound? (Nat.toDigits 10 n ++ rest) =
      (readDigits? (Nat.toDigits 10 n ++ rest)).map (Prod.map (fun n : Nat => .integer n) id) := by
  obtain ⟨c, more, digits⟩ := List.exists_cons_of_ne_nil (Nat.toDigits_ne_nil (n := n) (b := 10))
  have digit : c.isDigit = true :=
    Nat.isDigit_of_mem_toDigits (by decide) (by decide) (digits ▸ List.mem_cons_self)
  rw [digits, List.cons_append]
  unfold readBound?
  split
  case h_4 => rfl
  all_goals
    next same =>
      cases same
      cases digit

theorem readBound?_literal (bound : Bound) {rest : List Char} (ends : EndsBound rest) :
    readBound? (bound.literal.toList ++ rest) = some (bound, rest) := by
  cases bound with
  | text s =>
    have read := readQuoted?_quotesDoubled s.toList fun c first => (ends c first).1
    rw [toList_literal_text, List.cons_append, List.append_assoc, List.singleton_append, readBound?,
      read]
    simp
  | integer n =>
    rw [Bound.literal, Int.toString_eq_repr, Int.repr_eq_if]
    split
    · next positive =>
      rw [Nat.toList_repr, readBound?_of_digits, readDigits?_toDigits _ ends]
      simp [Int.toNat_of_nonneg positive]
    · next negative =>
      have size : -((-n).toNat : Int) = n := by omega
      have sign : ("-" ++ (-n).toNat.repr).toList ++ rest =
          '-' :: (Nat.toDigits 10 (-n).toNat ++ rest) := by simp
      rw [sign, readBound?, readDigits?_toDigits _ ends]
      simp only [Option.map_some, Prod.map_apply, id_eq, size]

theorem literal_ne_empty (bound : Bound) : bound.literal ≠ "" := by
  intro empty
  have ends : EndsBound [] := by simp [EndsBound]
  have read := readBound?_literal bound ends
  rw [empty] at read
  cases read

/-! ### A row of values -/

theorem readBounds?_of_end {s : List Char} {bound : Bound}
    (read : readBound? s = some (bound, [])) : readBounds? s = some [bound] := by
  rw [readBounds?.eq_def]
  split
  · next same =>
    cases read.symm.trans same
    rfl
  · next same => cases read.symm.trans same
  · next last _ => exact absurd read (last _)

theorem readBounds?_of_comma {s more : List Char} {bound : Bound}
    (read : readBound? s = some (bound, ',' :: ' ' :: more)) :
    readBounds? s = (readBounds? more).map (bound :: ·) := by
  rw [readBounds?.eq_def]
  split
  · next same => cases read.symm.trans same
  · next same =>
    cases read.symm.trans same
    rfl
  · next other => exact absurd read (other _ _)

theorem toList_boundList_cons_cons (first second : Bound) (others : List Bound) :
    (boundList (first :: second :: others)).toList =
      first.literal.toList ++ ',' :: ' ' :: (boundList (second :: others)).toList := by
  simp [boundList, String.toList_intercalate]

/-- By induction on the values; a comma ends each of them but the last. -/
theorem readBounds?_boundList (first : Bound) (others : List Bound) :
    readBounds? (boundList (first :: others)).toList = some (first :: others) := by
  induction others generalizing first with
  | nil =>
    have alone : (boundList [first]).toList = first.literal.toList ++ [] := by simp [boundList]
    rw [alone]
    exact readBounds?_of_end (readBound?_literal first (by simp [EndsBound]))
  | cons second others ih =>
    have ends : EndsBound (',' :: ' ' :: (boundList (second :: others)).toList) := by
      simp [EndsBound]
    rw [toList_boundList_cons_cons, readBounds?_of_comma (readBound?_literal first ends), ih second]
    rfl

theorem readBoundList?_boundList (values : List Bound) :
    readBoundList? (boundList values) = some values := by
  cases values with
  | nil => rfl
  | cons first others =>
    have shown : boundList (first :: others) ≠ "" := by
      intro empty
      cases others with
      | nil => exact literal_ne_empty first (by simpa [boundList] using empty)
      | cons second others =>
        have texts := toList_boundList_cons_cons first second others
        simp [empty] at texts
    rw [readBoundList?, if_neg shown, readBounds?_boundList]

/--
A row of bound values is read back to these values.  So different lists of values are shown
differently, and a number is never shown as a text is, not even as the text of its own digits.
-/
theorem boundList_reads_back (values others : List Bound) (n : Int) (s : String) :
    readBoundList? (boundList values) = some values ∧
      (boundList values = boundList others ↔ values = others) ∧
      (Bound.integer n).literal ≠ (Bound.text s).literal := by
  have injective {first second : List Bound} (same : boundList first = boundList second) :
      first = second := by
    have read := readBoundList?_boundList first
    rw [same, readBoundList?_boundList] at read
    exact (Option.some.inj read).symm
  refine ⟨readBoundList?_boundList values, ⟨injective, fun same => by rw [same]⟩, ?_⟩
  intro same
  have rows : boundList [.integer n] = boundList [.text s] := by simp [boundList, same]
  cases injective rows

end LinkSearch.Output
