import LinkSearch.Proofs.Toml.Strings
import LinkSearch.Proofs.Toml.Tables

/-!
# Documents are read line by line

A document that has each header and each pair on a line of its own spells these lines, and reading it
gives the table that they fill.  What a line reads as does not depend on the lines around it.
-/

namespace LinkSearch.Toml

/-! ### Blanks between what is read -/

/-- A character that is not dropped: no blank, comment, line end or byte order mark begins with it. -/
def IsSolid (c : Char) : Prop :=
  c ≠ ' ' ∧ c ≠ '\t' ∧ c ≠ '#' ∧ c ≠ '\n' ∧ c ≠ '\r' ∧ c ≠ '\ufeff'

instance (c : Char) : Decidable (IsSolid c) :=
  inferInstanceAs (Decidable (_ ∧ _))

theorem dropBlanks_of_isSolid {c : Char} (solid : IsSolid c) (s : List Char) :
    dropBlanks (c :: s) = c :: s := by
  simp [dropBlanks, solid.1, solid.2.1]

theorem dropBlanks_space (s : List Char) : dropBlanks (' ' :: s) = dropBlanks s := by
  simp [dropBlanks]

theorem dropComment?_of_isSolid {c : Char} (solid : IsSolid c) (s : List Char) :
    dropComment? (c :: s) = some (c :: s) := by
  unfold dropComment?
  split
  · next same =>
    cases same
    exact absurd rfl solid.2.2.1
  · rfl

theorem readLineEnd?_of_isSolid {c : Char} (solid : IsSolid c) (s : List Char) :
    readLineEnd? (c :: s) = none := by
  obtain ⟨_, _, _, feed, carriage, _⟩ := solid
  simp [readLineEnd?, feed, carriage]

theorem skipFiller?_of_dropBlanks {s : List Char} {c : Char} {rest : List Char}
    (start : dropBlanks s = c :: rest) (solid : IsSolid c) : skipFiller? s = some (c :: rest) := by
  simp [skipFiller?, dropFiller?, start, dropComment?_of_isSolid solid,
    readLineEnd?_of_isSolid solid]

theorem skipFiller?_of_isSolid {c : Char} (solid : IsSolid c) (s : List Char) :
    skipFiller? (c :: s) = some (c :: s) :=
  skipFiller?_of_dropBlanks (dropBlanks_of_isSolid solid s) solid

/-- A line end takes one step, and is one character. -/
theorem skipFiller?_lineEnd (s : List Char) : skipFiller? ('\n' :: s) = skipFiller? s := by
  rw [skipFiller?, List.length_cons, dropFiller?]
  rfl

theorem dropLineEnd?_lineEnd (s : List Char) : dropLineEnd? ('\n' :: s) = some s := rfl

/-! ### Keys without quotes -/

/-- A key that can stand without quotes. -/
def IsBareKey (key : String) : Prop :=
  key ≠ "" ∧ key.toList.all isBareKeyChar = true

instance (key : String) : Decidable (IsBareKey key) :=
  inferInstanceAs (Decidable (_ ∧ _))

theorem isSolid_of_isBareKeyChar {c : Char} (bare : isBareKeyChar c = true) : IsSolid c := by
  refine ⟨?_, ?_, ?_, ?_, ?_, ?_⟩ <;> rintro rfl <;> exact absurd bare (by decide)

theorem IsBareKey.forall_mem {key : String} (bare : IsBareKey key) :
    ∀ c ∈ key.toList, isBareKeyChar c = true :=
  List.all_eq_true.mp bare.2

theorem IsBareKey.exists_cons {key : String} (bare : IsBareKey key) :
    ∃ c s, key.toList = c :: s ∧ isBareKeyChar c = true := by
  cases written : key.toList with
  | nil => exact absurd (String.toList_eq_nil_iff.mp written) bare.1
  | cons c s => exact ⟨c, s, rfl, bare.forall_mem c (by rw [written]; exact List.mem_cons_self)⟩

theorem readSingleLine?_of_isBareKeyChar {c : Char} (bare : isBareKeyChar c = true)
    (s : List Char) : readSingleLine? (c :: s) = none := by
  unfold readSingleLine?
  split
  · next same =>
    cases same
    exact absurd bare (by decide)
  · next same =>
    cases same
    exact absurd bare (by decide)
  · rfl

theorem readKey?_bare {key : String} (bare : IsBareKey key) {c : Char}
    (ends : isBareKeyChar c = false) (rest : List Char) :
    readKey? (key.toList ++ c :: rest) = some (key, c :: rest) := by
  obtain ⟨first, more, written, solid⟩ := bare.exists_cons
  have taken : (key.toList ++ c :: rest).takeWhile isBareKeyChar = key.toList := by
    rw [List.takeWhile_append_of_pos bare.forall_mem]
    simp [ends]
  have dropped : (key.toList ++ c :: rest).dropWhile isBareKeyChar = c :: rest := by
    rw [List.dropWhile_append_of_pos bare.forall_mem]
    simp [ends]
  have quoted : readSingleLine? (key.toList ++ c :: rest) = none := by
    rw [written]
    exact readSingleLine?_of_isBareKeyChar solid _
  have given : key.toList.isEmpty = false := by rw [written]; rfl
  simp [readKey?, quoted, taken, dropped, given]

/-- A key that no dot follows is the whole of a dotted key. -/
theorem readDottedKey?_bare {key : String} (bare : IsBareKey key) {c d : Char}
    (ends : isBareKeyChar c = false) {rest after : List Char}
    (next : dropBlanks (c :: rest) = d :: after) (single : d ≠ '.') :
    readDottedKey? (key.toList ++ c :: rest) = some (([], key), d :: after) := by
  have path (fuel : Nat) : readPath? (fuel + 1) (key.toList ++ c :: rest) =
      some (([], key), d :: after) := by
    simp only [readPath?, readKey?_bare bare ends, Option.bind_eq_bind, Option.bind_some, next]
    split
    · next same =>
      cases same
      exact absurd rfl single
    · rfl
  rw [readDottedKey?, path]
  rfl

/-! ### Strings as values -/

theorem writeIn_eq_cons (form : Form) (s : List Char) :
    ∃ quote more, writeIn form s = quote :: more ∧ (quote = '\x22' ∨ quote = '\x27') := by
  cases form with
  | basic => exact ⟨_, _, rfl, .inl rfl⟩
  | literal => exact ⟨_, _, rfl, .inr rfl⟩
  | multilineBasic => exact ⟨_, _, rfl, .inl rfl⟩
  | multilineLiteral => exact ⟨_, _, rfl, .inr rfl⟩

theorem toList_writeString (text : String) :
    (writeString text).toList = writeIn (formOf text.toList) text.toList :=
  String.toList_ofList

theorem exists_writeString_eq_cons (text : String) :
    ∃ quote more, (writeString text).toList = quote :: more ∧
      (quote = '\x22' ∨ quote = '\x27') := by
  rw [toList_writeString]
  exact writeIn_eq_cons _ _

theorem exists_writeString_solid (text : String) :
    ∃ quote more, (writeString text).toList = quote :: more ∧ IsSolid quote ∧ quote ≠ ']' := by
  obtain ⟨quote, more, written, quotes⟩ := exists_writeString_eq_cons text
  refine ⟨quote, more, written, ?_⟩
  rcases quotes with rfl | rfl <;> decide

theorem readValue?_writeString (fuel depth : Nat) (text : String) {rest : List Char}
    (ends : EndsString rest) :
    readValue? (fuel + 1) depth ((writeString text).toList ++ rest) =
      some (.string text, rest) := by
  have read : readString? ((writeString text).toList ++ rest) = some (text.toList, rest) := by
    rw [toList_writeString]
    exact readString?_writeIn_formOf text.toList ends
  obtain ⟨quote, more, written, rfl | rfl⟩ := exists_writeString_eq_cons text
  · rw [written, List.cons_append] at read ⊢
    simp [readValue?, read]
  · rw [written, List.cons_append] at read ⊢
    simp [readValue?, read]

theorem skipFiller?_writeString {s : List Char} {text : String} {rest : List Char}
    (start : dropBlanks s = dropBlanks ((writeString text).toList ++ rest)) :
    skipFiller? s = some ((writeString text).toList ++ rest) := by
  obtain ⟨quote, more, written, solid, _⟩ := exists_writeString_solid text
  rw [written, List.cons_append] at start ⊢
  exact skipFiller?_of_dropBlanks (start.trans (dropBlanks_of_isSolid solid _)) solid

theorem readItems?_bracket (fuel depth : Nat) (after : List Char) :
    readItems? (fuel + 1) depth (']' :: after) = some ([], after) := by
  simp [readItems?, skipFiller?_of_isSolid (show IsSolid ']' by decide)]

section Items

variable {s more : List Char} {text : String}

/-- The items of an array go on after a comma. -/
theorem readItems?_comma (fuel depth : Nat)
    (start : skipFiller? s = some ((writeString text).toList ++ ',' :: more)) :
    readItems? (fuel + 2) depth s =
      (readItems? (fuel + 1) depth more).map (Prod.map (.string text :: ·) id) := by
  have comma : skipFiller? (',' :: more) = some (',' :: more) :=
    skipFiller?_of_isSolid (by decide) more
  have ends : EndsString (',' :: more) := endsString_cons.mpr (by decide)
  have read := readValue?_writeString fuel depth text ends
  obtain ⟨quote, rest, written, _, goes_on⟩ := exists_writeString_solid text
  rw [written, List.cons_append] at start read
  rw [readItems?, start]
  simp only [Option.bind_eq_bind, Option.bind_some, List.cons.injEq, goes_on, false_and, imp_self,
    implies_true, read, comma]
  cases readItems? (fuel + 1) depth more <;> rfl

theorem readItems?_last (fuel depth : Nat)
    (start : skipFiller? s = some ((writeString text).toList ++ ']' :: more)) :
    readItems? (fuel + 2) depth s = some ([.string text], more) := by
  have bracket : skipFiller? (']' :: more) = some (']' :: more) :=
    skipFiller?_of_isSolid (by decide) more
  have ends : EndsString (']' :: more) := endsString_cons.mpr (by decide)
  have read := readValue?_writeString fuel depth text ends
  obtain ⟨quote, rest, written, _, goes_on⟩ := exists_writeString_solid text
  rw [written, List.cons_append] at start read
  rw [readItems?, start]
  simp [goes_on, read, bracket]

end Items

/-! ### Lines -/

/-- A text that is read as a value if its line ends after it. -/
def ReadsValue (text : List Char) (value : Value) : Prop :=
  (∃ c s, text = c :: s ∧ IsSolid c) ∧ ∀ rest,
    readValue? (valueFuel (text ++ '\n' :: rest)) greatestDepth (text ++ '\n' :: rest) =
      some (value, '\n' :: rest)

theorem readsValue_writeString (text : String) :
    ReadsValue (writeString text).toList (.string text) := by
  obtain ⟨quote, more, written, solid, _⟩ := exists_writeString_solid text
  refine ⟨⟨quote, more, written, solid⟩, fun rest => ?_⟩
  exact readValue?_writeString _ _ text (endsString_cons.mpr (by decide))

theorem readsValue_bracket {s : List Char} {items : List Value}
    (read : ∀ fuel depth rest, s.length < fuel →
      readItems? fuel depth (s ++ '\n' :: rest) = some (items, '\n' :: rest)) :
    ReadsValue ('[' :: s) (.array items) := by
  refine ⟨⟨'[', s, rfl, by decide⟩, fun rest => ?_⟩
  have deep : greatestDepth = 79 + 1 := rfl
  rw [List.cons_append, valueFuel, deep, readValue?, read]
  · rfl
  · simp only [List.length_cons, List.length_append]
    omega

/-- A text that is read as a line if it ends there. -/
def ReadsLine (text : List Char) (line : Line) : Prop :=
  (∃ c s, text = c :: s ∧ IsSolid c) ∧ ∀ rest,
    readLine? (text ++ '\n' :: rest) = some (line, '\n' :: rest)

theorem readsLine_table (key : String) (bare : IsBareKey key) :
    ReadsLine ('[' :: key.toList ++ [']']) (.table [] key) := by
  refine ⟨⟨'[', _, rfl, by decide⟩, fun rest => ?_⟩
  have bracket : dropBlanks (']' :: '\n' :: rest) = ']' :: '\n' :: rest := rfl
  have read := readDottedKey?_bare bare (by decide) bracket (by decide)
  obtain ⟨first, more, written, plain⟩ := bare.exists_cons
  have solid : dropBlanks (first :: (more ++ ']' :: '\n' :: rest)) = _ :=
    dropBlanks_of_isSolid (isSolid_of_isBareKeyChar plain) _
  have single : first ≠ '[' := by
    rintro rfl
    exact absurd plain (by decide)
  rw [written] at read ⊢
  simp only [List.cons_append, List.append_assoc, List.nil_append] at read ⊢
  simp [readLine?, single, solid, read, bracket]

theorem readsLine_element (key : String) (bare : IsBareKey key) :
    ReadsLine ('[' :: '[' :: key.toList ++ [']', ']']) (.element [] key) := by
  refine ⟨⟨'[', _, rfl, by decide⟩, fun rest => ?_⟩
  have bracket : dropBlanks (']' :: ']' :: '\n' :: rest) = ']' :: ']' :: '\n' :: rest := rfl
  have read := readDottedKey?_bare bare (by decide) bracket (by decide)
  obtain ⟨first, more, written, plain⟩ := bare.exists_cons
  have solid : dropBlanks (first :: (more ++ ']' :: ']' :: '\n' :: rest)) = _ :=
    dropBlanks_of_isSolid (isSolid_of_isBareKeyChar plain) _
  rw [written] at read ⊢
  simp only [List.cons_append, List.append_assoc, List.nil_append] at read ⊢
  simp [readLine?, solid, read, bracket]

theorem readsLine_pair {key : String} (bare : IsBareKey key) {text : List Char} {value : Value}
    (reads : ReadsValue text value) :
    ReadsLine (key.toList ++ ' ' :: '=' :: ' ' :: text) (.pair [] key value) := by
  obtain ⟨⟨c, s, start, solid⟩, value_read⟩ := reads
  obtain ⟨first, more, written, plain⟩ := bare.exists_cons
  refine ⟨⟨first, _, by rw [written]; rfl, isSolid_of_isBareKeyChar plain⟩, fun rest => ?_⟩
  have equals : dropBlanks (' ' :: '=' :: ' ' :: (text ++ '\n' :: rest)) =
      '=' :: ' ' :: (text ++ '\n' :: rest) := rfl
  have sign : dropBlanks ('=' :: ' ' :: (text ++ '\n' :: rest)) =
      '=' :: ' ' :: (text ++ '\n' :: rest) := rfl
  have read := readDottedKey?_bare bare (by decide) equals (by decide)
  have value_start : dropBlanks (' ' :: (text ++ '\n' :: rest)) = text ++ '\n' :: rest := by
    rw [dropBlanks_space, start]
    exact dropBlanks_of_isSolid solid _
  have header : first ≠ '[' := by
    rintro rfl
    exact absurd plain (by decide)
  rw [written] at read ⊢
  simp only [List.cons_append, List.append_assoc] at read ⊢
  simp [readLine?, header, read, sign, value_start, value_read]

/-- A text of lines that each end with a line end, and the lines among them that are not blank. -/
inductive Spells : List Char → List Line → Prop where
  | nil : Spells [] []
  | blank {s : List Char} {lines : List Line} (rest : Spells s lines) : Spells ('\n' :: s) lines
  | line {text s : List Char} {line : Line} {lines : List Line} (first : ReadsLine text line)
      (rest : Spells s lines) : Spells (text ++ '\n' :: s) (line :: lines)

theorem Spells.append {s t : List Char} {lines more : List Line} (first : Spells s lines)
    (second : Spells t more) : Spells (s ++ t) (lines ++ more) := by
  induction first with
  | nil => exact second
  | blank _ ih => exact .blank ih
  | line first _ ih =>
    rw [List.append_assoc, List.cons_append, List.cons_append]
    exact .line first ih

/-- Texts of lines may be set apart by blank lines. -/
theorem spells_intercalate {texts : List String} {parts : List (List Line)}
    (each : List.Forall₂ (fun text lines => Spells text.toList lines) texts parts) :
    Spells ("\n".intercalate texts).toList parts.flatten := by
  rw [String.toList_intercalate]
  induction each with
  | nil => exact .nil
  | @cons text lines texts parts first others ih =>
    cases others with
    | nil => simpa [List.intercalate_singleton] using first
    | cons second others =>
      rw [List.map_cons, List.map_cons, List.intercalate_cons_cons, List.append_assoc,
        List.flatten_cons]
      exact first.append (.blank ih)

theorem ReadsLine.spells {text : List Char} {line : Line} (reads : ReadsLine text line) :
    Spells (text ++ ['\n']) [line] :=
  .line reads .nil

theorem Spells.length_le {s : List Char} {lines : List Line} (spells : Spells s lines) :
    lines.length ≤ s.length := by
  induction spells with
  | nil => exact Nat.le_refl 0
  | blank _ ih => exact Nat.le_succ_of_le ih
  | line first _ ih =>
    simp only [List.length_cons, List.length_append]
    omega

/-- By induction on the lines; a blank one is skipped together with what comes before the next. -/
theorem Spells.readLines? {s : List Char} {lines : List Line} (spells : Spells s lines)
    {fuel : Nat} (enough : lines.length < fuel) : readLines? fuel s = some lines := by
  induction spells generalizing fuel with
  | nil =>
    cases fuel with
    | zero => omega
    | succ fuel => rfl
  | @blank s lines _ ih =>
    cases fuel with
    | zero => omega
    | succ fuel =>
      have step : Toml.readLines? (fuel + 1) ('\n' :: s) = Toml.readLines? (fuel + 1) s := by
        rw [Toml.readLines?, Toml.readLines?, skipFiller?_lineEnd]
      rw [step]
      exact ih enough
  | @line text s line lines first _ ih =>
    obtain ⟨⟨c, more, start, solid⟩, read⟩ := first
    cases fuel with
    | zero => omega
    | succ fuel =>
      have others := ih (Nat.lt_of_succ_lt_succ enough)
      have skipped : skipFiller? (text ++ '\n' :: s) = some (text ++ '\n' :: s) := by
        rw [start]
        exact skipFiller?_of_isSolid solid _
      rw [Toml.readLines?, skipped]
      simp only [start, List.cons_append] at read ⊢
      simp [read, dropLineEnd?_lineEnd, others]

/-- No line begins with the mark. -/
theorem Spells.dropByteOrderMark {s : List Char} {lines : List Line} (spells : Spells s lines) :
    dropByteOrderMark s = s := by
  cases spells with
  | nil => rfl
  | blank _ => rfl
  | line first _ =>
    obtain ⟨⟨c, more, rfl, solid⟩, _⟩ := first
    unfold Toml.dropByteOrderMark
    split
    · next same =>
      cases same
      exact absurd rfl solid.2.2.2.2.2
    · rfl

/-- A document is the table that its lines fill. -/
theorem readDocument?_of_spells {text : String} {lines : List Line} (spells : Spells text.toList lines)
    {draft : Draft} (filled : Fills ⟨[], []⟩ lines draft) :
    readDocument? text = some (entriesToValues draft.entries) := by
  have read := spells.readLines? (Nat.lt_succ_of_le spells.length_le)
  rw [Fills] at filled
  simp [readDocument?, spells.dropByteOrderMark, read, filled]

end LinkSearch.Toml
