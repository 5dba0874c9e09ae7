import LinkSearch.Links.Search
import LinkSearch.Proofs.Sql.Conjunctions

/-!
# What a search does with a condition

The statement around a fragment that is read as a condition is read as the search for this
condition.  It is refused if the condition has too many levels.  Otherwise the names are replaced,
and the answer is the rows that satisfy the condition, from the greatest id to the least.
-/

namespace LinkSearch.Links

open LinkSearch.Sql Sql.Expression Sql.Reader

/-! ### The statement -/

theorem yields_selectHead (values : List Bound) (rest : List Char) :
    Yields ⟨0, values, selectHead.toList ++ rest⟩ headTokens ⟨68, values, rest⟩ := by
  apply yields_of_steps? 29
  simp only [selectHead, String.reduceToList, List.cons_append, List.nil_append]
  rfl

theorem yields_selectTail (offset : Nat) (bound : Bound) :
    Yields ⟨offset, [bound], selectTail.toList ++ ['?']⟩ (tailTokens ++ [.value bound])
      ⟨offset + 27, [], []⟩ := by
  apply yields_of_steps? 14
  simp only [selectTail, String.reduceToList, List.cons_append, List.nil_append]
  rfl

/-- The limit that a statement binds. -/
def boundLimit (limit : Nat) : Int := min (limit : Int) Table.greatestId

theorem tokens?_select {fragment : Fragment} {tokens : List Token} (limit : Nat)
    (lexes : fragment.Lexes 68 tokens) :
    (select fragment limit).tokens? =
      some (headTokens ++ (tokens ++ (tailTokens ++ [.value (.integer (boundLimit limit))]))) := by
  have before := yields_selectHead (fragment.params ++ [.integer (boundLimit limit)])
    (fragment.sql.toList ++ (selectTail.toList ++ ['?']))
  have between := lexes [.integer (boundLimit limit)] (selectTail.toList ++ ['?'])
    (by simp [selectTail, Apart])
  have whole := before.append (between.append (yields_selectTail _ _))
  have done : tokens? ⟨68 + fragment.sql.utf8ByteSize + 27, [], []⟩ = some [] := by
    rw [tokens?, Token.readAll?.eq_def]
    rfl
  unfold Yields at whole
  rw [done] at whole
  simpa [Fragment.tokens?, select, tokens?, boundLimit] using whole

theorem isPrefixOf?_append (first rest : List Token) :
    first.isPrefixOf? (first ++ rest) = some rest := by
  induction first with
  | nil => rfl
  | cons token first ih => simp [List.isPrefixOf?, ih]

theorem endsChain_tailTokens (rest : List Token) : EndsChain (tailTokens ++ rest) := by
  intro word first
  cases first
  rfl

theorem ofTokens?_select {condition : Expression Mention} {tokens : List Token} (limit : Int)
    (reads : ReadsChain condition tokens) :
    Selection.ofTokens? (headTokens ++ (tokens ++ (tailTokens ++ [.value (.integer limit)]))) =
      some ⟨condition, limit⟩ := by
  have read : Expression.read? (tokens ++ (tailTokens ++ [.value (.integer limit)])) =
      some (condition, tailTokens ++ [.value (.integer limit)]) := by
    apply reads _ _ (endsChain_tailTokens _)
    rw [List.length_append]
    omega
  simp [Selection.ofTokens?, isPrefixOf?_append, read]

/-- The statement around a condition is read as the search for it, if it has no fault. -/
theorem parse_select {fragment : Fragment} {condition : Expression Mention} {tokens : List Token}
    (limit : Nat) (lexes : fragment.Lexes 68 tokens) (reads : ReadsChain condition tokens) :
    Selection.parse (select fragment limit) =
      (conditionHeight condition).map fun _ => ⟨condition, boundLimit limit⟩ := by
  rw [Selection.parse, tokens?_select limit lexes, Option.bind_some, ofTokens?_select _ reads]
  dsimp only
  cases conditionHeight condition <;> rfl

/-! ### Levels -/

theorem mentionHeight_eq {mention : Mention} (short : mention.segments.length ≤ 3) :
    mentionHeight mention = .ok mention.segments.length := by
  unfold mentionHeight
  split
  · next parts =>
    simp only [parts, List.length_cons] at short
    omega
  · rfl

theorem operandHeight_eq {operand : Operand Mention}
    (short : ∀ mention ∈ operand.names, mention.segments.length ≤ 3) :
    operandHeight operand = .ok (operand.levels (·.segments.length)) := by
  induction operand with
  | name mention => exact mentionHeight_eq (short mention List.mem_cons_self)
  | constant => rfl
  | lower text ih =>
    rw [operandHeight, ih short]
    rfl
  | position text part ih_text ih_part =>
    rw [operandHeight, ih_text fun mention member => short mention (List.mem_append_left _ member),
      ih_part fun mention member => short mention (List.mem_append_right _ member)]
    rfl

/-- So many levels, if there may be so many. -/
def admitted (levels : Nat) : Except Fault Nat :=
  if levels ≤ greatestHeight then .ok levels else .error .tooHigh

theorem admitted_above (first second : Nat) :
    (do levelAbove (← admitted first) (← admitted second)) = admitted (max first second + 1) := by
  -- A part that has too many levels is refused before the whole is looked at.
  unfold admitted levelAbove
  by_cases low : first ≤ greatestHeight
  · by_cases low_second : second ≤ greatestHeight
    · rw [if_pos low, if_pos low_second]
      rfl
    · have high : ¬ max first second + 1 ≤ greatestHeight := by omega
      rw [if_pos low, if_neg low_second, if_neg high]
      rfl
  · have high : ¬ max first second + 1 ≤ greatestHeight := by omega
    rw [if_neg low, if_neg high]
    rfl

/-- Without names of more than three parts, too many levels are all that can be wrong. -/
theorem conditionHeight_eq {condition : Expression Mention}
    (short : ∀ mention ∈ condition.names, mention.segments.length ≤ 3) :
    conditionHeight condition = admitted (condition.levels (·.segments.length)) := by
  induction condition with
  | compare relation left right =>
    rw [conditionHeight,
      operandHeight_eq fun mention member => short mention (List.mem_append_left _ member),
      operandHeight_eq fun mention member => short mention (List.mem_append_right _ member)]
    rfl
  | and left right ih_left ih_right | or left right ih_left ih_right =>
    rw [conditionHeight,
      ih_left fun mention member => short mention (List.mem_append_left _ member),
      ih_right fun mention member => short mention (List.mem_append_right _ member)]
    exact admitted_above _ _

/-! ### The answer -/

/-- The link of a row whose flags are 0 or 1. -/
def Row.toLink (row : Row) : Link :=
  ⟨row.id, row.title, row.url, row.note, row.archive == .integer 1, row.favorite == .integer 1⟩

/-- The flags of the row are 0 or 1. -/
def Row.HasFlags (row : Row) : Prop :=
  (row.archive = .integer 0 ∨ row.archive = .integer 1) ∧
    (row.favorite = .integer 0 ∨ row.favorite = .integer 1)

theorem link_eq_ok {row : Row} (flags : row.HasFlags) : row.link = .ok row.toLink := by
  obtain ⟨archive | archive, favorite | favorite⟩ := flags
  all_goals
    rw [Row.link, Row.toLink, archive, favorite]
    rfl

theorem mapM_link_eq_ok {rows : List Row} (flags : ∀ row ∈ rows, row.HasFlags) :
    rows.mapM Row.link = .ok (rows.map Row.toLink) := by
  induction rows with
  | nil => rfl
  | cons row rows ih =>
    rw [List.mapM_cons, link_eq_ok (flags row List.mem_cons_self),
      ih fun other member => flags other (List.mem_cons_of_mem row member)]
    rfl

theorem perm_newestFirst (table : Table) : table.newestFirst.Perm table.rows :=
  List.mergeSort_perm _ _

theorem pairwise_newestFirst (table : Table) :
    table.newestFirst.Pairwise fun newer older => older.id < newer.id := by
  have sorted : table.newestFirst.Pairwise fun newer older => older.id ≤ newer.id := by
    have ordered : table.newestFirst.Pairwise fun newer older => decide (older.id ≤ newer.id) :=
      List.pairwise_mergeSort (by simp; omega) (by simp; omega) table.rows
    exact ordered.imp of_decide_eq_true
  have distinct : table.newestFirst.Pairwise fun newer older => newer.id ≠ older.id := by
    have ids : (table.newestFirst.map Row.id).Nodup :=
      ((perm_newestFirst table).map Row.id).nodup_iff.mpr table.ids_nodup
    exact List.pairwise_map.mp ids
  exact (sorted.and distinct).imp fun both => by omega

theorem length_le_of_ofMention {mention : Mention} {reference : Reference}
    (known : Reference.ofMention mention = .ok reference) : mention.segments.length ≤ 3 := by
  unfold Reference.ofMention at known
  split at known
  case h_4 => cases known
  all_goals
    next parts =>
      rw [parts]
      simp

/-- Reading, levels, names and rows together: what a search for a condition gives. -/
theorem search_eq {table : Table} {fragment : Fragment} {condition : Expression (List String)}
    {reference : List String → Reference} (limit : Nat) (chain : fragment.IsChain condition)
    (known : ∀ segments ∈ condition.names, ∀ offset,
      Reference.ofMention ⟨segments, offset⟩ = .ok (reference segments)) :
    (Store.links table).search fragment limit =
      if condition.levels List.length ≤ greatestHeight then
        table.answer ⟨condition.map reference, boundLimit limit⟩
      else .error (.statement .tooHigh) := by
  obtain ⟨tokens, read, lexes, reads, rfl⟩ := chain 68
  have resolved : ∀ mention ∈ read.names,
      Reference.ofMention mention = .ok (reference mention.segments) := by
    intro mention member
    apply known mention.segments
    rw [names_map]
    exact List.mem_map_of_mem member
  have short : ∀ mention ∈ read.names, mention.segments.length ≤ 3 :=
    fun mention member => length_le_of_ofMention (resolved mention member)
  have parsed : Selection.parse (select fragment limit) =
      (admitted (read.levels (·.segments.length))).map fun _ => ⟨read, boundLimit limit⟩ := by
    rw [parse_select limit lexes reads, conditionHeight_eq short]
  rw [levels_map, map_map, Store.search, Store.run, parsed, admitted]
  change _ = if read.levels (·.segments.length) ≤ greatestHeight then _ else _
  by_cases low : read.levels (·.segments.length) ≤ greatestHeight
  · have resolves : Selection.resolve ⟨read, boundLimit limit⟩ =
        .ok ⟨read.map fun mention => reference mention.segments, boundLimit limit⟩ := by
      rw [Selection.resolve, mapNames_eq_ok resolved]
      rfl
    rw [if_pos low, if_pos low]
    change ((Selection.resolve ⟨read, boundLimit limit⟩).mapError .statement >>= table.answer) = _
    rw [resolves]
    rfl
  · rw [if_neg low, if_neg low]
    rfl

end LinkSearch.Links
