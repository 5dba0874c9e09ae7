import LinkSearch.Proofs.Sql.Embedding

/-!
# Conditions next to each other

Outside its brackets a condition is a chain of parts with connectives between them, and AND binds
more tightly than OR.  Conditions that are written one after the other, with a connective between
each two, are read as one chain of all their parts: without brackets nothing keeps the parts of one
together.  So AND between conditions means that all of them hold if none has an OR outside brackets.
If one has, then the whole holds at least where all of them do.
-/

namespace LinkSearch.Sql

open Expression Reader

variable {ν μ : Type}

/-- The parts of a condition outside brackets: the first, and each other one with what joins it. -/
structure Parts (ν : Type) where
  first : Expression ν
  links : List (Connective × Expression ν)

namespace Parts

/-- The condition that the parts make. -/
def condition (parts : Parts ν) : Expression ν := assemble none parts.first parts.links

def map (f : ν → μ) (parts : Parts ν) : Parts μ := ⟨parts.first.map f, mapLinks f parts.links⟩

/-- One part alone. -/
def single (condition : Expression ν) : Parts ν := ⟨condition, []⟩

/-- All parts of two conditions, with a connective between them. -/
def append (connective : Connective) (one other : Parts ν) : Parts ν :=
  ⟨one.first, one.links ++ (connective, other.first) :: other.links⟩

/-- All parts of some conditions, with a connective between each two of them. -/
def join (connective : Connective) (first : Parts ν) : List (Parts ν) → Parts ν
  | [] => first
  | next :: others => first.append connective (join connective next others)

/-- Some part is joined by OR. -/
def HasOr (parts : Parts ν) : Prop := ∃ next, (.or, next) ∈ parts.links

theorem condition_map (f : ν → μ) (parts : Parts ν) :
    (parts.map f).condition = parts.condition.map f :=
  (map_assemble f none parts.first parts.links).symm

theorem map_map {κ : Type} (f : ν → μ) (g : μ → κ) (parts : Parts ν) :
    (parts.map f).map g = parts.map (g ∘ f) := by
  simp [map, mapLinks, Expression.map_map]

theorem map_append (f : ν → μ) (connective : Connective) (one other : Parts ν) :
    (one.append connective other).map f = (one.map f).append connective (other.map f) := by
  simp [append, map, mapLinks]

/-! ### Where a chain holds -/

/--
Whether a chain holds, of which `now` says whether what stands before these links holds since the
last OR.
-/
def HoldsFrom (values : ν → Value) (affinities : ν → Affinity) (now : Prop) :
    List (Connective × Expression ν) → Prop
  | [] => now
  | (.and, next) :: rest =>
    HoldsFrom values affinities (now ∧ next.holds values affinities = true) rest
  | (.or, next) :: rest =>
    now ∨ HoldsFrom values affinities (next.holds values affinities = true) rest

/-- Whether the parts hold together, AND binding more tightly than OR. -/
def Holds (values : ν → Value) (affinities : ν → Affinity) (parts : Parts ν) : Prop :=
  HoldsFrom values affinities (parts.first.holds values affinities = true) parts.links

variable {values : ν → Value} {affinities : ν → Affinity}

theorem holds_assemble_iff {done : Option (Expression ν)} {last : Expression ν}
    {links : List (Connective × Expression ν)} :
    (assemble done last links).holds values affinities = true ↔
      (∃ before ∈ done, before.holds values affinities = true) ∨
        HoldsFrom values affinities (last.holds values affinities = true) links := by
  fun_induction assemble done last links with
  | case1 done last => cases done <;> simp [HoldsFrom, Expression.holds]
  | case2 done last next rest ih => simp [ih, HoldsFrom, Expression.holds]
  | case3 done last next rest ih =>
    rw [ih]
    cases done <;> simp [HoldsFrom, Expression.holds, or_assoc]

theorem holds_condition_iff {parts : Parts ν} :
    parts.condition.holds values affinities = true ↔ parts.Holds values affinities := by
  rw [condition, holds_assemble_iff]
  simp [Holds]

theorem holds_single_iff {condition : Expression ν} :
    (single condition).Holds values affinities ↔ condition.holds values affinities = true :=
  Iff.rfl

theorem not_hasOr_single (condition : Expression ν) : ¬ (single condition).HasOr := by
  simp [HasOr, single]

/-- Without OR all parts must hold. -/
theorem holdsFrom_iff_of_not_or {now : Prop} {links : List (Connective × Expression ν)}
    (plain : ∀ next, (.or, next) ∉ links) :
    HoldsFrom values affinities now links ↔
      now ∧ ∀ link ∈ links, link.2.holds values affinities = true := by
  induction links generalizing now with
  | nil => simp [HoldsFrom]
  | cons link rest ih =>
    obtain ⟨_ | _, next⟩ := link
    · have later := @ih (now ∧ next.holds values affinities = true) fun other member =>
        plain other (List.mem_cons_of_mem _ member)
      simp [HoldsFrom, later, and_assoc]
    · exact absurd List.mem_cons_self (plain next)

theorem holdsFrom_append {now : Prop} {before after : List (Connective × Expression ν)}
    {next : Expression ν} (here : HoldsFrom values affinities now before)
    (there : HoldsFrom values affinities (next.holds values affinities = true) after) :
    HoldsFrom values affinities now (before ++ (.and, next) :: after) := by
  induction before generalizing now with
  | nil => simpa [HoldsFrom, show now from here] using there
  | cons link rest ih =>
    obtain ⟨_ | _, other⟩ := link
    · exact ih here
    · exact here.imp id ih

/-- Where two conditions hold, the two with AND between them hold, bracketed or not. -/
theorem Holds.append {one other : Parts ν} (here : one.Holds values affinities)
    (there : other.Holds values affinities) : (one.append .and other).Holds values affinities :=
  holdsFrom_append here there

theorem Holds.join {first : Parts ν} {others : List (Parts ν)}
    (each : ∀ parts ∈ first :: others, parts.Holds values affinities) :
    (Parts.join .and first others).Holds values affinities := by
  induction others generalizing first with
  | nil => exact each first List.mem_cons_self
  | cons next others ih =>
    rw [List.forall_mem_cons] at each
    exact each.1.append (ih each.2)

theorem not_hasOr_append {one other : Parts ν} (here : ¬ one.HasOr) (there : ¬ other.HasOr) :
    ¬ (one.append .and other).HasOr := by
  rintro ⟨next, member⟩
  rcases List.mem_append.mp member with inside | behind
  · exact here ⟨next, inside⟩
  · rcases List.mem_cons.mp behind with between | behind
    · cases between
    · exact there ⟨next, behind⟩

theorem not_hasOr_join {first : Parts ν} {others : List (Parts ν)}
    (each : ∀ parts ∈ first :: others, ¬ parts.HasOr) : ¬ (Parts.join .and first others).HasOr := by
  induction others generalizing first with
  | nil => exact each first List.mem_cons_self
  | cons next others ih =>
    rw [List.forall_mem_cons] at each
    exact not_hasOr_append each.1 (ih each.2)

/-- AND between two conditions without OR outside brackets means that both hold. -/
theorem holds_append_iff {one other : Parts ν} (here : ¬ one.HasOr) (there : ¬ other.HasOr) :
    (one.append .and other).Holds values affinities ↔
      one.Holds values affinities ∧ other.Holds values affinities := by
  have plain (parts : Parts ν) (no_or : ¬ parts.HasOr) : ∀ next, (.or, next) ∉ parts.links :=
    fun next member => no_or ⟨next, member⟩
  rw [Holds, Holds, Holds, holdsFrom_iff_of_not_or (plain _ (not_hasOr_append here there)),
    holdsFrom_iff_of_not_or (plain _ here), holdsFrom_iff_of_not_or (plain _ there)]
  simp only [append, List.forall_mem_append, List.forall_mem_cons, and_assoc]

theorem holds_join_iff {first : Parts ν} {others : List (Parts ν)}
    (each : ∀ parts ∈ first :: others, ¬ parts.HasOr) :
    (Parts.join .and first others).Holds values affinities ↔
      ∀ parts ∈ first :: others, parts.Holds values affinities := by
  induction others generalizing first with
  | nil => simp [Parts.join]
  | cons next others ih =>
    rw [List.forall_mem_cons] at each
    rw [Parts.join, holds_append_iff each.1 (not_hasOr_join each.2), ih each.2,
      List.forall_mem_cons (a := first)]

end Parts

/-! ### Fragments -/

/-- The parts of a fragment that is one whole condition, its names without their places. -/
def Fragment.parts? (fragment : Fragment) : Option (Parts (List String)) := do
  let tokens ← fragment.tokens?
  let (first, rest) ← readAtom? (3 * tokens.length + 2) tokens
  let (links, rest) ← readLinks? (3 * tokens.length + 2) rest
  if rest.isEmpty then some ((Parts.mk first links).map Mention.segments) else none

/-- What a fragment says that is one whole condition, its names without their places. -/
def Fragment.condition? (fragment : Fragment) : Option (Expression (List String)) := do
  let tokens ← fragment.tokens?
  let (condition, rest) ← Expression.read? tokens
  if rest.isEmpty then some (condition.map Mention.segments) else none

/-- The fragment is one whole condition with an OR outside its brackets. -/
def Fragment.HasOuterOr (fragment : Fragment) : Prop :=
  ∃ parts, fragment.parts? = some parts ∧ parts.HasOr

/-- What a whole condition says is what its parts make. -/
theorem Fragment.condition?_eq (fragment : Fragment) :
    fragment.condition? = fragment.parts?.map Parts.condition := by
  rw [condition?, parts?]
  cases fragment.tokens? with
  | none => rfl
  | some tokens =>
    simp only [Option.bind_eq_bind, Option.bind_some, Expression.read?, readChain?]
    cases readAtom? (3 * tokens.length + 2) tokens with
    | none => rfl
    | some atom =>
      obtain ⟨first, rest⟩ := atom
      simp only [Option.bind_some]
      cases readLinks? (3 * tokens.length + 2) rest with
      | none => rfl
      | some found =>
        obtain ⟨links, rest⟩ := found
        cases rest with
        | nil => exact congrArg some (Parts.condition_map Mention.segments ⟨first, links⟩).symm
        | cons => simp

/-- Two fragments with a connective between them are read as the tokens of both. -/
theorem Fragment.Lexes.separated {one other : Fragment} {offset : Nat} {before after : List Token}
    (connective : Connective) (here : one.Lexes offset before)
    (there : other.Lexes
      (offset + one.sql.utf8ByteSize + connective.separator.utf8ByteSize) after) :
    (one ++ .raw connective.separator ++ other).Lexes offset
      (before ++ .word connective.word :: after) := by
  intro values rest apart
  have first := here (other.params ++ values)
    (connective.separator.toList ++ (other.sql.toList ++ rest))
    (by cases connective <;> simp [Connective.separator, Apart])
  have whole := (first.append (yields_separator connective _ _ _)).append (there values rest apart)
  simpa [Nat.add_assoc] using whole

/-- These tokens are read as the parts: an atom, and then the links. -/
def ReadsParts (parts : Parts Mention) (tokens : List Token) : Prop :=
  ∃ used more, tokens = used ++ more ∧ ReadsAtom parts.first used ∧ ReadsLinks parts.links more

theorem ReadsParts.append {one other : Parts Mention} {before after : List Token}
    (here : ReadsParts one before) (connective : Connective) (there : ReadsParts other after) :
    ReadsParts (one.append connective other) (before ++ .word connective.word :: after) := by
  obtain ⟨used, more, rfl, first, links⟩ := here
  obtain ⟨used_there, more_there, rfl, first_there, links_there⟩ := there
  refine ⟨used, more ++ .word connective.word :: (used_there ++ more_there), by simp, first, ?_⟩
  exact links.append (.cons connective.ofWord?_word first_there links_there)

/-- Wherever it stands, the fragment is read as a condition of these parts. -/
def Fragment.Consists (fragment : Fragment) (parts : Parts (List String)) : Prop :=
  ∀ offset, ∃ tokens read, fragment.Lexes offset tokens ∧ ReadsParts read tokens ∧
    read.map Mention.segments = parts

theorem Fragment.IsAtom.consists {fragment : Fragment} {condition : Expression (List String)}
    (atom : fragment.IsAtom condition) : fragment.Consists (.single condition) := by
  intro offset
  obtain ⟨tokens, read, lexes, reads, same⟩ := atom offset
  refine ⟨tokens, .single read, lexes, ⟨tokens, [], by simp, reads, .nil⟩, ?_⟩
  rw [← same]
  rfl

/-- A fragment by itself is read as it is at the start of a statement. -/
theorem Fragment.Lexes.tokens?_eq {fragment : Fragment} {tokens : List Token}
    (lexes : fragment.Lexes 0 tokens) : fragment.tokens? = some tokens := by
  have yields := lexes [] [] (by simp [Apart])
  have done (offset : Nat) : Reader.tokens? ⟨offset, [], []⟩ = some [] := by
    rw [Reader.tokens?, Token.readAll?.eq_def]
    rfl
  unfold Yields at yields
  rw [done] at yields
  simpa [tokens?, Reader.tokens?] using yields

/-- Read by itself or wherever it stands, a whole condition has the same parts. -/
theorem Fragment.parts?_eq_some_iff {fragment : Fragment} {parts : Parts (List String)} :
    fragment.parts? = some parts ↔ fragment.Consists parts := by
  constructor
  · intro found offset
    obtain ⟨tokens, lexed, found⟩ := Option.bind_eq_some_iff.mp found
    obtain ⟨⟨first, rest⟩, read_first, found⟩ := Option.bind_eq_some_iff.mp found
    obtain ⟨⟨links, left⟩, read_links, found⟩ := Option.bind_eq_some_iff.mp found
    dsimp only at found
    split at found
    · next done =>
      rw [List.isEmpty_iff] at done
      subst done
      cases found
      obtain ⟨used, rfl, reads_first⟩ := (readsAnywhere _).atom read_first
      obtain ⟨more, rfl, reads_links⟩ := (readsAnywhere _).links read_links
      refine ⟨_, Parts.map (Mention.later offset) ⟨first, links⟩, lexes_of_tokens? lexed offset,
        ⟨used.map _, more.map _, by simp, reads_first _, reads_links _⟩, ?_⟩
      exact Parts.map_map (Mention.later offset) Mention.segments ⟨first, links⟩
    · cases found
  · intro consists
    obtain ⟨_, read, lexes, ⟨used, more, rfl, first, links⟩, rfl⟩ := consists 0
    have lexed := lexes.tokens?_eq
    have ends : EndsChain [] := by simp [EndsChain]
    have read_first := first (3 * (used ++ more).length + 2) more (by simp; omega)
    have read_links : readLinks? (3 * (used ++ more).length + 2) (more ++ []) = _ :=
      links.readLinks?_eq ends (by simp; omega)
    rw [List.append_nil] at read_links
    rw [parts?, lexed]
    simp only [Option.bind_eq_bind, Option.bind_some, read_first, read_links]
    rfl

theorem Fragment.Consists.condition?_eq_some {fragment : Fragment} {parts : Parts (List String)}
    (consists : fragment.Consists parts) : fragment.condition? = some parts.condition := by
  rw [Fragment.condition?_eq, Fragment.parts?_eq_some_iff.mpr consists]
  rfl

theorem ReadsParts.readsChain {parts : Parts Mention} {tokens : List Token}
    (reads : ReadsParts parts tokens) : ReadsChain parts.condition tokens := by
  obtain ⟨used, more, rfl, first, links⟩ := reads
  intro fuel rest ends enough
  rw [List.length_append] at enough
  cases fuel with
  | zero => omega
  | succ fuel =>
    have read_first := first fuel (more ++ rest) (by omega)
    have read_links : readLinks? fuel (more ++ rest) = some (parts.links, rest) :=
      links.readLinks?_eq ends (by omega)
    rw [List.append_assoc, readChain?, read_first]
    simp only [Option.bind_eq_bind, Option.bind_some, read_links]
    rfl

/-- Read by itself or wherever it stands, a whole condition says the same. -/
theorem Fragment.condition?_eq_some_iff {fragment : Fragment}
    {condition : Expression (List String)} :
    fragment.condition? = some condition ↔ fragment.IsChain condition := by
  constructor
  · intro said offset
    rw [Fragment.condition?_eq] at said
    obtain ⟨parts, found, rfl⟩ := Option.map_eq_some_iff.mp said
    obtain ⟨tokens, read, lexes, reads, rfl⟩ := Fragment.parts?_eq_some_iff.mp found offset
    exact ⟨tokens, read.condition, lexes, reads.readsChain, (Parts.condition_map _ read).symm⟩
  · intro chain
    obtain ⟨tokens, read, lexes, reads, rfl⟩ := chain 0
    have whole : Expression.read? (tokens ++ []) = some (read, []) :=
      reads _ [] (by simp [EndsChain]) (by simp)
    rw [List.append_nil] at whole
    rw [Fragment.condition?, lexes.tokens?_eq]
    simp [whole]

/-- One comparison or bracket has no OR outside brackets. -/
theorem Fragment.IsAtom.not_hasOuterOr {fragment : Fragment} {condition : Expression (List String)}
    (atom : fragment.IsAtom condition) : ¬ fragment.HasOuterOr := by
  rintro ⟨parts, found, has_or⟩
  cases (Fragment.parts?_eq_some_iff.mpr atom.consists).symm.trans found
  exact Parts.not_hasOr_single condition has_or

/-- Conditions with a connective between them are read as one chain of all their parts. -/
theorem consists_join (connective : Connective) {fragment : Fragment} {fragments : List Fragment}
    {first : Parts (List String)} {others : List (Parts (List String))}
    (here : fragment.Consists first) (each : List.Forall₂ Fragment.Consists fragments others) :
    (Fragment.join connective.separator (fragment :: fragments)).Consists
      (Parts.join connective first others) := by
  induction each generalizing fragment first with
  | nil => exact here
  | @cons next parts fragments others there _ ih =>
    intro offset
    have joined : Fragment.join connective.separator (fragment :: next :: fragments) = fragment ++
        .raw connective.separator ++ Fragment.join connective.separator (next :: fragments) := rfl
    obtain ⟨tokens, read, lexes, reads, same⟩ := here offset
    obtain ⟨later, read_later, lexes_later, reads_later, same_later⟩ :=
      ih there (offset + fragment.sql.utf8ByteSize + connective.separator.utf8ByteSize)
    refine ⟨tokens ++ .word connective.word :: later, read.append connective read_later, ?_,
      reads.append connective reads_later, ?_⟩
    · rw [joined]
      exact lexes.separated connective lexes_later
    · rw [Parts.map_append, same, same_later]
      rfl

end LinkSearch.Sql
