import LinkSearch.Sql.ExpressionReader
import Mathlib.Data.List.Forall2

/-!
# Conditions under other names

The names in a condition may be replaced before it is evaluated, or the values of the new names may
be taken for the old ones.  The levels of a condition are counted in the same way, whatever its
names are.  A chain is what one connective makes of several conditions, put together from the left.
-/

namespace LinkSearch.Sql

variable {ν μ κ ε : Type}

theorem exists_of_bind_eq_ok {x : Except ε ν} {f : ν → Except ε μ} {b : μ}
    (done : (x >>= f) = .ok b) : ∃ a, x = .ok a ∧ f a = .ok b := by
  cases x with
  | error cause => cases done
  | ok a => exact ⟨a, rfl, done⟩

theorem exists_of_map_eq_ok {x : Except ε ν} {f : ν → μ} {b : μ} (done : f <$> x = .ok b) :
    ∃ a, x = .ok a ∧ f a = b := by
  cases x with
  | error cause => cases done
  | ok a => exact ⟨a, rfl, Except.ok.inj done⟩

namespace Operand

/-- The operand with every name replaced. -/
def map (f : ν → μ) : Operand ν → Operand μ
  | .name x => .name (f x)
  | .constant value => .constant value
  | .lower text => .lower (text.map f)
  | .position text part => .position (text.map f) (part.map f)

/-- The names in an operand, from left to right. -/
def names : Operand ν → List ν
  | .name x => [x]
  | .constant _ => []
  | .lower text => text.names
  | .position text part => text.names ++ part.names

/-- The levels of an operand, given those of the names. -/
def levels (size : ν → Nat) : Operand ν → Nat
  | .name x => size x
  | .constant _ => 1
  | .lower text => text.levels size + 1
  | .position text part => max (text.levels size) (part.levels size) + 1

theorem map_map (f : ν → μ) (g : μ → κ) (operand : Operand ν) :
    (operand.map f).map g = operand.map (g ∘ f) := by
  induction operand <;> simp_all [map]

theorem names_map (f : ν → μ) (operand : Operand ν) :
    (operand.map f).names = operand.names.map f := by
  induction operand <;> simp_all [map, names]

theorem levels_map (f : ν → μ) (size : μ → Nat) (operand : Operand ν) :
    (operand.map f).levels size = operand.levels (size ∘ f) := by
  induction operand <;> simp_all [map, levels]

theorem value_map (f : ν → μ) (values : μ → Value) (operand : Operand ν) :
    (operand.map f).value values = operand.value (values ∘ f) := by
  induction operand <;> simp_all [map, value]

theorem affinity_map (f : ν → μ) (affinities : μ → Affinity) (operand : Operand ν) :
    (operand.map f).affinity affinities = operand.affinity (affinities ∘ f) := by
  cases operand <;> rfl

theorem mapNames_eq_ok {f : ν → Except ε μ} {g : ν → μ} {operand : Operand ν}
    (known : ∀ x ∈ operand.names, f x = .ok (g x)) : operand.mapNames f = .ok (operand.map g) := by
  induction operand with
  | name x =>
    rw [mapNames, known x List.mem_cons_self]
    rfl
  | constant => rfl
  | lower text ih =>
    rw [mapNames, ih known]
    rfl
  | position text part ih_text ih_part =>
    rw [mapNames, ih_text fun x member => known x (List.mem_append_left _ member),
      ih_part fun x member => known x (List.mem_append_right _ member)]
    rfl

/-- The names of an operand can be replaced only if each of them can. -/
theorem exists_of_mapNames {f : ν → Except ε μ} {operand : Operand ν} {other : Operand μ}
    (done : operand.mapNames f = .ok other) : ∀ x ∈ operand.names, ∃ y, f x = .ok y := by
  induction operand generalizing other with
  | name x =>
    obtain ⟨y, found, _⟩ := exists_of_map_eq_ok done
    intro z member
    rw [List.mem_singleton.mp member]
    exact ⟨y, found⟩
  | constant => simp [names]
  | lower text ih =>
    obtain ⟨_, inner, _⟩ := exists_of_map_eq_ok done
    exact ih inner
  | position text part ih_text ih_part =>
    obtain ⟨_, first, done⟩ := exists_of_bind_eq_ok done
    obtain ⟨_, second, _⟩ := exists_of_bind_eq_ok done
    exact List.forall_mem_append.mpr ⟨ih_text first, ih_part second⟩

end Operand

namespace Expression

/-- The condition with every name replaced. -/
def map (f : ν → μ) : Expression ν → Expression μ
  | .compare relation left right => .compare relation (left.map f) (right.map f)
  | .and left right => .and (left.map f) (right.map f)
  | .or left right => .or (left.map f) (right.map f)

/-- The names in a condition, from left to right. -/
def names : Expression ν → List ν
  | .compare _ left right => left.names ++ right.names
  | .and left right | .or left right => left.names ++ right.names

/-- The levels of which a condition is built, given those of the names. -/
def levels (size : ν → Nat) : Expression ν → Nat
  | .compare _ left right => max (left.levels size) (right.levels size) + 1
  | .and left right | .or left right => max (left.levels size) (right.levels size) + 1

theorem map_map (f : ν → μ) (g : μ → κ) (condition : Expression ν) :
    (condition.map f).map g = condition.map (g ∘ f) := by
  induction condition <;> simp_all [map, Operand.map_map]

theorem names_map (f : ν → μ) (condition : Expression ν) :
    (condition.map f).names = condition.names.map f := by
  induction condition <;> simp_all [map, names, Operand.names_map]

theorem levels_map (f : ν → μ) (size : μ → Nat) (condition : Expression ν) :
    (condition.map f).levels size = condition.levels (size ∘ f) := by
  induction condition <;> simp_all [map, levels, Operand.levels_map]

theorem holds_map (f : ν → μ) (values : μ → Value) (affinities : μ → Affinity)
    (condition : Expression ν) :
    (condition.map f).holds values affinities =
      condition.holds (values ∘ f) (affinities ∘ f) := by
  induction condition with
  | compare relation left right =>
    simp only [map, holds, Operand.value_map, Operand.affinity_map]
  | and left right ih_left ih_right | or left right ih_left ih_right =>
    simp only [map, holds, ih_left, ih_right]

theorem mapNames_eq_ok {f : ν → Except ε μ} {g : ν → μ} {condition : Expression ν}
    (known : ∀ x ∈ condition.names, f x = .ok (g x)) :
    condition.mapNames f = .ok (condition.map g) := by
  induction condition with
  | compare relation left right =>
    rw [mapNames, Operand.mapNames_eq_ok fun x member => known x (List.mem_append_left _ member),
      Operand.mapNames_eq_ok fun x member => known x (List.mem_append_right _ member)]
    rfl
  | and left right ih_left ih_right | or left right ih_left ih_right =>
    rw [mapNames, ih_left fun x member => known x (List.mem_append_left _ member),
      ih_right fun x member => known x (List.mem_append_right _ member)]
    rfl

/-- The names of a condition can be replaced only if each of them can. -/
theorem exists_of_mapNames {f : ν → Except ε μ} {condition : Expression ν} {other : Expression μ}
    (done : condition.mapNames f = .ok other) : ∀ x ∈ condition.names, ∃ y, f x = .ok y := by
  induction condition generalizing other with
  | compare relation left right =>
    obtain ⟨_, first, done⟩ := exists_of_bind_eq_ok done
    obtain ⟨_, second, _⟩ := exists_of_bind_eq_ok done
    exact List.forall_mem_append.mpr
      ⟨Operand.exists_of_mapNames first, Operand.exists_of_mapNames second⟩
  | and left right ih_left ih_right | or left right ih_left ih_right =>
    obtain ⟨_, first, done⟩ := exists_of_bind_eq_ok done
    obtain ⟨_, second, _⟩ := exists_of_bind_eq_ok done
    exact List.forall_mem_append.mpr ⟨ih_left first, ih_right second⟩

end Expression

/-! ### Chains -/

/-- Two conditions with the connective between them. -/
def Connective.join : Connective → Expression ν → Expression ν → Expression ν
  | .and => .and
  | .or => .or

/-- A condition and further ones, joined from the left. -/
def chain (connective : Connective) (first : Expression ν) (rest : List (Expression ν)) :
    Expression ν :=
  rest.foldl connective.join first

/-- The levels of a chain, given those of its conditions. -/
def chainLevels : List Nat → Nat
  | [] => 0
  | first :: rest => rest.foldl (fun below next => max below next + 1) first

theorem map_chain (f : ν → μ) (connective : Connective) (first : Expression ν)
    (rest : List (Expression ν)) :
    (chain connective first rest).map f =
      chain connective (first.map f) (rest.map (Expression.map f)) := by
  induction rest generalizing first with
  | nil => rfl
  | cons next rest ih =>
    have joined : (connective.join first next).map f =
        connective.join (first.map f) (next.map f) := by
      cases connective <;> rfl
    have later := ih (connective.join first next)
    rw [joined] at later
    exact later

theorem levels_chain (size : ν → Nat) (connective : Connective) (first : Expression ν)
    (rest : List (Expression ν)) :
    (chain connective first rest).levels size =
      chainLevels ((first :: rest).map (Expression.levels size)) := by
  induction rest generalizing first with
  | nil => rfl
  | cons next rest ih =>
    have joined : (connective.join first next).levels size =
        max (first.levels size) (next.levels size) + 1 := by
      cases connective <;> rfl
    have later := ih (connective.join first next)
    rw [List.map_cons, joined] at later
    exact later

theorem mem_names_chain {connective : Connective} {first : Expression ν}
    {rest : List (Expression ν)} {x : ν} :
    x ∈ (chain connective first rest).names ↔ ∃ part ∈ first :: rest, x ∈ part.names := by
  induction rest generalizing first with
  | nil => simp [chain]
  | cons next rest ih =>
    have joined : x ∈ (connective.join first next).names ↔ x ∈ first.names ∨ x ∈ next.names := by
      cases connective <;> exact List.mem_append
    have later := @ih (connective.join first next)
    simp only [List.exists_mem_cons_iff, joined, or_assoc] at later ⊢
    exact later

theorem holds_chain_and (values : ν → Value) (affinities : ν → Affinity) (first : Expression ν)
    (rest : List (Expression ν)) :
    (chain .and first rest).holds values affinities = true ↔
      ∀ part ∈ first :: rest, part.holds values affinities = true := by
  induction rest generalizing first with
  | nil => simp [chain]
  | cons next rest ih =>
    have later := ih (first.and next)
    simp only [List.forall_mem_cons, Expression.holds, Bool.and_eq_true, and_assoc] at later ⊢
    exact later

theorem holds_chain_or (values : ν → Value) (affinities : ν → Affinity) (first : Expression ν)
    (rest : List (Expression ν)) :
    (chain .or first rest).holds values affinities = true ↔
      ∃ part ∈ first :: rest, part.holds values affinities = true := by
  induction rest generalizing first with
  | nil => simp [chain]
  | cons next rest ih =>
    have later := ih (first.or next)
    simp only [List.exists_mem_cons_iff, Expression.holds, Bool.or_eq_true, or_assoc] at later ⊢
    exact later

theorem chainLevels_cons_cons (first next : Nat) (rest : List Nat) :
    chainLevels (first :: next :: rest) = chainLevels ((max first next + 1) :: rest) := rfl

theorem le_chainLevels {heights : List Nat} {height : Nat} (member : height ∈ heights) :
    height ≤ chainLevels heights := by
  cases heights with
  | nil => cases member
  | cons first rest =>
    induction rest generalizing first height with
    | nil =>
      rw [List.mem_singleton.mp member]
      exact Nat.le_refl _
    | cons next rest ih =>
      rw [chainLevels_cons_cons]
      have head := ih (max first next + 1) List.mem_cons_self
      rcases List.mem_cons.mp member with rfl | later
      · omega
      · rcases List.mem_cons.mp later with rfl | later
        · omega
        · exact ih _ (List.mem_cons_of_mem _ later)

/-- Every condition of a chain but the first adds a level. -/
theorem length_le_chainLevels {heights : List Nat} (positive : ∀ height ∈ heights, 0 < height) :
    heights.length ≤ chainLevels heights := by
  cases heights with
  | nil => exact Nat.zero_le _
  | cons first rest =>
    have bound : first + rest.length ≤ chainLevels (first :: rest) := by
      clear positive
      induction rest generalizing first with
      | nil => exact Nat.le_refl _
      | cons next rest ih =>
        have later := ih (max first next + 1)
        rw [chainLevels_cons_cons, List.length_cons]
        omega
    have := positive first List.mem_cons_self
    simp only [List.length_cons]
    omega

theorem chainLevels_le {heights : List Nat} {most : Nat}
    (below : ∀ height ∈ heights, height ≤ most) :
    chainLevels heights ≤ most + (heights.length - 1) := by
  cases heights with
  | nil => exact Nat.zero_le _
  | cons first rest =>
    induction rest generalizing first most with
    | nil => simpa [chainLevels] using below
    | cons next rest ih =>
      have later := @ih (most + 1) (max first next + 1) (by
        simp only [List.forall_mem_cons] at below ⊢
        refine ⟨by omega, fun height member => ?_⟩
        have := below.2.2 height member
        omega)
      rw [chainLevels_cons_cons]
      simp only [List.length_cons] at later ⊢
      omega

/-! ### Tests of one column -/

/-- The test that a flag has a value. -/
def flagTest (x : ν) (value : Bool) : Expression ν :=
  .compare .equal (.name x) (.constant (Bound.ofBool value).value)

/-- The test that a text contains a value. -/
def textTest (x : ν) (value : String) : Expression ν :=
  .compare .different (.position (.lower (.name x)) (.lower (.constant (.text value))))
    (.constant (.integer 0))

theorem names_flagTest (x : ν) (value : Bool) : (flagTest x value).names = [x] := rfl

theorem names_textTest (x : ν) (value : String) : (textTest x value).names = [x] := rfl

/-- A part of the text is the value, but for the case of ASCII letters. -/
def ContainsUpToCase (text value : String) : Prop :=
  ∃ part, part <:+: text.toList ∧
    List.Forall₂ (fun c d => c.toLower = d.toLower) part value.toList

theorem lowerAscii_infix_iff {value text : List Char} :
    Text.lowerAscii value <:+: Text.lowerAscii text ↔
      ∃ part, part <:+: text ∧ List.Forall₂ (fun c d => c.toLower = d.toLower) part value := by
  have same (part : List Char) : Text.lowerAscii part = Text.lowerAscii value ↔
      List.Forall₂ (fun c d => c.toLower = d.toLower) part value := by
    rw [Text.lowerAscii, Text.lowerAscii, ← List.forall₂_eq_eq_eq, List.forall₂_map_left_iff,
      List.forall₂_map_right_iff]
  constructor
  · rintro ⟨before, after, whole⟩
    obtain ⟨most, last, rfl, lower_most, rfl⟩ := List.map_eq_append_iff.mp whole.symm
    obtain ⟨first, part, rfl, rfl, lower_part⟩ := List.map_eq_append_iff.mp lower_most
    exact ⟨part, ⟨first, last, rfl⟩, (same part).mp lower_part⟩
  · rintro ⟨part, infix_text, alike⟩
    rw [← (same part).mpr alike]
    exact infix_text.map Char.toLower

theorem holds_flagTest {values : ν → Value} {affinities : ν → Affinity} {x : ν} {n : Int}
    (flag : Bool) (stored : values x = .integer n) (numeric : affinities x = .numeric) :
    (flagTest x flag).holds values affinities = true ↔ n = if flag then 1 else 0 := by
  simp [flagTest, Expression.holds, Operand.value, Operand.affinity, Affinity.meet, Value.prefer,
    Relation.holds, Value.compare, Value.ratio?, Bound.value, Bound.ofBool, stored, numeric]

/-- A test for a value looks at the text of what is stored, be it a text or a number. -/
theorem holds_textTest_iff {values : ν → Value} {affinities : ν → Affinity} {x : ν}
    (value : String) :
    (textTest x value).holds values affinities = true ↔
      ContainsUpToCase (values x).shown value := by
  have shown (s : String) : (Value.text s).shown = s := rfl
  rw [ContainsUpToCase, ← lowerAscii_infix_iff, ← Text.isSome_occurrence?_iff]
  cases found : Text.occurrence? (Text.lowerAscii value.toList)
      (Text.lowerAscii (values x).shown.toList) with
  | none =>
    simp [textTest, Expression.holds, Operand.value, shown, found, Value.prefer,
      Operand.affinity, Affinity.meet, Value.compare, Value.ratio?, Relation.holds]
  | some before =>
    have later : (before : Int) + 1 ≠ 0 := by omega
    simp [textTest, Expression.holds, Operand.value, shown, found, Value.prefer,
      Operand.affinity, Affinity.meet, Value.compare, Value.ratio?, Relation.holds, later]

theorem holds_textTest {values : ν → Value} {affinities : ν → Affinity} {x : ν} {text : String}
    (value : String) (stored : values x = .text text) :
    (textTest x value).holds values affinities = true ↔ ContainsUpToCase text value := by
  rw [holds_textTest_iff, stored, Value.shown]

end LinkSearch.Sql
