import Mathlib.Data.List.Forall2
import Mathlib.Data.List.Nodup

/-!
# Lists read item by item

The first item of a list that has a property, and lists that correspond item by item.  Reading every
item of a list gives such a correspondence, or the failure of the first item that cannot be read.
Items with distinct keys have one order only in which their keys ascend.
-/

namespace LinkSearch

variable {α β ε : Type}

theorem exists_mem_of_forall₂ {R : α → β → Prop} {first : List α} {second : List β}
    (each : List.Forall₂ R first second) {b : β} (member : b ∈ second) : ∃ a ∈ first, R a b := by
  induction each with
  | nil => cases member
  | cons here _ ih =>
    rcases List.mem_cons.mp member with rfl | later
    · exact ⟨_, List.mem_cons_self, here⟩
    · obtain ⟨a, present, related⟩ := ih later
      exact ⟨a, List.mem_cons_of_mem _ present, related⟩

theorem forall_mem_iff_of_forall₂ {p : α → Prop} {q : β → Prop} {first : List α} {second : List β}
    (each : List.Forall₂ (fun a b => p a ↔ q b) first second) :
    (∀ a ∈ first, p a) ↔ ∀ b ∈ second, q b := by
  induction each with
  | nil => simp
  | cons here _ ih => rw [List.forall_mem_cons, List.forall_mem_cons, here, ih]

/-- Where two lists meet, an item of the whole is in the first of them or in the second. -/
theorem append_eq_append_cons {first second before after : List α} {a : α}
    (same : first ++ second = before ++ a :: after) :
    (∃ more, first = before ++ a :: more) ∨
      ∃ more, before = first ++ more ∧ second = more ++ a :: after := by
  rcases List.append_eq_append_iff.mp same with ⟨more, rfl, rest⟩ | ⟨more, rfl, rest⟩
  · exact .inr ⟨more, rfl, rest⟩
  · cases more with
    | nil => exact .inr ⟨[], by simp, by simpa using rest.symm⟩
    | cons b more =>
      cases rest
      exact .inl ⟨more, rfl⟩

/-- Of two different items one stands before the other. -/
theorem eq_or_rel_of_pairwise {R : α → α → Prop} {items : List α} (order : items.Pairwise R)
    {a b : α} (first : a ∈ items) (second : b ∈ items) : a = b ∨ R a b ∨ R b a := by
  induction order with
  | nil => cases first
  | cons ahead _ ih =>
    rcases List.mem_cons.mp first with rfl | first_later
    · rcases List.mem_cons.mp second with rfl | second_later
      · exact .inl rfl
      · exact .inr (.inl (ahead b second_later))
    · rcases List.mem_cons.mp second with rfl | second_later
      · exact .inr (.inr (ahead a first_later))
      · exact ih first_later second_later

/-- An item with a property, in a list where no item before it has that property. -/
def IsFirst (p : α → Prop) (x : α) (items : List α) : Prop :=
  ∃ before after, items = before ++ x :: after ∧ (∀ y ∈ before, ¬ p y) ∧ p x

theorem isFirst_cons {p : α → Prop} {x y : α} {items : List α} :
    IsFirst p x (y :: items) ↔ (p y ∧ x = y) ∨ (¬ p y ∧ IsFirst p x items) := by
  constructor
  · rintro ⟨before, after, parts, sound, found⟩
    cases before with
    | nil =>
      obtain ⟨rfl, _⟩ := List.cons.inj parts
      exact .inl ⟨found, rfl⟩
    | cons z before =>
      obtain ⟨rfl, rest⟩ := List.cons.inj parts
      exact .inr ⟨sound y List.mem_cons_self, before, after, rest,
        fun z member => sound z (List.mem_cons_of_mem y member), found⟩
  · rintro (⟨found, rfl⟩ | ⟨sound, before, after, rfl, others, found⟩)
    · exact ⟨[], items, rfl, by simp, found⟩
    · exact ⟨y :: before, after, rfl, List.forall_mem_cons.mpr ⟨sound, others⟩, found⟩

theorem IsFirst.mem {p : α → Prop} {x : α} {items : List α} (first : IsFirst p x items) :
    x ∈ items ∧ p x := by
  obtain ⟨before, after, rfl, _, found⟩ := first
  exact ⟨by simp, found⟩

variable {f : α → Except ε β}

theorem mapM_eq_ok_iff {items : List α} {results : List β} :
    items.mapM f = .ok results ↔ List.Forall₂ (fun x y => f x = .ok y) items results := by
  induction items generalizing results with
  | nil => cases results <;> simp [pure, Except.pure]
  | cons x items ih =>
    rw [List.mapM_cons]
    cases head : f x with
    | error error => cases results <;> simp [bind, Except.bind, head]
    | ok y =>
      cases tail : items.mapM f with
      | error error => cases results <;> simp [bind, Except.bind, head, ← ih, tail]
      | ok ys => cases results <;> simp [bind, Except.bind, pure, Except.pure, head, ← ih, tail]

/-- Where an item with a fault fails with that fault, the first of them ends the whole. -/
theorem mapM_eq_error_iff {p : α → Prop} {fault : α → ε}
    (fails : ∀ x error, f x = .error error ↔ p x ∧ error = fault x) {items : List α} {error : ε} :
    items.mapM f = .error error ↔ ∃ x, IsFirst p x items ∧ error = fault x := by
  induction items with
  | nil => simp [IsFirst, pure, Except.pure]
  | cons x items ih =>
    rw [List.mapM_cons]
    simp only [isFirst_cons]
    cases head : f x with
    | error first =>
      obtain ⟨faulty, rfl⟩ := (fails x first).mp head
      simp [bind, Except.bind, faulty, eq_comm]
    | ok y =>
      have sound : ¬ p x := by
        intro faulty
        have refused := (fails x _).mpr ⟨faulty, rfl⟩
        rw [head] at refused
        cases refused
      have further : (Except.ok y >>= fun y => items.mapM f >>= fun ys => pure (y :: ys)) =
          Except.error error ↔ items.mapM f = .error error := by
        cases tail : items.mapM f with
        | error fault => simp [bind, Except.bind]
        | ok ys => simp [bind, Except.bind, pure, Except.pure]
      rw [further, ih]
      simp [sound]

/-- Without a fault all items are read. -/
theorem forall_not_of_mapM_eq_ok {p : α → Prop} {fault : α → ε}
    (fails : ∀ x error, f x = .error error ↔ p x ∧ error = fault x) {items : List α}
    {results : List β} (read : items.mapM f = .ok results) : ∀ x ∈ items, ¬ p x := by
  intro x member faulty
  obtain ⟨y, _, found⟩ := exists_mem_of_forall₂ (mapM_eq_ok_iff.mp read).flip member
  rw [(fails x _).mpr ⟨faulty, rfl⟩] at found
  cases found

/-- Sorting by keys gives the one arrangement in which the keys ascend. -/
theorem mergeSort_keys_eq {entries sorted : List (String × α)} (perm : entries.Perm sorted)
    (ascending : (sorted.map Prod.fst).Pairwise (· < ·)) :
    entries.mergeSort (fun a b => !(b.1 < a.1)) = sorted := by
  have le_iff (a b : String × α) : (!(b.1 < a.1)) = true ↔ a.1 ≤ b.1 := by
    rw [Bool.not_eq_true', decide_eq_false_iff_not, String.not_lt]
  have arranged : (entries.mergeSort fun a b => !(b.1 < a.1)).Pairwise fun a b => a.1 ≤ b.1 := by
    simp only [← le_iff]
    apply List.pairwise_mergeSort
    · intro a b c
      simp only [le_iff]
      exact String.le_trans
    · intro a b
      rw [Bool.or_eq_true, le_iff, le_iff]
      exact String.le_total a.1 b.1
  have given : sorted.Pairwise fun a b => a.1 ≤ b.1 :=
    (List.pairwise_map.mp ascending).imp fun less => String.not_lt.mp (String.lt_asymm less)
  have distinct : (sorted.map Prod.fst).Nodup := ascending.imp fun less => String.ne_of_lt less
  have same_items := (entries.mergeSort_perm fun a b => !(b.1 < a.1)).trans perm
  refine List.Perm.eq_of_pairwise ?_ arranged given same_items
  intro a b here there below above
  exact List.inj_on_of_nodup_map distinct (same_items.mem_iff.mp here) there
    (String.le_antisymm below above)

end LinkSearch
