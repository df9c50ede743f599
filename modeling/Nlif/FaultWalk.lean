import Mathlib.Data.List.Basic
import Mathlib.Tactic.Common

/-!
Early-exit list walks whose visitor may fault. The walk stops at the first
element that faults or answers; every result about it is phrased through the
elements that precede that one. Nothing here fixes what is visited.
-/

namespace Nlif.FaultWalk

set_option autoImplicit false

section Peel

universe u

variable {Fault : Type*} {Value Other : Type u}

theorem bind_ok_iff (first : Except Fault Value) (next : Value → Except Fault Other)
    (result : Other) :
    (first >>= next) = .ok result ↔ ∃ value, first = .ok value ∧ next value = .ok result := by
  cases first <;> simp [bind, Except.bind]

theorem map_ok_iff (first : Except Fault Value) (f : Value → Other) (result : Other) :
    f <$> first = .ok result ↔ ∃ value, first = .ok value ∧ f value = result := by
  cases first <;> simp [Functor.map, Except.map]

@[simp] theorem ok_bind (value : Value) (next : Value → Except Fault Other) :
    ((.ok value : Except Fault Value) >>= next) = next value := rfl

@[simp] theorem error_bind (fault : Fault) (next : Value → Except Fault Other) :
    ((.error fault : Except Fault Value) >>= next) = .error fault := rfl

@[simp] theorem map_ok (f : Value → Other) (value : Value) :
    f <$> (.ok value : Except Fault Value) = .ok (f value) := rfl

@[simp] theorem map_error (f : Value → Other) (fault : Fault) :
    f <$> (.error fault : Except Fault Value) = .error fault := rfl

def Avoids (bad : Fault → Prop) (result : Except Fault Value) : Prop :=
  ∀ fault, result = .error fault → ¬ bad fault

variable {bad : Fault → Prop}

theorem avoids_ok (value : Value) : Avoids bad (.ok value : Except Fault Value) :=
  fun _ failed => nomatch failed

theorem avoids_error {fault : Fault} (other : ¬ bad fault) :
    Avoids bad (.error fault : Except Fault Value) := by
  intro ended same
  cases same
  exact other

theorem avoids_if {condition : Prop} [Decidable condition] {first second : Except Fault Value}
    (yes : condition → Avoids bad first) (no : ¬ condition → Avoids bad second) :
    Avoids bad (if condition then first else second) := by
  by_cases holds : condition
  · rw [if_pos holds]
    exact yes holds
  · rw [if_neg holds]
    exact no holds

theorem Avoids.bind {first : Except Fault Value} {next : Value → Except Fault Other}
    (avoids : Avoids bad first) (after : ∀ value, first = .ok value → Avoids bad (next value)) :
    Avoids bad (first >>= next) := by
  cases first with
  | error fault =>
      intro ended failed
      cases failed
      exact avoids fault rfl
  | ok value => exact after value rfl

theorem Avoids.map {first : Except Fault Value} (avoids : Avoids bad first) (f : Value → Other) :
    Avoids bad (f <$> first) := by
  cases first with
  | error fault =>
      intro ended failed
      cases failed
      exact avoids fault rfl
  | ok value => exact avoids_ok _

end Peel

variable {Fault Item : Type*} {Found : Type}

/-- The loop `foreach (item) { if (visit(item)) return ...; } return none;`. -/
def firstHit (visit : Item → Except Fault (Option Found)) :
    List Item → Except Fault (Option Found)
  | [] => .ok none
  | item :: rest =>
      match visit item with
      | .error fault => .error fault
      | .ok (some found) => .ok (some found)
      | .ok none => firstHit visit rest

def Stops (visit : Item → Except Fault (Option Found)) (item : Item) : Prop :=
  visit item ≠ .ok none

theorem first_hit_cons_pass (visit : Item → Except Fault (Option Found))
    (item : Item) (rest : List Item) (passed : visit item = .ok none) :
    firstHit visit (item :: rest) = firstHit visit rest := by
  simp only [firstHit, passed]

theorem first_hit_cons_stop (visit : Item → Except Fault (Option Found))
    (item : Item) (rest : List Item) (stopped : Stops visit item) :
    firstHit visit (item :: rest) = visit item := by
  rw [firstHit]
  rcases outcome : visit item with fault | found
  · rfl
  · cases found with
    | none => exact absurd outcome stopped
    | some found => rfl

theorem first_hit_none_iff (visit : Item → Except Fault (Option Found)) (items : List Item) :
    firstHit visit items = .ok none ↔ ∀ item ∈ items, visit item = .ok none := by
  induction items with
  | nil => simp [firstHit]
  | cons item rest ih =>
      by_cases passed : visit item = .ok none
      · rw [first_hit_cons_pass visit item rest passed, ih]
        simp [passed]
      · rw [first_hit_cons_stop visit item rest passed]
        simp [passed]

theorem first_hit_append (visit : Item → Except Fault (Option Found)) (front rest : List Item)
    (passed : ∀ item ∈ front, visit item = .ok none) :
    firstHit visit (front ++ rest) = firstHit visit rest := by
  induction front with
  | nil => rfl
  | cons item front ih =>
      rw [List.cons_append, first_hit_cons_pass visit item _ (passed item (by simp))]
      exact ih fun other member => passed other (by simp [member])

theorem first_hit_cases (visit : Item → Except Fault (Option Found)) (items : List Item) :
    (∀ item ∈ items, visit item = .ok none) ∨
      ∃ front item rest, items = front ++ item :: rest ∧
        (∀ other ∈ front, visit other = .ok none) ∧ Stops visit item ∧
        firstHit visit items = visit item := by
  induction items with
  | nil => exact .inl (by simp)
  | cons item rest ih =>
      by_cases passed : visit item = .ok none
      · rcases ih with all | ⟨front, stop, tail, split, before, stopped, same⟩
        · exact .inl (by simpa [passed] using all)
        · refine .inr ⟨item :: front, stop, tail, by simp [split], ?_, stopped, ?_⟩
          · simpa [passed] using before
          · rw [first_hit_cons_pass visit item rest passed, same]
      · exact .inr ⟨[], item, rest, rfl, by simp, passed,
          first_hit_cons_stop visit item rest passed⟩

theorem first_hit_some (visit : Item → Except Fault (Option Found)) (items : List Item)
    (found : Found) (hit : firstHit visit items = .ok (some found)) :
    ∃ item ∈ items, visit item = .ok (some found) := by
  rcases first_hit_cases visit items with all | ⟨front, item, rest, split, _, _, same⟩
  · rw [(first_hit_none_iff visit items).mpr all] at hit
    cases hit
  · exact ⟨item, by simp [split], by rw [← same, hit]⟩

/-- The walk returns where nothing that faults comes ahead of the first answer. -/
theorem first_hit_returns_iff (visit : Item → Except Fault (Option Found)) (items : List Item) :
    (∃ found, firstHit visit items = .ok found) ↔
      ∀ front broken rest, items = front ++ broken :: rest →
        (∃ fault, visit broken = .error fault) →
        ∃ item ∈ front, ∃ found, visit item = .ok (some found) := by
  induction items with
  | nil => simp [firstHit]
  | cons item tail ih =>
      rcases outcome : visit item with fault | _ | value
      · have stopped : Stops visit item := by simp [Stops, outcome]
        rw [first_hit_cons_stop visit item tail stopped, outcome]
        refine iff_of_false (by simp) fun guarded => ?_
        obtain ⟨_, ahead, _⟩ := guarded [] item tail rfl ⟨fault, outcome⟩
        cases ahead
      · rw [first_hit_cons_pass visit item tail outcome, ih]
        constructor
        · intro guarded front broken rest split failed
          cases front with
          | nil =>
              cases split
              cases outcome.symm.trans failed.choose_spec
          | cons first front =>
              cases split
              obtain ⟨hit, ahead, answered⟩ := guarded front broken rest rfl failed
              exact ⟨hit, List.mem_cons_of_mem _ ahead, answered⟩
        · rintro guarded front broken rest rfl failed
          obtain ⟨hit, ahead, found, answered⟩ := guarded (item :: front) broken rest rfl failed
          rcases List.mem_cons.mp ahead with rfl | behind
          · cases outcome.symm.trans answered
          · exact ⟨hit, behind, found, answered⟩
      · have stopped : Stops visit item := by simp [Stops, outcome]
        rw [first_hit_cons_stop visit item tail stopped, outcome]
        refine iff_of_true ⟨some value, rfl⟩ ?_
        intro front broken rest split failed
        cases front with
        | nil =>
            cases split
            cases outcome.symm.trans failed.choose_spec
        | cons first front =>
            cases split
            exact ⟨item, List.mem_cons_self .., value, outcome⟩

theorem first_hit_congr (visit other : Item → Except Fault (Option Found)) (items : List Item)
    (same : ∀ item ∈ items, visit item = other item) :
    firstHit visit items = firstHit other items := by
  induction items with
  | nil => rfl
  | cons item rest ih =>
      rw [firstHit, firstHit, same item (by simp),
        ih fun later member => same later (by simp [member])]

theorem first_hit_total {visit : Item → Except Fault (Option Found)} {test : Item → Bool}
    {value : Item → Found} {items : List Item}
    (total : ∀ item ∈ items, visit item = .ok (if test item then some (value item) else none)) :
    firstHit visit items = .ok ((items.find? test).map value) := by
  induction items with
  | nil => rfl
  | cons item rest ih =>
      have here := total item (List.mem_cons_self ..)
      have later := ih fun other member => total other (List.mem_cons_of_mem _ member)
      rw [firstHit, here, List.find?_cons]
      cases test item with
      | true => rfl
      | false => exact later

theorem first_hit_avoids {bad : Fault → Prop} {visit : Item → Except Fault (Option Found)}
    {items : List Item} (avoids : ∀ item ∈ items, Avoids bad (visit item)) :
    Avoids bad (firstHit visit items) := by
  cases first_hit_cases visit items with
  | inl all =>
      rw [(first_hit_none_iff visit items).mpr all]
      exact avoids_ok none
  | inr ended =>
      obtain ⟨front, item, rest, split, _, _, same⟩ := ended
      rw [same]
      exact avoids item (by simp [split])

/-- The walk of a yes/no test: does some element answer yes before one faults? -/
def anyHit (test : Item → Except Fault Bool) (items : List Item) : Except Fault Bool :=
  Option.isSome <$> firstHit (fun item => (fun yes => if yes then some () else none) <$> test item)
    items

theorem any_hit_avoids {bad : Fault → Prop} {test : Item → Except Fault Bool} {items : List Item}
    (avoids : ∀ item ∈ items, Avoids bad (test item)) : Avoids bad (anyHit test items) :=
  (first_hit_avoids fun item member => (avoids item member).map _).map _

theorem visit_of_test_pass (test : Item → Except Fault Bool) (item : Item) :
    ((fun yes => if yes then some () else none) <$> test item) = Except.ok none ↔
      test item = .ok false := by
  rcases test item with fault | _ | _ <;> simp

theorem any_hit_false_iff (test : Item → Except Fault Bool) (items : List Item) :
    anyHit test items = .ok false ↔ ∀ item ∈ items, test item = .ok false := by
  rw [anyHit, map_ok_iff]
  simp only [Option.isSome_eq_false_iff, Option.isNone_iff_eq_none, exists_eq_right,
    first_hit_none_iff, visit_of_test_pass]

theorem any_hit_total (test : Item → Except Fault Bool) (value : Item → Bool) (items : List Item)
    (total : ∀ item ∈ items, test item = .ok (value item)) :
    anyHit test items = .ok (items.any value) := by
  induction items with
  | nil => rfl
  | cons item rest ih =>
      have here := total item (by simp)
      have there := ih fun other member => total other (by simp [member])
      unfold anyHit at there ⊢
      rw [firstHit, here, List.any_cons]
      cases value item with
      | true => rfl
      | false => exact there

theorem any_hit_congr (test other : Item → Except Fault Bool) (items : List Item)
    (same : ∀ item ∈ items, test item = other item) :
    anyHit test items = anyHit other items := by
  rw [anyHit, anyHit, first_hit_congr]
  intro item member
  rw [same item member]

end Nlif.FaultWalk
