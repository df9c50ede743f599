import Nlif.FaultWalk

/-!
Two computations that may fault, side by side. `Together` says that both fault
alike or both complete with related results; the rules below follow the way such
computations are put together.
-/

namespace Nlif.FaultRelation

set_option autoImplicit false

universe u

variable {Fault : Type*} {Left Right : Type u}

inductive Together (related : Left → Right → Prop) :
    Except Fault Left → Except Fault Right → Prop
  | fault (fault : Fault) : Together related (.error fault) (.error fault)
  | done {left : Left} {right : Right} (holds : related left right) :
      Together related (.ok left) (.ok right)

theorem together_bind_same {Value After Later : Type u} {later : After → Later → Prop}
    {outcome : Except Fault Value} {left : Value → Except Fault After}
    {right : Value → Except Fault Later}
    (next : ∀ value, outcome = .ok value → Together later (left value) (right value)) :
    Together later (outcome >>= left) (outcome >>= right) := by
  cases outcome with
  | error fault => exact .fault fault
  | ok value => exact next value rfl

variable {related : Left → Right → Prop} {first : Except Fault Left} {second : Except Fault Right}

theorem Together.bind {After Later : Type u} {later : After → Later → Prop}
    {left : Left → Except Fault After} {right : Right → Except Fault Later}
    (together : Together related first second)
    (next : ∀ value other, first = .ok value → second = .ok other → related value other →
      Together later (left value) (right other)) :
    Together later (first >>= left) (second >>= right) := by
  cases together with
  | fault fault => exact .fault fault
  | done holds => exact next _ _ rfl rfl holds

theorem Together.map {After Later : Type u} {later : After → Later → Prop}
    {left : Left → After} {right : Right → Later} (together : Together related first second)
    (next : ∀ value other, related value other → later (left value) (right other)) :
    Together later (left <$> first) (right <$> second) := by
  cases together with
  | fault fault => exact .fault fault
  | done holds => exact .done (next _ _ holds)

theorem Together.finish {Later : Type u} {later : Left → Later → Prop} {right : Right → Later}
    (together : Together related first second)
    (next : ∀ value other, related value other → later value (right other)) :
    Together later first (second >>= fun other => .ok (right other)) := by
  cases together with
  | fault fault => exact .fault fault
  | done holds => exact .done (next _ _ holds)

theorem Together.read {Value : Type u} {left : Left → Value} {right : Right → Value}
    (together : Together related first second)
    (same : ∀ value other, related value other → right other = left value) :
    right <$> second = left <$> first := by
  cases together with
  | fault fault => rfl
  | done holds => exact congrArg Except.ok (same _ _ holds)

theorem Together.left_ok {value : Left} (together : Together related first second)
    (completed : first = .ok value) : ∃ other, second = .ok other ∧ related value other := by
  subst completed
  cases together with
  | done holds => exact ⟨_, rfl, holds⟩

theorem Together.avoids {bad : Fault → Prop} (together : Together related first second)
    (avoids : FaultWalk.Avoids bad second) : FaultWalk.Avoids bad first := by
  cases together with
  | fault fault =>
      intro ended failed
      cases failed
      exact avoids fault rfl
  | done => exact FaultWalk.avoids_ok _

end Nlif.FaultRelation
