import Nlif.FaultWalk

/-!
Two sequences of calls on one state, in any interleaving: calls that may fault, and
observations that always complete. Where an observation neither changes what a call does
nor notices it, every interleaving ends as the calls alone followed by the observations
alone, with the same returns.
-/

namespace Nlif.Interleaving

open FaultWalk

set_option autoImplicit false

variable {Left Right LeftRet RightRet State Fault : Type}

/-- The list holds both sequences, each in its own order. -/
inductive Interleaves : List Left → List Right → List (Left ⊕ Right) → Prop
  | nil : Interleaves [] [] []
  | left {left : Left} {lefts : List Left} {rights : List Right} {calls : List (Left ⊕ Right)}
      (rest : Interleaves lefts rights calls) :
      Interleaves (left :: lefts) rights (.inl left :: calls)
  | right {right : Right} {lefts : List Left} {rights : List Right}
      {calls : List (Left ⊕ Right)} (rest : Interleaves lefts rights calls) :
      Interleaves lefts (right :: rights) (.inr right :: calls)

section Calls

variable (act : Left → State → Except Fault (LeftRet × State))
  (observe : Right → State → RightRet × State)

def actAll : List Left → State → Except Fault (List LeftRet × State)
  | [], state => .ok ([], state)
  | left :: lefts, state => do
      let (ret, state) ← act left state
      let (rets, state) ← actAll lefts state
      .ok (ret :: rets, state)

def observeAll : List Right → State → List RightRet × State
  | [], state => ([], state)
  | right :: rights, state =>
      let (seen, state) := observe right state
      let (others, state) := observeAll rights state
      (seen :: others, state)

def mixed : List (Left ⊕ Right) → State →
    Except Fault (List LeftRet × List RightRet × State)
  | [], state => .ok ([], [], state)
  | .inl left :: calls, state => do
      let (ret, state) ← act left state
      let (rets, seen, state) ← mixed calls state
      .ok (ret :: rets, seen, state)
  | .inr right :: calls, state => do
      let (first, state) := observe right state
      let (rets, seen, state) ← mixed calls state
      .ok (rets, first :: seen, state)

def inTurn (lefts : List Left) (rights : List Right) (state : State) :
    Except Fault (List LeftRet × List RightRet × State) :=
  (fun done => (done.1, observeAll observe rights done.2)) <$> actAll act lefts state

/-- On valid states observations and calls do not meet. -/
structure Independent (valid : State → Prop) : Prop where
  acts : ∀ left state ret next, valid state → act left state = .ok (ret, next) → valid next
  observes : ∀ right state, valid state → valid (observe right state).2
  commutes : ∀ left right state, valid state → act left (observe right state).2 =
    (fun done => (done.1, (observe right done.2).2)) <$> act left state
  unnoticed : ∀ left right state ret next, valid state → act left state = .ok (ret, next) →
    (observe right next).1 = (observe right state).1

variable {act observe} {valid : State → Prop} {state : State}

theorem act_all_observed (independent : Independent act observe valid) (right : Right)
    (lefts : List Left) (holds : valid state) :
    actAll act lefts (observe right state).2 =
        (fun done => (done.1, (observe right done.2).2)) <$> actAll act lefts state ∧
      ∀ rets next, actAll act lefts state = .ok (rets, next) →
        (observe right next).1 = (observe right state).1 := by
  induction lefts generalizing state with
  | nil =>
      refine ⟨rfl, fun rets next done => ?_⟩
      cases done
      rfl
  | cons left lefts ih =>
      have moved := independent.commutes left right state holds
      unfold actAll
      rw [moved]
      cases acted : act left state with
      | error fault => exact ⟨rfl, fun _ _ done => nomatch done⟩
      | ok outcome =>
          obtain ⟨ret, middle⟩ := outcome
          have later := ih (independent.acts _ _ _ _ holds acted)
          simp only [map_ok, ok_bind]
          rw [later.1]
          cases others : actAll act lefts middle with
          | error fault => exact ⟨rfl, fun _ _ done => nomatch done⟩
          | ok rest =>
              refine ⟨rfl, fun rets next done => ?_⟩
              cases done
              have unnoticed := independent.unnoticed left right state ret middle holds acted
              exact (later.2 _ _ others).trans unnoticed

/-- Every interleaving ends as the two sequences in turn. -/
theorem mixed_in_turn (independent : Independent act observe valid) {lefts : List Left}
    {rights : List Right} {calls : List (Left ⊕ Right)} (order : Interleaves lefts rights calls)
    (holds : valid state) :
    mixed act observe calls state = inTurn act observe lefts rights state := by
  induction order generalizing state with
  | nil => rfl
  | @left left lefts rights calls rest ih =>
      unfold mixed inTurn actAll
      cases acted : act left state with
      | error fault => rfl
      | ok outcome =>
          obtain ⟨ret, middle⟩ := outcome
          simp only [ok_bind]
          rw [ih (independent.acts _ _ _ _ holds acted), inTurn]
          cases actAll act lefts middle with
          | error fault => rfl
          | ok done => rfl
  | @right right lefts rights calls rest ih =>
      have passed := act_all_observed independent right lefts holds
      unfold mixed
      simp only
      rw [ih (independent.observes _ _ holds), inTurn, inTurn, passed.1]
      cases acted : actAll act lefts state with
      | error fault => rfl
      | ok done =>
          have unnoticed := passed.2 _ _ acted
          simp only [map_ok, ok_bind, observeAll, unnoticed]

end Calls

end Nlif.Interleaving
