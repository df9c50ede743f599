import Mathlib.Tactic.Common

/-!
Runs of a deterministic machine whose step may fault. A label is applied only
where the machine admits it; a faulting step has no successor, so a run holds
completed steps only. The invariant rules below are the only inductions over
runs: a client supplies what one step preserves.
-/

namespace Nlif.LabelledRun

set_option autoImplicit false

structure Machine (State Label Return Fault : Type) where
  admits : State → Label → Prop
  step : Label → State → Except Fault (Return × State)

variable {State Label Return Fault : Type}

/-- The machine whose labels are further restricted by a condition on the state
before the step. -/
def Machine.given (machine : Machine State Label Return Fault) (condition : State → Label → Prop) :
    Machine State Label Return Fault where
  admits state label := machine.admits state label ∧ condition state label
  step := machine.step

inductive Run (machine : Machine State Label Return Fault) (start : State) :
    List (Label × Return) → State → Prop
  | start : Run machine start [] start
  | step {log : List (Label × Return)} {state next : State} {label : Label} {ret : Return}
      (prior : Run machine start log state) (admitted : machine.admits state label)
      (stepped : machine.step label state = .ok (ret, next)) :
      Run machine start (log ++ [(label, ret)]) next

def Machine.after (machine : Machine State Label Return Fault) (label : Label) (state : State) :
    State :=
  match machine.step label state with
  | .ok (_, next) => next
  | .error _ => state

theorem Run.extend {machine : Machine State Label Return Fault} {start state : State}
    {log : List (Label × Return)} (prior : Run machine start log state) (label : Label)
    (ret : Return) (admitted : machine.admits state label)
    (completes : Prod.fst <$> machine.step label state = .ok ret) :
    Run machine start (log ++ [(label, ret)]) (machine.after label state) := by
  rcases stepped : machine.step label state with fault | ⟨answer, next⟩
  · rw [stepped] at completes
    cases completes
  · rw [stepped] at completes
    cases completes
    have reached : machine.after label state = next := by rw [Machine.after, stepped]
    rw [reached]
    exact .step prior admitted stepped

theorem Run.trans {machine : Machine State Label Return Fault} {start middle state : State}
    {log more : List (Label × Return)} (prior : Run machine start log middle)
    (onward : Run machine middle more state) : Run machine start (log ++ more) state := by
  induction onward with
  | start =>
      rw [List.append_nil]
      exact prior
  | step _ admitted stepped ih =>
      rw [← List.append_assoc]
      exact .step ih admitted stepped

theorem Run.deterministic {machine : Machine State Label Return Fault} {start state other : State}
    {log : List (Label × Return)} (run : Run machine start log state)
    (again : Run machine start log other) : state = other := by
  induction run generalizing other with
  | start =>
      generalize same : ([] : List (Label × Return)) = log at again
      cases again with
      | start => rfl
      | step => simp at same
  | @step log state next label ret _ _ stepped ih =>
      generalize same : log ++ [(label, ret)] = whole at again
      cases again with
      | start => simp at same
      | step prior _ steppedToo =>
          obtain ⟨rfl, last⟩ := List.append_inj' same rfl
          cases last
          cases ih prior
          cases stepped.symm.trans steppedToo
          rfl

theorem Run.released {machine : Machine State Label Return Fault} {start state : State}
    {condition : State → Label → Prop} {log : List (Label × Return)}
    (run : Run (machine.given condition) start log state) : Run machine start log state := by
  induction run with
  | start => exact .start
  | step _ admitted stepped ih => exact .step ih admitted.1 stepped

theorem Run.labels {machine : Machine State Label Return Fault} {start state : State}
    {condition : Label → Prop} {log : List (Label × Return)}
    (run : Run (machine.given fun _ label => condition label) start log state) :
    ∀ entry ∈ log, condition entry.1 := by
  induction run with
  | start => exact fun _ member => nomatch member
  | step _ admitted _ ih =>
      intro entry member
      cases List.mem_append.mp member with
      | inl earlier => exact ih entry earlier
      | inr last =>
          rw [List.mem_singleton.mp last]
          exact admitted.2

/-- An invariant of the runs whose every return is an allowed one. -/
theorem run_invariant_of_returns {machine : Machine State Label Return Fault} {start : State}
    (allowed : Label → Return → Prop) (invariant : State → Prop) (initial : invariant start)
    (preserved : ∀ state label ret next, invariant state → machine.admits state label →
      machine.step label state = .ok (ret, next) → allowed label ret → invariant next)
    {log : List (Label × Return)} {state : State} (run : Run machine start log state)
    (returns : ∀ entry ∈ log, allowed entry.1 entry.2) : invariant state := by
  induction run with
  | start => exact initial
  | @step log state next label ret prior admitted stepped ih =>
      have before := ih fun entry member => returns entry (by simp [member])
      exact preserved _ _ _ _ before admitted stepped (returns (label, ret) (by simp))

theorem run_invariant {machine : Machine State Label Return Fault} {start : State}
    (invariant : State → Prop) (initial : invariant start)
    (preserved : ∀ state label ret next, invariant state → machine.admits state label →
      machine.step label state = .ok (ret, next) → invariant next)
    {log : List (Label × Return)} {state : State} (run : Run machine start log state) :
    invariant state :=
  run_invariant_of_returns (fun _ _ => True) invariant initial
    (fun state label ret next holds admitted stepped _ =>
      preserved state label ret next holds admitted stepped) run (by simp)

/-- What a fold over the log says of the state it has reached, when every step keeps it true. -/
theorem run_tracks {Track : Type} {machine : Machine State Label Return Fault} {start : State}
    (track : Track → Label × Return → Track) (tracks : Track → State → Prop) {first : Track}
    (initial : tracks first start)
    (preserved : ∀ value state label ret next, tracks value state → machine.admits state label →
      machine.step label state = .ok (ret, next) → tracks (track value (label, ret)) next)
    {log : List (Label × Return)} {state : State} (run : Run machine start log state) :
    tracks (log.foldl track first) state := by
  induction run with
  | start => exact initial
  | step prior admitted stepped ih =>
      rw [List.foldl_append]
      exact preserved _ _ _ _ _ ih admitted stepped

/-- A machine whose steps another one answers alike is simulated by it in every run. -/
theorem run_simulation {Other : Type} {machine : Machine State Label Return Fault}
    {peer : Machine Other Label Return Fault} {start : State} {peerStart : Other}
    (related : State → Other → Prop) (initial : related start peerStart)
    (simulates : ∀ state other label ret next, related state other →
      machine.admits state label → machine.step label state = .ok (ret, next) →
      ∃ after, peer.admits other label ∧ peer.step label other = .ok (ret, after) ∧
        related next after)
    {log : List (Label × Return)} {state : State} (run : Run machine start log state) :
    ∃ other, Run peer peerStart log other ∧ related state other := by
  induction run with
  | start => exact ⟨peerStart, .start, initial⟩
  | @step log state next label ret prior admitted stepped ih =>
      obtain ⟨other, peerRun, relatedBefore⟩ := ih
      obtain ⟨after, peerAdmitted, peerStepped, relatedAfter⟩ :=
        simulates _ _ _ _ _ relatedBefore admitted stepped
      exact ⟨after, .step peerRun peerAdmitted peerStepped, relatedAfter⟩

end Nlif.LabelledRun
