import Mathlib.Data.List.Induction
import Mathlib.Tactic.Common

/-!
Loops over a list that change a state and may fault. A visit answers a code, and
the first code that stops the loop is its result. `Passes` is the part of such a
loop before any stop; the rules below are the only inductions over these loops.
-/

namespace Nlif.FaultLoop

set_option autoImplicit false

variable {Fault Item State Code : Type}

/-- The loop `foreach (item) { code = visit(item); if (stop(code)) return code; }
return finished;`. -/
def stopping (visit : Item → State → Except Fault (Code × State)) (stop : Code → Bool)
    (finished : Code) : List Item → State → Except Fault (Code × State)
  | [], state => .ok (finished, state)
  | item :: rest, state =>
      match visit item state with
      | .error fault => .error fault
      | .ok (code, next) =>
          if stop code then .ok (code, next) else stopping visit stop finished rest next

/-- The loop visits all these items in turn and none stops it. -/
def Passes (visit : Item → State → Except Fault (Code × State)) (stop : Code → Bool) :
    List Item → State → State → Prop
  | [], state, last => last = state
  | item :: rest, state, last =>
      ∃ code next, visit item state = .ok (code, next) ∧ stop code = false ∧
        Passes visit stop rest next last

variable {visit : Item → State → Except Fault (Code × State)} {stop : Code → Bool}
  {finished code : Code} {items front rest : List Item} {item : Item}
  {state next last : State}

theorem passes_append_iff :
    Passes visit stop (front ++ rest) state last ↔
      ∃ middle, Passes visit stop front state middle ∧ Passes visit stop rest middle last := by
  induction front generalizing state with
  | nil =>
      constructor
      · exact fun passes => ⟨state, rfl, passes⟩
      · rintro ⟨middle, rfl, passes⟩
        exact passes
  | cons item front ih =>
      constructor
      · rintro ⟨code, next, visited, goes, passes⟩
        obtain ⟨middle, before, after⟩ := ih.mp passes
        exact ⟨middle, ⟨code, next, visited, goes, before⟩, after⟩
      · rintro ⟨middle, ⟨code, next, visited, goes, before⟩, after⟩
        exact ⟨code, next, visited, goes, ih.mpr ⟨middle, before, after⟩⟩

theorem Passes.deterministic {other : State} (left : Passes visit stop items state last)
    (right : Passes visit stop items state other) : last = other := by
  induction items generalizing state with
  | nil => exact Eq.trans left (Eq.symm right)
  | cons item items ih =>
      obtain ⟨_, next, visited, _, left⟩ := left
      obtain ⟨_, again, visitedToo, _, right⟩ := right
      cases visited.symm.trans visitedToo
      exact ih left right

theorem stopping_ok_iff :
    stopping visit stop finished items state = .ok (code, last) ↔
      (code = finished ∧ Passes visit stop items state last) ∨
      (stop code = true ∧ ∃ front item rest middle, items = front ++ item :: rest ∧
        Passes visit stop front state middle ∧ visit item middle = .ok (code, last)) := by
  induction items generalizing state with
  | nil =>
      simp only [stopping, Passes, Except.ok.injEq, Prod.mk.injEq, List.append_eq_nil_iff,
        List.cons_ne_nil, and_false, false_and, exists_false, or_false, eq_comm]
  | cons first items ih =>
      simp only [stopping]
      constructor
      · intro done
        split at done
        · cases done
        · rename_i answer next visited
          split at done
          · rename_i stops
            cases done
            exact .inr ⟨stops, [], first, items, state, rfl, rfl, visited⟩
          · rename_i goes
            have goesOn : stop answer = false := by simpa using goes
            rcases ih.mp done with
              ⟨same, passes⟩ | ⟨stops, front, item, rest, middle, rfl, passes, hit⟩
            · exact .inl ⟨same, answer, next, visited, goesOn, passes⟩
            · exact .inr ⟨stops, first :: front, item, rest, middle, rfl,
                ⟨answer, next, visited, goesOn, passes⟩, hit⟩
      · rintro (⟨rfl, answer, next, visited, goes, passes⟩ |
          ⟨stops, front, item, rest, middle, split, passes, hit⟩)
        · simp only [visited, goes, Bool.false_eq_true, if_false]
          exact ih.mpr (.inl ⟨rfl, passes⟩)
        · cases front with
          | nil =>
              cases split
              cases passes
              simp only [hit, stops, if_true]
          | cons other front =>
              cases split
              obtain ⟨answer, next, visited, goes, passes⟩ := passes
              simp only [visited, goes, Bool.false_eq_true, if_false]
              exact ih.mpr (.inr ⟨stops, front, item, rest, middle, rfl, passes, hit⟩)

theorem Passes.reaches {middle : State} (passes : Passes visit stop front state middle)
    (done : stopping visit stop finished (front ++ item :: rest) state = .ok (code, last)) :
    ∃ answer next, visit item middle = .ok (answer, next) := by
  induction front generalizing state with
  | nil =>
      cases passes
      rcases visited : visit item middle with fault | ⟨answer, next⟩
      · simp [stopping, visited] at done
      · exact ⟨answer, next, rfl⟩
  | cons first front ih =>
      obtain ⟨_, next, visited, goes, passes⟩ := passes
      simp only [List.cons_append, stopping, visited, goes, Bool.false_eq_true, if_false] at done
      exact ih passes done

theorem passes_singleton_iff :
    Passes visit stop [item] state last ↔
      ∃ code, visit item state = .ok (code, last) ∧ stop code = false := by
  constructor
  · rintro ⟨code, next, visited, goes, rfl⟩
    exact ⟨code, visited, goes⟩
  · rintro ⟨code, visited, goes⟩
    exact ⟨code, last, visited, goes, rfl⟩

/-- An invariant whose step may look at the part of the loop before it. -/
theorem Passes.along (invariant : State → Prop)
    (kept : ∀ front item rest, items = front ++ item :: rest → ∀ middle code next,
      Passes visit stop front state middle → invariant middle →
      visit item middle = .ok (code, next) → stop code = false → invariant next)
    (passes : Passes visit stop items state last) (initial : invariant state) :
    invariant last := by
  induction items using List.reverseRecOn generalizing last with
  | nil =>
      cases passes
      exact initial
  | append_singleton front item ih =>
      obtain ⟨middle, before, final⟩ := passes_append_iff.mp passes
      obtain ⟨code, visited, goes⟩ := passes_singleton_iff.mp final
      refine kept front item [] rfl middle code last before ?_ visited goes
      refine ih (fun left other right split => ?_) before
      exact kept left other (right ++ [item]) (by rw [split]; simp)

theorem Passes.invariant (invariant : State → Prop)
    (kept : ∀ item ∈ items, ∀ state code next, invariant state →
      visit item state = .ok (code, next) → stop code = false → invariant next)
    (passes : Passes visit stop items state last) (initial : invariant state) :
    invariant last :=
  passes.along invariant
    (fun front item rest split _ _ _ _ holds visited goes =>
      kept item (by simp [split]) _ _ _ holds visited goes) initial

theorem stopping_invariant (invariant : State → Prop)
    (kept : ∀ item ∈ items, ∀ state code next, invariant state →
      visit item state = .ok (code, next) → invariant next)
    (done : stopping visit stop finished items state = .ok (code, last))
    (initial : invariant state) : invariant last := by
  rcases stopping_ok_iff.mp done with
    ⟨_, passes⟩ | ⟨_, front, item, rest, middle, rfl, passes, visited⟩
  · exact passes.invariant invariant
      (fun item member state code next holds visited _ =>
        kept item member state code next holds visited) initial
  · refine kept item (by simp) _ _ _ ?_ visited
    exact passes.invariant invariant
      (fun other member state code next holds seen _ =>
        kept other (by simp [member]) state code next holds seen) initial

/-- A loop whose visits do to each item what another loop does to its image passes where that
one does. -/
theorem Passes.preimage {Source Answer : Type} {image : Source → Item}
    {visitSource : Source → State → Except Fault (Answer × State)} {stopSource : Answer → Bool}
    {sources : List Source}
    (alike : ∀ source ∈ sources, ∀ state code next,
      visit (image source) state = .ok (code, next) → stop code = false →
      ∃ answer, visitSource source state = .ok (answer, next) ∧ stopSource answer = false)
    (passes : Passes visit stop (sources.map image) state last) :
    Passes visitSource stopSource sources state last := by
  induction sources generalizing state with
  | nil => exact passes
  | cons source sources ih =>
      obtain ⟨code, next, visited, goes, passes⟩ := passes
      obtain ⟨answer, visitedToo, goesToo⟩ :=
        alike source (List.mem_cons_self ..) state code next visited goes
      refine ⟨answer, next, visitedToo, goesToo, ih (fun other member => ?_) passes⟩
      exact alike other (List.mem_cons_of_mem source member)

theorem Passes.marked_under (invariant : State → Prop) (mark : Item → State → Prop)
    (kept : ∀ item ∈ items, ∀ state code next, invariant state →
      visit item state = .ok (code, next) → stop code = false → invariant next)
    (set : ∀ item ∈ items, ∀ state code next, invariant state →
      visit item state = .ok (code, next) → stop code = false → mark item next)
    (stays : ∀ item ∈ items, ∀ other ∈ items, ∀ state code next, invariant state →
      mark other state → visit item state = .ok (code, next) → stop code = false →
      mark other next)
    (passes : Passes visit stop items state last) (initial : invariant state) :
    ∀ item ∈ items, mark item last := by
  induction items generalizing state with
  | nil => simp
  | cons first items ih =>
      obtain ⟨code, next, visited, goes, passes⟩ := passes
      have after := kept first (by simp) _ _ _ initial visited goes
      have marked : mark first last := by
        refine (passes.invariant (fun state => invariant state ∧ mark first state) ?_
          ⟨after, set first (by simp) _ _ _ initial visited goes⟩).2
        rintro item member state code next ⟨holds, marked⟩ seen onward
        exact ⟨kept item (by simp [member]) _ _ _ holds seen onward,
          stays item (by simp [member]) first (by simp) _ _ _ holds marked seen onward⟩
      have others := ih (fun item member => kept item (by simp [member]))
        (fun item member => set item (by simp [member]))
        (fun item member other there =>
          stays item (by simp [member]) other (by simp [there])) passes after
      intro item member
      rcases List.mem_cons.mp member with rfl | member
      · exact marked
      · exact others item member

theorem Passes.marked (mark : Item → State → Prop)
    (set : ∀ item ∈ items, ∀ state code next, visit item state = .ok (code, next) →
      stop code = false → mark item next)
    (stays : ∀ item ∈ items, ∀ other ∈ items, ∀ state code next, mark other state →
      visit item state = .ok (code, next) → stop code = false → mark other next)
    (passes : Passes visit stop items state last) : ∀ item ∈ items, mark item last :=
  passes.marked_under (fun _ => True) mark (fun _ _ _ _ _ _ _ _ => trivial)
    (fun item member state code next _ => set item member state code next)
    (fun item member other there state code next _ => stays item member other there state code next)
    trivial

theorem passes_exist (invariant : List Item → State → Prop)
    (progress : ∀ item rest state, invariant (item :: rest) state →
      ∃ code next, visit item state = .ok (code, next) ∧ stop code = false ∧ invariant rest next)
    (initial : invariant items state) :
    ∃ last, Passes visit stop items state last ∧ invariant [] last := by
  induction items generalizing state with
  | nil => exact ⟨state, rfl, initial⟩
  | cons item items ih =>
      obtain ⟨code, next, visited, goes, holds⟩ := progress item items state initial
      obtain ⟨last, passes, final⟩ := ih holds
      exact ⟨last, ⟨code, next, visited, goes, passes⟩, final⟩

end Nlif.FaultLoop
