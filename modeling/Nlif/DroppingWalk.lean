import Nlif.LinkRing

/-!
Walks over a circular list whose visits unlink any of its nodes. `turns` is what such a
walk should do, told on plain lists: it passes over the nodes that were dropped before
their turn. The two loops of `LinkRing` do it as long as they do not lose their place: the
plain loop when no visit drops its own node, the loop that saves the next node when no
visit drops that one. Otherwise they come back to the dropped node for ever.
-/

namespace Nlif.DroppingWalk

open LinkRing

set_option autoImplicit false

variable {Node : Type*} [DecidableEq Node]

def dropAll (dropped : List Node) (links : Links Node) : Links Node :=
  dropped.foldl (fun links node => removeInit node links) links

def without (gone nodes : List Node) : List Node := nodes.filter fun node => node ∉ gone

theorem without_cons_gone {gone : List Node} {node : Node} (there : node ∈ gone)
    (rest : List Node) : without gone (node :: rest) = without gone rest :=
  List.filter_cons_of_neg (by simpa using there)

theorem without_cons_stays {gone : List Node} {node : Node} (absent : node ∉ gone)
    (rest : List Node) : without gone (node :: rest) = node :: without gone rest :=
  List.filter_cons_of_pos (by simpa using absent)

theorem without_append (gone front rest : List Node) :
    without gone (front ++ rest) = without gone front ++ without gone rest :=
  List.filter_append ..

theorem without_without (gone more nodes : List Node) :
    without more (without gone nodes) = without (gone ++ more) nodes := by
  unfold without
  rw [List.filter_filter]
  apply List.filter_congr
  intro node _
  simp [Bool.and_comm]

theorem head_without {gone more nodes : List Node} {last : Node}
    (kept : ∀ first ∈ (without gone nodes).head?, first ∉ more) :
    (without gone nodes).headD last = (without (gone ++ more) nodes).headD last := by
  rw [← without_without]
  cases left : without gone nodes with
  | nil => rfl
  | cons first rest =>
      have stays : first ∉ more := kept first (by rw [left]; rfl)
      rw [without_cons_stays stays, List.headD_cons, List.headD_cons]

theorem sole_drop_all {links : Links Node} {head : Node} {nodes dropped : List Node}
    (sole : Sole links head nodes) (apart : head ∉ dropped) :
    Sole (dropAll dropped links) head (without dropped nodes) := by
  induction dropped generalizing links nodes with
  | nil =>
      have same : without [] nodes = nodes := by simp [without]
      rw [same]
      exact sole
  | cons node rest ih =>
      have other : node ≠ head := fun same => apart (by simp [same])
      have shorter := ih (sole.remove_any other) fun member => apart (List.mem_cons_of_mem _ member)
      have distinct := (List.nodup_cons.mp sole.ring.distinct).2
      have same : without rest (nodes.erase node) = without (node :: rest) nodes := by
        rw [distinct.erase_eq_filter, without, List.filter_filter]
        apply List.filter_congr
        intro candidate _
        by_cases same : candidate = node
        · simp [same]
        · simp [same]
      rw [← same]
      exact shorter

/-- A visit, with the node that followed before it and the nodes it dropped. -/
structure Turn (Node : Type*) where
  node : Node
  next : Option Node
  dropped : List Node

section Turns

variable {State : Type*} (visit : Node → State → State) (drops : Node → State → List Node)

/-- The turns of a walk over these nodes, of which some are gone. -/
def turns : List Node → List Node → State → List (Turn Node)
  | _, [], _ => []
  | gone, node :: rest, state =>
      if node ∈ gone then turns gone rest state
      else
        ⟨node, (without gone rest).head?, drops node state⟩ ::
          turns (gone ++ drops node state) rest (visit node state)

def walked : List Node → List Node → State → State
  | _, [], state => state
  | gone, node :: rest, state =>
      if node ∈ gone then walked gone rest state
      else walked (gone ++ drops node state) rest (visit node state)

def droppedBy (steps : List (Turn Node)) : List Node := steps.flatMap Turn.dropped

variable {visit drops} {gone : List Node} {node : Node} {rest : List Node} {state : State}

theorem turns_gone (there : node ∈ gone) :
    turns visit drops gone (node :: rest) state = turns visit drops gone rest state :=
  if_pos there

theorem turns_stays (absent : node ∉ gone) :
    turns visit drops gone (node :: rest) state =
      ⟨node, (without gone rest).head?, drops node state⟩ ::
        turns visit drops (gone ++ drops node state) rest (visit node state) :=
  if_neg absent

theorem walked_gone (there : node ∈ gone) :
    walked visit drops gone (node :: rest) state = walked visit drops gone rest state :=
  if_pos there

theorem walked_stays (absent : node ∉ gone) :
    walked visit drops gone (node :: rest) state =
      walked visit drops (gone ++ drops node state) rest (visit node state) :=
  if_neg absent

theorem turns_project {Part : Type*} {project : State → Part} {visitPart : Node → Part → Part}
    {dropsPart : Node → Part → List Node}
    (visits : ∀ node state, project (visit node state) = visitPart node (project state))
    (drop : ∀ node state, drops node state = dropsPart node (project state)) :
    turns visit drops gone rest state =
      turns visitPart dropsPart gone rest (project state) := by
  induction rest generalizing gone state with
  | nil => rfl
  | cons node rest ih =>
      by_cases there : node ∈ gone
      · rw [turns_gone there, turns_gone there, ih]
      · rw [turns_stays there, turns_stays there, ih, drop, visits]

end Turns

section Loops

variable {State : Type*} {links : State → Links Node} {visit : Node → State → State}
  {drops : Node → State → List Node} {head : Node}

/-- A visit drops what `drops` says, and never the head. -/
structure Dropping (links : State → Links Node) (visit : Node → State → State)
    (drops : Node → State → List Node) (head : Node) : Prop where
  unlinks : ∀ node state, links (visit node state) = dropAll (drops node state) (links state)
  apart : ∀ node state, head ∉ drops node state

variable {gone front rest : List Node} {state : State} {node : Node}

theorem Dropping.sole (dropping : Dropping links visit drops head) {nodes : List Node}
    (sole : Sole (links state) head nodes) (node : Node) :
    Sole (links (visit node state)) head (without (drops node state) nodes) := by
  rw [dropping.unlinks]
  exact sole_drop_all sole (dropping.apart node state)

theorem Dropping.walked_sole (dropping : Dropping links visit drops head) {nodes : List Node}
    (sole : Sole (links state) head nodes) :
    Sole (links (walked visit drops gone rest state)) head
      (without (droppedBy (turns visit drops gone rest state)) nodes) := by
  induction rest generalizing gone state nodes with
  | nil =>
      have same : without [] nodes = nodes := by simp [without]
      have none : droppedBy (turns visit drops gone [] state) = [] := rfl
      rw [none, same]
      exact sole
  | cons node rest ih =>
      by_cases there : node ∈ gone
      · rw [walked_gone there, turns_gone there]
        exact ih sole
      · rw [walked_stays there, turns_stays there]
        rw [droppedBy, List.flatMap_cons, ← without_without]
        exact ih (dropping.sole sole node)

theorem foreach_more {fuel more : Nat} {after : State}
    (returned : foreach links visit head fuel node state = some after) (larger : fuel ≤ more) :
    foreach links visit head more node state = some after := by
  induction fuel generalizing more node state with
  | zero => cases returned
  | succ fuel ih =>
      cases more with
      | zero => cases larger
      | succ more =>
          unfold foreach at returned ⊢
          split
          · rename_i arrived
            rw [if_pos arrived] at returned
            exact returned
          · rename_i onward
            rw [if_neg onward] at returned
            exact ih returned (Nat.le_of_succ_le_succ larger)

theorem foreach_safe_more {fuel more : Nat} {saved : Node} {after : State}
    (returned : foreachSafe links visit head fuel node saved state = some after)
    (larger : fuel ≤ more) :
    foreachSafe links visit head more node saved state = some after := by
  induction fuel generalizing more node saved state with
  | zero => cases returned
  | succ fuel ih =>
      cases more with
      | zero => cases larger
      | succ more =>
          unfold foreachSafe at returned ⊢
          split
          · rename_i arrived
            rw [if_pos arrived] at returned
            exact returned
          · rename_i onward
            rw [if_neg onward] at returned
            exact ih returned (Nat.le_of_succ_le_succ larger)

theorem foreach_stuck (dropping : Dropping links visit drops head) {nodes : List Node}
    (sole : Sole (links state) head nodes) (other : node ≠ head) (absent : node ∉ nodes)
    (fuel : Nat) : foreach links visit head fuel node state = none := by
  induction fuel generalizing state nodes with
  | zero => rfl
  | succ fuel ih =>
      have after := dropping.sole sole node
      have still : node ∉ without (drops node state) nodes :=
        fun member => absent (List.mem_of_mem_filter member)
      have onward := (after.next_self_iff other).mpr still
      unfold foreach
      simp only [other, if_false, onward]
      exact ih after still

theorem foreach_safe_stuck (dropping : Dropping links visit drops head) {nodes : List Node}
    (sole : Sole (links state) head nodes) (other : node ≠ head) (absent : node ∉ nodes)
    (fuel : Nat) : foreachSafe links visit head fuel node node state = none := by
  induction fuel generalizing state nodes with
  | zero => rfl
  | succ fuel ih =>
      have after := dropping.sole sole node
      have still : node ∉ without (drops node state) nodes :=
        fun member => absent (List.mem_of_mem_filter member)
      have onward := (after.next_self_iff other).mpr still
      unfold foreachSafe
      simp only [other, if_false, onward]
      exact ih after still

theorem Dropping.sole_ahead (dropping : Dropping links visit drops head)
    (sole : Sole (links state) head (front ++ node :: without gone rest)) :
    Sole (links (visit node state)) head
      (without (drops node state) (front ++ [node]) ++
        without (gone ++ drops node state) rest) := by
  rw [List.append_cons] at sole
  have after := dropping.sole sole node
  rw [without_append, without_without] at after
  exact after

theorem foreach_turns (dropping : Dropping links visit drops head)
    (sole : Sole (links state) head (front ++ without gone rest))
    (stays : ∀ turn ∈ turns visit drops gone rest state, turn.node ∉ turn.dropped)
    {fuel : Nat} (enough : rest.length < fuel) :
    foreach links visit head fuel ((without gone rest).headD head) state =
      some (walked visit drops gone rest state) := by
  induction rest generalizing gone front state fuel with
  | nil =>
      cases fuel with
      | zero => cases enough
      | succ fuel => exact if_pos rfl
  | cons node rest ih =>
      have shorter : rest.length < fuel := Nat.lt_of_succ_lt enough
      by_cases there : node ∈ gone
      · rw [without_cons_gone there] at sole ⊢
        rw [turns_gone there] at stays
        rw [walked_gone there]
        exact ih sole stays shorter
      · rw [without_cons_stays there] at sole ⊢
        rw [turns_stays there] at stays
        rw [walked_stays there]
        cases fuel with
        | zero => cases enough
        | succ fuel =>
            have inside := (List.nodup_cons.mp sole.ring.distinct).1
            have notHead : node ≠ head := fun same => inside (by simp [same])
            have kept : node ∉ drops node state := stays _ (List.mem_cons_self ..)
            have after := dropping.sole_ahead sole
            have place : without (drops node state) (front ++ [node]) =
                without (drops node state) front ++ [node] := by
              rw [without_append, without_cons_stays kept]
              rfl
            rw [place, List.append_assoc] at after
            have onward := after.ring.next_node
            rw [List.singleton_append, List.append_cons] at after
            unfold foreach
            simp only [List.headD_cons, notHead, if_false, onward]
            exact ih after (fun turn later => stays turn (List.mem_cons_of_mem _ later))
              (Nat.lt_of_succ_lt_succ enough)

theorem foreach_lost (dropping : Dropping links visit drops head)
    (sole : Sole (links state) head (front ++ without gone rest))
    (lost : ∃ turn ∈ turns visit drops gone rest state, turn.node ∈ turn.dropped)
    (fuel : Nat) :
    foreach links visit head fuel ((without gone rest).headD head) state = none := by
  induction rest generalizing gone front state fuel with
  | nil =>
      obtain ⟨turn, there, _⟩ := lost
      cases there
  | cons node rest ih =>
      by_cases there : node ∈ gone
      · rw [without_cons_gone there] at sole ⊢
        rw [turns_gone there] at lost
        exact ih sole lost fuel
      · rw [without_cons_stays there] at sole ⊢
        rw [turns_stays there] at lost
        have inside := (List.nodup_cons.mp sole.ring.distinct).1
        have notHead : node ≠ head := fun same => inside (by simp [same])
        cases fuel with
        | zero => rfl
        | succ fuel =>
            have after := dropping.sole_ahead sole
            unfold foreach
            simp only [List.headD_cons, notHead, if_false]
            by_cases kept : node ∈ drops node state
            · -- the node is on no list any more: its next node is itself
              have absent : node ∉ without (drops node state) (front ++ [node]) ++
                  without (gone ++ drops node state) rest := by
                simp [without, kept]
              rw [(after.next_self_iff notHead).mpr absent]
              exact foreach_stuck dropping after notHead absent fuel
            · have later : ∃ turn ∈ turns visit drops (gone ++ drops node state) rest
                  (visit node state), turn.node ∈ turn.dropped := by
                obtain ⟨turn, member, dropped⟩ := lost
                cases List.mem_cons.mp member with
                | inl first =>
                    subst first
                    exact absurd dropped kept
                | inr later => exact ⟨turn, later, dropped⟩
              have place : without (drops node state) (front ++ [node]) =
                  without (drops node state) front ++ [node] := by
                rw [without_append, without_cons_stays kept]
                rfl
              rw [place, List.append_assoc] at after
              have onward := after.ring.next_node
              rw [List.singleton_append, List.append_cons] at after
              rw [onward]
              exact ih after later fuel

/-- The plain loop returns exactly where no visit drops its own node, and does the turns. -/
theorem foreach_returns_iff (dropping : Dropping links visit drops head) {nodes : List Node}
    (sole : Sole (links state) head nodes) :
    ((∃ fuel after, foreach links visit head fuel (nodes.headD head) state = some after) ↔
      ∀ turn ∈ turns visit drops [] nodes state, turn.node ∉ turn.dropped) ∧
    ∀ fuel after, foreach links visit head fuel (nodes.headD head) state = some after →
      after = walked visit drops [] nodes state := by
  have all : without [] nodes = nodes := by simp [without]
  have whole : Sole (links state) head ([] ++ without [] nodes) := by
    rw [all]
    exact sole
  have keeps : ∀ fuel after, foreach links visit head fuel (nodes.headD head) state = some after →
      ∀ turn ∈ turns visit drops [] nodes state, turn.node ∉ turn.dropped := by
    intro fuel after returned turn there dropped
    have never := foreach_lost dropping whole ⟨turn, there, dropped⟩ fuel
    rw [all] at never
    cases never.symm.trans returned
  have walks : ∀ fuel, nodes.length < fuel →
      (∀ turn ∈ turns visit drops [] nodes state, turn.node ∉ turn.dropped) →
      foreach links visit head fuel (nodes.headD head) state =
        some (walked visit drops [] nodes state) := by
    intro fuel enough stays
    have done := foreach_turns dropping whole stays enough
    rw [all] at done
    exact done
  refine ⟨⟨?_, ?_⟩, ?_⟩
  · exact fun ⟨fuel, after, returned⟩ => keeps fuel after returned
  · exact fun stays => ⟨_, _, walks _ (Nat.lt_succ_self _) stays⟩
  · intro fuel after returned
    have more := foreach_more returned (Nat.le_max_left fuel (nodes.length + 1))
    rw [walks _ (Nat.le_max_right fuel _) (keeps fuel after returned)] at more
    exact (Option.some.inj more).symm

theorem foreach_safe_turns (dropping : Dropping links visit drops head)
    (sole : Sole (links state) head (front ++ without gone rest))
    (stays : ∀ turn ∈ turns visit drops gone rest state, ∀ next ∈ turn.next, next ∉ turn.dropped)
    {fuel : Nat} (enough : rest.length < fuel) :
    foreachSafe links visit head fuel ((without gone rest).headD head)
        ((links state).next ((without gone rest).headD head)) state =
      some (walked visit drops gone rest state) := by
  induction rest generalizing gone front state fuel with
  | nil =>
      cases fuel with
      | zero => cases enough
      | succ fuel => exact if_pos rfl
  | cons node rest ih =>
      have shorter : rest.length < fuel := Nat.lt_of_succ_lt enough
      by_cases there : node ∈ gone
      · rw [without_cons_gone there] at sole ⊢
        rw [turns_gone there] at stays
        rw [walked_gone there]
        exact ih sole stays shorter
      · rw [without_cons_stays there] at sole ⊢
        rw [turns_stays there] at stays
        rw [walked_stays there]
        cases fuel with
        | zero => cases enough
        | succ fuel =>
            have inside := (List.nodup_cons.mp sole.ring.distinct).1
            have notHead : node ≠ head := fun same => inside (by simp [same])
            have kept := stays _ (List.mem_cons_self ..)
            have saved : (without gone rest).headD head =
                (without (gone ++ drops node state) rest).headD head :=
              head_without kept
            unfold foreachSafe
            simp only [List.headD_cons, notHead, if_false, sole.ring.next_node, saved]
            exact ih (dropping.sole_ahead sole)
              (fun turn later => stays turn (List.mem_cons_of_mem _ later))
              (Nat.lt_of_succ_lt_succ enough)

theorem foreach_safe_lost (dropping : Dropping links visit drops head)
    (sole : Sole (links state) head (front ++ without gone rest))
    (lost : ∃ turn ∈ turns visit drops gone rest state, ∃ next ∈ turn.next, next ∈ turn.dropped)
    (fuel : Nat) :
    foreachSafe links visit head fuel ((without gone rest).headD head)
      ((links state).next ((without gone rest).headD head)) state = none := by
  induction rest generalizing gone front state fuel with
  | nil =>
      obtain ⟨turn, there, _⟩ := lost
      cases there
  | cons node rest ih =>
      by_cases there : node ∈ gone
      · rw [without_cons_gone there] at sole ⊢
        rw [turns_gone there] at lost
        exact ih sole lost fuel
      · rw [without_cons_stays there] at sole ⊢
        rw [turns_stays there] at lost
        have inside := (List.nodup_cons.mp sole.ring.distinct).1
        have notHead : node ≠ head := fun same => inside (by simp [same])
        cases fuel with
        | zero => rfl
        | succ fuel =>
            have after := dropping.sole_ahead sole
            unfold foreachSafe
            simp only [List.headD_cons, notHead, if_false, sole.ring.next_node]
            by_cases kept : ∀ next ∈ (without gone rest).head?, next ∉ drops node state
            · have later : ∃ turn ∈ turns visit drops (gone ++ drops node state) rest
                  (visit node state), ∃ next ∈ turn.next, next ∈ turn.dropped := by
                obtain ⟨turn, member, next, follows, dropped⟩ := lost
                cases List.mem_cons.mp member with
                | inl first =>
                    subst first
                    exact absurd dropped (kept next follows)
                | inr later => exact ⟨turn, later, next, follows, dropped⟩
              rw [head_without kept]
              exact ih after later fuel
            · -- the saved node is on no list any more: its next node is itself
              obtain ⟨next, follows, dropped⟩ : ∃ next ∈ (without gone rest).head?,
                  next ∈ drops node state := by
                simpa using kept
              obtain ⟨tail, ahead⟩ := List.head?_eq_some_iff.mp follows
              rw [ahead, List.headD_cons]
              have nextInside : next ≠ head := by
                rw [ahead] at inside
                exact fun same => inside (by simp [same])
              have absent : next ∉ without (drops node state) (front ++ [node]) ++
                  without (gone ++ drops node state) rest := by
                simp [without, dropped]
              rw [(after.next_self_iff nextInside).mpr absent]
              exact foreach_safe_stuck dropping after nextInside absent fuel

/-- The loop that saves the next node returns exactly where no visit drops that one, and
does the turns. -/
theorem foreach_safe_returns_iff (dropping : Dropping links visit drops head)
    {nodes : List Node} (sole : Sole (links state) head nodes) :
    ((∃ fuel after, foreachSafe links visit head fuel (nodes.headD head)
        ((links state).next (nodes.headD head)) state = some after) ↔
      ∀ turn ∈ turns visit drops [] nodes state, ∀ next ∈ turn.next, next ∉ turn.dropped) ∧
    ∀ fuel after, foreachSafe links visit head fuel (nodes.headD head)
        ((links state).next (nodes.headD head)) state = some after →
      after = walked visit drops [] nodes state := by
  have all : without [] nodes = nodes := by simp [without]
  have whole : Sole (links state) head ([] ++ without [] nodes) := by
    rw [all]
    exact sole
  have keeps : ∀ fuel after, foreachSafe links visit head fuel (nodes.headD head)
      ((links state).next (nodes.headD head)) state = some after →
      ∀ turn ∈ turns visit drops [] nodes state, ∀ next ∈ turn.next, next ∉ turn.dropped := by
    intro fuel after returned turn there next follows dropped
    have never := foreach_safe_lost dropping whole ⟨turn, there, next, follows, dropped⟩ fuel
    rw [all] at never
    cases never.symm.trans returned
  have walks : ∀ fuel, nodes.length < fuel →
      (∀ turn ∈ turns visit drops [] nodes state, ∀ next ∈ turn.next, next ∉ turn.dropped) →
      foreachSafe links visit head fuel (nodes.headD head)
          ((links state).next (nodes.headD head)) state =
        some (walked visit drops [] nodes state) := by
    intro fuel enough stays
    have done := foreach_safe_turns dropping whole stays enough
    rw [all] at done
    exact done
  refine ⟨⟨?_, ?_⟩, ?_⟩
  · exact fun ⟨fuel, after, returned⟩ => keeps fuel after returned
  · exact fun stays => ⟨_, _, walks _ (Nat.lt_succ_self _) stays⟩
  · intro fuel after returned
    have more := foreach_safe_more returned (Nat.le_max_left fuel (nodes.length + 1))
    rw [walks _ (Nat.le_max_right fuel _) (keeps fuel after returned)] at more
    exact (Option.some.inj more).symm

end Loops

end Nlif.DroppingWalk
