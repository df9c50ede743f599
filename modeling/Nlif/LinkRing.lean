import Mathlib.Data.List.Nodup
import Mathlib.Logic.Function.Basic
import Mathlib.Tactic.Common

/-!
Circular lists of intrusive nodes, each with a pointer to either neighbour, and
the two loops that walk them. A list is known by its head, which is a node like
the others; a node that is its own neighbour is on no list. The loops read the
pointers at every turn, so a visit may unlink nodes under them; fuel bounds the
number of turns.
-/

namespace Nlif.LinkRing

set_option autoImplicit false

variable {Node : Type*}

structure Links (Node : Type*) where
  next : Node → Node
  prev : Node → Node

/-- Every node is initialised and on no list. -/
def unlinked : Links Node where
  next := id
  prev := id

structure Alone (links : Links Node) (node : Node) : Prop where
  next : links.next node = node
  prev : links.prev node = node

/-- Following `next` from `first` passes these nodes and arrives at `last`, and
`prev` leads back. -/
def Segment (links : Links Node) : Node → List Node → Node → Prop
  | first, [], last => links.next first = last ∧ links.prev last = first
  | first, node :: rest, last =>
      links.next first = node ∧ links.prev node = first ∧ Segment links node rest last

structure Ring (links : Links Node) (head : Node) (nodes : List Node) : Prop where
  distinct : (head :: nodes).Nodup
  linked : Segment links head nodes head

theorem ring_unlinked (head : Node) : Ring unlinked head [] where
  distinct := List.nodup_singleton head
  linked := ⟨rfl, rfl⟩

/-- A segment reads `next` of all its nodes but the last and `prev` of all but the first. -/
theorem Segment.frame {links later : Links Node} {first last : Node} {nodes : List Node}
    (segment : Segment links first nodes last)
    (next : ∀ node ∈ first :: nodes, later.next node = links.next node)
    (prev : ∀ node ∈ last :: nodes, later.prev node = links.prev node) :
    Segment later first nodes last := by
  induction nodes generalizing first with
  | nil => exact ⟨(next first (by simp)).trans segment.1, (prev last (by simp)).trans segment.2⟩
  | cons node rest ih =>
      obtain ⟨there, back, segment⟩ := segment
      refine ⟨(next first (by simp)).trans there, (prev node (by simp)).trans back, ?_⟩
      apply ih segment
      · intro other member
        exact next other (List.mem_cons_of_mem first member)
      · intro other member
        apply prev other
        simp only [List.mem_cons] at member ⊢
        tauto

theorem Segment.next_first {links : Links Node} {first last : Node} {nodes : List Node}
    (segment : Segment links first nodes last) : links.next first = nodes.headD last := by
  cases nodes with
  | nil => exact segment.1
  | cons node rest => exact segment.1

theorem Segment.prev_last {links : Links Node} {first last : Node} {nodes : List Node}
    (segment : Segment links first nodes last) : links.prev last ∈ first :: nodes := by
  induction nodes generalizing first with
  | nil =>
      rw [segment.2]
      exact List.mem_cons_self
  | cons node rest ih => exact List.mem_cons_of_mem first (ih segment.2.2)

theorem Segment.split {links : Links Node} {first node last : Node} {front rest : List Node}
    (segment : Segment links first (front ++ node :: rest) last) :
    Segment links first front node ∧ Segment links node rest last := by
  induction front generalizing first with
  | nil => exact ⟨⟨segment.1, segment.2.1⟩, segment.2.2⟩
  | cons other front ih =>
      obtain ⟨there, back, segment⟩ := segment
      have parts := ih segment
      exact ⟨⟨there, back, parts.1⟩, parts.2⟩

variable [DecidableEq Node]

/-- Adding a node before `head`, at the end of its list. -/
def nqueueBack (head node : Node) (links : Links Node) : Links Node where
  next := Function.update (Function.update links.next node head) (links.prev head) node
  prev := Function.update (Function.update links.prev node (links.prev head)) head node

/-- Unlinking a node, which becomes its own neighbour. -/
def removeInit (node : Node) (links : Links Node) : Links Node where
  next := Function.update (Function.update links.next (links.prev node) (links.next node))
    node node
  prev := Function.update (Function.update links.prev (links.next node) (links.prev node))
    node node

theorem alone_remove_init (node : Node) (links : Links Node) : Alone (removeInit node links) node :=
  ⟨Function.update_self .., Function.update_self ..⟩

theorem remove_init_alone {links : Links Node} {node : Node} (alone : Alone links node) :
    removeInit node links = links := by
  have next : Function.update links.next node node = links.next :=
    Function.update_eq_self_iff.mpr alone.next.symm
  have prev : Function.update links.prev node node = links.prev :=
    Function.update_eq_self_iff.mpr alone.prev.symm
  unfold removeInit
  rw [alone.next, alone.prev, next, prev, next, prev]

theorem nqueue_back_next_other {head node other : Node} {links : Links Node}
    (before : other ≠ links.prev head) (different : other ≠ node) :
    (nqueueBack head node links).next other = links.next other := by
  simp [nqueueBack, before, different]

theorem nqueue_back_prev_other {head node other : Node} {links : Links Node}
    (isHead : other ≠ head) (different : other ≠ node) :
    (nqueueBack head node links).prev other = links.prev other := by
  simp [nqueueBack, isHead, different]

theorem remove_init_next_other {node other : Node} {links : Links Node}
    (before : other ≠ links.prev node) (different : other ≠ node) :
    (removeInit node links).next other = links.next other := by
  simp [removeInit, before, different]

theorem remove_init_prev_other {node other : Node} {links : Links Node}
    (after : other ≠ links.next node) (different : other ≠ node) :
    (removeInit node links).prev other = links.prev other := by
  simp [removeInit, after, different]

theorem Segment.nqueue_back {links : Links Node} {first last node : Node} {nodes : List Node}
    (segment : Segment links first nodes last) (distinct : (first :: nodes).Nodup)
    (fresh : node ∉ first :: nodes) (other : node ≠ last) (outside : last ∉ nodes) :
    Segment (nqueueBack last node links) first (nodes ++ [node]) last := by
  induction nodes generalizing first with
  | nil =>
      obtain ⟨there, back⟩ := segment
      have apart : node ≠ first := fun same => fresh (by simp [same])
      refine ⟨?_, ?_, ?_, Function.update_self ..⟩
      · simp [nqueueBack, back]
      · simp [nqueueBack, back, other]
      · simp [nqueueBack, back, apart]
  | cons middle rest ih =>
      obtain ⟨there, back, segment⟩ := segment
      obtain ⟨firstOff, distinct⟩ := List.nodup_cons.mp distinct
      have tail := segment.prev_last
      have notTail : first ≠ links.prev last := fun same => firstOff (same ▸ tail)
      have notFirst : first ≠ node := fun same => fresh (by simp [same])
      have notMiddle : middle ≠ node := fun same => fresh (by simp [same])
      have notLast : middle ≠ last := fun same => outside (by simp [same])
      refine ⟨?_, ?_, ?_⟩
      · rw [nqueue_back_next_other notTail notFirst, there]
      · rw [nqueue_back_prev_other notLast notMiddle, back]
      · apply ih segment distinct
        · exact fun member => fresh (List.mem_cons_of_mem first member)
        · exact fun member => outside (List.mem_cons_of_mem middle member)

theorem Segment.remove_next {links : Links Node} {first last node : Node} {rest : List Node}
    (segment : Segment links first (node :: rest) last)
    (distinct : (first :: node :: rest).Nodup) (outside : last ∉ node :: rest) :
    Segment (removeInit node links) first rest last := by
  obtain ⟨there, back, segment⟩ := segment
  obtain ⟨firstOff, distinct⟩ := List.nodup_cons.mp distinct
  have apart : first ≠ node := fun same => firstOff (by simp [same])
  have notLast : node ≠ last := fun same => outside (by simp [same])
  cases rest with
  | nil =>
      obtain ⟨onward, behind⟩ := segment
      refine ⟨?_, ?_⟩
      · simp [removeInit, back, apart, onward]
      · simp [removeInit, onward, back, Ne.symm notLast]
  | cons after rest =>
      obtain ⟨onward, behind, segment⟩ := segment
      obtain ⟨nodeOff, distinct⟩ := List.nodup_cons.mp distinct
      obtain ⟨afterOff, distinct⟩ := List.nodup_cons.mp distinct
      have notAfter : after ≠ node := fun same => nodeOff (by simp [same])
      refine ⟨?_, ?_, segment.frame ?_ ?_⟩
      · simp [removeInit, back, apart, onward]
      · simp [removeInit, onward, notAfter, back]
      · intro other member
        apply remove_init_next_other
        · rintro rfl
          exact firstOff (List.mem_cons_of_mem node (back ▸ member))
        · rintro rfl
          exact nodeOff member
      · intro other member
        rw [List.mem_cons] at member
        apply remove_init_prev_other
        · rw [onward]
          rintro rfl
          exact member.elim (fun same => outside (by simp [same])) afterOff
        · rintro rfl
          exact member.elim notLast fun inside => nodeOff (List.mem_cons_of_mem after inside)

theorem Segment.remove_init {links : Links Node} {first last node : Node}
    {front rest : List Node} (segment : Segment links first (front ++ node :: rest) last)
    (distinct : (first :: (front ++ node :: rest)).Nodup)
    (outside : last ∉ front ++ node :: rest) :
    Segment (removeInit node links) first (front ++ rest) last := by
  induction front generalizing first with
  | nil => exact segment.remove_next distinct outside
  | cons middle front ih =>
      obtain ⟨there, back, segment⟩ := segment
      obtain ⟨firstOff, distinct⟩ := List.nodup_cons.mp distinct
      obtain ⟨middleOff, _⟩ := List.nodup_cons.mp distinct
      obtain ⟨before, onward⟩ := segment.split
      have tail := before.prev_last
      have notTail : first ≠ links.prev node := by
        intro same
        apply firstOff
        rw [same]
        exact List.mem_append_left (node :: rest) tail
      have notFirst : first ≠ node := fun same => firstOff (by simp [same])
      have notMiddle : middle ≠ node := fun same => middleOff (by simp [same])
      have notNext : middle ≠ links.next node := by
        rw [onward.next_first]
        cases rest with
        | nil => exact fun same => outside (by simp [same])
        | cons after rest => exact fun same => middleOff (by simp [same])
      refine ⟨?_, ?_, ?_⟩
      · rw [remove_init_next_other notTail notFirst, there]
      · rw [remove_init_prev_other notNext notMiddle, back]
      · exact ih segment distinct fun member => outside (List.mem_cons_of_mem middle member)

theorem Ring.nqueue_back {links : Links Node} {head node : Node} {nodes : List Node}
    (ring : Ring links head nodes) (other : node ≠ head) (fresh : node ∉ nodes) :
    Ring (nqueueBack head node links) head (nodes ++ [node]) where
  distinct := by
    rw [← List.cons_append]
    apply List.Nodup.append ring.distinct (List.nodup_singleton node)
    simpa [other] using fresh
  linked := by
    have outside := (List.nodup_cons.mp ring.distinct).1
    exact ring.linked.nqueue_back ring.distinct (by simp [other, fresh]) other outside

theorem Ring.remove_init {links : Links Node} {head node : Node} {front rest : List Node}
    (ring : Ring links head (front ++ node :: rest)) :
    Ring (removeInit node links) head (front ++ rest) where
  distinct := by
    have shorter := (List.sublist_cons_self node rest).append_left front
    exact List.Nodup.sublist (shorter.cons_cons head) ring.distinct
  linked := by
    have outside := (List.nodup_cons.mp ring.distinct).1
    exact ring.linked.remove_init ring.distinct outside

omit [DecidableEq Node] in
theorem Ring.next_node {links : Links Node} {head node : Node} {front rest : List Node}
    (ring : Ring links head (front ++ node :: rest)) : links.next node = rest.headD head :=
  ring.linked.split.2.next_first

omit [DecidableEq Node] in
theorem Ring.prev_node {links : Links Node} {head node : Node} {front rest : List Node}
    (ring : Ring links head (front ++ node :: rest)) : links.prev node ∈ head :: front :=
  ring.linked.split.1.prev_last

omit [DecidableEq Node] in
theorem Ring.next_ne {links : Links Node} {head node : Node} {nodes : List Node}
    (ring : Ring links head nodes) (member : node ∈ nodes) : links.next node ≠ node := by
  obtain ⟨front, rest, rfl⟩ := List.append_of_mem member
  obtain ⟨outside, distinct⟩ := List.nodup_cons.mp ring.distinct
  rw [ring.next_node]
  cases rest with
  | nil => exact fun same => outside (by simp [← same])
  | cons after rest =>
      have apart := (List.nodup_cons.mp (List.Nodup.of_append_right distinct)).1
      exact fun same => apart (by simp [← same])

/-- A list beside which every node is on none. -/
structure Sole (links : Links Node) (head : Node) (nodes : List Node) : Prop where
  ring : Ring links head nodes
  others : ∀ node, node ∉ head :: nodes → Alone links node

omit [DecidableEq Node] in
theorem sole_unlinked (head : Node) : Sole unlinked head [] where
  ring := ring_unlinked head
  others _ _ := ⟨rfl, rfl⟩

omit [DecidableEq Node] in
theorem Sole.next_self_iff {links : Links Node} {head node : Node} {nodes : List Node}
    (sole : Sole links head nodes) (other : node ≠ head) :
    links.next node = node ↔ node ∉ nodes := by
  constructor
  · exact fun same member => sole.ring.next_ne member same
  · intro outside
    exact (sole.others node (by simp [other, outside])).next

theorem Sole.nqueue_back {links : Links Node} {head node : Node} {nodes : List Node}
    (sole : Sole links head nodes) (other : node ≠ head) (fresh : node ∉ nodes) :
    Sole (nqueueBack head node links) head (nodes ++ [node]) where
  ring := sole.ring.nqueue_back other fresh
  others outsider outside := by
    simp only [List.mem_cons, List.mem_append, not_or] at outside
    obtain ⟨notHead, notListed, different, _⟩ := outside
    have off : outsider ∉ head :: nodes := by simp [notHead, notListed]
    have alone := sole.others outsider off
    have notTail : outsider ≠ links.prev head :=
      fun same => off (same ▸ sole.ring.linked.prev_last)
    constructor
    · rw [nqueue_back_next_other notTail different, alone.next]
    · rw [nqueue_back_prev_other notHead different, alone.prev]

theorem Sole.remove_init {links : Links Node} {head node : Node} {front rest : List Node}
    (sole : Sole links head (front ++ node :: rest)) :
    Sole (removeInit node links) head (front ++ rest) where
  ring := sole.ring.remove_init
  others outsider outside := by
    by_cases self : outsider = node
    · subst self
      exact alone_remove_init outsider links
    · simp only [List.mem_cons, List.mem_append, not_or] at outside
      obtain ⟨notHead, notFront, notRest⟩ := outside
      have alone := sole.others outsider (by simp [notHead, notFront, notRest, self])
      have notPrev : outsider ≠ links.prev node := by
        rintro rfl
        have member := sole.ring.prev_node
        simp [notHead, notFront] at member
      have notNext : outsider ≠ links.next node := by
        rw [sole.ring.next_node]
        cases rest with
        | nil => exact notHead
        | cons after rest => exact fun same => notRest (by simp [same])
      constructor
      · rw [remove_init_next_other notPrev self, alone.next]
      · rw [remove_init_prev_other notNext self, alone.prev]

theorem Sole.remove_any {links : Links Node} {head node : Node} {nodes : List Node}
    (sole : Sole links head nodes) (other : node ≠ head) :
    Sole (removeInit node links) head (nodes.erase node) := by
  by_cases member : node ∈ nodes
  · obtain ⟨front, rest, rfl⟩ := List.append_of_mem member
    have distinct := (List.nodup_cons.mp sole.ring.distinct).2
    have fresh : node ∉ front := by
      intro inFront
      exact (List.disjoint_of_nodup_append distinct) inFront List.mem_cons_self
    rw [List.erase_append_right _ fresh, List.erase_cons_head]
    exact sole.remove_init
  · have alone := sole.others node (by simp [other, member])
    rw [List.erase_of_not_mem member, remove_init_alone alone]
    exact sole

section Walks

variable {State : Type*} (links : State → Links Node) (visit : Node → State → State) (head : Node)

/-- `for (node = head->next; node != head; node = node->next) visit(node);` from a node on. -/
def foreach : Nat → Node → State → Option State
  | 0, _, _ => none
  | fuel + 1, node, state =>
      if node = head then some state
      else
        let state := visit node state
        foreach fuel ((links state).next node) state

def foreachSafe : Nat → Node → Node → State → Option State
  | 0, _, _, _ => none
  | fuel + 1, node, saved, state =>
      if node = head then some state
      else
        let state := visit node state
        foreachSafe fuel saved ((links state).next saved) state

def visitAll (nodes : List Node) (state : State) : State :=
  nodes.foldl (fun state node => visit node state) state

def remaining (drops : Node → State → Bool) : List Node → State → List Node
  | [], _ => []
  | node :: rest, state =>
      if drops node state then remaining drops rest (visit node state)
      else node :: remaining drops rest (visit node state)

variable {links visit head}

theorem foreach_visits (kept : ∀ node state, links (visit node state) = links state)
    {front rest : List Node} {state : State} (ring : Ring (links state) head (front ++ rest))
    {fuel : Nat} (enough : rest.length < fuel) :
    foreach links visit head fuel (rest.headD head) state = some (visitAll visit rest state) := by
  induction rest generalizing front state fuel with
  | nil =>
      cases fuel with
      | zero => cases enough
      | succ fuel => exact if_pos rfl
  | cons node rest ih =>
      cases fuel with
      | zero => cases enough
      | succ fuel =>
          have inside := (List.nodup_cons.mp ring.distinct).1
          have notHead : node ≠ head := fun same => inside (by simp [same])
          have onward := ring.next_node
          rw [← kept node state] at onward
          rw [List.append_cons, ← kept node state] at ring
          unfold foreach
          simp only [List.headD_cons, notHead, if_false, onward]
          exact ih ring (Nat.lt_of_succ_lt_succ enough)

/-- A safe walk whose visits unlink at most the visited node visits every node
once, in order, and leaves the list of those that were not unlinked. -/
theorem foreach_safe_visits {drops : Node → State → Bool}
    (unlinks : ∀ node state, links (visit node state) =
      if drops node state then removeInit node (links state) else links state)
    {front rest : List Node} {state : State} (sole : Sole (links state) head (front ++ rest))
    {fuel : Nat} (enough : rest.length < fuel) :
    foreachSafe links visit head fuel (rest.headD head) ((links state).next (rest.headD head))
        state = some (visitAll visit rest state) ∧
      Sole (links (visitAll visit rest state)) head
        (front ++ remaining visit drops rest state) := by
  induction rest generalizing front state fuel with
  | nil =>
      cases fuel with
      | zero => cases enough
      | succ fuel => exact ⟨if_pos rfl, sole⟩
  | cons node rest ih =>
      cases fuel with
      | zero => cases enough
      | succ fuel =>
          have inside := (List.nodup_cons.mp sole.ring.distinct).1
          have notHead : node ≠ head := fun same => inside (by simp [same])
          have shorter := Nat.lt_of_succ_lt_succ enough
          -- the saved node is the next one whether or not the visit unlinks this one
          unfold foreachSafe remaining
          simp only [List.headD_cons, notHead, if_false, sole.ring.next_node]
          have after := unlinks node state
          cases dropped : drops node state with
          | true =>
              rw [dropped, if_pos rfl] at after
              have left := sole.remove_init
              rw [← after] at left
              exact ih left shorter
          | false =>
              rw [dropped, if_neg (by simp)] at after
              rw [List.append_cons, ← after] at sole
              have walked := ih sole shorter
              rw [List.append_assoc] at walked
              exact walked

end Walks

end Nlif.LinkRing
