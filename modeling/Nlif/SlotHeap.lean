import Mathlib.Logic.Function.Basic
import Mathlib.Tactic.Common

/-!
A heap whose cells are reached through slots. A slot holds at most one pointer;
storing in a slot allocates a cell, and releasing what a slot points to leaves the
pointer as it is, so that it dangles. A heap is owned when every pointer leads to a
cell of its own slot and every live cell is pointed to.
-/

namespace Nlif.SlotHeap

set_option autoImplicit false

/-- An allocation: the slot it was made for, its content, and whether it was released. -/
structure Cell (Slot Content : Type) where
  slot : Slot
  content : Content
  live : Bool

structure Heap (Slot Content : Type) where
  cells : Nat → Option (Cell Slot Content)
  next : Nat
  pointer : Slot → Option Nat

variable {Slot Content : Type}

namespace Heap

def empty : Heap Slot Content where
  cells _ := none
  next := 0
  pointer _ := none

/-- What the pointer of a slot shows, and whether it may be read. -/
def look (slot : Slot) (heap : Heap Slot Content) : Option (Content × Bool) :=
  (heap.pointer slot).bind fun id => (heap.cells id).map fun cell => (cell.content, cell.live)

variable [DecidableEq Slot]

/-- `slot = malloc(content)`. -/
def put (slot : Slot) (content : Content) (heap : Heap Slot Content) : Heap Slot Content where
  cells := Function.update heap.cells heap.next (some ⟨slot, content, true⟩)
  next := heap.next + 1
  pointer := Function.update heap.pointer slot (some heap.next)

def clear (slot : Slot) (heap : Heap Slot Content) : Heap Slot Content :=
  { heap with pointer := Function.update heap.pointer slot none }

def assign (slot : Slot) : Option Content → Heap Slot Content → Heap Slot Content
  | some content => put slot content
  | none => clear slot

omit [DecidableEq Slot] in
def release (id : Nat) (cell : Cell Slot Content) (heap : Heap Slot Content) :
    Heap Slot Content :=
  { heap with cells := Function.update heap.cells id (some { cell with live := false }) }

omit [DecidableEq Slot] in
/-- `free(slot)`, unless what the slot points to was released already. -/
def drop (slot : Slot) (heap : Heap Slot Content) : Option (Heap Slot Content) :=
  match heap.pointer slot with
  | none => some heap
  | some id =>
      (heap.cells id).bind fun cell => if cell.live then some (heap.release id cell) else none

end Heap

structure Owned (heap : Heap Slot Content) : Prop where
  fresh : ∀ id, heap.next ≤ id → heap.cells id = none
  designates : ∀ slot id, heap.pointer slot = some id →
    ∃ cell, heap.cells id = some cell ∧ cell.slot = slot
  held : ∀ id cell, heap.cells id = some cell → cell.live = true →
    heap.pointer cell.slot = some id

/-- The slot points to no live cell. -/
def Vacant (slot : Slot) (heap : Heap Slot Content) : Prop :=
  ∀ content, heap.look slot ≠ some (content, true)

theorem owned_empty : Owned (Heap.empty : Heap Slot Content) where
  fresh _ _ := rfl
  designates _ _ pointed := nomatch pointed
  held _ _ allocated := nomatch allocated

section Owned

variable {heap next : Heap Slot Content} {slot other : Slot} {content : Content} {live : Bool}

theorem look_some_iff :
    heap.look slot = some (content, live) ↔
      ∃ id cell, heap.pointer slot = some id ∧ heap.cells id = some cell ∧
        cell.content = content ∧ cell.live = live := by
  unfold Heap.look
  cases heap.pointer slot with
  | none => simp
  | some id =>
      cases heap.cells id with
      | none => simp
      | some cell => simp

theorem Owned.allocated (owned : Owned heap) {id : Nat} {cell : Cell Slot Content}
    (there : heap.cells id = some cell) : id < heap.next := by
  by_contra beyond
  rw [owned.fresh id (Nat.not_lt.mp beyond)] at there
  cases there

theorem Owned.apart (owned : Owned heap) {id : Nat} (left : heap.pointer slot = some id)
    (right : heap.pointer other = some id) : slot = other := by
  obtain ⟨cell, there, mine⟩ := owned.designates slot id left
  obtain ⟨again, thereToo, theirs⟩ := owned.designates other id right
  cases there.symm.trans thereToo
  exact mine.symm.trans theirs

theorem Owned.shown (owned : Owned heap) {id : Nat} {cell : Cell Slot Content}
    (there : heap.cells id = some cell) (alive : cell.live = true) :
    heap.look cell.slot = some (cell.content, true) :=
  look_some_iff.mpr ⟨id, cell, owned.held id cell there alive, there, rfl, alive⟩

theorem Owned.released (owned : Owned heap) (vacant : Vacant slot heap) {id : Nat}
    {cell : Cell Slot Content} (there : heap.cells id = some cell) (mine : cell.slot = slot) :
    cell.live = false := by
  by_contra alive
  have shown := owned.shown there (by simpa using alive)
  rw [mine] at shown
  exact vacant _ shown

variable [DecidableEq Slot]

theorem look_put_self (slot : Slot) (content : Content) (heap : Heap Slot Content) :
    (heap.put slot content).look slot = some (content, true) := by
  simp [Heap.look, Heap.put]

theorem look_clear_self (slot : Slot) (heap : Heap Slot Content) :
    (heap.clear slot).look slot = none := by
  simp [Heap.look, Heap.clear]

theorem look_clear_other (different : other ≠ slot) :
    (heap.clear slot).look other = heap.look other := by
  simp [Heap.look, Heap.clear, different]

theorem look_put_other (owned : Owned heap) (different : other ≠ slot) :
    (heap.put slot content).look other = heap.look other := by
  unfold Heap.look Heap.put
  simp only [Function.update_of_ne different]
  cases pointed : heap.pointer other with
  | none => rfl
  | some id =>
      obtain ⟨cell, there, _⟩ := owned.designates other id pointed
      have older : id ≠ heap.next := Nat.ne_of_lt (owned.allocated there)
      simp only [Option.bind_some, Function.update_of_ne older]

theorem look_assign_self (slot : Slot) (content : Option Content) (heap : Heap Slot Content) :
    (heap.assign slot content).look slot = content.map fun held => (held, true) := by
  cases content with
  | none => exact look_clear_self slot heap
  | some content => exact look_put_self slot content heap

theorem look_assign_other (owned : Owned heap) (content : Option Content)
    (different : other ≠ slot) : (heap.assign slot content).look other = heap.look other := by
  cases content with
  | none => exact look_clear_other different
  | some content => exact look_put_other owned different

theorem Owned.still_held (owned : Owned heap) (vacant : Vacant slot heap) {id : Nat}
    {cell : Cell Slot Content} (there : heap.cells id = some cell) (alive : cell.live = true)
    (target : Option Nat) :
    Function.update heap.pointer slot target cell.slot = some id := by
  have elsewhere : cell.slot ≠ slot := by
    intro mine
    rw [owned.released vacant there mine] at alive
    cases alive
  rw [Function.update_of_ne elsewhere]
  exact owned.held id cell there alive

theorem owned_put (owned : Owned heap) (vacant : Vacant slot heap) (content : Content) :
    Owned (heap.put slot content) where
  fresh id beyond := by
    have younger : id ≠ heap.next := Nat.ne_of_gt beyond
    simp only [Heap.put, Function.update_of_ne younger]
    exact owned.fresh id (Nat.le_of_lt beyond)
  designates other id pointed := by
    simp only [Heap.put] at pointed ⊢
    by_cases self : other = slot
    · subst self
      rw [Function.update_self] at pointed
      cases pointed
      exact ⟨_, Function.update_self .., rfl⟩
    · rw [Function.update_of_ne self] at pointed
      obtain ⟨cell, there, mine⟩ := owned.designates other id pointed
      have older : id ≠ heap.next := Nat.ne_of_lt (owned.allocated there)
      exact ⟨cell, (Function.update_of_ne older ..).trans there, mine⟩
  held id cell there alive := by
    simp only [Heap.put] at there ⊢
    by_cases new : id = heap.next
    · subst new
      rw [Function.update_self] at there
      cases there
      exact Function.update_self ..
    · rw [Function.update_of_ne new] at there
      exact owned.still_held vacant there alive _

theorem owned_clear (owned : Owned heap) (vacant : Vacant slot heap) : Owned (heap.clear slot) where
  fresh := owned.fresh
  designates other id pointed := by
    simp only [Heap.clear] at pointed
    by_cases self : other = slot
    · rw [self, Function.update_self] at pointed
      cases pointed
    · rw [Function.update_of_ne self] at pointed
      exact owned.designates other id pointed
  held id cell there alive := owned.still_held vacant there alive none

theorem owned_assign (owned : Owned heap) (vacant : Vacant slot heap) (content : Option Content) :
    Owned (heap.assign slot content) := by
  cases content with
  | none => exact owned_clear owned vacant
  | some content => exact owned_put owned vacant content

omit [DecidableEq Slot]

theorem drop_some_iff :
    heap.drop slot = some next ↔
      (heap.pointer slot = none ∧ next = heap) ∨
      ∃ id cell, heap.pointer slot = some id ∧ heap.cells id = some cell ∧ cell.live = true ∧
        next = heap.release id cell := by
  unfold Heap.drop
  cases heap.pointer slot with
  | none =>
      simp only [Option.some.injEq, true_and, reduceCtorEq, false_and, exists_false, or_false]
      exact eq_comm
  | some id =>
      cases there : heap.cells id with
      | none => simp [there]
      | some cell =>
          cases alive : cell.live with
          | false => simp [there, alive]
          | true =>
              simp only [there, Option.bind_some, alive, if_true, Option.some.injEq, reduceCtorEq,
                false_and, false_or]
              constructor
              · intro same
                exact ⟨id, cell, rfl, there, alive, same.symm⟩
              · intro released
                obtain ⟨_, _, rfl, again, _, same⟩ := released
                cases there.symm.trans again
                exact same.symm

theorem drop_none_iff (owned : Owned heap) :
    heap.drop slot = none ↔ ∃ content, heap.look slot = some (content, false) := by
  unfold Heap.drop Heap.look
  cases pointed : heap.pointer slot with
  | none => simp
  | some id =>
      obtain ⟨cell, there, _⟩ := owned.designates slot id pointed
      cases alive : cell.live with
      | false => simp [there, alive]
      | true => simp [there, alive]

theorem release_self (id : Nat) (cell : Cell Slot Content) (heap : Heap Slot Content) :
    (heap.release id cell).cells id = some { cell with live := false } :=
  Function.update_self ..

theorem release_other {id found : Nat} (cell : Cell Slot Content) (different : found ≠ id) :
    (heap.release id cell).cells found = heap.cells found :=
  Function.update_of_ne different ..

theorem owned_drop (owned : Owned heap) (dropped : heap.drop slot = some next) : Owned next := by
  cases drop_some_iff.mp dropped with
  | inl nothing => exact nothing.2 ▸ owned
  | inr released =>
      obtain ⟨freed, cell, pointed, there, _, rfl⟩ := released
      have bound := owned.allocated there
      refine ⟨fun id beyond => ?_, fun other id shown => ?_, fun id found present alive => ?_⟩
      · have younger : heap.next ≤ id := beyond
        rw [release_other cell (by omega)]
        exact owned.fresh id younger
      · obtain ⟨held, present, mine⟩ := owned.designates other id shown
        by_cases same : id = freed
        · subst same
          cases present.symm.trans there
          exact ⟨_, release_self .., mine⟩
        · exact ⟨held, (release_other cell same).trans present, mine⟩
      · by_cases same : id = freed
        · subst same
          rw [release_self] at present
          cases present
          cases alive
        · rw [release_other cell same] at present
          exact owned.held id found present alive

theorem look_drop_self (dropped : heap.drop slot = some next) :
    next.look slot = (heap.look slot).map fun shown => (shown.1, false) := by
  cases drop_some_iff.mp dropped with
  | inl nothing =>
      rw [nothing.2]
      simp [Heap.look, nothing.1]
  | inr released =>
      obtain ⟨freed, cell, pointed, there, _, rfl⟩ := released
      simp [Heap.look, Heap.release, pointed, there]

theorem look_drop_other (owned : Owned heap) (different : other ≠ slot)
    (dropped : heap.drop slot = some next) : next.look other = heap.look other := by
  cases drop_some_iff.mp dropped with
  | inl nothing => rw [nothing.2]
  | inr released =>
      obtain ⟨freed, cell, pointed, there, _, rfl⟩ := released
      have kept : (heap.release freed cell).pointer = heap.pointer := rfl
      unfold Heap.look
      rw [kept]
      cases shown : heap.pointer other with
      | none => rfl
      | some id =>
          have elsewhere : id ≠ freed := by
            intro same
            subst same
            exact different (owned.apart shown pointed)
          simp only [Option.bind_some, release_other cell elsewhere]

end Owned

end Nlif.SlotHeap
