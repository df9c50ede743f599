import Mathlib.Logic.Function.Basic
import Mathlib.Tactic.Common

/-!
A cache fed by a queue of changes. A source has a value for some keys and appends every
change of a value to a queue; a cache is shown the changes in order and may also be filled
from the source directly, out of order with the queue. `Leads` is what all of these keep: the
changes still queued bring what is shown of a key to its value at the source.
-/

namespace Nlif.ChangeFeed

set_option autoImplicit false

variable {Key Value : Type} [DecidableEq Key]

/-- What is shown of a key once these changes, the oldest first, have been delivered. -/
def foretold (key : Key) (changes : List (Key × Value)) (shown : Value) : Value :=
  changes.foldl (fun shown change => if change.1 = key then change.2 else shown) shown

theorem foretold_cons (key : Key) (change : Key × Value) (rest : List (Key × Value))
    (shown : Value) : foretold key (change :: rest) shown =
      foretold key rest (if change.1 = key then change.2 else shown) := rfl

theorem foretold_append (key : Key) (first second : List (Key × Value)) (shown : Value) :
    foretold key (first ++ second) shown = foretold key second (foretold key first shown) :=
  List.foldl_append ..

theorem foretold_snoc (key : Key) (changes : List (Key × Value)) (change : Key × Value)
    (shown : Value) : foretold key (changes ++ [change]) shown =
      if change.1 = key then change.2 else foretold key changes shown := by
  rw [foretold_append]
  rfl

theorem foretold_untold {key : Key} {changes : List (Key × Value)}
    (untold : ∀ change ∈ changes, change.1 ≠ key) (shown : Value) :
    foretold key changes shown = shown := by
  induction changes with
  | nil => rfl
  | cons change rest ih =>
      rw [foretold_cons, if_neg (untold change (List.mem_cons_self ..))]
      exact ih fun later listed => untold later (List.mem_cons_of_mem _ listed)

/-- To be shown early what the changes lead to makes no difference. -/
theorem foretold_foretold (key : Key) (changes : List (Key × Value)) (shown : Value) :
    foretold key changes (foretold key changes shown) = foretold key changes shown := by
  induction changes generalizing shown with
  | nil => rfl
  | cons change rest ih =>
      rw [foretold_cons, foretold_cons]
      by_cases same : change.1 = key
      · rw [if_pos same, if_pos same]
      · rw [if_neg same, if_neg same]
        exact ih shown

/-- The changes bring what is shown of the key to its value at the source, if it has one. -/
def Leads (source : Key → Option Value) (changes : List (Key × Value)) (key : Key)
    (shown : Value) : Prop :=
  ∀ value, source key = some value → foretold key changes shown = value

section Leads

variable {source : Key → Option Value} {changes : List (Key × Value)} {key : Key} {shown : Value}

theorem Leads.publish (leads : Leads source changes key shown) (changed : Key) (value : Value) :
    Leads (Function.update source changed (some value)) (changes ++ [(changed, value)]) key
      shown := by
  intro current present
  rw [foretold_snoc]
  by_cases same : changed = key
  · subst same
    rw [Function.update_self] at present
    rw [if_pos rfl]
    exact Option.some.inj present
  · rw [Function.update_of_ne (Ne.symm same)] at present
    rw [if_neg same]
    exact leads current present

theorem Leads.withdraw (leads : Leads source changes key shown) (gone : Key) :
    Leads (Function.update source gone none) changes key shown := by
  intro value present
  by_cases same : key = gone
  · subst same
    rw [Function.update_self] at present
    cases present
  · rw [Function.update_of_ne same] at present
    exact leads value present

theorem Leads.deliver {change : Key × Value} (leads : Leads source (change :: changes) key shown) :
    Leads source changes key (if change.1 = key then change.2 else shown) :=
  leads

theorem Leads.read (leads : Leads source changes key shown) {value : Value}
    (present : source key = some value) : Leads source changes key value := by
  have reached := leads value present
  intro current again
  cases present.symm.trans again
  have settled := foretold_foretold key changes shown
  rw [reached] at settled
  exact settled

theorem Leads.current (leads : Leads source changes key shown) {value : Value}
    (present : source key = some value) (untold : ∀ change ∈ changes, change.1 ≠ key) :
    shown = value := by
  rw [← leads value present, foretold_untold untold]

end Leads

end Nlif.ChangeFeed
