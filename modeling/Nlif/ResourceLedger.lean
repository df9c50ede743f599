import Mathlib.Data.Finset.Basic
import Mathlib.Data.List.Count
import Mathlib.Tactic.Common

/-!
What a sequential program holds of its environment. Its acts acquire, use and
release resources. A resource needs others when it is acquired, and keeps some from
being released before it; the ledger follows the set of those held and is lost at
the first act out of place. A program that starts and ends with nothing held is
`Balanced`.
-/

namespace Nlif.ResourceLedger

set_option autoImplicit false

inductive Act (Resource : Type) where
  | acquire (resource : Resource)
  | use (resource : Resource)
  | release (resource : Resource)
deriving DecidableEq

variable {Resource : Type} [DecidableEq Resource] (needs keeps : Resource → Finset Resource)

/-- A resource is acquired while all it needs is held, and released while nothing
held keeps it. -/
def perform (act : Act Resource) (held : Finset Resource) : Option (Finset Resource) :=
  match act with
  | .acquire resource =>
      if resource ∉ held ∧ needs resource ⊆ held then some (insert resource held) else none
  | .use resource => if resource ∈ held then some held else none
  | .release resource =>
      if resource ∈ held ∧ ∀ other ∈ held, resource ∉ keeps other then some (held.erase resource)
      else none

def ledger : List (Act Resource) → Finset Resource → Option (Finset Resource)
  | [], held => some held
  | act :: rest, held => (perform needs keeps act held).bind (ledger rest)

variable {needs keeps} {acts front rest : List (Act Resource)} {held middle after : Finset Resource}
  {resource : Resource}

theorem ledger_append : ledger needs keeps (front ++ rest) held =
    (ledger needs keeps front held).bind (ledger needs keeps rest) := by
  induction front generalizing held with
  | nil => rfl
  | cons act front ih =>
      rw [List.cons_append, ledger, ledger, Option.bind_assoc]
      exact congrArg _ (funext fun _ => ih)

theorem ledger_trans (first : ledger needs keeps front held = some middle)
    (second : ledger needs keeps rest middle = some after) :
    ledger needs keeps (front ++ rest) held = some after := by
  rw [ledger_append, first]
  exact second

theorem ledger_split (kept : ledger needs keeps (front ++ rest) held = some after) :
    ∃ middle, ledger needs keeps front held = some middle ∧
      ledger needs keeps rest middle = some after := by
  rw [ledger_append] at kept
  exact Option.bind_eq_some_iff.mp kept

def holding (held : Finset Resource) (resource : Resource) : Nat :=
  if resource ∈ held then 1 else 0

omit [DecidableEq Resource] in
theorem count_cons [DecidableEq (Act Resource)] (act counted : Act Resource)
    (rest : List (Act Resource)) :
    (act :: rest).count counted = (if act = counted then 1 else 0) + rest.count counted := by
  rw [List.count_cons, Nat.add_comm]
  congr 1
  simp

theorem perform_counts {act : Act Resource} (performed : perform needs keeps act held = some after)
    (resource : Resource) : (if act = .acquire resource then 1 else 0) + holding held resource =
      (if act = .release resource then 1 else 0) + holding after resource := by
  unfold holding
  cases act with
  | acquire acquired =>
      obtain ⟨fresh, same⟩ := Option.ite_none_right_eq_some.mp performed
      cases same
      by_cases self : acquired = resource
      · subst self
        simp [fresh.1]
      · have other : resource ≠ acquired := fun same => self same.symm
        simp [self, other]
  | use used =>
      obtain ⟨_, same⟩ := Option.ite_none_right_eq_some.mp performed
      cases same
      simp
  | release released =>
      obtain ⟨there, same⟩ := Option.ite_none_right_eq_some.mp performed
      cases same
      by_cases self : released = resource
      · subst self
        simp [there.1]
      · have other : resource ≠ released := fun same => self same.symm
        simp [self, other]

theorem ledger_counts (kept : ledger needs keeps acts held = some after) (resource : Resource) :
    acts.count (.acquire resource) + holding held resource =
      acts.count (.release resource) + holding after resource := by
  induction acts generalizing held with
  | nil =>
      cases kept
      rfl
  | cons act rest ih =>
      obtain ⟨middle, performed, kept⟩ := Option.bind_eq_some_iff.mp kept
      have first := perform_counts performed resource
      have later := ih kept
      rw [count_cons, count_cons]
      omega

/-- Every resource is released as often as it is acquired, finds held what it needs, is
held whenever it is used, and outlives those that keep it. -/
structure Balanced (needs keeps : Resource → Finset Resource) (acts : List (Act Resource)) :
    Prop where
  returned : ∀ resource, acts.count (.acquire resource) = acts.count (.release resource)
  handed : ∀ front resource rest other, acts = front ++ .acquire resource :: rest →
    other ∈ needs resource → front.count (.acquire other) = front.count (.release other) + 1
  used : ∀ front resource rest, acts = front ++ .use resource :: rest →
    front.count (.acquire resource) = front.count (.release resource) + 1
  outlives : ∀ front resource rest other, acts = front ++ .release resource :: rest →
    resource ∈ keeps other → front.count (.acquire other) = front.count (.release other)

theorem counts_held (kept : ledger needs keeps acts ∅ = some held) (there : resource ∈ held) :
    acts.count (.acquire resource) = acts.count (.release resource) + 1 := by
  have counts := ledger_counts kept resource
  simpa [holding, there] using counts

theorem balanced_of_ledger (kept : ledger needs keeps acts ∅ = some ∅) :
    Balanced needs keeps acts where
  returned resource := by
    have counts := ledger_counts kept resource
    simpa [holding] using counts
  handed front resource rest other same needed := by
    subst same
    obtain ⟨held, before, onward⟩ := ledger_split kept
    obtain ⟨_, performed, _⟩ := Option.bind_eq_some_iff.mp onward
    exact counts_held before ((Option.ite_none_right_eq_some.mp performed).1.2 needed)
  used front resource rest same := by
    subst same
    obtain ⟨held, before, onward⟩ := ledger_split kept
    obtain ⟨_, performed, _⟩ := Option.bind_eq_some_iff.mp onward
    exact counts_held before (Option.ite_none_right_eq_some.mp performed).1
  outlives front resource rest other same dependent := by
    subst same
    obtain ⟨held, before, onward⟩ := ledger_split kept
    obtain ⟨_, performed, _⟩ := Option.bind_eq_some_iff.mp onward
    have free := (Option.ite_none_right_eq_some.mp performed).1.2
    have gone : other ∉ held := fun there => free other there dependent
    have counts := ledger_counts before other
    simpa [holding, gone] using counts

end Nlif.ResourceLedger
