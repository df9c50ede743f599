import Nlif.BucketTable
import Nlif.FaultWalk

/-!
A table under a hash function next to the plain table of the same insertions,
which has a chain for each key. A walk over the chain of a key meets nodes filed
under other keys too; where these stop it no differently from its own nodes, the
hash function cannot be told from the result.
-/

namespace Nlif.RefiledTable

open BucketTable FaultWalk

set_option autoImplicit false

variable {Key Bucket Node Fault Found : Type}

section Tables

variable [DecidableEq Key] [DecidableEq Bucket]

/-- Both tables hold the same insertions in the same order. -/
def Refiled (hash : Key → Bucket) (plain : Table Key Node) (table : Table Bucket Node) : Prop :=
  ∃ register, Fibred id register plain ∧ Fibred hash register table

variable {hash : Key → Bucket} {plain : Table Key Node} {table : Table Bucket Node}

theorem refiled_empty (hash : Key → Bucket) :
    Refiled hash (empty : Table Key Node) (empty : Table Bucket Node) :=
  ⟨[], fibred_empty id, fibred_empty hash⟩

theorem Refiled.add (refiled : Refiled hash plain table) (key : Key) (node : Node) :
    Refiled hash (add key node plain) (add (hash key) node table) := by
  obtain ⟨register, fibredPlain, fibred⟩ := refiled
  exact ⟨(key, node) :: register, fibredPlain.add key node, fibred.add key node⟩

theorem Refiled.del [DecidableEq Node] (refiled : Refiled hash plain table) (node : Node) :
    Refiled hash (del node plain) (del node table) := by
  obtain ⟨register, fibredPlain, fibred⟩ := refiled
  exact ⟨_, fibredPlain.del node, fibred.del node⟩

variable {nodes : List Node}

theorem Refiled.mem_iff (refiled : Refiled hash plain table) (node : Node) (bucket : Bucket) :
    node ∈ table bucket ↔ ∃ key, node ∈ plain key ∧ hash key = bucket := by
  obtain ⟨register, fibredPlain, fibred⟩ := refiled
  rw [fibred.mem]
  constructor
  · rintro ⟨key, entry, same⟩
    exact ⟨key, (fibredPlain.mem node key).mpr ⟨key, entry, rfl⟩, same⟩
  · rintro ⟨key, filed, same⟩
    obtain ⟨_, entry, rfl⟩ := (fibredPlain.mem node key).mp filed
    exact ⟨_, entry, same⟩

theorem register_distinct {register : List (Key × Node)} (fibred : Fibred id register plain)
    (chained : Chained nodes plain) : register.Pairwise fun left right => left.2 ≠ right.2 := by
  rw [List.pairwise_iff_forall_sublist]
  rintro ⟨first, node⟩ ⟨second, other⟩ listed (rfl : node = other)
  have onFirst : node ∈ plain first :=
    (fibred.mem node first).mpr ⟨first, listed.subset (by simp), rfl⟩
  have onSecond : node ∈ plain second :=
    (fibred.mem node second).mpr ⟨second, listed.subset (by simp), rfl⟩
  obtain rfl := chained.once node first second onFirst onSecond
  have twice : [node, node].Sublist (plain first) := by
    rw [fibred first]
    simpa using (listed.filter fun entry => entry.1 = first).map Prod.snd
  have distinct := (chained.nodup first).sublist twice
  simp at distinct

theorem Refiled.chained (refiled : Refiled hash plain table) (chained : Chained nodes plain) :
    Chained nodes table where
  registered bucket node member := by
    obtain ⟨key, filed, _⟩ := (refiled.mem_iff node bucket).mp member
    exact chained.registered key node filed
  once node bucket other member otherMember := by
    obtain ⟨key, filed, rfl⟩ := (refiled.mem_iff node bucket).mp member
    obtain ⟨otherKey, otherFiled, rfl⟩ := (refiled.mem_iff node other).mp otherMember
    rw [chained.once node key otherKey filed otherFiled]
  nodup bucket := by
    obtain ⟨register, fibredPlain, fibred⟩ := refiled
    rw [fibred bucket]
    exact List.pairwise_map.mpr ((register_distinct fibredPlain chained).filter _)

end Tables

/-- Nodes filed under other keys stop the walk for this key only as its own nodes do. -/
def Decided (visit : Node → Except Fault (Option Found)) (key : Key) (plain : Table Key Node) :
    Prop :=
  ∀ other, other ≠ key → ∀ node ∈ plain other,
    visit node = .ok none ∨ visit node = firstHit visit (plain key)

section Walks

variable {visit : Node → Except Fault (Option Found)}

/-- A walk over a register, where entries that are not its own stop it as the walk
over its own entries ends. -/
theorem first_hit_register (own : Key × Node → Bool) (register : List (Key × Node))
    {outcome : Except Fault (Option Found)}
    (ends : outcome = firstHit visit ((register.filter own).map Prod.snd))
    (others : ∀ entry ∈ register, own entry = false →
      visit entry.2 = .ok none ∨ visit entry.2 = outcome) :
    firstHit visit (register.map Prod.snd) = outcome := by
  induction register with
  | nil => exact ends.symm
  | cons entry rest ih =>
      have restOthers := fun other there => others other (List.mem_cons_of_mem entry there)
      rw [List.map_cons]
      by_cases passed : visit entry.2 = .ok none
      · rw [first_hit_cons_pass visit entry.2 _ passed]
        refine ih ?_ restOthers
        rw [ends]
        by_cases mine : own entry = true
        · rw [List.filter_cons_of_pos mine, List.map_cons, first_hit_cons_pass visit _ _ passed]
        · rw [List.filter_cons_of_neg mine]
      · rw [first_hit_cons_stop visit entry.2 _ passed]
        by_cases mine : own entry = true
        · rw [ends, List.filter_cons_of_pos mine, List.map_cons,
            first_hit_cons_stop visit _ _ passed]
        · exact (others entry List.mem_cons_self (by simpa using mine)).resolve_left passed

variable [DecidableEq Key] [DecidableEq Bucket] {hash : Key → Bucket} {plain : Table Key Node}
  {table : Table Bucket Node}

theorem Refiled.first_hit (refiled : Refiled hash plain table) (key : Key)
    (decided : Decided visit key plain) :
    firstHit visit (table (hash key)) = firstHit visit (plain key) := by
  obtain ⟨register, fibredPlain, fibred⟩ := refiled
  rw [fibred (hash key)]
  refine first_hit_register (fun entry => entry.1 = key) _ ?_ fun entry member foreign => ?_
  · rw [fibredPlain key, List.filter_filter]
    congr 2
    refine List.filter_congr fun entry _ => ?_
    by_cases mine : entry.1 = key
    · simp [mine]
    · simp [mine]
  · refine decided entry.1 (by simpa using foreign) entry.2 ?_
    have listed := (List.mem_filter.mp member).1
    exact (fibredPlain.mem entry.2 entry.1).mpr ⟨entry.1, listed, rfl⟩

end Walks

end Nlif.RefiledTable
