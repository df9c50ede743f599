import Mathlib.Data.List.Range
import Mathlib.Data.List.Sort
import Mathlib.Tactic.Common

/-!
# Scanning the bits of a word

The positions of the bits set, and how shifting the lowest of them out leaves the others.
-/

namespace Nlif.BitScan

set_option autoImplicit false

variable {width : Nat}

/-- The positions of the bits set, in increasing order. -/
def setBits (word : BitVec width) : List Nat :=
  (List.range width).filter fun position => word.getLsbD position

structure Lowest (word : BitVec width) (position : Nat) : Prop where
  here : word.getLsbD position = true
  below : ∀ lower < position, word.getLsbD lower = false

theorem mem_set_bits {word : BitVec width} {position : Nat} :
    position ∈ setBits word ↔ word.getLsbD position = true := by
  rw [setBits, List.mem_filter, List.mem_range]
  exact and_iff_right_of_imp BitVec.lt_of_getLsbD

theorem set_bits_increasing (word : BitVec width) : (setBits word).Pairwise (· < ·) :=
  List.pairwise_lt_range.filter _

theorem set_bits_eq_nil_iff {word : BitVec width} : setBits word = [] ↔ word = 0#(width) := by
  constructor
  · intro none
    apply BitVec.eq_of_getLsbD_eq
    intro position _
    rw [BitVec.getLsbD_zero, ← Bool.not_eq_true, ← mem_set_bits, none]
    exact List.not_mem_nil
  · intro zero
    apply List.eq_nil_iff_forall_not_mem.mpr
    intro position member
    rw [mem_set_bits, zero, BitVec.getLsbD_zero] at member
    cases member

namespace Lowest

variable {word : BitVec width} {position : Nat}

theorem lt_width (lowest : Lowest word position) : position < width :=
  BitVec.lt_of_getLsbD lowest.here

theorem unique {other : Nat} (lowest : Lowest word position) (also : Lowest word other) :
    position = other := by
  apply Nat.le_antisymm
  · by_contra above
    have clear := lowest.below other (by omega)
    rw [also.here] at clear
    cases clear
  · by_contra above
    have clear := also.below position (by omega)
    rw [lowest.here] at clear
    cases clear

theorem set_bits (lowest : Lowest word position) :
    setBits word =
      position :: (setBits (word >>> (position + 1))).map fun bit => position + 1 + bit := by
  apply List.Pairwise.eq_of_mem_iff (set_bits_increasing word)
  · apply List.pairwise_cons.mpr
    constructor
    · intro bit member
      obtain ⟨rest, _, rfl⟩ := List.mem_map.mp member
      omega
    · apply (set_bits_increasing _).map
      intro left right ordered
      omega
  · intro bit
    rw [mem_set_bits, List.mem_cons, List.mem_map]
    constructor
    · intro set
      by_cases same : bit = position
      · exact .inl same
      · have above : position < bit := by
          by_contra under
          have clear := lowest.below bit (by omega)
          rw [set] at clear
          cases clear
        refine .inr ⟨bit - (position + 1), ?_, by omega⟩
        rw [mem_set_bits, BitVec.getLsbD_ushiftRight, Nat.add_sub_cancel' (by omega)]
        exact set
    · rintro (rfl | ⟨rest, member, rfl⟩)
      · exact lowest.here
      · rw [mem_set_bits, BitVec.getLsbD_ushiftRight] at member
        exact member

end Lowest

theorem exists_lowest {word : BitVec width} (nonzero : word ≠ 0#(width)) :
    ∃ position, Lowest word position := by
  cases bits : setBits word with
  | nil => exact absurd (set_bits_eq_nil_iff.mp bits) nonzero
  | cons position rest =>
      refine ⟨position, ?_, ?_⟩
      · rw [← mem_set_bits, bits]
        exact List.mem_cons_self
      · intro lower below
        rw [← Bool.not_eq_true, ← mem_set_bits, bits, List.mem_cons]
        rintro (rfl | later)
        · exact Nat.lt_irrefl _ below
        · have ordered := set_bits_increasing word
          rw [bits] at ordered
          exact Nat.lt_asymm below (List.rel_of_pairwise_cons ordered later)

end Nlif.BitScan
