import Mathlib.Tactic.Common

/-!
Flag words updated through a mask. `merge` takes the masked bits of one word and
the other bits of another; `AgreeOn` compares two words on the bits of a mask.
Both are characterised bit by bit, which is how every fact about them is proved.
-/

namespace Nlif.FlagWord

set_option autoImplicit false

variable {width : Nat}

def merge (mask old new : BitVec width) : BitVec width := (old &&& ~~~mask) ||| (new &&& mask)

def AgreeOn (mask left right : BitVec width) : Prop := left &&& mask = right &&& mask

instance (mask left right : BitVec width) : Decidable (AgreeOn mask left right) :=
  inferInstanceAs (Decidable (left &&& mask = right &&& mask))

theorem merge_bit (mask old new : BitVec width) (i : Nat) (bound : i < width) :
    (merge mask old new)[i] = if mask[i] then new[i] else old[i] := by
  unfold merge
  cases masked : mask[i] <;> simp [masked]

theorem agree_on_iff (mask left right : BitVec width) :
    AgreeOn mask left right ↔ ∀ i (bound : i < width), mask[i] = true → left[i] = right[i] := by
  unfold AgreeOn
  constructor
  · intro same i bound masked
    have bit := congrArg (fun word : BitVec width => word[i]) same
    simpa [masked] using bit
  · intro same
    ext i bound
    cases masked : mask[i] with
    | false => simp [masked]
    | true => simp [masked, same i bound masked]

theorem agree_on_refl (mask word : BitVec width) : AgreeOn mask word word := rfl

theorem AgreeOn.symm {mask left right : BitVec width} (agree : AgreeOn mask left right) :
    AgreeOn mask right left :=
  Eq.symm agree

theorem AgreeOn.trans {mask first second third : BitVec width}
    (left : AgreeOn mask first second) (right : AgreeOn mask second third) :
    AgreeOn mask first third :=
  Eq.trans left right

theorem AgreeOn.mono {mask smaller left right : BitVec width} (agree : AgreeOn mask left right)
    (included : smaller &&& ~~~mask = 0) : AgreeOn smaller left right := by
  rw [agree_on_iff] at agree ⊢
  intro i bound masked
  refine agree i bound ?_
  have bit := congrArg (fun word : BitVec width => word[i]) included
  simpa [masked] using bit

theorem AgreeOn.restrict {mask left right : BitVec width} (agree : AgreeOn mask left right)
    (narrower : BitVec width) : AgreeOn (mask &&& narrower) left right :=
  agree.mono (by
    ext i bound
    cases masked : mask[i] <;> simp [masked])

theorem agree_outside_zero_iff (mask left right : BitVec width) :
    AgreeOn (mask &&& ~~~0) left right ↔ AgreeOn mask left right := by
  rw [show mask &&& ~~~(0 : BitVec width) = mask by
    ext i bound
    simp]

theorem merge_keeps (mask old new : BitVec width) : AgreeOn (~~~mask) (merge mask old new) old := by
  rw [agree_on_iff]
  intro i bound unmasked
  have clear : mask[i] = false := by simpa using unmasked
  rw [merge_bit, clear]
  rfl

theorem merge_takes (mask old new : BitVec width) : AgreeOn mask (merge mask old new) new := by
  rw [agree_on_iff]
  intro i bound masked
  rw [merge_bit, masked]
  rfl

theorem merge_comm {first second : BitVec width} (disjoint : first &&& second = 0)
    (old left right : BitVec width) :
    merge first (merge second old right) left = merge second (merge first old left) right := by
  ext i bound
  rw [merge_bit, merge_bit, merge_bit, merge_bit]
  have apart := congrArg (fun word : BitVec width => word[i]) disjoint
  cases one : first[i] with
  | false => rfl
  | true =>
      have two : second[i] = false := by simpa [one] using apart
      simp [two]

theorem merge_agree {mask domain old new word : BitVec width}
    (outside : AgreeOn (domain &&& ~~~mask) old word)
    (inside : AgreeOn (domain &&& mask) new word) :
    AgreeOn domain (merge mask old new) word := by
  rw [agree_on_iff] at outside inside ⊢
  intro i bound included
  rw [merge_bit]
  cases masked : mask[i] with
  | true => exact inside i bound (by simp [included, masked])
  | false => exact outside i bound (by simp [included, masked])

theorem merge_all (old new : BitVec width) : merge (~~~0) old new = new := by
  ext i bound
  rw [merge_bit]
  simp

theorem agree_on_all_iff (left right : BitVec width) :
    AgreeOn (~~~0) left right ↔ left = right := by
  unfold AgreeOn
  simp

end Nlif.FlagWord
