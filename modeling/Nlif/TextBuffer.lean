import Mathlib.Data.List.Basic
import Mathlib.Tactic.Common

/-!
# Text in a buffer of fixed size

A buffer of bytes that is written within its bounds only, and the texts it holds.
-/

namespace Nlif.TextBuffer

set_option autoImplicit false

structure Buffer (size : Nat) where
  bytes : List UInt8
  sized : bytes.length = size
deriving DecidableEq

namespace Buffer

variable {size : Nat}

/-- `memcpy()` to an offset, where all of it is inside. -/
def store (buffer : Buffer size) (offset : Nat) (data : List UInt8) : Option (Buffer size) :=
  if inside : offset + data.length ≤ size then
    some {
      bytes := buffer.bytes.take offset ++ (data ++ buffer.bytes.drop (offset + data.length))
      sized := by
        simp only [List.length_append, List.length_take, List.length_drop, buffer.sized]
        omega }
  else none

def Holds (buffer : Buffer size) (text : List UInt8) : Prop := text <+: buffer.bytes

def Reads (buffer : Buffer size) (text : List UInt8) : Prop := buffer.Holds (text ++ [0])

theorem holds_nil (buffer : Buffer size) : buffer.Holds [] := List.nil_prefix

theorem Holds.store {buffer : Buffer size} {text : List UInt8} (holds : buffer.Holds text)
    {data : List UInt8} (inside : text.length + data.length ≤ size) :
    ∃ next, buffer.store text.length data = some next ∧ next.Holds (text ++ data) := by
  refine ⟨_, dif_pos inside, ?_⟩
  have front : buffer.bytes.take text.length = text := (List.prefix_iff_eq_take.mp holds).symm
  change text ++ data <+: buffer.bytes.take text.length ++ (data ++ _)
  rw [front, ← List.append_assoc]
  exact List.prefix_append ..

/-- What is read through a pointer to the buffer. -/
def text (buffer : Buffer size) : List UInt8 := buffer.bytes.takeWhile (· ≠ 0)

theorem Reads.text {buffer : Buffer size} {text : List UInt8} (reads : buffer.Reads text)
    (nulFree : (0 : UInt8) ∉ text) : buffer.text = text := by
  obtain ⟨rest, written⟩ := reads
  have inside : ∀ byte ∈ text, decide (byte ≠ 0) = true :=
    fun byte there => decide_eq_true fun zero => nulFree (zero ▸ there)
  rw [Buffer.text, ← written, List.append_assoc, List.takeWhile_append_of_pos inside]
  exact List.append_nil text

end Buffer

def joined (separator : UInt8) (texts : List (List UInt8)) : List UInt8 :=
  texts.flatMap fun text => separator :: text

theorem intercalate_cons (separator : UInt8) (first : List UInt8) (rest : List (List UInt8)) :
    List.intercalate [separator] (first :: rest) = first ++ joined separator rest := by
  induction rest generalizing first with
  | nil => rw [List.intercalate_singleton, joined, List.flatMap_nil, List.append_nil]
  | cons second rest ih =>
      rw [List.intercalate_cons_cons, ih, joined, joined, List.flatMap_cons, List.append_assoc]
      rfl

end Nlif.TextBuffer
