import Mathlib.Data.List.Basic
import Mathlib.Tactic.Common

/-!
# Key predicates of XPath 1.0

A predicate that compares a key with a literal, as a path to a list entry ends with, and its
reader. A literal has no escapes: it holds any byte but its own delimiter.
-/

namespace Nlif.XpathGrammar

set_option autoImplicit false

abbrev Bytes := List UInt8

def apostrophe : UInt8 := 39

def quotation : UInt8 := 34

def openKey (key : Bytes) : Bytes := 91 :: (key ++ [61])

def closeKey : UInt8 := 93

/-- `Literal ::= '"' [^"]* '"' | "'" [^']* "'"` -/
structure Literal (text value : Bytes) (delimiter : UInt8) : Prop where
  delimits : delimiter = apostrophe ∨ delimiter = quotation
  free : delimiter ∉ value
  spelled : text = delimiter :: (value ++ [delimiter])

/-- `[key=Literal]` -/
def KeyPredicate (text key value : Bytes) : Prop :=
  ∃ literal delimiter, Literal literal value delimiter ∧
    text = openKey key ++ (literal ++ [closeKey])

/-- The path of the entry of a list with this value of its key. -/
def Selects (list key path value : Bytes) : Prop :=
  ∃ predicate, KeyPredicate predicate key value ∧ path = list ++ predicate

def readLiteral : Bytes → Option Bytes
  | [] => none
  | delimiter :: rest =>
      if (delimiter = apostrophe ∨ delimiter = quotation) ∧
          rest.getLast? = some delimiter ∧ delimiter ∉ rest.dropLast then
        some rest.dropLast
      else none

def readKey (key text : Bytes) : Option Bytes :=
  if text = openKey key ++ ((text.drop (openKey key).length).dropLast ++ [closeKey]) then
    readLiteral (text.drop (openKey key).length).dropLast
  else none

theorem read_literal_iff {text value : Bytes} :
    readLiteral text = some value ↔ ∃ delimiter, Literal text value delimiter := by
  cases text with
  | nil =>
      constructor
      · intro read
        cases read
      · rintro ⟨delimiter, literal⟩
        cases literal.spelled
  | cons delimiter rest =>
      rw [readLiteral]
      constructor
      · intro read
        split at read
        · rename_i met
          obtain ⟨delimits, closed, free⟩ := met
          cases read
          refine ⟨delimiter, delimits, free, ?_⟩
          rw [List.dropLast_append_getLast? _ closed]
        · cases read
      · rintro ⟨other, literal⟩
        obtain ⟨rfl, rfl⟩ := List.cons.inj literal.spelled
        rw [List.getLast?_concat, List.dropLast_concat]
        exact if_pos ⟨literal.delimits, rfl, literal.free⟩

theorem read_key_iff {key text value : Bytes} :
    readKey key text = some value ↔ KeyPredicate text key value := by
  unfold readKey KeyPredicate
  constructor
  · intro read
    split at read
    · rename_i spelled
      obtain ⟨delimiter, literal⟩ := read_literal_iff.mp read
      exact ⟨_, delimiter, literal, spelled⟩
    · cases read
  · rintro ⟨literal, delimiter, isLiteral, rfl⟩
    rw [List.drop_left, List.dropLast_concat, if_pos rfl]
    exact read_literal_iff.mpr ⟨delimiter, isLiteral⟩

theorem Selects.unique {list key path value other : Bytes} (selects : Selects list key path value)
    (also : Selects list key path other) : value = other := by
  obtain ⟨predicate, first, rfl⟩ := selects
  obtain ⟨same, second, equal⟩ := also
  obtain rfl := List.append_cancel_left equal
  rw [← read_key_iff] at first second
  rw [first] at second
  exact Option.some.inj second

/-- `[key='value']` -/
def writeKey (key value : Bytes) : Bytes :=
  openKey key ++ (apostrophe :: (value ++ [apostrophe]) ++ [closeKey])

/-- Between apostrophes a value is read back unless it holds one. -/
theorem written_iff {key value : Bytes} :
    KeyPredicate (writeKey key value) key value ↔ apostrophe ∉ value := by
  rw [← read_key_iff, readKey, writeKey, List.drop_left, List.dropLast_concat, if_pos rfl,
    read_literal_iff]
  constructor
  · rintro ⟨delimiter, literal⟩
    have same := literal.spelled
    obtain ⟨rfl, _⟩ := List.cons.inj same
    exact literal.free
  · intro free
    exact ⟨apostrophe, .inl rfl, free, rfl⟩

theorem write_key_injective {key value other : Bytes}
    (same : writeKey key value = writeKey key other) : value = other := by
  have inner := List.append_cancel_right (List.append_cancel_left same)
  exact List.append_cancel_right (List.cons.inj inner).2

theorem written_value {key value found : Bytes}
    (written : KeyPredicate (writeKey key value) key found) : found = value := by
  obtain ⟨literal, delimiter, isLiteral, spelled⟩ := written
  have inner := List.append_cancel_right (List.append_cancel_left spelled)
  rw [isLiteral.spelled] at inner
  obtain ⟨rfl, rest⟩ := List.cons.inj inner
  exact (List.append_cancel_right rest).symm

end Nlif.XpathGrammar
