import Mathlib.Computability.RegularExpressions
import Mathlib.Tactic.IntervalCases

/-!
Numbers written in digits. The bytes of a text of ASCII characters are its characters, a
decimal and a list of pairs of hexadecimal digits read back to what they were written from,
and the pairs are the words of a regular expression.
-/

namespace Nlif.DigitText

set_option autoImplicit false

/-- A character of one byte other than NUL. -/
def IsAscii (character : Char) : Prop := 0 < character.toNat ∧ character.toNat < 128

instance (character : Char) : Decidable (IsAscii character) :=
  inferInstanceAs (Decidable (_ ∧ _))

def characters (bytes : List UInt8) : List Char := bytes.map fun byte => Char.ofNat byte.toNat

theorem byte_array_loop (bytes : ByteArray) (position : Nat) (done : List UInt8) :
    ByteArray.toList.loop bytes position done =
      done.reverse ++ bytes.data.toList.drop position := by
  induction position, done using ByteArray.toList.loop.induct bytes with
  | case1 position done inside ih =>
      have here : position < bytes.data.toList.length := inside
      have read : bytes.get! position = bytes.data.toList[position] :=
        getElem!_pos bytes.data position inside
      rw [ByteArray.toList.loop, if_pos inside, ih, read, List.drop_eq_getElem_cons here]
      simp only [List.reverse_cons, List.append_assoc, List.cons_append, List.nil_append]
  | case2 position done outside =>
      have past : bytes.data.toList.length ≤ position := not_lt.mp outside
      rw [ByteArray.toList.loop, if_neg outside, List.drop_eq_nil_of_le past, List.append_nil]

theorem byte_array_toList (bytes : ByteArray) : bytes.toList = bytes.data.toList :=
  byte_array_loop bytes 0 []

theorem encode_ascii {character : Char} (ascii : IsAscii character) :
    String.utf8EncodeChar character = [character.toNat.toUInt8] := by
  have single : character.utf8Size = 1 := by
    have bound := ascii.2
    rw [Char.utf8Size, if_pos]
    exact UInt32.le_iff_toNat_le.mpr (by change character.toNat ≤ 127; omega)
  rw [String.utf8EncodeChar_eq_singleton single]
  rfl

theorem encode_text {text : List Char} (ascii : ∀ character ∈ text, IsAscii character) :
    (String.ofList text).toUTF8.toList = text.map fun character => character.toNat.toUInt8 := by
  rw [byte_array_toList, String.toUTF8, String.toByteArray_ofList, List.utf8Encode,
    List.toList_data_toByteArray]
  induction text with
  | nil => rfl
  | cons first rest ih =>
      rw [List.flatMap_cons, encode_ascii (ascii first (List.mem_cons_self ..)),
        ih fun character listed => ascii character (List.mem_cons_of_mem _ listed)]
      rfl

theorem ascii_byte {character : Char} (ascii : IsAscii character) :
    character.toNat.toUInt8 ≠ 0 ∧ Char.ofNat character.toNat.toUInt8.toNat = character := by
  have bound : character.toNat < 256 := lt_trans ascii.2 (by decide)
  have kept : character.toNat.toUInt8.toNat = character.toNat := Nat.mod_eq_of_lt bound
  constructor
  · intro zero
    have nothing : character.toNat = 0 := kept.symm.trans (congrArg UInt8.toNat zero)
    exact ascii.1.ne' nothing
  · rw [kept]
    exact Char.ofNat_toNat character

theorem characters_encode {text : List Char} (ascii : ∀ character ∈ text, IsAscii character) :
    characters ((String.ofList text).toUTF8.toList.filter (· ≠ 0)) = text := by
  rw [encode_text ascii]
  induction text with
  | nil => rfl
  | cons first rest ih =>
      obtain ⟨nonzero, back⟩ := ascii_byte (ascii first (List.mem_cons_self ..))
      have others := ih fun character listed => ascii character (List.mem_cons_of_mem _ listed)
      rw [List.map_cons, List.filter_cons_of_pos (by simpa using nonzero), characters,
        List.map_cons, back]
      exact congrArg (first :: ·) others

theorem digit_ascii {character : Char} (digit : character.isDigit = true) :
    IsAscii character := by
  simp only [Char.isDigit, Bool.and_eq_true, decide_eq_true_eq] at digit
  have lower : 48 ≤ character.toNat := UInt32.le_iff_toNat_le.mp digit.1
  have upper : character.toNat ≤ 57 := UInt32.le_iff_toNat_le.mp digit.2
  exact ⟨by omega, by omega⟩

def decimal (number : Nat) : List Char := Nat.toDigits 10 number

def readDecimal (text : List Char) : Option Nat :=
  if text ≠ [] ∧ text.all Char.isDigit then some (Nat.ofDigitChars 10 text 0) else none

theorem decimal_digits (number : Nat) : ∀ character ∈ decimal number, character.isDigit = true :=
  fun _ listed => Nat.isDigit_of_mem_toDigits (by decide) (by decide) listed

theorem decimal_ascii (number : Nat) : ∀ character ∈ decimal number, IsAscii character :=
  fun character listed => digit_ascii (decimal_digits number character listed)

theorem read_decimal (number : Nat) : readDecimal (decimal number) = some number := by
  rw [readDecimal, if_pos ⟨Nat.toDigits_ne_nil, List.all_eq_true.mpr (decimal_digits number)⟩]
  exact congrArg some Nat.ofDigitChars_ten_toDigits

/-- `[0-9a-fA-F]` -/
def hexDigits : List Char :=
  ['0', '1', '2', '3', '4', '5', '6', '7', '8', '9', 'a', 'b', 'c', 'd', 'e', 'f',
    'A', 'B', 'C', 'D', 'E', 'F']

def hexValue (digit : Char) : Option Nat :=
  if digit.isDigit then some (digit.toNat - '0'.toNat)
  else if 'a' ≤ digit ∧ digit ≤ 'f' then some (digit.toNat - 'a'.toNat + 10)
  else if 'A' ≤ digit ∧ digit ≤ 'F' then some (digit.toNat - 'A'.toNat + 10)
  else none

def hexPair (octet : Nat) : List Char := [Nat.digitChar (octet / 16), Nat.digitChar (octet % 16)]

def readPair : List Char → Option Nat
  | [high, low] => do
      let high ← hexValue high
      let low ← hexValue low
      some (16 * high + low)
  | _ => none

theorem hex_value_digit {value : Nat} (small : value < 16) :
    hexValue (Nat.digitChar value) = some value ∧ Nat.digitChar value ∈ hexDigits := by
  interval_cases value <;> decide

theorem hex_digits_ascii : ∀ digit ∈ hexDigits, IsAscii digit := by
  simp [hexDigits, IsAscii]

theorem hex_pair_digits {octet : Nat} (small : octet < 256) :
    ∀ digit ∈ hexPair octet, digit ∈ hexDigits := by
  intro digit listed
  have high : octet / 16 < 16 := by omega
  have low : octet % 16 < 16 := by omega
  simp only [hexPair, List.mem_cons, List.not_mem_nil, or_false] at listed
  cases listed with
  | inl same => exact same ▸ (hex_value_digit high).2
  | inr same => exact same ▸ (hex_value_digit low).2

theorem read_hex_pair {octet : Nat} (small : octet < 256) :
    readPair (hexPair octet) = some octet := by
  have high : octet / 16 < 16 := by omega
  have low : octet % 16 < 16 := by omega
  have whole : 16 * (octet / 16) + octet % 16 = octet := Nat.div_add_mod octet 16
  simp only [hexPair, readPair, (hex_value_digit high).1, (hex_value_digit low).1, whole,
    Option.bind_eq_bind, Option.bind_some]

def readPairs (separator : Char) (text : List Char) : Option (List Nat) :=
  (text.splitOn separator).mapM readPair

theorem map_read_pairs {octets : List Nat} (small : ∀ octet ∈ octets, octet < 256) :
    (octets.map hexPair).mapM readPair = some octets := by
  induction octets with
  | nil => rfl
  | cons first rest ih =>
      rw [List.map_cons, List.mapM_cons, read_hex_pair (small first (List.mem_cons_self ..)),
        ih fun octet listed => small octet (List.mem_cons_of_mem _ listed)]
      rfl

theorem read_pairs {separator : Char} (apart : separator ∉ hexDigits) {octets : List Nat}
    (small : ∀ octet ∈ octets, octet < 256) (some_octet : octets ≠ []) :
    readPairs separator (List.intercalate [separator] (octets.map hexPair)) = some octets := by
  have free : ∀ pair ∈ octets.map hexPair, separator ∉ pair := by
    intro pair listed inside
    obtain ⟨octet, member, rfl⟩ := List.mem_map.mp listed
    exact apart (hex_pair_digits (small octet member) separator inside)
  have nonempty : octets.map hexPair ≠ [] := fun none => some_octet (List.map_eq_nil_iff.mp none)
  rw [readPairs, List.splitOn_intercalate separator free nonempty, map_read_pairs small]

def oneOf (choices : List Char) : RegularExpression Char :=
  (choices.map RegularExpression.char).sum

/-- `([0-9a-fA-F]{2}(s[0-9a-fA-F]{2})*)?` of a separator `s`. -/
def pairsPattern (separator : Char) : RegularExpression Char :=
  1 + oneOf hexDigits * oneOf hexDigits *
    (RegularExpression.char separator * (oneOf hexDigits * oneOf hexDigits)).star

theorem mem_one_of {choices word : List Char} :
    word ∈ (oneOf choices).matches' ↔ ∃ choice ∈ choices, word = [choice] := by
  induction choices with
  | nil =>
      constructor
      · exact False.elim
      · rintro ⟨choice, listed, _⟩
        cases listed
  | cons first rest ih =>
      have sum : oneOf (first :: rest) = RegularExpression.char first + oneOf rest := rfl
      rw [sum, RegularExpression.matches'_add, Language.mem_add, ih,
        RegularExpression.matches'_char]
      constructor
      · intro either
        cases either with
        | inl here => exact ⟨first, List.mem_cons_self .., here⟩
        | inr later =>
            obtain ⟨choice, listed, same⟩ := later
            exact ⟨choice, List.mem_cons_of_mem _ listed, same⟩
      · rintro ⟨choice, listed, same⟩
        cases listed with
        | head => exact .inl same
        | tail _ listed => exact .inr ⟨choice, listed, same⟩

def IsPair (word : List Char) : Prop :=
  word.length = 2 ∧ ∀ digit ∈ word, digit ∈ hexDigits

theorem mem_pair {word : List Char} :
    word ∈ (oneOf hexDigits * oneOf hexDigits).matches' ↔ IsPair word := by
  rw [RegularExpression.matches'_mul, Language.mem_mul]
  constructor
  · rintro ⟨high, highMatches, low, lowMatches, rfl⟩
    obtain ⟨first, firstDigit, rfl⟩ := mem_one_of.mp highMatches
    obtain ⟨second, secondDigit, rfl⟩ := mem_one_of.mp lowMatches
    refine ⟨rfl, ?_⟩
    simp [firstDigit, secondDigit]
  · rintro ⟨two, digits⟩
    obtain ⟨first, second, rfl⟩ := List.length_eq_two.mp two
    exact ⟨[first], mem_one_of.mpr ⟨first, digits first (by simp), rfl⟩,
      [second], mem_one_of.mpr ⟨second, digits second (by simp), rfl⟩, rfl⟩

theorem flatten_behind (separator : Char) (first : List Char) (rest : List (List Char)) :
    List.intercalate [separator] (first :: rest) =
      first ++ (rest.map (separator :: ·)).flatten := by
  induction rest generalizing first with
  | nil => simp [List.intercalate_singleton]
  | cons second rest ih =>
      rw [List.intercalate_cons_cons, ih, List.map_cons, List.flatten_cons, List.append_assoc]
      rfl

theorem pairs_pattern_iff {separator : Char} {text : List Char} :
    text ∈ (pairsPattern separator).matches' ↔
      text = [] ∨ ∃ pairs, pairs ≠ [] ∧ (∀ pair ∈ pairs, IsPair pair) ∧
        text = List.intercalate [separator] pairs := by
  rw [pairsPattern, RegularExpression.matches'_add, Language.mem_add,
    RegularExpression.matches'_epsilon, RegularExpression.matches'_mul, Language.mem_mul,
    RegularExpression.matches'_star]
  apply or_congr Iff.rfl
  constructor
  · rintro ⟨first, firstPair, tail, more, rfl⟩
    obtain ⟨words, rfl, listed⟩ := Language.mem_kstar.mp more
    have behind : ∃ rest : List (List Char),
        (∀ pair ∈ rest, IsPair pair) ∧ words = rest.map (separator :: ·) := by
      clear more
      induction words with
      | nil => exact ⟨[], fun _ none => absurd none List.not_mem_nil, rfl⟩
      | cons word words ih =>
          obtain ⟨rest, pairs, rfl⟩ :=
            ih fun word there => listed word (List.mem_cons_of_mem _ there)
          have here := listed word (List.mem_cons_self ..)
          rw [RegularExpression.matches'_mul, Language.mem_mul] at here
          obtain ⟨front, isFront, pair, isPair, rfl⟩ := here
          cases isFront
          refine ⟨pair :: rest, ?_, rfl⟩
          intro other there
          cases there with
          | head => exact mem_pair.mp isPair
          | tail _ there => exact pairs other there
    obtain ⟨rest, pairs, rfl⟩ := behind
    refine ⟨first :: rest, List.cons_ne_nil _ _, ?_, (flatten_behind ..).symm⟩
    intro pair there
    cases there with
    | head => exact mem_pair.mp firstPair
    | tail _ there => exact pairs pair there
  · rintro ⟨pairs, nonempty, listed, rfl⟩
    cases pairs with
    | nil => exact absurd rfl nonempty
    | cons first rest =>
        refine ⟨first, mem_pair.mpr (listed first (List.mem_cons_self ..)), _, ?_,
          (flatten_behind ..).symm⟩
        refine Language.mem_kstar.mpr ⟨_, rfl, ?_⟩
        intro word there
        obtain ⟨pair, member, rfl⟩ := List.mem_map.mp there
        rw [RegularExpression.matches'_mul, Language.mem_mul]
        exact ⟨[separator], rfl, pair,
          mem_pair.mpr (listed pair (List.mem_cons_of_mem _ member)), rfl⟩

theorem joined_in_pattern_iff {separator : Char} {texts : List (List Char)}
    (free : ∀ text ∈ texts, separator ∉ text) (apart : separator ∉ hexDigits)
    (nonempty : texts ≠ []) (filled : ∀ text ∈ texts, text ≠ []) :
    List.intercalate [separator] texts ∈ (pairsPattern separator).matches' ↔
      ∀ text ∈ texts, IsPair text := by
  rw [pairs_pattern_iff]
  constructor
  · intro either
    cases either with
    | inl empty =>
        cases texts with
        | nil => exact absurd rfl nonempty
        | cons first rest =>
            rw [flatten_behind] at empty
            exact absurd (List.append_eq_nil_iff.mp empty).1 (filled first (List.mem_cons_self ..))
    | inr matched =>
        obtain ⟨pairs, some_pair, listed, same⟩ := matched
        have split := List.splitOn_intercalate separator free nonempty
        have pairsFree : ∀ pair ∈ pairs, separator ∉ pair :=
          fun pair member inside => apart ((listed pair member).2 separator inside)
        rw [same, List.splitOn_intercalate separator pairsFree some_pair] at split
        exact split ▸ listed
  · exact fun listed => .inr ⟨texts, nonempty, listed, rfl⟩

end Nlif.DigitText
