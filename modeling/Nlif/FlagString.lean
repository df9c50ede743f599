import Nlif.BitScan
import Nlif.DaemonModel
import Nlif.TextBuffer

/-!
# Link flags as text

Transcription of `nlif_link_flags_str` of `lib/link.c`. `rt_link_ifinfo_flags_str()` and
`stroll_bops_ffs()` are parameters. A size is a natural number: none of the sums wraps, as
no object reaches half of `SIZE_MAX`.
-/

namespace Nlif.FlagString

open LinkModel BitScan TextBuffer
open DaemonModel (cstring)

set_option autoImplicit false

def NLIF_IFACE_FLAGS_STRSZ : Nat := 256

def comma : UInt8 := 44

inductive PrintFault where
  | nullDereference
  | shiftCount
  | outOfBounds
  | unfinished
deriving DecidableEq, Repr

inductive Printed where
  | abort
  | returned (string : Buffer NLIF_IFACE_FLAGS_STRSZ)
deriving DecidableEq

/-- `1U << count`. -/
def shiftOne (count : BitVec 32) : Except PrintFault (BitVec 32) :=
  if count.toNat < 32 then .ok (1#32 <<< count.toNat) else .error .shiftCount

def shiftFlags (flags count : BitVec 32) : Except PrintFault (BitVec 32) :=
  if count.toNat < 32 then .ok (flags >>> count.toNat) else .error .shiftCount

/-- `memcpy(&string[offset], data, length of data)`. -/
def store (string : Buffer NLIF_IFACE_FLAGS_STRSZ) (offset : Nat) (data : List UInt8) :
    Except PrintFault (Buffer NLIF_IFACE_FLAGS_STRSZ) :=
  match string.store offset data with
  | some string => .ok string
  | none => .error .outOfBounds

/-- `string[dlen++] = ','` and the `memcpy()` of the name. -/
def appendName (string : Buffer NLIF_IFACE_FLAGS_STRSZ) (dlen : Nat) (src : CString) :
    Except PrintFault (Buffer NLIF_IFACE_FLAGS_STRSZ) := do
  let string ← store string dlen [comma]
  store string (dlen + 1) src.bytes

section Printing

variable (ffs : BitVec 32 → BitVec 32) (flagsStr : BitVec 32 → Option CString)

/-- `rt_link_ifinfo_flags_str(1U << (fl - 1))` up to its `strlen()`. -/
def flagName (fl : BitVec 32) : Except PrintFault CString := do
  let flag ← shiftOne (fl - 1)
  match flagsStr flag with
  | some src => .ok src
  | none => .error .nullDereference

/-- The `while (flags)` loop of `nlif_link_flags_str()` and the terminator. -/
def linkFlagsLoop :
    Nat → BitVec 32 → BitVec 32 → Nat → Buffer NLIF_IFACE_FLAGS_STRSZ → Except PrintFault Printed
  -- the bound was reached before the word became zero
  | 0, _, _, _, _ => .error .unfinished
  | fuel + 1, flags, fl, dlen, string =>
      if flags ≠ 0#32 then do
        let f := ffs flags
        let fl := fl + f
        let src ← flagName flagsStr fl
        if dlen + 1 + src.length ≥ NLIF_IFACE_FLAGS_STRSZ then .ok .abort
        else
          let string ← appendName string dlen src
          let flags ← shiftFlags flags f
          linkFlagsLoop fuel flags fl (dlen + 1 + src.length) string
      else do
        let string ← store string dlen [0]
        .ok (.returned string)

def nlifLinkFlagsStr (fuel : Nat) (flags : BitVec 32)
    (string : Buffer NLIF_IFACE_FLAGS_STRSZ) : Except PrintFault Printed :=
  if flags ≠ 0#32 then do
    let fl := ffs flags
    let src ← flagName flagsStr fl
    if src.length ≥ NLIF_IFACE_FLAGS_STRSZ then .ok .abort
    else
      let string ← store string 0 src.bytes
      let flags ← shiftFlags flags fl
      linkFlagsLoop ffs flagsStr fuel flags fl src.length string
  else do
    let string ← store string 0 [0]
    .ok (.returned string)

end Printing

/-- `stroll_bops_ffs()`: the position of the lowest bit set, counted from one. -/
def FindsFirstSet (ffs : BitVec 32 → BitVec 32) : Prop :=
  ∀ flags, flags ≠ 0#32 → ∃ position, Lowest flags position ∧
    ffs flags = BitVec.ofNat 32 (position + 1)

/-- `rt_link_ifinfo_flags_str()`: a name for each flag of a single bit. -/
def NamesFlags (flagsStr : BitVec 32 → Option CString) (names : Nat → CString) : Prop :=
  ∀ position < 32, flagsStr (1#32 <<< position) = some (names position)

/-- The names of the bits set, in increasing order, between commas. -/
def flagsText (names : Nat → CString) (flags : BitVec 32) : List UInt8 :=
  List.intercalate [comma] ((setBits flags).map fun position => (names position).bytes)

/-- The text and its terminator, or the abort where the buffer has no room for them. -/
def Prints (text : List UInt8) (outcome : Except PrintFault Printed) : Prop :=
  if text.length + 1 > NLIF_IFACE_FLAGS_STRSZ then outcome = .ok .abort
  else ∃ string, outcome = .ok (.returned string) ∧ string.Reads text

theorem prints_abort {text : List UInt8} (long : text.length + 1 > NLIF_IFACE_FLAGS_STRSZ) :
    Prints text (.ok .abort) := by
  rw [Prints, if_pos long]

theorem not_prints_error {text : List UInt8} (fault : PrintFault) :
    ¬ Prints text (.error fault) := by
  unfold Prints
  intro prints
  split at prints
  · cases prints
  · obtain ⟨string, returned, _⟩ := prints
    cases returned

section Loop

variable {ffs : BitVec 32 → BitVec 32} {flagsStr : BitVec 32 → Option CString}
  {names : Nat → CString} {flags fl : BitVec 32} {string : Buffer NLIF_IFACE_FLAGS_STRSZ}

theorem store_after {text : List UInt8} (holds : string.Holds text) (data : List UInt8)
    (inside : text.length + data.length ≤ NLIF_IFACE_FLAGS_STRSZ) :
    ∃ next, store string text.length data = .ok next ∧ next.Holds (text ++ data) := by
  obtain ⟨next, stored, longer⟩ := holds.store inside
  refine ⟨next, ?_, longer⟩
  rw [store, stored]

theorem terminated {text : List UInt8} (holds : string.Holds text)
    (room : text.length < NLIF_IFACE_FLAGS_STRSZ) :
    Prints text (do
      let string ← store string text.length [0]
      .ok (.returned string)) := by
  obtain ⟨next, stored, reads⟩ := store_after holds [0] room
  rw [Prints, if_neg (by omega), stored]
  exact ⟨next, rfl, reads⟩

theorem flag_name (named : NamesFlags flagsStr names) {position : Nat} (inside : position < 32)
    (here : fl = BitVec.ofNat 32 (position + 1)) : flagName flagsStr fl = .ok (names position) := by
  have count : (fl - 1).toNat = position := by
    rw [here]
    bv_omega
  unfold flagName shiftOne
  rw [count, if_pos inside]
  simp only [bind, Except.bind, named position inside]

theorem joined_lowest {done lowest : Nat} (isLowest : Lowest flags lowest) :
    joined comma ((setBits flags).map fun bit => (names (done + bit)).bytes) =
      [comma] ++ (names (done + lowest)).bytes ++
        joined comma ((setBits (flags >>> (lowest + 1))).map fun bit =>
          (names (done + lowest + 1 + bit)).bytes) := by
  rw [isLowest.set_bits, List.map_cons, List.map_map, joined, List.flatMap_cons]
  simp only [Function.comp_def, ← Nat.add_assoc]
  rfl

theorem append_after {text : List UInt8} {src : CString} (holds : string.Holds text)
    (inside : text.length + 1 + src.length < NLIF_IFACE_FLAGS_STRSZ) :
    ∃ next, appendName string text.length src = .ok next ∧
      next.Holds (text ++ ([comma] ++ src.bytes)) := by
  have wide : text.length + 1 + src.bytes.length < NLIF_IFACE_FLAGS_STRSZ := inside
  have here : (text ++ [comma]).length = text.length + 1 := List.length_append
  obtain ⟨separated, storedComma, holdsComma⟩ :=
    store_after holds [comma] (by simp only [List.length_singleton]; omega)
  obtain ⟨next, storedName, holdsName⟩ := store_after holdsComma src.bytes
    (by rw [here]; omega)
  rw [here] at storedName
  rw [List.append_assoc] at holdsName
  refine ⟨next, ?_, holdsName⟩
  unfold appendName
  rw [storedComma]
  exact storedName

section Pass

variable {fuel dlen : Nat} {src : CString}

theorem loop_abort (left : flags ≠ 0#32) (named : flagName flagsStr (fl + ffs flags) = .ok src)
    (long : dlen + 1 + src.length ≥ NLIF_IFACE_FLAGS_STRSZ) :
    linkFlagsLoop ffs flagsStr (fuel + 1) flags fl dlen string = .ok .abort := by
  rw [linkFlagsLoop, if_pos left]
  simp only [named, bind, Except.bind, if_pos long]

theorem loop_next {next : Buffer NLIF_IFACE_FLAGS_STRSZ} {rest : BitVec 32} (left : flags ≠ 0#32)
    (named : flagName flagsStr (fl + ffs flags) = .ok src)
    (short : ¬ dlen + 1 + src.length ≥ NLIF_IFACE_FLAGS_STRSZ)
    (appended : appendName string dlen src = .ok next)
    (shifted : shiftFlags flags (ffs flags) = .ok rest) :
    linkFlagsLoop ffs flagsStr (fuel + 1) flags fl dlen string =
      linkFlagsLoop ffs flagsStr fuel rest (fl + ffs flags) (dlen + 1 + src.length) next := by
  rw [linkFlagsLoop, if_pos left]
  simp only [named, bind, Except.bind, if_neg short, appended, shifted]

end Pass

/-- The loop appends the names of the bits left, each behind a comma. The word is the part
of the flags from bit `base` on. -/
theorem loop_prints (first : FindsFirstSet ffs) (named : NamesFlags flagsStr names)
    {fuel base : Nat} {text : List UInt8} (enough : (setBits flags).length < fuel)
    (begun : 0 < base) (position : fl = BitVec.ofNat 32 base)
    (inside : ∀ bit ∈ setBits flags, base + bit < 32)
    (holds : string.Holds text) (room : text.length < NLIF_IFACE_FLAGS_STRSZ) :
    Prints
      (text ++ joined comma ((setBits flags).map fun bit => (names (base + bit)).bytes))
      (linkFlagsLoop ffs flagsStr fuel flags fl text.length string) := by
  induction fuel generalizing flags fl base text string with
  | zero => exact absurd enough (Nat.not_lt_zero _)
  | succ fuel ih =>
      by_cases zero : flags = 0#32
      · rw [linkFlagsLoop, if_neg (not_not.mpr zero), set_bits_eq_nil_iff.mpr zero]
        simpa [joined] using terminated holds room
      · obtain ⟨lowest, isLowest, found⟩ := first flags zero
        have bits := isLowest.set_bits
        have reached := inside lowest (mem_set_bits.mpr isLowest.here)
        have moved : fl + ffs flags = BitVec.ofNat 32 (base + lowest + 1) := by
          rw [position, found]
          bv_omega
        have shift : (ffs flags).toNat = lowest + 1 := by
          rw [found]
          bv_omega
        have shifted : shiftFlags flags (ffs flags) = .ok (flags >>> (lowest + 1)) := by
          rw [shiftFlags, shift, if_pos (by omega)]
        have src : flagName flagsStr (fl + ffs flags) = .ok (names (base + lowest)) :=
          flag_name named reached moved
        have size : (text ++ ([comma] ++ (names (base + lowest)).bytes)).length =
            text.length + 1 + (names (base + lowest)).length := by
          rw [List.length_append, List.length_append, ← Nat.add_assoc]
          rfl
        rw [joined_lowest isLowest, ← List.append_assoc]
        by_cases long : text.length + 1 + (names (base + lowest)).length ≥ NLIF_IFACE_FLAGS_STRSZ
        · rw [loop_abort zero src long]
          apply prints_abort
          rw [List.length_append, size]
          omega
        · obtain ⟨next, appended, longer⟩ := append_after holds (Nat.not_le.mp long)
          rw [loop_next zero src long appended shifted, moved, ← size]
          apply ih _ (by omega) rfl _ longer (by omega)
          · rw [bits, List.length_cons, List.length_map] at enough
            omega
          · intro bit member
            have also : lowest + 1 + bit ∈ setBits flags := by
              rw [bits]
              exact List.mem_cons_of_mem _ (List.mem_map.mpr ⟨bit, member, rfl⟩)
            have last := inside _ also
            omega

section Word

variable {fuel lowest : Nat}

theorem word_abort (left : flags ≠ 0#32) {src : CString}
    (named : flagName flagsStr (ffs flags) = .ok src) (long : src.length ≥ NLIF_IFACE_FLAGS_STRSZ) :
    nlifLinkFlagsStr ffs flagsStr fuel flags string = .ok .abort := by
  rw [nlifLinkFlagsStr, if_pos left]
  simp only [named, bind, Except.bind, if_pos long]

theorem word_stored (left : flags ≠ 0#32) {src : CString}
    (named : flagName flagsStr (ffs flags) = .ok src)
    (short : ¬ src.length ≥ NLIF_IFACE_FLAGS_STRSZ) {next : Buffer NLIF_IFACE_FLAGS_STRSZ}
    (stored : store string 0 src.bytes = .ok next) :
    nlifLinkFlagsStr ffs flagsStr fuel flags string =
      (shiftFlags flags (ffs flags) >>= fun rest =>
        linkFlagsLoop ffs flagsStr fuel rest (ffs flags) src.length next) := by
  rw [nlifLinkFlagsStr, if_pos left]
  simp only [named, bind, Except.bind, if_neg short, stored]

/-- The top bit is the only one that is not reached with a shift count below 32. -/
theorem lowest_top_iff (isLowest : Lowest flags lowest) : lowest = 31 ↔ flags = 0x80000000#32 := by
  have top : Lowest 0x80000000#32 31 := by
    constructor <;> decide
  constructor
  · rintro rfl
    apply BitVec.eq_of_getLsbD_eq
    intro bit inside
    by_cases last : bit = 31
    · rw [last, isLowest.here, top.here]
    · rw [isLowest.below bit (by omega), top.below bit (by omega)]
  · rintro rfl
    exact isLowest.unique top

theorem flags_text_lowest (isLowest : Lowest flags lowest) :
    flagsText names flags = (names lowest).bytes ++ joined comma
      ((setBits (flags >>> (lowest + 1))).map fun bit => (names (lowest + 1 + bit)).bytes) := by
  rw [flagsText, isLowest.set_bits, List.map_cons, List.map_map, intercalate_cons]
  rfl

theorem word_prints (first : FindsFirstSet ffs) (named : NamesFlags flagsStr names)
    (enough : 32 < fuel) (left : flags ≠ 0#32) (isLowest : Lowest flags lowest)
    (met : lowest < 31 ∨ (names lowest).length ≥ NLIF_IFACE_FLAGS_STRSZ) :
    Prints (flagsText names flags) (nlifLinkFlagsStr ffs flagsStr fuel flags string) := by
  obtain ⟨position, also, found⟩ := first flags left
  obtain rfl := isLowest.unique also
  have inside := isLowest.lt_width
  have src := flag_name named inside found
  rw [flags_text_lowest isLowest]
  by_cases long : (names lowest).length ≥ NLIF_IFACE_FLAGS_STRSZ
  · rw [word_abort left src long]
    apply prints_abort
    rw [List.length_append]
    change (names lowest).bytes.length ≥ _ at long
    omega
  · have low : lowest < 31 := met.resolve_right long
    have shift : (ffs flags).toNat = lowest + 1 := by
      rw [found]
      bv_omega
    have shifted : shiftFlags flags (ffs flags) = .ok (flags >>> (lowest + 1)) := by
      rw [shiftFlags, shift, if_pos (by omega)]
    obtain ⟨next, stored, holds⟩ := store_after string.holds_nil (names lowest).bytes
      (by rw [List.length_nil, Nat.zero_add]; exact Nat.le_of_not_le long)
    rw [word_stored left src long stored, shifted]
    apply loop_prints first named _ (Nat.succ_pos lowest) found _ holds (Nat.not_le.mp long)
    · have bounded := List.length_filter_le
        (fun bit => (flags >>> (lowest + 1)).getLsbD bit) (List.range 32)
      rw [List.length_range] at bounded
      exact Nat.lt_of_le_of_lt bounded enough
    · intro bit member
      rw [mem_set_bits, BitVec.getLsbD_ushiftRight] at member
      exact BitVec.lt_of_getLsbD member

theorem top_faults (first : FindsFirstSet ffs) (named : NamesFlags flagsStr names)
    (short : (names 31).length < NLIF_IFACE_FLAGS_STRSZ) :
    nlifLinkFlagsStr ffs flagsStr fuel 0x80000000#32 string = .error .shiftCount := by
  have left : 0x80000000#32 ≠ 0#32 := by decide
  obtain ⟨position, isLowest, found⟩ := first _ left
  obtain rfl := (lowest_top_iff isLowest).mpr rfl
  have src := flag_name named (by decide) found
  obtain ⟨next, stored, _⟩ := store_after string.holds_nil (names 31).bytes
    (by rw [List.length_nil, Nat.zero_add]; exact Nat.le_of_lt short)
  rw [word_stored left src (Nat.not_le.mpr short) stored, shiftFlags, found]
  rfl

/-- For any table of names, the flags are printed exact and within the buffer, or the
call aborts where they do not fit, unless the top bit is the only one set and its name
fits: then the word is shifted by 32. -/
theorem flags_str_prints_iff (first : FindsFirstSet ffs) (named : NamesFlags flagsStr names)
    (flags : BitVec 32) (string : Buffer NLIF_IFACE_FLAGS_STRSZ) :
    (∃ enough, ∀ fuel ≥ enough,
        Prints (flagsText names flags) (nlifLinkFlagsStr ffs flagsStr fuel flags string)) ↔
      ¬ (flags = 0x80000000#32 ∧ (names 31).length < NLIF_IFACE_FLAGS_STRSZ) := by
  constructor
  · rintro ⟨enough, prints⟩ ⟨rfl, short⟩
    have faulted := prints enough (Nat.le_refl enough)
    rw [top_faults first named short] at faulted
    exact not_prints_error _ faulted
  · intro met
    refine ⟨33, fun fuel enough => ?_⟩
    by_cases zero : flags = 0#32
    · have text : flagsText names flags = [] := by
        rw [flagsText, set_bits_eq_nil_iff.mpr zero]
        rfl
      rw [text, nlifLinkFlagsStr, if_neg (not_not.mpr zero)]
      exact terminated string.holds_nil (by decide)
    · obtain ⟨lowest, isLowest, _⟩ := first flags zero
      apply word_prints first named enough zero isLowest
      by_cases low : lowest < 31
      · exact .inl low
      · have inside := isLowest.lt_width
        obtain rfl : lowest = 31 := by omega
        have top := (lowest_top_iff isLowest).mp rfl
        exact .inr (Nat.not_lt.mp fun short => met ⟨top, short⟩)

end Word

end Loop

def ifinfoFlags : List String :=
  ["up", "broadcast", "debug", "loopback", "point-to-point", "no-trailers", "running", "no-arp",
    "promisc", "all-multi", "master", "slave", "multicast", "portsel", "auto-media", "dynamic",
    "lower-up", "dormant", "echo"]

def flagNames (position : Nat) : CString := cstring (ifinfoFlags.getD position "reserved")

def bopsFfs (flags : BitVec 32) : BitVec 32 :=
  match (setBits flags).head? with
  | some position => BitVec.ofNat 32 (position + 1)
  | none => 0#32

def rtLinkIfinfoFlagsStr (flag : BitVec 32) : Option CString :=
  (setBits flag).head?.map flagNames

def blank : Buffer NLIF_IFACE_FLAGS_STRSZ := ⟨List.replicate 256 0, List.length_replicate⟩

theorem bops_ffs_first : FindsFirstSet bopsFfs := by
  intro flags left
  obtain ⟨position, isLowest⟩ := exists_lowest left
  refine ⟨position, isLowest, ?_⟩
  rw [bopsFfs, isLowest.set_bits]
  rfl

theorem ifinfo_flags_named : NamesFlags rtLinkIfinfoFlagsStr flagNames := by
  intro position inside
  have isLowest : Lowest (1#32 <<< position) position := by
    constructor
    · simp [inside]
    · intro lower below
      rw [BitVec.getLsbD_shiftLeft]
      simp [below]
  rw [rtLinkIfinfoFlagsStr, isLowest.set_bits]
  rfl

/-- `IFF_UP`, `IFF_BROADCAST`, `IFF_RUNNING` and `IFF_LOWER_UP`. -/
theorem running_link_prints :
    ∃ enough, ∀ fuel ≥ enough, Prints (flagsText flagNames 0x10043#32)
      (nlifLinkFlagsStr bopsFfs rtLinkIfinfoFlagsStr fuel 0x10043#32 blank) :=
  (flags_str_prints_iff bops_ffs_first ifinfo_flags_named 0x10043#32 blank).mpr
    fun top => absurd top.1 (by decide)

example : flagsText flagNames 0x10043#32 = (cstring "up,broadcast,running,lower-up").bytes := by
  decide +kernel

/-- The top bit alone is not printed. -/
theorem top_flag_not_printed :
    (∀ fuel, nlifLinkFlagsStr bopsFfs rtLinkIfinfoFlagsStr fuel 0x80000000#32 blank =
      .error .shiftCount) ∧
    ¬ ∃ enough, ∀ fuel ≥ enough, Prints (flagsText flagNames 0x80000000#32)
      (nlifLinkFlagsStr bopsFfs rtLinkIfinfoFlagsStr fuel 0x80000000#32 blank) := by
  have faults : ∀ fuel, nlifLinkFlagsStr bopsFfs rtLinkIfinfoFlagsStr fuel 0x80000000#32 blank =
      .error .shiftCount :=
    fun fuel => top_faults bops_ffs_first ifinfo_flags_named (by decide +kernel)
  refine ⟨faults, fun printed => ?_⟩
  obtain ⟨enough, prints⟩ := printed
  have last := prints enough (Nat.le_refl enough)
  rw [faults] at last
  exact not_prints_error _ last

end Nlif.FlagString
