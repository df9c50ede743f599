import Nlif.FlagString
import Nlif.LinkText
import Nlif.StagedRefresh

/-!
# Printing

Transcription of `nlif_link_print` of `lib/link.c` and `nlif_iface_print` of `lib/iface.c` with
the functions that format their values, over one buffer. Both print under the same
conditions, and on an interface just loaded from a link the second prints lines of the first.
-/

namespace Nlif.LinkPrint

open LinkModel IfaceModel FaultWalk StoreModel GateModel GateSpec OperModel DigitText TextBuffer
  BitScan FlagString LinkText
open DaemonModel (cstring ARPHRD_ETHER ARPHRD_LOOPBACK)
open LibraryRun (KernelReports machine oneLinkInit oneLinkPlatform one_link_kernel_reports)

set_option autoImplicit false

abbrev Bytes := List UInt8

/-- What ends the program in the middle of a print. -/
inductive Halt where
  | abort
  | printing (fault : PrintFault)
  | fault (fault : Fault)
deriving DecidableEq

def faulting {Value : Type} : Except Fault Value → Except Halt Value
  | .ok value => .ok value
  | .error fault => .error (.fault fault)

def IF_LINK_MODE_DEFAULT : UInt8 := 0
def IF_LINK_MODE_DORMANT : UInt8 := 1
def IF_LINK_MODE_TESTING : UInt8 := 2

def ARPHRD_VOID : UInt16 := 0xffff

def NLIF_UINT_STRSZ : Nat := 11

def nlifLinkModeStr (mode : UInt8) : Except Fault CString :=
  if mode = IF_LINK_MODE_DEFAULT then .ok (cstring "default")
  else if mode = IF_LINK_MODE_DORMANT then .ok (cstring "dormant")
  else if mode = IF_LINK_MODE_TESTING then .ok (cstring "testing")
  else .error .unreachable

def nlifLinkTypeStr (type : UInt16) : CString :=
  if type = ARPHRD_ETHER then cstring "ethernet"
  else if type = ARPHRD_LOOPBACK then cstring "loopback"
  else if type = ARPHRD_VOID then cstring "unknown"
  else cstring "unsupported"

def nlifMaybeEmptyStr (string : Option CString) : CString := string.getD (cstring "none")

def readString : Option HeapStr → Except Fault (Option CString)
  | none => .ok none
  | some pointer => some <$> pointer.read

/-- What the generated code and the stroll library give, and a bound on the flags. -/
structure Printer where
  ffs : BitVec 32 → BitVec 32
  flagsStr : BitVec 32 → Option CString
  bound : Nat

/-- The memory both functions allocate: 256 bytes, the largest of the three sizes. -/
abbrev Scratch := Buffer NLIF_IFACE_FLAGS_STRSZ

abbrev Formatted := Except Halt (Bytes × Scratch)

/-- `sprintf()` or `memcpy()` of a text to the start of the buffer. -/
def writeText (text : CString) (string : Scratch) : Formatted :=
  match store string 0 (text.bytes ++ [0]) with
  | .ok string => .ok (string.text, string)
  | .error fault => .error (.printing fault)

def linkFlagsStr (printer : Printer) (flags : BitVec 32) (string : Scratch) : Formatted :=
  match nlifLinkFlagsStr printer.ffs printer.flagsStr printer.bound flags string with
  | .ok (.returned string) => .ok (string.text, string)
  | .ok .abort => .error .abort
  | .error fault => .error (.printing fault)

def nlifNozeroStr (uint : UInt32) (string : Scratch) : Formatted :=
  if uint ≠ 0 then writeText (indexStr uint) string else writeText (cstring "none") string

def linkHwaddrStr (hwaddr : EtherAddr) (string : Scratch) : Formatted :=
  writeText (nlifLinkHwaddrStr hwaddr) string

/-- `"     label:  %s\n"` -/
def line (label : String) (value : Bytes) : Bytes := (cstring label).bytes ++ (value ++ [10])

def column (digits : Bytes) : Bytes := List.replicate (3 - digits.length) 32 ++ digits

def unsignedStr (value : UInt32) : Bytes := (indexStr value).bytes

/-- `%d` of an `int`. -/
def signedStr (value : UInt32) : Bytes :=
  if value ≤ INT_MAX then unsignedStr value
  else 45 :: (cstring (toString (2 ^ 32 - value.toNat))).bytes

/-- `"%3d: %s\n"` or `"%3u: %s\n"`. -/
def headLine (index : Bytes) (name : CString) : Bytes :=
  column index ++ ((cstring ": ").bytes ++ (name.bytes ++ [10]))

def nlifLinkPrint (printer : Printer) (link : GetlinkRsp) (str : Scratch) :
    Except Halt (List Bytes) := do
  let (flags, str) ← linkFlagsStr printer link.ifiFlags str
  -- the flags again, not the mask of those that changed
  let (change, str) ← linkFlagsStr printer link.ifiFlags str
  let operstate ← faulting (nlifLinkOperstateStr (link.operstate.getD 0))
  let linkmode ← faulting (nlifLinkModeStr (link.linkmode.getD 0))
  let (lower, str) ← nlifNozeroStr (link.link.getD 0) str
  let (master, str) ← nlifNozeroStr (link.master.getD 0) str
  let (mtu, str) ← nlifNozeroStr (link.mtu.getD 0) str
  let (minMtu, str) ← nlifNozeroStr (link.minMtu.getD 0) str
  let (maxMtu, str) ← nlifNozeroStr (link.maxMtu.getD 0) str
  let (hwaddr, _) ← linkHwaddrStr link.etherAddress str
  .ok [
    headLine (signedStr link.ifiIndex) link.ifname,
    line "     group:     " (unsignedStr (link.group.getD 0)),
    line "     flags:     " flags,
    line "     change:    " change,
    line "     operstate: " operstate.bytes,
    line "     carrier:   " (unsignedStr (link.carrier.getD 0).toUInt32),
    line "     linkmode:  " linkmode.bytes,
    line "     type:      " (nlifLinkTypeStr link.ifiType).bytes,
    line "     kind:      " (nlifMaybeEmptyStr link.heldKind).bytes,
    line "     alias:     " (nlifMaybeEmptyStr link.heldAlias).bytes,
    line "     link:      " lower,
    line "     master:    " master,
    line "     mtu:       " mtu,
    line "     min_mtu:   " minMtu,
    line "     max_mtu:   " maxMtu,
    line "     hwaddr:    " hwaddr]

/-- `nlif_iface_print()` once the interface is synchronised. -/
def ifaceLines (printer : Printer) (interface : Iface) (str : Scratch) :
    Except Halt (List Bytes) := do
  let (flags, str) ← linkFlagsStr printer interface.flags str
  let operstate ← faulting (nlifLinkOperstateStr interface.opstat)
  let linkmode ← faulting (nlifLinkModeStr interface.lnkmod)
  let ifalias ← faulting (readString interface.ifalias)
  let kind ← faulting (readString interface.kind)
  let (lower, str) ← nlifNozeroStr interface.lnk str
  let (master, str) ← nlifNozeroStr interface.mst str
  let (mtu, str) ← nlifNozeroStr interface.mtu str
  let (minMtu, str) ← nlifNozeroStr interface.minMtu str
  let (maxMtu, str) ← nlifNozeroStr interface.maxMtu str
  let (hwaddr, _) ← linkHwaddrStr interface.hwadr str
  .ok [
    headLine (unsignedStr interface.idx) interface.name,
    line "     group:     " (unsignedStr interface.group),
    line "     flags:     " flags,
    line "     operstate: " operstate.bytes,
    line "     linkmode:  " linkmode.bytes,
    line "     type:      " (nlifLinkTypeStr interface.type).bytes,
    line "     alias:     " (nlifMaybeEmptyStr ifalias).bytes,
    line "     kind:      " (nlifMaybeEmptyStr kind).bytes,
    line "     link:      " lower,
    line "     master:    " master,
    line "     mtu:       " mtu,
    line "     min_mtu:   " minMtu,
    line "     max_mtu:   " maxMtu,
    line "     hwaddr:    " hwaddr]

/-- The flags have a text that fits, and are not the top one alone. -/
def Fits (names : Nat → CString) (flags : BitVec 32) : Prop :=
  flags ≠ 0x80000000#32 ∧ (flagsText names flags).length < NLIF_IFACE_FLAGS_STRSZ

instance (names : Nat → CString) (flags : BitVec 32) : Decidable (Fits names flags) :=
  inferInstanceAs (Decidable (_ ∧ _))

/-- What is relied on of the code outside the repository. -/
structure Documented (printer : Printer) (names : Nat → CString) : Prop where
  first : FindsFirstSet printer.ffs
  named : NamesFlags printer.flagsStr names
  bound : 32 < printer.bound

def nozeroText (uint : UInt32) : Bytes :=
  if uint ≠ 0 then (indexStr uint).bytes else (cstring "none").bytes

section Values

variable {printer : Printer} {names : Nat → CString} {str next : Scratch} {text : Bytes}

theorem write_text_eq {value : CString} (short : value.length < NLIF_IFACE_FLAGS_STRSZ)
    (str : Scratch) : ∃ next, writeText value str = .ok (value.bytes, next) := by
  have room : ([] : Bytes).length + (value.bytes ++ [0]).length ≤ NLIF_IFACE_FLAGS_STRSZ := by
    rw [List.length_nil, List.length_append, Nat.zero_add]
    exact short
  obtain ⟨next, stored, reads⟩ := store_after str.holds_nil (value.bytes ++ [0]) room
  have stored : store str 0 (value.bytes ++ [0]) = .ok next := stored
  have holds : next.Reads value.bytes := reads
  refine ⟨next, ?_⟩
  rw [writeText, stored]
  simp only [holds.text value.nulFree]

/-- The digits of an `unsigned int` and their terminator fit `NLIF_UINT_STRSZ` bytes. -/
theorem index_str_length (value : UInt32) : (indexStr value).length < NLIF_UINT_STRSZ := by
  have count : (indexStr value).length = (decimal value.toNat).length := by
    rw [← number_characters, characters, List.length_map]
    rfl
  have small : value.toNat < 10 ^ 10 := lt_trans value.toNat_lt (by decide)
  have short := (Nat.length_toDigits_le_iff (b := 10) (k := 10) (by decide) (by decide)).mpr small
  rw [count]
  exact Nat.lt_succ_of_le short

theorem nozero_str_eq (uint : UInt32) (str : Scratch) :
    ∃ next, nlifNozeroStr uint str = .ok (nozeroText uint, next) := by
  unfold nlifNozeroStr nozeroText
  split
  · exact write_text_eq (lt_trans (index_str_length uint) (by decide)) str
  · exact write_text_eq (by decide +kernel) str

theorem hwaddr_str_eq (hwaddr : EtherAddr) (str : Scratch) :
    ∃ next, linkHwaddrStr hwaddr str = .ok ((nlifLinkHwaddrStr hwaddr).bytes, next) := by
  apply write_text_eq
  have sized := hwaddr_str_length hwaddr
  have size : NLIF_LINK_HWADDR_STRSZ = 18 := rfl
  have room : NLIF_IFACE_FLAGS_STRSZ = 256 := rfl
  omega

theorem flags_text_nul_free (names : Nat → CString) (flags : BitVec 32) :
    (0 : UInt8) ∉ flagsText names flags := by
  rw [flagsText]
  cases setBits flags with
  | nil => exact List.not_mem_nil
  | cons lowest rest =>
      rw [List.map_cons, intercalate_cons, joined, List.mem_append, List.mem_flatMap]
      rintro (inside | ⟨name, member, inside⟩)
      · exact (names lowest).nulFree inside
      · obtain ⟨position, _, rfl⟩ := List.mem_map.mp member
        cases inside with
        | tail _ inside => exact (names position).nulFree inside

theorem flags_str_prints (documented : Documented printer names) (flags : BitVec 32)
    (ordinary : flags ≠ 0x80000000#32) (str : Scratch) :
    Prints (flagsText names flags)
      (nlifLinkFlagsStr printer.ffs printer.flagsStr printer.bound flags str) := by
  by_cases zero : flags = 0#32
  · have text : flagsText names flags = [] := by
      rw [flagsText, set_bits_eq_nil_iff.mpr zero]
      rfl
    rw [text, nlifLinkFlagsStr, if_neg (not_not.mpr zero)]
    exact terminated str.holds_nil (by decide)
  · obtain ⟨lowest, isLowest, _⟩ := documented.first flags zero
    have inside := isLowest.lt_width
    have low : lowest < 31 := by
      have apart : lowest ≠ 31 := fun top => ordinary ((lowest_top_iff isLowest).mp top)
      omega
    exact word_prints documented.first documented.named documented.bound zero isLowest (.inl low)

theorem flags_str_eq (documented : Documented printer names) {flags : BitVec 32}
    (fits : Fits names flags) (str : Scratch) :
    ∃ next, linkFlagsStr printer flags str = .ok (flagsText names flags, next) := by
  have prints := flags_str_prints documented flags fits.1 str
  have short := fits.2
  rw [Prints, if_neg (by omega)] at prints
  obtain ⟨next, returned, reads⟩ := prints
  refine ⟨next, ?_⟩
  rw [linkFlagsStr, returned]
  simp only [reads.text (flags_text_nul_free names flags)]

theorem flags_str_halts (documented : Documented printer names) {flags : BitVec 32}
    (unfit : ¬ Fits names flags) (str : Scratch) :
    ∃ halt, linkFlagsStr printer flags str = .error halt := by
  by_cases ordinary : flags = 0x80000000#32
  · subst ordinary
    by_cases short : (names 31).length < NLIF_IFACE_FLAGS_STRSZ
    · have faulted : nlifLinkFlagsStr printer.ffs printer.flagsStr printer.bound 0x80000000#32
          str = .error .shiftCount := top_faults documented.first documented.named short
      exact ⟨.printing .shiftCount, by rw [linkFlagsStr, faulted]⟩
    · obtain ⟨lowest, isLowest, _⟩ := documented.first 0x80000000#32 (by decide)
      obtain rfl := (lowest_top_iff isLowest).mpr rfl
      have prints : Prints (flagsText names 0x80000000#32)
          (nlifLinkFlagsStr printer.ffs printer.flagsStr printer.bound 0x80000000#32 str) :=
        word_prints documented.first documented.named documented.bound (by decide) isLowest
          (.inr (Nat.not_lt.mp short))
      rw [Prints, if_pos] at prints
      · exact ⟨.abort, by rw [linkFlagsStr, prints]⟩
      · rw [flags_text_lowest isLowest, List.length_append]
        have long : NLIF_IFACE_FLAGS_STRSZ ≤ (names 31).bytes.length := Nat.not_lt.mp short
        omega
  · have prints := flags_str_prints documented flags ordinary str
    have long : ¬ (flagsText names flags).length < NLIF_IFACE_FLAGS_STRSZ :=
      fun short => unfit ⟨ordinary, short⟩
    rw [Prints, if_pos (by omega)] at prints
    exact ⟨.abort, by rw [linkFlagsStr, prints]⟩

def linkText (names : Nat → CString) (link : GetlinkRsp) (operstate linkmode : CString) :
    List Bytes := [
  headLine (signedStr link.ifiIndex) link.ifname,
  line "     group:     " (unsignedStr (link.group.getD 0)),
  line "     flags:     " (flagsText names link.ifiFlags),
  line "     change:    " (flagsText names link.ifiFlags),
  line "     operstate: " operstate.bytes,
  line "     carrier:   " (unsignedStr (link.carrier.getD 0).toUInt32),
  line "     linkmode:  " linkmode.bytes,
  line "     type:      " (nlifLinkTypeStr link.ifiType).bytes,
  line "     kind:      " (nlifMaybeEmptyStr link.heldKind).bytes,
  line "     alias:     " (nlifMaybeEmptyStr link.heldAlias).bytes,
  line "     link:      " (nozeroText (link.link.getD 0)),
  line "     master:    " (nozeroText (link.master.getD 0)),
  line "     mtu:       " (nozeroText (link.mtu.getD 0)),
  line "     min_mtu:   " (nozeroText (link.minMtu.getD 0)),
  line "     max_mtu:   " (nozeroText (link.maxMtu.getD 0)),
  line "     hwaddr:    " (nlifLinkHwaddrStr link.etherAddress).bytes]

def ifaceText (names : Nat → CString) (interface : Iface) (operstate linkmode : CString) :
    List Bytes := [
  headLine (unsignedStr interface.idx) interface.name,
  line "     group:     " (unsignedStr interface.group),
  line "     flags:     " (flagsText names interface.flags),
  line "     operstate: " operstate.bytes,
  line "     linkmode:  " linkmode.bytes,
  line "     type:      " (nlifLinkTypeStr interface.type).bytes,
  line "     alias:     " (nlifMaybeEmptyStr (interface.ifalias.map HeapStr.text)).bytes,
  line "     kind:      " (nlifMaybeEmptyStr (interface.kind.map HeapStr.text)).bytes,
  line "     link:      " (nozeroText interface.lnk),
  line "     master:    " (nozeroText interface.mst),
  line "     mtu:       " (nozeroText interface.mtu),
  line "     min_mtu:   " (nozeroText interface.minMtu),
  line "     max_mtu:   " (nozeroText interface.maxMtu),
  line "     hwaddr:    " (nlifLinkHwaddrStr interface.hwadr).bytes]

structure Printable (names : Nat → CString) (flags : BitVec 32) (opstat lnkmod : UInt8)
    (operstate linkmode : CString) : Prop where
  fits : Fits names flags
  operstate : nlifLinkOperstateStr opstat = .ok operstate
  linkmode : nlifLinkModeStr lnkmod = .ok linkmode

theorem faulting_ok_iff {Value : Type} (outcome : Except Fault Value) (value : Value) :
    faulting outcome = .ok value ↔ outcome = .ok value := by
  cases outcome <;> simp [faulting]

theorem read_string_ok_iff (pointer : Option HeapStr) (text : Option CString) :
    readString pointer = .ok text ↔ (∀ held, pointer = some held → held.live = true) ∧
      text = pointer.map HeapStr.text := by
  cases pointer with
  | none =>
      rw [readString, Except.ok.injEq, Option.map_none, and_iff_right nofun]
      exact eq_comm
  | some held =>
      rw [readString, map_ok_iff]
      simp only [HeapStr.read_ok_iff, Option.some.injEq, forall_eq', Option.map_some]
      constructor
      · rintro ⟨_, ⟨live, rfl⟩, rfl⟩
        exact ⟨live, rfl⟩
      · rintro ⟨live, rfl⟩
        exact ⟨_, ⟨live, rfl⟩, rfl⟩

theorem flags_str_ok (documented : Documented printer names) {flags : BitVec 32}
    (done : linkFlagsStr printer flags str = .ok (text, next)) :
    Fits names flags ∧ text = flagsText names flags := by
  by_cases fits : Fits names flags
  · obtain ⟨other, same⟩ := flags_str_eq documented fits str
    cases same.symm.trans done
    exact ⟨fits, rfl⟩
  · obtain ⟨halt, halted⟩ := flags_str_halts documented fits str
    cases halted.symm.trans done

theorem nozero_str_ok {uint : UInt32} (done : nlifNozeroStr uint str = .ok (text, next)) :
    text = nozeroText uint := by
  obtain ⟨other, same⟩ := nozero_str_eq uint str
  cases same.symm.trans done
  rfl

/-- An interface is printed exactly where its strings are allocated, its flags fit and its
two states have a name. -/
theorem iface_lines_ok_iff (documented : Documented printer names) {interface : Iface}
    {lines : List Bytes} : ifaceLines printer interface str = .ok lines ↔
      Held interface ∧ ∃ operstate linkmode,
        Printable names interface.flags interface.opstat interface.lnkmod operstate linkmode ∧
        lines = ifaceText names interface operstate linkmode := by
  constructor
  · intro done
    obtain ⟨⟨flags, _⟩, flagged, done⟩ := (bind_ok_iff ..).mp done
    obtain ⟨operstate, named, done⟩ := (bind_ok_iff ..).mp done
    obtain ⟨linkmode, moded, done⟩ := (bind_ok_iff ..).mp done
    obtain ⟨ifalias, aliased, done⟩ := (bind_ok_iff ..).mp done
    obtain ⟨kind, typed, done⟩ := (bind_ok_iff ..).mp done
    obtain ⟨⟨lower, _⟩, linked, done⟩ := (bind_ok_iff ..).mp done
    obtain ⟨⟨master, _⟩, mastered, done⟩ := (bind_ok_iff ..).mp done
    obtain ⟨⟨mtu, _⟩, sized, done⟩ := (bind_ok_iff ..).mp done
    obtain ⟨⟨minMtu, _⟩, above, done⟩ := (bind_ok_iff ..).mp done
    obtain ⟨⟨maxMtu, _⟩, below, done⟩ := (bind_ok_iff ..).mp done
    obtain ⟨⟨hwaddr, _⟩, addressed, done⟩ := (bind_ok_iff ..).mp done
    obtain ⟨fits, rfl⟩ := flags_str_ok documented flagged
    obtain ⟨aliasHeld, rfl⟩ := (read_string_ok_iff ..).mp ((faulting_ok_iff ..).mp aliased)
    obtain ⟨kindHeld, rfl⟩ := (read_string_ok_iff ..).mp ((faulting_ok_iff ..).mp typed)
    obtain ⟨_, written⟩ := hwaddr_str_eq interface.hwadr _
    cases written.symm.trans addressed
    cases nozero_str_ok linked
    cases nozero_str_ok mastered
    cases nozero_str_ok sized
    cases nozero_str_ok above
    cases nozero_str_ok below
    exact ⟨⟨aliasHeld, kindHeld⟩, operstate, linkmode,
      ⟨fits, (faulting_ok_iff ..).mp named, (faulting_ok_iff ..).mp moded⟩,
      (Except.ok.inj done).symm⟩
  · rintro ⟨held, operstate, linkmode, printable, rfl⟩
    have ifalias := (read_string_ok_iff interface.ifalias _).mpr ⟨held.ifalias, rfl⟩
    have kind := (read_string_ok_iff interface.kind _).mpr ⟨held.kind, rfl⟩
    obtain ⟨first, flags⟩ := flags_str_eq documented printable.fits str
    obtain ⟨second, lower⟩ := nozero_str_eq interface.lnk first
    obtain ⟨third, master⟩ := nozero_str_eq interface.mst second
    obtain ⟨fourth, mtu⟩ := nozero_str_eq interface.mtu third
    obtain ⟨fifth, minMtu⟩ := nozero_str_eq interface.minMtu fourth
    obtain ⟨sixth, maxMtu⟩ := nozero_str_eq interface.maxMtu fifth
    obtain ⟨last, hwaddr⟩ := hwaddr_str_eq interface.hwadr sixth
    simp only [ifaceLines, flags, printable.operstate, printable.linkmode, ifalias, kind, lower,
      master, mtu, minMtu, maxMtu, hwaddr, faulting, ok_bind]
    rfl

theorem link_print_ok_iff (documented : Documented printer names) {link : GetlinkRsp}
    {lines : List Bytes} : nlifLinkPrint printer link str = .ok lines ↔
      ∃ operstate linkmode, Printable names link.ifiFlags (link.operstate.getD 0)
          (link.linkmode.getD 0) operstate linkmode ∧
        lines = linkText names link operstate linkmode := by
  constructor
  · intro done
    obtain ⟨⟨flags, _⟩, flagged, done⟩ := (bind_ok_iff ..).mp done
    obtain ⟨⟨change, _⟩, changed, done⟩ := (bind_ok_iff ..).mp done
    obtain ⟨operstate, named, done⟩ := (bind_ok_iff ..).mp done
    obtain ⟨linkmode, moded, done⟩ := (bind_ok_iff ..).mp done
    obtain ⟨⟨lower, _⟩, linked, done⟩ := (bind_ok_iff ..).mp done
    obtain ⟨⟨master, _⟩, mastered, done⟩ := (bind_ok_iff ..).mp done
    obtain ⟨⟨mtu, _⟩, sized, done⟩ := (bind_ok_iff ..).mp done
    obtain ⟨⟨minMtu, _⟩, above, done⟩ := (bind_ok_iff ..).mp done
    obtain ⟨⟨maxMtu, _⟩, below, done⟩ := (bind_ok_iff ..).mp done
    obtain ⟨⟨hwaddr, _⟩, addressed, done⟩ := (bind_ok_iff ..).mp done
    obtain ⟨fits, rfl⟩ := flags_str_ok documented flagged
    obtain ⟨_, rfl⟩ := flags_str_ok documented changed
    obtain ⟨_, written⟩ := hwaddr_str_eq link.etherAddress _
    cases written.symm.trans addressed
    cases nozero_str_ok linked
    cases nozero_str_ok mastered
    cases nozero_str_ok sized
    cases nozero_str_ok above
    cases nozero_str_ok below
    exact ⟨operstate, linkmode,
      ⟨fits, (faulting_ok_iff ..).mp named, (faulting_ok_iff ..).mp moded⟩,
      (Except.ok.inj done).symm⟩
  · rintro ⟨operstate, linkmode, printable, rfl⟩
    obtain ⟨zeroth, flags⟩ := flags_str_eq documented printable.fits str
    obtain ⟨first, change⟩ := flags_str_eq documented printable.fits zeroth
    obtain ⟨second, lower⟩ := nozero_str_eq (link.link.getD 0) first
    obtain ⟨third, master⟩ := nozero_str_eq (link.master.getD 0) second
    obtain ⟨fourth, mtu⟩ := nozero_str_eq (link.mtu.getD 0) third
    obtain ⟨fifth, minMtu⟩ := nozero_str_eq (link.minMtu.getD 0) fourth
    obtain ⟨sixth, maxMtu⟩ := nozero_str_eq (link.maxMtu.getD 0) fifth
    obtain ⟨last, hwaddr⟩ := hwaddr_str_eq link.etherAddress sixth
    simp only [nlifLinkPrint, flags, change, printable.operstate, printable.linkmode, lower,
      master, mtu, minMtu, maxMtu, hwaddr, faulting, ok_bind]
    rfl

/-- The lines of an interface, where it can be printed. -/
def ifaceRecord (names : Nat → CString) (interface : Iface) : Option (List Bytes) :=
  if Fits names interface.flags then
    match nlifLinkOperstateStr interface.opstat, nlifLinkModeStr interface.lnkmod with
    | .ok operstate, .ok linkmode => some (ifaceText names interface operstate linkmode)
    | _, _ => none
  else none

theorem iface_record_iff {interface : Iface} {lines : List Bytes} :
    ifaceRecord names interface = some lines ↔ ∃ operstate linkmode,
      Printable names interface.flags interface.opstat interface.lnkmod operstate linkmode ∧
      lines = ifaceText names interface operstate linkmode := by
  constructor
  · intro recorded
    unfold ifaceRecord at recorded
    split at recorded
    · rename_i fits
      split at recorded
      · rename_i operstate linkmode named moded
        cases recorded
        exact ⟨operstate, linkmode, ⟨fits, named, moded⟩, rfl⟩
      · cases recorded
    · cases recorded
  · rintro ⟨operstate, linkmode, printable, rfl⟩
    rw [ifaceRecord, if_pos printable.fits, printable.operstate, printable.linkmode]

theorem held_lines_iff (documented : Documented printer names) {interface : Iface}
    (held : Held interface) {lines : List Bytes} :
    ifaceLines printer interface str = .ok lines ↔ ifaceRecord names interface = some lines := by
  rw [iface_lines_ok_iff documented, iface_record_iff, and_iff_right held]

/-- On an interface just loaded from a link of an index that validates, the lines printed
are those of the link without the `change` and `carrier` lines, in another order. -/
theorem filled_text_perm {link : GetlinkRsp} (valid : linkValidateIndex link.ifiIndex = 0)
    (operstate linkmode : CString) :
    (ifaceText names (ifaceFill link) operstate linkmode).Perm
      (((linkText names link operstate linkmode).eraseIdx 5).eraseIdx 3) := by
  have index : signedStr link.ifiIndex = unsignedStr link.ifiIndex := by
    rw [linkValidateIndex] at valid
    split at valid
    · rename_i bounded
      exact if_pos bounded.2
    · cases valid
  have texts : ∀ held : Option CString, (held.map dupStr).map HeapStr.text = held := by
    intro held
    cases held <;> rfl
  simp only [ifaceText, linkText, ifaceFill, index, texts, List.eraseIdx_cons_succ,
    List.eraseIdx_cons_zero]
  -- six lines, then the alias before the kind
  repeat apply List.Perm.cons
  exact List.Perm.swap ..

end Values

section Print

variable {NameBucket IndexBucket Kstate : Type} [DecidableEq NameBucket]
  [DecidableEq IndexBucket]

def nlifIfacePrint (printer : Printer) (platform : Platform NameBucket IndexBucket Kstate)
    (str : Scratch) (interface : Addr) (world : World NameBucket IndexBucket Kstate) :
    Except Halt ((Int × List Bytes) × World NameBucket IndexBucket Kstate) := do
  let (ret, world) ← faulting (ifaceSync platform interface world)
  if ret ≠ 0 then .ok ((ret, []), world)
  else do
    let lines ← ifaceLines printer (world.objects interface) str
    .ok ((0, lines), world)

variable {printer : Printer} {names : Nat → CString} {interface : Addr}
  {platform : Platform NameBucket IndexBucket Kstate}
  {world next : World NameBucket IndexBucket Kstate} {str : Scratch} {lines : List Bytes}

theorem iface_print_synced_iff (documented : Documented printer names)
    (synced : ifaceSync platform interface world = .ok (0, next))
    (held : Held (next.objects interface)) :
    nlifIfacePrint printer platform str interface world = .ok ((0, lines), next) ↔
      ifaceRecord names (next.objects interface) = some lines := by
  have shown : ifaceLines printer (next.objects interface) str = .ok lines ↔ _ :=
    held_lines_iff documented held
  unfold nlifIfacePrint
  rw [synced, ← shown]
  simp only [faulting, ok_bind, ne_eq, not_true_eq_false, if_false, bind_ok_iff, Except.ok.injEq,
    Prod.mk.injEq, and_true, true_and, exists_eq_right]

/-- An interface in state `INVALID` prints what the kernel answers then: the lines of that
link, without two of them and in another order. It is printed exactly where the link is. -/
theorem print_shows_answer (documented : Documented printer names)
    (reports : KernelReports platform.kernel) (subscribed : world.gate.notif = true)
    (invalid : (world.objects interface).state = .invalid)
    (reloaded : ifaceReload platform interface world = .ok (0, next)) :
    ∃ link kernel, platform.kernel.getlink (world.objects interface).idx world.kernel =
        (.ok link, kernel) ∧
      ∀ str other, ((∃ lines, nlifIfacePrint printer platform str interface world =
          .ok ((0, lines), next)) ↔ ∃ all, nlifLinkPrint printer link other = .ok all) ∧
        ∀ lines all, nlifIfacePrint printer platform str interface world =
            .ok ((0, lines), next) → nlifLinkPrint printer link other = .ok all →
          lines.Perm ((all.eraseIdx 5).eraseIdx 3) := by
  have synced : ifaceSync platform interface world = .ok (0, next) := by
    unfold ifaceSync
    rw [invalid]
    exact reloaded
  have reload := (iface_reload_ok_iff platform interface world subscribed 0 next).mp reloaded
  cases reload with
  | unanswered _ _ refused => exact absurd rfl (gate_getlink_error refused)
  | clashed _ _ _ _ failed => exact absurd rfl failed
  | @accepted answer kernel link store _ asked given _ =>
      obtain ⟨rfl, _⟩ := gate_getlink_ok given
      have filled : (GateSpec.reloaded interface world link kernel 0 store).objects interface =
          ifaceFill link := Function.update_self ..
      have held := held_fill link
      have valid := (reports.getlink _ _ _ _ asked).2.index
      have prints : ∀ str lines, nlifIfacePrint printer platform str interface world =
            .ok ((0, lines), GateSpec.reloaded interface world link kernel 0 store) ↔
          ∃ operstate linkmode, Printable names link.ifiFlags (link.operstate.getD 0)
              (link.linkmode.getD 0) operstate linkmode ∧
            lines = ifaceText names (ifaceFill link) operstate linkmode := by
        intro str lines
        rw [iface_print_synced_iff documented synced (filled ▸ held), filled, iface_record_iff]
        rfl
      refine ⟨link, kernel, asked, fun str other => ⟨?_, ?_⟩⟩
      · constructor
        · rintro ⟨lines, printed⟩
          obtain ⟨operstate, linkmode, printable, _⟩ := (prints str lines).mp printed
          exact ⟨_, (link_print_ok_iff documented).mpr ⟨operstate, linkmode, printable, rfl⟩⟩
        · rintro ⟨all, printed⟩
          obtain ⟨operstate, linkmode, printable, _⟩ := (link_print_ok_iff documented).mp printed
          exact ⟨_, (prints str _).mpr ⟨operstate, linkmode, printable, rfl⟩⟩
      · intro lines all printed shown
        obtain ⟨operstate, linkmode, printable, rfl⟩ := (prints str lines).mp printed
        obtain ⟨otherState, otherMode, also, rfl⟩ := (link_print_ok_iff documented).mp shown
        cases printable.operstate.symm.trans also.operstate
        cases printable.linkmode.symm.trans also.linkmode
        exact filled_text_perm valid operstate linkmode

end Print

def codePrinter : Printer := ⟨bopsFfs, rtLinkIfinfoFlagsStr, 33⟩

theorem code_printer_documented : Documented codePrinter flagNames :=
  ⟨bops_ffs_first, ifinfo_flags_named, by decide⟩

def invalidWorld : CodeWorld Unit :=
  ((machine oneLinkPlatform).after .load oneLinkInit).invalidate 0

/-- The link "a" is printed as the kernel has it. -/
theorem invalid_link_printed :
    ∃ next, ifaceReload oneLinkPlatform 0 invalidWorld = .ok (0, next) ∧
      ∃ link kernel, oneLinkPlatform.kernel.getlink (invalidWorld.objects 0).idx () =
          (.ok link, kernel) ∧
        ∀ str other, ((∃ lines, nlifIfacePrint codePrinter oneLinkPlatform str 0 invalidWorld =
            .ok ((0, lines), next)) ↔ ∃ all, nlifLinkPrint codePrinter link other = .ok all) ∧
          ∀ lines all, nlifIfacePrint codePrinter oneLinkPlatform str 0 invalidWorld =
              .ok ((0, lines), next) → nlifLinkPrint codePrinter link other = .ok all →
            lines.Perm ((all.eraseIdx 5).eraseIdx 3) := by
  have result : Prod.fst <$> ifaceReload oneLinkPlatform 0 invalidWorld = .ok 0 := by
    decide +kernel
  obtain ⟨⟨ret, next⟩, reloaded, rfl⟩ := (map_ok_iff ..).mp result
  exact ⟨next, reloaded, print_shows_answer code_printer_documented one_link_kernel_reports rfl rfl
    reloaded⟩

end Nlif.LinkPrint
