import Mathlib.Data.List.Basic
import Mathlib.Logic.Basic
import Mathlib.Tactic.Common

/-!
# Links as the kernel reports them

Transcription of `lib/link.h`, `lib/link.c`, the error codes of `lib/common.h`
and `nlif_gate_islink_valid` of `lib/gate.c`. C strings are their bytes before
the terminating NUL. An attribute that may be absent from a netlink message is
an `Option`; ynl leaves an absent scalar at zero. `ifi_index` is kept as the
unsigned value the library converts it to, so negative indices are those above
`INT_MAX`.
-/

namespace Nlif.LinkModel

set_option autoImplicit false

abbrev Addr := Nat

structure CString where
  bytes : List UInt8
  nulFree : (0 : UInt8) ∉ bytes
deriving DecidableEq

namespace CString

def length (text : CString) : Nat := text.bytes.length

def strnlen (text : CString) (limit : Nat) : Nat := min text.length limit

end CString

abbrev EtherAddr := Vector UInt8 6

def IFNAMSIZ : Nat := 16
def IFALIASZ : Nat := 256
def INT_MAX : UInt32 := 0x7fffffff

def EPERM : Int := 1
def ENOENT : Int := 2
def EIO : Int := 5
def EAGAIN : Int := 11
def ENOMEM : Int := 12
def EACCES : Int := 13
def EEXIST : Int := 17
def ENODEV : Int := 19
def EINVAL : Int := 22
def EDEADLOCK : Int := 35
def ENAMETOOLONG : Int := 36
def ENOLCK : Int := 37
def ENODATA : Int := 61
def ETIME : Int := 62
def ENOTSUP : Int := 95
def ETIMEDOUT : Int := 110

/-- What undefined behaviour a call runs into. A call that faults has no result. -/
inductive Fault where
  | nullDereference
  | useAfterFree
  | doubleFree
  | overread
  | unreachable
deriving DecidableEq, Repr

/-- `struct ynl_error` as far as it is read; `nlif_ynl_err()` asserts the code. -/
structure YnlError where
  code : Nat
  nonzero : code ≠ 0
deriving DecidableEq

/-- First ynl code that is no `errno` value. -/
def YNL_ERRNO_END : Nat := 4096

def ynlErr (error : YnlError) : Int :=
  if error.code < YNL_ERRNO_END then -(error.code : Int) else - EIO

theorem ynl_err_negative (error : YnlError) : ynlErr error < 0 := by
  have nonzero := error.nonzero
  unfold ynlErr EIO
  split <;> omega

/-- `struct rt_link_getlink_rsp`. `linkinfo` holds the optional `kind`. -/
structure GetlinkRsp where
  ifiIndex : UInt32
  ifiFlags : BitVec 32
  ifiType : UInt16
  group : Option UInt32
  operstate : Option UInt8
  linkmode : Option UInt8
  carrier : Option UInt8
  ifname : CString
  ifalias : Option CString
  linkinfo : Option (Option CString)
  link : Option UInt32
  master : Option UInt32
  mtu : Option UInt32
  minMtu : Option UInt32
  maxMtu : Option UInt32
  address : List UInt8
deriving DecidableEq

namespace GetlinkRsp

def ifaliasLen (link : GetlinkRsp) : Nat := (link.ifalias.map CString.length).getD 0

/-- The alias when `_len.ifalias` is not zero. -/
def heldAlias (link : GetlinkRsp) : Option CString :=
  link.ifalias.filter fun text => text.length ≠ 0

/-- The kind when `_present.linkinfo && linkinfo._len.kind`. -/
def heldKind (link : GetlinkRsp) : Option CString :=
  (link.linkinfo.getD none).filter fun text => text.length ≠ 0

/-- First octets of `address`, as `memcpy` into a `struct ether_addr` takes them. -/
def etherAddress (link : GetlinkRsp) : EtherAddr :=
  Vector.ofFn fun octet => link.address.getD octet.val 0

end GetlinkRsp

def linkValidateIndex (index : UInt32) : Int :=
  if index ≠ 0 ∧ index ≤ INT_MAX then 0 else -EINVAL

def linkValidateName (name : CString) : Int :=
  let len := name.strnlen IFNAMSIZ
  if len = 0 then -ENODATA
  else if len ≥ IFNAMSIZ then -ENAMETOOLONG
  else len

def linkValidateAlias : Option CString → Int
  | none => 0
  | some text =>
      let len := text.strnlen IFALIASZ
      if len = 0 then -ENODATA
      else if len ≥ IFALIASZ then -ENAMETOOLONG
      else len

theorem link_validate_name_pos_iff (name : CString) :
    linkValidateName name > 0 ↔ 0 < name.length ∧ name.length < IFNAMSIZ := by
  simp only [linkValidateName, CString.strnlen, IFNAMSIZ, ENODATA, ENAMETOOLONG]
  split_ifs <;> omega

theorem link_validate_alias_pos_iff (text : CString) :
    linkValidateAlias (some text) > 0 ↔ 0 < text.length ∧ text.length < IFALIASZ := by
  simp only [linkValidateAlias, CString.strnlen, IFALIASZ, ENODATA, ENAMETOOLONG]
  split_ifs <;> omega

def linkHwaddrIsUcast (address : EtherAddr) : Bool := address[0] &&& 1 = 0

/-- The conditions of the `nlif_link_assert()` macro. -/
structure LinkAssert (rsp : GetlinkRsp) : Prop where
  index : rsp.ifiIndex ≠ 0
  operstate : rsp.operstate.isSome
  linkmode : rsp.linkmode.isSome
  carrier : rsp.carrier.isSome
  group : rsp.group.isSome
  ifnameLen : rsp.ifname.length ≠ 0
  ifname : linkValidateName rsp.ifname = rsp.ifname.length
  ifalias : linkValidateAlias rsp.ifalias = rsp.ifaliasLen
  lower : rsp.link ≠ some 0
  master : rsp.master ≠ some 0
  mtu : rsp.mtu.isSome
  minMtu : rsp.minMtu.isSome
  maxMtu : rsp.maxMtu.isSome
  aboveMin : rsp.minMtu.getD 0 = 0 ∨ rsp.mtu.getD 0 ≥ rsp.minMtu.getD 0
  belowMax : rsp.maxMtu.getD 0 = 0 ∨ rsp.mtu.getD 0 ≤ rsp.maxMtu.getD 0
  address : rsp.address.length = 6
  unicast : linkHwaddrIsUcast rsp.etherAddress = true

theorem LinkAssert.name_valid {rsp : GetlinkRsp} (asserted : LinkAssert rsp) :
    linkValidateName rsp.ifname > 0 := by
  have named := asserted.ifname
  have nonempty := asserted.ifnameLen
  omega

theorem LinkAssert.alias_valid {rsp : GetlinkRsp} (asserted : LinkAssert rsp) {text : CString}
    (held : rsp.heldAlias = some text) : linkValidateAlias (some text) > 0 := by
  obtain ⟨present, nonempty⟩ := Option.filter_eq_some_iff.mp held
  have validated := asserted.ifalias
  simp only [GetlinkRsp.ifaliasLen, present, Option.map_some, Option.getD_some] at validated
  have positive : text.length ≠ 0 := by simpa using nonempty
  omega

/-- `nlif_gate_names_equal()`; lengths differ when the second string is absent
and the first is a name. -/
def gateNamesEqual (aname : CString) (bname : Option CString) : Bool := bname = some aname

/-- `nlif_gate_islink_valid()`: a link whose alias repeats its name is refused. -/
def gateIslinkValid (link : GetlinkRsp) : Int :=
  if gateNamesEqual link.ifname link.ifalias then -EINVAL else 0

theorem gate_islink_valid_iff (link : GetlinkRsp) :
    gateIslinkValid link = 0 ↔ link.ifalias ≠ some link.ifname := by
  simp [gateIslinkValid, gateNamesEqual, EINVAL]

def nameA : CString := ⟨[0x61], by decide⟩

def nameB : CString := ⟨[0x62], by decide⟩

def nameC : CString := ⟨[0x63], by decide⟩

def nameAB : CString := ⟨[0x61, 0x62], by decide⟩

/-- "bA", which djb2 hashes like "ab" -/
def nameBA : CString := ⟨[0x62, 0x41], by decide⟩

def outOfMemory : YnlError := ⟨12, by decide⟩

def deviceBusy : YnlError := ⟨16, by decide⟩

def noSuchDevice : YnlError := ⟨19, by decide⟩

def bareLink (ifiIndex : UInt32) (ifname : CString) (ifalias : Option CString) : GetlinkRsp where
  ifiIndex := ifiIndex
  ifiFlags := 0
  ifiType := 1
  group := some 0
  operstate := some 2
  linkmode := some 0
  carrier := some 0
  ifname := ifname
  ifalias := ifalias
  linkinfo := none
  link := none
  master := none
  mtu := some 1500
  minMtu := some 68
  maxMtu := some 0
  address := [2, 0, 0, 0, 0, 1]

end Nlif.LinkModel
