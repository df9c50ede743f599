import Mathlib.Data.Finset.Insert
import Nlif.FaultWalk
import Nlif.LinkModel

/-!
# One interface object

Transcription of `struct nlif_iface` and of the parts of `lib/iface.c` that work
on a single object: filling it from a link, releasing its strings, the body of
each setter once the object is synchronised, the operational refresh and the
set-link request. `alias` and `kind` are heap strings; a released string keeps
its text as the garbage a dangling pointer would show, and reading or releasing
it again faults. The gate pointer is left out: there is one gate. Objects in
state `NLIF_STAT_NR` are allocated but not loaded yet, and no function here
takes one.
-/

namespace Nlif.IfaceModel

open LinkModel

set_option autoImplicit false

inductive IfaceField where
  | group
  | name
  | ifalias
  | mtu
  | hwadr
deriving DecidableEq

inductive IfaceState where
  | invalid
  | clean
  | dirty
deriving DecidableEq, Repr

def IFF_UP : BitVec 32 := 0x1
def IFF_BROADCAST : BitVec 32 := 0x2
def IFF_LOOPBACK : BitVec 32 := 0x8
def IFF_POINTOPOINT : BitVec 32 := 0x10
def IFF_RUNNING : BitVec 32 := 0x40
def IFF_MASTER : BitVec 32 := 0x400
def IFF_SLAVE : BitVec 32 := 0x800
def IFF_LOWER_UP : BitVec 32 := 0x10000
def IFF_DORMANT : BitVec 32 := 0x20000
def IFF_ECHO : BitVec 32 := 0x40000

def IFF_VOLATILE : BitVec 32 :=
  IFF_LOOPBACK ||| IFF_POINTOPOINT ||| IFF_BROADCAST ||| IFF_ECHO ||| IFF_MASTER |||
    IFF_SLAVE ||| IFF_RUNNING ||| IFF_LOWER_UP ||| IFF_DORMANT

/-- A pointer to a heap string, with whether the string is still allocated. -/
structure HeapStr where
  text : CString
  live : Bool
deriving DecidableEq

def HeapStr.read (pointer : HeapStr) : Except Fault CString :=
  if pointer.live then .ok pointer.text else .error .useAfterFree

theorem HeapStr.read_ok_iff (pointer : HeapStr) (text : CString) :
    pointer.read = .ok text ↔ pointer.live = true ∧ text = pointer.text := by
  rcases pointer with ⟨held, live⟩
  cases live <;> simp [HeapStr.read, eq_comm (a := text)]

def derefStr : Option HeapStr → Except Fault CString
  | none => .error .nullDereference
  | some pointer => pointer.read

/-- `nlif_free()`: releasing `NULL` does nothing. -/
def nlifFree : Option HeapStr → Except Fault (Option HeapStr)
  | none => .ok none
  | some pointer =>
      if pointer.live then .ok (some { pointer with live := false }) else .error .doubleFree

def dupStr (text : CString) : HeapStr := ⟨text, true⟩

structure Iface where
  state : IfaceState
  dirtyFields : Finset IfaceField
  idx : UInt32
  group : UInt32
  flags : BitVec 32
  dirtyFlags : BitVec 32
  opstat : UInt8
  lnkmod : UInt8
  type : UInt16
  name : CString
  ifalias : Option HeapStr
  kind : Option HeapStr
  lnk : UInt32
  mst : UInt32
  mtu : UInt32
  minMtu : UInt32
  maxMtu : UInt32
  hwadr : EtherAddr
deriving DecidableEq

/-- `nlif_iface_fill()` on a link as `nlif_link_assert()` wants it: every field is overwritten, the
strings with fresh copies. -/
def ifaceFill (link : GetlinkRsp) : Iface where
  state := .clean
  dirtyFields := ∅
  idx := link.ifiIndex
  group := link.group.getD 0
  flags := link.ifiFlags
  dirtyFlags := 0
  opstat := link.operstate.getD 0
  lnkmod := link.linkmode.getD 0
  type := link.ifiType
  name := link.ifname
  ifalias := link.heldAlias.map dupStr
  kind := link.heldKind.map dupStr
  lnk := link.link.getD 0
  mst := link.master.getD 0
  mtu := link.mtu.getD 0
  minMtu := link.minMtu.getD 0
  maxMtu := link.maxMtu.getD 0
  hwadr := link.etherAddress

/-- `nlif_iface_fini()`: both strings are released, neither pointer is reset. -/
def ifaceFini (interface : Iface) : Except Fault Iface := do
  let ifalias ← nlifFree interface.ifalias
  let kind ← nlifFree interface.kind
  .ok { interface with ifalias, kind }

def ifaceAdmstateOf (interface : Iface) : Bool := interface.flags &&& IFF_UP ≠ 0

def ifaceValidateMtu (mtu : UInt32) (interface : Iface) : Int :=
  if mtu ≥ interface.minMtu ∧ (interface.maxMtu = 0 ∨ mtu ≤ interface.maxMtu) then 0
  else -EINVAL

def zeroHwaddr : EtherAddr := Vector.replicate 6 0

def ifaceValidateHwaddr (address : EtherAddr) : Int :=
  if address ≠ zeroHwaddr ∧ linkHwaddrIsUcast address then 0 else -EINVAL

/-- A `const char *` argument: its text and how many bytes may be read through it. -/
structure StrArg where
  text : CString
  extent : Nat
  terminated : text.length < extent
deriving DecidableEq

def stageName (name : StrArg) (interface : Iface) : Except Fault (Int × Iface) :=
  if interface.name = name.text then .ok (0, interface)
  else do
    -- `strcmp(name, interface->alias)`, whatever the pointer holds
    let current ← derefStr interface.ifalias
    if name.text = current then .ok (-EEXIST, interface)
    -- `memcpy(interface->name, name, sizeof(interface->name))`
    else if name.extent < IFNAMSIZ then .error .overread
    else .ok (0, { interface with
      state := .dirty
      dirtyFields := insert .name interface.dirtyFields
      name := name.text })

def aliasIs (text : CString) : Option HeapStr → Except Fault Bool
  | none => .ok false
  | some pointer => (fun current => decide (current = text)) <$> pointer.read

def stageAlias (ifalias : Option CString) (interface : Iface) : Except Fault (Int × Iface) :=
  match ifalias with
  | some text => do
      let same ← aliasIs text interface.ifalias
      if same then .ok (0, interface)
      else if text = interface.name then .ok (-EEXIST, interface)
      else do
        let _ ← nlifFree interface.ifalias
        .ok (0, { interface with
          state := .dirty
          dirtyFields := insert .ifalias interface.dirtyFields
          ifalias := some (dupStr text) })
  | none =>
      if interface.ifalias = none then .ok (0, interface)
      else do
        let _ ← nlifFree interface.ifalias
        .ok (0, { interface with
          state := .dirty
          dirtyFields := insert .ifalias interface.dirtyFields
          ifalias := none })

def stageGroup (group : UInt32) (interface : Iface) : Except Fault (Int × Iface) :=
  if group ≠ interface.group then
    .ok (0, { interface with
      state := .dirty
      dirtyFields := insert .group interface.dirtyFields
      group })
  else .ok (0, interface)

def admstateMask (up : Bool) : BitVec 32 := if up then IFF_UP else 0

def stageAdmstate (up : Bool) (interface : Iface) : Except Fault (Int × Iface) :=
  if interface.flags &&& IFF_UP ≠ admstateMask up then
    .ok (0, { interface with
      state := .dirty
      flags := (interface.flags &&& ~~~IFF_UP) ||| admstateMask up
      dirtyFlags := interface.dirtyFlags ||| IFF_UP })
  else .ok (0, interface)

def stageMtu (mtu : UInt32) (interface : Iface) : Except Fault (Int × Iface) :=
  if mtu ≠ interface.mtu then
    let ret := ifaceValidateMtu mtu interface
    if ret = 0 then
      .ok (ret, { interface with
        state := .dirty
        dirtyFields := insert .mtu interface.dirtyFields
        mtu })
    else .ok (ret, interface)
  else .ok (0, interface)

def stageHwaddr (address : EtherAddr) (interface : Iface) : Except Fault (Int × Iface) :=
  if address ≠ interface.hwadr then
    .ok (0, { interface with
      state := .dirty
      dirtyFields := insert .hwadr interface.dirtyFields
      hwadr := address })
  else .ok (0, interface)

inductive Setter where
  | name (name : StrArg)
  | ifalias (ifalias : Option CString)
  | group (group : UInt32)
  | admstate (up : Bool)
  | mtu (mtu : UInt32)
  | hwaddr (address : EtherAddr)

def stage : Setter → Iface → Except Fault (Int × Iface)
  | .name name => stageName name
  | .ifalias ifalias => stageAlias ifalias
  | .group group => stageGroup group
  | .admstate up => stageAdmstate up
  | .mtu mtu => stageMtu mtu
  | .hwaddr address => stageHwaddr address

def Setter.Valid : Setter → Prop
  | .name argument => linkValidateName argument.text > 0
  | .ifalias argument => linkValidateAlias argument ≥ 0
  | .hwaddr address => ifaceValidateHwaddr address = 0
  | .group _ | .admstate _ | .mtu _ => True

/-- `nlif_iface_refresh_state()`. -/
def ifaceRefreshState (interface : Iface) (link : GetlinkRsp) : Bool × Iface :=
  let volatileChange :=
    decide (interface.flags &&& IFF_VOLATILE ≠ link.ifiFlags &&& IFF_VOLATILE)
  let flags :=
    if volatileChange then
      (interface.flags &&& ~~~IFF_VOLATILE) ||| (link.ifiFlags &&& IFF_VOLATILE)
    else interface.flags
  let opstatChange := decide (interface.opstat ≠ link.operstate.getD 0)
  let lnkmodChange := decide (interface.lnkmod ≠ link.linkmode.getD 0)
  (volatileChange || opstatChange || lnkmodChange,
    { interface with
      flags
      opstat := link.operstate.getD 0
      lnkmod := link.linkmode.getD 0 })

/-- `nlif_iface_reload_bylink()`. -/
def ifaceReloadBylink (interface : Iface) (link : GetlinkRsp) : Except Fault Iface := do
  let _ ← ifaceFini interface
  .ok (ifaceFill link)

/-- `struct rt_link_setlink_req`. A present `ifalias` without text is the empty
attribute that removes the alias (`NLIF_YNL_NULL_STR` build). -/
structure SetlinkReq where
  ifiIndex : UInt32
  ifiFlags : BitVec 32
  ifiChange : BitVec 32
  group : Option UInt32
  ifname : Option CString
  ifalias : Option (Option CString)
  mtu : Option UInt32
  address : Option EtherAddr
deriving DecidableEq

/-- The alias attribute of the request, read through the interface's pointer. -/
def setlinkAlias : Option HeapStr → Except Fault (Option CString)
  | none => .ok none
  | some pointer => some <$> pointer.read

/-- The request `nlif_iface_apply()` builds from the dirty sets. -/
def ifaceSetlinkReq (interface : Iface) : Except Fault SetlinkReq := do
  let ifalias ←
    if .ifalias ∈ interface.dirtyFields then some <$> setlinkAlias interface.ifalias
    else .ok none
  .ok {
    ifiIndex := interface.idx
    ifiFlags := interface.flags
    ifiChange := interface.dirtyFlags
    group := if .group ∈ interface.dirtyFields then some interface.group else none
    ifname := if .name ∈ interface.dirtyFields then some interface.name else none
    ifalias
    mtu := if .mtu ∈ interface.dirtyFields then some interface.mtu else none
    address := if .hwadr ∈ interface.dirtyFields then some interface.hwadr else none }

theorem iff_up_bit (i : Nat) (bound : i < 32) : IFF_UP[i] = decide (i = 0) :=
  BitVec.getElem_one bound

theorem admstate_mask_bit (up : Bool) (i : Nat) (bound : i < 32) :
    (admstateMask up)[i] = (up && decide (i = 0)) := by
  cases up with
  | false => exact BitVec.getElem_zero bound
  | true => simp [admstateMask, iff_up_bit]

theorem masked_up_bit (flags : BitVec 32) (up : Bool) :
    flags &&& IFF_UP = admstateMask up ↔ flags[0] = up := by
  constructor
  · intro same
    have bit := congrArg (fun word : BitVec 32 => word[0]) same
    simpa [iff_up_bit, admstate_mask_bit] using bit
  · intro same
    ext i bound
    rw [BitVec.getElem_and, iff_up_bit, admstate_mask_bit]
    by_cases lowest : i = 0
    · subst lowest
      simp [same]
    · simp [lowest]

def adminUp (flags : BitVec 32) : Bool := flags &&& IFF_UP ≠ 0

theorem admin_up_eq (flags : BitVec 32) : adminUp flags = flags[0] := by
  have off : flags &&& IFF_UP = 0 ↔ flags[0] = false := masked_up_bit flags false
  rcases bit : flags[0] with _ | _
  · simpa [adminUp] using off.mpr bit
  · have up : flags &&& IFF_UP ≠ 0 := fun down => by simp [off.mp down] at bit
    simpa [adminUp] using up

theorem masked_up_iff (flags : BitVec 32) (up : Bool) :
    flags &&& IFF_UP = admstateMask up ↔ adminUp flags = up := by
  rw [admin_up_eq]
  exact masked_up_bit flags up

theorem iface_admstate_of_eq (interface : Iface) :
    ifaceAdmstateOf interface = adminUp interface.flags := rfl

def edited (interface : Iface) : Setter → Iface
  | .name name =>
      { interface with
        state := .dirty, dirtyFields := insert .name interface.dirtyFields, name := name.text }
  | .ifalias ifalias =>
      { interface with
        state := .dirty
        dirtyFields := insert .ifalias interface.dirtyFields
        ifalias := ifalias.map dupStr }
  | .group group =>
      { interface with
        state := .dirty, dirtyFields := insert .group interface.dirtyFields, group }
  | .admstate up =>
      { interface with
        state := .dirty
        flags := (interface.flags &&& ~~~IFF_UP) ||| admstateMask up
        dirtyFlags := interface.dirtyFlags ||| IFF_UP }
  | .mtu mtu =>
      { interface with
        state := .dirty, dirtyFields := insert .mtu interface.dirtyFields, mtu }
  | .hwaddr hwadr =>
      { interface with
        state := .dirty, dirtyFields := insert .hwadr interface.dirtyFields, hwadr }

theorem stage_name_cases {name : StrArg} {before after : Iface} {ret : Int}
    (staged : stageName name before = .ok (ret, after)) :
    after = before ∨
      (ret = 0 ∧ after = edited before (.name name) ∧ before.name ≠ name.text) := by
  unfold stageName at staged
  split at staged
  · cases staged
    exact .inl rfl
  · rename_i different
    obtain ⟨_, _, staged⟩ := (FaultWalk.bind_ok_iff ..).mp staged
    split at staged
    · cases staged
      exact .inl rfl
    · split at staged <;> cases staged
      exact .inr ⟨rfl, rfl, different⟩

theorem alias_is_false {text : CString} {ifalias : Option HeapStr}
    (different : aliasIs text ifalias = .ok false) : ifalias.map HeapStr.text ≠ some text := by
  intro present
  obtain ⟨pointer, rfl, rfl⟩ := Option.map_eq_some_iff.mp present
  obtain ⟨current, read, unequal⟩ := (FaultWalk.map_ok_iff ..).mp different
  obtain ⟨_, rfl⟩ := (HeapStr.read_ok_iff ..).mp read
  simp at unequal

theorem stage_alias_cases {ifalias : Option CString} {before after : Iface} {ret : Int}
    (staged : stageAlias ifalias before = .ok (ret, after)) :
    after = before ∨ (ret = 0 ∧ after = edited before (.ifalias ifalias) ∧
      before.ifalias.map HeapStr.text ≠ ifalias) := by
  unfold stageAlias at staged
  cases ifalias with
  | some text =>
      obtain ⟨same, compared, staged⟩ := (FaultWalk.bind_ok_iff ..).mp staged
      cases same with
      | true =>
          cases staged
          exact .inl rfl
      | false =>
          simp only [Bool.false_eq_true, if_false] at staged
          split at staged
          · cases staged
            exact .inl rfl
          · obtain ⟨_, _, staged⟩ := (FaultWalk.bind_ok_iff ..).mp staged
            cases staged
            exact .inr ⟨rfl, rfl, alias_is_false compared⟩
  | none =>
      simp only at staged
      split at staged
      · cases staged
        exact .inl rfl
      · rename_i present
        obtain ⟨_, _, staged⟩ := (FaultWalk.bind_ok_iff ..).mp staged
        cases staged
        exact .inr ⟨rfl, rfl, by simpa using present⟩

/-- A setter either keeps the object as it is or edits it, and it edits only
where the value it is given differs from the cached one. -/
theorem stage_cases {setter : Setter} {before after : Iface} {ret : Int}
    (staged : stage setter before = .ok (ret, after)) :
    after = before ∨ (ret = 0 ∧ after = edited before setter ∧
      match setter with
      | .name name => before.name ≠ name.text
      | .ifalias ifalias => before.ifalias.map HeapStr.text ≠ ifalias
      | .group group => before.group ≠ group
      | .admstate up => before.flags &&& IFF_UP ≠ admstateMask up
      | .mtu mtu => before.mtu ≠ mtu
      | .hwaddr address => before.hwadr ≠ address) := by
  cases setter with
  | name name => exact stage_name_cases staged
  | ifalias ifalias => exact stage_alias_cases staged
  | group group | admstate up | hwaddr address =>
      simp only [stage, stageGroup, stageAdmstate, stageHwaddr] at staged
      split at staged <;> cases staged
      · exact .inr ⟨rfl, rfl, by simpa [eq_comm] using by assumption⟩
      · exact .inl rfl
  | mtu mtu =>
      simp only [stage, stageMtu] at staged
      split at staged
      · split at staged
        · rename_i valid
          cases staged
          exact .inr ⟨valid, rfl, by simpa [eq_comm] using by assumption⟩
        · cases staged
          exact .inl rfl
      · cases staged
        exact .inl rfl

/-- Everything the setters share: the index and the strings no setter owns stay,
dirty bits only accumulate, and a string that differs has its dirty bit set. -/
structure Staged (before after : Iface) : Prop where
  idx : after.idx = before.idx
  kind : after.kind = before.kind
  state : after = before ∨ after.state = .dirty
  fields : before.dirtyFields ⊆ after.dirtyFields
  name : after.name = before.name ∨ .name ∈ after.dirtyFields
  ifalias : after.ifalias = before.ifalias ∨
    .ifalias ∈ after.dirtyFields ∧ ∀ pointer, after.ifalias = some pointer → pointer.live = true

theorem edited_staged (setter : Setter) (interface : Iface) :
    Staged interface (edited interface setter) := by
  cases setter with
  | ifalias ifalias =>
      refine ⟨rfl, rfl, .inr rfl, by simp [edited], .inl rfl, .inr ⟨by simp [edited], ?_⟩⟩
      rintro pointer present
      obtain ⟨text, _, rfl⟩ := Option.map_eq_some_iff.mp present
      rfl
  | name name => exact ⟨rfl, rfl, .inr rfl, by simp [edited], .inr (by simp [edited]), .inl rfl⟩
  | group _ | admstate _ | mtu _ | hwaddr _ =>
      exact ⟨rfl, rfl, .inr rfl, by simp [edited], .inl rfl, .inl rfl⟩

theorem stage_staged {setter : Setter} {before after : Iface} {ret : Int}
    (staged : stage setter before = .ok (ret, after)) : Staged before after := by
  rcases stage_cases staged with rfl | ⟨_, rfl, _⟩
  · exact ⟨rfl, rfl, .inl rfl, subset_rfl, .inl rfl, .inl rfl⟩
  · exact edited_staged setter before

theorem Staged.valid {before after : Iface} (staged : Staged before after)
    (valid : before.state ≠ .invalid) : after.state ≠ .invalid := by
  rcases staged.state with same | dirty
  · rw [same]
    exact valid
  · rw [dirty]
    decide

theorem Staged.trans {before middle after : Iface} (first : Staged before middle)
    (second : Staged middle after) : Staged before after where
  idx := second.idx.trans first.idx
  kind := second.kind.trans first.kind
  state := by
    rcases second.state with rfl | dirty
    · exact first.state
    · exact .inr dirty
  fields := first.fields.trans second.fields
  name := by
    rcases second.name with same | dirty
    · exact first.name.imp same.trans fun dirty => second.fields dirty
    · exact .inr dirty
  ifalias := by
    rcases second.ifalias with same | dirty
    · rw [same]
      exact first.ifalias.imp_right fun dirty => ⟨second.fields dirty.1, dirty.2⟩
    · exact .inr dirty

end Nlif.IfaceModel
