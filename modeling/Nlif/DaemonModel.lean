import Nlif.FaultLoop
import Nlif.GateModel

/-!
# The interface daemon

Transcription of the configuration and notification handling of `src/nlifd.c`.
Sysrepo, `srplug` and the boolean parser of the utils library are outside this
repository: what they answer is a parameter that may depend on everything that
happened so far. Log messages are left out, except that their arguments call
functions which assert a valid interface.
-/

namespace Nlif.DaemonModel

open LinkModel IfaceModel StoreModel GateModel FaultLoop

set_option autoImplicit false

inductive SrError where
  | ok
  | notFound
  | exists
  | invalArg
  | unsupported
  | operationFailed
  | unauthorized
  | timeOut
  | locked
  | callbackShelve
  | noMemory
  | sys
deriving DecidableEq, Repr

def nlifdIfaceError (error : Int) : SrError :=
  if error = 0 then .ok
  else if error = -ENODEV ∨ error = -ENOENT then .notFound
  else if error = -EEXIST then .exists
  else if error = -EINVAL then .invalArg
  else if error = -ENOTSUP then .unsupported
  else if error = -EPERM then .operationFailed
  else if error = -EACCES then .unauthorized
  else if error = -ETIME ∨ error = -ETIMEDOUT then .timeOut
  else if error = -ENOLCK ∨ error = -EDEADLOCK then .locked
  else if error = -EAGAIN then .callbackShelve
  else if error = -ENOMEM then .noMemory
  else .sys

theorem answer_ne {condition : Prop} [Decidable condition] {first second answer : SrError}
    (here : first ≠ answer) (there : second ≠ answer) :
    (if condition then first else second) ≠ answer := by
  split
  · exact here
  · exact there

theorem nlifd_iface_error_ok_iff (error : Int) : nlifdIfaceError error = .ok ↔ error = 0 := by
  constructor
  · intro answered
    by_contra nonzero
    rw [nlifdIfaceError, if_neg nonzero] at answered
    refine absurd answered ?_
    repeat' first | apply answer_ne | decide
  · rintro rfl
    rfl

inductive OperLeaf where
  | adminStatus (up : Bool)
  | operStatus (operstate : UInt8)

structure Sysrepo where
  /-- `ustr_parse_bool()`. -/
  ustrParseBool : CString → Option Bool
  /-- `nlifd_if_mib_feat.on`. -/
  ifMib : Bool
  /-- `srepo_xpath_createf()`: the length of the path, or an error. -/
  srepoXpathCreatef : List Event → CString → Int
  /-- `srepo_dat_change_bypath()`. -/
  srepoDatChangeBypath : List Event → CString → OperLeaf → SrError

/-- `sr_change_oper_t`. -/
inductive ChangeOper where
  | created
  | modified
  | deleted
  | moved
deriving DecidableEq

/-- The two leaves that have handlers, with the value of the node. `dflt` is what
`srepo_dat_node_dflt_as_bool()` finds. -/
inductive LeafNode where
  | enabled (value : Bool) (dflt : Option Bool)
  | type (value : CString)
deriving DecidableEq

/-- A changed leaf. `key` is what `srepo_xpath_key_value()` finds in its path. -/
structure LeafChange where
  node : LeafNode
  key : Option CString
  oper : ChangeOper
  old : Option CString
deriving DecidableEq

section Daemon

variable {NameBucket IndexBucket Kstate : Type}

def callAsserting (callee : Asserting) (interface : Addr)
    (world : World NameBucket IndexBucket Kstate) : World NameBucket IndexBucket Kstate :=
  world.record (.called callee (world.objects interface).idx (world.objects interface).state)

def nlifdIfaceFromNode (platform : Platform NameBucket IndexBucket Kstate) (change : LeafChange)
    (world : World NameBucket IndexBucket Kstate) : Option Addr :=
  match change.key with
  | none => none
  | some name =>
      if linkValidateName name > 0 then
        storeFindIfaceByname platform.hash world.objects world.store name
      else none

def ARPHRD_ETHER : UInt16 := 1
def ARPHRD_LOOPBACK : UInt16 := 772

def cstring (text : String) : CString where
  bytes := text.toUTF8.toList.filter (· ≠ 0)
  nulFree := by simp

def nlifdIfaceTypeStr (type : UInt16) (kind : Option HeapStr) : Except Fault (Option CString) :=
  if type = ARPHRD_ETHER then
    match kind with
    | none => .ok (some (cstring "iana-if-type:ethernetCsmacd"))
    | some pointer => do
        let kind ← pointer.read
        if kind = cstring "bridge" then .ok (some (cstring "iana-if-type:bridge"))
        else if kind = cstring "dummy" then .ok (some (cstring "iana-if-type:other"))
        else .ok none
  else if type = ARPHRD_LOOPBACK then .ok (some (cstring "iana-if-type:softwareLoopback"))
  else .ok none

variable [DecidableEq NameBucket] [DecidableEq IndexBucket]

def nlifdIfaceCoherentTypeStr (platform : Platform NameBucket IndexBucket Kstate)
    (interface : Addr) (world : World NameBucket IndexBucket Kstate) :
    Except Fault (Except Int CString × World NameBucket IndexBucket Kstate) := do
  let (outcome, world) ← ifaceCoherentType platform interface world
  match outcome with
  | .error ret => .ok (.error ret, world)
  | .ok type => do
      let world := callAsserting .kind interface world
      let str ← nlifdIfaceTypeStr type (world.objects interface).kind
      match str with
      | none => .ok (.error (-ENOTSUP), world)
      | some str => .ok (.ok str, world)

def nlifdIfaceChangeEnabled (platform : Platform NameBucket IndexBucket Kstate) (value : Bool)
    (dflt : Option Bool) (change : LeafChange) (world : World NameBucket IndexBucket Kstate) :
    Except Fault (SrError × World NameBucket IndexBucket Kstate) :=
  match nlifdIfaceFromNode platform change world with
  | none => .ok (.notFound, world)
  | some interface =>
      let set (value : Bool) := do
        let (ret, world) ← ifaceSetAdmstate platform value interface world
        if ret ≠ 0 then .ok (nlifdIfaceError ret, world) else .ok (.ok, world)
      match change.oper with
      | .created | .modified => set value
      | .deleted => set (dflt.getD false)
      | .moved => .ok (.unsupported, world)

def nlifdIfaceChangeType (platform : Platform NameBucket IndexBucket Kstate) (value : CString)
    (change : LeafChange) (world : World NameBucket IndexBucket Kstate) :
    Except Fault (SrError × World NameBucket IndexBucket Kstate) :=
  match nlifdIfaceFromNode platform change world with
  | none => .ok (.notFound, world)
  | some interface =>
      match change.oper with
      | .deleted => .ok (.ok, world)
      | .moved => .ok (.unsupported, world)
      | .created | .modified => do
          let (type, world) ← nlifdIfaceCoherentTypeStr platform interface world
          match type with
          | .error ret => .ok (nlifdIfaceError ret, world)
          | .ok type => if type ≠ value then .ok (.unsupported, world) else .ok (.ok, world)

/-- `nlifd_iface_change_hndlrs`. -/
def nlifdIfaceChangeHndlr (platform : Platform NameBucket IndexBucket Kstate)
    (change : LeafChange) (world : World NameBucket IndexBucket Kstate) :
    Except Fault (SrError × World NameBucket IndexBucket Kstate) :=
  match change.node with
  | .enabled value dflt => nlifdIfaceChangeEnabled platform value dflt change world
  | .type value => nlifdIfaceChangeType platform value change world

/-- The value a restored leaf had, where it can be told. -/
def restoredValue (sysrepo : Sysrepo) (dflt : Option Bool) (change : LeafChange) :
    Except Fault (Option Bool) :=
  match change.oper with
  | .created => .ok (some (dflt.getD false))
  | .modified | .deleted =>
      match change.old with
      | none => .error .nullDereference
      | some old => .ok (sysrepo.ustrParseBool old)
  | .moved => .ok none

def nlifdIfaceRestoreEnabled (sysrepo : Sysrepo) (platform : Platform NameBucket IndexBucket Kstate)
    (dflt : Option Bool) (change : LeafChange) (world : World NameBucket IndexBucket Kstate) :
    Except Fault (SrError × World NameBucket IndexBucket Kstate) :=
  match nlifdIfaceFromNode platform change world with
  | none => .ok (.ok, world)
  | some interface => do
      let value ← restoredValue sysrepo dflt change
      match value with
      | none => .ok (.ok, world)
      | some value => do
          let (_, world) ← ifaceSetAdmstate platform value interface world
          .ok (.ok, world)

def nlifdIfaceRestoreType (world : World NameBucket IndexBucket Kstate) :
    Except Fault (SrError × World NameBucket IndexBucket Kstate) :=
  .ok (.ok, world)

/-- `nlifd_iface_restore_hndlrs`. -/
def nlifdIfaceRestoreHndlr (sysrepo : Sysrepo) (platform : Platform NameBucket IndexBucket Kstate)
    (change : LeafChange) (world : World NameBucket IndexBucket Kstate) :
    Except Fault (SrError × World NameBucket IndexBucket Kstate) :=
  match change.node with
  | .enabled _ dflt => nlifdIfaceRestoreEnabled sysrepo platform dflt change world
  | .type _ => nlifdIfaceRestoreType world

/-- `srplug_process_child_changes()` belongs to the plugin library, outside these sources. This
is the behaviour `nlifd` is written for: the matching handler for each leaf in turn, up to the
first error. -/
def srplugProcessChildChanges
    (hndlr : LeafChange → World NameBucket IndexBucket Kstate →
      Except Fault (SrError × World NameBucket IndexBucket Kstate)) :=
  stopping hndlr (fun ret => ret ≠ .ok) .ok

/-- One turn of the loop of `nlifd_iface_process_aborts()`. -/
def abortIface (platform : Platform NameBucket IndexBucket Kstate) (hndl : Hndl)
    (state : SrError × World NameBucket IndexBucket Kstate) :
    Except Fault (Int × SrError × World NameBucket IndexBucket Kstate) := do
  let (err, world) ← ifaceApply platform hndl.iface state.2
  .ok (err, if err < 0 ∧ state.1 = .ok then nlifdIfaceError err else state.1, world)

def nlifdIfaceProcessAborts (sysrepo : Sysrepo) (platform : Platform NameBucket IndexBucket Kstate)
    (changes : List LeafChange) (world : World NameBucket IndexBucket Kstate) :
    Except Fault (SrError × World NameBucket IndexBucket Kstate) := do
  let (ret, world) ←
    srplugProcessChildChanges (nlifdIfaceRestoreHndlr sysrepo platform) changes world
  -- no error ends this loop
  let (_, state) ← stopping (abortIface platform) (fun _ => false) 0 world.store.ifaces (ret, world)
  .ok state

/-- One turn of the loop of `nlifd_iface_process_changes()`. -/
def applyIface (platform : Platform NameBucket IndexBucket Kstate) (hndl : Hndl)
    (world : World NameBucket IndexBucket Kstate) :
    Except Fault (Int × World NameBucket IndexBucket Kstate) := do
  let (ret, world) ← ifaceApply platform hndl.iface world
  -- the debug message of an applied change
  if ret > 0 then .ok (ret, callAsserting .name hndl.iface world) else .ok (ret, world)

/-- The loop of `nlifd_iface_process_changes()` over the store. -/
def applyIfaces (platform : Platform NameBucket IndexBucket Kstate)
    (world : World NameBucket IndexBucket Kstate) :
    Except Fault (Int × World NameBucket IndexBucket Kstate) :=
  stopping (applyIface platform) (fun ret => ret < 0) 0 world.store.ifaces world

def nlifdIfaceProcessChanges (sysrepo : Sysrepo) (platform : Platform NameBucket IndexBucket Kstate)
    (changes : List LeafChange) (world : World NameBucket IndexBucket Kstate) :
    Except Fault (SrError × World NameBucket IndexBucket Kstate) := do
  let (ret, world) ← srplugProcessChildChanges (nlifdIfaceChangeHndlr platform) changes world
  if ret = .ok then do
    let (err, world) ← applyIfaces platform world
    if err < 0 then do
      let (_, world) ← nlifdIfaceProcessAborts sysrepo platform changes world
      .ok (nlifdIfaceError err, world)
    else .ok (.ok, world)
  else .ok (ret, world)

/-- The events `nlifd_on_iface_change()` takes. -/
inductive SrEvent where
  | enabled
  | change
  | done
  | abort
deriving DecidableEq

def nlifdOnIfaceChange (sysrepo : Sysrepo) (platform : Platform NameBucket IndexBucket Kstate)
    (event : SrEvent) (changes : List LeafChange) (world : World NameBucket IndexBucket Kstate) :
    Except Fault (SrError × World NameBucket IndexBucket Kstate) :=
  match event with
  | .enabled | .change => nlifdIfaceProcessChanges sysrepo platform changes world
  | .done => .ok (.ok, world)
  | .abort => nlifdIfaceProcessAborts sysrepo platform changes world

def nlifdIfaceFillAdmstate (sysrepo : Sysrepo) (name : CString) (interface : Addr)
    (world : World NameBucket IndexBucket Kstate) :
    SrError × World NameBucket IndexBucket Kstate :=
  let world := callAsserting .admstate interface world
  (sysrepo.srepoDatChangeBypath world.trace name
    (.adminStatus (ifaceAdmstateOf (world.objects interface))), world)

def nlifdIfaceFillOperstate (sysrepo : Sysrepo) (name : CString) (interface : Addr)
    (world : World NameBucket IndexBucket Kstate) :
    SrError × World NameBucket IndexBucket Kstate :=
  let world := callAsserting .operstate interface world
  (sysrepo.srepoDatChangeBypath world.trace name
    (.operStatus (world.objects interface).opstat), world)

def nlifdIfaceRefreshOper (sysrepo : Sysrepo) (name : CString) (interface : Addr)
    (world : World NameBucket IndexBucket Kstate) :
    SrError × World NameBucket IndexBucket Kstate :=
  if sysrepo.ifMib then
    let (err, world) := nlifdIfaceFillAdmstate sysrepo name interface world
    if err ≠ .ok then (err, world)
    else nlifdIfaceFillOperstate sysrepo name interface world
  else nlifdIfaceFillOperstate sysrepo name interface world

/-- `nlifd_push_oper()`, the daemon's subscriber to the changes of its store. -/
def nlifdPushOper (sysrepo : Sysrepo) (platform : Platform NameBucket IndexBucket Kstate) :
    Observers NameBucket IndexBucket Kstate := fun interface world => do
  let (outcome, world) ← ifaceCoherentName platform interface world
  match outcome with
  | .error _ => .ok world
  | .ok name =>
      if sysrepo.srepoXpathCreatef world.trace name < 0 then .ok world
      else .ok (nlifdIfaceRefreshOper sysrepo name interface world).2

/-- `nlifd_dispatch_notif()`, on what the socket holds. -/
def nlifdDispatchNotif (sysrepo : Sysrepo) (platform : Platform NameBucket IndexBucket Kstate)
    (notifications : List Notification) (world : World NameBucket IndexBucket Kstate) :
    Except Fault (Int × World NameBucket IndexBucket Kstate) :=
  gateNotifyChanges platform (nlifdPushOper sysrepo platform) notifications world

end Daemon

end Nlif.DaemonModel
