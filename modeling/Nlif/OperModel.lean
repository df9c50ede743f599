import Nlif.DaemonRun

/-!
# The operational datastore

Transcription of the operational data handling of `src/nlifd.c` with the values
it writes. The kernel state of a world is paired with the Sysrepo session, so
that the event functions of the gate run unchanged; which edits Sysrepo accepts,
what a discard leaves and whether a path can be built stay parameters. The
assertions of a valid interface are in `DaemonModel`.
-/

namespace Nlif.OperModel

open LinkModel IfaceModel FaultLoop StoreModel GateModel DaemonModel

set_option autoImplicit false

def IF_OPER_UNKNOWN : UInt8 := 0
def IF_OPER_NOTPRESENT : UInt8 := 1
def IF_OPER_DOWN : UInt8 := 2
def IF_OPER_LOWERLAYERDOWN : UInt8 := 3
def IF_OPER_TESTING : UInt8 := 4
def IF_OPER_DORMANT : UInt8 := 5
def IF_OPER_UP : UInt8 := 6

def nlifLinkOperstateStr (operstate : UInt8) : Except Fault CString :=
  if operstate = IF_OPER_NOTPRESENT then .ok (cstring "notpresent")
  else if operstate = IF_OPER_DOWN then .ok (cstring "down")
  else if operstate = IF_OPER_LOWERLAYERDOWN then .ok (cstring "lowerlayerdown")
  else if operstate = IF_OPER_TESTING then .ok (cstring "testing")
  else if operstate = IF_OPER_DORMANT then .ok (cstring "dormant")
  else if operstate = IF_OPER_UP then .ok (cstring "up")
  else if operstate = IF_OPER_UNKNOWN then .ok (cstring "unknown")
  else .error .unreachable

/-- The enumeration of the oper-status leaf in `notes.txt`. -/
def operStatusNames : List CString :=
  ["up", "down", "testing", "unknown", "dormant", "not-present", "lower-layer-down"].map cstring

def yangOperStatus (operstate : UInt8) : Option CString :=
  if operstate = IF_OPER_UP then some (cstring "up")
  else if operstate = IF_OPER_DOWN then some (cstring "down")
  else if operstate = IF_OPER_TESTING then some (cstring "testing")
  else if operstate = IF_OPER_UNKNOWN then some (cstring "unknown")
  else if operstate = IF_OPER_DORMANT then some (cstring "dormant")
  else if operstate = IF_OPER_NOTPRESENT then some (cstring "not-present")
  else if operstate = IF_OPER_LOWERLAYERDOWN then some (cstring "lower-layer-down")
  else none

def admstateStr (up : Bool) : CString := if up then cstring "up" else cstring "down"

def hexDigit (value : Nat) : Char := Nat.digitChar value

/-- `"%02hhx"` of one octet. -/
def octetStr (octet : UInt8) : String :=
  String.ofList [hexDigit (octet.toNat / 16), hexDigit (octet.toNat % 16)]

def nlifLinkHwaddrStr (hwaddr : EtherAddr) : CString :=
  cstring (String.intercalate ":" (hwaddr.toList.map octetStr))

def indexStr (index : UInt32) : CString := cstring (toString index.toNat)

inductive OperNode where
  | adminStatus
  | operStatus
  | ifIndex
  | physAddress
deriving DecidableEq

structure Edit where
  name : CString
  node : OperNode
  value : CString
deriving DecidableEq

/-- The edits of the session: those made and not applied yet, those applied and those
refused, newest first. -/
structure Session where
  pending : List Edit
  written : List Edit
  rejected : List Edit
deriving DecidableEq

def Session.leaf (session : Session) (name : CString) (node : OperNode) : Option CString :=
  (session.written.find? fun edit => edit.name = name ∧ edit.node = node).map Edit.value

structure Datastore where
  /-- `nlifd_if_mib_feat.on`. -/
  ifMib : Bool
  /-- Whether `sr_set_item_str()` takes the edit. -/
  accepts : Edit → Bool
  /-- Whether `sr_apply_changes()` succeeds. -/
  applies : Session → Bool
  /-- The pending and written edits after `srepo_discard_oper_changes()`. -/
  discard : List Edit → List Edit → List Edit × List Edit
  /-- The length of the path of a list entry, or an error. -/
  xpath : CString → Int

def srepoDatChangeBypath (datastore : Datastore) (edit : Edit) (session : Session) :
    SrError × Session :=
  if datastore.accepts edit then (.ok, { session with pending := edit :: session.pending })
  else (.invalArg, { session with rejected := edit :: session.rejected })

def srepoApplyChanges (datastore : Datastore) (session : Session) : SrError × Session :=
  if datastore.applies session then
    (.ok, { session with pending := [], written := session.pending ++ session.written })
  else (.operationFailed, session)

def srepoDiscardOperChanges (datastore : Datastore) (session : Session) : Session :=
  let (pending, written) := datastore.discard session.pending session.written
  { session with pending, written }

def nlifdIfaceFillAdmstate (datastore : Datastore) (name : CString) (interface : Iface)
    (session : Session) : SrError × Session :=
  srepoDatChangeBypath datastore ⟨name, .adminStatus, admstateStr (ifaceAdmstateOf interface)⟩
    session

def nlifdIfaceFillOperstate (datastore : Datastore) (name : CString) (interface : Iface)
    (session : Session) : Except Fault (SrError × Session) := do
  let value ← nlifLinkOperstateStr interface.opstat
  .ok (srepoDatChangeBypath datastore ⟨name, .operStatus, value⟩ session)

def nlifdIfaceFillIndex (datastore : Datastore) (name : CString) (interface : Iface)
    (session : Session) : SrError × Session :=
  srepoDatChangeBypath datastore ⟨name, .ifIndex, indexStr interface.idx⟩ session

def nlifdIfaceFillHwaddr (datastore : Datastore) (name : CString) (interface : Iface)
    (session : Session) : SrError × Session :=
  srepoDatChangeBypath datastore ⟨name, .physAddress, nlifLinkHwaddrStr interface.hwadr⟩ session

def nlifdIfaceRefreshOper (datastore : Datastore) (name : CString) (interface : Iface)
    (session : Session) : Except Fault (SrError × Session) :=
  if datastore.ifMib then
    let (err, session) := nlifdIfaceFillAdmstate datastore name interface session
    if err ≠ .ok then .ok (err, session)
    else nlifdIfaceFillOperstate datastore name interface session
  else nlifdIfaceFillOperstate datastore name interface session

/-- `nlifd_push_oper()`, once the path is built. -/
def pushStatus (datastore : Datastore) (name : CString) (interface : Iface) (session : Session) :
    Except Fault Session := do
  let (ret, session) ← nlifdIfaceRefreshOper datastore name interface session
  if ret ≠ .ok then .ok (srepoDiscardOperChanges datastore session)
  else
    let (ret, session) := srepoApplyChanges datastore session
    if ret = .ok then .ok session else .ok (srepoDiscardOperChanges datastore session)

/-- One turn of the loop of `nlifd_iface_setup_oper_dstore()`. -/
def setupIface (datastore : Datastore) (objects : Objects) (hndl : Hndl) (session : Session) :
    Except Fault (SrError × Session) :=
  let interface := objects hndl.iface
  let len := datastore.xpath interface.name
  if len < 0 then .ok (nlifdIfaceError len, session)
  else do
    let (ret, session) ← nlifdIfaceRefreshOper datastore interface.name interface session
    if ret ≠ .ok then .ok (ret, session)
    else
      let (ret, session) :=
        if datastore.ifMib then nlifdIfaceFillIndex datastore interface.name interface session
        else (.ok, session)
      if ret ≠ .ok then .ok (ret, session)
      else .ok (nlifdIfaceFillHwaddr datastore interface.name interface session)

def setupSession (datastore : Datastore) (objects : Objects) (ifaces : List Hndl)
    (session : Session) : Except Fault (SrError × Session) := do
  let (ret, session) ←
    stopping (setupIface datastore objects) (fun ret => ret ≠ .ok) .ok ifaces session
  if ret ≠ .ok then .ok (ret, session) else .ok (srepoApplyChanges datastore session)

section Daemon

variable {NameBucket IndexBucket Kstate : Type}

def withSession (kernel : Kernel Kstate) : Kernel (Kstate × Session) where
  getlink index state :=
    ((kernel.getlink index state.1).1, (kernel.getlink index state.1).2, state.2)
  setlink request state :=
    ((kernel.setlink request state.1).1, (kernel.setlink request state.1).2, state.2)
  dump state := ((kernel.dump state.1).1, (kernel.dump state.1).2, state.2)

def beside (platform : Platform NameBucket IndexBucket Kstate) :
    Platform NameBucket IndexBucket (Kstate × Session) where
  hash := platform.hash
  kernel := withSession platform.kernel

abbrev OperWorld (NameBucket IndexBucket Kstate : Type) :=
  World NameBucket IndexBucket (Kstate × Session)

def setSession (session : Session) (world : OperWorld NameBucket IndexBucket Kstate) :
    OperWorld NameBucket IndexBucket Kstate :=
  { world with kernel := (world.kernel.1, session) }

/-- `nlifd_iface_setup_oper_dstore()`. -/
def nlifdIfaceSetupOperDstore (datastore : Datastore)
    (world : OperWorld NameBucket IndexBucket Kstate) :
    Except Fault (SrError × OperWorld NameBucket IndexBucket Kstate) := do
  let (ret, session) ←
    setupSession datastore world.objects world.store.ifaces world.kernel.2
  .ok (ret, setSession session world)

variable [DecidableEq NameBucket] [DecidableEq IndexBucket]

/-- `nlifd_push_oper()`. -/
def nlifdPushOper (datastore : Datastore) (platform : Platform NameBucket IndexBucket Kstate) :
    Observers NameBucket IndexBucket (Kstate × Session) := fun interface world => do
  let (outcome, world) ← ifaceCoherentName (beside platform) interface world
  match outcome with
  | .error _ => .ok world
  | .ok name =>
      if datastore.xpath name < 0 then .ok world
      else do
        let session ← pushStatus datastore name (world.objects interface) world.kernel.2
        .ok (setSession session world)

/-- `nlifd_dispatch_notif()`. -/
def nlifdDispatchNotif (datastore : Datastore)
    (platform : Platform NameBucket IndexBucket Kstate) (notifications : List Notification)
    (world : OperWorld NameBucket IndexBucket Kstate) :
    Except Fault (Int × OperWorld NameBucket IndexBucket Kstate) :=
  gateNotifyChanges (beside platform) (nlifdPushOper datastore platform) notifications world

end Daemon

end Nlif.OperModel
