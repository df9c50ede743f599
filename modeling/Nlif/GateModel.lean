import Nlif.StoreModel

/-!
# The gate between interfaces, the store and the kernel

The whole state a library call works on, the requests of `lib/gate.c` and the
delivery of link events to the one subscribed store. The kernel is a machine
that answers requests; nothing is assumed of its answers here. A world also
records, newest first, the requests sent, the events delivered and the calls a
client makes of the functions that assert a valid interface.
-/

namespace Nlif.GateModel

open LinkModel IfaceModel StoreModel

set_option autoImplicit false

structure Kernel (Kstate : Type) where
  getlink : UInt32 → Kstate → Except YnlError GetlinkRsp × Kstate
  setlink : SetlinkReq → Kstate → Option YnlError × Kstate
  dump : Kstate → Except YnlError (List GetlinkRsp) × Kstate

structure Platform (NameBucket IndexBucket Kstate : Type) where
  hash : Hashing NameBucket IndexBucket
  kernel : Kernel Kstate

inductive LinkEvent where
  | change
  | modify
  | new
  | reload
deriving DecidableEq

/-- Functions that assert `state != NLIF_INVALID_STAT`. -/
inductive Asserting where
  | apply
  | name
  | admstate
  | operstate
  | kind
deriving DecidableEq

inductive Event where
  | getlink (index : UInt32) (ret : Int)
  | setlink (request : SetlinkReq) (ret : Int)
  | notified (event : LinkEvent) (index : UInt32) (ret : Int)
  | called (callee : Asserting) (index : UInt32) (state : IfaceState)
deriving DecidableEq

/-- `struct nlif_gate`: whether a store is subscribed, and whether the socket is
a member of the link multicast group. -/
structure Gate where
  notif : Bool
  member : Bool
deriving DecidableEq

structure World (NameBucket IndexBucket Kstate : Type) where
  objects : Objects
  next : Addr
  store : Store NameBucket IndexBucket
  gate : Gate
  kernel : Kstate
  trace : List Event

abbrev CodePlatform (Kstate : Type) :=
  Platform (Fin (2 ^ NLIF_STORE_NAMEH_BITS)) (Fin (2 ^ NLIF_STORE_INDXH_BITS)) Kstate

abbrev CodeWorld (Kstate : Type) :=
  World (Fin (2 ^ NLIF_STORE_NAMEH_BITS)) (Fin (2 ^ NLIF_STORE_INDXH_BITS)) Kstate

namespace World

variable {NameBucket IndexBucket Kstate : Type}

def setObject (interface : Addr) (object : Iface) (world : World NameBucket IndexBucket Kstate) :
    World NameBucket IndexBucket Kstate :=
  { world with objects := Function.update world.objects interface object }

theorem set_object_self (interface : Addr) (object : Iface)
    (world : World NameBucket IndexBucket Kstate) :
    (world.setObject interface object).objects interface = object :=
  Function.update_self ..

def record (event : Event) (world : World NameBucket IndexBucket Kstate) :
    World NameBucket IndexBucket Kstate :=
  { world with trace := event :: world.trace }

def invalidate (interface : Addr) (world : World NameBucket IndexBucket Kstate) :
    World NameBucket IndexBucket Kstate :=
  world.setObject interface { world.objects interface with state := .invalid }

end World

inductive EventData where
  | change (link : GetlinkRsp)
  | modify (interface : Addr)
  | new (link : GetlinkRsp)
  | reload (interface : Addr)

def EventData.event : EventData → LinkEvent
  | .change _ => .change
  | .modify _ => .modify
  | .new _ => .new
  | .reload _ => .reload

def EventData.index (objects : Objects) : EventData → UInt32
  | .change link => link.ifiIndex
  | .modify interface => (objects interface).idx
  | .new link => link.ifiIndex
  | .reload interface => (objects interface).idx

section Requests

variable {NameBucket IndexBucket Kstate : Type}

/-- The outcome `nlif_gate_getlink()` draws from an answer. -/
def gateGetlink (answer : Except YnlError GetlinkRsp) : Except Int GetlinkRsp :=
  match answer with
  | .error error => .error (ynlErr error)
  | .ok link =>
      let err := gateIslinkValid link
      if err = 0 then .ok link else .error err

/-- What `nlif_gate_load_link_byidx()` returns beside the link. -/
def getlinkRet : Except Int GetlinkRsp → Int
  | .error err => err
  | .ok _ => 0

def gateLoadLinkByidx (platform : Platform NameBucket IndexBucket Kstate) (index : UInt32)
    (world : World NameBucket IndexBucket Kstate) :
    Except Int GetlinkRsp × World NameBucket IndexBucket Kstate :=
  let (answer, kernel) := platform.kernel.getlink index world.kernel
  let outcome := gateGetlink answer
  (outcome, { world with kernel }.record (.getlink index (getlinkRet outcome)))

def setlinkRet : Option YnlError → Int
  | some error => ynlErr error
  | none => 0

def gateSetlink (platform : Platform NameBucket IndexBucket Kstate) (request : SetlinkReq)
    (world : World NameBucket IndexBucket Kstate) :
    Int × World NameBucket IndexBucket Kstate :=
  let (answer, kernel) := platform.kernel.setlink request world.kernel
  let ret := setlinkRet answer
  (ret, { world with kernel }.record (.setlink request ret))

end Requests

section Events

variable {NameBucket IndexBucket Kstate : Type} [DecidableEq NameBucket] [DecidableEq IndexBucket]

/-- `nlif_obsrv_notify()` of the change notifier: every subscriber's callback in turn. -/
abbrev Observers (NameBucket IndexBucket Kstate : Type) :=
  Addr → World NameBucket IndexBucket Kstate → Except Fault (World NameBucket IndexBucket Kstate)

def storeOnIfaceChange (platform : Platform NameBucket IndexBucket Kstate)
    (observers : Observers NameBucket IndexBucket Kstate) (link : GetlinkRsp)
    (world : World NameBucket IndexBucket Kstate) :
    Except Fault (World NameBucket IndexBucket Kstate) :=
  match storeFindIfaceByindex platform.hash world.objects world.store link.ifiIndex with
  | none => .ok world
  | some interface =>
      let (changed, refreshed) := ifaceRefreshState (world.objects interface) link
      let world := world.setObject interface refreshed
      if changed then observers interface world else .ok world

/-- `nlif_iface_create_bylink()`: the object is allocated at the next address. -/
def ifaceCreateBylink (link : GetlinkRsp) (world : World NameBucket IndexBucket Kstate) :
    Addr × World NameBucket IndexBucket Kstate :=
  (world.next, { world.setObject world.next (ifaceFill link) with next := world.next + 1 })

/-- The tail of `nlif_store_on_new_iface()`, once no conflict was found. -/
def storeEnrollLink (platform : Platform NameBucket IndexBucket Kstate) (link : GetlinkRsp)
    (aliasBucket : Option NameBucket) (world : World NameBucket IndexBucket Kstate) :
    World NameBucket IndexBucket Kstate :=
  let (interface, world) := ifaceCreateBylink link world
  { world with
    store := storeCreatenEnrollIfaceHndl world.store ⟨world.next, interface⟩
      (platform.hash.index link.ifiIndex) (platform.hash.str link.ifname) aliasBucket
    next := world.next + 1 }

def storeOnNewIface (platform : Platform NameBucket IndexBucket Kstate) (link : GetlinkRsp)
    (world : World NameBucket IndexBucket Kstate) :
    Except Fault (World NameBucket IndexBucket Kstate) :=
  if !storeMayRegisterIfaceIndex platform.hash world.objects world.store link.ifiIndex then
    .ok world
  else do
    let mayName ←
      storeMayRegisterIfaceName platform.hash world.objects world.store link.ifname
    if !mayName then .ok world
    else
      match link.heldAlias with
      | none => .ok (storeEnrollLink platform link none world)
      | some text => do
          let mayAlias ←
            storeMayRegisterIfaceAlias platform.hash world.objects world.store text
          if !mayAlias then .ok world
          else .ok (storeEnrollLink platform link (some (platform.hash.str text)) world)

def storeOnEvent (platform : Platform NameBucket IndexBucket Kstate)
    (observers : Observers NameBucket IndexBucket Kstate) (data : EventData)
    (world : World NameBucket IndexBucket Kstate) :
    Except Fault (Int × World NameBucket IndexBucket Kstate) :=
  match data with
  | .change link => do
      let world ← storeOnIfaceChange platform observers link world
      .ok (0, world)
  | .modify interface => do
      let (ret, store) ← storeOnIfaceModify platform.hash world.objects interface world.store
      .ok (ret, { world with store })
  | .new link => do
      let world ← storeOnNewIface platform link world
      .ok (0, world)
  | .reload interface => do
      let (ret, store) ← storeOnIfaceReload platform.hash world.objects interface world.store
      .ok (ret, { world with store })

def gateNotify (platform : Platform NameBucket IndexBucket Kstate)
    (observers : Observers NameBucket IndexBucket Kstate) (data : EventData)
    (world : World NameBucket IndexBucket Kstate) :
    Except Fault (Int × World NameBucket IndexBucket Kstate) :=
  if world.gate.notif then do
    let (ret, next) ← storeOnEvent platform observers data world
    .ok (ret, next.record (.notified data.event (data.index world.objects) ret))
  else .ok (0, world)

def noObservers : Observers NameBucket IndexBucket Kstate := fun _ world => .ok world

/-- `_nlif_iface_load_byidx()`. -/
def ifaceLoadByidx (platform : Platform NameBucket IndexBucket Kstate) (interface : Addr)
    (index : UInt32) (world : World NameBucket IndexBucket Kstate) :
    Int × World NameBucket IndexBucket Kstate :=
  match gateLoadLinkByidx platform index world with
  | (.error err, world) => (err, world)
  | (.ok link, world) => (0, world.setObject interface (ifaceFill link))

def ifaceReload (platform : Platform NameBucket IndexBucket Kstate) (interface : Addr)
    (world : World NameBucket IndexBucket Kstate) :
    Except Fault (Int × World NameBucket IndexBucket Kstate) := do
  let released ← ifaceFini (world.objects interface)
  let (err, world) :=
    ifaceLoadByidx platform interface released.idx (world.setObject interface released)
  if err ≠ 0 then .ok (err, world.invalidate interface)
  else do
    let (err, world) ← gateNotify platform noObservers (.reload interface) world
    if err ≠ 0 then .ok (err, world.invalidate interface)
    else .ok (0, world)

def ifaceSync (platform : Platform NameBucket IndexBucket Kstate) (interface : Addr)
    (world : World NameBucket IndexBucket Kstate) :
    Except Fault (Int × World NameBucket IndexBucket Kstate) :=
  match (world.objects interface).state with
  | .clean | .dirty => .ok (0, world)
  | .invalid => ifaceReload platform interface world

/-- The end of `nlif_iface_apply()`: nothing is staged any more. -/
def settled (interface : Iface) : Iface :=
  { interface with state := .clean, dirtyFields := ∅, dirtyFlags := 0 }

def ifaceApply (platform : Platform NameBucket IndexBucket Kstate) (interface : Addr)
    (world : World NameBucket IndexBucket Kstate) :
    Except Fault (Int × World NameBucket IndexBucket Kstate) :=
  let self := world.objects interface
  let world := world.record (.called .apply self.idx self.state)
  if self.state = .dirty then do
    let request ← ifaceSetlinkReq self
    let (ret, world) := gateSetlink platform request world
    if ret ≠ 0 then .ok (ret, world.invalidate interface)
    else do
      let (ret, world) ← gateNotify platform noObservers (.modify interface) world
      if ret ≠ 0 then .ok (ret, world.invalidate interface)
      else .ok (1, world.setObject interface (settled (world.objects interface)))
  else .ok (0, world)

/-- The six setters synchronise the interface, then run their body. -/
def ifaceSet (platform : Platform NameBucket IndexBucket Kstate) (setter : Setter)
    (interface : Addr) (world : World NameBucket IndexBucket Kstate) :
    Except Fault (Int × World NameBucket IndexBucket Kstate) := do
  let (ret, world) ← ifaceSync platform interface world
  if ret ≠ 0 then .ok (ret, world)
  else do
    let (ret, object) ← stage setter (world.objects interface)
    .ok (ret, world.setObject interface object)

def ifaceSetName (platform : Platform NameBucket IndexBucket Kstate) (name : StrArg) :=
  ifaceSet platform (.name name)

def ifaceSetAlias (platform : Platform NameBucket IndexBucket Kstate) (ifalias : Option CString) :=
  ifaceSet platform (.ifalias ifalias)

def ifaceSetGroup (platform : Platform NameBucket IndexBucket Kstate) (group : UInt32) :=
  ifaceSet platform (.group group)

def ifaceSetAdmstate (platform : Platform NameBucket IndexBucket Kstate) (up : Bool) :=
  ifaceSet platform (.admstate up)

def ifaceSetMtu (platform : Platform NameBucket IndexBucket Kstate) (mtu : UInt32) :=
  ifaceSet platform (.mtu mtu)

def ifaceSetHwaddr (platform : Platform NameBucket IndexBucket Kstate) (address : EtherAddr) :=
  ifaceSet platform (.hwaddr address)

def ifaceCoherent {Value : Type} (platform : Platform NameBucket IndexBucket Kstate)
    (read : Iface → Value) (interface : Addr) (world : World NameBucket IndexBucket Kstate) :
    Except Fault (Except Int Value × World NameBucket IndexBucket Kstate) := do
  let (ret, world) ← ifaceSync platform interface world
  if ret ≠ 0 then .ok (.error ret, world)
  else .ok (.ok (read (world.objects interface)), world)

def ifaceCoherentName (platform : Platform NameBucket IndexBucket Kstate) :=
  ifaceCoherent platform Iface.name

def ifaceCoherentType (platform : Platform NameBucket IndexBucket Kstate) :=
  ifaceCoherent platform Iface.type

def storeEnroll (platform : Platform NameBucket IndexBucket Kstate) (interface : Addr)
    (world : World NameBucket IndexBucket Kstate) :
    Except Fault (Int × World NameBucket IndexBucket Kstate) := do
  let (ret, store) ←
    storeEnrollIface platform.hash world.objects ⟨world.next, interface⟩ world.store
  if ret ≠ 0 then .ok (ret, world)
  else .ok (ret, { world with store, next := world.next + 1 })

def storeWithdraw (platform : Platform NameBucket IndexBucket Kstate) (interface : Addr)
    (world : World NameBucket IndexBucket Kstate) :
    Int × World NameBucket IndexBucket Kstate :=
  let (ret, store) := storeWithdrawIface platform.hash world.objects interface world.store
  (ret, { world with store })

/-- `nlif_store_release()`: each interface of the list is destroyed. -/
def storeRelease : List Hndl → Objects → Except Fault Objects
  | [], objects => .ok objects
  | hndl :: rest, objects => do
      let released ← ifaceFini (objects hndl.iface)
      storeRelease rest (Function.update objects hndl.iface released)

def storeClear (world : World NameBucket IndexBucket Kstate) :
    Except Fault (World NameBucket IndexBucket Kstate) := do
  let objects ← storeRelease world.store.ifaces world.objects
  .ok { world with objects, store := storeReinit }

/-- The dump loop of `nlif_gate_load_links()`. -/
def gateLoadEach (platform : Platform NameBucket IndexBucket Kstate) :
    List GetlinkRsp → World NameBucket IndexBucket Kstate →
      Except Fault (Int × World NameBucket IndexBucket Kstate)
  | [], world => .ok (0, world)
  | link :: rest, world =>
      if gateIslinkValid link ≠ 0 then gateLoadEach platform rest world
      else do
        let (ret, world) ← gateNotify platform noObservers (.new link) world
        if ret ≠ 0 then .ok (ret, world) else gateLoadEach platform rest world

def gateLoadLinks (platform : Platform NameBucket IndexBucket Kstate)
    (world : World NameBucket IndexBucket Kstate) :
    Except Fault (Int × World NameBucket IndexBucket Kstate) :=
  let (answer, kernel) := platform.kernel.dump world.kernel
  let world := { world with kernel }
  match answer with
  | .error error => .ok (ynlErr error, world)
  | .ok [] => .ok (-ENODEV, world)
  | .ok links => gateLoadEach platform links world

def storeLoad (platform : Platform NameBucket IndexBucket Kstate)
    (world : World NameBucket IndexBucket Kstate) :
    Except Fault (Int × World NameBucket IndexBucket Kstate) :=
  gateLoadLinks platform world

def storeReload (platform : Platform NameBucket IndexBucket Kstate)
    (world : World NameBucket IndexBucket Kstate) :
    Except Fault (Int × World NameBucket IndexBucket Kstate) := do
  let world ← storeClear world
  storeLoad platform world

/-- A parsed notification; `newlink` is `ntf->cmd == RTM_NEWLINK`. -/
structure Notification where
  newlink : Bool
  link : GetlinkRsp

/-- The dequeue loop of `nlif_gate_notify_changes()`. -/
def gateNotifyChanges (platform : Platform NameBucket IndexBucket Kstate)
    (observers : Observers NameBucket IndexBucket Kstate) :
    List Notification → World NameBucket IndexBucket Kstate →
      Except Fault (Int × World NameBucket IndexBucket Kstate)
  | [], world => .ok (0, world)
  | notification :: rest, world =>
      if !notification.newlink || gateIslinkValid notification.link ≠ 0 then
        gateNotifyChanges platform observers rest world
      else do
        let (ret, world) ← gateNotify platform observers (.change notification.link) world
        if ret ≠ 0 then .ok (ret, world)
        else gateNotifyChanges platform observers rest world

end Events

end Nlif.GateModel
