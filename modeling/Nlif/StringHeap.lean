import Nlif.GateModel
import Nlif.SlotHeap

/-!
# The strings of the interfaces on a heap

The calls of `lib/iface.c` and `lib/store.c` that allocate or release an alias or a
kind, over a heap that records each allocation and what became of it. What an
interface reads through its two pointers is looked up in the heap (`view`); every
other call runs on what it sees there.
-/

namespace Nlif.StringHeap

open LinkModel IfaceModel StoreModel GateModel SlotHeap

set_option autoImplicit false

inductive StrField where
  | ifalias
  | kind
deriving DecidableEq

abbrev Slot := Addr × StrField

/-- A world with the strings of its interfaces; the objects' own string fields are not
used. `allocated` is what `nlif_iface_alloc()` returned and was not freed. -/
structure HeapWorld (NameBucket IndexBucket Kstate : Type) where
  world : World NameBucket IndexBucket Kstate
  strings : Heap Slot CString
  allocated : Addr → Bool

variable {NameBucket IndexBucket Kstate : Type}

def shown (strings : Heap Slot CString) (slot : Slot) : Option HeapStr :=
  (strings.look slot).map fun found => ⟨found.1, found.2⟩

/-- An object with the strings its pointers show. -/
def seen (strings : Heap Slot CString) (interface : Addr) (object : Iface) : Iface :=
  { object with
    ifalias := shown strings (interface, .ifalias)
    kind := shown strings (interface, .kind) }

namespace HeapWorld

def view (heap : HeapWorld NameBucket IndexBucket Kstate) :
    World NameBucket IndexBucket Kstate :=
  { heap.world with
    objects := fun interface => seen heap.strings interface (heap.world.objects interface) }

def adopt (heap : HeapWorld NameBucket IndexBucket Kstate)
    (world : World NameBucket IndexBucket Kstate) : HeapWorld NameBucket IndexBucket Kstate :=
  { heap with world }

def reading {Value : Type}
    (call : World NameBucket IndexBucket Kstate →
      Except Fault (Value × World NameBucket IndexBucket Kstate))
    (heap : HeapWorld NameBucket IndexBucket Kstate) :
    Except Fault (Value × HeapWorld NameBucket IndexBucket Kstate) :=
  (fun done => (done.1, heap.adopt done.2)) <$> call heap.view

/-- `nlif_free()` of a string. -/
def free (slot : Slot) (heap : HeapWorld NameBucket IndexBucket Kstate) :
    Except Fault (HeapWorld NameBucket IndexBucket Kstate) :=
  match heap.strings.drop slot with
  | none => .error .doubleFree
  | some strings => .ok { heap with strings }

/-- The pointer is given a fresh copy of the text, or `NULL`. -/
def assign (slot : Slot) (text : Option CString)
    (heap : HeapWorld NameBucket IndexBucket Kstate) :
    HeapWorld NameBucket IndexBucket Kstate :=
  { heap with strings := heap.strings.assign slot text }

def setObject (interface : Addr) (object : Iface)
    (heap : HeapWorld NameBucket IndexBucket Kstate) :
    HeapWorld NameBucket IndexBucket Kstate :=
  heap.adopt (heap.world.setObject interface object)

def invalidate (interface : Addr) (heap : HeapWorld NameBucket IndexBucket Kstate) :
    HeapWorld NameBucket IndexBucket Kstate :=
  heap.adopt (heap.world.invalidate interface)

end HeapWorld

/-- `nlif_iface_fill()`. -/
def heapFill (interface : Addr) (link : GetlinkRsp)
    (heap : HeapWorld NameBucket IndexBucket Kstate) :
    HeapWorld NameBucket IndexBucket Kstate :=
  ((heap.setObject interface (ifaceFill link)).assign (interface, .ifalias) link.heldAlias).assign
    (interface, .kind) link.heldKind

/-- `nlif_iface_fini()`. -/
def heapFini (interface : Addr) (heap : HeapWorld NameBucket IndexBucket Kstate) :
    Except Fault (HeapWorld NameBucket IndexBucket Kstate) := do
  let heap ← heap.free (interface, .ifalias)
  heap.free (interface, .kind)

/-- `_nlif_iface_load_byidx()`. -/
def heapLoadByidx (platform : Platform NameBucket IndexBucket Kstate) (interface : Addr)
    (index : UInt32) (heap : HeapWorld NameBucket IndexBucket Kstate) :
    Int × HeapWorld NameBucket IndexBucket Kstate :=
  match gateLoadLinkByidx platform index heap.world with
  | (.error err, world) => (err, heap.adopt world)
  | (.ok link, world) => (0, heapFill interface link (heap.adopt world))

/-- `nlif_iface_create_bylink()`. -/
def heapCreateBylink (link : GetlinkRsp) (heap : HeapWorld NameBucket IndexBucket Kstate) :
    Addr × HeapWorld NameBucket IndexBucket Kstate :=
  let interface := heap.world.next
  let filled := heapFill interface link heap
  (interface, { filled with
    world := { filled.world with next := interface + 1 }
    allocated := Function.update heap.allocated interface true })

/-- `nlif_iface_create_byidx()`. -/
def heapCreateByidx (platform : Platform NameBucket IndexBucket Kstate) (index : UInt32)
    (heap : HeapWorld NameBucket IndexBucket Kstate) :
    Except Int Addr × HeapWorld NameBucket IndexBucket Kstate :=
  match gateLoadLinkByidx platform index heap.world with
  | (.error err, world) => (.error err, heap.adopt world)
  | (.ok link, world) =>
      let (interface, heap) := heapCreateBylink link (heap.adopt world)
      (.ok interface, heap)

/-- `nlif_iface_create_byname()`, once the kernel answered the request by name. -/
def heapCreateByname (answer : Except YnlError GetlinkRsp)
    (heap : HeapWorld NameBucket IndexBucket Kstate) :
    Except Int Addr × HeapWorld NameBucket IndexBucket Kstate :=
  match gateGetlink answer with
  | .error err => (.error err, heap)
  | .ok link =>
      let (interface, heap) := heapCreateBylink link heap
      (.ok interface, heap)

/-- `nlif_iface_destroy()`. -/
def heapDestroy (interface : Addr) (heap : HeapWorld NameBucket IndexBucket Kstate) :
    Except Fault (HeapWorld NameBucket IndexBucket Kstate) := do
  let heap ← heapFini interface heap
  .ok { heap with allocated := Function.update heap.allocated interface false }

/-- The body of `nlif_iface_set_alias()`. -/
def heapStageAlias (ifalias : Option CString) (interface : Addr)
    (heap : HeapWorld NameBucket IndexBucket Kstate) :
    Except Fault (Int × HeapWorld NameBucket IndexBucket Kstate) :=
  let self := heap.view.objects interface
  let dirty := { self with
    state := .dirty, dirtyFields := insert .ifalias self.dirtyFields }
  match ifalias with
  | some text => do
      let same ← aliasIs text self.ifalias
      if same then .ok (0, heap)
      else if text = self.name then .ok (-EEXIST, heap)
      else do
        let heap ← heap.free (interface, .ifalias)
        .ok (0, (heap.setObject interface dirty).assign (interface, .ifalias) (some text))
  | none =>
      if self.ifalias = none then .ok (0, heap)
      else do
        let heap ← heap.free (interface, .ifalias)
        .ok (0, (heap.setObject interface dirty).assign (interface, .ifalias) none)

/-- The setter bodies; only that of the alias allocates or releases. -/
def heapStage (setter : Setter) (interface : Addr)
    (heap : HeapWorld NameBucket IndexBucket Kstate) :
    Except Fault (Int × HeapWorld NameBucket IndexBucket Kstate) :=
  match setter with
  | .ifalias ifalias => heapStageAlias ifalias interface heap
  | other =>
      (fun staged => (staged.1, heap.setObject interface staged.2)) <$>
        stage other (heap.view.objects interface)

section Calls

variable [DecidableEq NameBucket] [DecidableEq IndexBucket]

def heapReload (platform : Platform NameBucket IndexBucket Kstate) (interface : Addr)
    (heap : HeapWorld NameBucket IndexBucket Kstate) :
    Except Fault (Int × HeapWorld NameBucket IndexBucket Kstate) := do
  let heap ← heapFini interface heap
  let (err, heap) :=
    heapLoadByidx platform interface (heap.world.objects interface).idx heap
  if err ≠ 0 then .ok (err, heap.invalidate interface)
  else do
    let (err, heap) ← heap.reading (gateNotify platform noObservers (.reload interface))
    if err ≠ 0 then .ok (err, heap.invalidate interface)
    else .ok (0, heap)

def heapSync (platform : Platform NameBucket IndexBucket Kstate) (interface : Addr)
    (heap : HeapWorld NameBucket IndexBucket Kstate) :
    Except Fault (Int × HeapWorld NameBucket IndexBucket Kstate) :=
  match (heap.world.objects interface).state with
  | .clean | .dirty => .ok (0, heap)
  | .invalid => heapReload platform interface heap

def heapSet (platform : Platform NameBucket IndexBucket Kstate) (setter : Setter)
    (interface : Addr) (heap : HeapWorld NameBucket IndexBucket Kstate) :
    Except Fault (Int × HeapWorld NameBucket IndexBucket Kstate) := do
  let (ret, heap) ← heapSync platform interface heap
  if ret ≠ 0 then .ok (ret, heap) else heapStage setter interface heap

def heapCoherent (platform : Platform NameBucket IndexBucket Kstate) (interface : Addr)
    (heap : HeapWorld NameBucket IndexBucket Kstate) :
    Except Fault (Except Int Iface × HeapWorld NameBucket IndexBucket Kstate) := do
  let (ret, heap) ← heapSync platform interface heap
  if ret ≠ 0 then .ok (.error ret, heap)
  else .ok (.ok (heap.view.objects interface), heap)

end Calls

section Store

variable [DecidableEq NameBucket] [DecidableEq IndexBucket]

/-- The tail of `nlif_store_on_new_iface()`, once no conflict was found. -/
def heapEnrollLink (platform : Platform NameBucket IndexBucket Kstate) (link : GetlinkRsp)
    (aliasBucket : Option NameBucket) (heap : HeapWorld NameBucket IndexBucket Kstate) :
    HeapWorld NameBucket IndexBucket Kstate :=
  let (interface, heap) := heapCreateBylink link heap
  heap.adopt { heap.world with
    store := storeCreatenEnrollIfaceHndl heap.world.store ⟨heap.world.next, interface⟩
      (platform.hash.index link.ifiIndex) (platform.hash.str link.ifname) aliasBucket
    next := heap.world.next + 1 }

/-- `nlif_store_on_new_iface()`. -/
def heapOnNewIface (platform : Platform NameBucket IndexBucket Kstate) (link : GetlinkRsp)
    (heap : HeapWorld NameBucket IndexBucket Kstate) :
    Except Fault (HeapWorld NameBucket IndexBucket Kstate) :=
  let objects := heap.view.objects
  let store := heap.world.store
  if !storeMayRegisterIfaceIndex platform.hash objects store link.ifiIndex then .ok heap
  else do
    let mayName ← storeMayRegisterIfaceName platform.hash objects store link.ifname
    if !mayName then .ok heap
    else
      match link.heldAlias with
      | none => .ok (heapEnrollLink platform link none heap)
      | some text => do
          let mayAlias ← storeMayRegisterIfaceAlias platform.hash objects store text
          if !mayAlias then .ok heap
          else .ok (heapEnrollLink platform link (some (platform.hash.str text)) heap)

/-- `nlif_gate_notify()` of a NEW event. -/
def heapNewLink (platform : Platform NameBucket IndexBucket Kstate) (link : GetlinkRsp)
    (heap : HeapWorld NameBucket IndexBucket Kstate) :
    Except Fault (Int × HeapWorld NameBucket IndexBucket Kstate) :=
  if heap.world.gate.notif then do
    let heap ← heapOnNewIface platform link heap
    .ok (0, heap.adopt (heap.world.record (.notified .new link.ifiIndex 0)))
  else .ok (0, heap)

end Store

/-- `nlif_store_release()`. -/
def heapRelease : List Hndl → HeapWorld NameBucket IndexBucket Kstate →
    Except Fault (HeapWorld NameBucket IndexBucket Kstate)
  | [], heap => .ok heap
  | hndl :: rest, heap => do
      let heap ← heapDestroy hndl.iface heap
      heapRelease rest heap

/-- `nlif_store_clear()`. -/
def heapClear (heap : HeapWorld NameBucket IndexBucket Kstate) :
    Except Fault (HeapWorld NameBucket IndexBucket Kstate) := do
  let heap ← heapRelease heap.world.store.ifaces heap
  .ok (heap.adopt { heap.world with store := storeReinit })

/-- `nlif_iface_create_byidx()` over a world. -/
def ifaceCreateByidx (platform : Platform NameBucket IndexBucket Kstate) (index : UInt32)
    (world : World NameBucket IndexBucket Kstate) :
    Except Int Addr × World NameBucket IndexBucket Kstate :=
  match gateLoadLinkByidx platform index world with
  | (.error err, world) => (.error err, world)
  | (.ok link, world) =>
      let (interface, world) := ifaceCreateBylink link world
      (.ok interface, world)

/-- `nlif_iface_create_byname()` over a world. -/
def ifaceCreateByname (answer : Except YnlError GetlinkRsp)
    (world : World NameBucket IndexBucket Kstate) :
    Except Int Addr × World NameBucket IndexBucket Kstate :=
  match gateGetlink answer with
  | .error err => (.error err, world)
  | .ok link =>
      let (interface, world) := ifaceCreateBylink link world
      (.ok interface, world)

/-- `nlif_iface_destroy()` over a world, where nothing is freed but the strings. -/
def ifaceDestroy (interface : Addr) (world : World NameBucket IndexBucket Kstate) :
    Except Fault (World NameBucket IndexBucket Kstate) :=
  (fun object => world.setObject interface object) <$> ifaceFini (world.objects interface)

def remaining (allocated : Addr → Bool) : List Hndl → Addr → Bool
  | [] => allocated
  | hndl :: rest => remaining (Function.update allocated hndl.iface false) rest

inductive HeapOp where
  | createByidx (index : UInt32)
  | createByname (answer : Except YnlError GetlinkRsp)
  | createBylink (link : GetlinkRsp)
  | newLink (link : GetlinkRsp)
  | destroy (interface : Addr)
  | set (setter : Setter) (interface : Addr)
  | coherent (interface : Addr)
  | apply (interface : Addr)
  | reload (interface : Addr)
  | enroll (interface : Addr)
  | withdraw (interface : Addr)
  | clear
  | mayRegisterName (name : CString)
  | mayRegisterAlias (ifalias : CString)
  | findByalias (ifalias : CString)
  | findBystrid (strid : CString)

inductive HeapRet where
  | created (interface : Except Int Addr)
  | code (ret : Int)
  | read (value : Except Int Iface)
  | may (free : Bool)
  | found (interface : Option Addr)
  | done
deriving DecidableEq

def returning {Value State : Type} (put : Value → HeapRet)
    (result : Except Fault (Value × State)) : Except Fault (HeapRet × State) :=
  (fun done => (put done.1, done.2)) <$> result

def asking {Value State : Type} (put : Value → HeapRet) (state : State)
    (result : Except Fault Value) : Except Fault (HeapRet × State) :=
  (fun value => (put value, state)) <$> result

section Machine

variable [DecidableEq NameBucket] [DecidableEq IndexBucket]

def heapStep (platform : Platform NameBucket IndexBucket Kstate) (op : HeapOp)
    (heap : HeapWorld NameBucket IndexBucket Kstate) :
    Except Fault (HeapRet × HeapWorld NameBucket IndexBucket Kstate) :=
  let objects := heap.view.objects
  let store := heap.world.store
  match op with
  | .createByidx index => returning .created (.ok (heapCreateByidx platform index heap))
  | .createByname answer => returning .created (.ok (heapCreateByname answer heap))
  | .createBylink link =>
      returning (fun interface => .created (.ok interface)) (.ok (heapCreateBylink link heap))
  | .newLink link => returning .code (heapNewLink platform link heap)
  | .destroy interface => (fun next => (.done, next)) <$> heapDestroy interface heap
  | .set setter interface => returning .code (heapSet platform setter interface heap)
  | .coherent interface => returning .read (heapCoherent platform interface heap)
  | .apply interface => returning .code (heap.reading (ifaceApply platform interface))
  | .reload interface => returning .code (heapReload platform interface heap)
  | .enroll interface => returning .code (heap.reading (storeEnroll platform interface))
  | .withdraw interface =>
      returning .code (heap.reading fun world => .ok (storeWithdraw platform interface world))
  | .clear => (fun next => (.done, next)) <$> heapClear heap
  | .mayRegisterName name =>
      asking .may heap (storeMayRegisterIfaceName platform.hash objects store name)
  | .mayRegisterAlias ifalias =>
      asking .may heap (storeMayRegisterIfaceAlias platform.hash objects store ifalias)
  | .findByalias ifalias =>
      asking .found heap (storeFindIfaceByalias platform.hash objects store ifalias)
  | .findBystrid strid =>
      asking .found heap (storeFindIfaceBystrid platform.hash objects store strid)

def worldStep (platform : Platform NameBucket IndexBucket Kstate) (op : HeapOp)
    (world : World NameBucket IndexBucket Kstate) :
    Except Fault (HeapRet × World NameBucket IndexBucket Kstate) :=
  let objects := world.objects
  let store := world.store
  match op with
  | .createByidx index => returning .created (.ok (ifaceCreateByidx platform index world))
  | .createByname answer => returning .created (.ok (ifaceCreateByname answer world))
  | .createBylink link =>
      returning (fun interface => .created (.ok interface)) (.ok (ifaceCreateBylink link world))
  | .newLink link => returning .code (gateNotify platform noObservers (.new link) world)
  | .destroy interface => (fun next => (.done, next)) <$> ifaceDestroy interface world
  | .set setter interface => returning .code (ifaceSet platform setter interface world)
  | .coherent interface => returning .read (ifaceCoherent platform id interface world)
  | .apply interface => returning .code (ifaceApply platform interface world)
  | .reload interface => returning .code (ifaceReload platform interface world)
  | .enroll interface => returning .code (storeEnroll platform interface world)
  | .withdraw interface => returning .code (.ok (storeWithdraw platform interface world))
  | .clear => (fun next => (.done, next)) <$> storeClear world
  | .mayRegisterName name =>
      asking .may world (storeMayRegisterIfaceName platform.hash objects store name)
  | .mayRegisterAlias ifalias =>
      asking .may world (storeMayRegisterIfaceAlias platform.hash objects store ifalias)
  | .findByalias ifalias =>
      asking .found world (storeFindIfaceByalias platform.hash objects store ifalias)
  | .findBystrid strid =>
      asking .found world (storeFindIfaceBystrid platform.hash objects store strid)

end Machine

end Nlif.StringHeap
