import Mathlib.Algebra.Group.Nat.Defs
import Nlif.BucketTable
import Nlif.IfaceModel

/-!
# The interface store

Transcription of the tables of `lib/store.h` and of the functions of
`lib/store.c` that read or change them. The interface objects live outside the
store, so every function takes the current objects by address, as the C code
dereferences `hndl->iface`. The two hash functions come from the stroll library
and stay arbitrary; `CodeHashing` has their range in the code.
`stroll_hlist_add()` pushes at the head of a bucket and
`stroll_dlist_nqueue_back()` at the end of the list.
-/

namespace Nlif.StoreModel

open LinkModel IfaceModel FaultWalk BucketTable

set_option autoImplicit false

def NLIF_STORE_INDXH_BITS : Nat := 7
def NLIF_STORE_NAMEH_BITS : Nat := 7

/-- `stroll_hash_str_djb2()` and `stroll_hash()`. -/
structure Hashing (NameBucket IndexBucket : Type) where
  str : CString → NameBucket
  index : UInt32 → IndexBucket

abbrev CodeHashing := Hashing (Fin (2 ^ NLIF_STORE_NAMEH_BITS)) (Fin (2 ^ NLIF_STORE_INDXH_BITS))

/-- The djb2 string hash on 32 bits, folded to its low bits, to run the model with. -/
def djb2Hashing : CodeHashing where
  str text :=
    Fin.ofNat _ (text.bytes.foldl (fun hash byte => (hash * 33 + byte.toNat) % 2 ^ 32) 5381)
  index index := Fin.ofNat _ index.toNat

/-- `struct nlif_store_hndl`, by its own address and its interface's. -/
structure Hndl where
  addr : Addr
  iface : Addr
deriving DecidableEq

structure Store (NameBucket IndexBucket : Type) where
  nameh : Table NameBucket Hndl
  indxh : Table IndexBucket Hndl
  aliash : Table NameBucket Hndl
  ifaces : List Hndl
  count : Nat

abbrev Objects := Addr → Iface

variable {NameBucket IndexBucket : Type}

/-- `nlif_store_reinit()`. -/
def storeReinit : Store NameBucket IndexBucket where
  nameh := BucketTable.empty
  indxh := BucketTable.empty
  aliash := BucketTable.empty
  ifaces := []
  count := 0

def storeSearchIfaceByname (objects : Objects) (store : Store NameBucket IndexBucket)
    (bucket : NameBucket) (name : CString) : Option Addr :=
  ((store.nameh bucket).find? fun hndl => name = (objects hndl.iface).name).map Hndl.iface

def storeFindIfaceByname (hash : Hashing NameBucket IndexBucket) (objects : Objects)
    (store : Store NameBucket IndexBucket) (name : CString) : Option Addr :=
  if linkValidateName name > 0 then
    storeSearchIfaceByname objects store (hash.str name) name
  else none

/-- `strcmp(alias, hndl->iface->alias)` in the loop of the alias search. -/
def visitAlias (objects : Objects) (ifalias : CString) (hndl : Hndl) :
    Except Fault (Option Addr) :=
  (fun current => if ifalias = current then some hndl.iface else none) <$>
    derefStr (objects hndl.iface).ifalias

def storeSearchIfaceByalias (objects : Objects) (store : Store NameBucket IndexBucket)
    (bucket : NameBucket) (ifalias : CString) : Except Fault (Option Addr) :=
  firstHit (visitAlias objects ifalias) (store.aliash bucket)

def storeFindIfaceByalias (hash : Hashing NameBucket IndexBucket) (objects : Objects)
    (store : Store NameBucket IndexBucket) (ifalias : CString) : Except Fault (Option Addr) :=
  if linkValidateAlias (some ifalias) > 0 then
    storeSearchIfaceByalias objects store (hash.str ifalias) ifalias
  else .ok none

def storeFindIfaceBystrid (hash : Hashing NameBucket IndexBucket) (objects : Objects)
    (store : Store NameBucket IndexBucket) (strid : CString) : Except Fault (Option Addr) :=
  let bucket := hash.str strid
  let byname :=
    if linkValidateName strid > 0 then storeSearchIfaceByname objects store bucket strid else none
  match byname with
  | some interface => .ok (some interface)
  | none =>
      if linkValidateAlias (some strid) > 0 then
        storeSearchIfaceByalias objects store bucket strid
      else .ok none

def storeSearchIfaceHndlByindex (hash : Hashing NameBucket IndexBucket) (objects : Objects)
    (store : Store NameBucket IndexBucket) (index : UInt32) : Option Hndl :=
  (store.indxh (hash.index index)).find? fun hndl => index = (objects hndl.iface).idx

def storeFindIfaceByindex (hash : Hashing NameBucket IndexBucket) (objects : Objects)
    (store : Store NameBucket IndexBucket) (index : UInt32) : Option Addr :=
  if linkValidateIndex index = 0 then
    (storeSearchIfaceHndlByindex hash objects store index).map Hndl.iface
  else none

def storeMatchIfaceBystrid (interface : Iface) (strid : CString) : Except Fault Bool :=
  if strid = interface.name then .ok true
  else
    match interface.ifalias with
    | none => .ok false
    | some pointer => (fun current => decide (strid = current)) <$> pointer.read

/-- The conflict walk over one bucket shared by name and alias registration. -/
def answersIn (objects : Objects) (strid : CString) (chain : List Hndl) : Except Fault Bool :=
  anyHit (fun hndl => storeMatchIfaceBystrid (objects hndl.iface) strid) chain

def storeMayRegisterIfaceName (hash : Hashing NameBucket IndexBucket) (objects : Objects)
    (store : Store NameBucket IndexBucket) (name : CString) : Except Fault Bool :=
  not <$> answersIn objects name (store.nameh (hash.str name))

def storeMayRegisterIfaceAlias (hash : Hashing NameBucket IndexBucket) (objects : Objects)
    (store : Store NameBucket IndexBucket) (ifalias : CString) : Except Fault Bool :=
  not <$> answersIn objects ifalias (store.aliash (hash.str ifalias))

def storeMayRegisterIfaceIndex (hash : Hashing NameBucket IndexBucket) (objects : Objects)
    (store : Store NameBucket IndexBucket) (index : UInt32) : Bool :=
  (storeSearchIfaceHndlByindex hash objects store index).isNone

section Link

variable [DecidableEq NameBucket] [DecidableEq IndexBucket]

/-- `nlif_store_createn_enroll_iface_hndl()`, on a freshly allocated handle. -/
def storeCreatenEnrollIfaceHndl (store : Store NameBucket IndexBucket) (hndl : Hndl)
    (indexBucket : IndexBucket) (nameBucket : NameBucket) (aliasBucket : Option NameBucket) :
    Store NameBucket IndexBucket where
  nameh := add nameBucket hndl store.nameh
  indxh := add indexBucket hndl store.indxh
  aliash :=
    match aliasBucket with
    | some bucket => add bucket hndl store.aliash
    | none => store.aliash
  ifaces := store.ifaces ++ [hndl]
  count := store.count + 1

/-- `nlif_store_enroll_iface()`; `hndl` is the handle it allocates on success. -/
def storeEnrollIface (hash : Hashing NameBucket IndexBucket) (objects : Objects)
    (hndl : Hndl) (store : Store NameBucket IndexBucket) :
    Except Fault (Int × Store NameBucket IndexBucket) := do
  let interface := objects hndl.iface
  let mayName ← storeMayRegisterIfaceName hash objects store interface.name
  if !mayName then .ok (-EEXIST, store)
  else if !storeMayRegisterIfaceIndex hash objects store interface.idx then .ok (-EEXIST, store)
  else
    match interface.ifalias with
    | none =>
        .ok (0, storeCreatenEnrollIfaceHndl store hndl (hash.index interface.idx)
          (hash.str interface.name) none)
    | some pointer => do
        let strid ← pointer.read
        let mayAlias ← storeMayRegisterIfaceAlias hash objects store strid
        if !mayAlias then .ok (-EEXIST, store)
        else
          .ok (0, storeCreatenEnrollIfaceHndl store hndl (hash.index interface.idx)
            (hash.str interface.name) (some (hash.str strid)))

/-- Unlinking a handle from the three tables and from the list. -/
def storeUnlinkHndl (hndl : Hndl) (store : Store NameBucket IndexBucket) :
    Store NameBucket IndexBucket where
  nameh := del hndl store.nameh
  indxh := del hndl store.indxh
  aliash := del hndl store.aliash
  ifaces := store.ifaces.filter fun other => other ≠ hndl
  count := store.count - 1

/-- `nlif_store_withdraw_iface()`. -/
def storeWithdrawIface (hash : Hashing NameBucket IndexBucket) (objects : Objects)
    (interface : Addr) (store : Store NameBucket IndexBucket) :
    Int × Store NameBucket IndexBucket :=
  match storeSearchIfaceHndlByindex hash objects store (objects interface).idx with
  | some hndl => (0, storeUnlinkHndl hndl store)
  | none => (-ENODEV, store)

def storeRehashName (hash : Hashing NameBucket IndexBucket) (objects : Objects) (hndl : Hndl)
    (name : CString) (store : Store NameBucket IndexBucket) :
    Except Fault (Int × Store NameBucket IndexBucket) := do
  let unlinked := { store with nameh := del hndl store.nameh }
  let may ← storeMayRegisterIfaceName hash objects unlinked name
  if !may then .ok (-EEXIST, unlinked)
  else .ok (0, { unlinked with nameh := add (hash.str name) hndl unlinked.nameh })

def storeRehashAlias (hash : Hashing NameBucket IndexBucket) (objects : Objects) (hndl : Hndl)
    (ifalias : Option HeapStr) (store : Store NameBucket IndexBucket) :
    Except Fault (Int × Store NameBucket IndexBucket) :=
  let unlinked := { store with aliash := del hndl store.aliash }
  match ifalias with
  | none => .ok (0, unlinked)
  | some pointer => do
      let text ← pointer.read
      let may ← storeMayRegisterIfaceAlias hash objects unlinked text
      if !may then .ok (-EEXIST, unlinked)
      else .ok (0, { unlinked with aliash := add (hash.str text) hndl unlinked.aliash })

/-- One of the two `if (...) { ret = nlif_store_rehash_...(); if (ret) return ret; }`
statements of the handlers. The handle is only dereferenced where a re-hash runs. -/
def rehashWhen (wanted : Bool) (hndl : Option Hndl)
    (rehash : Hndl → Store NameBucket IndexBucket →
      Except Fault (Int × Store NameBucket IndexBucket))
    (store : Store NameBucket IndexBucket) :
    Except Fault (Int × Store NameBucket IndexBucket) :=
  if wanted then
    match hndl with
    | none => .error .nullDereference
    | some hndl => rehash hndl store
  else .ok (0, store)

def storeRehash (hash : Hashing NameBucket IndexBucket) (objects : Objects)
    (rename realias : Bool) (interface : Addr) (store : Store NameBucket IndexBucket) :
    Except Fault (Int × Store NameBucket IndexBucket) := do
  let self := objects interface
  let hndl := storeSearchIfaceHndlByindex hash objects store self.idx
  let (ret, store) ← rehashWhen rename hndl
    (fun hndl => storeRehashName hash objects hndl self.name) store
  if ret ≠ 0 then .ok (ret, store)
  else rehashWhen realias hndl (fun hndl => storeRehashAlias hash objects hndl self.ifalias) store

/-- `nlif_store_on_iface_modify()`: only what is marked dirty is re-hashed. -/
def storeOnIfaceModify (hash : Hashing NameBucket IndexBucket) (objects : Objects)
    (interface : Addr) (store : Store NameBucket IndexBucket) :
    Except Fault (Int × Store NameBucket IndexBucket) :=
  let dirty := (objects interface).dirtyFields
  storeRehash hash objects (.name ∈ dirty) (.ifalias ∈ dirty) interface store

/-- `nlif_store_on_iface_reload()`: both strings are re-hashed. -/
def storeOnIfaceReload (hash : Hashing NameBucket IndexBucket) (objects : Objects)
    (interface : Addr) (store : Store NameBucket IndexBucket) :
    Except Fault (Int × Store NameBucket IndexBucket) :=
  storeRehash hash objects true true interface store

end Link

end Nlif.StoreModel
