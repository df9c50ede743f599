import Nlif.IfaceRun
import Nlif.StoreInvariant

/-!
# Reading and releasing strings

The calls that read or release an alias or a kind meet no released string where the
interfaces they look at hold theirs. The tables are only looked at through `Within`:
whatever is on a chain is enrolled.
-/

namespace Nlif.StringAccess

open LinkModel IfaceModel FaultWalk BucketTable StoreModel StoreRehash StoreInvariant GateModel
  GateSpec
open IfaceRun (Synced sync_synced)

set_option autoImplicit false

/-- A string was released twice, or read after its release. -/
def MemoryFault (fault : Fault) : Prop := fault = .doubleFree ∨ fault = .useAfterFree

instance (fault : Fault) : Decidable (MemoryFault fault) := inferInstanceAs (Decidable (_ ∨ _))

section Strings

theorem read_avoids {pointer : HeapStr} (live : pointer.live = true) :
    Avoids MemoryFault pointer.read := by
  rw [HeapStr.read, if_pos live]
  exact avoids_ok _

theorem deref_avoids {pointer : Option HeapStr}
    (live : ∀ string, pointer = some string → string.live = true) :
    Avoids MemoryFault (derefStr pointer) := by
  cases pointer with
  | none => exact avoids_error (by decide)
  | some string => exact read_avoids (live string rfl)

theorem free_avoids {pointer : Option HeapStr}
    (live : ∀ string, pointer = some string → string.live = true) :
    Avoids MemoryFault (nlifFree pointer) := by
  rw [(nlif_free_ok_iff _ _).mpr ⟨live, rfl⟩]
  exact avoids_ok _

theorem fini_avoids {interface : Iface} (held : Held interface) :
    Avoids MemoryFault (ifaceFini interface) := by
  rw [(iface_fini_ok_iff _ _).mpr ⟨held, rfl⟩]
  exact avoids_ok _

theorem alias_is_avoids {interface : Iface} (held : Held interface) (text : CString) :
    Avoids MemoryFault (aliasIs text interface.ifalias) := by
  unfold aliasIs
  split
  · exact avoids_ok _
  · rename_i pointer present
    exact (read_avoids (held.ifalias pointer present)).map _

theorem stage_alias_avoids {interface : Iface} (held : Held interface)
    (ifalias : Option CString) : Avoids MemoryFault (stageAlias ifalias interface) := by
  unfold stageAlias
  split
  · refine (alias_is_avoids held _).bind fun same _ => ?_
    split
    · exact avoids_ok _
    · split
      · exact avoids_ok _
      · exact (free_avoids held.ifalias).bind fun _ _ => avoids_ok _
  · split
    · exact avoids_ok _
    · exact (free_avoids held.ifalias).bind fun _ _ => avoids_ok _

theorem stage_name_avoids {interface : Iface} (held : Held interface) (name : StrArg) :
    Avoids MemoryFault (stageName name interface) := by
  unfold stageName
  split
  · exact avoids_ok _
  · refine (deref_avoids held.ifalias).bind fun current _ => ?_
    split
    · exact avoids_ok _
    · split
      · exact avoids_error (by decide)
      · exact avoids_ok _

theorem stage_avoids {interface : Iface} (held : Held interface) (setter : Setter) :
    Avoids MemoryFault (stage setter interface) := by
  cases setter with
  | name name => exact stage_name_avoids held name
  | ifalias ifalias => exact stage_alias_avoids held ifalias
  | group group =>
      change Avoids MemoryFault (stageGroup group interface)
      unfold stageGroup
      split <;> exact avoids_ok _
  | admstate up =>
      change Avoids MemoryFault (stageAdmstate up interface)
      unfold stageAdmstate
      split <;> exact avoids_ok _
  | mtu mtu =>
      change Avoids MemoryFault (stageMtu mtu interface)
      unfold stageMtu
      split
      · simp only
        split <;> exact avoids_ok _
      · exact avoids_ok _
  | hwaddr address =>
      change Avoids MemoryFault (stageHwaddr address interface)
      unfold stageHwaddr
      split <;> exact avoids_ok _

theorem setlink_req_avoids {interface : Iface} (held : Held interface) :
    Avoids MemoryFault (ifaceSetlinkReq interface) := by
  have read : Avoids MemoryFault (setlinkAlias interface.ifalias) := by
    unfold setlinkAlias
    split
    · exact avoids_ok _
    · rename_i pointer present
      exact (read_avoids (held.ifalias pointer present)).map _
  unfold ifaceSetlinkReq
  by_cases dirty : .ifalias ∈ interface.dirtyFields
  · simp only [if_pos dirty]
    exact (read.map _).bind fun _ _ => avoids_ok _
  · simp only [if_neg dirty]
    exact avoids_ok _

end Strings

section Walks

variable {NameBucket IndexBucket : Type}

structure Within (store : Store NameBucket IndexBucket) : Prop where
  nameh : ∀ bucket, ∀ hndl ∈ store.nameh bucket, hndl ∈ store.ifaces
  indxh : ∀ bucket, ∀ hndl ∈ store.indxh bucket, hndl ∈ store.ifaces
  aliash : ∀ bucket, ∀ hndl ∈ store.aliash bucket, hndl ∈ store.ifaces

theorem within_reinit : Within (storeReinit : Store NameBucket IndexBucket) where
  nameh _ _ member := nomatch member
  indxh _ _ member := nomatch member
  aliash _ _ member := nomatch member

variable {hash : Hashing NameBucket IndexBucket} {objects : Objects}
  {store : Store NameBucket IndexBucket}

theorem answers_in_avoids {chain : List Hndl} (held : ∀ hndl ∈ chain, Held (objects hndl.iface))
    (strid : CString) : Avoids MemoryFault (answersIn objects strid chain) := by
  refine any_hit_avoids fun hndl member => ?_
  unfold storeMatchIfaceBystrid
  split
  · exact avoids_ok _
  · split
    · exact avoids_ok _
    · rename_i pointer present
      exact (read_avoids ((held hndl member).ifalias pointer present)).map _

theorem may_register_name_avoids
    (held : ∀ bucket, ∀ hndl ∈ store.nameh bucket, Held (objects hndl.iface)) (name : CString) :
    Avoids MemoryFault (storeMayRegisterIfaceName hash objects store name) :=
  (answers_in_avoids (held _) name).map _

theorem may_register_alias_avoids
    (held : ∀ bucket, ∀ hndl ∈ store.aliash bucket, Held (objects hndl.iface))
    (ifalias : CString) :
    Avoids MemoryFault (storeMayRegisterIfaceAlias hash objects store ifalias) :=
  (answers_in_avoids (held _) ifalias).map _

theorem search_byalias_avoids {bucket : NameBucket}
    (held : ∀ hndl ∈ store.aliash bucket, Held (objects hndl.iface)) (ifalias : CString) :
    Avoids MemoryFault (storeSearchIfaceByalias objects store bucket ifalias) :=
  first_hit_avoids fun hndl member => (deref_avoids (held hndl member).ifalias).map _

theorem find_byalias_avoids
    (held : ∀ bucket, ∀ hndl ∈ store.aliash bucket, Held (objects hndl.iface))
    (ifalias : CString) :
    Avoids MemoryFault (storeFindIfaceByalias hash objects store ifalias) := by
  unfold storeFindIfaceByalias
  split
  · exact search_byalias_avoids (held _) ifalias
  · exact avoids_ok _

theorem find_bystrid_avoids
    (held : ∀ bucket, ∀ hndl ∈ store.aliash bucket, Held (objects hndl.iface)) (strid : CString) :
    Avoids MemoryFault (storeFindIfaceBystrid hash objects store strid) := by
  unfold storeFindIfaceBystrid
  simp only
  split
  · exact avoids_ok _
  · split
    · exact search_byalias_avoids (held _) strid
    · exact avoids_ok _

end Walks

section Rehashes

variable {NameBucket IndexBucket : Type} {hash : Hashing NameBucket IndexBucket}
  {objects : Objects} {store after : Store NameBucket IndexBucket} {hndl : Hndl}

def MembersHeld (objects : Objects) (store : Store NameBucket IndexBucket) : Prop :=
  ∀ hndl ∈ store.ifaces, Held (objects hndl.iface)

theorem Within.search_enrolled (within : Within store) {index : UInt32}
    (found : storeSearchIfaceHndlByindex hash objects store index = some hndl) :
    hndl ∈ store.ifaces :=
  within.indxh _ hndl (List.mem_of_find?_eq_some found)

theorem members_held_same (members : MembersHeld objects store)
    (same : after.ifaces = store.ifaces) : MembersHeld objects after := by
  intro other member
  rw [same] at member
  exact members other member

theorem rehash_when_avoids {wanted : Bool} {found : Option Hndl}
    {rehash : Hndl → Store NameBucket IndexBucket →
      Except Fault (Int × Store NameBucket IndexBucket)}
    (avoids : ∀ hndl, found = some hndl → Avoids MemoryFault (rehash hndl store)) :
    Avoids MemoryFault (rehashWhen wanted found rehash store) := by
  unfold rehashWhen
  split
  · split
    · exact avoids_error (by decide)
    · exact avoids _ rfl
  · exact avoids_ok _

variable [DecidableEq NameBucket]

theorem Within.relisted (within : Within store) (member : hndl ∈ store.ifaces)
    (relisted : Relisted hndl store after) : Within after where
  nameh bucket other chained := by
    rw [relisted.ifaces]
    cases relisted.nameh.mem chained with
    | inl same => exact same ▸ member
    | inr kept => exact within.nameh bucket other kept
  indxh bucket other chained := by
    rw [relisted.indxh] at chained
    rw [relisted.ifaces]
    exact within.indxh bucket other chained
  aliash bucket other chained := by
    rw [relisted.ifaces]
    cases relisted.aliash.mem chained with
    | inl same => exact same ▸ member
    | inr kept => exact within.aliash bucket other kept

theorem rehash_name_relisted {name : CString} {ret : Int}
    (done : storeRehashName hash objects hndl name store = .ok (ret, after)) :
    Relisted hndl store after := by
  cases (store_rehash_name_ok_iff ..).mp done with
  | inl moved =>
      obtain ⟨_, _, rfl⟩ := moved
      exact ⟨rfl, rfl, rfl, .inr (.inr ⟨_, rfl⟩), relinked_refl hndl _⟩
  | inr dropped =>
      obtain ⟨_, _, rfl⟩ := dropped
      exact ⟨rfl, rfl, rfl, .inr (.inl rfl), relinked_refl hndl _⟩

theorem rehash_name_avoids (within : Within store) (members : MembersHeld objects store)
    (name : CString) : Avoids MemoryFault (storeRehashName hash objects hndl name store) := by
  have walk : Avoids MemoryFault (storeMayRegisterIfaceName hash objects
      { store with nameh := del hndl store.nameh } name) := by
    apply may_register_name_avoids
    intro bucket other chained
    exact members other (within.nameh bucket other ((mem_del ..).mp chained).1)
  refine walk.bind fun may _ => ?_
  split <;> exact avoids_ok _

theorem rehash_alias_avoids (within : Within store) (members : MembersHeld objects store)
    {ifalias : Option HeapStr}
    (live : ∀ pointer, ifalias = some pointer → pointer.live = true) :
    Avoids MemoryFault (storeRehashAlias hash objects hndl ifalias store) := by
  cases ifalias with
  | none => exact avoids_ok _
  | some pointer =>
      refine (read_avoids (live pointer rfl)).bind fun text _ => ?_
      have walk : Avoids MemoryFault (storeMayRegisterIfaceAlias hash objects
          { store with aliash := del hndl store.aliash } text) := by
        apply may_register_alias_avoids
        intro bucket other chained
        exact members other (within.aliash bucket other ((mem_del ..).mp chained).1)
      refine walk.bind fun may _ => ?_
      split <;> exact avoids_ok _

theorem rehash_avoids (within : Within store) (members : MembersHeld objects store)
    {rename realias : Bool} {interface : Addr} (held : Held (objects interface)) :
    Avoids MemoryFault (storeRehash hash objects rename realias interface store) := by
  refine (rehash_when_avoids fun hndl _ => rehash_name_avoids within members _).bind
    fun first renamed => avoids_if (fun _ => avoids_ok _) fun _ => ?_
  refine rehash_when_avoids fun hndl found => ?_
  have relisted : Within first.2 ∧ MembersHeld objects first.2 := by
    rw [found] at renamed
    cases rename with
    | false =>
        cases renamed
        exact ⟨within, members⟩
    | true =>
        have moved := rehash_name_relisted renamed
        exact ⟨within.relisted (within.search_enrolled found) moved,
          members_held_same members moved.ifaces⟩
  exact rehash_alias_avoids relisted.1 relisted.2 held.ifalias

theorem rehash_within (within : Within store) {rename realias : Bool} {interface : Addr} {ret : Int}
    (done : storeRehash hash objects rename realias interface store = .ok (ret, after)) :
    Within after := by
  cases found : storeSearchIfaceHndlByindex hash objects store (objects interface).idx with
  | none =>
      rw [store_rehash_unfound hash objects rename realias interface store found] at done
      split at done
      · cases done
      · cases done
        exact within
  | some hndl =>
      have outcome := (store_rehash_ok_iff hash objects found).mp done
      exact within.relisted (within.search_enrolled found) (rehash_relisted outcome)

end Rehashes

section Calls

variable {NameBucket IndexBucket Kstate : Type} {platform : Platform NameBucket IndexBucket Kstate}
  {interface : Addr} {world middle next : World NameBucket IndexBucket Kstate} {ret : Int}

structure Apart (interface : Addr) (world next : World NameBucket IndexBucket Kstate) : Prop where
  objects : ∀ other, other ≠ interface → next.objects other = world.objects other
  reach : next.next = world.next
  ifaces : next.store.ifaces = world.store.ifaces
  indxh : next.store.indxh = world.store.indxh
  within : Within world.store → Within next.store

theorem apart_refl (interface : Addr) (world : World NameBucket IndexBucket Kstate) :
    Apart interface world world :=
  ⟨fun _ _ => rfl, rfl, rfl, rfl, id⟩

theorem Apart.trans (first : Apart interface world middle) (second : Apart interface middle next) :
    Apart interface world next where
  objects other different := (second.objects other different).trans (first.objects other different)
  reach := second.reach.trans first.reach
  ifaces := second.ifaces.trans first.ifaces
  indxh := second.indxh.trans first.indxh
  within := fun holds => second.within (first.within holds)

theorem apart_set_object (object : Iface) :
    Apart interface world (world.setObject interface object) where
  objects _ different := Function.update_of_ne different ..
  reach := rfl
  ifaces := rfl
  indxh := rfl
  within := id

theorem Apart.set_object (apart : Apart interface world next) (object : Iface) :
    Apart interface world (next.setObject interface object) :=
  apart.trans (apart_set_object object)

theorem apart_answered (object : Iface) (kernel : Kstate) (ret : Int) :
    Apart interface world (answered interface world object kernel ret) where
  objects _ different := Function.update_of_ne different ..
  reach := rfl
  ifaces := rfl
  indxh := rfl
  within := id

theorem apart_sent (request : SetlinkReq) (kernel : Kstate) (ret : Int) :
    Apart interface world (sent interface world request kernel ret) :=
  ⟨fun _ _ => rfl, rfl, rfl, rfl, id⟩

theorem members_held_update (members : MembersHeld world.objects world.store) {object : Iface}
    (held : Held object) :
    MembersHeld (world.setObject interface object).objects world.store := by
  intro hndl member
  by_cases self : hndl.iface = interface
  · rw [self, World.set_object_self]
    exact held
  · rw [(apart_set_object object).objects _ self]
    exact members hndl member

theorem reload_loads (platform : Platform NameBucket IndexBucket Kstate) (interface : Addr)
    (world : World NameBucket IndexBucket Kstate) :
    ∃ object kernel err,
      ifaceLoadByidx platform interface (released (world.objects interface)).idx
          (world.setObject interface (released (world.objects interface))) =
        (err, answered interface world object kernel err) ∧
      (err = 0 → Held object) := by
  rcases asked : platform.kernel.getlink (world.objects interface).idx world.kernel with
    ⟨answer, kernel⟩
  cases outcome : gateGetlink answer with
  | error err =>
      have loaded := iface_load_byidx_error platform interface world asked outcome
        (released (world.objects interface)) rfl
      exact ⟨_, _, _, loaded, fun zero => absurd zero (gate_getlink_error outcome)⟩
  | ok link =>
      have loaded := iface_load_byidx_link platform interface world asked outcome
        (released (world.objects interface)) rfl
      exact ⟨_, _, _, loaded, fun _ => held_fill link⟩

theorem synced_held {handed : Except Int GetlinkRsp} {before after : Iface}
    (synced : Synced handed before 0 after) (held : Held before) : Held after := by
  cases synced with
  | passed => exact held
  | reloaded _ refill =>
      cases refill with
      | unanswered _ _ negative | clashed _ _ negative => omega
      | filled => exact held_fill _

variable [DecidableEq NameBucket] [DecidableEq IndexBucket]

omit [DecidableEq IndexBucket] in
theorem apart_rehashed {rename realias : Bool} {store : Store NameBucket IndexBucket}
    (rehashed : storeRehash platform.hash world.objects rename realias interface world.store =
      .ok (ret, store)) (trace : List Event) :
    Apart interface world { world with store, trace } := by
  obtain ⟨ifaces, _, indxh⟩ := store_rehash_frame _ _ rehashed
  exact ⟨fun _ _ => rfl, rfl, ifaces, indxh, fun within => rehash_within within rehashed⟩

theorem notify_reload_apart
    (notified : gateNotify platform noObservers (.reload interface) world = .ok (ret, next)) :
    Apart interface world next := by
  unfold gateNotify at notified
  split at notified
  · obtain ⟨_, handled, notified⟩ := (bind_ok_iff ..).mp notified
    obtain ⟨_, rehashed, handled⟩ := (bind_ok_iff ..).mp handled
    cases handled
    cases notified
    exact apart_rehashed rehashed _
  · cases notified
    exact apart_refl interface world

theorem notify_modify_apart
    (notified : gateNotify platform noObservers (.modify interface) world = .ok (ret, next)) :
    Apart interface world next := by
  cases (gate_notify_modify_ok_iff ..).mp notified with
  | inl handled =>
      obtain ⟨_, _, rehashed, rfl⟩ := handled
      exact apart_rehashed rehashed _
  | inr silent =>
      rw [silent.2.2]
      exact apart_refl interface world

theorem notify_reload_avoids (within : Within world.store)
    (members : MembersHeld world.objects world.store) (held : Held (world.objects interface)) :
    Avoids MemoryFault (gateNotify platform noObservers (.reload interface) world) := by
  unfold gateNotify
  split
  · refine Avoids.bind ?_ fun _ _ => avoids_ok _
    exact (rehash_avoids within members held).bind fun _ _ => avoids_ok _
  · exact avoids_ok _

theorem notify_modify_avoids (within : Within world.store)
    (members : MembersHeld world.objects world.store) (held : Held (world.objects interface)) :
    Avoids MemoryFault (gateNotify platform noObservers (.modify interface) world) := by
  unfold gateNotify
  split
  · refine Avoids.bind ?_ fun _ _ => avoids_ok _
    exact (rehash_avoids within members held).bind fun _ _ => avoids_ok _
  · exact avoids_ok _

theorem reload_apart (done : ifaceReload platform interface world = .ok (ret, next)) :
    Apart interface world next := by
  obtain ⟨object, kernel, err, loaded, _⟩ := reload_loads platform interface world
  obtain ⟨_, finished, done⟩ := (bind_ok_iff ..).mp done
  obtain ⟨_, rfl⟩ := (iface_fini_ok_iff ..).mp finished
  rw [loaded] at done
  have filled := @apart_answered _ _ _ interface world object kernel err
  by_cases failed : err ≠ 0
  · simp only [if_pos failed] at done
    cases done
    exact filled.set_object _
  · simp only [if_neg failed] at done
    obtain ⟨⟨code, after⟩, notified, done⟩ := (bind_ok_iff ..).mp done
    have both := filled.trans (notify_reload_apart notified)
    simp only at done
    split at done
    · cases done
      exact both.set_object _
    · cases done
      exact both

theorem reload_avoids (within : Within world.store)
    (members : MembersHeld world.objects world.store) (held : Held (world.objects interface)) :
    Avoids MemoryFault (ifaceReload platform interface world) := by
  obtain ⟨object, kernel, err, loaded, fresh⟩ := reload_loads platform interface world
  refine (fini_avoids held).bind fun finished freed => ?_
  obtain ⟨_, rfl⟩ := (iface_fini_ok_iff ..).mp freed
  rw [loaded]
  refine avoids_if (fun _ => avoids_ok _) fun passed => ?_
  have filled := fresh (not_not.mp passed)
  have self : (answered interface world object kernel err).objects interface = object :=
    Function.update_self ..
  have avoids : Avoids MemoryFault (gateNotify platform noObservers (.reload interface)
      (answered interface world object kernel err)) := by
    apply notify_reload_avoids
    · exact within
    · exact members_held_update members filled
    · rw [self]
      exact filled
  exact avoids.bind fun _ _ => avoids_if (fun _ => avoids_ok _) fun _ => avoids_ok _

theorem sync_apart (done : ifaceSync platform interface world = .ok (ret, next)) :
    Apart interface world next := by
  unfold ifaceSync at done
  split at done
  · cases done
    exact apart_refl interface world
  · cases done
    exact apart_refl interface world
  · exact reload_apart done

theorem sync_avoids (within : Within world.store)
    (members : MembersHeld world.objects world.store) (held : Held (world.objects interface)) :
    Avoids MemoryFault (ifaceSync platform interface world) := by
  unfold ifaceSync
  split
  · exact avoids_ok _
  · exact avoids_ok _
  · exact reload_avoids within members held

theorem set_apart {setter : Setter}
    (done : ifaceSet platform setter interface world = .ok (ret, next)) :
    Apart interface world next := by
  obtain ⟨_, middle, synced, outcome⟩ := iface_set_ok platform interface world done
  have apart := sync_apart synced
  cases outcome with
  | inl failed => exact failed.2.2 ▸ apart
  | inr staged =>
      obtain ⟨_, object, _, rfl⟩ := staged
      exact apart.set_object object

theorem set_avoids (within : Within world.store)
    (members : MembersHeld world.objects world.store) (held : Held (world.objects interface))
    (setter : Setter) : Avoids MemoryFault (ifaceSet platform setter interface world) := by
  refine (sync_avoids within members held).bind fun ⟨synced, middle⟩ done =>
    avoids_if (fun _ => avoids_ok _) fun passed => ?_
  have zero := not_not.mp passed
  subst zero
  have still := synced_held (sync_synced done) held
  exact (stage_avoids still setter).bind fun _ _ => avoids_ok _

theorem coherent_apart {value : Except Int Iface}
    (done : ifaceCoherent platform id interface world = .ok (value, next)) :
    Apart interface world next := by
  obtain ⟨_, synced, _⟩ := iface_coherent_ok platform interface world done
  exact sync_apart synced

theorem coherent_avoids (within : Within world.store)
    (members : MembersHeld world.objects world.store) (held : Held (world.objects interface)) :
    Avoids MemoryFault (ifaceCoherent platform id interface world) :=
  (sync_avoids within members held).bind fun _ _ =>
    avoids_if (fun _ => avoids_ok _) fun _ => avoids_ok _

theorem apply_apart (done : ifaceApply platform interface world = .ok (ret, next)) :
    Apart interface world next := by
  cases (iface_apply_ok_iff ..).mp done with
  | idle => exact ⟨fun _ _ => rfl, rfl, rfl, rfl, id⟩
  | refused => exact (apart_sent _ _ _).set_object _
  | applied _ _ _ notified =>
      exact ((apart_sent _ _ _).trans (notify_modify_apart notified)).set_object _
  | clashed _ _ _ notified =>
      exact ((apart_sent _ _ _).trans (notify_modify_apart notified)).set_object _

theorem apply_avoids (within : Within world.store)
    (members : MembersHeld world.objects world.store) (held : Held (world.objects interface)) :
    Avoids MemoryFault (ifaceApply platform interface world) := by
  unfold ifaceApply
  refine avoids_if (fun _ => ?_) fun _ => avoids_ok _
  refine (setlink_req_avoids held).bind fun request _ => ?_
  refine avoids_if (fun _ => avoids_ok _) fun _ => ?_
  have avoids : Avoids MemoryFault (gateNotify platform noObservers (.modify interface)
      (gateSetlink platform request (world.record (.called .apply
        (world.objects interface).idx (world.objects interface).state))).2) := by
    apply notify_modify_avoids
    · exact within
    · exact members
    · exact held
  exact avoids.bind fun _ _ => avoids_if (fun _ => avoids_ok _) fun _ => avoids_ok _

end Calls

section Enrolment

variable {NameBucket IndexBucket Kstate : Type}
  {platform : Platform NameBucket IndexBucket Kstate} {interface : Addr}
  {world : World NameBucket IndexBucket Kstate}

theorem may_register_avoids (within : Within world.store)
    (members : MembersHeld world.objects world.store) (text : CString) :
    Avoids MemoryFault
        (storeMayRegisterIfaceName platform.hash world.objects world.store text) ∧
      Avoids MemoryFault
        (storeMayRegisterIfaceAlias platform.hash world.objects world.store text) := by
  constructor
  · apply may_register_name_avoids
    intro bucket hndl chained
    exact members hndl (within.nameh bucket hndl chained)
  · apply may_register_alias_avoids
    intro bucket hndl chained
    exact members hndl (within.aliash bucket hndl chained)

variable [DecidableEq NameBucket] [DecidableEq IndexBucket]

theorem enroll_avoids (within : Within world.store)
    (members : MembersHeld world.objects world.store) (held : Held (world.objects interface)) :
    Avoids MemoryFault (storeEnroll platform interface world) := by
  have linked : Avoids MemoryFault (storeEnrollIface platform.hash world.objects
      ⟨world.next, interface⟩ world.store) := by
    refine (may_register_avoids within members _).1.bind fun mayName _ => ?_
    split
    · exact avoids_ok _
    · split
      · exact avoids_ok _
      · split
        · exact avoids_ok _
        · rename_i pointer present
          refine (read_avoids (held.ifalias pointer present)).bind fun text _ => ?_
          refine (may_register_avoids within members text).2.bind fun mayAlias _ => ?_
          split <;> exact avoids_ok _
  exact linked.bind fun _ _ => avoids_if (fun _ => avoids_ok _) fun _ => avoids_ok _

theorem on_new_iface_avoids (within : Within world.store)
    (members : MembersHeld world.objects world.store) (link : GetlinkRsp) :
    Avoids MemoryFault (storeOnNewIface platform link world) := by
  unfold storeOnNewIface
  split
  · exact avoids_ok _
  · refine (may_register_avoids within members _).1.bind fun mayName _ => ?_
    split
    · exact avoids_ok _
    · split
      · exact avoids_ok _
      · rename_i text _
        refine (may_register_avoids within members text).2.bind fun mayAlias _ => ?_
        split <;> exact avoids_ok _

theorem notify_new_avoids (within : Within world.store)
    (members : MembersHeld world.objects world.store) (link : GetlinkRsp) :
    Avoids MemoryFault (gateNotify platform noObservers (.new link) world) := by
  unfold gateNotify
  split
  · refine Avoids.bind ?_ fun _ _ => avoids_ok _
    exact (on_new_iface_avoids within members link).bind fun _ _ => avoids_ok _
  · exact avoids_ok _

end Enrolment

theorem release_avoids {ifaces : List Hndl} {objects : Objects}
    (single : (ifaces.map Hndl.iface).Nodup) (held : ∀ hndl ∈ ifaces, Held (objects hndl.iface)) :
    Avoids MemoryFault (storeRelease ifaces objects) := by
  induction ifaces generalizing objects with
  | nil => exact avoids_ok _
  | cons hndl rest ih =>
      obtain ⟨absent, later⟩ := List.nodup_cons.mp single
      refine (fini_avoids (held hndl (by simp))).bind fun object _ => ?_
      apply ih later
      intro other member
      have different : other.iface ≠ hndl.iface := by
        intro same
        exact absent (same ▸ List.mem_map_of_mem member)
      rw [Function.update_of_ne different]
      exact held other (by simp [member])

end Nlif.StringAccess
