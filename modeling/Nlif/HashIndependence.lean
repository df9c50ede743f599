import Nlif.StoreIdentity
import Nlif.StoreRefinement

/-!
# Runs under two choices of hash functions

The library over the plain store is the reference: it has no bucket two strings
could meet in. A run of it whose steps look up clear strings only is, call for
call and value for value, a run of the library under any hash functions. Where a
string is not clear, registration under one choice of hash functions refuses what
it accepts under another.
-/

namespace Nlif.HashIndependence

open LinkModel IfaceModel FaultWalk FaultRelation BucketTable RefiledTable StoreModel StoreRehash
  GateModel GateSpec StoreInvariant LabelledRun LibraryRun StoreRefinement

set_option autoImplicit false

variable {NameBucket IndexBucket Kstate : Type}

abbrev PlainWorld (Kstate : Type) := World CString UInt32 Kstate

def plainly (kernel : Kernel Kstate) : Platform CString UInt32 Kstate := ⟨plainHashing, kernel⟩

def refile (plain : PlainWorld Kstate) (store : Store NameBucket IndexBucket) :
    World NameBucket IndexBucket Kstate where
  objects := plain.objects
  next := plain.next
  store := store
  gate := plain.gate
  kernel := plain.kernel
  trace := plain.trace

section Worlds

variable [DecidableEq NameBucket] [DecidableEq IndexBucket]

def Coupled (hash : Hashing NameBucket IndexBucket) (plain : PlainWorld Kstate)
    (world : World NameBucket IndexBucket Kstate) : Prop :=
  ∃ store, world = refile plain store ∧ Refined hash plain.store store

/-- The same value, with coupled worlds. -/
def Agreed {Value : Type} (hash : Hashing NameBucket IndexBucket)
    (result : Value × PlainWorld Kstate)
    (other : Value × World NameBucket IndexBucket Kstate) : Prop :=
  other.1 = result.1 ∧ Coupled hash result.2 other.2

variable {hash : Hashing NameBucket IndexBucket} {kernel : Kernel Kstate}
  {plain : PlainWorld Kstate} {store : Store NameBucket IndexBucket}

theorem agreed_refile {Value : Type} (value : Value) (refined : Refined hash plain.store store) :
    Agreed hash (value, plain) (value, refile plain store) :=
  ⟨rfl, store, rfl, refined⟩

theorem agreed_bind {Value : Type} {first : Except Fault (Int × PlainWorld Kstate)}
    {second : Except Fault (Int × World NameBucket IndexBucket Kstate)}
    {left : Int × PlainWorld Kstate → Except Fault (Value × PlainWorld Kstate)}
    {right : Int × World NameBucket IndexBucket Kstate →
      Except Fault (Value × World NameBucket IndexBucket Kstate)}
    (together : Together (Agreed hash) first second)
    (goesOn : ∀ ret next later, first = .ok (ret, next) → Refined hash next.store later →
      Together (Agreed hash) (left (ret, next)) (right (ret, refile next later))) :
    Together (Agreed hash) (first >>= left) (second >>= right) := by
  apply together.bind
  intro ⟨ret, next⟩ ⟨other, after⟩ done _ ⟨same, later, filed, refined⟩
  obtain rfl : other = ret := same
  obtain rfl : after = refile next later := filed
  exact goesOn other next later done refined

/-- The strings a link is registered with are clear, unless its index is taken. -/
def NewClear (objects : Objects) (plain : PlainStore) (link : GetlinkRsp) : Prop :=
  storeMayRegisterIfaceIndex plainHashing objects plain link.ifiIndex = true →
    RegisterClear objects plain link.ifiIndex link.ifname link.heldAlias

def HandlerClear (objects : Objects) (plain : PlainStore) (rename realias : Bool)
    (interface : Addr) : Prop :=
  ∀ hndl, storeSearchIfaceHndlByindex plainHashing objects plain (objects interface).idx =
      some hndl →
    RehashClear objects plain rename realias (objects interface) hndl

def EventClear (objects : Objects) (plain : PlainStore) : EventData → Prop
  | .change _ => True
  | .modify interface =>
      HandlerClear objects plain (.name ∈ (objects interface).dirtyFields)
        (.ifalias ∈ (objects interface).dirtyFields) interface
  | .new link => NewClear objects plain link
  | .reload interface => HandlerClear objects plain true true interface

theorem store_on_iface_change_coupled
    (linked : Linked plainHashing plain.objects plain.next plain.store)
    (refined : Refined hash plain.store store) (link : GetlinkRsp) :
    Together (Coupled hash) (storeOnIfaceChange (plainly kernel) noObservers link plain)
      (storeOnIfaceChange ⟨hash, kernel⟩ noObservers link (refile plain store)) := by
  have found : storeFindIfaceByindex hash (refile plain store).objects (refile plain store).store
      link.ifiIndex = storeFindIfaceByindex plainHashing plain.objects plain.store link.ifiIndex :=
    refined.find_byindex linked link.ifiIndex
  simp only [storeOnIfaceChange, found, plainly]
  cases storeFindIfaceByindex plainHashing plain.objects plain.store link.ifiIndex with
  | none => exact .done ⟨store, rfl, refined⟩
  | some interface =>
      simp only [noObservers, ite_self]
      exact .done ⟨store, rfl, refined⟩

theorem store_enroll_link_coupled (refined : Refined hash plain.store store) (link : GetlinkRsp)
    (ifalias : Option CString) :
    Coupled hash (storeEnrollLink (plainly kernel) link (ifalias.map plainHashing.str) plain)
      (storeEnrollLink ⟨hash, kernel⟩ link (ifalias.map hash.str) (refile plain store)) :=
  ⟨_, rfl, refined.link ⟨plain.next + 1, plain.next⟩ link.ifiIndex link.ifname ifalias⟩

theorem store_on_new_iface_coupled
    (linked : Linked plainHashing plain.objects plain.next plain.store)
    (refined : Refined hash plain.store store) {link : GetlinkRsp}
    (clear : NewClear plain.objects plain.store link) :
    Together (Coupled hash) (storeOnNewIface (plainly kernel) link plain)
      (storeOnNewIface ⟨hash, kernel⟩ link (refile plain store)) := by
  have unchanged : Coupled hash plain (refile plain store) := ⟨store, rfl, refined⟩
  have sameIndex : storeMayRegisterIfaceIndex hash (refile plain store).objects
      (refile plain store).store link.ifiIndex =
        storeMayRegisterIfaceIndex plainHashing plain.objects plain.store link.ifiIndex :=
    refined.may_register_index linked link.ifiIndex
  by_cases free : storeMayRegisterIfaceIndex plainHashing plain.objects plain.store
    link.ifiIndex = true
  · have strings := clear free
    have sameName : storeMayRegisterIfaceName hash (refile plain store).objects
        (refile plain store).store link.ifname =
          storeMayRegisterIfaceName plainHashing plain.objects plain.store link.ifname :=
      refined.may_register_name strings.onName
    simp only [storeOnNewIface, plainly, sameIndex, free, Bool.not_true, Bool.false_eq_true,
      if_false, sameName]
    apply together_bind_same
    intro mayName named
    cases mayName with
    | false => exact .done unchanged
    | true =>
        rcases held : link.heldAlias with _ | text
        · exact .done (store_enroll_link_coupled refined link none)
        · have sameAlias : storeMayRegisterIfaceAlias hash (refile plain store).objects
              (refile plain store).store text =
                storeMayRegisterIfaceAlias plainHashing plain.objects plain.store text :=
            refined.may_register_alias (strings.onAlias named free text held)
          simp only [Bool.not_true, Bool.false_eq_true, if_false, sameAlias]
          apply together_bind_same
          intro mayAlias _
          cases mayAlias with
          | false => exact .done unchanged
          | true => exact .done (store_enroll_link_coupled refined link (some text))
  · have taken := eq_false_of_ne_true free
    simp only [storeOnNewIface, plainly, sameIndex, taken, Bool.not_false, if_true]
    exact .done unchanged

theorem store_on_event_agreed
    (linked : Linked plainHashing plain.objects plain.next plain.store)
    (refined : Refined hash plain.store store) {data : EventData}
    (clear : EventClear plain.objects plain.store data) :
    Together (Agreed hash) (storeOnEvent (plainly kernel) noObservers data plain)
      (storeOnEvent ⟨hash, kernel⟩ noObservers data (refile plain store)) := by
  cases data with
  | change link =>
      refine (store_on_iface_change_coupled linked refined link).bind ?_
      exact fun _ _ _ _ coupled => .done ⟨rfl, coupled⟩
  | modify interface =>
      refine (store_rehash_paired linked refined _ _ interface clear).bind ?_
      exact fun _ _ _ _ paired => .done ⟨paired.1, _, rfl, paired.2⟩
  | new link =>
      refine (store_on_new_iface_coupled linked refined clear).bind ?_
      exact fun _ _ _ _ coupled => .done ⟨rfl, coupled⟩
  | reload interface =>
      refine (store_rehash_paired linked refined true true interface clear).bind ?_
      exact fun _ _ _ _ paired => .done ⟨paired.1, _, rfl, paired.2⟩

theorem gate_notify_agreed (kernel : Kernel Kstate) (plain : PlainWorld Kstate) (data : EventData)
    (linked : Linked plainHashing plain.objects plain.next plain.store)
    (refined : Refined hash plain.store store)
    (clear : EventClear plain.objects plain.store data) :
    Together (Agreed hash) (gateNotify (plainly kernel) noObservers data plain)
      (gateNotify ⟨hash, kernel⟩ noObservers data (refile plain store)) := by
  unfold gateNotify
  by_cases subscribed : plain.gate.notif = true
  · rw [if_pos subscribed, if_pos (show (refile plain store).gate.notif = true from subscribed)]
    apply agreed_bind (store_on_event_agreed linked refined clear)
    intro ret next later _ refinedLater
    exact .done ⟨rfl, later, rfl, refinedLater⟩
  · rw [if_neg subscribed, if_neg (show ¬ (refile plain store).gate.notif = true from subscribed)]
    exact .done (agreed_refile 0 refined)

/-- Where the kernel answers with a link, its strings are clear to re-hash. -/
def ReloadClear (kernel : Kernel Kstate) (interface : Addr) (plain : PlainWorld Kstate) : Prop :=
  ∀ link, gateGetlink (kernel.getlink (plain.objects interface).idx plain.kernel).1 = .ok link →
    HandlerClear (Function.update plain.objects interface (ifaceFill link)) plain.store true true
      interface

/-- Where the kernel accepts what is staged, the staged strings are clear to re-hash. -/
def ApplyClear (kernel : Kernel Kstate) (interface : Addr) (plain : PlainWorld Kstate) : Prop :=
  (plain.objects interface).state = .dirty →
    ∀ request, ifaceSetlinkReq (plain.objects interface) = .ok request →
      (kernel.setlink request plain.kernel).1 = none →
        EventClear plain.objects plain.store (.modify interface)

def SyncClear (kernel : Kernel Kstate) (interface : Addr) (plain : PlainWorld Kstate) : Prop :=
  (plain.objects interface).state = .invalid → ReloadClear kernel interface plain

variable {interface : Addr}

theorem iface_reload_agreed (reports : KernelReports kernel)
    (linked : Linked plainHashing plain.objects plain.next plain.store)
    (refined : Refined hash plain.store store) (clear : ReloadClear kernel interface plain) :
    Together (Agreed hash) (ifaceReload (plainly kernel) interface plain)
      (ifaceReload ⟨hash, kernel⟩ interface (refile plain store)) := by
  unfold ifaceReload
  apply together_bind_same
  intro object fini
  obtain ⟨_, rfl⟩ := (iface_fini_ok_iff ..).mp fini
  rcases asked : kernel.getlink (plain.objects interface).idx plain.kernel with ⟨answer, state⟩
  rcases outcome : gateGetlink answer with err | link
  · have loaded := iface_load_byidx_error (plainly kernel) interface plain asked outcome
      (released (plain.objects interface)) rfl
    have loadedHashed := iface_load_byidx_error ⟨hash, kernel⟩ interface (refile plain store) asked
      outcome (released (plain.objects interface)) rfl
    simp only [loaded, loadedHashed, ne_eq, gate_getlink_error outcome, not_false_eq_true, if_true]
    exact .done (agreed_refile err refined)
  · have loaded := iface_load_byidx_link (plainly kernel) interface plain asked outcome
      (released (plain.objects interface)) rfl
    have loadedHashed := iface_load_byidx_link ⟨hash, kernel⟩ interface (refile plain store) asked
      outcome (released (plain.objects interface)) rfl
    obtain ⟨rfl, _⟩ := gate_getlink_ok outcome
    obtain ⟨idx, reported⟩ := reports.getlink _ _ _ _ asked
    have linkedAfter : Linked plainHashing
        (Function.update plain.objects interface (ifaceFill link)) plain.next plain.store :=
      linked.replace idx (sound_fill reported)
    have clearAfter := clear link (by rw [asked]; exact outcome)
    have event := gate_notify_agreed kernel (answered interface plain (ifaceFill link) state 0)
      (.reload interface) linkedAfter refined clearAfter
    simp only [loaded, loadedHashed, ne_eq, not_true_eq_false, if_false]
    apply agreed_bind event
    intro ret next later _ refinedLater
    by_cases accepted : ret = 0
    · simp only [accepted, not_true_eq_false, if_false]
      exact .done (agreed_refile 0 refinedLater)
    · simp only [accepted, not_false_eq_true, if_true]
      exact .done (agreed_refile ret refinedLater)

theorem iface_sync_agreed (reports : KernelReports kernel)
    (linked : Linked plainHashing plain.objects plain.next plain.store)
    (refined : Refined hash plain.store store) (clear : SyncClear kernel interface plain) :
    Together (Agreed hash) (ifaceSync (plainly kernel) interface plain)
      (ifaceSync ⟨hash, kernel⟩ interface (refile plain store)) := by
  have reloads : (plain.objects interface).state = .invalid → Together (Agreed hash)
      (ifaceReload (plainly kernel) interface plain)
      (ifaceReload ⟨hash, kernel⟩ interface (refile plain store)) :=
    fun invalid => iface_reload_agreed reports linked refined (clear invalid)
  unfold ifaceSync
  simp only [refile]
  rcases state : (plain.objects interface).state with _ | _ | _
  · exact reloads state
  · exact .done (agreed_refile 0 refined)
  · exact .done (agreed_refile 0 refined)

theorem iface_set_agreed (reports : KernelReports kernel)
    (linked : Linked plainHashing plain.objects plain.next plain.store)
    (refined : Refined hash plain.store store) (clear : SyncClear kernel interface plain)
    (setter : Setter) :
    Together (Agreed hash) (ifaceSet (plainly kernel) setter interface plain)
      (ifaceSet ⟨hash, kernel⟩ setter interface (refile plain store)) := by
  unfold ifaceSet
  apply agreed_bind (iface_sync_agreed reports linked refined clear)
  intro ret next later _ refinedLater
  by_cases synced : ret = 0
  · simp only [synced, ne_eq, not_true_eq_false, if_false]
    apply together_bind_same
    intro ⟨staged, object⟩ _
    exact .done (agreed_refile staged refinedLater)
  · simp only [synced, ne_eq, not_false_eq_true, if_true]
    exact .done (agreed_refile ret refinedLater)

theorem iface_coherent_agreed {Value : Type} (reports : KernelReports kernel)
    (linked : Linked plainHashing plain.objects plain.next plain.store)
    (refined : Refined hash plain.store store) (clear : SyncClear kernel interface plain)
    (read : Iface → Value) :
    Together (Agreed hash) (ifaceCoherent (plainly kernel) read interface plain)
      (ifaceCoherent ⟨hash, kernel⟩ read interface (refile plain store)) := by
  unfold ifaceCoherent
  apply agreed_bind (iface_sync_agreed reports linked refined clear)
  intro ret next later _ refinedLater
  by_cases synced : ret = 0
  · simp only [synced, ne_eq, not_true_eq_false, if_false]
    exact .done (agreed_refile _ refinedLater)
  · simp only [synced, ne_eq, not_false_eq_true, if_true]
    exact .done (agreed_refile _ refinedLater)

theorem iface_apply_agreed
    (linked : Linked plainHashing plain.objects plain.next plain.store)
    (refined : Refined hash plain.store store) (clear : ApplyClear kernel interface plain) :
    Together (Agreed hash) (ifaceApply (plainly kernel) interface plain)
      (ifaceApply ⟨hash, kernel⟩ interface (refile plain store)) := by
  unfold ifaceApply
  by_cases dirty : (plain.objects interface).state = .dirty
  · simp only [refile, dirty, if_true]
    apply together_bind_same
    intro request built
    rcases asked : kernel.setlink request plain.kernel with ⟨answer, state⟩
    simp only [gateSetlink, World.record, plainly, asked]
    cases answer with
    | some error =>
        have negative := ynl_err_negative error
        have failed : setlinkRet (some error) ≠ 0 := by
          simp only [setlinkRet]
          omega
        simp only [ne_eq, failed, not_false_eq_true, if_true]
        exact .done ⟨rfl, _, rfl, refined⟩
    | none =>
        have clearAfter := clear dirty request built (by rw [asked])
        have event := gate_notify_agreed kernel (sent interface plain request state 0)
          (.modify interface) linked refined clearAfter
        simp only [sent, dirty] at event
        simp only [setlinkRet, ne_eq, not_true_eq_false, if_false]
        apply agreed_bind event
        intro ret next later _ refinedLater
        by_cases accepted : ret = 0
        · simp only [accepted, not_true_eq_false, if_false]
          exact .done ⟨rfl, _, rfl, refinedLater⟩
        · simp only [accepted, not_false_eq_true, if_true]
          exact .done ⟨rfl, _, rfl, refinedLater⟩
  · simp only [refile, dirty, if_false]
    exact .done ⟨rfl, _, rfl, refined⟩

theorem store_enroll_agreed
    (linked : Linked plainHashing plain.objects plain.next plain.store)
    (refined : Refined hash plain.store store)
    (clear : RegisterClear plain.objects plain.store (plain.objects interface).idx
      (plain.objects interface).name ((plain.objects interface).ifalias.map HeapStr.text)) :
    Together (Agreed hash) (storeEnroll (plainly kernel) interface plain)
      (storeEnroll ⟨hash, kernel⟩ interface (refile plain store)) := by
  unfold storeEnroll
  refine (store_enroll_iface_paired ⟨plain.next, interface⟩ linked refined clear).bind ?_
  rintro ⟨ret, next⟩ ⟨other, after⟩ _ _ ⟨same, refinedLater⟩
  obtain rfl : other = ret := same
  by_cases accepted : other = 0
  · simp only [accepted, ne_eq, not_true_eq_false, if_false]
    exact .done ⟨rfl, _, rfl, refinedLater⟩
  · simp only [accepted, ne_eq, not_false_eq_true, if_true]
    exact .done (agreed_refile other refined)

theorem store_withdraw_agreed
    (linked : Linked plainHashing plain.objects plain.next plain.store)
    (refined : Refined hash plain.store store) (interface : Addr) :
    Agreed hash (storeWithdraw (plainly kernel) interface plain)
      (storeWithdraw ⟨hash, kernel⟩ interface (refile plain store)) := by
  have paired := store_withdraw_iface_paired linked refined interface
  exact ⟨paired.1, _, rfl, paired.2⟩

theorem store_clear_coupled (refined : Refined hash plain.store store) :
    Together (Coupled hash) (storeClear plain) (storeClear (refile plain store)) := by
  unfold storeClear
  simp only [refile, refined.ifaces]
  apply together_bind_same
  intro objects _
  exact .done ⟨_, rfl, refined_reinit hash⟩

def LoadClear (kernel : Kernel Kstate) : List GetlinkRsp → PlainWorld Kstate → Prop
  | [], _ => True
  | link :: rest, plain =>
      if gateIslinkValid link ≠ 0 then LoadClear kernel rest plain
      else
        NewClear plain.objects plain.store link ∧
          ∀ next, gateNotify (plainly kernel) noObservers (.new link) plain = .ok (0, next) →
            LoadClear kernel rest next

theorem gate_load_each_agreed (links : List GetlinkRsp) (reported : ∀ link ∈ links, Reported link)
    (kept : Kept (plainly kernel) plain) (refined : Refined hash plain.store store)
    (clear : LoadClear kernel links plain) :
    Together (Agreed hash) (gateLoadEach (plainly kernel) links plain)
      (gateLoadEach ⟨hash, kernel⟩ links (refile plain store)) := by
  induction links generalizing plain store with
  | nil => exact .done (agreed_refile 0 refined)
  | cons link rest ih =>
      have restReported := fun other there => reported other (List.mem_cons_of_mem link there)
      unfold gateLoadEach
      unfold LoadClear at clear
      by_cases skipped : gateIslinkValid link ≠ 0
      · rw [if_pos skipped] at clear
        rw [if_pos skipped, if_pos skipped]
        exact ih restReported kept refined clear
      · rw [if_neg skipped] at clear
        rw [if_neg skipped, if_neg skipped]
        have event := gate_notify_agreed kernel plain (.new link) kept.linked refined clear.1
        apply agreed_bind event
        intro ret next later done refinedLater
        by_cases accepted : ret = 0
        · subst accepted
          simp only [ne_eq, not_true_eq_false, if_false]
          have keptLater := new_link_kept kept (reported link (by simp)) done
          exact ih restReported keptLater refinedLater (clear.2 next done)
        · simp only [accepted, ne_eq, not_false_eq_true, if_true]
          exact .done (agreed_refile ret refinedLater)

def DumpClear (kernel : Kernel Kstate) (plain : PlainWorld Kstate) : Prop :=
  ∀ links state, kernel.dump plain.kernel = (.ok links, state) →
    LoadClear kernel links { plain with kernel := state }

theorem store_load_agreed (reports : KernelReports kernel) (kept : Kept (plainly kernel) plain)
    (refined : Refined hash plain.store store) (clear : DumpClear kernel plain) :
    Together (Agreed hash) (storeLoad (plainly kernel) plain)
      (storeLoad ⟨hash, kernel⟩ (refile plain store)) := by
  unfold storeLoad gateLoadLinks
  rcases asked : kernel.dump plain.kernel with ⟨answer, state⟩
  simp only [plainly, refile, asked]
  rcases answer with error | _ | ⟨link, rest⟩
  · exact .done ⟨rfl, _, rfl, refined⟩
  · exact .done ⟨rfl, _, rfl, refined⟩
  · have moved : Kept (plainly kernel) { plain with kernel := state } :=
      ⟨kept.linked, kept.subscribed, kept.indexed⟩
    exact gate_load_each_agreed (link :: rest) (reports.dump _ _ _ asked) moved refined
      (clear _ _ asked)

theorem store_reload_agreed (reports : KernelReports kernel) (kept : Kept (plainly kernel) plain)
    (refined : Refined hash plain.store store)
    (clear : ∀ cleared, storeClear plain = .ok cleared → DumpClear kernel cleared) :
    Together (Agreed hash) (storeReload (plainly kernel) plain)
      (storeReload ⟨hash, kernel⟩ (refile plain store)) := by
  unfold storeReload
  refine (store_clear_coupled refined).bind ?_
  rintro next _ done _ ⟨later, rfl, refinedLater⟩
  exact store_load_agreed reports (clear_kept kept done).1 refinedLater (clear next done)

theorem gate_notify_changes_agreed (notifications : List Notification)
    (kept : Kept (plainly kernel) plain) (refined : Refined hash plain.store store) :
    Together (Agreed hash) (gateNotifyChanges (plainly kernel) noObservers notifications plain)
      (gateNotifyChanges ⟨hash, kernel⟩ noObservers notifications (refile plain store)) := by
  induction notifications generalizing plain store with
  | nil => exact .done (agreed_refile 0 refined)
  | cons notification rest ih =>
      unfold gateNotifyChanges
      by_cases skipped : (!notification.newlink || gateIslinkValid notification.link ≠ 0) = true
      · rw [if_pos skipped, if_pos skipped]
        exact ih kept refined
      · rw [if_neg skipped, if_neg skipped]
        have event := gate_notify_agreed kernel plain (.change notification.link) kept.linked
          refined trivial
        apply agreed_bind event
        intro ret next later done refinedLater
        by_cases accepted : ret = 0
        · simp only [accepted, ne_eq, not_true_eq_false, if_false]
          have keptLater := change_kept (fun _ _ _ kept _ observed => by cases observed; exact kept)
            kept done
          exact ih keptLater refinedLater
        · simp only [accepted, ne_eq, not_false_eq_true, if_true]
          exact .done (agreed_refile ret refinedLater)

/-- The strings a call registers, re-hashes or looks up are clear in the plain store. -/
def opClear (kernel : Kernel Kstate) (plain : PlainWorld Kstate) : Op → Prop
  | .enroll interface =>
      RegisterClear plain.objects plain.store (plain.objects interface).idx
        (plain.objects interface).name ((plain.objects interface).ifalias.map HeapStr.text)
  | .load => DumpClear kernel plain
  | .reload => ∀ cleared, storeClear plain = .ok cleared → DumpClear kernel cleared
  | .newLink link => NewClear plain.objects plain.store link
  | .set _ interface | .coherent interface => SyncClear kernel interface plain
  | .apply interface => ApplyClear kernel interface plain
  | .ifaceReload interface => ReloadClear kernel interface plain
  | .findByname name =>
      linkValidateName name > 0 → NameClear plain.objects name plain.store.nameh
  | .findByalias ifalias =>
      linkValidateAlias (some ifalias) > 0 → AliasClear plain.objects ifalias plain.store.aliash
  | .findBystrid strid =>
      (linkValidateName strid > 0 → NameClear plain.objects strid plain.store.nameh) ∧
      (storeFindIfaceByname plainHashing plain.objects plain.store strid = none →
        linkValidateAlias (some strid) > 0 → AliasClear plain.objects strid plain.store.aliash)
  | .create _ | .withdraw _ | .clear | .notify _ | .findByindex _ => True

theorem step_agreed (reports : KernelReports kernel) (kept : Kept (plainly kernel) plain)
    (refined : Refined hash plain.store store) {op : Op} (clear : opClear kernel plain op) :
    Together (Agreed hash) (step (plainly kernel) op plain)
      (step ⟨hash, kernel⟩ op (refile plain store)) := by
  have coded : ∀ {first : Except Fault (Int × PlainWorld Kstate)}
      {second : Except Fault (Int × World NameBucket IndexBucket Kstate)},
      Together (Agreed hash) first second → Together (Agreed hash) (code first) (code second) := by
    intro first second together
    refine together.map fun result other agreed => ⟨?_, agreed.2⟩
    exact congrArg Ret.code agreed.1
  have linked := kept.linked
  cases op with
  | create object => exact .done ⟨rfl, store, rfl, refined⟩
  | enroll interface => exact coded (store_enroll_agreed linked refined clear)
  | withdraw interface => exact coded (.done (store_withdraw_agreed linked refined interface))
  | clear =>
      exact coded ((store_clear_coupled refined).map fun _ _ coupled => ⟨rfl, coupled⟩)
  | load => exact coded (store_load_agreed reports kept refined clear)
  | reload => exact coded (store_reload_agreed reports kept refined clear)
  | newLink link => exact coded (gate_notify_agreed kernel plain (.new link) linked refined clear)
  | set setter interface => exact coded (iface_set_agreed reports linked refined clear setter)
  | coherent interface =>
      refine (iface_coherent_agreed reports linked refined clear id).map ?_
      exact fun result other agreed => ⟨congrArg Ret.read agreed.1, agreed.2⟩
  | apply interface => exact coded (iface_apply_agreed linked refined clear)
  | ifaceReload interface => exact coded (iface_reload_agreed reports linked refined clear)
  | notify notifications => exact coded (gate_notify_changes_agreed notifications kept refined)
  | findByname name =>
      exact .done ⟨congrArg Ret.found (refined.find_byname clear), store, rfl, refined⟩
  | findByindex index =>
      exact .done ⟨congrArg Ret.found (refined.find_byindex linked index), store, rfl, refined⟩
  | findByalias ifalias =>
      simp only [step, refile, refined.find_byalias clear]
      apply together_bind_same
      intro found _
      exact .done ⟨rfl, store, rfl, refined⟩
  | findBystrid strid =>
      simp only [step, refile, refined.find_bystrid clear.1 clear.2]
      apply together_bind_same
      intro found _
      exact .done ⟨rfl, store, rfl, refined⟩

theorem admits_refile (refined : Refined hash plain.store store) {op : Op}
    (admitted : admits plain op) : admits (refile plain store) op := by
  have enrolled : ∀ interface, Enrolled interface plain →
      Enrolled interface (refile plain store) := by
    rintro interface ⟨hndl, member, same⟩
    exact ⟨hndl, refined.ifaces.symm ▸ member, same⟩
  cases op with
  | load => exact refined.count.trans admitted
  | set setter interface => exact ⟨admitted.1, enrolled interface admitted.2⟩
  | withdraw interface | coherent interface | apply interface | ifaceReload interface =>
      exact enrolled interface admitted
  | create _ | enroll _ | newLink _ => exact admitted
  | clear | reload | notify _ | findByname _ | findByalias _ | findBystrid _ | findByindex _ =>
      trivial

structure Followed (hash : Hashing NameBucket IndexBucket) (kernel : Kernel Kstate)
    (plain : PlainWorld Kstate) (world : World NameBucket IndexBucket Kstate) : Prop where
  kept : Kept (plainly kernel) plain
  coupled : Coupled hash plain world

/-- A clear run of the plain library is a run under any hash functions. -/
theorem clear_run_followed (hash : Hashing NameBucket IndexBucket) (reports : KernelReports kernel)
    {objects : Objects} {start : Kstate} {log : List (Op × Ret)}
    (run : Run ((machine (plainly kernel)).given (opClear kernel)) (storeInit objects start) log
      plain) :
    ∃ world, Run (machine ⟨hash, kernel⟩) (storeInit objects start) log world ∧
      Followed hash kernel plain world := by
  refine run_simulation (Followed hash kernel)
    ⟨kept_init (plainly kernel) objects start, storeReinit, rfl, refined_reinit hash⟩ ?_ run
  rintro state _ op ret next ⟨kept, store, rfl, refined⟩ ⟨admitted, clear⟩ stepped
  obtain ⟨⟨other, after⟩, peerStepped, same, coupled⟩ :=
    (step_agreed reports kept refined clear).left_ok stepped
  obtain rfl : other = ret := same
  exact ⟨after, admits_refile refined admitted, peerStepped,
    step_kept reports kept admitted stepped, coupled⟩

end Worlds

section Choices

variable {OtherName OtherIndex : Type} [DecidableEq NameBucket] [DecidableEq IndexBucket]
  [DecidableEq OtherName] [DecidableEq OtherIndex]

structure Alike (left : World NameBucket IndexBucket Kstate)
    (right : World OtherName OtherIndex Kstate) : Prop where
  objects : right.objects = left.objects
  ifaces : right.store.ifaces = left.store.ifaces
  count : right.store.count = left.store.count
  next : right.next = left.next
  gate : right.gate = left.gate
  kernel : right.kernel = left.kernel
  trace : right.trace = left.trace

/-- Runs of the same calls under two choices of hash functions return the same. -/
def HashIndependent (kernel : Kernel Kstate) (first : Hashing NameBucket IndexBucket)
    (second : Hashing OtherName OtherIndex) : Prop :=
  ∀ objects start log other left right,
    Run (machine ⟨first, kernel⟩) (storeInit objects start) log left →
    Run (machine ⟨second, kernel⟩) (storeInit objects start) other right →
    log.map Prod.fst = other.map Prod.fst → log = other ∧ Alike left right

theorem followed_alike {first : Hashing NameBucket IndexBucket}
    {second : Hashing OtherName OtherIndex} {kernel : Kernel Kstate} {plain : PlainWorld Kstate}
    {left : World NameBucket IndexBucket Kstate} {right : World OtherName OtherIndex Kstate}
    (followedLeft : Followed first kernel plain left)
    (followedRight : Followed second kernel plain right) : Alike left right := by
  obtain ⟨_, leftStore, rfl, leftRefined⟩ := followedLeft
  obtain ⟨_, rightStore, rfl, rightRefined⟩ := followedRight
  exact
    { objects := rfl
      ifaces := rightRefined.ifaces.trans leftRefined.ifaces.symm
      count := rightRefined.count.trans leftRefined.count.symm
      next := rfl
      gate := rfl
      kernel := rfl
      trace := rfl }

/-- A call answers as it does on the plain store, also where it faults. -/
theorem followed_answer {hash : Hashing NameBucket IndexBucket} {kernel : Kernel Kstate}
    {plain : PlainWorld Kstate} {world : World NameBucket IndexBucket Kstate}
    (reports : KernelReports kernel) (followed : Followed hash kernel plain world) {op : Op}
    (clear : opClear kernel plain op) :
    Prod.fst <$> step ⟨hash, kernel⟩ op world = Prod.fst <$> step (plainly kernel) op plain := by
  obtain ⟨kept, store, rfl, refined⟩ := followed
  exact (step_agreed reports kept refined clear).read fun _ _ agreed => agreed.1

/-- Over whole runs: where every call of a sequence meets clear strings only, any
two choices of hash functions give the values of the plain store at every step and
end with the same interfaces in the same states. -/
theorem clear_runs_agree (first : Hashing NameBucket IndexBucket)
    (second : Hashing OtherName OtherIndex) {kernel : Kernel Kstate}
    (reports : KernelReports kernel) {objects : Objects} {start : Kstate}
    {log : List (Op × Ret)} {plain : PlainWorld Kstate}
    (run : Run ((machine (plainly kernel)).given (opClear kernel)) (storeInit objects start) log
      plain) :
    ∃ left right, Run (machine ⟨first, kernel⟩) (storeInit objects start) log left ∧
      Run (machine ⟨second, kernel⟩) (storeInit objects start) log right ∧
      Alike left right ∧ Alike plain left ∧
      ∀ op, opClear kernel plain op →
        Prod.fst <$> step ⟨first, kernel⟩ op left =
          Prod.fst <$> step ⟨second, kernel⟩ op right := by
  obtain ⟨left, leftRun, leftFollowed⟩ := clear_run_followed first reports run
  obtain ⟨right, rightRun, rightFollowed⟩ := clear_run_followed second reports run
  refine ⟨left, right, leftRun, rightRun, followed_alike leftFollowed rightFollowed, ?_,
    fun op clear => ?_⟩
  · obtain ⟨_, store, rfl, refined⟩ := leftFollowed
    exact ⟨rfl, refined.ifaces, refined.count, rfl, rfl, rfl, rfl⟩
  · exact (followed_answer reports leftFollowed clear).trans
      (followed_answer reports rightFollowed clear).symm

def collidingHashing : CodeHashing where
  str _ := djb2Hashing.str nameA
  index _ := djb2Hashing.index 0

def secondLink : GetlinkRsp := bareLink 2 nameC none

def renamedLink : GetlinkRsp := bareLink 1 nameAB none

/-- Two links share a bucket or do not, a third one is refused for its index, and the second
one is found. -/
theorem second_link_agrees :
    ∃ left right,
      Run (machine ⟨djb2Hashing, oneLinkKernel⟩) oneLinkInit
        [(.newLink aliasedLink, .code 0), (.newLink secondLink, .code 0),
          (.newLink renamedLink, .code 0), (.findByname nameC, .found (some 2))] left ∧
      Run (machine ⟨collidingHashing, oneLinkKernel⟩) oneLinkInit
        [(.newLink aliasedLink, .code 0), (.newLink secondLink, .code 0),
          (.newLink renamedLink, .code 0), (.findByname nameC, .found (some 2))] right ∧
      Alike left right ∧ left.store.count = 2 := by
  have secondReported : Reported secondLink := ⟨by constructor <;> decide, by decide⟩
  have renamedReported : Reported renamedLink := ⟨by constructor <;> decide, by decide⟩
  have first := (Run.start : Run ((machine (plainly oneLinkKernel)).given (opClear oneLinkKernel))
    (storeInit (fun _ => ifaceFill oneLink) ()) [] _).extend (.newLink aliasedLink) (.code 0)
    ⟨⟨aliased_link_reported, by decide⟩, fun _ =>
      ⟨clear_empty _ _, fun _ _ _ _ => clear_empty _ _⟩⟩ rfl
  have second := first.extend (.newLink secondLink) (.code 0) ⟨⟨secondReported, by decide⟩, fun _ =>
    { onName := fun other different hndl member => by
        rcases (mem_add ..).mp member with ⟨rfl, _⟩ | absent
        · exact .inl rfl
        · cases absent
      onAlias := fun _ _ _ absent => by cases absent }⟩ rfl
  have refused := second.extend (.newLink renamedLink) (.code 0)
    ⟨⟨renamedReported, by decide⟩, fun free => absurd free (by decide)⟩ rfl
  have found := refused.extend (.findByname nameC) (.found (some 2))
    ⟨trivial, fun _ other different hndl member => by
      rcases (mem_add ..).mp member with ⟨_, same⟩ | member
      · exact absurd same different
      · rcases (mem_add ..).mp member with ⟨rfl, _⟩ | absent
        · exact (by decide : nameA ≠ nameC)
        · cases absent⟩ rfl
  obtain ⟨left, right, leftRun, rightRun, alike, likewise, _⟩ :=
    clear_runs_agree djb2Hashing collidingHashing one_link_kernel_reports found
  exact ⟨left, right, leftRun, rightRun, alike, likewise.count⟩

/-- The link named as the alias of another one is refused in a shared bucket only. -/
theorem collision_observed : ¬ HashIndependent oneLinkKernel djb2Hashing collidingHashing := by
  intro independent
  have namesakeReported : Reported StoreIdentity.namesakeLink ∧
      gateIslinkValid StoreIdentity.namesakeLink = 0 :=
    ⟨⟨by constructor <;> decide, by decide⟩, by decide⟩
  have left := (((Run.start : Run (machine ⟨djb2Hashing, oneLinkKernel⟩) oneLinkInit [] _).extend
    (.newLink aliasedLink) (.code 0) ⟨aliased_link_reported, by decide⟩ rfl).extend
      (.newLink StoreIdentity.namesakeLink) (.code 0) namesakeReported rfl).extend
        (.findByname nameB) (.found (some 2)) trivial rfl
  have right := (((Run.start : Run (machine ⟨collidingHashing, oneLinkKernel⟩) oneLinkInit []
    _).extend (.newLink aliasedLink) (.code 0) ⟨aliased_link_reported, by decide⟩ rfl).extend
      (.newLink StoreIdentity.namesakeLink) (.code 0) namesakeReported rfl).extend
        (.findByname nameB) (.found none) trivial rfl
  obtain ⟨same, _⟩ := independent _ _ _ _ _ _ left right rfl
  exact absurd same (by simp)

end Choices

end Nlif.HashIndependence
