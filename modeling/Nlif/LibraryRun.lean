import Nlif.LabelledRun
import Nlif.StoreInvariant

/-!
# Runs of the library

The calls a client makes between `nlif_store_init()` and `nlif_store_fini()`,
as the labels of a machine over worlds, and what every run keeps. `Kept` holds
after any completed call; `Indexed` holds as long as no MODIFY or RELOAD event
was refused.
-/

namespace Nlif.LibraryRun

open LinkModel IfaceModel FaultWalk BucketTable StoreModel StoreRehash GateModel GateSpec
  StoreInvariant LabelledRun

set_option autoImplicit false

inductive Op where
  | create (object : Iface)
  | enroll (interface : Addr)
  | withdraw (interface : Addr)
  | clear
  | load
  | reload
  | newLink (link : GetlinkRsp)
  | set (setter : Setter) (interface : Addr)
  | coherent (interface : Addr)
  | apply (interface : Addr)
  | ifaceReload (interface : Addr)
  | notify (notifications : List Notification)
  | findByname (name : CString)
  | findByalias (ifalias : CString)
  | findBystrid (strid : CString)
  | findByindex (index : UInt32)

inductive Ret where
  | code (ret : Int)
  | object (interface : Addr)
  | read (value : Except Int Iface)
  | found (interface : Option Addr)
deriving DecidableEq

variable {NameBucket IndexBucket Kstate : Type}

def Enrolled (interface : Addr) (world : World NameBucket IndexBucket Kstate) : Prop :=
  ∃ hndl ∈ world.store.ifaces, hndl.iface = interface

/-- A link as rtnetlink reports it: what `nlif_link_assert()` checks, and a
positive index. -/
structure Reported (link : GetlinkRsp) : Prop where
  asserted : LinkAssert link
  index : linkValidateIndex link.ifiIndex = 0

/-- What the callers of each function promise. A handle is not enrolled on an
object that was destroyed: a held object keeps its strings unless it is `INVALID`. -/
def admits (world : World NameBucket IndexBucket Kstate) : Op → Prop
  | .create object => Sound object
  | .enroll interface => interface < world.next ∧ Sound (world.objects interface)
  | .load => world.store.count = 0
  | .newLink link => Reported link ∧ gateIslinkValid link = 0
  | .set setter interface => setter.Valid ∧ Enrolled interface world
  | .withdraw interface | .coherent interface | .apply interface | .ifaceReload interface =>
      Enrolled interface world
  | .clear | .reload | .notify _ | .findByname _ | .findByalias _ | .findBystrid _
  | .findByindex _ => True

section Machine

variable [DecidableEq NameBucket] [DecidableEq IndexBucket]

def code (result : Except Fault (Int × World NameBucket IndexBucket Kstate)) :
    Except Fault (Ret × World NameBucket IndexBucket Kstate) :=
  (fun done => (.code done.1, done.2)) <$> result

omit [DecidableEq NameBucket] [DecidableEq IndexBucket] in
theorem code_ok {result : Except Fault (Int × World NameBucket IndexBucket Kstate)} {answer : Ret}
    {next : World NameBucket IndexBucket Kstate} (returned : code result = .ok (answer, next)) :
    ∃ ret, result = .ok (ret, next) := by
  obtain ⟨⟨ret, after⟩, done, same⟩ := (map_ok_iff ..).mp returned
  cases same
  exact ⟨ret, done⟩

def step (platform : Platform NameBucket IndexBucket Kstate) (op : Op)
    (world : World NameBucket IndexBucket Kstate) :
    Except Fault (Ret × World NameBucket IndexBucket Kstate) :=
  match op with
  | .create object =>
      .ok (.object world.next, { world.setObject world.next object with next := world.next + 1 })
  | .enroll interface => code (storeEnroll platform interface world)
  | .withdraw interface => code (.ok (storeWithdraw platform interface world))
  | .clear => code ((fun world => (0, world)) <$> storeClear world)
  | .load => code (storeLoad platform world)
  | .reload => code (storeReload platform world)
  | .newLink link => code (gateNotify platform noObservers (.new link) world)
  | .set setter interface => code (ifaceSet platform setter interface world)
  | .coherent interface =>
      (fun done => (.read done.1, done.2)) <$> ifaceCoherent platform id interface world
  | .apply interface => code (ifaceApply platform interface world)
  | .ifaceReload interface => code (ifaceReload platform interface world)
  | .notify notifications => code (gateNotifyChanges platform noObservers notifications world)
  | .findByname name =>
      .ok (.found (storeFindIfaceByname platform.hash world.objects world.store name), world)
  | .findByalias ifalias =>
      (fun found => (.found found, world)) <$>
        storeFindIfaceByalias platform.hash world.objects world.store ifalias
  | .findBystrid strid =>
      (fun found => (.found found, world)) <$>
        storeFindIfaceBystrid platform.hash world.objects world.store strid
  | .findByindex index =>
      .ok (.found (storeFindIfaceByindex platform.hash world.objects world.store index), world)

def machine (platform : Platform NameBucket IndexBucket Kstate) :
    Machine (World NameBucket IndexBucket Kstate) Op Ret Fault where
  admits := admits
  step := step platform

end Machine

/-- The world `nlif_gate_init()` and `nlif_store_init()` leave, over any objects
the memory may show and any kernel. -/
def storeInit (objects : Objects) (kernel : Kstate) : World NameBucket IndexBucket Kstate where
  objects := objects
  next := 0
  store := storeReinit
  gate := { notif := true, member := false }
  kernel := kernel
  trace := []

/-- Every link the kernel reports is well formed and a get-link request is
answered for the index it names. -/
structure KernelReports (kernel : Kernel Kstate) : Prop where
  getlink : ∀ index state link next, kernel.getlink index state = (.ok link, next) →
    link.ifiIndex = index ∧ Reported link
  dump : ∀ state links next, kernel.dump state = (.ok links, next) → ∀ link ∈ links, Reported link

def oneLink : GetlinkRsp := bareLink 1 nameA none

def aliasedLink : GetlinkRsp := bareLink 1 nameA (some nameB)

def oneLinkKernel : Kernel Unit where
  getlink index _ := (if index = 1 then .ok oneLink else .error noSuchDevice, ())
  setlink _ _ := (none, ())
  dump _ := (.ok [oneLink], ())

theorem one_link_reported : Reported oneLink where
  index := by decide
  asserted := by
    constructor <;> decide

theorem aliased_link_reported : Reported aliasedLink where
  index := by decide
  asserted := by
    constructor <;> decide

theorem one_link_kernel_reports : KernelReports oneLinkKernel where
  getlink index state link next asked := by
    simp only [oneLinkKernel, Prod.mk.injEq] at asked
    obtain ⟨answer, _⟩ := asked
    split at answer <;> cases answer
    rename_i same
    exact ⟨same.symm, one_link_reported⟩
  dump state links next asked := by
    simp only [oneLinkKernel, Prod.mk.injEq, Except.ok.injEq] at asked
    obtain ⟨rfl, _⟩ := asked
    intro link member
    rw [List.mem_singleton.mp member]
    exact one_link_reported

/-- The library on this kernel with the hash functions of the code. -/
def oneLinkPlatform : CodePlatform Unit where
  hash := djb2Hashing
  kernel := oneLinkKernel

def oneLinkInit : CodeWorld Unit :=
  storeInit (fun _ => ifaceFill oneLink) ()

def rehashRefused : Event → Bool
  | .notified .modify _ ret | .notified .reload _ ret => ret ≠ 0
  | _ => false

/-- No MODIFY or RELOAD event returned an error so far. -/
def Quiet (trace : List Event) : Prop := ∀ event ∈ trace, rehashRefused event = false

instance (trace : List Event) : Decidable (Quiet trace) :=
  inferInstanceAs (Decidable (∀ event ∈ trace, rehashRefused event = false))

theorem quiet_cons (event : Event) (trace : List Event) :
    Quiet (event :: trace) ↔ rehashRefused event = false ∧ Quiet trace := by
  simp [Quiet]

structure Kept (platform : Platform NameBucket IndexBucket Kstate)
    (world : World NameBucket IndexBucket Kstate) : Prop where
  linked : Linked platform.hash world.objects world.next world.store
  subscribed : world.gate.notif = true
  indexed : Quiet world.trace → Indexed platform.hash world.objects world.store

theorem kept_init (platform : Platform NameBucket IndexBucket Kstate) (objects : Objects)
    (kernel : Kstate) : Kept platform (storeInit objects kernel) where
  linked := linked_reinit platform.hash objects 0
  subscribed := rfl
  indexed _ := indexed_reinit platform.hash objects

/-- An object that stands for another one of the same index: sound if that one
was, with keys that are its or unsettled. -/
structure Eased (before after : Iface) : Prop where
  idx : after.idx = before.idx
  sound : Sound before → Sound after
  name : NameSettled after → NameSettled before ∧ after.name = before.name
  ifalias : AliasSettled after → AliasSettled before ∧ after.ifalias = before.ifalias

theorem Eased.name_key {before after : Iface} (eased : Eased before after) {objects later : Objects}
    {hndl : Hndl} (was : objects hndl.iface = before) (is : later hndl.iface = after) :
    nameKey later hndl = none ∨ nameKey later hndl = nameKey objects hndl := by
  unfold nameKey
  rw [was, is]
  by_cases settledName : NameSettled after
  · obtain ⟨old, same⟩ := eased.name settledName
    exact .inr (by rw [if_pos settledName, if_pos old, same])
  · exact .inl (if_neg settledName)

theorem Eased.alias_key {before after : Iface} (eased : Eased before after)
    {objects later : Objects} {hndl : Hndl} (was : objects hndl.iface = before)
    (is : later hndl.iface = after) :
    aliasKey later hndl = none ∨ aliasKey later hndl = aliasKey objects hndl := by
  unfold aliasKey
  rw [was, is]
  by_cases settledAlias : AliasSettled after
  · obtain ⟨old, same⟩ := eased.ifalias settledAlias
    exact .inr (by rw [if_pos settledAlias, if_pos old, same])
  · exact .inl (if_neg settledAlias)

theorem filed_touch {hash : Hashing NameBucket IndexBucket} {objects : Objects}
    {store : Store NameBucket IndexBucket} (filed : Filed hash objects store) {interface : Addr}
    {object : Iface} (eased : Eased (objects interface) object) :
    Filed hash (Function.update objects interface object) store := by
  refine filed.ease (fun hndl _ => ?_) fun hndl _ => ?_
  · by_cases same : hndl.iface = interface
    · exact eased.name_key (by rw [same]) (by rw [same, Function.update_self])
    · exact .inr (name_key_congr (Function.update_of_ne same _ _))
  · by_cases same : hndl.iface = interface
    · exact eased.alias_key (by rw [same]) (by rw [same, Function.update_self])
    · exact .inr (alias_key_congr (Function.update_of_ne same _ _))

theorem eased_invalid {before after : Iface} (idx : after.idx = before.idx)
    (name : after.name = before.name)
    (ifalias : ∀ pointer, after.ifalias = some pointer →
      ∃ old, before.ifalias = some old ∧ old.text = pointer.text)
    (invalid : after.state = .invalid) : Eased before after where
  idx := idx
  sound sound :=
    { idx := idx ▸ sound.idx
      name := name ▸ sound.name
      ifalias := fun pointer present => by
        obtain ⟨old, held, same⟩ := ifalias pointer present
        exact same ▸ sound.ifalias old held
      held := fun valid => absurd invalid valid }
  name settledName := absurd invalid settledName.1
  ifalias settledAlias := absurd invalid settledAlias.1

theorem eased_released (interface : Iface) :
    Eased interface { released interface with state := .invalid } := by
  refine eased_invalid rfl rfl (fun pointer present => ?_) rfl
  obtain ⟨old, held, rfl⟩ := Option.map_eq_some_iff.mp present
  exact ⟨old, held, rfl⟩

theorem eased_invalidated (interface : Iface) :
    Eased interface { interface with state := .invalid } :=
  eased_invalid rfl rfl (fun pointer present => ⟨pointer, present, rfl⟩) rfl

section Steps

variable {platform : Platform NameBucket IndexBucket Kstate}
  {world next : World NameBucket IndexBucket Kstate}

theorem Kept.touch (kept : Kept platform world) {interface : Addr} {object : Iface}
    (eased : Eased (world.objects interface) object)
    (objects : next.objects = Function.update world.objects interface object)
    (store : next.store = world.store) (allocated : next.next = world.next)
    (gate : next.gate = world.gate) (quiet : Quiet next.trace → Quiet world.trace) :
    Kept platform next where
  linked := by
    rw [objects, store, allocated]
    refine kept.linked.touch fun hndl member => ?_
    by_cases same : hndl.iface = interface
    · rw [same, Function.update_self]
      exact ⟨eased.idx, eased.sound (same ▸ kept.linked.sound hndl member)⟩
    · rw [Function.update_of_ne same]
      exact ⟨rfl, kept.linked.sound hndl member⟩
  subscribed := gate ▸ kept.subscribed
  indexed still := by
    rw [objects, store]
    have before := kept.indexed (quiet still)
    exact (filed_touch before.filed eased).indexed before.named

theorem Kept.record (kept : Kept platform world) (event : Event) :
    Kept platform (world.record event) where
  linked := kept.linked
  subscribed := kept.subscribed
  indexed still := kept.indexed ((quiet_cons ..).mp still).2

theorem sound_fill {link : GetlinkRsp} (reported : Reported link) : Sound (ifaceFill link) where
  idx := reported.index
  name := reported.asserted.name_valid
  ifalias pointer present := by
    obtain ⟨text, held, rfl⟩ := Option.map_eq_some_iff.mp present
    exact reported.asserted.alias_valid held
  held _ := held_fill link

theorem may_enroll_created {hash : Hashing NameBucket IndexBucket} {objects : Objects}
    {bound : Addr} {store : Store NameBucket IndexBucket} {index : UInt32} {name : CString}
    {ifalias : Option CString} (linked : Linked hash objects bound store) (object : Iface)
    (free : MayEnroll hash objects store index name ifalias) :
    MayEnroll hash (Function.update objects bound object) store index name ifalias where
  name := by
    rw [answers_in_congr _ fun hndl chained =>
      linked.fresh object hndl (linked.nameh.registered _ hndl chained)]
    exact free.name
  index := by
    refine ((linked.create object).search_none_iff _).mpr fun hndl member => ?_
    rw [linked.fresh object hndl member]
    exact (linked.search_none_iff _).mp free.index hndl member
  ifalias text given := by
    rw [answers_in_congr _ fun hndl chained =>
      linked.fresh object hndl (linked.aliash.registered _ hndl chained)]
    exact free.ifalias text given

theorem create_kept (kept : Kept platform world) (object : Iface) :
    Kept platform { world.setObject world.next object with next := world.next + 1 } where
  linked := kept.linked.create object
  subscribed := kept.subscribed
  indexed still := (kept.indexed still).congr (kept.linked.fresh object)

theorem refresh_eased (interface : Iface) (link : GetlinkRsp) :
    Eased interface (ifaceRefreshState interface link).2 where
  idx := rfl
  sound sound := ⟨sound.idx, sound.name, sound.ifalias,
    fun valid => ⟨(sound.held valid).ifalias, (sound.held valid).kind⟩⟩
  name settledName := ⟨settledName, rfl⟩
  ifalias settledAlias := ⟨settledAlias, rfl⟩

theorem refresh_kept (kept : Kept platform world) (interface : Addr) (link : GetlinkRsp) :
    Kept platform
      (world.setObject interface (ifaceRefreshState (world.objects interface) link).2) :=
  kept.touch (refresh_eased (world.objects interface) link) rfl rfl rfl rfl id

theorem withdraw_kept {interface : Addr} (kept : Kept platform world)
    (enrolled : Enrolled interface world) :
    Kept platform (storeWithdraw platform interface world).2 := by
  obtain ⟨hndl, member, rfl⟩ := enrolled
  simp only [storeWithdraw, storeWithdrawIface, kept.linked.search member]
  exact ⟨kept.linked.unlink member, kept.subscribed,
    fun still => (kept.indexed still).unlink hndl⟩

theorem clear_kept (kept : Kept platform world) (done : storeClear world = .ok next) :
    Kept platform next ∧ next.store = storeReinit ∧ next.trace = world.trace := by
  unfold storeClear at done
  obtain ⟨objects, _, done⟩ := (bind_ok_iff ..).mp done
  cases done
  exact ⟨⟨linked_reinit _ _ _, kept.subscribed, fun _ => indexed_reinit _ _⟩, rfl, rfl⟩

section Calls

variable [DecidableEq NameBucket] {interface : Addr} {ret : Int}

theorem reload_kept (reports : KernelReports platform.kernel) (kept : Kept platform world)
    (enrolled : Enrolled interface world) (reload : Reload platform interface world ret next) :
    Kept platform next := by
  obtain ⟨hndl, member, rfl⟩ := enrolled
  cases reload with
  | unanswered held asked refused =>
      refine kept.touch (eased_released (world.objects hndl.iface)) rfl rfl rfl rfl ?_
      exact fun still => ((quiet_cons ..).mp still).2
  | @accepted answer kernel link store held asked given rehashed =>
      obtain ⟨rfl, _⟩ := gate_getlink_ok given
      obtain ⟨same, reported⟩ := reports.getlink _ _ _ _ asked
      have idx : (ifaceFill link).idx = (world.objects hndl.iface).idx := same
      have found := kept.linked.search_replaced member idx (sound_fill reported)
      refine ⟨kept.linked.rehashed member idx (sound_fill reported) found rehashed,
        kept.subscribed, fun still => ?_⟩
      have before := ((quiet_cons ..).mp ((quiet_cons ..).mp still).2).2
      rcases (store_rehash_ok_iff _ _ found).mp rehashed with ⟨nameFree, aliasFree⟩
      exact (kept.indexed before).moved (kept.linked.agree_replaced member _) nameFree (by simp)
        aliasFree (by simp)
  | @clashed answer kernel link store ret held asked given rehashed failed =>
      obtain ⟨rfl, _⟩ := gate_getlink_ok given
      obtain ⟨same, reported⟩ := reports.getlink _ _ _ _ asked
      have idx : (ifaceFill link).idx = (world.objects hndl.iface).idx := same
      have found := kept.linked.search_replaced member idx (sound_fill reported)
      have after := kept.linked.rehashed member idx (sound_fill reported) found rehashed
      refine ⟨?_, kept.subscribed, fun still => ?_⟩
      · refine Linked.replace after ?_ ?_
        · simp [reloaded, answered, World.setObject]
        · simpa [reloaded, answered, World.setObject] using
            (eased_invalidated (ifaceFill link)).sound (sound_fill reported)
      · exact absurd ((quiet_cons ..).mp still).1 (by simp [rehashRefused, failed])

theorem reload_ifaces (reload : Reload platform interface world ret next) :
    next.store.ifaces = world.store.ifaces := by
  cases reload with
  | unanswered => rfl
  | accepted _ _ _ rehashed | clashed _ _ _ rehashed =>
      exact (store_rehash_frame _ _ rehashed).1

variable [DecidableEq IndexBucket]

theorem sound_settled {object : Iface} (sound : Sound object) (valid : object.state ≠ .invalid) :
    Sound (settled object) where
  idx := sound.idx
  name := sound.name
  ifalias := sound.ifalias
  held _ := ⟨(sound.held valid).ifalias, (sound.held valid).kind⟩

theorem apply_kept (kept : Kept platform world) (enrolled : Enrolled interface world)
    (apply : Apply platform interface world ret next) : Kept platform next := by
  obtain ⟨hndl, member, rfl⟩ := enrolled
  have sound := kept.linked.sound hndl member
  have found := kept.linked.search member
  cases apply with
  | idle => exact kept.record _
  | refused =>
      refine kept.touch (eased_invalidated (world.objects hndl.iface)) rfl rfl rfl rfl ?_
      exact fun still => ((quiet_cons ..).mp ((quiet_cons ..).mp still).2).2
  | applied dirty built asked notified =>
      obtain ⟨store, rehashed, rfl⟩ := gate_notify_modify_heard _ _ _ notified kept.subscribed
      have valid : (world.objects hndl.iface).state ≠ .invalid := by
        rw [dirty]
        decide
      have clean := sound_settled sound valid
      refine ⟨kept.linked.rehashed member rfl clean found rehashed, kept.subscribed,
        fun still => ?_⟩
      have before := ((quiet_cons ..).mp ((quiet_cons ..).mp ((quiet_cons ..).mp
        still).2).2).2
      rcases (store_rehash_ok_iff _ _ found).mp rehashed with ⟨nameFree, aliasFree⟩
      exact (kept.indexed before).modified kept.linked member valid
        (settled (world.objects hndl.iface)) rfl rfl decide_eq_true_iff decide_eq_true_iff
        nameFree aliasFree
  | clashed dirty built asked notified failed =>
      obtain ⟨store, rehashed, rfl⟩ := gate_notify_modify_heard _ _ _ notified kept.subscribed
      have eased := eased_invalidated (world.objects hndl.iface)
      refine ⟨kept.linked.rehashed member rfl (eased.sound sound) found rehashed,
        kept.subscribed, fun still => ?_⟩
      exact absurd ((quiet_cons ..).mp still).1 (by simp [rehashRefused, failed])

theorem sync_kept (reports : KernelReports platform.kernel) (kept : Kept platform world)
    (enrolled : Enrolled interface world)
    (sync : ifaceSync platform interface world = .ok (ret, next)) : Kept platform next := by
  rcases (iface_sync_ok_iff _ _ _ kept.subscribed _ _).mp sync with ⟨_, _, rfl⟩ | ⟨_, reload⟩
  · exact kept
  · exact reload_kept reports kept enrolled reload

theorem sync_valid (subscribed : world.gate.notif = true)
    (sync : ifaceSync platform interface world = .ok (0, next)) :
    (next.objects interface).state ≠ .invalid := by
  rcases (iface_sync_ok_iff _ _ _ subscribed _ _).mp sync with ⟨valid, _, rfl⟩ | ⟨_, reload⟩
  · exact valid
  · cases reload with
    | unanswered _ _ refused => exact absurd rfl (gate_getlink_error refused)
    | accepted => simp [reloaded, answered, World.setObject, ifaceFill]
    | clashed _ _ _ _ failed => exact absurd rfl failed

theorem stage_eased {setter : Setter} {before after : Iface} (argument : setter.Valid)
    (valid : before.state ≠ .invalid) (staged : stage setter before = .ok (ret, after)) :
    Eased before after where
  idx := (stage_staged staged).idx
  sound sound :=
    { idx := (stage_staged staged).idx ▸ sound.idx
      name := by
        rcases stage_cases staged with rfl | ⟨_, rfl, _⟩
        · exact sound.name
        · cases setter with
          | name name => exact argument
          | ifalias _ | group _ | admstate _ | mtu _ | hwaddr _ => exact sound.name
      ifalias := by
        rcases stage_cases staged with rfl | ⟨_, rfl, _⟩
        · exact sound.ifalias
        · cases setter with
          | ifalias ifalias =>
              intro pointer present
              obtain ⟨text, rfl, rfl⟩ := Option.map_eq_some_iff.mp present
              have checked : linkValidateAlias (some text) ≥ 0 := argument
              have nonzero : linkValidateAlias (some text) ≠ 0 := by
                simp only [linkValidateAlias, ENODATA, ENAMETOOLONG]
                split_ifs <;> omega
              simp only [dupStr]
              omega
          | name _ | group _ | admstate _ | mtu _ | hwaddr _ => exact sound.ifalias
      held := fun _ => held_of_stage (sound.held valid) staged }
  name settledName := by
    have accumulated := (stage_staged staged).fields
    refine ⟨⟨valid, fun dirty => settledName.2 (accumulated dirty)⟩, ?_⟩
    exact (stage_staged staged).name.resolve_right settledName.2
  ifalias settledAlias := by
    have accumulated := (stage_staged staged).fields
    refine ⟨⟨valid, fun dirty => settledAlias.2 (accumulated dirty)⟩, ?_⟩
    exact (stage_staged staged).ifalias.resolve_right fun dirty => settledAlias.2 dirty.1

theorem set_kept (reports : KernelReports platform.kernel) (kept : Kept platform world)
    (enrolled : Enrolled interface world) {setter : Setter} (argument : setter.Valid)
    (done : ifaceSet platform setter interface world = .ok (ret, next)) :
    Kept platform next := by
  obtain ⟨synced, middle, sync, failed | ⟨rfl, object, staged, rfl⟩⟩ :=
    iface_set_ok platform interface world done
  · obtain ⟨_, _, rfl⟩ := failed
    exact sync_kept reports kept enrolled sync
  · have keptMiddle := sync_kept reports kept enrolled sync
    have valid := sync_valid kept.subscribed sync
    exact keptMiddle.touch (stage_eased argument valid staged) rfl rfl rfl rfl id

theorem enroll_links {hash : Hashing NameBucket IndexBucket} {objects : Objects} {bound : Addr}
    {store : Store NameBucket IndexBucket} (linked : Linked hash objects bound store)
    (known : interface < bound) (sound : Sound (objects interface))
    (free : MayEnroll hash objects store (objects interface).idx (objects interface).name
      ((objects interface).ifalias.map HeapStr.text)) :
    Linked hash objects (bound + 1) (storeCreatenEnrollIfaceHndl store ⟨bound, interface⟩
        (hash.index (objects interface).idx) (hash.str (objects interface).name)
        ((objects interface).ifalias.map fun pointer => hash.str pointer.text)) ∧
      (Indexed hash objects store → Indexed hash objects
        (storeCreatenEnrollIfaceHndl store ⟨bound, interface⟩
          (hash.index (objects interface).idx) (hash.str (objects interface).name)
          ((objects interface).ifalias.map fun pointer => hash.str pointer.text))) := by
  have absent : (⟨bound, interface⟩ : Hndl) ∉ store.ifaces :=
    fun member => Nat.lt_irrefl _ (linked.allocated _ member).1
  refine ⟨linked.enroll known sound ((linked.search_none_iff _).mp free.index) _ _,
    fun indexed => ?_⟩
  exact indexed.enroll (linked.nameh.off_of_not_mem absent) (linked.aliash.off_of_not_mem absent)
    _ free.name fun pointer held => free.ifalias pointer.text (by rw [held]; rfl)

theorem enroll_kept (kept : Kept platform world) (known : interface < world.next)
    (sound : Sound (world.objects interface))
    (done : storeEnroll platform interface world = .ok (ret, next)) : Kept platform next := by
  unfold storeEnroll at done
  obtain ⟨⟨enrollRet, store⟩, enrolled, done⟩ := (bind_ok_iff ..).mp done
  rcases store_enroll_iface_ok enrolled with ⟨rfl, rfl⟩ | ⟨rfl, _, free, rfl⟩
  · simp only [EEXIST, ne_eq, Int.reduceNeg, Int.reduceEq, not_false_eq_true, if_true] at done
    cases done
    exact kept
  · simp only [ne_eq, not_true_eq_false, if_false] at done
    cases done
    have links := enroll_links kept.linked known sound free
    exact ⟨links.1, kept.subscribed, fun still => links.2 (kept.indexed still)⟩

theorem fill_alias_text (link : GetlinkRsp) :
    (ifaceFill link).ifalias.map HeapStr.text = link.heldAlias := by
  simp [ifaceFill, Option.map_map, Function.comp_def, dupStr]

theorem store_enroll_link_eq (platform : Platform NameBucket IndexBucket Kstate)
    (link : GetlinkRsp) (world : World NameBucket IndexBucket Kstate) :
    let objects := Function.update world.objects world.next (ifaceFill link)
    storeEnrollLink platform link (link.heldAlias.map platform.hash.str) world =
      { world with
        objects
        next := world.next + 1 + 1
        store := storeCreatenEnrollIfaceHndl world.store ⟨world.next + 1, world.next⟩
          (platform.hash.index (objects world.next).idx)
          (platform.hash.str (objects world.next).name)
          ((objects world.next).ifalias.map fun pointer => platform.hash.str pointer.text) } := by
  intro objects
  have self : objects world.next = ifaceFill link := Function.update_self ..
  have bucket : ((ifaceFill link).ifalias.map fun pointer => platform.hash.str pointer.text) =
      link.heldAlias.map platform.hash.str := by
    rw [← fill_alias_text, Option.map_map]
    rfl
  rw [self, bucket]
  rfl

theorem enroll_link_kept (kept : Kept platform world) {link : GetlinkRsp}
    (reported : Reported link)
    (free : MayEnroll platform.hash world.objects world.store link.ifiIndex link.ifname
      link.heldAlias) :
    Kept platform (storeEnrollLink platform link (link.heldAlias.map platform.hash.str) world) := by
  have created := create_kept kept (ifaceFill link)
  have self : Function.update world.objects world.next (ifaceFill link) world.next =
      ifaceFill link := Function.update_self ..
  have links := enroll_links created.linked (Nat.lt_succ_self world.next)
    (by
      simp only [World.setObject, self]
      exact sound_fill reported)
    (by
      simp only [World.setObject, self, fill_alias_text]
      exact may_enroll_created kept.linked (ifaceFill link) free)
  rw [store_enroll_link_eq]
  exact ⟨links.1, kept.subscribed, fun still => links.2 (created.indexed still)⟩

theorem new_link_ok (kept : Kept platform world) {link : GetlinkRsp}
    (done : gateNotify platform noObservers (.new link) world = .ok (ret, next)) :
    ∃ after, next = after.record (.notified .new link.ifiIndex 0) ∧
      (after = world ∨
        (MayEnroll platform.hash world.objects world.store link.ifiIndex link.ifname
            link.heldAlias ∧
          after = storeEnrollLink platform link (link.heldAlias.map platform.hash.str) world)) := by
  simp only [gateNotify, kept.subscribed, if_true, storeOnEvent, bind_ok_iff] at done
  obtain ⟨_, ⟨after, new, same⟩, done⟩ := done
  cases same
  cases done
  exact ⟨after, rfl, store_on_new_iface_ok new⟩

theorem new_link_kept (kept : Kept platform world) {link : GetlinkRsp}
    (reported : Reported link)
    (done : gateNotify platform noObservers (.new link) world = .ok (ret, next)) :
    Kept platform next := by
  obtain ⟨after, rfl, rfl | ⟨free, rfl⟩⟩ := new_link_ok kept done
  · exact kept.record _
  · exact (enroll_link_kept kept reported free).record _

theorem load_each_invariant (invariant : World NameBucket IndexBucket Kstate → Prop)
    (links : List GetlinkRsp)
    (news : ∀ link ∈ links, ∀ world ret next, invariant world →
      gateNotify platform noObservers (.new link) world = .ok (ret, next) → invariant next)
    (initial : invariant world)
    (done : gateLoadEach platform links world = .ok (ret, next)) : invariant next := by
  induction links generalizing world with
  | nil =>
      cases done
      exact initial
  | cons link rest ih =>
      have restNews := fun other there => news other (List.mem_cons_of_mem link there)
      unfold gateLoadEach at done
      split at done
      · exact ih restNews initial done
      · obtain ⟨⟨eventRet, middle⟩, notified, done⟩ := (bind_ok_iff ..).mp done
        have after := news link (by simp) _ _ _ initial notified
        simp only at done
        split at done
        · cases done
          exact after
        · exact ih restNews after done

theorem store_load_ok (done : storeLoad platform world = .ok (ret, next)) :
    ∃ answer kernel, platform.kernel.dump world.kernel = (answer, kernel) ∧
      (next = { world with kernel } ∨ ∃ links, answer = .ok links ∧
        gateLoadEach platform links { world with kernel } = .ok (ret, next)) := by
  unfold storeLoad gateLoadLinks at done
  rcases asked : platform.kernel.dump world.kernel with ⟨answer, kernel⟩
  rw [asked] at done
  refine ⟨answer, kernel, rfl, ?_⟩
  rcases answer with error | _ | ⟨link, rest⟩
  · cases done
    exact .inl rfl
  · cases done
    exact .inl rfl
  · exact .inr ⟨_, rfl, done⟩

theorem load_kept (reports : KernelReports platform.kernel) (kept : Kept platform world)
    (done : storeLoad platform world = .ok (ret, next)) : Kept platform next := by
  obtain ⟨answer, kernel, asked, loaded⟩ := store_load_ok done
  have moved : Kept platform { world with kernel } :=
    ⟨kept.linked, kept.subscribed, kept.indexed⟩
  rcases loaded with rfl | ⟨links, rfl, loaded⟩
  · exact moved
  · exact load_each_invariant (Kept platform) links
      (fun link member _ _ _ kept notified =>
        new_link_kept kept (reports.dump _ _ _ asked link member) notified) moved loaded

theorem change_ok {observers : Observers NameBucket IndexBucket Kstate}
    (kept : Kept platform world) {link : GetlinkRsp}
    (done : gateNotify platform observers (.change link) world = .ok (ret, next)) :
    ∃ after, next = after.record (.notified .change link.ifiIndex 0) ∧
      (after = world ∨ ∃ interface, Enrolled interface world ∧
        let refreshed :=
          world.setObject interface (ifaceRefreshState (world.objects interface) link).2
        observers interface refreshed = .ok after ∨ after = refreshed) := by
  simp only [gateNotify, kept.subscribed, if_true, storeOnEvent, bind_ok_iff] at done
  obtain ⟨_, ⟨after, changed, same⟩, done⟩ := done
  cases same
  cases done
  refine ⟨after, rfl, ?_⟩
  unfold storeOnIfaceChange at changed
  split at changed
  · cases changed
    exact .inl rfl
  · rename_i interface found
    have enrolled : Enrolled interface world := by
      simp only [storeFindIfaceByindex] at found
      split at found
      · obtain ⟨hndl, searched, rfl⟩ := Option.map_eq_some_iff.mp found
        exact ⟨hndl, (kept.linked.search_some searched).1, rfl⟩
      · cases found
    refine .inr ⟨interface, enrolled, ?_⟩
    simp only at changed
    split at changed
    · exact .inl changed
    · cases changed
      exact .inr rfl

theorem notify_invariant {observers : Observers NameBucket IndexBucket Kstate}
    (invariant : World NameBucket IndexBucket Kstate → Prop)
    (changes : ∀ link world ret next, invariant world →
      gateNotify platform observers (.change link) world = .ok (ret, next) → invariant next)
    (notifications : List Notification) (initial : invariant world)
    (done : gateNotifyChanges platform observers notifications world = .ok (ret, next)) :
    invariant next := by
  induction notifications generalizing world with
  | nil =>
      cases done
      exact initial
  | cons notification rest ih =>
      unfold gateNotifyChanges at done
      split at done
      · exact ih initial done
      · obtain ⟨⟨eventRet, middle⟩, notified, done⟩ := (bind_ok_iff ..).mp done
        have after := changes _ _ _ _ initial notified
        simp only at done
        split at done
        · cases done
          exact after
        · exact ih after done

theorem change_kept {observers : Observers NameBucket IndexBucket Kstate}
    (observing : ∀ interface world next, Kept platform world → Enrolled interface world →
      observers interface world = .ok next → Kept platform next)
    (kept : Kept platform world) {link : GetlinkRsp}
    (done : gateNotify platform observers (.change link) world = .ok (ret, next)) :
    Kept platform next := by
  obtain ⟨after, rfl, same | ⟨interface, enrolled, observed | same⟩⟩ := change_ok kept done
  · rw [same]
    exact kept.record _
  · exact (observing _ _ _ (refresh_kept kept interface link) enrolled observed).record _
  · rw [same]
    exact (refresh_kept kept interface link).record _

theorem notify_kept {observers : Observers NameBucket IndexBucket Kstate}
    (observing : ∀ interface world next, Kept platform world → Enrolled interface world →
      observers interface world = .ok next → Kept platform next)
    (notifications : List Notification) (kept : Kept platform world)
    (done : gateNotifyChanges platform observers notifications world = .ok (ret, next)) :
    Kept platform next :=
  notify_invariant (Kept platform)
    (fun _ _ _ _ kept notified => change_kept observing kept notified) notifications kept done

theorem step_kept (reports : KernelReports platform.kernel) {op : Op} {answer : Ret}
    (kept : Kept platform world) (admitted : admits world op)
    (stepped : step platform op world = .ok (answer, next)) : Kept platform next := by
  cases op with
  | create object =>
      cases stepped
      exact create_kept kept object
  | enroll interface =>
      obtain ⟨_, done⟩ := code_ok stepped
      exact enroll_kept kept admitted.1 admitted.2 done
  | withdraw interface =>
      obtain ⟨_, done⟩ := code_ok stepped
      have after := withdraw_kept kept admitted
      rw [Except.ok.inj done] at after
      exact after
  | clear =>
      obtain ⟨_, done⟩ := code_ok stepped
      obtain ⟨_, cleared, same⟩ := (map_ok_iff ..).mp done
      cases same
      exact (clear_kept kept cleared).1
  | load =>
      obtain ⟨_, done⟩ := code_ok stepped
      exact load_kept reports kept done
  | reload =>
      obtain ⟨_, done⟩ := code_ok stepped
      obtain ⟨middle, cleared, loaded⟩ := (bind_ok_iff ..).mp done
      exact load_kept reports (clear_kept kept cleared).1 loaded
  | newLink link =>
      obtain ⟨_, done⟩ := code_ok stepped
      exact new_link_kept kept admitted.1 done
  | set setter interface =>
      obtain ⟨_, done⟩ := code_ok stepped
      exact set_kept reports kept admitted.2 admitted.1 done
  | coherent interface =>
      obtain ⟨⟨value, after⟩, done, same⟩ := (map_ok_iff ..).mp stepped
      cases same
      obtain ⟨_, sync, _⟩ := iface_coherent_ok platform interface world done
      exact sync_kept reports kept admitted sync
  | apply interface =>
      obtain ⟨_, done⟩ := code_ok stepped
      exact apply_kept kept admitted ((iface_apply_ok_iff ..).mp done)
  | ifaceReload interface =>
      obtain ⟨_, done⟩ := code_ok stepped
      exact reload_kept reports kept admitted
        ((iface_reload_ok_iff _ _ _ kept.subscribed _ _).mp done)
  | notify notifications =>
      obtain ⟨_, done⟩ := code_ok stepped
      refine notify_kept (fun interface world next kept _ observed => ?_) notifications kept done
      cases observed
      exact kept
  | findByname name | findByindex index =>
      cases stepped
      exact kept
  | findByalias ifalias | findBystrid strid =>
      obtain ⟨_, _, same⟩ := (map_ok_iff ..).mp stepped
      cases same
      exact kept

/-- What every run from `nlif_store_init()` keeps. -/
theorem run_kept (reports : KernelReports platform.kernel) {objects : Objects} {kernel : Kstate}
    {log : List (Op × Ret)} (run : Run (machine platform) (storeInit objects kernel) log world) :
    Kept platform world :=
  run_invariant (Kept platform) (kept_init platform objects kernel)
    (fun _ _ _ _ kept admitted stepped => step_kept reports kept admitted stepped) run

end Calls

end Steps

end Nlif.LibraryRun
