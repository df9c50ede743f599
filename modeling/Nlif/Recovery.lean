import Nlif.StoreLookup

/-!
# Recovery of an `INVALID` interface

Every setter and every coherent getter starts with `nlif_iface_sync()`, which
reloads an `INVALID` interface. Reloading releases the strings first, so a
reload that failed leaves nothing to release to the next one, and the RELOAD
event re-hashes both strings, so it is refused where another handle already
answers to one of them.
-/

namespace Nlif.Recovery

open LinkModel IfaceModel FaultWalk BucketTable StoreModel StoreRehash GateModel GateSpec
  StoreInvariant LabelledRun LibraryRun StoreLookup

set_option autoImplicit false

variable {NameBucket IndexBucket Kstate : Type}

/-- No other handle of a chain answers to the string, and reading them is safe. -/
def Unclaimed (objects : Objects) (hndl : Hndl) (strid : CString) (chain : List Hndl) : Prop :=
  ∀ other ∈ chain, other ≠ hndl → storeMatchIfaceBystrid (objects other.iface) strid = .ok false

/-- The state before the synchronisation with a link: no string of the interface
was released yet, and no other handle claims the link's name or alias. -/
structure Recoverable (hash : Hashing NameBucket IndexBucket)
    (world : World NameBucket IndexBucket Kstate) (hndl : Hndl) (link : GetlinkRsp) : Prop where
  held : Held (world.objects hndl.iface)
  name : Unclaimed world.objects hndl link.ifname (world.store.nameh (hash.str link.ifname))
  ifalias : ∀ text, link.heldAlias = some text →
    Unclaimed world.objects hndl text (world.store.aliash (hash.str text))

theorem unclaimed_iff {objects later : Objects} {hndl : Hndl} {table : Table NameBucket Hndl}
    (bucket : NameBucket) (strid : CString)
    (agree : ∀ other ∈ table bucket, other ≠ hndl → later other.iface = objects other.iface) :
    answersIn later strid (del hndl table bucket) = .ok false ↔
      Unclaimed objects hndl strid (table bucket) := by
  rw [answers_in_false_iff]
  constructor
  · intro silent other chained different
    rw [← agree other chained different]
    exact silent other ((mem_del ..).mpr ⟨chained, different⟩)
  · intro silent other chained
    obtain ⟨there, different⟩ := (mem_del ..).mp chained
    rw [agree other there different]
    exact silent other there different

theorem find_byname_head {hash : Hashing NameBucket IndexBucket} {objects : Objects} {hndl : Hndl}
    {name : CString} {store : Store NameBucket IndexBucket}
    (head : (store.nameh (hash.str name)).head? = some hndl) (valid : linkValidateName name > 0)
    (same : (objects hndl.iface).name = name) :
    storeFindIfaceByname hash objects store name = some hndl.iface := by
  obtain ⟨rest, chain⟩ := List.head?_eq_some_iff.mp head
  simp [storeFindIfaceByname, valid, storeSearchIfaceByname, chain, same]

theorem find_byalias_head {hash : Hashing NameBucket IndexBucket} {objects : Objects} {hndl : Hndl}
    {text : CString} {store : Store NameBucket IndexBucket}
    (head : (store.aliash (hash.str text)).head? = some hndl)
    (valid : linkValidateAlias (some text) > 0)
    (held : (objects hndl.iface).ifalias = some (dupStr text)) :
    storeFindIfaceByalias hash objects store text = .ok (some hndl.iface) := by
  have visited : visitAlias objects text hndl = .ok (some hndl.iface) := by
    simp [visitAlias, held, derefStr, HeapStr.read, dupStr]
  obtain ⟨rest, chain⟩ := List.head?_eq_some_iff.mp head
  unfold storeFindIfaceByalias storeSearchIfaceByalias
  rw [if_pos valid, chain, first_hit_cons_stop _ _ _ (by rw [Stops, visited]; simp), visited]

theorem fill_alias {link : GetlinkRsp} {text : CString} (has : link.heldAlias = some text) :
    (ifaceFill link).ifalias = some (dupStr text) := by
  simp [ifaceFill, has]

/-- The two conflict walks of the RELOAD event, once the object is filled from the link. -/
theorem name_free_iff {platform : Platform NameBucket IndexBucket Kstate}
    {world : World NameBucket IndexBucket Kstate} (kept : Kept platform world) {hndl : Hndl}
    (member : hndl ∈ world.store.ifaces) (link : GetlinkRsp) :
    nameClash platform.hash (Function.update world.objects hndl.iface (ifaceFill link)) hndl
        link.ifname world.store = .ok false ↔
      Unclaimed world.objects hndl link.ifname
        (world.store.nameh (platform.hash.str link.ifname)) := by
  apply unclaimed_iff
  intro other chained
  exact kept.linked.agree_replaced member (ifaceFill link) other
    (kept.linked.nameh.registered _ other chained)

theorem alias_free_iff {platform : Platform NameBucket IndexBucket Kstate}
    {world : World NameBucket IndexBucket Kstate} (kept : Kept platform world) {hndl : Hndl}
    (member : hndl ∈ world.store.ifaces) (link : GetlinkRsp) :
    AliasAnswer platform.hash (Function.update world.objects hndl.iface (ifaceFill link)) hndl
        (ifaceFill link).ifalias world.store false ↔
      ∀ text, link.heldAlias = some text →
        Unclaimed world.objects hndl text (world.store.aliash (platform.hash.str text)) := by
  have walk : ∀ text, aliasClash platform.hash
      (Function.update world.objects hndl.iface (ifaceFill link)) hndl text world.store =
        .ok false ↔
      Unclaimed world.objects hndl text (world.store.aliash (platform.hash.str text)) := by
    intro text
    apply unclaimed_iff
    intro other chained
    exact kept.linked.agree_replaced member (ifaceFill link) other
      (kept.linked.aliash.registered _ other chained)
  cases has : link.heldAlias with
  | none => simp [ifaceFill, has, AliasAnswer]
  | some text =>
      rw [fill_alias has]
      constructor
      · intro answer other same
        cases same
        exact (walk text).mp answer.2
      · intro unclaimed
        exact ⟨rfl, (walk text).mpr (unclaimed text rfl)⟩

variable [DecidableEq NameBucket]

theorem move_alias_nameh (hash : Hashing NameBucket IndexBucket) (hndl : Hndl)
    (ifalias : Option HeapStr) (store : Store NameBucket IndexBucket) :
    (moveAlias hash hndl ifalias store).nameh = store.nameh := by
  cases ifalias <;> rfl

variable [DecidableEq IndexBucket]

/-- What the next synchronising call owes to an `INVALID` interface whose link
the kernel reports again. -/
def Recovers (platform : Platform NameBucket IndexBucket Kstate) (interface : Addr)
    (link : GetlinkRsp) (world : World NameBucket IndexBucket Kstate) : Prop :=
  ∃ next, ifaceSync platform interface world = .ok (0, next) ∧
    next.objects interface = ifaceFill link ∧
    storeFindIfaceByindex platform.hash next.objects next.store link.ifiIndex = some interface ∧
    storeFindIfaceByname platform.hash next.objects next.store link.ifname = some interface ∧
    ∀ text, link.heldAlias = some text →
      storeFindIfaceByalias platform.hash next.objects next.store text = .ok (some interface)

theorem kept_recovers_iff {platform : Platform NameBucket IndexBucket Kstate}
    {world : World NameBucket IndexBucket Kstate} (reports : KernelReports platform.kernel)
    (kept : Kept platform world) {hndl : Hndl} (member : hndl ∈ world.store.ifaces)
    (invalid : (world.objects hndl.iface).state = .invalid) {link : GetlinkRsp} {kernel : Kstate}
    (asked : platform.kernel.getlink (world.objects hndl.iface).idx world.kernel =
      (.ok link, kernel))
    (accepted : gateIslinkValid link = 0) :
    Recovers platform hndl.iface link world ↔ Recoverable platform.hash world hndl link := by
  have given : gateGetlink (.ok link) = .ok link := by simp [gateGetlink, accepted]
  obtain ⟨same, reported⟩ := reports.getlink _ _ _ _ asked
  have idx : (ifaceFill link).idx = (world.objects hndl.iface).idx := same
  have found := kept.linked.search_replaced member idx (sound_fill reported)
  have self : Function.update world.objects hndl.iface (ifaceFill link) hndl.iface =
      ifaceFill link := Function.update_self ..
  constructor
  · rintro ⟨next, sync, _⟩
    rcases (iface_sync_ok_iff _ _ _ kept.subscribed _ _).mp sync with ⟨valid, _⟩ | ⟨_, reload⟩
    · exact absurd invalid valid
    · cases reload with
      | unanswered _ _ refused => exact absurd rfl (gate_getlink_error refused)
      | clashed _ _ _ _ failed => exact absurd rfl failed
      | accepted held askedToo givenToo rehashed =>
          obtain ⟨rfl, rfl⟩ := Prod.mk.inj (asked.symm.trans askedToo)
          cases given.symm.trans givenToo
          rcases (store_rehash_ok_iff _ _ found).mp rehashed with ⟨nameFree, aliasFree⟩
          have free := nameFree rfl
          have answer := aliasFree rfl
          rw [self] at free answer
          exact ⟨held, (name_free_iff kept member link).mp free,
            (alias_free_iff kept member link).mp answer⟩
  · intro recoverable
    have nameFree := (name_free_iff kept member link).mpr recoverable.name
    have aliasFree := (alias_free_iff kept member link).mpr recoverable.ifalias
    have rehashed := (store_rehash_ok_iff _ _ found).mpr
      (.moved (fun (_ : true = true) => by rw [self]; exact nameFree)
        (fun (_ : true = true) => by rw [self]; exact aliasFree))
    have reload := Reload.accepted recoverable.held asked given rehashed
    refine ⟨_, (iface_sync_ok_iff _ _ _ kept.subscribed _ _).mpr (.inr ⟨invalid, reload⟩), self,
      ?_, ?_, fun text has => ?_⟩
    · have after := reload_kept reports kept ⟨hndl, member, rfl⟩ reload
      refine (find_byindex_iff after.linked _ _).mpr ⟨hndl, ?_, rfl, congrArg Iface.idx self⟩
      exact (reload_ifaces reload).symm ▸ member
    · refine find_byname_head ?_ reported.asserted.name_valid (congrArg Iface.name self)
      simp only [reloaded, realiased, renamed, if_true, move_alias_nameh, moveName, self]
      exact congrArg List.head? (add_self ..)
    · refine find_byalias_head ?_ (reported.asserted.alias_valid has)
        ((congrArg Iface.ifalias self).trans (fill_alias has))
      simp only [reloaded, realiased, renamed, if_true, self, fill_alias has, moveAlias, moveName]
      exact congrArg List.head? (add_self ..)

/-- In every reachable world the next synchronising call recovers an `INVALID`
interface the kernel reports again exactly when the interface is recoverable. -/
theorem sync_recovers_iff {platform : Platform NameBucket IndexBucket Kstate}
    (reports : KernelReports platform.kernel) {objects : Objects} {start : Kstate}
    {log : List (Op × Ret)} {world : World NameBucket IndexBucket Kstate}
    (run : Run (machine platform) (storeInit objects start) log world) {hndl : Hndl}
    (enrolled : hndl ∈ world.store.ifaces)
    (invalid : (world.objects hndl.iface).state = .invalid) {link : GetlinkRsp} {kernel : Kstate}
    (asked : platform.kernel.getlink (world.objects hndl.iface).idx world.kernel =
      (.ok link, kernel))
    (accepted : gateIslinkValid link = 0) :
    Recovers platform hndl.iface link world ↔ Recoverable platform.hash world hndl link :=
  kept_recovers_iff reports (run_kept reports run) enrolled invalid asked accepted

/-- A kernel with one link that fails the first get-link request only. -/
def flakyKernel (link : GetlinkRsp) : Kernel Nat where
  getlink index asked :=
    (if index = link.ifiIndex ∧ 0 < asked then .ok link else .error outOfMemory, asked + 1)
  setlink _ asked := (none, asked)
  dump asked := (.ok [link], asked)

theorem flaky_kernel_reports {link : GetlinkRsp} (reported : Reported link) :
    KernelReports (flakyKernel link) where
  getlink index state answer next asked := by
    simp only [flakyKernel, Prod.mk.injEq] at asked
    obtain ⟨given, _⟩ := asked
    split at given <;> cases given
    rename_i same
    exact ⟨same.1.symm, reported⟩
  dump state links next asked := by
    simp only [flakyKernel, Prod.mk.injEq, Except.ok.injEq] at asked
    obtain ⟨rfl, _⟩ := asked
    intro other member
    rw [List.mem_singleton.mp member]
    exact reported

def flakyPlatform (link : GetlinkRsp) : CodePlatform Nat where
  hash := djb2Hashing
  kernel := flakyKernel link

def flakyInit : CodeWorld Nat :=
  storeInit (fun _ => ifaceFill oneLink) 0

/-- Without strings to release, the link is picked up again. -/
theorem bare_link_recovers :
    ∃ world, Run (machine (flakyPlatform oneLink)) flakyInit
      [(.load, .code 0), (.ifaceReload 0, .code (-12))] world ∧
      Recovers (flakyPlatform oneLink) 0 oneLink world := by
  have loaded := (Run.start : Run (machine (flakyPlatform oneLink)) flakyInit [] flakyInit).extend
    .load (.code 0) rfl rfl
  have failed := loaded.extend (.ifaceReload 0) (.code (-12)) ⟨⟨1, 0⟩, by decide, rfl⟩ rfl
  have recovers := sync_recovers_iff (flaky_kernel_reports one_link_reported) failed
    (by decide : (⟨1, 0⟩ : Hndl) ∈ _) rfl rfl (by decide)
  refine ⟨_, failed, recovers.mpr ⟨⟨fun pointer held => ?_, fun pointer held => ?_⟩, ?_,
    fun text held => ?_⟩⟩
  · cases (show none = some pointer from held)
  · cases (show none = some pointer from held)
  · unfold Unclaimed
    decide
  · cases (show none = some text from held)

theorem second_reload_double_frees :
    ∃ world, Run (machine (flakyPlatform aliasedLink)) flakyInit
      [(.load, .code 0), (.ifaceReload 0, .code (-12))] world ∧
      (⟨1, 0⟩ : Hndl) ∈ world.store.ifaces ∧ (world.objects 0).state = .invalid ∧
      (flakyPlatform aliasedLink).kernel.getlink (world.objects 0).idx world.kernel =
        (.ok aliasedLink, 2) ∧
      gateIslinkValid aliasedLink = 0 ∧
      ifaceSync (flakyPlatform aliasedLink) 0 world = .error .doubleFree ∧
      ¬ Recovers (flakyPlatform aliasedLink) 0 aliasedLink world := by
  have loaded :=
    (Run.start : Run (machine (flakyPlatform aliasedLink)) flakyInit [] flakyInit).extend
      .load (.code 0) rfl rfl
  have failed := loaded.extend (.ifaceReload 0) (.code (-12)) ⟨⟨1, 0⟩, by decide, rfl⟩ rfl
  refine ⟨_, failed, by decide, rfl, rfl, by decide, rfl, ?_⟩
  rintro ⟨next, sync, _⟩
  cases sync

end Nlif.Recovery
