import Nlif.LibraryRun

/-!
# Settled strings over whole runs

A refused MODIFY or RELOAD event may lose a handle, but leaves its interface `INVALID`.
So after any run, refused events included, the settled strings are filed where they hash
to.
-/

namespace Nlif.FiledRun

open LinkModel IfaceModel FaultWalk BucketTable StoreModel StoreRehash GateModel GateSpec
  StoreInvariant LabelledRun LibraryRun

set_option autoImplicit false

variable {NameBucket IndexBucket Kstate : Type}

def WorldFiled (platform : Platform NameBucket IndexBucket Kstate)
    (world : World NameBucket IndexBucket Kstate) : Prop :=
  Filed platform.hash world.objects world.store

section Steps

variable {platform : Platform NameBucket IndexBucket Kstate} {interface : Addr} {ret : Int}
  {world next : World NameBucket IndexBucket Kstate}

theorem agree_enrolled (kept : Kept platform world) {hndl : Hndl}
    (member : hndl ∈ world.store.ifaces) (object : Iface) :
    ∀ other ∈ world.store.ifaces, other ≠ hndl →
      Function.update world.objects hndl.iface object other.iface = world.objects other.iface :=
  kept.linked.agree_replaced member object

section Calls

variable [DecidableEq NameBucket]

theorem reload_filed (reports : KernelReports platform.kernel) (kept : Kept platform world)
    (filed : WorldFiled platform world) (enrolled : Enrolled interface world)
    (reload : Reload platform interface world ret next) : WorldFiled platform next := by
  obtain ⟨hndl, member, rfl⟩ := enrolled
  cases reload with
  | unanswered held asked refused =>
      have touched := filed_touch filed (eased_released (world.objects hndl.iface))
      exact touched
  | @accepted answer kernel link store held asked given rehashed =>
      obtain ⟨rfl, _⟩ := gate_getlink_ok given
      obtain ⟨same, reported⟩ := reports.getlink _ _ _ _ asked
      have idx : (ifaceFill link).idx = (world.objects hndl.iface).idx := same
      have found := kept.linked.search_replaced member idx (sound_fill reported)
      rcases (store_rehash_ok_iff _ _ found).mp rehashed with ⟨nameFree, aliasFree⟩
      exact Filed.moved filed (agree_enrolled kept member _) nameFree (by simp) aliasFree (by simp)
  | @clashed answer kernel link store ret held asked given rehashed failed =>
      obtain ⟨rfl, _⟩ := gate_getlink_ok given
      obtain ⟨same, reported⟩ := reports.getlink _ _ _ _ asked
      have idx : (ifaceFill link).idx = (world.objects hndl.iface).idx := same
      have found := kept.linked.search_replaced member idx (sound_fill reported)
      have relisted := rehash_relisted ((store_rehash_ok_iff _ _ found).mp rehashed)
      apply Filed.refused filed relisted
      · intro other there different
        have apart : other.iface ≠ hndl.iface := fun same =>
          different (kept.linked.same_iface there member same)
        simp only [World.invalidate, World.setObject, reloaded, answered,
          Function.update_of_ne apart]
      · simp [World.invalidate, World.setObject]

variable [DecidableEq IndexBucket]

theorem apply_filed (kept : Kept platform world) (filed : WorldFiled platform world)
    (enrolled : Enrolled interface world) (apply : Apply platform interface world ret next) :
    WorldFiled platform next := by
  obtain ⟨hndl, member, rfl⟩ := enrolled
  have found := kept.linked.search member
  cases apply with
  | idle => exact filed
  | refused => exact filed_touch filed (eased_invalidated (world.objects hndl.iface))
  | applied dirty built asked notified =>
      obtain ⟨store, rehashed, rfl⟩ := gate_notify_modify_heard _ _ _ notified kept.subscribed
      have valid : (world.objects hndl.iface).state ≠ .invalid := by
        rw [dirty]
        decide
      rcases (store_rehash_ok_iff _ _ found).mp rehashed with ⟨nameFree, aliasFree⟩
      exact Filed.modified kept.linked filed member valid (settled (world.objects hndl.iface))
        rfl rfl decide_eq_true_iff decide_eq_true_iff nameFree aliasFree
  | clashed dirty built asked notified failed =>
      obtain ⟨store, rehashed, rfl⟩ := gate_notify_modify_heard _ _ _ notified kept.subscribed
      have relisted := rehash_relisted ((store_rehash_ok_iff _ _ found).mp rehashed)
      apply Filed.refused filed relisted (agree_enrolled kept member _)
      simp

theorem sync_filed (reports : KernelReports platform.kernel) (kept : Kept platform world)
    (filed : WorldFiled platform world) (enrolled : Enrolled interface world)
    (sync : ifaceSync platform interface world = .ok (ret, next)) : WorldFiled platform next := by
  rcases (iface_sync_ok_iff _ _ _ kept.subscribed _ _).mp sync with ⟨_, _, rfl⟩ | ⟨_, reload⟩
  · exact filed
  · exact reload_filed reports kept filed enrolled reload

theorem set_filed (reports : KernelReports platform.kernel) (kept : Kept platform world)
    (filed : WorldFiled platform world) (enrolled : Enrolled interface world) {setter : Setter}
    (argument : setter.Valid)
    (done : ifaceSet platform setter interface world = .ok (ret, next)) :
    WorldFiled platform next := by
  obtain ⟨synced, middle, sync, failed | ⟨rfl, object, staged, rfl⟩⟩ :=
    iface_set_ok platform interface world done
  · obtain ⟨_, _, rfl⟩ := failed
    exact sync_filed reports kept filed enrolled sync
  · have filedMiddle := sync_filed reports kept filed enrolled sync
    have valid := sync_valid kept.subscribed sync
    exact filed_touch filedMiddle (stage_eased argument valid staged)

theorem enroll_files {hash : Hashing NameBucket IndexBucket} {objects : Objects} {bound : Addr}
    {store : Store NameBucket IndexBucket} (linked : Linked hash objects bound store)
    (filed : Filed hash objects store)
    (free : MayEnroll hash objects store (objects interface).idx (objects interface).name
      ((objects interface).ifalias.map HeapStr.text)) :
    Filed hash objects (storeCreatenEnrollIfaceHndl store ⟨bound, interface⟩
      (hash.index (objects interface).idx) (hash.str (objects interface).name)
      ((objects interface).ifalias.map fun pointer => hash.str pointer.text)) := by
  have absent : (⟨bound, interface⟩ : Hndl) ∉ store.ifaces :=
    fun member => Nat.lt_irrefl _ (linked.allocated _ member).1
  exact filed.enroll (linked.nameh.off_of_not_mem absent) (linked.aliash.off_of_not_mem absent)
    _ free.name fun pointer held => free.ifalias pointer.text (by rw [held]; rfl)

theorem enroll_filed (kept : Kept platform world) (filed : WorldFiled platform world)
    (done : storeEnroll platform interface world = .ok (ret, next)) :
    WorldFiled platform next := by
  unfold storeEnroll at done
  obtain ⟨⟨enrollRet, store⟩, enrolled, done⟩ := (bind_ok_iff ..).mp done
  rcases store_enroll_iface_ok enrolled with ⟨rfl, rfl⟩ | ⟨rfl, _, free, rfl⟩
  · simp only [EEXIST, ne_eq, Int.reduceNeg, Int.reduceEq, not_false_eq_true, if_true] at done
    cases done
    exact filed
  · simp only [ne_eq, not_true_eq_false, if_false] at done
    cases done
    exact enroll_files kept.linked filed free

theorem new_link_filed (kept : Kept platform world) (filed : WorldFiled platform world)
    {link : GetlinkRsp}
    (done : gateNotify platform noObservers (.new link) world = .ok (ret, next)) :
    WorldFiled platform next := by
  obtain ⟨after, rfl, rfl | ⟨free, rfl⟩⟩ := new_link_ok kept done
  · exact filed
  · have created := create_kept kept (ifaceFill link)
    have self : Function.update world.objects world.next (ifaceFill link) world.next =
        ifaceFill link := Function.update_self ..
    rw [store_enroll_link_eq]
    apply enroll_files created.linked (Filed.congr filed (kept.linked.fresh (ifaceFill link)))
    simp only [World.setObject, self, fill_alias_text]
    exact may_enroll_created kept.linked (ifaceFill link) free

theorem load_filed (reports : KernelReports platform.kernel) (kept : Kept platform world)
    (filed : WorldFiled platform world)
    (done : storeLoad platform world = .ok (ret, next)) : WorldFiled platform next := by
  obtain ⟨answer, kernel, asked, loaded⟩ := store_load_ok done
  have moved : Kept platform { world with kernel } :=
    ⟨kept.linked, kept.subscribed, kept.indexed⟩
  rcases loaded with rfl | ⟨links, rfl, loaded⟩
  · exact filed
  · have both := load_each_invariant
      (fun state => Kept platform state ∧ WorldFiled platform state) links
      (fun link member _ _ _ before notified =>
        ⟨new_link_kept before.1 (reports.dump _ _ _ asked link member) notified,
          new_link_filed before.1 before.2 notified⟩) ⟨moved, filed⟩ loaded
    exact both.2

omit [DecidableEq NameBucket] [DecidableEq IndexBucket] in
theorem clear_filed (done : storeClear world = .ok next) : WorldFiled platform next := by
  obtain ⟨objects, _, done⟩ := (bind_ok_iff ..).mp done
  cases done
  exact filed_reinit _ _

theorem notify_filed (notifications : List Notification) (kept : Kept platform world)
    (filed : WorldFiled platform world)
    (done : gateNotifyChanges platform noObservers notifications world = .ok (ret, next)) :
    WorldFiled platform next := by
  have observing : ∀ interface (world next : World NameBucket IndexBucket Kstate),
      Kept platform world → Enrolled interface world →
      noObservers interface world = .ok next → Kept platform next := by
    intro interface world next kept _ observed
    cases observed
    exact kept
  have changes : ∀ link (world : World NameBucket IndexBucket Kstate) ret next,
      Kept platform world ∧ WorldFiled platform world →
      gateNotify platform noObservers (.change link) world = .ok (ret, next) →
      Kept platform next ∧ WorldFiled platform next := by
    intro link world ret next before notified
    refine ⟨change_kept observing before.1 notified, ?_⟩
    obtain ⟨after, rfl, same | ⟨interface, _, observed | same⟩⟩ := change_ok before.1 notified
    · rw [same]
      exact before.2
    · cases observed
      exact filed_touch before.2 (refresh_eased (world.objects interface) link)
    · rw [same]
      exact filed_touch before.2 (refresh_eased (world.objects interface) link)
  exact (notify_invariant _ changes notifications ⟨kept, filed⟩ done).2

theorem step_filed (reports : KernelReports platform.kernel) {op : Op} {answer : Ret}
    (kept : Kept platform world) (filed : WorldFiled platform world)
    (admitted : admits world op) (stepped : step platform op world = .ok (answer, next)) :
    WorldFiled platform next := by
  cases op with
  | create object =>
      cases stepped
      exact Filed.congr filed (kept.linked.fresh object)
  | enroll interface =>
      obtain ⟨_, done⟩ := code_ok stepped
      exact enroll_filed kept filed done
  | withdraw interface =>
      obtain ⟨_, done⟩ := code_ok stepped
      obtain ⟨hndl, member, rfl⟩ := admitted
      simp only [storeWithdraw, storeWithdrawIface, kept.linked.search member] at done
      cases done
      exact Filed.unlink filed hndl
  | clear =>
      obtain ⟨_, done⟩ := code_ok stepped
      obtain ⟨_, cleared, same⟩ := (map_ok_iff ..).mp done
      cases same
      exact clear_filed cleared
  | load =>
      obtain ⟨_, done⟩ := code_ok stepped
      exact load_filed reports kept filed done
  | reload =>
      obtain ⟨_, done⟩ := code_ok stepped
      obtain ⟨middle, cleared, loaded⟩ := (bind_ok_iff ..).mp done
      exact load_filed reports (clear_kept kept cleared).1 (clear_filed cleared) loaded
  | newLink link =>
      obtain ⟨_, done⟩ := code_ok stepped
      exact new_link_filed kept filed done
  | set setter interface =>
      obtain ⟨_, done⟩ := code_ok stepped
      exact set_filed reports kept filed admitted.2 admitted.1 done
  | coherent interface =>
      obtain ⟨⟨value, after⟩, done, same⟩ := (map_ok_iff ..).mp stepped
      cases same
      obtain ⟨_, sync, _⟩ := iface_coherent_ok platform interface world done
      exact sync_filed reports kept filed admitted sync
  | apply interface =>
      obtain ⟨_, done⟩ := code_ok stepped
      exact apply_filed kept filed admitted ((iface_apply_ok_iff ..).mp done)
  | ifaceReload interface =>
      obtain ⟨_, done⟩ := code_ok stepped
      exact reload_filed reports kept filed admitted
        ((iface_reload_ok_iff _ _ _ kept.subscribed _ _).mp done)
  | notify notifications =>
      obtain ⟨_, done⟩ := code_ok stepped
      exact notify_filed notifications kept filed done
  | findByname name | findByindex index =>
      cases stepped
      exact filed
  | findByalias ifalias | findBystrid strid =>
      obtain ⟨_, _, same⟩ := (map_ok_iff ..).mp stepped
      cases same
      exact filed

/-- After every run from `nlif_store_init()`, the settled strings are filed. -/
theorem run_filed (reports : KernelReports platform.kernel) {objects : Objects} {kernel : Kstate}
    {log : List (Op × Ret)} (run : Run (machine platform) (storeInit objects kernel) log world) :
    Kept platform world ∧ WorldFiled platform world := by
  apply run_invariant (fun state => Kept platform state ∧ WorldFiled platform state) _ _ run
  · exact ⟨kept_init platform objects kernel, filed_reinit _ _⟩
  · intro state op answer later before admitted stepped
    exact ⟨step_kept reports before.1 admitted stepped,
      step_filed reports before.1 before.2 admitted stepped⟩

end Calls

end Steps

end Nlif.FiledRun
