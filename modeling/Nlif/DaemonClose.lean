import Nlif.DaemonCalls
import Nlif.DaemonLife
import Nlif.StoreReload

/-!
# The end of the daemon

An open daemon keeps a sound store whose one subscriber is its own. Opening never faults,
and closing does so for one reason only: an enrolled interface is `INVALID` and still
points to a string that an unanswered reload released.
-/

namespace Nlif.DaemonClose

open LinkModel IfaceModel FaultWalk StoreModel GateModel GateSpec StoreInvariant LibraryRun
  LabelledRun LinkRing ObsrvModel DaemonModel DaemonSpec ConfigSnapshot OperModel OperMirror
  ChangeNotif DaemonLife
open DaemonModel (SrError)
open StoreReload (kept_distinct store_release_ok_iff)
open DaemonRun (DaemonOp DaemonRet AllValid agreeingSysrepo enableLink)

set_option autoImplicit false

variable {NameBucket IndexBucket Kstate : Type}

section Running

variable {service : Service} {tree : ConfigTree} {sysrepo : Sysrepo} {datastore : Datastore}
  {platform : Platform NameBucket IndexBucket Kstate}
  {daemon next : Nlifd NameBucket IndexBucket Kstate} {ret : Int}

structure Running (platform : Platform NameBucket IndexBucket Kstate)
    (daemon : Nlifd NameBucket IndexBucket Kstate) : Prop where
  kept : Kept (beside platform) daemon.world
  ring : Ring daemon.links STORE_NOTIF [OPER_SUB]

theorem ring_init (links : Links Addr) : Ring (dlistInit STORE_NOTIF links) STORE_NOTIF [] where
  distinct := List.nodup_singleton _
  linked := by simp [Segment, dlistInit]

theorem ring_subscriber {links : Links Addr} (ring : Ring links STORE_NOTIF []) :
    Ring (dlistInit OPER_SUB links) STORE_NOTIF [] where
  distinct := ring.distinct
  linked := by
    have apart : STORE_NOTIF ≠ OPER_SUB := by decide
    have linked := ring.linked
    simpa [Segment, dlistInit, apart] using linked

theorem ring_subscribed {links : Links Addr} (ring : Ring links STORE_NOTIF []) :
    Ring (nlifObsrvSubscribe STORE_NOTIF OPER_SUB links) STORE_NOTIF [OPER_SUB] :=
  ring.nqueue_back (by decide) List.not_mem_nil

theorem ring_unsubscribed {links : Links Addr} (ring : Ring links STORE_NOTIF [OPER_SUB]) :
    Ring (nlifObsrvUnsubscribe OPER_SUB links) STORE_NOTIF [] :=
  @Ring.remove_init _ _ _ _ _ [] [] ring

/-- What `nlif_store_fini()` does to a store without subscriber. -/
theorem fini_all_ok_iff (distinct : (daemon.world.store.ifaces.map Hndl.iface).Nodup)
    (ring : Ring daemon.links STORE_NOTIF []) :
    (∃ after, finiAll daemon = .ok after) ↔
      ∀ hndl ∈ daemon.world.store.ifaces, Held (daemon.world.objects hndl.iface) := by
  unfold finiAll storeFini
  rw [if_neg (not_not.mpr ring.linked.1)]
  simp only [bind_ok_iff, store_release_ok_iff distinct]
  constructor
  · rintro ⟨_, _, ⟨_, ⟨held, _⟩, _⟩, _⟩
    exact held
  · exact fun held => ⟨_, _, ⟨_, ⟨held, rfl⟩, rfl⟩, rfl⟩

theorem fini_all_empty (empty : daemon.world.store = storeReinit)
    (ring : Ring daemon.links STORE_NOTIF []) : ∃ after, finiAll daemon = .ok after := by
  apply (fini_all_ok_iff _ ring).mpr
  · rw [empty]
    exact fun _ member => nomatch member
  · rw [empty]
    exact List.nodup_nil

variable [DecidableEq NameBucket] [DecidableEq IndexBucket]

theorem load_completes (platform : Platform NameBucket IndexBucket Kstate)
    {world : OperWorld NameBucket IndexBucket Kstate} (empty : world.store = storeReinit)
    (subscribed : world.gate.notif = true) :
    ∃ ret after, storeLoad (beside platform) world = .ok (ret, after) ∧
      (ret ≠ 0 → after.store = storeReinit) := by
  unfold storeLoad gateLoadLinks
  cases asked : (beside platform).kernel.dump world.kernel with
  | mk answer kernel =>
      simp only
      cases answer with
      | error error => exact ⟨_, _, rfl, fun _ => empty⟩
      | ok links =>
          cases links with
          | nil => exact ⟨_, _, rfl, fun _ => empty⟩
          | cons link rest =>
              have none_yet : LoadEnrolment.Filled (beside platform).hash world.objects world.next
                  [] world.store := by
                rw [empty]
                exact LoadEnrolment.filled_reinit ..
              have alike : LoadEnrolment.Matches (beside platform) []
                  { world with kernel } { world with kernel } :=
                ⟨none_yet, none_yet, rfl, rfl, subscribed⟩
              obtain ⟨_, after, _, loads, _⟩ := LoadEnrolment.loops_select (link :: rest) alike
              exact ⟨_, after, loads, fun failed => absurd rfl failed⟩

omit [DecidableEq NameBucket] [DecidableEq IndexBucket] in
theorem store_init_completes (unsubscribed : daemon.world.gate.notif = false) :
    ∃ next, DaemonLife.storeInit daemon = .ok next ∧ next.world.store = storeReinit ∧
      next.world.gate.notif = true ∧ Ring next.links STORE_NOTIF [] := by
  unfold DaemonLife.storeInit
  rw [unsubscribed, if_neg Bool.false_ne_true]
  exact ⟨_, rfl, rfl, rfl, ring_init daemon.links⟩

theorem open_store_completes (service : Service) (reports : KernelReports platform.kernel)
    (unsubscribed : daemon.world.gate.notif = false) :
    ∃ ret next, openStore service platform daemon = .ok (ret, next) ∧
      (ret = 0 → Running platform next) := by
  obtain ⟨inited, inits, empty, subscribed, ring⟩ := store_init_completes unsubscribed
  obtain ⟨ret, enabled, enables, enabling⟩ := enable_completes service inited
  have listed : Ring (subscribedLinks inited.links) STORE_NOTIF [OPER_SUB] :=
    ring_subscribed (ring_subscriber ring)
  have left := ring_unsubscribed listed
  unfold openStore
  simp only [inits, enables, ok_bind]
  cases enabling with
  | refused gate failed =>
      rw [if_pos failed]
      obtain ⟨after, fini⟩ : ∃ after, finiAll (refusedNotif gate inited) = .ok after :=
        fini_all_empty empty left
      rw [fini]
      exact ⟨ret, after, rfl, fun zero => absurd zero failed⟩
  | enabled =>
      rw [if_neg (not_not.mpr rfl)]
      obtain ⟨loadRet, loaded, loads, unloaded⟩ : ∃ loadRet loaded,
          storeLoad (beside platform) (enabledNotif inited).world = .ok (loadRet, loaded) ∧
            (loadRet ≠ 0 → loaded.store = storeReinit) :=
        load_completes platform empty subscribed
      rw [loads]
      simp only [ok_bind]
      by_cases failed : loadRet ≠ 0
      · rw [if_pos failed]
        obtain ⟨after, fini⟩ : ∃ after,
            finiAll (nlifdDisableNotif (loadedStore inited loaded)) = .ok after :=
          fini_all_empty (unloaded failed) left
        unfold loadedStore at fini
        rw [fini]
        exact ⟨loadRet, after, rfl, fun zero => absurd zero failed⟩
      · rw [if_neg failed]
        refine ⟨0, _, rfl, fun _ => ⟨?_, listed⟩⟩
        have kept : Kept (beside platform) (enabledNotif inited).world := by
          have linked := linked_reinit (beside platform).hash inited.world.objects inited.world.next
          have indexed := indexed_reinit (beside platform).hash inited.world.objects
          rw [← empty] at linked indexed
          exact ⟨linked, subscribed, fun _ => indexed⟩
        exact load_kept (beside_reports reports) kept loads

theorem open_completes (service : Service) (reports : KernelReports platform.kernel)
    (daemon : Nlifd NameBucket IndexBucket Kstate) :
    ∃ ret next, nlifdOpen service platform daemon = .ok (ret, next) ∧
      (ret = 0 → Running platform next) := by
  unfold nlifdOpen
  split
  · rename_i failed
    exact ⟨_, _, rfl, fun zero => absurd zero failed⟩
  · cases created : service.sockCreate with
    | some error =>
        have failed : ynlErr error ≠ 0 := ne_of_lt (ynl_err_negative error)
        simp only [gateInit, created, if_pos failed]
        exact ⟨_, _, rfl, fun zero => absurd zero failed⟩
    | none =>
        simp only [gateInit, created, ne_eq, not_true_eq_false, if_false]
        exact open_store_completes service reports rfl

omit [DecidableEq NameBucket] [DecidableEq IndexBucket] in
theorem Running.session (running : Running platform daemon) {links : Links Addr}
    (same : links = daemon.links) (session : Session) (subscribed : List Resource)
    (config : List ConfigEntry) (acts : List (ResourceLedger.Act Resource)) :
    Running platform ⟨setSession session daemon.world, links, subscribed, config, acts⟩ where
  kept := ⟨running.kept.linked, running.kept.subscribed, running.kept.indexed⟩
  ring := same ▸ running.ring

omit [DecidableEq NameBucket] [DecidableEq IndexBucket] in
theorem subscribe_session {answer : SrError}
    (done : subscribeLoaded service datastore daemon = .ok (answer, next)) :
    next.links = daemon.links ∧ ∃ session, next.world = setSession session daemon.world := by
  unfold subscribeLoaded at done
  simp only at done
  split at done
  · cases done
    exact ⟨rfl, daemon.world.kernel.2, rfl⟩
  · obtain ⟨⟨ret, world⟩, filled, done⟩ := (bind_ok_iff ..).mp done
    obtain ⟨⟨setupRet, session⟩, _, same⟩ := (bind_ok_iff ..).mp filled
    cases same
    simp only at done
    split at done
    · cases done
      exact ⟨rfl, session, rfl⟩
    · split at done
      · cases done
        exact ⟨rfl, session, rfl⟩
      · cases done
        exact ⟨rfl, session, rfl⟩

omit [DecidableEq NameBucket] [DecidableEq IndexBucket] in
theorem reset_frame {answer : SrError}
    (done : DaemonLife.nlifdIfaceResetConfigDstore tree daemon = .ok (answer, next)) :
    next.links = daemon.links ∧ next.world = daemon.world := by
  unfold DaemonLife.nlifdIfaceResetConfigDstore at done
  split at done
  · cases done
    exact ⟨rfl, rfl⟩
  · obtain ⟨built, _, done⟩ := (bind_ok_iff ..).mp done
    cases built with
    | error err =>
        cases done
        exact ⟨rfl, rfl⟩
    | ok entries =>
        simp only at done
        split at done
        · cases done
          exact ⟨rfl, rfl⟩
        · cases done
          exact ⟨rfl, rfl⟩

omit [DecidableEq NameBucket] [DecidableEq IndexBucket] in
theorem load_session (done : nlifdLoad service tree datastore daemon = .ok (ret, next)) :
    next.links = daemon.links ∧ ∃ session, next.world = setSession session daemon.world := by
  unfold nlifdLoad at done
  split at done
  · cases done
    exact ⟨rfl, daemon.world.kernel.2, rfl⟩
  · obtain ⟨⟨answer, loaded⟩, loads, same⟩ := (bind_ok_iff ..).mp done
    cases same
    have framed : loaded.links = daemon.links ∧
        ∃ session, loaded.world = setSession session daemon.world := by
      cases load_in_context_cases loads with
      | unprobed | unread => exact ⟨rfl, daemon.world.kernel.2, rfl⟩
      | present _ _ subscribes =>
          have framed := subscribe_session subscribes
          exact framed
      | unwritten _ _ resets =>
          obtain ⟨links, world⟩ := reset_frame resets
          exact ⟨links, daemon.world.kernel.2, world⟩
      | written _ _ resets subscribes =>
          obtain ⟨links, world⟩ := reset_frame resets
          obtain ⟨linksAfter, session, worldAfter⟩ := subscribe_session subscribes
          refine ⟨linksAfter.trans links, session, ?_⟩
          rw [worldAfter, world]
          rfl
    exact framed

omit [DecidableEq NameBucket] [DecidableEq IndexBucket] in
theorem load_running (running : Running platform daemon)
    (done : nlifdLoad service tree datastore daemon = .ok (ret, next)) :
    Running platform next := by
  obtain ⟨links, session, world⟩ := load_session done
  have moved := running.session rfl session next.subscribed next.config next.acts
  rw [← world, ← links] at moved
  exact moved

theorem push_oper_kept (reports : KernelReports platform.kernel) {interface : Addr}
    {world after : OperWorld NameBucket IndexBucket Kstate} (kept : Kept (beside platform) world)
    (enrolled : Enrolled interface world)
    (done : OperModel.nlifdPushOper datastore platform interface world = .ok after) :
    Kept (beside platform) after := by
  obtain ⟨⟨outcome, middle⟩, read, done⟩ := (bind_ok_iff ..).mp done
  obtain ⟨⟨synced, reached⟩, sync, read⟩ := (bind_ok_iff ..).mp read
  have reachedKept := sync_kept (beside_reports reports) kept enrolled sync
  have middleKept : Kept (beside platform) middle := by
    simp only at read
    split at read
    · cases read
      exact reachedKept
    · cases read
      exact reachedKept
  cases outcome with
  | error err =>
      cases done
      exact middleKept
  | ok name =>
      simp only at done
      split at done
      · cases done
        exact middleKept
      · obtain ⟨session, _, done⟩ := (bind_ok_iff ..).mp done
        cases done
        exact ⟨middleKept.linked, middleKept.subscribed, middleKept.indexed⟩

theorem serving_step_kept (reports : KernelReports platform.kernel) {op : DaemonOp}
    {answer : DaemonRet} {world after : OperWorld NameBucket IndexBucket Kstate}
    (kept : Kept (beside platform) world)
    (stepped : (servingMachine sysrepo datastore platform).step op world = .ok (answer, after)) :
    Kept (beside platform) after := by
  cases op with
  | change event changes =>
      have called : DaemonCalls.Called (beside platform) world world :=
        ⟨kept, DaemonCalls.reaches_refl world⟩
      have stepped : (DaemonRun.daemonMachine sysrepo (beside platform)).step
          (.change event changes) world = .ok (answer, after) := stepped
      exact (DaemonCalls.step_called (beside_reports reports) called stepped).kept
  | notify notifications =>
      obtain ⟨⟨_, reached⟩, dispatched, same⟩ := (map_ok_iff ..).mp stepped
      cases same
      exact notify_kept (fun _ _ _ kept enrolled observed =>
        push_oper_kept reports kept enrolled observed) notifications kept dispatched

theorem serve_running (reports : KernelReports platform.kernel) {events : List DaemonOp}
    (running : Running platform daemon)
    (done : serve sysrepo datastore platform events daemon = .ok next) :
    Running platform next := by
  induction events generalizing daemon with
  | nil =>
      cases done
      exact running
  | cons op rest ih =>
      obtain ⟨⟨_, world⟩, stepped, done⟩ := (bind_ok_iff ..).mp done
      refine ih ?_ done
      exact ⟨serving_step_kept reports running.kept stepped, running.ring⟩

omit [DecidableEq NameBucket] [DecidableEq IndexBucket] in
theorem close_ok_iff (running : Running platform daemon) :
    (∃ after, nlifdClose daemon = .ok after) ↔ ∀ hndl ∈ daemon.world.store.ifaces,
      (daemon.world.objects hndl.iface).state = .invalid →
        Held (daemon.world.objects hndl.iface) := by
  have distinct : ((nlifdDisableNotif daemon).world.store.ifaces.map Hndl.iface).Nodup := by
    have listed := kept_distinct running.kept
    exact listed
  have completes := fini_all_ok_iff distinct (ring_unsubscribed running.ring)
  refine completes.trans
    ⟨fun held hndl member _ => held hndl member, fun dangling hndl member => ?_⟩
  by_cases invalid : (daemon.world.objects hndl.iface).state = .invalid
  · exact dangling hndl member invalid
  · exact (running.kept.linked.sound hndl member).held invalid

omit [DecidableEq NameBucket] [DecidableEq IndexBucket] in
theorem close_releases (running : Running platform daemon)
    (done : nlifdClose daemon = .ok next) (interface : Addr) :
    (Enrolled interface daemon.world →
        next.world.objects interface = released (daemon.world.objects interface)) ∧
      (¬ Enrolled interface daemon.world →
        next.world.objects interface = daemon.world.objects interface) := by
  obtain ⟨_, releases, rfl⟩ := fini_all_cases done
  obtain ⟨_, rfl⟩ := (store_release_ok_iff (kept_distinct running.kept) _).mp releases
  have listed : interface ∈ daemon.world.store.ifaces.map Hndl.iface ↔
      Enrolled interface daemon.world := by
    simp [Enrolled, List.mem_map]
  exact ⟨fun enrolled => if_pos (listed.mpr enrolled),
    fun unenrolled => if_neg fun member => unenrolled (listed.mp member)⟩

/-- Whatever is answered, opening ends; and after any events of an open daemon, closing
ends exactly where each enrolled interface that is `INVALID` still holds its strings. It
then releases those of every enrolled interface once, and touches no other object. -/
theorem daemon_closes_iff (service : Service) (reports : KernelReports platform.kernel)
    (daemon : Nlifd NameBucket IndexBucket Kstate) :
    ∃ ret opened, nlifdOpen service platform daemon = .ok (ret, opened) ∧ (ret = 0 →
      ∀ tree datastore loadRet loaded, nlifdLoad service tree datastore opened =
        .ok (loadRet, loaded) →
      ∀ sysrepo events served, serve sysrepo datastore platform events loaded = .ok served →
        ((∃ closed, nlifdClose served = .ok closed) ↔ ∀ hndl ∈ served.world.store.ifaces,
          (served.world.objects hndl.iface).state = .invalid →
            Held (served.world.objects hndl.iface)) ∧
        ∀ closed, nlifdClose served = .ok closed → ∀ interface,
          (Enrolled interface served.world →
            closed.world.objects interface = released (served.world.objects interface)) ∧
          (¬ Enrolled interface served.world →
            closed.world.objects interface = served.world.objects interface)) := by
  obtain ⟨ret, opened, opens, runs⟩ := open_completes service reports daemon
  refine ⟨ret, opened, opens, ?_⟩
  intro zero tree datastore loadRet loaded loads sysrepo events served serves
  have running := serve_running reports (load_running (runs zero) loads) serves
  exact ⟨close_ok_iff running, fun closed closes => close_releases running closes⟩

end Running

def servedOnce : Except Fault ((Int × Int) × (Nlifd (Fin (2 ^ NLIF_STORE_NAMEH_BITS))
    (Fin (2 ^ NLIF_STORE_INDXH_BITS)) Unit × Nlifd (Fin (2 ^ NLIF_STORE_NAMEH_BITS))
    (Fin (2 ^ NLIF_STORE_INDXH_BITS)) Unit) × Nlifd (Fin (2 ^ NLIF_STORE_NAMEH_BITS))
    (Fin (2 ^ NLIF_STORE_INDXH_BITS)) Unit) := do
  let (first, opened) ← nlifdOpen answering oneLinkPlatform memory
  let (second, loaded) ←
    nlifdLoad answering agreeingTree AdminStatus.takingDatastore opened
  let served ← serve agreeingSysrepo AdminStatus.takingDatastore oneLinkPlatform
    [.change .change [enableLink]] loaded
  .ok ((first, second), (opened, loaded), served)

theorem enabled_daemon_closes :
    ∃ opened loaded served closed,
      nlifdOpen answering oneLinkPlatform memory = .ok (0, opened) ∧
      nlifdLoad answering agreeingTree AdminStatus.takingDatastore opened = .ok (0, loaded) ∧
      serve agreeingSysrepo AdminStatus.takingDatastore oneLinkPlatform
        [.change .change [enableLink]] loaded = .ok served ∧
      nlifdClose served = .ok closed ∧ ∀ interface, Enrolled interface served.world →
        closed.world.objects interface = released (served.world.objects interface) := by
  have result : (fun done => (done.1, decide (AllValid done.2.2.world))) <$>
      servedOnce = .ok ((0, 0), true) := by
    decide +kernel
  obtain ⟨⟨codes, ⟨opened, loaded⟩, served⟩, done, same⟩ := (map_ok_iff ..).mp result
  obtain ⟨rfl, valid⟩ := Prod.mk.inj same
  have valid : AllValid served.world := of_decide_eq_true valid
  obtain ⟨⟨first, _⟩, opens, done⟩ := (bind_ok_iff ..).mp done
  obtain ⟨⟨second, _⟩, loads, done⟩ := (bind_ok_iff ..).mp done
  obtain ⟨_, serves, done⟩ := (bind_ok_iff ..).mp done
  cases done
  have reports : KernelReports oneLinkPlatform.kernel := one_link_kernel_reports
  obtain ⟨ret, reached, opens', closes⟩ := daemon_closes_iff answering reports memory
  cases opens.symm.trans opens'
  have ending := closes rfl _ _ _ _ loads _ _ _ serves
  obtain ⟨closed, done⟩ := ending.1.mpr fun hndl member invalid =>
    absurd invalid (valid hndl member)
  exact ⟨_, _, _, closed, opens, loads, serves, done, fun interface => (ending.2 closed done
    interface).1⟩

end Nlif.DaemonClose
