import Nlif.DaemonRun

/-!
# The daemon as a client of the library

Every event of the daemon comes down to calls a client may make: the admin state setter,
a coherent getter, an apply and the dispatch of notifications. `Mirrors` says that two
worlds differ in what they recorded of these calls only, and not in what was asked of the
kernel; every run of the daemon is mirrored by a run of the library that makes no other
call.
-/

namespace Nlif.DaemonCalls

open LinkModel IfaceModel FaultWalk FaultLoop StoreModel GateModel GateSpec StoreLookup
  LabelledRun DaemonModel DaemonSpec DaemonRun
open LibraryRun (Op Ret Enrolled Kept KernelReports)

set_option autoImplicit false

/-- The calls the daemon makes between the load of its store and its end. -/
def DaemonCall : Op → Prop
  | .set (.admstate _) _ | .coherent _ | .apply _ | .notify _ => True
  | _ => False

def asksKernel : Event → Bool
  | .getlink _ _ | .setlink _ _ => true
  | .notified _ _ _ | .called _ _ _ => false

def asked (trace : List Event) : List Event := trace.filter asksKernel

variable {NameBucket IndexBucket Kstate : Type}

/-- The same world after the same requests, with other records in between. -/
def Mirrors (world other : World NameBucket IndexBucket Kstate) : Prop :=
  ∃ trace, other = { world with trace } ∧ asked trace = asked world.trace

theorem mirrors_refl (world : World NameBucket IndexBucket Kstate) : Mirrors world world :=
  ⟨world.trace, rfl, rfl⟩

theorem Mirrors.trans {first second third : World NameBucket IndexBucket Kstate}
    (left : Mirrors first second) (right : Mirrors second third) : Mirrors first third := by
  obtain ⟨_, rfl, same⟩ := left
  obtain ⟨trace, rfl, again⟩ := right
  exact ⟨trace, rfl, again.trans same⟩

section Library

variable [DecidableEq NameBucket] [DecidableEq IndexBucket]
  {platform : Platform NameBucket IndexBucket Kstate} {interface : Addr} {ret : Int}
  {world next other : World NameBucket IndexBucket Kstate}

def daemonLibrary (platform : Platform NameBucket IndexBucket Kstate) :
    Machine (World NameBucket IndexBucket Kstate) Op Ret Fault :=
  (LibraryRun.machine platform).given fun _ op => DaemonCall op

/-- From any mirror of the first world such calls lead to a mirror of the second. -/
def Reaches (platform : Platform NameBucket IndexBucket Kstate)
    (world next : World NameBucket IndexBucket Kstate) : Prop :=
  ∀ other, Mirrors world other → ∃ calls after,
    Run (daemonLibrary platform) other calls after ∧ Mirrors next after

theorem reaches_refl (world : World NameBucket IndexBucket Kstate) :
    Reaches platform world world :=
  fun other mirrors => ⟨[], other, .start, mirrors⟩

theorem Reaches.trans {first second third : World NameBucket IndexBucket Kstate}
    (left : Reaches platform first second) (right : Reaches platform second third) :
    Reaches platform first third := by
  intro other mirrors
  obtain ⟨calls, middle, run, between⟩ := left other mirrors
  obtain ⟨more, after, onward, last⟩ := right middle between
  exact ⟨calls ++ more, after, run.trans onward, last⟩

theorem Reaches.record {event : Event} (reaches : Reaches platform world next)
    (silent : asksKernel event = false) : Reaches platform world (next.record event) := by
  intro other mirrors
  obtain ⟨calls, _, run, trace, rfl, same⟩ := reaches other mirrors
  refine ⟨calls, _, run, trace, rfl, ?_⟩
  have unheard : ¬ asksKernel event = true := by simp [silent]
  exact same.trans (List.filter_cons_of_neg unheard).symm

theorem reaches_call (op : Op) (daemonCall : DaemonCall op)
    (calls : ∀ other, Mirrors world other → LibraryRun.admits other op ∧
      ∃ answer after, LibraryRun.step platform op other = .ok (answer, after) ∧
        Mirrors next after) : Reaches platform world next := by
  intro other mirrors
  obtain ⟨admitted, answer, after, stepped, mirrored⟩ := calls other mirrors
  exact ⟨_, after, .step .start ⟨admitted, daemonCall⟩ stepped, mirrored⟩

omit [DecidableEq IndexBucket] in
theorem reload_mirrored (reload : Reload platform interface world ret next)
    (mirrors : Mirrors world other) :
    ∃ after, Reload platform interface other ret after ∧ Mirrors next after := by
  obtain ⟨trace, rfl, same⟩ := mirrors
  cases reload with
  | unanswered held requested refused =>
      refine ⟨_, .unanswered held requested refused, _, rfl, ?_⟩
      exact congrArg (List.cons _) same
  | accepted held requested given rehashed =>
      refine ⟨_, .accepted held requested given rehashed, _, rfl, ?_⟩
      exact congrArg (List.cons _) same
  | clashed held requested given rehashed failed =>
      refine ⟨_, .clashed held requested given rehashed failed, _, rfl, ?_⟩
      exact congrArg (List.cons _) same

theorem sync_mirrored (subscribed : world.gate.notif = true)
    (sync : ifaceSync platform interface world = .ok (ret, next)) (mirrors : Mirrors world other) :
    ∃ after, ifaceSync platform interface other = .ok (ret, after) ∧ Mirrors next after := by
  cases (iface_sync_ok_iff platform interface world subscribed ret next).mp sync with
  | inl passed =>
      obtain ⟨valid, rfl, rfl⟩ := passed
      have alike := mirrors
      obtain ⟨trace, rfl, _⟩ := alike
      exact ⟨_, sync_passes platform interface _ valid, mirrors⟩
  | inr loaded =>
      obtain ⟨invalid, reload⟩ := loaded
      obtain ⟨after, again, mirrored⟩ := reload_mirrored reload mirrors
      obtain ⟨trace, rfl, _⟩ := mirrors
      refine ⟨after, (iface_sync_ok_iff _ _ _ ?_ _ _).mpr (.inr ⟨?_, again⟩), mirrored⟩
      · exact subscribed
      · exact invalid

theorem sync_calls (subscribed : world.gate.notif = true) (enrolled : Enrolled interface world)
    (sync : ifaceSync platform interface world = .ok (ret, next)) :
    Reaches platform world next := by
  apply reaches_call (.coherent interface) trivial
  intro other mirrors
  obtain ⟨after, again, mirrored⟩ := sync_mirrored subscribed sync mirrors
  obtain ⟨trace, rfl, _⟩ := mirrors
  refine ⟨enrolled, ?_⟩
  simp only [LibraryRun.step, ifaceCoherent, again, ok_bind]
  split
  · exact ⟨_, after, rfl, mirrored⟩
  · exact ⟨_, after, rfl, mirrored⟩

theorem set_calls {up : Bool} (subscribed : world.gate.notif = true)
    (enrolled : Enrolled interface world)
    (done : ifaceSetAdmstate platform up interface world = .ok (ret, next)) :
    Reaches platform world next := by
  apply reaches_call (.set (.admstate up) interface) trivial
  intro other mirrors
  obtain ⟨synced, middle, sync, outcome⟩ := iface_set_ok platform interface world done
  obtain ⟨after, again, mirrored⟩ := sync_mirrored subscribed sync mirrors
  obtain ⟨trace, rfl, _⟩ := mirrors
  refine ⟨⟨trivial, enrolled⟩, ?_⟩
  simp only [LibraryRun.step, ifaceSet, again, ok_bind]
  cases outcome with
  | inl failed =>
      obtain ⟨nonzero, rfl, rfl⟩ := failed
      rw [if_pos nonzero]
      exact ⟨_, after, rfl, mirrored⟩
  | inr staged =>
      obtain ⟨zero, object, stages, rfl⟩ := staged
      obtain ⟨later, rfl, same⟩ := mirrored
      have stagesToo : stage (.admstate up) (middle.objects interface) = .ok (ret, object) := stages
      simp only [zero, ne_eq, not_true_eq_false, if_false, stagesToo, ok_bind]
      exact ⟨_, _, rfl, later, rfl, same⟩

theorem modify_mirrored
    (notified : gateNotify platform noObservers (.modify interface) world = .ok (ret, next))
    (mirrors : Mirrors world other) :
    ∃ after, gateNotify platform noObservers (.modify interface) other = .ok (ret, after) ∧
      Mirrors next after := by
  obtain ⟨trace, rfl, same⟩ := mirrors
  cases (gate_notify_modify_ok_iff platform interface world ret next).mp notified with
  | inl heard =>
      obtain ⟨subscribed, store, rehashed, rfl⟩ := heard
      refine ⟨_, (gate_notify_modify_ok_iff ..).mpr (.inl ⟨subscribed, store, rehashed, rfl⟩), ?_⟩
      exact ⟨_, rfl, same⟩
  | inr unheard =>
      obtain ⟨unsubscribed, rfl, rfl⟩ := unheard
      refine ⟨_, (gate_notify_modify_ok_iff ..).mpr (.inr ⟨unsubscribed, rfl, rfl⟩), ?_⟩
      exact ⟨_, rfl, same⟩

theorem apply_mirrored (apply : Apply platform interface world ret next)
    (mirrors : Mirrors world other) :
    ∃ after, Apply platform interface other ret after ∧ Mirrors next after := by
  have answered : ∀ request kernel code,
      Mirrors (sent interface world request kernel code)
        (sent interface other request kernel code) := by
    intro request kernel code
    obtain ⟨trace, rfl, same⟩ := mirrors
    exact ⟨_, rfl, congrArg (List.cons _) same⟩
  obtain ⟨trace, rfl, same⟩ := mirrors
  cases apply with
  | idle settledAlready => exact ⟨_, .idle settledAlready, _, rfl, same⟩
  | refused dirty built requested =>
      exact ⟨_, .refused dirty built requested, _, rfl, congrArg (List.cons _) same⟩
  | applied dirty built requested notified =>
      obtain ⟨_, again, later, rfl, sameLater⟩ := modify_mirrored notified (answered _ _ _)
      exact ⟨_, .applied dirty built requested again, _, rfl, sameLater⟩
  | clashed dirty built requested notified failed =>
      obtain ⟨_, again, later, rfl, sameLater⟩ := modify_mirrored notified (answered _ _ _)
      exact ⟨_, .clashed dirty built requested again failed, _, rfl, sameLater⟩

theorem apply_calls (enrolled : Enrolled interface world)
    (done : ifaceApply platform interface world = .ok (ret, next)) :
    Reaches platform world next := by
  apply reaches_call (.apply interface) trivial
  intro other mirrors
  obtain ⟨after, again, mirrored⟩ :=
    apply_mirrored ((iface_apply_ok_iff ..).mp done) mirrors
  obtain ⟨trace, rfl, _⟩ := mirrors
  refine ⟨enrolled, ?_⟩
  simp only [LibraryRun.step, (iface_apply_ok_iff ..).mpr again]
  exact ⟨_, after, rfl, mirrored⟩

theorem refresh_calls {link : GetlinkRsp} (subscribed : world.gate.notif = true)
    (valid : gateIslinkValid link = 0)
    (found : storeFindIfaceByindex platform.hash world.objects world.store link.ifiIndex =
      some interface) :
    Reaches platform world
      (world.setObject interface (ifaceRefreshState (world.objects interface) link).2) := by
  apply reaches_call (.notify [⟨true, link⟩]) trivial
  intro other mirrors
  obtain ⟨trace, rfl, same⟩ := mirrors
  let refreshed := World.setObject interface
    (ifaceRefreshState (world.objects interface) link).2 { world with trace }
  have notified : gateNotify platform noObservers (.change link) { world with trace } =
      .ok (0, refreshed.record (.notified .change link.ifiIndex 0)) := by
    simp only [gateNotify, subscribed, if_true, storeOnEvent, storeOnIfaceChange, found,
      noObservers, ite_self]
    rfl
  have dispatched : LibraryRun.step platform (.notify [⟨true, link⟩]) { world with trace } =
      .ok (.code 0, refreshed.record (.notified .change link.ifiIndex 0)) := by
    simp only [LibraryRun.step, gateNotifyChanges, valid, ne_eq, not_true_eq_false, decide_false,
      Bool.not_true, Bool.or_self, Bool.false_eq_true, if_false, notified]
    rfl
  exact ⟨trivial, _, _, dispatched, _, rfl, same⟩

section Events

variable {sysrepo : Sysrepo}

structure Called (platform : Platform NameBucket IndexBucket Kstate)
    (world next : World NameBucket IndexBucket Kstate) : Prop where
  kept : Kept platform next
  reaches : Reaches platform world next

theorem Called.onward {last : World NameBucket IndexBucket Kstate}
    (called : Called platform world next) (kept : Kept platform last)
    (reaches : Reaches platform next last) : Called platform world last :=
  ⟨kept, called.reaches.trans reaches⟩

theorem Called.record {event : Event} (called : Called platform world next)
    (silent : asksKernel event = false) : Called platform world (next.record event) :=
  ⟨called.kept.record event, called.reaches.record silent⟩

variable {start : World NameBucket IndexBucket Kstate}

theorem effect_called (reports : KernelReports platform.kernel)
    (called : Called platform start world) {change : LeafChange}
    (effect : Effect platform change world next) : Called platform start next := by
  have kept := effect_kept reports called.kept effect
  refine called.onward kept ?_
  have subscribed := called.kept.subscribed
  cases effect with
  | reads reads =>
      cases reads with
      | nothing => exact reaches_refl world
      | unread found sync =>
          exact sync_calls subscribed (from_node_enrolled called.kept found) sync
      | read found sync =>
          exact (sync_calls subscribed (from_node_enrolled called.kept found) sync).record rfl
  | set found done =>
      exact set_calls subscribed (from_node_enrolled called.kept found) done

theorem apply_called (called : Called platform start world) (enrolled : Enrolled interface world)
    (done : ifaceApply platform interface world = .ok (ret, next)) :
    Called platform start next :=
  called.onward (apply_enrolled_kept called.kept enrolled done) (apply_calls enrolled done)

theorem apply_iface_called {hndl : Hndl} (called : Called platform start world)
    (member : hndl ∈ world.store.ifaces)
    (done : applyIface platform hndl world = .ok (ret, next)) : Called platform start next := by
  obtain ⟨middle, applied, spoken⟩ := apply_iface_ok done
  have after := apply_called called ⟨hndl, member, rfl⟩ applied
  cases spoken with
  | inl named =>
      obtain ⟨_, rfl⟩ := named
      exact after.record rfl
  | inr silent =>
      obtain ⟨_, rfl⟩ := silent
      exact after

theorem apply_ifaces_called (called : Called platform start world)
    (done : applyIfaces platform world = .ok (ret, next)) : Called platform start next := by
  refine (stopping_invariant (fun state => Called platform start state ∧
    state.store.ifaces = world.store.ifaces) ?_ done ⟨called, rfl⟩).1
  intro hndl member state code after before visited
  obtain ⟨calledBefore, ifaces⟩ := before
  refine ⟨apply_iface_called calledBefore (ifaces ▸ member) visited, ?_⟩
  obtain ⟨middle, applied, spoken⟩ := apply_iface_ok visited
  have listed := (apply_local applied).ifaces.trans ifaces
  cases spoken with
  | inl named =>
      obtain ⟨_, rfl⟩ := named
      exact listed
  | inr silent =>
      obtain ⟨_, rfl⟩ := silent
      exact listed

theorem aborts_called (reports : KernelReports platform.kernel)
    (called : Called platform start world) {changes : List LeafChange} {answer : SrError}
    (done : nlifdIfaceProcessAborts sysrepo platform changes world = .ok (answer, next)) :
    Called platform start next := by
  obtain ⟨restored, handled, passes⟩ := process_aborts_ok_iff.mp done
  have restoredCalled : Called platform start restored :=
    stopping_invariant (Called platform start)
      (fun _ _ _ _ _ before visited =>
        effect_called reports before (restore_hndlr_effect visited).2) handled called
  refine (passes.invariant (fun state => Called platform start state.2 ∧
    state.2.store.ifaces = restored.store.ifaces) ?_ ⟨restoredCalled, rfl⟩).1
  intro hndl member state code after before visited _
  obtain ⟨calledBefore, ifaces⟩ := before
  have applied := abort_iface_ok visited
  exact ⟨apply_called calledBefore ⟨hndl, ifaces ▸ member, rfl⟩ applied,
    (apply_local applied).ifaces.trans ifaces⟩

theorem transaction_called (reports : KernelReports platform.kernel)
    (called : Called platform start world) {changes : List LeafChange} {answer : SrError}
    (transaction : Transaction sysrepo platform changes world answer next) :
    Called platform start next := by
  have handles : ∀ {answer : SrError} {staged : World NameBucket IndexBucket Kstate},
      srplugProcessChildChanges (nlifdIfaceChangeHndlr platform) changes world =
        .ok (answer, staged) → Called platform start staged :=
    fun handled => stopping_invariant (Called platform start)
      (fun _ _ _ _ _ before visited => effect_called reports before (change_hndlr_effect visited))
      handled called
  cases transaction with
  | rejected handled => exact handles handled
  | applied handled applied => exact apply_ifaces_called (handles handled) applied
  | rolledBack handled refused _ aborted =>
      exact aborts_called reports (apply_ifaces_called (handles handled) refused) aborted

theorem push_oper_called (reports : KernelReports platform.kernel)
    (called : Called platform start world) (enrolled : Enrolled interface world)
    (done : nlifdPushOper sysrepo platform interface world = .ok next) :
    Called platform start next := by
  obtain ⟨_, middle, sync, pushed⟩ := push_oper_ok done
  have synced : Called platform start middle :=
    called.onward (LibraryRun.sync_kept reports called.kept enrolled sync)
      (sync_calls called.kept.subscribed enrolled sync)
  cases pushed with
  | inl same => exact same ▸ synced
  | inr read =>
      obtain ⟨_, oper | admin | both⟩ := read
      · exact oper ▸ synced.record rfl
      · exact admin ▸ synced.record rfl
      · exact both ▸ (synced.record rfl).record rfl

theorem change_called (reports : KernelReports platform.kernel)
    (called : Called platform start world) {link : GetlinkRsp} (valid : gateIslinkValid link = 0)
    (notified : gateNotify platform (nlifdPushOper sysrepo platform) (.change link) world =
      .ok (ret, next)) : Called platform start next := by
  have subscribed := called.kept.subscribed
  simp only [gateNotify, subscribed, if_true, storeOnEvent, bind_ok_iff] at notified
  obtain ⟨_, ⟨after, changed, same⟩, notified⟩ := notified
  cases same
  cases notified
  refine Called.record ?_ rfl
  unfold storeOnIfaceChange at changed
  cases found : storeFindIfaceByindex platform.hash world.objects world.store link.ifiIndex with
  | none =>
      rw [found] at changed
      cases changed
      exact called
  | some interface =>
      rw [found] at changed
      obtain ⟨hndl, member, rfl, _⟩ := (find_byindex_iff called.kept.linked ..).mp found
      have refreshed := called.onward (LibraryRun.refresh_kept called.kept hndl.iface link)
        (refresh_calls subscribed valid found)
      simp only at changed
      split at changed
      · exact push_oper_called reports refreshed ⟨hndl, member, rfl⟩ changed
      · cases changed
        exact refreshed

theorem dispatch_called (reports : KernelReports platform.kernel)
    {notifications : List Notification} (called : Called platform start world)
    (done : nlifdDispatchNotif sysrepo platform notifications world = .ok (ret, next)) :
    Called platform start next := by
  unfold nlifdDispatchNotif at done
  induction notifications generalizing world with
  | nil =>
      cases done
      exact called
  | cons notification rest ih =>
      unfold gateNotifyChanges at done
      split at done
      · exact ih called done
      · rename_i heard
        have valid : gateIslinkValid notification.link = 0 := by
          by_contra invalid
          exact heard (by simp [invalid])
        obtain ⟨⟨eventRet, middle⟩, notified, done⟩ := (bind_ok_iff ..).mp done
        have after := change_called reports called valid notified
        simp only at done
        split at done
        · cases done
          exact after
        · exact ih after done

theorem step_called (reports : KernelReports platform.kernel)
    (called : Called platform start world) {op : DaemonOp} {answer : DaemonRet}
    (stepped : (daemonMachine sysrepo platform).step op world = .ok (answer, next)) :
    Called platform start next := by
  cases op with
  | change event changes =>
      obtain ⟨⟨_, after⟩, done, same⟩ := (map_ok_iff ..).mp stepped
      cases same
      cases event with
      | enabled | change =>
          exact transaction_called reports called (process_changes_ok_iff.mp done)
      | done =>
          cases done
          exact called
      | abort => exact aborts_called reports called done
  | notify notifications =>
      obtain ⟨⟨_, after⟩, done, same⟩ := (map_ok_iff ..).mp stepped
      cases same
      exact dispatch_called reports called done

theorem run_called (reports : KernelReports platform.kernel) (kept : Kept platform start)
    {log : List (DaemonOp × DaemonRet)}
    (run : Run (daemonMachine sysrepo platform) start log world) :
    Called platform start world :=
  run_invariant (Called platform start) ⟨kept, reaches_refl start⟩
    (fun _ _ _ _ called _ stepped => step_called reports called stepped) run

/-- The world `nlif_gate_init()`, `nlif_store_init()` and `nlif_store_enable_change_notif()`
leave. -/
def listening (objects : Objects) (kernel : Kstate) : World NameBucket IndexBucket Kstate :=
  { LibraryRun.storeInit objects kernel with gate := { notif := true, member := true } }

omit [DecidableEq NameBucket] [DecidableEq IndexBucket] in
theorem listening_kept (objects : Objects) (kernel : Kstate) :
    Kept platform (listening objects kernel) := by
  have kept := LibraryRun.kept_init platform objects kernel
  exact ⟨kept.linked, rfl, kept.indexed⟩

/-- Every run of the daemon, whatever its events and whatever the kernel and Sysrepo answer,
is a run of the library that loads the store once and then makes daemon calls only: it ends
in the same objects, store and kernel after the same requests. -/
theorem daemon_runs_call_library (reports : KernelReports platform.kernel) {objects : Objects}
    {kernel : Kstate} {start : World NameBucket IndexBucket Kstate}
    (opened : nlifdOpen platform objects kernel = .ok (0, start))
    {log : List (DaemonOp × DaemonRet)}
    (run : Run (daemonMachine sysrepo platform) start log world) :
    ∃ calls after,
      Run (LibraryRun.machine platform) (listening objects kernel) ((.load, .code 0) :: calls)
        after ∧
      (∀ call ∈ calls, DaemonCall call.1) ∧ Mirrors world after := by
  have kept := LibraryRun.load_kept reports (listening_kept objects kernel) opened
  have loaded : LibraryRun.step platform .load (listening objects kernel) =
      .ok (.code 0, start) := by
    unfold LibraryRun.step
    have opens : storeLoad platform (listening objects kernel) = .ok (0, start) := opened
    rw [opens]
    rfl
  have first : Run (LibraryRun.machine platform) (listening objects kernel) [(.load, .code 0)]
      start := .step .start rfl loaded
  have called : Called platform start world := run_called reports kept run
  obtain ⟨calls, after, onward, mirrored⟩ := called.reaches start (mirrors_refl start)
  exact ⟨calls, after, first.trans onward.released, onward.labels, mirrored⟩

end Events

end Library

def openedWorld : CodeWorld Unit :=
  (LibraryRun.machine LibraryRun.oneLinkPlatform).after .load
    (listening (fun _ => ifaceFill LibraryRun.oneLink) ())

/-- The link "a" is enabled, then a transaction for it is aborted. -/
theorem enabled_daemon_calls_library :
    ∃ world, Run (daemonMachine agreeingSysrepo LibraryRun.oneLinkPlatform) openedWorld
        [(.change .change [enableLink], .sr .ok), (.change .abort [enableLink], .sr .ok)] world ∧
      ∃ calls after, Run (LibraryRun.machine LibraryRun.oneLinkPlatform)
          (listening (fun _ => ifaceFill LibraryRun.oneLink) ()) ((.load, .code 0) :: calls)
          after ∧
        (∀ call ∈ calls, DaemonCall call.1) ∧ Mirrors world after := by
  have opened : nlifdOpen LibraryRun.oneLinkPlatform (fun _ => ifaceFill LibraryRun.oneLink) () =
      .ok (0, openedWorld) := rfl
  have one := (Run.start : Run (daemonMachine agreeingSysrepo LibraryRun.oneLinkPlatform)
    openedWorld [] openedWorld).extend (.change .change [enableLink]) (.sr .ok) trivial rfl
  have two := one.extend (.change .abort [enableLink]) (.sr .ok) trivial rfl
  exact ⟨_, two, daemon_runs_call_library LibraryRun.one_link_kernel_reports opened two⟩

end Nlif.DaemonCalls
