import Nlif.StoreFeed

/-!
# The daemon and the notifications of its links

What the calls of the daemon on its interfaces keep, its events keep. So its cache stays in
step with links that change at any moment, also between the requests of one event.
-/

namespace Nlif.DaemonFeed

open LinkModel IfaceModel FaultWalk FaultLoop StoreModel GateModel GateSpec LabelledRun
  StagedRefresh DaemonModel DaemonSpec DaemonRun LinkFeed StoreFeed
open LibraryRun (Enrolled Kept)
open DaemonCalls (listening listening_kept)
open OperMirror (Heard skipped_iff)

set_option autoImplicit false

variable {NameBucket IndexBucket Kstate : Type} [DecidableEq NameBucket] [DecidableEq IndexBucket]

structure CallInvariant (platform : Platform NameBucket IndexBucket Kstate)
    (invariant : World NameBucket IndexBucket Kstate → Prop) : Prop where
  kept : ∀ {world}, invariant world → Kept platform world
  called : ∀ {callee interface world}, invariant world →
    invariant (callAsserting callee interface world)
  sync : ∀ {interface world ret next}, invariant world → Enrolled interface world →
    ifaceSync platform interface world = .ok (ret, next) → invariant next
  set : ∀ {value interface world ret next}, invariant world → Enrolled interface world →
    ifaceSetAdmstate platform value interface world = .ok (ret, next) → invariant next
  apply : ∀ {interface world ret next}, invariant world → Enrolled interface world →
    ifaceApply platform interface world = .ok (ret, next) → invariant next

namespace CallInvariant

variable {platform : Platform NameBucket IndexBucket Kstate} {sysrepo : Sysrepo}
  {invariant : World NameBucket IndexBucket Kstate → Prop}
  {world next : World NameBucket IndexBucket Kstate} {ret : Int} {answer : SrError}
  {changes : List LeafChange} {interface : Addr}

theorem effect (calls : CallInvariant platform invariant) (holds : invariant world)
    {change : LeafChange} (effect : Effect platform change world next) : invariant next := by
  cases effect with
  | reads reads =>
      cases reads with
      | nothing => exact holds
      | unread found sync =>
          exact calls.sync holds (from_node_enrolled (calls.kept holds) found) sync
      | read found sync =>
          exact calls.called (calls.sync holds (from_node_enrolled (calls.kept holds) found) sync)
  | set found done => exact calls.set holds (from_node_enrolled (calls.kept holds) found) done

theorem apply_ifaces (calls : CallInvariant platform invariant) (holds : invariant world)
    (done : applyIfaces platform world = .ok (ret, next)) : invariant next := by
  refine (stopping_invariant (fun state => invariant state ∧
    state.store.ifaces = world.store.ifaces) ?_ done ⟨holds, rfl⟩).1
  intro hndl member state code after before visited
  obtain ⟨middle, applied, spoken⟩ := apply_iface_ok visited
  have reached := calls.apply before.1 ⟨hndl, before.2 ▸ member, rfl⟩ applied
  have listed := (apply_local applied).ifaces.trans before.2
  cases spoken with
  | inl named =>
      rw [named.2]
      exact ⟨calls.called reached, listed⟩
  | inr silent =>
      rw [silent.2]
      exact ⟨reached, listed⟩

theorem aborts (calls : CallInvariant platform invariant) (holds : invariant world)
    (done : nlifdIfaceProcessAborts sysrepo platform changes world = .ok (answer, next)) :
    invariant next := by
  obtain ⟨restored, handled, passes⟩ := process_aborts_ok_iff.mp done
  have staged : invariant restored := stopping_invariant invariant
    (fun _ _ _ _ _ before visited => calls.effect before (restore_hndlr_effect visited).2)
    handled holds
  refine (passes.invariant (fun state => invariant state.2 ∧
    state.2.store.ifaces = restored.store.ifaces) ?_ ⟨staged, rfl⟩).1
  intro hndl member state code after before visited _
  have applied := abort_iface_ok visited
  exact ⟨calls.apply before.1 ⟨hndl, before.2 ▸ member, rfl⟩ applied,
    (apply_local applied).ifaces.trans before.2⟩

theorem transaction (calls : CallInvariant platform invariant) (holds : invariant world)
    (transaction : Transaction sysrepo platform changes world answer next) : invariant next := by
  have handles : ∀ {answer : SrError} {staged : World NameBucket IndexBucket Kstate},
      srplugProcessChildChanges (nlifdIfaceChangeHndlr platform) changes world =
        .ok (answer, staged) → invariant staged :=
    fun handled => stopping_invariant invariant
      (fun _ _ _ _ _ before visited => calls.effect before (change_hndlr_effect visited))
      handled holds
  cases transaction with
  | rejected handled => exact handles handled
  | applied handled applied => exact calls.apply_ifaces (handles handled) applied
  | rolledBack handled refused _ aborted =>
      exact calls.aborts (calls.apply_ifaces (handles handled) refused) aborted

theorem on_iface_change (calls : CallInvariant platform invariant) (holds : invariant world)
    {event : SrEvent}
    (done : nlifdOnIfaceChange sysrepo platform event changes world = .ok (answer, next)) :
    invariant next := by
  cases event with
  | enabled | change => exact calls.transaction holds (process_changes_ok_iff.mp done)
  | done =>
      cases done
      exact holds
  | abort => exact calls.aborts holds done

theorem push_oper (calls : CallInvariant platform invariant) (holds : invariant world)
    (enrolled : Enrolled interface world)
    (done : nlifdPushOper sysrepo platform interface world = .ok next) : invariant next := by
  obtain ⟨_, middle, sync, pushed⟩ := push_oper_ok done
  have synced := calls.sync holds enrolled sync
  cases pushed with
  | inl same => exact same ▸ synced
  | inr read =>
      obtain ⟨_, oper | admin | both⟩ := read
      · exact oper ▸ calls.called synced
      · exact admin ▸ calls.called synced
      · exact both ▸ calls.called (calls.called synced)

end CallInvariant

section Feed

variable {hash : Hashing NameBucket IndexBucket} {sysrepo : Sysrepo}
  {world next : World NameBucket IndexBucket Host} {ret : Int}

/-- A sound store in step with the kernel, given the notifications taken. -/
structure Fed (hash : Hashing NameBucket IndexBucket) (taken : List Notification)
    (world : World NameBucket IndexBucket Host) : Prop where
  kept : Kept (feedPlatform hash) world
  inStep : InStep taken world.kernel world

theorem fed_calls (hash : Hashing NameBucket IndexBucket) (taken : List Notification) :
    CallInvariant (feedPlatform hash) (Fed hash taken) where
  kept fed := fed.kept
  called fed := ⟨fed.kept.record _, fed.inStep⟩
  sync fed enrolled sync :=
    ⟨LibraryRun.sync_kept feed_kernel_reports fed.kept enrolled sync,
      sync_in_step fed.kept.subscribed fed.inStep enrolled sync⟩
  set {value} _ _ _ _ fed enrolled done :=
    have argument : (Setter.admstate value).Valid := trivial
    ⟨LibraryRun.set_kept feed_kernel_reports fed.kept enrolled argument done,
      set_in_step fed.kept.subscribed fed.inStep enrolled done⟩
  apply fed enrolled done :=
    ⟨apply_enrolled_kept fed.kept enrolled done, apply_in_step fed.inStep done⟩

theorem change_fed {taken : List Notification} {notification : Notification}
    (heard : Heard notification) (fed : Fed hash (notification :: taken) world)
    (done : gateNotify (feedPlatform hash) (nlifdPushOper sysrepo (feedPlatform hash))
      (.change notification.link) world = .ok (ret, next)) : Fed hash taken next := by
  obtain ⟨_, after, rfl, outcome⟩ := change_heard fed.kept done
  have reached : Fed hash taken after := by
    cases outcome with
    | inl unknown =>
        rw [unknown.1]
        exact ⟨fed.kept, fed.inStep.unknown heard unknown.2⟩
    | inr refreshes =>
        obtain ⟨interface, enrolled, idx, outcome⟩ := refreshes
        have refreshed : Fed hash taken (world.setObject interface
            (ifaceRefreshState (world.objects interface) notification.link).2) :=
          ⟨LibraryRun.refresh_kept fed.kept interface notification.link,
            fed.inStep.refresh fed.kept heard enrolled idx⟩
        cases outcome with
        | inl observed => exact (fed_calls hash taken).push_oper refreshed enrolled observed
        | inr same => exact same ▸ refreshed
  exact ⟨reached.kept.record _, reached.inStep⟩

theorem dispatch_fed (notifications : List Notification) {taken : List Notification}
    (fed : Fed hash (notifications ++ taken) world)
    (done : nlifdDispatchNotif sysrepo (feedPlatform hash) notifications world =
      .ok (ret, next)) : Fed hash taken next := by
  unfold nlifdDispatchNotif at done
  induction notifications generalizing world with
  | nil =>
      cases done
      exact fed
  | cons notification rest ih =>
      unfold gateNotifyChanges at done
      split at done
      · rename_i skipped
        exact ih ⟨fed.kept, fed.inStep.skip ((skipped_iff _).mp skipped)⟩ done
      · rename_i heard
        obtain ⟨⟨code, middle⟩, notified, done⟩ := (bind_ok_iff ..).mp done
        have listened : Heard notification := not_not.mp (mt (skipped_iff _).mpr heard)
        have zero : code = 0 := (change_heard fed.kept notified).1
        have after := change_fed listened fed notified
        subst zero
        exact ih after done

inductive SystemOp where
  | change (event : SrEvent) (changes : List LeafChange)
  | serve (count : Nat)
  | happen (happening : Happening)

/-- The daemon beside its kernel: `nlifd_dispatch_notif()` is served the first notifications
of the queue. -/
def systemMachine (sysrepo : Sysrepo) (hash : Hashing NameBucket IndexBucket) :
    Machine (World NameBucket IndexBucket Host) SystemOp DaemonRet Fault where
  admits _ _ := True
  step
    | .change event changes, world =>
        (daemonMachine sysrepo (feedPlatform hash)).step (.change event changes) world
    | .serve count, world =>
        (daemonMachine sysrepo (feedPlatform hash)).step
          (.notify (world.kernel.pending.take count))
          { world with kernel := world.kernel.take count }
    | .happen happening, world =>
        .ok (.code 0, { world with kernel := world.kernel.happen happening })

theorem system_step_fed (fed : Fed hash [] world) {op : SystemOp} {answer : DaemonRet}
    (stepped : (systemMachine sysrepo hash).step op world = .ok (answer, next)) :
    Fed hash [] next := by
  cases op with
  | change event changes =>
      obtain ⟨⟨_, _⟩, done, same⟩ := (map_ok_iff ..).mp stepped
      cases same
      exact (fed_calls hash []).on_iface_change fed done
  | serve count =>
      obtain ⟨⟨_, _⟩, done, same⟩ := (map_ok_iff ..).mp stepped
      cases same
      have before := fed.inStep.take count
      rw [← List.append_nil (world.kernel.pending.take count)] at before
      have taken : Fed hash (world.kernel.pending.take count ++ [])
          { world with kernel := world.kernel.take count } :=
        ⟨⟨fed.kept.linked, fed.kept.subscribed, fed.kept.indexed⟩, before⟩
      exact dispatch_fed _ taken done
  | happen happening =>
      cases stepped
      exact ⟨⟨fed.kept.linked, fed.kept.subscribed, fed.kept.indexed⟩,
        fed.inStep.moved fun before => before.happen happening⟩

theorem open_fed {objects : Objects} {host : Host}
    (opened : nlifdOpen (feedPlatform hash) objects host = .ok (ret, world)) :
    Fed hash [] world := by
  have kept : Kept (feedPlatform hash) (listening objects host) := listening_kept objects host
  refine ⟨LibraryRun.load_kept feed_kernel_reports kept opened, load_in_step id id kept ?_ opened⟩
  intro interface enrolled
  obtain ⟨_, member, _⟩ := enrolled
  cases member

/-- However the links change, also between the requests of one event, in every run of the
daemon what is queued of an enrolled interface leads to the link it has, and an interface of
which nothing is queued shows its link. -/
theorem daemon_catches_up {objects : Objects} {host : Host}
    {start : World NameBucket IndexBucket Host}
    (opened : nlifdOpen (feedPlatform hash) objects host = .ok (0, start))
    {log : List (SystemOp × DaemonRet)} (run : Run (systemMachine sysrepo hash) start log world)
    (interface : Addr) (enrolled : Enrolled interface world) :
    world.kernel.Leading [] (world.objects interface).idx (shown (world.objects interface)) ∧
      (Untold world.kernel.pending (world.objects interface).idx →
        Shows world.kernel (world.objects interface)) := by
  have fed : Fed hash [] world := run_invariant (Fed hash []) (open_fed opened)
    (fun _ _ _ _ before _ stepped => system_step_fed before stepped) run
  exact ⟨fed.inStep interface enrolled, fed.inStep.current enrolled⟩

end Feed

def meetingHost : Host :=
  .joined oneLinkHost.links [1] (fun request => ⟨if request = 1 then [.changes runningLink] else [],
    none⟩) oneLinkHost.wellFormed

def meetingWorld : CodeWorld Host :=
  match nlifdOpen (feedPlatform djb2Hashing) (fun _ => ifaceFill LibraryRun.oneLink)
    meetingHost with
  | .ok (_, world) => world
  | .error _ => listening (fun _ => ifaceFill LibraryRun.oneLink) meetingHost

/-- The link runs in the middle of a transaction that enables it. -/
theorem meeting_link_caught_up :
    ∃ world, Run (systemMachine agreeingSysrepo djb2Hashing) meetingWorld
        [(.change .change [enableLink], .sr .ok), (.serve 2, .code 0)] world ∧
      world.kernel.pending.length = 0 ∧ Shows world.kernel (world.objects 0) ∧
      shown (world.objects 0) = carried runningLink.val := by
  have opened : nlifdOpen (feedPlatform djb2Hashing) (fun _ => ifaceFill LibraryRun.oneLink)
      meetingHost = .ok (0, meetingWorld) := rfl
  have one := (Run.start : Run (systemMachine agreeingSysrepo djb2Hashing) meetingWorld [] _).extend
    (.change .change [enableLink]) (.sr .ok) trivial (by decide +kernel)
  have two := one.extend (.serve 2) (.code 0) trivial (by decide +kernel)
  have drained : (((systemMachine agreeingSysrepo djb2Hashing).after (.serve 2)
      ((systemMachine agreeingSysrepo djb2Hashing).after (.change .change [enableLink])
        meetingWorld)).kernel.pending).length = 0 := by
    decide +kernel
  refine ⟨_, two, drained, ?_, by decide +kernel⟩
  apply (daemon_catches_up opened two 0 ⟨⟨1, 0⟩, by decide +kernel, rfl⟩).2
  rw [List.eq_nil_of_length_eq_zero drained]
  exact fun notification listed => nomatch listed

end Nlif.DaemonFeed
