import Nlif.ConfigSnapshot
import Nlif.DaemonCalls

/-!
# What the daemon may ask of the kernel

The daemon stages nothing but admin states, so a set-link request of its applies touches
nothing but `IFF_UP` of an enrolled link. `Framed` carries this through the calls of a
daemon together with any `History` relating the requests sent so far to the state of the
kernel.
-/

namespace Nlif.DaemonFrame

open LinkModel IfaceModel FaultWalk StoreModel GateModel GateSpec StagedStates LabelledRun
  DaemonModel DaemonSpec DaemonRun DaemonCalls
open LibraryRun (Op Ret Enrolled Kept KernelReports Reported)
open ConfigSnapshot (Fresh open_fresh)

set_option autoImplicit false

/-- The dirty sets are in order and hold at most the admin state. -/
structure AdminStaged (interface : Iface) : Prop where
  tidy : Tidy interface
  fields : interface.dirtyFields = ∅

theorem admin_staged_fill (link : GetlinkRsp) : AdminStaged (ifaceFill link) :=
  ⟨tidy_fill link, rfl⟩

theorem AdminStaged.invalidated {interface : Iface} (staged : AdminStaged interface) :
    AdminStaged { interface with state := .invalid } :=
  ⟨tidy_invalid staged.tidy rfl rfl, staged.fields⟩

theorem AdminStaged.released {interface : Iface} (staged : AdminStaged interface) :
    AdminStaged { released interface with state := .invalid } :=
  ⟨tidy_invalid staged.tidy rfl rfl, staged.fields⟩

theorem admin_staged_settled (interface : Iface) : AdminStaged (settled interface) :=
  ⟨⟨fun _ => ⟨rfl, rfl⟩, fun dirty => (nomatch dirty), by simp [settled]⟩, rfl⟩

theorem AdminStaged.set {up : Bool} {before after : Iface} {ret : Int}
    (staged : AdminStaged before) (sets : stage (.admstate up) before = .ok (ret, after)) :
    AdminStaged after := by
  cases stage_cases sets with
  | inl same =>
      rw [same]
      exact staged
  | inr edits =>
      obtain ⟨_, rfl, _⟩ := edits
      exact ⟨edited_tidy _ staged.tidy, staged.fields⟩

theorem AdminStaged.refreshed {interface : Iface} (staged : AdminStaged interface)
    (link : GetlinkRsp) : AdminStaged (ifaceRefreshState interface link).2 :=
  ⟨⟨staged.tidy.clean, staged.tidy.dirty, staged.tidy.flags⟩, staged.fields⟩

theorem up_of_only_up {flags : BitVec 32} (only : flags &&& ~~~IFF_UP = 0) (some : flags ≠ 0) :
    flags = IFF_UP := by
  have elsewhere : ∀ i (bound : i < 32), i ≠ 0 → flags[i] = false := by
    intro i bound higher
    have bit := congrArg (fun word : BitVec 32 => word[i]) only
    simpa [iff_up_bit, higher] using bit
  have lowest : flags[0] = true := by
    by_contra unset
    apply some
    ext i bound
    by_cases first : i = 0
    · subst first
      simpa using unset
    · simpa using elsewhere i bound first
  ext i bound
  rw [iff_up_bit]
  by_cases first : i = 0
  · subst first
    simpa using lowest
  · simpa [first] using elsewhere i bound first

def adminRequest (index : UInt32) (flags : BitVec 32) : SetlinkReq where
  ifiIndex := index
  ifiFlags := flags
  ifiChange := IFF_UP
  group := none
  ifname := none
  ifalias := none
  mtu := none
  address := none

theorem AdminStaged.request {interface : Iface} {request : SetlinkReq}
    (staged : AdminStaged interface) (dirty : interface.state = .dirty)
    (built : ifaceSetlinkReq interface = .ok request) :
    request = adminRequest interface.idx interface.flags := by
  have change : interface.dirtyFlags = IFF_UP := by
    apply up_of_only_up staged.tidy.flags
    exact (staged.tidy.dirty dirty).resolve_left fun marked => marked staged.fields
  simp only [ifaceSetlinkReq, staged.fields, Finset.notMem_empty, if_false, ok_bind] at built
  cases built
  rw [change]
  rfl

variable {NameBucket IndexBucket Kstate : Type}

def Indexes (world : World NameBucket IndexBucket Kstate) (index : UInt32) : Prop :=
  ∃ interface, Enrolled interface world ∧ (world.objects interface).idx = index

/-- A relation between the requests sent and the state of the kernel, which holds on when
a member is read or has its admin state set. -/
structure History (kernel : Kernel Kstate) (member : UInt32 → Prop)
    (history : List Event → Kstate → Prop) : Prop where
  getlink : ∀ {index ret requests state}, member index → history requests state →
    history (.getlink index ret :: requests) (kernel.getlink index state).2
  setlink : ∀ {index flags requests state answer next}, member index → history requests state →
    kernel.setlink (adminRequest index flags) state = (answer, next) →
    history (.setlink (adminRequest index flags) (setlinkRet answer) :: requests) next

structure Framed (history : List Event → Kstate → Prop)
    (first world : World NameBucket IndexBucket Kstate) : Prop where
  ifaces : world.store.ifaces = first.store.ifaces
  idx : ∀ interface, Enrolled interface first →
    (world.objects interface).idx = (first.objects interface).idx
  staged : ∀ interface, Enrolled interface first → AdminStaged (world.objects interface)
  history : history (asked world.trace) world.kernel

section Steps

variable {history : List Event → Kstate → Prop} {interface : Addr} {ret : Int}
  {first world next : World NameBucket IndexBucket Kstate}

theorem Framed.enrolled_first (framed : Framed history first world)
    (enrolled : Enrolled interface world) : Enrolled interface first := by
  obtain ⟨hndl, member, same⟩ := enrolled
  exact ⟨hndl, framed.ifaces ▸ member, same⟩

theorem Framed.member (framed : Framed history first world)
    (enrolled : Enrolled interface world) : Indexes first (world.objects interface).idx :=
  ⟨interface, framed.enrolled_first enrolled,
    (framed.idx interface (framed.enrolled_first enrolled)).symm⟩

theorem Framed.mirrors (framed : Framed history first world) (mirrors : Mirrors next world) :
    Framed history first next := by
  obtain ⟨trace, rfl, same⟩ := mirrors
  exact ⟨framed.ifaces, framed.idx, framed.staged, same ▸ framed.history⟩

theorem Framed.turn (framed : Framed history first world) (touched : Local interface world next)
    (idx : (next.objects interface).idx = (world.objects interface).idx)
    (staged : AdminStaged (world.objects interface) → AdminStaged (next.objects interface))
    (kernel : history (asked next.trace) next.kernel) : Framed history first next where
  ifaces := touched.ifaces.trans framed.ifaces
  idx other enrolled := by
    by_cases same : other = interface
    · subst same
      exact idx.trans (framed.idx other enrolled)
    · rw [touched.elsewhere other same]
      exact framed.idx other enrolled
  staged other enrolled := by
    by_cases same : other = interface
    · subst same
      exact staged (framed.staged other enrolled)
    · rw [touched.elsewhere other same]
      exact framed.staged other enrolled
  history := kernel

theorem asked_silent {event : Event} (silent : asksKernel event = false) (trace : List Event) :
    asked (event :: trace) = asked trace :=
  List.filter_cons_of_neg (by simp [silent])

theorem asked_cons {event : Event} (asks : asksKernel event = true) (trace : List Event) :
    asked (event :: trace) = event :: asked trace :=
  List.filter_cons_of_pos asks

section Calls

variable [DecidableEq NameBucket] {platform : Platform NameBucket IndexBucket Kstate}

theorem reload_framed (reports : KernelReports platform.kernel)
    (keeps : History platform.kernel (Indexes first) history) (framed : Framed history first world)
    (enrolled : Enrolled interface world) (reload : Reload platform interface world ret next) :
    Framed history first next := by
  have member := framed.member enrolled
  have touched := reload_local reload
  have requestedHistory : ∀ {answer kernel code},
      platform.kernel.getlink (world.objects interface).idx world.kernel = (answer, kernel) →
      history (.getlink (world.objects interface).idx code :: asked world.trace) kernel := by
    intro answer kernel code requested
    rw [show kernel = (answer, kernel).2 from rfl, ← requested]
    exact keeps.getlink member framed.history
  cases reload with
  | unanswered held requested refused =>
      refine framed.turn touched ?_ ?_ ?_
      · simp [answered, World.setObject, GateSpec.released]
      · intro staged
        simpa [answered, World.setObject] using staged.released
      · exact requestedHistory requested
  | @accepted _ _ link _ held requested given rehashed =>
      obtain ⟨rfl, _⟩ := gate_getlink_ok given
      have same := (reports.getlink _ _ _ _ requested).1
      refine framed.turn touched ?_ ?_ ?_
      · simp [reloaded, answered, World.setObject, ifaceFill, same]
      · intro _
        simpa [reloaded, answered, World.setObject] using admin_staged_fill link
      · exact requestedHistory requested
  | @clashed _ _ link _ _ held requested given rehashed failed =>
      obtain ⟨rfl, _⟩ := gate_getlink_ok given
      have same := (reports.getlink _ _ _ _ requested).1
      refine framed.turn touched ?_ ?_ ?_
      · simp [reloaded, answered, World.setObject, World.invalidate, ifaceFill, same]
      · intro _
        simpa [reloaded, answered, World.setObject, World.invalidate] using
          (admin_staged_fill link).invalidated
      · exact requestedHistory requested

variable [DecidableEq IndexBucket]

theorem sync_framed (reports : KernelReports platform.kernel)
    (keeps : History platform.kernel (Indexes first) history) (framed : Framed history first world)
    (subscribed : world.gate.notif = true) (enrolled : Enrolled interface world)
    (sync : ifaceSync platform interface world = .ok (ret, next)) : Framed history first next := by
  cases (iface_sync_ok_iff _ _ _ subscribed _ _).mp sync with
  | inl passed => exact passed.2.2 ▸ framed
  | inr loaded => exact reload_framed reports keeps framed enrolled loaded.2

theorem set_framed {up : Bool} (reports : KernelReports platform.kernel)
    (keeps : History platform.kernel (Indexes first) history) (framed : Framed history first world)
    (subscribed : world.gate.notif = true) (enrolled : Enrolled interface world)
    (done : ifaceSet platform (.admstate up) interface world = .ok (ret, next)) :
    Framed history first next := by
  obtain ⟨synced, middle, sync, outcome⟩ := iface_set_ok platform interface world done
  have after := sync_framed reports keeps framed subscribed enrolled sync
  cases outcome with
  | inl failed => exact failed.2.2 ▸ after
  | inr sets =>
      obtain ⟨_, object, sets, rfl⟩ := sets
      refine after.turn (local_set_object interface object middle) ?_ ?_ after.history
      · rw [World.set_object_self]
        exact (stage_staged sets).idx
      · intro staged
        rw [World.set_object_self]
        exact staged.set sets

theorem apply_framed (keeps : History platform.kernel (Indexes first) history)
    (framed : Framed history first world) (enrolled : Enrolled interface world)
    (done : ifaceApply platform interface world = .ok (ret, next)) : Framed history first next := by
  have member := framed.member enrolled
  have staged := framed.staged interface (framed.enrolled_first enrolled)
  have touched := apply_local done
  have idx : (next.objects interface).idx = (world.objects interface).idx :=
    apply_field platform interface world (fun _ => rfl) (fun _ => rfl) done interface
  have sentHistory : ∀ {request kernel answer},
      (world.objects interface).state = .dirty →
      ifaceSetlinkReq (world.objects interface) = .ok request →
      platform.kernel.setlink request world.kernel = (answer, kernel) →
      history (.setlink request (setlinkRet answer) :: asked world.trace) kernel := by
    intro request kernel answer dirty built requested
    rw [staged.request dirty built] at requested ⊢
    exact keeps.setlink member framed.history requested
  have heard : ∀ {request kernel code after},
      gateNotify platform noObservers (.modify interface)
        (sent interface world request kernel 0) = .ok (code, after) →
      asked after.trace = .setlink request 0 :: asked world.trace ∧ after.kernel = kernel := by
    intro request kernel code after notified
    refine ⟨?_, (gate_notify_modify_frame _ _ _ notified).2.1⟩
    cases (gate_notify_modify_ok_iff ..).mp notified with
    | inl subscribed =>
        obtain ⟨_, store, _, rfl⟩ := subscribed
        rfl
    | inr unsubscribed =>
        obtain ⟨_, _, rfl⟩ := unsubscribed
        rfl
  refine framed.turn touched idx ?_ ?_
  · intro _
    cases (iface_apply_ok_iff ..).mp done with
    | idle => exact staged
    | refused =>
        rw [World.invalidate, World.set_object_self]
        exact staged.invalidated
    | applied _ _ _ notified =>
        rw [World.set_object_self]
        exact admin_staged_settled _
    | clashed _ _ _ notified =>
        rw [World.invalidate, World.set_object_self,
          (gate_notify_modify_frame _ _ _ notified).1]
        exact staged.invalidated
  · cases (iface_apply_ok_iff ..).mp done with
    | idle => exact framed.history
    | refused dirty built requested => exact sentHistory dirty built requested
    | applied dirty built requested notified | clashed dirty built requested notified =>
        have after := heard notified
        simp only [World.setObject, World.invalidate, after.1, after.2]
        exact sentHistory dirty built requested

omit [DecidableEq NameBucket] [DecidableEq IndexBucket] in
theorem refresh_framed (framed : Framed history first world) (interface : Addr)
    (link : GetlinkRsp) : Framed history first
      (world.setObject interface (ifaceRefreshState (world.objects interface) link).2) := by
  refine framed.turn (local_set_object interface _ world) ?_ ?_ framed.history
  · rw [World.set_object_self]
    rfl
  · intro staged
    rw [World.set_object_self]
    exact staged.refreshed link

theorem notify_framed (kept : Kept platform world) (framed : Framed history first world)
    {notifications : List Notification}
    (done : gateNotifyChanges platform noObservers notifications world = .ok (ret, next)) :
    Framed history first next := by
  refine (LibraryRun.notify_invariant
    (fun state => Kept platform state ∧ Framed history first state) ?_ notifications
    ⟨kept, framed⟩ done).2
  intro link state code after before notified
  obtain ⟨keptBefore, framedBefore⟩ := before
  refine ⟨LibraryRun.change_kept (fun _ _ _ kept _ observed => ?_) keptBefore notified, ?_⟩
  · cases observed
    exact kept
  · obtain ⟨changed, rfl, outcome⟩ := LibraryRun.change_ok keptBefore notified
    cases outcome with
    | inl same =>
        subst same
        exact ⟨framedBefore.ifaces, framedBefore.idx, framedBefore.staged, framedBefore.history⟩
    | inr refreshes =>
        obtain ⟨interface, _, outcome⟩ := refreshes
        have same : changed = state.setObject interface
            (ifaceRefreshState (state.objects interface) link).2 := by
          cases outcome with
          | inl observed => exact (Except.ok.inj observed).symm
          | inr same => exact same
        have after := refresh_framed framedBefore interface link
        subst same
        exact ⟨after.ifaces, after.idx, after.staged, after.history⟩

theorem step_framed (reports : KernelReports platform.kernel)
    (keeps : History platform.kernel (Indexes first) history) (kept : Kept platform world)
    (framed : Framed history first world) {op : Op} {answer : Ret}
    (admitted : (daemonLibrary platform).admits world op)
    (stepped : (daemonLibrary platform).step op world = .ok (answer, next)) :
    Framed history first next := by
  obtain ⟨allowed, daemonCall⟩ := admitted
  cases op with
  | set setter interface =>
      obtain ⟨_, done⟩ := LibraryRun.code_ok stepped
      cases setter with
      | admstate up => exact set_framed reports keeps framed kept.subscribed allowed.2 done
      | name | ifalias | group | mtu | hwaddr => exact daemonCall.elim
  | coherent interface =>
      obtain ⟨⟨value, after⟩, done, same⟩ := (map_ok_iff ..).mp stepped
      cases same
      obtain ⟨_, sync, _⟩ := iface_coherent_ok platform interface world done
      exact sync_framed reports keeps framed kept.subscribed allowed sync
  | apply interface =>
      obtain ⟨_, done⟩ := LibraryRun.code_ok stepped
      exact apply_framed keeps framed allowed done
  | notify notifications =>
      obtain ⟨_, done⟩ := LibraryRun.code_ok stepped
      exact notify_framed kept framed done
  | create | enroll | withdraw | clear | load | reload | newLink | ifaceReload | findByname
  | findByalias | findBystrid | findByindex => exact daemonCall.elim

theorem library_run_framed (reports : KernelReports platform.kernel)
    (keeps : History platform.kernel (Indexes first) history) (kept : Kept platform first)
    (initial : Framed history first first) {calls : List (Op × Ret)}
    (run : Run (daemonLibrary platform) first calls world) : Framed history first world := by
  refine (run_invariant (fun state => Kept platform state ∧ Framed history first state)
    ⟨kept, initial⟩ ?_ run).2
  intro state op answer after before admitted stepped
  exact ⟨LibraryRun.step_kept reports before.1 admitted.1 stepped,
    step_framed reports keeps before.1 before.2 admitted stepped⟩

variable {sysrepo : Sysrepo} {objects : Objects} {kernel : Kstate}
  {start : World NameBucket IndexBucket Kstate}

theorem open_unasked (reports : KernelReports platform.kernel)
    (opened : nlifdOpen platform objects kernel = .ok (ret, start)) : asked start.trace = [] := by
  obtain ⟨answer, after, requested, loaded⟩ := LibraryRun.store_load_ok opened
  have initial : ∀ reached : Kstate, Kept platform
      { LibraryRun.storeInit objects reached with gate := { notif := true, member := true } } :=
    listening_kept objects
  cases loaded with
  | inl same =>
      subst same
      rfl
  | inr dumped =>
      obtain ⟨links, rfl, loaded⟩ := dumped
      refine (LibraryRun.load_each_invariant
        (fun state => Kept platform state ∧ asked state.trace = []) links ?_
        ⟨initial after, rfl⟩ loaded).2
      intro link member state code last before notified
      refine ⟨LibraryRun.new_link_kept before.1 (reports.dump _ _ _ requested link member)
        notified, ?_⟩
      obtain ⟨middle, rfl, outcome⟩ := LibraryRun.new_link_ok before.1 notified
      cases outcome with
      | inl same => exact same ▸ before.2
      | inr enrols => exact enrols.2 ▸ before.2

theorem open_framed (reports : KernelReports platform.kernel)
    (opened : nlifdOpen platform objects kernel = .ok (ret, start))
    (initial : history [] start.kernel) : Framed history start start where
  ifaces := rfl
  idx _ _ := rfl
  staged interface enrolled := by
    obtain ⟨hndl, member, rfl⟩ := enrolled
    obtain ⟨link, object⟩ := (open_fresh reports opened).filled hndl member
    rw [object]
    exact admin_staged_fill link
  history := by
    rw [open_unasked reports opened]
    exact initial

/-- What relates the requests to the kernel when the store is loaded relates them in every
run of the daemon. -/
theorem daemon_run_framed (reports : KernelReports platform.kernel)
    (opened : nlifdOpen platform objects kernel = .ok (0, start))
    (keeps : History platform.kernel (Indexes start) history) (initial : history [] start.kernel)
    {log : List (DaemonOp × DaemonRet)}
    (run : Run (daemonMachine sysrepo platform) start log world) : Framed history start world := by
  have kept := (open_fresh reports opened).kept
  obtain ⟨calls, after, onward, mirrored⟩ :=
    (run_called reports kept run).reaches start (mirrors_refl start)
  have framed := library_run_framed reports keeps kept (open_framed reports opened initial) onward
  exact framed.mirrors mirrored

/-- A request about a member that at most sets its admin state. -/
inductive Administers (member : UInt32 → Prop) : Event → Prop
  | getlink {index : UInt32} (ret : Int) (enrolled : member index) :
      Administers member (.getlink index ret)
  | setlink {index : UInt32} (flags : BitVec 32) (ret : Int) (enrolled : member index) :
      Administers member (.setlink (adminRequest index flags) ret)

omit [DecidableEq NameBucket] [DecidableEq IndexBucket] in
theorem administers_history (kernel : Kernel Kstate) (member : UInt32 → Prop) :
    History kernel member fun requests _ => ∀ event ∈ requests, Administers member event where
  getlink enrolled before event called := by
    cases List.mem_cons.mp called with
    | inl newest => exact newest ▸ .getlink _ enrolled
    | inr earlier => exact before event earlier
  setlink enrolled before _ event called := by
    cases List.mem_cons.mp called with
    | inl newest => exact newest ▸ .setlink _ _ enrolled
    | inr earlier => exact before event earlier

/-- Whatever its events and the answers of Sysrepo and the kernel, a daemon keeps the
interfaces it has loaded under their indices, and asks the kernel for nothing but their
links and to set nothing but their admin state. -/
theorem daemon_asks_for_admin_states (reports : KernelReports platform.kernel)
    (opened : nlifdOpen platform objects kernel = .ok (0, start))
    {log : List (DaemonOp × DaemonRet)}
    (run : Run (daemonMachine sysrepo platform) start log world) :
    world.store.ifaces = start.store.ifaces ∧
      (∀ interface, Enrolled interface start →
        (world.objects interface).idx = (start.objects interface).idx) ∧
      ∀ event ∈ world.trace, asksKernel event = true → Administers (Indexes start) event := by
  have framed := daemon_run_framed reports opened
    (administers_history platform.kernel (Indexes start)) (fun _ none => nomatch none) run
  refine ⟨framed.ifaces, framed.idx, fun event called asks => ?_⟩
  exact framed.history event (List.mem_filter.mpr ⟨called, asks⟩)

end Calls

end Steps

/-- The link "a" is enabled by a transaction, then notified as operational. -/
theorem enabled_daemon_asks_for_admin_states :
    ∃ world, Run (daemonMachine agreeingSysrepo LibraryRun.oneLinkPlatform)
        (started LibraryRun.oneLinkPlatform)
        [(.change .change [enableLink], .sr .ok),
          (.notify [⟨true, { LibraryRun.oneLink with operstate := some 6 }⟩], .code 0)] world ∧
      world.store.ifaces = (started LibraryRun.oneLinkPlatform).store.ifaces ∧
      (∀ interface, Enrolled interface (started LibraryRun.oneLinkPlatform) →
        (world.objects interface).idx =
          ((started LibraryRun.oneLinkPlatform).objects interface).idx) ∧
      ∀ event ∈ world.trace, asksKernel event = true →
        Administers (Indexes (started LibraryRun.oneLinkPlatform)) event := by
  have opened : nlifdOpen LibraryRun.oneLinkPlatform (fun _ => ifaceFill LibraryRun.oneLink) () =
      .ok (0, started LibraryRun.oneLinkPlatform) := rfl
  have one := (Run.start : Run (daemonMachine agreeingSysrepo LibraryRun.oneLinkPlatform)
    (started LibraryRun.oneLinkPlatform) [] _).extend (.change .change [enableLink]) (.sr .ok)
    trivial rfl
  have two := one.extend
    (.notify [⟨true, { LibraryRun.oneLink with operstate := some 6 }⟩]) (.code 0) trivial rfl
  exact ⟨_, two, daemon_asks_for_admin_states LibraryRun.one_link_kernel_reports opened two⟩

end Nlif.DaemonFrame
