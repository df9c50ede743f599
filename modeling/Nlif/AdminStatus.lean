import Nlif.DaemonStaging
import Nlif.OperSetup

/-!
# The admin-status leaves

A transaction changes the cached admin state and leaves the operational datastore
alone; the leaf is written where a notification moves one of the volatile
attributes. After a batch a leaf therefore shows the cached state exactly where it
did before or where the batch moved its interface.
-/

namespace Nlif.AdminStatus

open LinkModel IfaceModel FaultWalk FaultLoop StoreModel GateModel GateSpec StoreInvariant
  LibraryRun LabelledRun OperModel OperMirror OperSetup
open DaemonModel (SrError Sysrepo LeafChange nlifdIfaceFromNode nlifdIfaceChangeHndlr applyIfaces
  applyIface nlifdIfaceProcessChanges srplugProcessChildChanges callAsserting)
open DaemonSpec (Effect Reads apply_state apply_iface_ok change_hndlr_effect)
open DaemonRun (nlifdOpen from_node_enrolled effect_kept apply_enrolled_kept agreeingSysrepo
  enableLink)
open DaemonStaging (set_admstate_ok)
open ConfigSnapshot (open_fresh accepted_transaction apply_name)

set_option autoImplicit false

/-- The if-mib feature is on and Sysrepo accepts every edit. -/
structure Accepting (datastore : Datastore) : Prop where
  ifMib : datastore.ifMib = true
  accepts : ∀ edit, datastore.accepts edit = true
  applies : ∀ session, datastore.applies session = true
  xpath : ∀ name, 0 ≤ datastore.xpath name

section Pushes

variable {datastore : Datastore} {name : CString} {interface : Iface} {session next : Session}

theorem Accepting.refresh_oper_formatted (accepting : Accepting datastore) {ret : SrError}
    (done : nlifdIfaceRefreshOper datastore name interface session = .ok (ret, next)) :
    ∃ value, nlifLinkOperstateStr interface.opstat = .ok value := by
  cases formatted : nlifLinkOperstateStr interface.opstat with
  | ok value => exact ⟨value, rfl⟩
  | error fault =>
      simp only [nlifdIfaceRefreshOper, accepting.ifMib, if_true, nlifdIfaceFillAdmstate,
        srepoDatChangeBypath, accepting.accepts, ne_eq, not_true_eq_false, if_false,
        nlifdIfaceFillOperstate, formatted] at done
      cases done

theorem Accepting.push_status (accepting : Accepting datastore)
    (done : pushStatus datastore name interface session = .ok next) :
    ∃ value, next = pushed datastore name interface value session := by
  obtain ⟨⟨ret, middle⟩, refreshed, _⟩ := (bind_ok_iff ..).mp done
  obtain ⟨value, formatted⟩ := accepting.refresh_oper_formatted refreshed
  have written : pushStatus datastore name interface session =
      .ok (pushed datastore name interface value session) :=
    push_status_eq session formatted (fun edit _ => accepting.accepts edit) accepting.applies
  cases written.symm.trans done
  exact ⟨value, rfl⟩

end Pushes

section Leaves

variable {NameBucket IndexBucket Kstate : Type}

/-- The last admin-status value written for the interface is its cached admin state. -/
def Shows (world : OperWorld NameBucket IndexBucket Kstate) (hndl : Hndl) : Prop :=
  world.kernel.2.leaf (world.objects hndl.iface).name .adminStatus =
    some (admstateStr (ifaceAdmstateOf (world.objects hndl.iface)))

def AllShown (world : OperWorld NameBucket IndexBucket Kstate) : Prop :=
  ∀ hndl ∈ world.store.ifaces, Shows world hndl

/-- A notification of the batch moves a volatile attribute of the interface. -/
def Moved (world : OperWorld NameBucket IndexBucket Kstate) (notifications : List Notification)
    (hndl : Hndl) : Prop :=
  ∃ notification ∈ notifications, Heard notification ∧ Moves world notification.link hndl

variable {platform : Platform NameBucket IndexBucket Kstate} {datastore : Datastore}
  {world next : OperWorld NameBucket IndexBucket Kstate} {link : GetlinkRsp} {hndl : Hndl}

theorem shows_congr (session : ∀ node, next.kernel.2.leaf (world.objects hndl.iface).name node =
      world.kernel.2.leaf (world.objects hndl.iface).name node)
    (object : next.objects hndl.iface = world.objects hndl.iface) :
    Shows next hndl ↔ Shows world hndl := by
  unfold Shows
  rw [object, session]

theorem moves_congr (ifaces : next.store.ifaces = world.store.ifaces)
    (object : next.objects hndl.iface = world.objects hndl.iface) (link : GetlinkRsp) :
    Moves next link hndl ↔ Moves world link hndl := by
  unfold Moves
  rw [ifaces, object]

theorem notified_applied (accepting : Accepting datastore) (applied : world.kernel.2.pending = [])
    (notified : Notified datastore link world next) : next.kernel.2.pending = [] := by
  cases notified with
  | quiet => exact applied
  | pushed _ done =>
      obtain ⟨value, rfl⟩ := accepting.push_status done
      rfl

theorem notified_shows (accepting : Accepting datastore) (steady : Steady (beside platform) world)
    (applied : world.kernel.2.pending = []) (member : hndl ∈ world.store.ifaces)
    (notified : Notified datastore link world next) :
    (Moves world link hndl ∧ Shows next hndl) ∨
      (¬ Moves world link hndl ∧ next.objects hndl.iface = world.objects hndl.iface ∧
        (Shows next hndl ↔ Shows world hndl)) := by
  cases notified with
  | quiet still => exact .inr ⟨still hndl, rfl, Iff.rfl⟩
  | @pushed moved session moves done =>
      obtain ⟨value, rfl⟩ := accepting.push_status done
      by_cases self : hndl = moved
      · subst self
        refine .inl ⟨moves, ?_⟩
        unfold Shows
        rw [refreshed_self]
        exact pushed_admin accepting.ifMib _
      · let session := pushed datastore (world.objects moved.iface).name
          (ifaceRefreshState (world.objects moved.iface) link).2 value world.kernel.2
        have object : (refreshed moved link session world).objects hndl.iface =
            world.objects hndl.iface := refreshed_other session steady moves.1 member self
        refine .inr ⟨?_, object, ?_⟩
        · intro also
          exact self (steady.kept.linked.injective hndl also.1 moved moves.1
            (also.2.1.trans moves.2.1.symm))
        · apply shows_congr
          · intro node
            apply pushed_other applied
            exact fun same => self (steady.distinct moved moves.1 hndl member same).symm
          · exact object

structure Retained (platform : Platform NameBucket IndexBucket Kstate)
    (before after : OperWorld NameBucket IndexBucket Kstate) : Prop where
  steady : Steady (beside platform) after
  ifaces : after.store.ifaces = before.store.ifaces
  session : after.kernel.2 = before.kernel.2

theorem replaced_retained (steady : Steady (beside platform) world)
    (kept : Kept (beside platform) next) (ifaces : next.store.ifaces = world.store.ifaces)
    (session : next.kernel.2 = world.kernel.2)
    (named : ∀ other, (next.objects other).name = (world.objects other).name)
    (valid : ∀ other, (world.objects other).state ≠ .invalid →
      (next.objects other).state ≠ .invalid) :
    Retained platform world next where
  steady :=
    { kept := kept
      valid := fun hndl member => valid _ (steady.valid hndl (ifaces ▸ member))
      distinct := fun left leftThere right rightThere same => by
        rw [named, named] at same
        exact steady.distinct left (ifaces ▸ leftThere) right (ifaces ▸ rightThere) same }
  ifaces := ifaces
  session := session

theorem retained_refl (steady : Steady (beside platform) world) : Retained platform world world :=
  ⟨steady, rfl, rfl⟩

theorem Retained.trans {before middle after : OperWorld NameBucket IndexBucket Kstate}
    (first : Retained platform before middle) (second : Retained platform middle after) :
    Retained platform before after where
  steady := second.steady
  ifaces := second.ifaces.trans first.ifaces
  session := second.session.trans first.session

structure Level (platform : Platform NameBucket IndexBucket Kstate)
    (world : OperWorld NameBucket IndexBucket Kstate) : Prop where
  steady : Steady (beside platform) world
  applied : world.kernel.2.pending = []

theorem setup_level (steady : Steady (beside platform) world)
    (done : nlifdIfaceSetupOperDstore datastore world = .ok (.ok, next)) :
    Level platform next := by
  obtain ⟨⟨answer, session⟩, filled, same⟩ := (bind_ok_iff ..).mp done
  cases same
  obtain ⟨applied, _⟩ := setup_session_shown steady.distinct filled
  exact ⟨⟨⟨steady.kept.linked, steady.kept.subscribed, steady.kept.indexed⟩, steady.valid,
    steady.distinct⟩, applied⟩

variable [DecidableEq NameBucket] [DecidableEq IndexBucket]

/-- After a batch a leaf shows the cache where it did before or the batch moved it. -/
theorem dispatch_shows_iff (accepting : Accepting datastore) (notifications : List Notification)
    (steady : Steady (beside platform) world) (applied : world.kernel.2.pending = [])
    {ret : Int}
    (done : nlifdDispatchNotif datastore platform notifications world = .ok (ret, next))
    (member : hndl ∈ world.store.ifaces) :
    Shows next hndl ↔ Shows world hndl ∨ Moved world notifications hndl := by
  induction notifications generalizing world with
  | nil =>
      cases done
      simp [Moved]
  | cons notification rest ih =>
      have split : Moved world (notification :: rest) hndl ↔
          (Heard notification ∧ Moves world notification.link hndl) ∨ Moved world rest hndl := by
        simp [Moved]
      rw [split]
      cases dispatch_cons_ok steady accepting.xpath done with
      | inl skipped =>
          rw [ih steady applied skipped.2 member]
          simp [skipped.1]
      | inr heard =>
          obtain ⟨heard, middle, notified, done⟩ := heard
          have there : hndl ∈ middle.store.ifaces := by
            rw [notified.ifaces]
            exact member
          have appliedNow := notified_applied accepting applied notified
          rw [ih (notified.steady steady) appliedNow done there]
          cases notified_shows accepting steady applied member notified with
          | inl moved => simp [heard, moved.1, moved.2]
          | inr still =>
              obtain ⟨unmoved, object, shows⟩ := still
              have later : Moved middle rest hndl ↔ Moved world rest hndl := by
                unfold Moved
                simp only [moves_congr notified.ifaces object]
              simp [unmoved, shows, later]

theorem dispatch_ifaces (accepting : Accepting datastore) (notifications : List Notification)
    (steady : Steady (beside platform) world) (applied : world.kernel.2.pending = []) {ret : Int}
    (done : nlifdDispatchNotif datastore platform notifications world = .ok (ret, next)) :
    next.store.ifaces = world.store.ifaces ∧ Steady (beside platform) next ∧
      next.kernel.2.pending = [] := by
  induction notifications generalizing world with
  | nil =>
      cases done
      exact ⟨rfl, steady, applied⟩
  | cons notification rest ih =>
      cases dispatch_cons_ok steady accepting.xpath done with
      | inl skipped => exact ih steady applied skipped.2
      | inr heard =>
          obtain ⟨_, middle, notified, done⟩ := heard
          have appliedNow := notified_applied accepting applied notified
          have later := ih (notified.steady steady) appliedNow done
          exact ⟨later.1.trans notified.ifaces, later.2⟩

theorem effect_retained (reports : KernelReports platform.kernel)
    (steady : Steady (beside platform) world) {change : LeafChange}
    (effect : Effect (beside platform) change world next) : Retained platform world next := by
  have kept := effect_kept (beside_reports reports) steady.kept effect
  have synced : ∀ interface code after,
      nlifdIfaceFromNode (beside platform) change world = some interface →
      ifaceSync (beside platform) interface world = .ok (code, after) → after = world := by
    intro interface code after found sync
    obtain ⟨hndl, member, same⟩ := from_node_enrolled steady.kept found
    have valid := steady.valid hndl member
    rw [same] at valid
    rw [sync_passes _ _ _ valid] at sync
    cases sync
    rfl
  cases effect with
  | reads reads =>
      cases reads with
      | nothing => exact retained_refl steady
      | unread found sync =>
          cases synced _ _ _ found sync
          exact retained_refl steady
      | read found sync =>
          cases synced _ _ _ found sync
          exact ⟨recorded_steady steady _, rfl, rfl⟩
  | @set interface value _ _ found done =>
      obtain ⟨code, middle, sync, outcome⟩ := set_admstate_ok done
      cases synced _ _ _ found sync
      cases outcome with
      | inl failed =>
          rw [failed.2.2]
          exact retained_refl steady
      | inr staged =>
          cases staged.2.2 with
          | inl unchanged =>
              rw [unchanged.2]
              exact retained_refl steady
          | inr changed =>
              obtain ⟨_, rfl⟩ := changed
              have named : (edited (world.objects interface) (.admstate value)).name =
                  (world.objects interface).name := rfl
              refine replaced_retained steady kept rfl rfl (replaced_field named) ?_
              intro other valid
              by_cases self : other = interface
              · subst self
                rw [World.set_object_self]
                intro invalid
                cases invalid
              · rw [(DaemonSpec.local_set_object interface _ world).elsewhere _ self]
                exact valid

theorem apply_retained (steady : Steady (beside platform) world)
    (member : hndl ∈ world.store.ifaces) {ret : Int} (accepted : ¬ ret < 0)
    (done : ifaceApply (beside platform) hndl.iface world = .ok (ret, next)) :
    Retained platform world next := by
  have kept := apply_enrolled_kept steady.kept ⟨hndl, member, rfl⟩ done
  have touched := DaemonSpec.apply_local done
  have session : next.kernel.2 = world.kernel.2 := by
    by_cases dirty : (world.objects hndl.iface).state = .dirty
    · obtain ⟨_, _, reached⟩ := iface_apply_kernel _ _ _ done dirty
      rw [reached]
      rfl
    · cases (iface_apply_ok_iff ..).mp done with
      | idle => rfl
      | refused already | applied already | clashed already => exact absurd already dirty
  refine replaced_retained steady kept touched.ifaces session (apply_name done) ?_
  intro other valid
  by_cases self : other = hndl.iface
  · subst self
    rcases apply_state done with failed | settled | idle
    · exact absurd failed.2.1 accepted
    · rw [settled.1]
      decide
    · rw [idle.1]
      exact valid
  · rw [touched.elsewhere _ self]
    exact valid

theorem apply_iface_retained (steady : Steady (beside platform) world)
    (member : hndl ∈ world.store.ifaces) {ret : Int} (accepted : ¬ ret < 0)
    (done : applyIface (beside platform) hndl world = .ok (ret, next)) :
    Retained platform world next := by
  obtain ⟨middle, applied, outcome⟩ := apply_iface_ok done
  have retained := apply_retained steady member accepted applied
  cases outcome with
  | inl called =>
      obtain ⟨_, rfl⟩ := called
      exact ⟨recorded_steady retained.steady _, retained.ifaces, retained.session⟩
  | inr plain =>
      obtain ⟨_, rfl⟩ := plain
      exact retained

theorem transaction_retained (reports : KernelReports platform.kernel)
    (steady : Steady (beside platform) world) {sysrepo : Sysrepo} {changes : List LeafChange}
    (done : nlifdIfaceProcessChanges sysrepo (beside platform) changes world =
      .ok (.ok, next)) : Retained platform world next := by
  obtain ⟨staged, code, handled, walked, accepted⟩ := accepted_transaction done
  have first : Retained platform world staged := by
    refine stopping_invariant (Retained platform world) ?_ handled (retained_refl steady)
    intro change _ reached answer after retained visited
    exact retained.trans (effect_retained reports retained.steady (change_hndlr_effect visited))
  have passes : Passes (applyIface (beside platform)) (fun ret => ret < 0) staged.store.ifaces
      staged next := by
    cases stopping_ok_iff.mp walked with
    | inl finished => exact finished.2
    | inr stopped => exact absurd (of_decide_eq_true stopped.1) accepted
  refine passes.invariant (Retained platform world) ?_ first
  intro hndl member reached answer after retained visited goes
  have there : hndl ∈ reached.store.ifaces := by
    rw [retained.ifaces, ← first.ifaces]
    exact member
  exact retained.trans
    (apply_iface_retained retained.steady there (of_decide_eq_false goes) visited)

end Leaves

inductive LoadedOp where
  | transaction (changes : List LeafChange)
  | batch (notifications : List Notification)

inductive LoadedRet where
  | sr (ret : SrError)
  | code (ret : Int)
deriving DecidableEq

section Runs

variable {NameBucket IndexBucket Kstate : Type} [DecidableEq NameBucket] [DecidableEq IndexBucket]

def loadedMachine (sysrepo : Sysrepo) (datastore : Datastore)
    (platform : Platform NameBucket IndexBucket Kstate) :
    Machine (OperWorld NameBucket IndexBucket Kstate) LoadedOp LoadedRet Fault where
  admits _ _ := True
  step op world :=
    match op with
    | .transaction changes =>
        (fun done => (.sr done.1, done.2)) <$>
          nlifdIfaceProcessChanges sysrepo (beside platform) changes world
    | .batch notifications =>
        (fun done => (.code done.1, done.2)) <$>
          nlifdDispatchNotif datastore platform notifications world

def Successful (_ : LoadedOp) : LoadedRet → Prop
  | .sr ret => ret = .ok
  | .code _ => True

variable {platform : Platform NameBucket IndexBucket Kstate} {datastore : Datastore}
  {sysrepo : Sysrepo} {loaded ready world next : OperWorld NameBucket IndexBucket Kstate}

theorem run_level (accepting : Accepting datastore) (reports : KernelReports platform.kernel)
    (level : Level platform ready) {log : List (LoadedOp × LoadedRet)}
    (run : Run (loadedMachine sysrepo datastore platform) ready log world)
    (successful : ∀ entry ∈ log, Successful entry.1 entry.2) : Level platform world := by
  refine run_invariant_of_returns Successful (Level platform) level ?_ run successful
  intro state op ret after level _ stepped succeeded
  cases op with
  | transaction changes =>
      obtain ⟨⟨answer, reached⟩, done, same⟩ := (map_ok_iff ..).mp stepped
      cases same
      have accepted : answer = .ok := succeeded
      subst accepted
      have retained := transaction_retained reports level.steady done
      refine ⟨retained.steady, ?_⟩
      rw [retained.session]
      exact level.applied
  | batch notifications =>
      obtain ⟨⟨answer, reached⟩, done, same⟩ := (map_ok_iff ..).mp stepped
      cases same
      have kept := dispatch_ifaces accepting notifications level.steady level.applied done
      exact ⟨kept.2.1, kept.2.2⟩

/-- After a batch, in any run of successful transactions and batches, every leaf shows the
cached admin state exactly where each one did before or its interface is moved. -/
theorem batch_shows_iff (accepting : Accepting datastore) (reports : KernelReports platform.kernel)
    {objects : Objects} {kernel : Kstate × Session}
    (opened : nlifdOpen (beside platform) objects kernel = .ok (0, loaded))
    (setup : nlifdIfaceSetupOperDstore datastore loaded = .ok (.ok, ready))
    {log : List (LoadedOp × LoadedRet)}
    (run : Run (loadedMachine sysrepo datastore platform) ready log world)
    (successful : ∀ entry ∈ log, Successful entry.1 entry.2)
    {notifications : List Notification} {ret : Int}
    (dispatched : nlifdDispatchNotif datastore platform notifications world = .ok (ret, next)) :
    AllShown next ↔
      ∀ hndl ∈ world.store.ifaces, Shows world hndl ∨ Moved world notifications hndl := by
  have steadyLoaded := fresh_steady (open_fresh (beside_reports reports) opened)
  have level := run_level accepting reports (setup_level steadyLoaded setup) run successful
  have ifaces := (dispatch_ifaces accepting notifications level.steady level.applied dispatched).1
  unfold AllShown
  rw [ifaces]
  constructor
  · intro shown hndl member
    exact (dispatch_shows_iff accepting notifications level.steady level.applied dispatched
      member).mp (shown hndl member)
  · intro shown hndl member
    exact (dispatch_shows_iff accepting notifications level.steady level.applied dispatched
      member).mpr (shown hndl member)

end Runs

/-- A datastore that takes every edit. -/
def takingDatastore : Datastore where
  ifMib := true
  accepts _ := true
  applies _ := true
  discard _ written := ([], written)
  xpath name := name.length

theorem taking_datastore_accepting : Accepting takingDatastore where
  ifMib := rfl
  accepts _ := rfl
  applies _ := rfl
  xpath _ := Int.natCast_nonneg _

structure Stages where
  loaded : CodeWorld (Unit × Session)
  ready : CodeWorld (Unit × Session)
  enabled : CodeWorld (Unit × Session)
  next : CodeWorld (Unit × Session)

def enabledOnce (link : GetlinkRsp) : Except Fault ((Int × SrError × SrError × Int) × Stages) := do
  let (first, loaded) ←
    nlifdOpen (beside oneLinkPlatform) (fun _ => ifaceFill oneLink) ((), freshSession)
  let (second, ready) ← nlifdIfaceSetupOperDstore takingDatastore loaded
  let (third, enabled) ←
    nlifdIfaceProcessChanges agreeingSysrepo (beside oneLinkPlatform) [enableLink] ready
  let (fourth, next) ← nlifdDispatchNotif takingDatastore oneLinkPlatform [⟨true, link⟩] enabled
  .ok ((first, second, third, fourth), ⟨loaded, ready, enabled, next⟩)

structure Succeeds (link : GetlinkRsp) (stages : Stages) : Prop where
  opened : nlifdOpen (beside oneLinkPlatform) (fun _ => ifaceFill oneLink) ((), freshSession) =
    .ok (0, stages.loaded)
  setup : nlifdIfaceSetupOperDstore takingDatastore stages.loaded = .ok (.ok, stages.ready)
  run : Run (loadedMachine agreeingSysrepo takingDatastore oneLinkPlatform) stages.ready
    [(.transaction [enableLink], .sr .ok)] stages.enabled
  dispatched : nlifdDispatchNotif takingDatastore oneLinkPlatform [⟨true, link⟩] stages.enabled =
    .ok (0, stages.next)

theorem enabled_once_ok {link : GetlinkRsp} {stages : Stages}
    (done : enabledOnce link = .ok ((0, .ok, .ok, 0), stages)) : Succeeds link stages := by
  obtain ⟨⟨first, loaded⟩, opened, done⟩ := (bind_ok_iff ..).mp done
  obtain ⟨⟨second, ready⟩, setup, done⟩ := (bind_ok_iff ..).mp done
  obtain ⟨⟨third, enabled⟩, changed, done⟩ := (bind_ok_iff ..).mp done
  obtain ⟨⟨fourth, next⟩, dispatched, done⟩ := (bind_ok_iff ..).mp done
  cases done
  have stepped : (loadedMachine agreeingSysrepo takingDatastore oneLinkPlatform).step
      (.transaction [enableLink]) ready = .ok (.sr .ok, enabled) := by
    have mapped := congrArg (fun outcome => (fun done =>
      (LoadedRet.sr done.1, done.2)) <$> outcome) changed
    exact mapped
  exact ⟨opened, setup, .step .start trivial stepped, dispatched⟩

/-- The cached admin states and what their leaves show. -/
def admstatesShown (world : CodeWorld (Unit × Session)) : List (Bool × Option CString) :=
  world.store.ifaces.map fun hndl => (ifaceAdmstateOf (world.objects hndl.iface),
    world.kernel.2.leaf (world.objects hndl.iface).name .adminStatus)

def risenLink : GetlinkRsp := { oneLink with ifiFlags := IFF_UP, operstate := some IF_OPER_UP }

def opstatsCached (world : CodeWorld (Unit × Session)) : List (UInt32 × UInt8) :=
  world.store.ifaces.map fun hndl => ((world.objects hndl.iface).idx,
    (world.objects hndl.iface).opstat)

/-- The enabled link comes up and is shown. -/
theorem risen_link_shown : ∃ stages, Succeeds risenLink stages ∧ AllShown stages.next := by
  have result : (fun done => (done.1, opstatsCached done.2.enabled)) <$> enabledOnce risenLink =
      .ok ((0, .ok, .ok, 0), [(1, IF_OPER_DOWN)]) := by
    decide +kernel
  obtain ⟨⟨_, stages⟩, done, same⟩ := (map_ok_iff ..).mp result
  simp only [Prod.mk.injEq] at same
  obtain ⟨rfl, cached⟩ := same
  have succeeds := enabled_once_ok done
  have successful : ∀ entry ∈ [(LoadedOp.transaction [enableLink], LoadedRet.sr .ok)],
      Successful entry.1 entry.2 := by
    intro entry member
    rw [List.mem_singleton.mp member]
    rfl
  refine ⟨stages, succeeds, (batch_shows_iff taking_datastore_accepting one_link_kernel_reports
    succeeds.opened succeeds.setup succeeds.run successful succeeds.dispatched).mpr ?_⟩
  intro hndl member
  have entry : ((stages.enabled.objects hndl.iface).idx,
      (stages.enabled.objects hndl.iface).opstat) ∈ opstatsCached stages.enabled :=
    List.mem_map.mpr ⟨hndl, member, rfl⟩
  rw [cached, List.mem_singleton] at entry
  obtain ⟨idx, opstat⟩ := Prod.mk.inj entry
  refine .inr ⟨⟨true, risenLink⟩, List.mem_singleton_self _, by decide, member, idx, ?_⟩
  intro unmoved
  have same := unmoved.2.1
  rw [opstat] at same
  exact absurd same (by decide)

/-- The enabled link has no carrier, so that nothing volatile changes: the leaf stays. -/
theorem enabled_link_unshown :
    ∃ stages, Succeeds { oneLink with ifiFlags := IFF_UP } stages ∧
      admstatesShown stages.next = [(true, some (admstateStr false))] ∧
      ¬ AllShown stages.next := by
  have result : (fun done => (done.1, admstatesShown done.2.next)) <$>
      enabledOnce { oneLink with ifiFlags := IFF_UP } =
        .ok ((0, .ok, .ok, 0), [(true, some (admstateStr false))]) := by
    decide +kernel
  obtain ⟨⟨_, stages⟩, done, same⟩ := (map_ok_iff ..).mp result
  simp only [Prod.mk.injEq] at same
  obtain ⟨rfl, shown⟩ := same
  refine ⟨stages, enabled_once_ok done, shown, fun allShown => ?_⟩
  obtain ⟨hndl, member, entry⟩ := List.mem_map.mp (shown ▸ List.mem_singleton_self _)
  obtain ⟨admstate, leaf⟩ := Prod.mk.inj entry
  have shows := allShown hndl member
  unfold Shows at shows
  rw [leaf, admstate] at shows
  have different : ¬ (some (admstateStr false) = some (admstateStr true)) := by decide +kernel
  exact different shows

end Nlif.AdminStatus
