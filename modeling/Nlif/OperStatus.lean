import Nlif.OperSetup

/-!
# The oper-status leaves

`nlif_link_operstate_str()` names two operational states otherwise than the
enumeration of the oper-status leaf does. As long as no notification brings one of
them the leaves follow the cache; the initial set-up succeeds on a store without
them only.
-/

namespace Nlif.OperStatus

open LinkModel IfaceModel FaultWalk FaultLoop StoreModel GateModel LibraryRun LabelledRun
  OperModel OperMirror OperSetup
open DaemonModel (SrError cstring)
open DaemonRun (nlifdOpen)
open ConfigSnapshot (open_fresh)

set_option autoImplicit false

/-- The states that `nlif_link_operstate_str()` names as the enumeration does. -/
def Listed (operstate : UInt8) : Prop :=
  operstate = IF_OPER_UP ∨ operstate = IF_OPER_DOWN ∨ operstate = IF_OPER_TESTING ∨
    operstate = IF_OPER_UNKNOWN ∨ operstate = IF_OPER_DORMANT

instance (operstate : UInt8) : Decidable (Listed operstate) :=
  inferInstanceAs (Decidable (_ ∨ _))

theorem listed_str {operstate : UInt8} (listed : Listed operstate) :
    ∃ value, nlifLinkOperstateStr operstate = .ok value ∧ value ∈ operStatusNames ∧
      yangOperStatus operstate = some value := by
  rcases listed with same | same | same | same | same <;> subst same
  · exact ⟨cstring "up", rfl, by decide +kernel, rfl⟩
  · exact ⟨cstring "down", rfl, by decide +kernel, rfl⟩
  · exact ⟨cstring "testing", rfl, by decide +kernel, rfl⟩
  · exact ⟨cstring "unknown", rfl, by decide +kernel, rfl⟩
  · exact ⟨cstring "dormant", rfl, by decide +kernel, rfl⟩

theorem unlisted_str {operstate : UInt8} (unlisted : ¬ Listed operstate) {value : CString}
    (formatted : nlifLinkOperstateStr operstate = .ok value) : value ∉ operStatusNames := by
  simp only [Listed, not_or] at unlisted
  obtain ⟨up, down, testing, unknown, dormant⟩ := unlisted
  unfold nlifLinkOperstateStr at formatted
  simp only [up, down, testing, unknown, dormant, if_false] at formatted
  split at formatted
  · cases formatted
    decide +kernel
  · split at formatted
    · cases formatted
      decide +kernel
    · cases formatted

/-- Sysrepo takes an edit exactly where its value is one of the leaf's. -/
structure Yang (datastore : Datastore) : Prop where
  operStatus : ∀ name value,
    datastore.accepts ⟨name, .operStatus, value⟩ = true ↔ value ∈ operStatusNames
  adminStatus : ∀ name up, datastore.accepts ⟨name, .adminStatus, admstateStr up⟩ = true
  ifIndex : ∀ name index, datastore.accepts ⟨name, .ifIndex, indexStr index⟩ = true
  physAddress : ∀ name hwaddr,
    datastore.accepts ⟨name, .physAddress, nlifLinkHwaddrStr hwaddr⟩ = true
  applies : ∀ session, datastore.applies session = true
  xpath : ∀ name, 0 ≤ datastore.xpath name

section Edits

variable {datastore : Datastore} {name : CString} {interface : Iface} {value : CString}

theorem Yang.status_accepted (yang : Yang datastore) (named : value ∈ operStatusNames) :
    ∀ edit ∈ statusEdits datastore name interface value, datastore.accepts edit = true := by
  intro edit listed
  cases listed with
  | head => exact (yang.operStatus name value).mpr named
  | tail _ more =>
      split at more
      · rw [List.mem_singleton.mp more]
        exact yang.adminStatus name _
      · cases more

end Edits

section Refused

variable {datastore : Datastore} {name : CString} {interface : Iface} {session next : Session}
  {ret : SrError}

theorem change_bypath_grows (edit : Edit) (session : Session) :
    session.rejected <:+ (srepoDatChangeBypath datastore edit session).2.rejected ∧
      ((srepoDatChangeBypath datastore edit session).2.rejected = session.rejected →
        datastore.accepts edit = true) := by
  unfold srepoDatChangeBypath
  split
  · rename_i accepted
    exact ⟨List.suffix_refl _, fun _ => accepted⟩
  · exact ⟨List.suffix_cons _ _, fun same => absurd same (by simp)⟩

/-- The value of the oper-status leaf, where it was accepted. -/
def Taken (datastore : Datastore) (name : CString) (interface : Iface) : Prop :=
  ∃ value, nlifLinkOperstateStr interface.opstat = .ok value ∧
    datastore.accepts ⟨name, .operStatus, value⟩ = true

theorem fill_operstate_grows
    (done : nlifdIfaceFillOperstate datastore name interface session = .ok (ret, next)) :
    session.rejected <:+ next.rejected ∧
      (next.rejected = session.rejected → Taken datastore name interface) := by
  obtain ⟨value, formatted, changed⟩ := (bind_ok_iff ..).mp done
  have reached := congrArg Prod.snd (Except.ok.inj changed)
  subst reached
  have grown := @change_bypath_grows datastore ⟨name, .operStatus, value⟩ session
  exact ⟨grown.1, fun same => ⟨value, formatted, grown.2 same⟩⟩

theorem refresh_oper_grows
    (done : nlifdIfaceRefreshOper datastore name interface session = .ok (ret, next)) :
    session.rejected <:+ next.rejected ∧
      (next.rejected = session.rejected → Taken datastore name interface) := by
  unfold nlifdIfaceRefreshOper at done
  split at done
  · have first := @change_bypath_grows datastore
      ⟨name, .adminStatus, admstateStr (ifaceAdmstateOf interface)⟩ session
    have filled : nlifdIfaceFillAdmstate datastore name interface session =
        srepoDatChangeBypath datastore
          ⟨name, .adminStatus, admstateStr (ifaceAdmstateOf interface)⟩ session := rfl
    rw [filled] at done
    cases changed : srepoDatChangeBypath datastore
        ⟨name, .adminStatus, admstateStr (ifaceAdmstateOf interface)⟩ session with
    | mk err middle =>
        rw [changed] at done first
        by_cases refused : err ≠ .ok
        · simp only [if_pos refused, Except.ok.injEq, Prod.mk.injEq] at done
          obtain ⟨_, rfl⟩ := done
          refine ⟨first.1, fun same => ?_⟩
          have accepted := first.2 same
          rw [srepoDatChangeBypath, if_pos accepted, Prod.mk.injEq] at changed
          exact absurd changed.1.symm refused
        · simp only [if_neg refused] at done
          have second := fill_operstate_grows done
          refine ⟨first.1.trans second.1, fun same => second.2 ?_⟩
          have longer := first.1.length_le
          have longest := second.1.length_le
          rw [same] at longest
          have even : middle.rejected.length = session.rejected.length :=
            Nat.le_antisymm longest longer
          exact same.trans (first.1.eq_of_length even.symm)
  · exact fill_operstate_grows done

theorem push_status_grows (done : pushStatus datastore name interface session = .ok next) :
    session.rejected <:+ next.rejected ∧
      (next.rejected = session.rejected → Taken datastore name interface) := by
  obtain ⟨⟨ret, middle⟩, refreshed, done⟩ := (bind_ok_iff ..).mp done
  have kept : next.rejected = middle.rejected := by
    by_cases refused : ret ≠ .ok
    · simp only [if_pos refused, Except.ok.injEq] at done
      subst done
      rfl
    · simp only [if_neg refused, srepoApplyChanges] at done
      split at done
      · cases done
        rfl
      · cases done
        rfl
  rw [kept]
  exact refresh_oper_grows refreshed

theorem Yang.taken_listed {datastore : Datastore} (yang : Yang datastore)
    (taken : Taken datastore name interface) : Listed interface.opstat := by
  obtain ⟨value, formatted, accepted⟩ := taken
  by_contra unlisted
  exact unlisted_str unlisted formatted ((yang.operStatus name value).mp accepted)

end Refused

section Notifications

variable {NameBucket IndexBucket Kstate : Type}

/-- The oper-status leaf of every enrolled interface names its cached state. -/
def Follows (world : OperWorld NameBucket IndexBucket Kstate) : Prop :=
  ∀ hndl ∈ world.store.ifaces, ∃ value,
    yangOperStatus (world.objects hndl.iface).opstat = some value ∧
      world.kernel.2.leaf (world.objects hndl.iface).name .operStatus = some value

/-- The leaves follow, every cached state is listed and nothing is left to apply. -/
structure Mirrored (world : OperWorld NameBucket IndexBucket Kstate) : Prop where
  applied : world.kernel.2.pending = []
  listed : ∀ hndl ∈ world.store.ifaces, Listed (world.objects hndl.iface).opstat
  follows : Follows world

/-- The notified links of enrolled interfaces are in a listed state. -/
def BatchListed (world : OperWorld NameBucket IndexBucket Kstate)
    (notifications : List Notification) : Prop :=
  ∀ notification ∈ notifications, Heard notification → ∀ hndl ∈ world.store.ifaces,
    (world.objects hndl.iface).idx = notification.link.ifiIndex →
      Listed (notification.link.operstate.getD 0)

structure Lasting (before after : OperWorld NameBucket IndexBucket Kstate) : Prop where
  ifaces : after.store.ifaces = before.store.ifaces
  idx : ∀ hndl ∈ before.store.ifaces,
    (after.objects hndl.iface).idx = (before.objects hndl.iface).idx

variable {platform : Platform NameBucket IndexBucket Kstate} {datastore : Datastore}
  {world : OperWorld NameBucket IndexBucket Kstate}

structure Followed (platform : Platform NameBucket IndexBucket Kstate)
    (before after : OperWorld NameBucket IndexBucket Kstate) : Prop where
  steady : Steady (beside platform) after
  mirrored : Mirrored after
  accepted : after.kernel.2.rejected = before.kernel.2.rejected
  lasting : Lasting before after

theorem Followed.trans {before middle after : OperWorld NameBucket IndexBucket Kstate}
    (first : Followed platform before middle) (second : Followed platform middle after) :
    Followed platform before after where
  steady := second.steady
  mirrored := second.mirrored
  accepted := second.accepted.trans first.accepted
  lasting :=
    { ifaces := second.lasting.ifaces.trans first.lasting.ifaces
      idx := fun hndl member => by
        have there : hndl ∈ middle.store.ifaces := first.lasting.ifaces ▸ member
        exact (second.lasting.idx hndl there).trans (first.lasting.idx hndl member) }

theorem notified_grows {link : GetlinkRsp} {next : OperWorld NameBucket IndexBucket Kstate}
    (notified : Notified datastore link world next) :
    world.kernel.2.rejected <:+ next.kernel.2.rejected := by
  cases notified with
  | quiet => exact List.suffix_refl _
  | pushed _ done => exact (push_status_grows done).1

theorem notified_listed (yang : Yang datastore) (steady : Steady (beside platform) world)
    (known : ∀ hndl ∈ world.store.ifaces, Listed (world.objects hndl.iface).opstat)
    {link : GetlinkRsp} {next : OperWorld NameBucket IndexBucket Kstate}
    (notified : Notified datastore link world next)
    (accepted : next.kernel.2.rejected = world.kernel.2.rejected) :
    (∀ hndl ∈ world.store.ifaces, (world.objects hndl.iface).idx = link.ifiIndex →
      Listed (link.operstate.getD 0)) ∧
    ∀ hndl ∈ world.store.ifaces, Listed (next.objects hndl.iface).opstat := by
  cases notified with
  | quiet still =>
      refine ⟨fun hndl member idx => ?_, known⟩
      have unmoved : Unmoved (world.objects hndl.iface) link := by
        by_contra moved
        exact still hndl ⟨member, idx, moved⟩
      rw [← unmoved.2.1]
      exact known hndl member
  | pushed moves done =>
      rename_i moved session
      have listed : Listed (link.operstate.getD 0) :=
        yang.taken_listed ((push_status_grows done).2 accepted)
      refine ⟨fun _ _ _ => listed, fun other there => ?_⟩
      by_cases self : other = moved
      · subst self
        rw [refreshed_self]
        exact listed
      · rw [refreshed_other _ steady moves.1 there self]
        exact known other there

theorem Yang.fillable_iff (yang : Yang datastore) (interface : Iface) :
    Fillable datastore interface ↔ Listed interface.opstat := by
  constructor
  · intro fillable
    obtain ⟨value, formatted, accepted⟩ := fillable
    have status : (⟨interface.name, .operStatus, value⟩ : Edit) ∈
        setupEdits datastore interface value := by
      simp [setupEdits, statusEdits]
    exact yang.taken_listed ⟨value, formatted, accepted _ status⟩
  · intro listed
    obtain ⟨value, formatted, named, _⟩ := listed_str listed
    refine ⟨value, formatted, fun edit member => ?_⟩
    cases member with
    | head => exact yang.physAddress _ _
    | tail _ more =>
        cases List.mem_append.mp more with
        | inl index =>
            split at index
            · rw [List.mem_singleton.mp index]
              exact yang.ifIndex _ _
            · cases index
        | inr status => exact yang.status_accepted named edit status

theorem setup_dstore_ok {ret : SrError} {next : OperWorld NameBucket IndexBucket Kstate}
    (done : nlifdIfaceSetupOperDstore datastore world = .ok (ret, next)) :
    ∃ session, setupSession datastore world.objects world.store.ifaces world.kernel.2 =
      .ok (ret, session) ∧ next = setSession session world := by
  obtain ⟨⟨answer, session⟩, filled, same⟩ := (bind_ok_iff ..).mp done
  cases same
  exact ⟨session, filled, rfl⟩

theorem setup_dstore_ok_iff (yang : Yang datastore)
    (world : OperWorld NameBucket IndexBucket Kstate) :
    (∃ next, nlifdIfaceSetupOperDstore datastore world = .ok (.ok, next)) ↔
      ∀ hndl ∈ world.store.ifaces, Listed (world.objects hndl.iface).opstat := by
  have fillable := @setup_session_ok_iff datastore world.objects world.store.ifaces yang.xpath
    yang.applies world.kernel.2
  constructor
  · intro succeeded hndl member
    obtain ⟨next, done⟩ := succeeded
    obtain ⟨session, filled, _⟩ := setup_dstore_ok done
    exact (yang.fillable_iff _).mp (fillable.mp ⟨session, filled⟩ hndl member)
  · intro listed
    obtain ⟨session, filled⟩ := fillable.mpr fun hndl member =>
      (yang.fillable_iff _).mpr (listed hndl member)
    refine ⟨setSession session world, ?_⟩
    rw [nlifdIfaceSetupOperDstore, filled]
    rfl

theorem setup_dstore_mirrored (yang : Yang datastore) (steady : Steady (beside platform) world)
    {next : OperWorld NameBucket IndexBucket Kstate}
    (done : nlifdIfaceSetupOperDstore datastore world = .ok (.ok, next)) :
    Steady (beside platform) next ∧ Mirrored next := by
  have listed := (setup_dstore_ok_iff yang world).mp ⟨next, done⟩
  obtain ⟨session, filled, same⟩ := setup_dstore_ok done
  obtain ⟨applied, shown⟩ := setup_session_shown steady.distinct filled
  subst same
  refine ⟨⟨⟨steady.kept.linked, steady.kept.subscribed, steady.kept.indexed⟩, steady.valid,
    steady.distinct⟩, applied, listed, fun hndl member => ?_⟩
  obtain ⟨value, formatted, _, yangName⟩ := listed_str (listed hndl member)
  obtain ⟨written, same, leaf⟩ := (shown hndl member).oper
  cases formatted.symm.trans same
  exact ⟨value, yangName, leaf⟩

variable [DecidableEq NameBucket] [DecidableEq IndexBucket]

theorem notify_followed (yang : Yang datastore) (steady : Steady (beside platform) world)
    (mirrored : Mirrored world) {link : GetlinkRsp}
    (listed : ∀ hndl ∈ world.store.ifaces, (world.objects hndl.iface).idx = link.ifiIndex →
      Listed (link.operstate.getD 0)) :
    ∃ next, gateNotify (beside platform) (nlifdPushOper datastore platform) (.change link) world =
      .ok (0, next) ∧ Followed platform world next := by
  cases notify_cases steady yang.xpath link with
  | inl quiet =>
      exact ⟨_, quiet.2, recorded_steady steady _,
        ⟨mirrored.applied, mirrored.listed, mirrored.follows⟩, rfl, rfl, fun _ _ => rfl⟩
  | inr moved =>
      obtain ⟨hndl, ⟨member, idx, _⟩, notified⟩ := moved
      obtain ⟨value, formatted, named, yangName⟩ := listed_str (listed hndl member idx)
      have formattedNow : nlifLinkOperstateStr
          (ifaceRefreshState (world.objects hndl.iface) link).2.opstat = .ok value := formatted
      rw [push_status_eq _ formattedNow (yang.status_accepted named) yang.applies] at notified
      refine ⟨_, notified, refreshed_steady _ steady member, ⟨rfl, ?_, ?_⟩, rfl, rfl,
        fun other there => (refreshed_frame _ steady member there).idx⟩
      · intro other there
        by_cases self : other = hndl
        · subst self
          rw [refreshed_self]
          exact listed other there idx
        · rw [refreshed_other _ steady member there self]
          exact mirrored.listed other there
      intro other there
      by_cases self : other = hndl
      · subst self
        rw [refreshed_self]
        exact ⟨value, yangName, pushed_oper _⟩
      · rw [refreshed_other _ steady member there self]
        obtain ⟨shown, known, leaf⟩ := mirrored.follows other there
        refine ⟨shown, known, ?_⟩
        have names : (world.objects hndl.iface).name ≠ (world.objects other.iface).name :=
          fun same => self (steady.distinct hndl member other there same).symm
        exact (pushed_other mirrored.applied names _).trans leaf

theorem dispatch_followed (yang : Yang datastore) (notifications : List Notification)
    (steady : Steady (beside platform) world) (mirrored : Mirrored world)
    (listed : BatchListed world notifications) :
    ∃ next, nlifdDispatchNotif datastore platform notifications world = .ok (0, next) ∧
      Followed platform world next := by
  induction notifications generalizing world with
  | nil => exact ⟨world, rfl, steady, mirrored, rfl, rfl, fun _ _ => rfl⟩
  | cons notification rest ih =>
      have restListed : BatchListed world rest :=
        fun other there => listed other (List.mem_cons_of_mem _ there)
      by_cases heard : Heard notification
      · obtain ⟨middle, notified, first⟩ := notify_followed yang steady mirrored
          (listed notification (List.mem_cons_self ..) heard)
        have listedNow : BatchListed middle rest := by
          intro other there heard hndl member idx
          have old : hndl ∈ world.store.ifaces := first.lasting.ifaces ▸ member
          rw [first.lasting.idx hndl old] at idx
          exact restListed other there heard hndl old idx
        obtain ⟨next, dispatched, second⟩ := ih first.steady first.mirrored listedNow
        refine ⟨next, ?_, first.trans second⟩
        rw [dispatch_heard rest heard notified]
        exact dispatched
      · rw [dispatch_skipped rest heard]
        exact ih steady mirrored restListed

theorem dispatch_grows (yang : Yang datastore) (notifications : List Notification)
    (steady : Steady (beside platform) world)
    {next : OperWorld NameBucket IndexBucket Kstate} {ret : Int}
    (done : nlifdDispatchNotif datastore platform notifications world = .ok (ret, next)) :
    world.kernel.2.rejected <:+ next.kernel.2.rejected := by
  induction notifications generalizing world with
  | nil =>
      cases done
      exact List.suffix_refl _
  | cons notification rest ih =>
      cases dispatch_cons_ok steady yang.xpath done with
      | inl skipped => exact ih steady skipped.2
      | inr heard =>
          obtain ⟨_, middle, notified, done⟩ := heard
          exact (notified_grows notified).trans (ih (notified.steady steady) done)

/-- Where nothing was refused the batch was listed. -/
theorem dispatch_listed (yang : Yang datastore) (notifications : List Notification)
    (steady : Steady (beside platform) world)
    (known : ∀ hndl ∈ world.store.ifaces, Listed (world.objects hndl.iface).opstat)
    {next : OperWorld NameBucket IndexBucket Kstate} {ret : Int}
    (done : nlifdDispatchNotif datastore platform notifications world = .ok (ret, next))
    (accepted : next.kernel.2.rejected = world.kernel.2.rejected) :
    BatchListed world notifications := by
  induction notifications generalizing world with
  | nil => exact fun _ listed => absurd listed List.not_mem_nil
  | cons notification rest ih =>
      cases dispatch_cons_ok steady yang.xpath done with
      | inl skipped =>
          have restListed := ih steady known skipped.2 accepted
          intro other there heard
          cases there with
          | head => exact absurd heard skipped.1
          | tail _ later => exact restListed other later heard
      | inr heard =>
          obtain ⟨_, middle, notified, done⟩ := heard
          have first := notified_grows notified
          have second := dispatch_grows yang rest (notified.steady steady) done
          rw [accepted] at second
          have even := first.eq_of_length_le second.length_le
          obtain ⟨listed, knownNow⟩ := notified_listed yang steady known notified even.symm
          rw [← notified.ifaces] at knownNow
          have restListed := ih (notified.steady steady) knownNow done (accepted.trans even)
          intro other there heardOther hndl member idx
          cases there with
          | head => exact listed hndl member idx
          | tail _ later =>
              apply restListed other later heardOther hndl
              · rw [notified.ifaces]
                exact member
              · rw [(notified.framed steady member).idx]
                exact idx

end Notifications

def dispatchMachine {NameBucket IndexBucket Kstate : Type} [DecidableEq NameBucket]
    [DecidableEq IndexBucket] (datastore : Datastore)
    (platform : Platform NameBucket IndexBucket Kstate) :
    Machine (OperWorld NameBucket IndexBucket Kstate) (List Notification) Int Fault where
  admits _ _ := True
  step := nlifdDispatchNotif datastore platform

section Runs

variable {NameBucket IndexBucket Kstate : Type} [DecidableEq NameBucket] [DecidableEq IndexBucket]
  {platform : Platform NameBucket IndexBucket Kstate} {datastore : Datastore}
  {loaded ready world : OperWorld NameBucket IndexBucket Kstate}

theorem run_followed (yang : Yang datastore) (steady : Steady (beside platform) ready)
    (mirrored : Mirrored ready) {log : List (List Notification × Int)}
    (run : Run ((dispatchMachine datastore platform).given BatchListed) ready log world) :
    Followed platform ready world := by
  refine run_invariant (fun reached => Followed platform ready reached)
    ⟨steady, mirrored, rfl, rfl, fun _ _ => rfl⟩ ?_ run
  intro state notifications ret next followed admitted stepped
  obtain ⟨after, dispatched, further⟩ :=
    dispatch_followed yang notifications followed.steady followed.mirrored admitted.2
  cases dispatched.symm.trans stepped
  exact followed.trans further

/-- The set-up succeeds exactly on a store of listed states. From there on the leaves follow
the cache and nothing is refused as long as the batches are listed; another batch is
refused or faults. -/
theorem listed_runs_follow (yang : Yang datastore) (reports : KernelReports platform.kernel)
    {objects : Objects} {kernel : Kstate × Session}
    (opened : nlifdOpen (beside platform) objects kernel = .ok (0, loaded)) :
    (∀ world : OperWorld NameBucket IndexBucket Kstate,
      (∃ next, nlifdIfaceSetupOperDstore datastore world = .ok (.ok, next)) ↔
        ∀ hndl ∈ world.store.ifaces, Listed (world.objects hndl.iface).opstat) ∧
    ∀ ready, nlifdIfaceSetupOperDstore datastore loaded = .ok (.ok, ready) →
      ∀ log world, Run ((dispatchMachine datastore platform).given BatchListed) ready log world →
        Follows world ∧ world.kernel.2.rejected = ready.kernel.2.rejected ∧
        ∀ notifications, BatchListed world notifications ↔
          ∃ next, nlifdDispatchNotif datastore platform notifications world = .ok (0, next) ∧
            Follows next ∧ next.kernel.2.rejected = world.kernel.2.rejected := by
  refine ⟨setup_dstore_ok_iff yang, ?_⟩
  intro ready done log world run
  have steadyLoaded := fresh_steady (open_fresh (beside_reports reports) opened)
  obtain ⟨steady, mirrored⟩ := setup_dstore_mirrored yang steadyLoaded done
  have followed := run_followed yang steady mirrored run
  refine ⟨followed.mirrored.follows, followed.accepted, ?_⟩
  intro notifications
  constructor
  · intro listed
    obtain ⟨next, dispatched, further⟩ :=
      dispatch_followed yang notifications followed.steady followed.mirrored listed
    exact ⟨next, dispatched, further.mirrored.follows, further.accepted⟩
  · intro dispatched
    obtain ⟨next, done, _, accepted⟩ := dispatched
    exact dispatch_listed yang notifications followed.steady followed.mirrored.listed done accepted

end Runs

/-- A datastore that checks the oper-status leaf only. -/
def yangDatastore : Datastore where
  ifMib := true
  accepts edit := edit.node ≠ .operStatus ∨ edit.value ∈ operStatusNames
  applies _ := true
  discard _ written := ([], written)
  xpath name := name.length

theorem yang_datastore_yang : Yang yangDatastore where
  operStatus name value := by simp [yangDatastore]
  adminStatus name up := by simp [yangDatastore]
  ifIndex name index := by simp [yangDatastore]
  physAddress name hwaddr := by simp [yangDatastore]
  applies _ := rfl
  xpath name := Int.natCast_nonneg _

def notifiedOnce (operstate : UInt8) :
    Except Fault ((Int × SrError × Int) × CodeWorld (Unit × Session) ×
      CodeWorld (Unit × Session) × CodeWorld (Unit × Session)) := do
  let (first, loaded) ←
    nlifdOpen (beside oneLinkPlatform) (fun _ => ifaceFill oneLink) ((), freshSession)
  let (second, ready) ← nlifdIfaceSetupOperDstore yangDatastore loaded
  let (third, next) ← nlifdDispatchNotif yangDatastore oneLinkPlatform
    [⟨true, { oneLink with operstate := some operstate }⟩] ready
  .ok ((first, second, third), loaded, ready, next)

def statesShown (world : CodeWorld (Unit × Session)) : List (UInt8 × Option CString) :=
  world.store.ifaces.map fun hndl => ((world.objects hndl.iface).opstat,
    world.kernel.2.leaf (world.objects hndl.iface).name .operStatus)

theorem notified_once_ok {operstate : UInt8} {loaded ready next : CodeWorld (Unit × Session)}
    (done : notifiedOnce operstate = .ok ((0, .ok, 0), loaded, ready, next)) :
    nlifdOpen (beside oneLinkPlatform) (fun _ => ifaceFill oneLink) ((), freshSession) =
        .ok (0, loaded) ∧
      nlifdIfaceSetupOperDstore yangDatastore loaded = .ok (.ok, ready) ∧
      nlifdDispatchNotif yangDatastore oneLinkPlatform
        [⟨true, { oneLink with operstate := some operstate }⟩] ready = .ok (0, next) := by
  obtain ⟨⟨first, _⟩, opened, done⟩ := (bind_ok_iff ..).mp done
  obtain ⟨⟨second, _⟩, setup, done⟩ := (bind_ok_iff ..).mp done
  obtain ⟨⟨third, _⟩, dispatched, done⟩ := (bind_ok_iff ..).mp done
  cases done
  exact ⟨opened, setup, dispatched⟩

/-- The link "a" comes up. -/
theorem up_link_follows :
    ∃ loaded ready next, nlifdOpen (beside oneLinkPlatform) (fun _ => ifaceFill oneLink)
        ((), freshSession) = .ok (0, loaded) ∧
      nlifdIfaceSetupOperDstore yangDatastore loaded = .ok (.ok, ready) ∧
      nlifdDispatchNotif yangDatastore oneLinkPlatform
        [⟨true, { oneLink with operstate := some IF_OPER_UP }⟩] ready = .ok (0, next) ∧
      Follows next := by
  have result : Prod.fst <$> notifiedOnce IF_OPER_UP = .ok (0, .ok, 0) := by decide +kernel
  obtain ⟨⟨_, loaded, ready, next⟩, done, rfl⟩ := (map_ok_iff ..).mp result
  obtain ⟨opened, setup, dispatched⟩ := notified_once_ok done
  have follows := (listed_runs_follow yang_datastore_yang one_link_kernel_reports opened).2
  have begun : Run ((dispatchMachine yangDatastore oneLinkPlatform).given BatchListed) ready []
      ready := .start
  have listed : BatchListed ready [⟨true, { oneLink with operstate := some IF_OPER_UP }⟩] := by
    intro notification member _ _ _ _
    rw [List.mem_singleton.mp member]
    exact .inl rfl
  obtain ⟨_, again, follows, _⟩ := ((follows ready setup [] ready begun).2.2 _).mp listed
  cases dispatched.symm.trans again
  exact ⟨loaded, ready, next, opened, setup, dispatched, follows⟩

/-- A lower layer that is down is never shown. -/
theorem lower_layer_down_refused :
    ∃ loaded ready next, nlifdOpen (beside oneLinkPlatform) (fun _ => ifaceFill oneLink)
        ((), freshSession) = .ok (0, loaded) ∧
      nlifdIfaceSetupOperDstore yangDatastore loaded = .ok (.ok, ready) ∧
      nlifdDispatchNotif yangDatastore oneLinkPlatform
        [⟨true, { oneLink with operstate := some IF_OPER_LOWERLAYERDOWN }⟩] ready =
          .ok (0, next) ∧
      next.kernel.2.rejected = [⟨nameA, .operStatus, cstring "lowerlayerdown"⟩] ∧
      ¬ Follows next := by
  have result : (fun done => (done.1, done.2.2.2.kernel.2.rejected, statesShown done.2.2.2)) <$>
      notifiedOnce IF_OPER_LOWERLAYERDOWN =
        .ok ((0, .ok, 0), [⟨nameA, .operStatus, cstring "lowerlayerdown"⟩],
          [(IF_OPER_LOWERLAYERDOWN, some (cstring "down"))]) := by
    decide +kernel
  obtain ⟨⟨_, loaded, ready, next⟩, done, same⟩ := (map_ok_iff ..).mp result
  simp only [Prod.mk.injEq] at same
  obtain ⟨rfl, refused, shown⟩ := same
  obtain ⟨opened, setup, dispatched⟩ := notified_once_ok done
  refine ⟨loaded, ready, next, opened, setup, dispatched, refused, fun follows => ?_⟩
  obtain ⟨hndl, member, shown⟩ := List.mem_map.mp (shown ▸ List.mem_singleton_self _)
  obtain ⟨opstat, leaf⟩ := Prod.mk.inj shown
  obtain ⟨value, name, written⟩ := follows hndl member
  rw [opstat] at name
  rw [leaf] at written
  cases written
  revert name
  decide +kernel

end Nlif.OperStatus
