import Nlif.ConfigSnapshot
import Nlif.OperModel

/-!
# What a notification does to the operational datastore

A link notification refreshes one interface and pushes its status where the
refresh changed something. The equations below say so for a store whose
interfaces are valid, whatever Sysrepo answers.
-/

namespace Nlif.OperMirror

open LinkModel IfaceModel FaultWalk FaultLoop StoreModel GateModel GateSpec StoreInvariant
  StoreLookup LibraryRun OperModel
open DaemonModel (SrError)
open DaemonRun (nlifdOpen)
open ConfigSnapshot (Fresh)

set_option autoImplicit false

/-- The last value among these edits, newest first. -/
def lastValue (edits : List Edit) (name : CString) (node : OperNode) : Option CString :=
  (edits.find? fun edit => edit.name = name ∧ edit.node = node).map Edit.value

theorem leaf_eq (session : Session) (name : CString) (node : OperNode) :
    session.leaf name node = lastValue session.written name node := rfl

theorem last_value_append (newer older : List Edit) (name : CString) (node : OperNode) :
    lastValue (newer ++ older) name node =
      (lastValue newer name node).or (lastValue older name node) := by
  rw [lastValue, List.find?_append, lastValue, lastValue]
  cases List.find? (fun edit => decide (edit.name = name ∧ edit.node = node)) newer <;> rfl

theorem last_value_other {edits : List Edit} {name : CString} (node : OperNode)
    (others : ∀ edit ∈ edits, edit.name ≠ name) : lastValue edits name node = none := by
  rw [lastValue, List.find?_eq_none.mpr, Option.map_none]
  intro edit listed
  simp [others edit listed]

def statusEdits (datastore : Datastore) (name : CString) (interface : Iface) (value : CString) :
    List Edit :=
  ⟨name, .operStatus, value⟩ ::
    if datastore.ifMib then
      [⟨name, .adminStatus, admstateStr (ifaceAdmstateOf interface)⟩]
    else []

section Status

variable {datastore : Datastore} {name : CString} {interface : Iface} {value : CString}

theorem status_edits_name : ∀ edit ∈ statusEdits datastore name interface value,
    edit.name = name := by
  intro edit listed
  cases listed with
  | head => rfl
  | tail _ more =>
      split at more
      · rw [List.mem_singleton.mp more]
      · cases more

theorem status_edits_oper : lastValue (statusEdits datastore name interface value) name
    .operStatus = some value := by
  simp [lastValue, statusEdits]

theorem status_edits_admin (mib : datastore.ifMib = true) :
    lastValue (statusEdits datastore name interface value) name .adminStatus =
      some (admstateStr (ifaceAdmstateOf interface)) := by
  simp [lastValue, statusEdits, mib]

theorem refresh_oper_eq (session : Session)
    (formatted : nlifLinkOperstateStr interface.opstat = .ok value)
    (accepted : ∀ edit ∈ statusEdits datastore name interface value,
      datastore.accepts edit = true) :
    nlifdIfaceRefreshOper datastore name interface session = .ok (.ok, { session with
      pending := statusEdits datastore name interface value ++ session.pending }) := by
  have oper := accepted _ (List.mem_cons_self ..)
  unfold nlifdIfaceRefreshOper nlifdIfaceFillOperstate
  cases mib : datastore.ifMib with
  | true =>
      have admin : datastore.accepts
          ⟨name, .adminStatus, admstateStr (ifaceAdmstateOf interface)⟩ = true := by
        apply accepted
        simp [statusEdits, mib]
      simp [nlifdIfaceFillAdmstate, srepoDatChangeBypath, admin, oper, formatted, statusEdits, mib]
  | false =>
      simp [srepoDatChangeBypath, oper, formatted, statusEdits, mib]

def pushed (datastore : Datastore) (name : CString) (interface : Iface) (value : CString)
    (session : Session) : Session :=
  { session with
    pending := []
    written := statusEdits datastore name interface value ++ session.pending ++ session.written }

theorem push_status_eq (session : Session)
    (formatted : nlifLinkOperstateStr interface.opstat = .ok value)
    (accepted : ∀ edit ∈ statusEdits datastore name interface value,
      datastore.accepts edit = true)
    (applies : ∀ session, datastore.applies session = true) :
    pushStatus datastore name interface session =
      .ok (pushed datastore name interface value session) := by
  rw [pushStatus, refresh_oper_eq session formatted accepted]
  simp [srepoApplyChanges, applies, pushed]

theorem pushed_other {session : Session} (applied : session.pending = []) {other : CString}
    (different : name ≠ other) (node : OperNode) :
    (pushed datastore name interface value session).leaf other node = session.leaf other node := by
  have silent : lastValue (statusEdits datastore name interface value) other node = none := by
    apply last_value_other
    intro edit listed
    rw [status_edits_name edit listed]
    exact different
  rw [leaf_eq, leaf_eq, pushed, applied, List.append_nil, last_value_append, silent,
    Option.none_or]

theorem pushed_oper (session : Session) :
    (pushed datastore name interface value session).leaf name .operStatus = some value := by
  rw [leaf_eq, pushed, List.append_assoc, last_value_append, status_edits_oper]
  rfl

theorem pushed_admin (mib : datastore.ifMib = true) (session : Session) :
    (pushed datastore name interface value session).leaf name .adminStatus =
      some (admstateStr (ifaceAdmstateOf interface)) := by
  rw [leaf_eq, pushed, List.append_assoc, last_value_append, status_edits_admin mib]
  rfl

end Status

section Notification

variable {NameBucket IndexBucket Kstate : Type}

/-- Every enrolled interface is valid and has a name of its own. -/
structure Steady (platform : Platform NameBucket IndexBucket Kstate)
    (world : World NameBucket IndexBucket Kstate) : Prop where
  kept : Kept platform world
  valid : ∀ hndl ∈ world.store.ifaces, (world.objects hndl.iface).state ≠ .invalid
  distinct : ∀ left ∈ world.store.ifaces, ∀ right ∈ world.store.ifaces,
    (world.objects left.iface).name = (world.objects right.iface).name → left = right

theorem fresh_steady [DecidableEq NameBucket] [DecidableEq IndexBucket]
    {platform : Platform NameBucket IndexBucket Kstate}
    {world : World NameBucket IndexBucket Kstate} (fresh : Fresh platform world) :
    Steady platform world where
  kept := fresh.kept
  valid hndl member := by
    rw [fresh.ready.clean hndl member]
    decide
  distinct left leftThere right rightThere same := fresh.ready.distinct rightThere leftThere same

theorem beside_reports {platform : Platform NameBucket IndexBucket Kstate}
    (reports : KernelReports platform.kernel) : KernelReports (beside platform).kernel where
  getlink index state link next asked := by
    have answered := congrArg Prod.fst asked
    exact reports.getlink index state.1 link _ (Prod.ext answered rfl)
  dump state links next asked := by
    have answered := congrArg Prod.fst asked
    exact reports.dump state.1 links _ (Prod.ext answered rfl)

def Unmoved (interface : Iface) (link : GetlinkRsp) : Prop :=
  interface.flags &&& IFF_VOLATILE = link.ifiFlags &&& IFF_VOLATILE ∧
    interface.opstat = link.operstate.getD 0 ∧ interface.lnkmod = link.linkmode.getD 0

instance (interface : Iface) (link : GetlinkRsp) : Decidable (Unmoved interface link) :=
  inferInstanceAs (Decidable (_ ∧ _ ∧ _))

theorem refresh_unmoved_iff (interface : Iface) (link : GetlinkRsp) :
    (ifaceRefreshState interface link).1 = false ↔ Unmoved interface link := by
  simp [ifaceRefreshState, Unmoved, and_assoc]

theorem refresh_unmoved {interface : Iface} {link : GetlinkRsp}
    (unmoved : Unmoved interface link) : (ifaceRefreshState interface link).2 = interface := by
  obtain ⟨flags, opstat, lnkmod⟩ := unmoved
  simp [ifaceRefreshState, flags, ← opstat, ← lnkmod]

theorem refresh_admstate (interface : Iface) (link : GetlinkRsp) :
    adminUp (ifaceRefreshState interface link).2.flags = adminUp interface.flags := by
  have volatile : IFF_VOLATILE[0] = false := by decide
  rw [admin_up_eq, admin_up_eq]
  simp only [ifaceRefreshState]
  split
  · simp [BitVec.getElem_or, BitVec.getElem_and, BitVec.getElem_not, volatile]
  · rfl

variable {platform : Platform NameBucket IndexBucket Kstate} {datastore : Datastore}
  {world : OperWorld NameBucket IndexBucket Kstate} {link : GetlinkRsp} {hndl : Hndl}

def refreshed (hndl : Hndl) (link : GetlinkRsp) (session : Session)
    (world : OperWorld NameBucket IndexBucket Kstate) :
    OperWorld NameBucket IndexBucket Kstate :=
  (setSession session (world.setObject hndl.iface
    (ifaceRefreshState (world.objects hndl.iface) link).2)).record
      (.notified .change link.ifiIndex 0)

structure Framed (before after : Iface) : Prop where
  idx : after.idx = before.idx
  name : after.name = before.name
  state : after.state = before.state
  fields : after.dirtyFields = before.dirtyFields
  admstate : adminUp after.flags = adminUp before.flags

theorem framed_refl (interface : Iface) : Framed interface interface := ⟨rfl, rfl, rfl, rfl, rfl⟩

section Refreshed

variable (session : Session)

theorem refreshed_self :
    (refreshed hndl link session world).objects hndl.iface =
      (ifaceRefreshState (world.objects hndl.iface) link).2 :=
  Function.update_self ..

theorem refreshed_other {other : Hndl} (steady : Steady (beside platform) world)
    (member : hndl ∈ world.store.ifaces) (there : other ∈ world.store.ifaces)
    (different : other ≠ hndl) :
    (refreshed hndl link session world).objects other.iface = world.objects other.iface :=
  Function.update_of_ne (fun same =>
    different (steady.kept.linked.same_iface there member same)) _ _

theorem refreshed_frame (steady : Steady (beside platform) world)
    (member : hndl ∈ world.store.ifaces) {other : Hndl} (there : other ∈ world.store.ifaces) :
    Framed (world.objects other.iface)
      ((refreshed hndl link session world).objects other.iface) := by
  by_cases self : other = hndl
  · subst self
    rw [refreshed_self]
    exact ⟨rfl, rfl, rfl, rfl, refresh_admstate _ _⟩
  · rw [refreshed_other session steady member there self]
    exact framed_refl _

theorem refreshed_steady (steady : Steady (beside platform) world)
    (member : hndl ∈ world.store.ifaces) :
    Steady (beside platform) (refreshed hndl link session world) where
  kept := by
    have kept := (refresh_kept steady.kept hndl.iface link).record
      (.notified .change link.ifiIndex 0)
    exact ⟨kept.linked, kept.subscribed, kept.indexed⟩
  valid other there := by
    rw [(refreshed_frame session steady member there).state]
    exact steady.valid other there
  distinct left leftThere right rightThere same := by
    rw [(refreshed_frame session steady member leftThere).name,
      (refreshed_frame session steady member rightThere).name] at same
    exact steady.distinct left leftThere right rightThere same

end Refreshed

theorem recorded_steady (steady : Steady (beside platform) world) (event : Event) :
    Steady (beside platform) (world.record event) :=
  ⟨steady.kept.record event, steady.valid, steady.distinct⟩

/-- The notified link moves an enrolled interface. -/
def Moves (world : OperWorld NameBucket IndexBucket Kstate) (link : GetlinkRsp) (hndl : Hndl) :
    Prop :=
  hndl ∈ world.store.ifaces ∧ (world.objects hndl.iface).idx = link.ifiIndex ∧
    ¬ Unmoved (world.objects hndl.iface) link

/-- What a notification leaves: nothing happened, or an interface moved and was pushed. -/
inductive Notified (datastore : Datastore) (link : GetlinkRsp)
    (world : OperWorld NameBucket IndexBucket Kstate) :
    OperWorld NameBucket IndexBucket Kstate → Prop
  | quiet (still : ∀ hndl, ¬ Moves world link hndl) :
      Notified datastore link world (world.record (.notified .change link.ifiIndex 0))
  | pushed {hndl : Hndl} {session : Session} (moves : Moves world link hndl)
      (done : pushStatus datastore (world.objects hndl.iface).name
        (ifaceRefreshState (world.objects hndl.iface) link).2 world.kernel.2 = .ok session) :
      Notified datastore link world (refreshed hndl link session world)

theorem Notified.steady {next : OperWorld NameBucket IndexBucket Kstate}
    (notified : Notified datastore link world next) (steady : Steady (beside platform) world) :
    Steady (beside platform) next := by
  cases notified with
  | quiet => exact recorded_steady steady _
  | pushed moves => exact refreshed_steady _ steady moves.1

theorem Notified.ifaces {next : OperWorld NameBucket IndexBucket Kstate}
    (notified : Notified datastore link world next) :
    next.store.ifaces = world.store.ifaces := by
  cases notified with
  | quiet => rfl
  | pushed => rfl

theorem Notified.framed {next : OperWorld NameBucket IndexBucket Kstate}
    (notified : Notified datastore link world next) (steady : Steady (beside platform) world)
    {hndl : Hndl} (member : hndl ∈ world.store.ifaces) :
    Framed (world.objects hndl.iface) (next.objects hndl.iface) := by
  cases notified with
  | quiet => exact framed_refl _
  | pushed moves => exact refreshed_frame _ steady moves.1 member

variable [DecidableEq NameBucket] [DecidableEq IndexBucket]

theorem notify_absent (kept : Kept (beside platform) world)
    (absent : ∀ hndl ∈ world.store.ifaces, (world.objects hndl.iface).idx ≠ link.ifiIndex) :
    gateNotify (beside platform) (nlifdPushOper datastore platform) (.change link) world =
      .ok (0, world.record (.notified .change link.ifiIndex 0)) := by
  have unfound : storeFindIfaceByindex (beside platform).hash world.objects world.store
      link.ifiIndex = none := by
    cases found : storeFindIfaceByindex (beside platform).hash world.objects world.store
        link.ifiIndex with
    | none => rfl
    | some interface =>
        obtain ⟨hndl, member, same, idx⟩ := (find_byindex_iff kept.linked ..).mp found
        rw [← same] at idx
        exact absurd idx (absent hndl member)
  simp only [gateNotify, kept.subscribed, if_true, storeOnEvent, storeOnIfaceChange, unfound]
  rfl

theorem push_oper_eq {interface : Addr} (valid : (world.objects interface).state ≠ .invalid)
    (reachable : ∀ name, 0 ≤ datastore.xpath name) :
    nlifdPushOper datastore platform interface world =
      (fun session => setSession session world) <$> pushStatus datastore
        (world.objects interface).name (world.objects interface) world.kernel.2 := by
  have coherent : ifaceCoherentName (beside platform) interface world =
      .ok (.ok (world.objects interface).name, world) := by
    simp only [ifaceCoherentName, ifaceCoherent, sync_passes _ _ _ valid, ok_bind, ne_eq,
      not_true_eq_false, if_false]
  have path : ¬ datastore.xpath (world.objects interface).name < 0 :=
    not_lt.mpr (reachable _)
  simp only [nlifdPushOper, coherent, ok_bind, if_neg path]
  cases pushStatus datastore (world.objects interface).name (world.objects interface)
    world.kernel.2 <;> rfl

theorem notify_unmoved (kept : Kept (beside platform) world) (member : hndl ∈ world.store.ifaces)
    (idx : (world.objects hndl.iface).idx = link.ifiIndex)
    (unmoved : Unmoved (world.objects hndl.iface) link) :
    gateNotify (beside platform) (nlifdPushOper datastore platform) (.change link) world =
      .ok (0, world.record (.notified .change link.ifiIndex 0)) := by
  have found : storeFindIfaceByindex (beside platform).hash world.objects world.store
      link.ifiIndex = some hndl.iface :=
    (find_byindex_iff kept.linked ..).mpr ⟨hndl, member, rfl, idx⟩
  have unchanged := (refresh_unmoved_iff _ _).mpr unmoved
  have self : world.setObject hndl.iface (world.objects hndl.iface) = world := by
    rw [World.setObject, Function.update_eq_self]
  simp only [gateNotify, kept.subscribed, if_true, storeOnEvent, storeOnIfaceChange, found,
    unchanged, refresh_unmoved unmoved, self]
  rfl

theorem notify_moved (steady : Steady (beside platform) world)
    (reachable : ∀ name, 0 ≤ datastore.xpath name) (member : hndl ∈ world.store.ifaces)
    (idx : (world.objects hndl.iface).idx = link.ifiIndex)
    (moved : ¬ Unmoved (world.objects hndl.iface) link) :
    gateNotify (beside platform) (nlifdPushOper datastore platform) (.change link) world =
      (fun session => (0, refreshed hndl link session world)) <$>
        pushStatus datastore (world.objects hndl.iface).name
          (ifaceRefreshState (world.objects hndl.iface) link).2 world.kernel.2 := by
  have found : storeFindIfaceByindex (beside platform).hash world.objects world.store
      link.ifiIndex = some hndl.iface :=
    (find_byindex_iff steady.kept.linked ..).mpr ⟨hndl, member, rfl, idx⟩
  have changed : (ifaceRefreshState (world.objects hndl.iface) link).1 = true := by
    have differs := mt (refresh_unmoved_iff _ _).mp moved
    simpa using differs
  let reached := world.setObject hndl.iface (ifaceRefreshState (world.objects hndl.iface) link).2
  have self : reached.objects hndl.iface =
      (ifaceRefreshState (world.objects hndl.iface) link).2 := World.set_object_self ..
  have valid : (reached.objects hndl.iface).state ≠ .invalid := by
    rw [self]
    exact steady.valid hndl member
  have observed : nlifdPushOper datastore platform hndl.iface reached =
      (fun session => setSession session reached) <$> pushStatus datastore
        (reached.objects hndl.iface).name (reached.objects hndl.iface) reached.kernel.2 :=
    push_oper_eq valid reachable
  have name : (ifaceRefreshState (world.objects hndl.iface) link).2.name =
      (world.objects hndl.iface).name := rfl
  have kernel : reached.kernel = world.kernel := rfl
  rw [self, name, kernel] at observed
  simp only [gateNotify, steady.kept.subscribed, if_true, storeOnEvent, storeOnIfaceChange, found,
    changed]
  rw [observed]
  cases pushStatus datastore (world.objects hndl.iface).name
    (ifaceRefreshState (world.objects hndl.iface) link).2 world.kernel.2 with
  | error fault => rfl
  | ok session => rfl

theorem notify_cases (steady : Steady (beside platform) world)
    (reachable : ∀ name, 0 ≤ datastore.xpath name) (link : GetlinkRsp) :
    ((∀ hndl, ¬ Moves world link hndl) ∧
      gateNotify (beside platform) (nlifdPushOper datastore platform) (.change link) world =
        .ok (0, world.record (.notified .change link.ifiIndex 0))) ∨
    ∃ hndl, Moves world link hndl ∧
      gateNotify (beside platform) (nlifdPushOper datastore platform) (.change link) world =
        (fun session => (0, refreshed hndl link session world)) <$>
          pushStatus datastore (world.objects hndl.iface).name
            (ifaceRefreshState (world.objects hndl.iface) link).2 world.kernel.2 := by
  by_cases known : ∃ hndl ∈ world.store.ifaces, (world.objects hndl.iface).idx = link.ifiIndex
  · obtain ⟨hndl, member, idx⟩ := known
    by_cases unmoved : Unmoved (world.objects hndl.iface) link
    · refine .inl ⟨?_, notify_unmoved steady.kept member idx unmoved⟩
      intro other moves
      have same := steady.kept.linked.injective other moves.1 hndl member
        (moves.2.1.trans idx.symm)
      exact moves.2.2 (same ▸ unmoved)
    · exact .inr ⟨hndl, ⟨member, idx, unmoved⟩,
        notify_moved steady reachable member idx unmoved⟩
  · have absent : ∀ hndl ∈ world.store.ifaces,
        (world.objects hndl.iface).idx ≠ link.ifiIndex :=
      fun hndl member idx => known ⟨hndl, member, idx⟩
    exact .inl ⟨fun hndl moves => absent hndl moves.1 moves.2.1, notify_absent steady.kept absent⟩

theorem notify_ok (steady : Steady (beside platform) world)
    (reachable : ∀ name, 0 ≤ datastore.xpath name) {ret : Int}
    {next : OperWorld NameBucket IndexBucket Kstate}
    (done : gateNotify (beside platform) (nlifdPushOper datastore platform) (.change link) world =
      .ok (ret, next)) : ret = 0 ∧ Notified datastore link world next := by
  cases notify_cases steady reachable link with
  | inl quiet =>
      rw [quiet.2] at done
      cases done
      exact ⟨rfl, .quiet quiet.1⟩
  | inr moved =>
      obtain ⟨hndl, moves, notified⟩ := moved
      rw [notified] at done
      obtain ⟨session, pushed, same⟩ := (map_ok_iff ..).mp done
      cases same
      exact ⟨rfl, .pushed moves pushed⟩

/-- The notifications that `nlif_gate_notify_changes()` passes on. -/
def Heard (notification : Notification) : Prop :=
  notification.newlink = true ∧ gateIslinkValid notification.link = 0

instance (notification : Notification) : Decidable (Heard notification) :=
  inferInstanceAs (Decidable (_ ∧ _))

theorem skipped_iff (notification : Notification) :
    (!notification.newlink || decide (gateIslinkValid notification.link ≠ 0)) = true ↔
      ¬ Heard notification := by
  simp only [Heard, Bool.or_eq_true, Bool.not_eq_true', decide_eq_true_eq, not_and_or,
    Bool.not_eq_true]

theorem dispatch_skipped {notification : Notification} (rest : List Notification)
    (skipped : ¬ Heard notification) :
    nlifdDispatchNotif datastore platform (notification :: rest) world =
      nlifdDispatchNotif datastore platform rest world := by
  rw [nlifdDispatchNotif, gateNotifyChanges, if_pos ((skipped_iff _).mpr skipped)]
  rfl

theorem dispatch_heard {notification : Notification} (rest : List Notification)
    (heard : Heard notification) {middle : OperWorld NameBucket IndexBucket Kstate}
    (notified : gateNotify (beside platform) (nlifdPushOper datastore platform)
      (.change notification.link) world = .ok (0, middle)) :
    nlifdDispatchNotif datastore platform (notification :: rest) world =
      nlifdDispatchNotif datastore platform rest middle := by
  rw [nlifdDispatchNotif, gateNotifyChanges, if_neg (mt (skipped_iff _).mp (not_not.mpr heard)),
    notified]
  rfl

theorem dispatch_cons_ok (steady : Steady (beside platform) world)
    (reachable : ∀ name, 0 ≤ datastore.xpath name) {notification : Notification}
    {rest : List Notification} {ret : Int} {next : OperWorld NameBucket IndexBucket Kstate}
    (done : nlifdDispatchNotif datastore platform (notification :: rest) world =
      .ok (ret, next)) :
    (¬ Heard notification ∧ nlifdDispatchNotif datastore platform rest world = .ok (ret, next)) ∨
    (Heard notification ∧ ∃ middle, Notified datastore notification.link world middle ∧
      nlifdDispatchNotif datastore platform rest middle = .ok (ret, next)) := by
  by_cases heard : Heard notification
  · cases notified : gateNotify (beside platform) (nlifdPushOper datastore platform)
        (.change notification.link) world with
    | error fault =>
        rw [nlifdDispatchNotif, gateNotifyChanges,
          if_neg (mt (skipped_iff _).mp (not_not.mpr heard)), notified] at done
        cases done
    | ok outcome =>
        obtain ⟨answer, middle⟩ := outcome
        obtain ⟨zero, moved⟩ := notify_ok steady reachable notified
        subst zero
        rw [dispatch_heard rest heard notified] at done
        exact .inr ⟨heard, middle, moved, done⟩
  · rw [dispatch_skipped rest heard] at done
    exact .inl ⟨heard, done⟩

end Notification

end Nlif.OperMirror
