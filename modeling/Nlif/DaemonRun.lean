import Nlif.DaemonSpec

/-!
# Runs of the daemon

The configuration events and notifications the daemon takes after `nlifd_open()`,
as a machine over worlds. An assertion of a valid interface can only fail in the
loops over the whole store, and does not where these start without an `INVALID`
interface.
-/

namespace Nlif.DaemonRun

open LinkModel IfaceModel FaultWalk FaultLoop StoreModel GateModel GateSpec StoreLookup
  LibraryRun LabelledRun DaemonModel DaemonSpec

set_option autoImplicit false

inductive DaemonOp where
  | change (event : SrEvent) (changes : List LeafChange)
  | notify (notifications : List Notification)

inductive DaemonRet where
  | sr (ret : SrError)
  | code (ret : Int)
deriving DecidableEq

variable {NameBucket IndexBucket Kstate : Type}

theorem from_node_enrolled {platform : Platform NameBucket IndexBucket Kstate} {interface : Addr}
    {world : World NameBucket IndexBucket Kstate} (kept : Kept platform world) {change : LeafChange}
    (found : nlifdIfaceFromNode platform change world = some interface) :
    Enrolled interface world := by
  obtain ⟨_, _, named⟩ := from_node_some found
  obtain ⟨hndl, member, same, _⟩ := find_byname_some kept.linked named
  exact ⟨hndl, member, same⟩

/-- A call of an asserting function was made on a valid interface. -/
def assertionHolds : Event → Prop
  | .called _ _ state => state ≠ .invalid
  | .getlink _ _ | .setlink _ _ | .notified _ _ _ => True

def Asserted (trace : List Event) : Prop := ∀ event ∈ trace, assertionHolds event

theorem asserted_cons (event : Event) (trace : List Event) :
    Asserted (event :: trace) ↔ assertionHolds event ∧ Asserted trace := by
  simp [Asserted]

def AllValid (world : World NameBucket IndexBucket Kstate) : Prop :=
  ∀ hndl ∈ world.store.ifaces, (world.objects hndl.iface).state ≠ .invalid

instance (world : World NameBucket IndexBucket Kstate) : Decidable (AllValid world) :=
  inferInstanceAs
    (Decidable (∀ hndl ∈ world.store.ifaces, (world.objects hndl.iface).state ≠ .invalid))

theorem call_asserted {interface : Addr} {world : World NameBucket IndexBucket Kstate}
    {callee : Asserting} (valid : (world.objects interface).state ≠ .invalid)
    (asserted : Asserted world.trace) : Asserted (callAsserting callee interface world).trace :=
  (asserted_cons ..).mpr ⟨valid, asserted⟩

variable [DecidableEq NameBucket] [DecidableEq IndexBucket]

def daemonMachine (sysrepo : Sysrepo) (platform : Platform NameBucket IndexBucket Kstate) :
    Machine (World NameBucket IndexBucket Kstate) DaemonOp DaemonRet Fault where
  admits _ _ := True
  step op world :=
    match op with
    | .change event changes =>
        (fun done => (.sr done.1, done.2)) <$>
          nlifdOnIfaceChange sysrepo platform event changes world
    | .notify notifications =>
        (fun done => (.code done.1, done.2)) <$>
          nlifdDispatchNotif sysrepo platform notifications world

/-- `nlifd_open()`: the store is subscribed to the link group, then loaded. -/
def nlifdOpen (platform : Platform NameBucket IndexBucket Kstate) (objects : Objects)
    (kernel : Kstate) : Except Fault (Int × World NameBucket IndexBucket Kstate) :=
  storeLoad platform { storeInit objects kernel with gate := { notif := true, member := true } }

section Kept

variable {platform : Platform NameBucket IndexBucket Kstate} {sysrepo : Sysrepo}
  {interface : Addr} {world next : World NameBucket IndexBucket Kstate} {ret : Int}
  {answer : SrError} {changes : List LeafChange}

theorem effect_kept (reports : KernelReports platform.kernel) (kept : Kept platform world)
    {change : LeafChange} (effect : Effect platform change world next) : Kept platform next := by
  cases effect with
  | reads reads =>
      cases reads with
      | nothing => exact kept
      | unread found sync => exact sync_kept reports kept (from_node_enrolled kept found) sync
      | read found sync =>
          exact (sync_kept reports kept (from_node_enrolled kept found) sync).record _
  | @set _ value _ _ found done =>
      have argument : (Setter.admstate value).Valid := trivial
      exact set_kept reports kept (from_node_enrolled kept found) argument done

theorem apply_enrolled_kept (kept : Kept platform world) (enrolled : Enrolled interface world)
    (done : ifaceApply platform interface world = .ok (ret, next)) : Kept platform next :=
  apply_kept kept enrolled ((iface_apply_ok_iff ..).mp done)

theorem push_oper_kept (reports : KernelReports platform.kernel) (kept : Kept platform world)
    (enrolled : Enrolled interface world)
    (done : nlifdPushOper sysrepo platform interface world = .ok next) : Kept platform next := by
  obtain ⟨_, middle, sync, pushed⟩ := push_oper_ok done
  have keptMiddle := sync_kept reports kept enrolled sync
  rcases pushed with rfl | ⟨_, rfl | rfl | rfl⟩
  · exact keptMiddle
  · exact keptMiddle.record _
  · exact keptMiddle.record _
  · exact (keptMiddle.record _).record _

end Kept

section Asserted

variable {platform : Platform NameBucket IndexBucket Kstate} {sysrepo : Sysrepo}
  {interface : Addr} {world next : World NameBucket IndexBucket Kstate} {ret : Int}
  {answer : SrError} {changes : List LeafChange}

theorem sync_asserted (subscribed : world.gate.notif = true) (asserted : Asserted world.trace)
    (sync : ifaceSync platform interface world = .ok (ret, next)) : Asserted next.trace := by
  rcases (iface_sync_ok_iff _ _ _ subscribed _ _).mp sync with ⟨_, _, rfl⟩ | ⟨_, reload⟩
  · exact asserted
  · cases reload with
    | unanswered => exact (asserted_cons ..).mpr ⟨trivial, asserted⟩
    | accepted | clashed =>
        exact (asserted_cons ..).mpr ⟨trivial, (asserted_cons ..).mpr ⟨trivial, asserted⟩⟩

theorem apply_asserted (asserted : Asserted world.trace)
    (valid : (world.objects interface).state ≠ .invalid)
    (done : ifaceApply platform interface world = .ok (ret, next)) : Asserted next.trace := by
  have called : Asserted
      (.called .apply (world.objects interface).idx (world.objects interface).state ::
        world.trace) := (asserted_cons ..).mpr ⟨valid, asserted⟩
  cases (iface_apply_ok_iff ..).mp done with
  | idle => exact called
  | refused => exact (asserted_cons ..).mpr ⟨trivial, called⟩
  | applied _ _ _ notified | clashed _ _ _ notified =>
      rcases (gate_notify_modify_ok_iff ..).mp notified with ⟨_, store, _, rfl⟩ | ⟨_, _, rfl⟩
      · exact (asserted_cons ..).mpr ⟨trivial, (asserted_cons ..).mpr ⟨trivial, called⟩⟩
      · exact (asserted_cons ..).mpr ⟨trivial, called⟩

theorem effect_asserted (subscribed : world.gate.notif = true) (asserted : Asserted world.trace)
    {change : LeafChange} (effect : Effect platform change world next) : Asserted next.trace := by
  cases effect with
  | reads reads =>
      cases reads with
      | nothing => exact asserted
      | unread _ sync => exact sync_asserted subscribed asserted sync
      | read _ sync =>
          exact call_asserted (sync_valid subscribed sync) (sync_asserted subscribed asserted sync)
  | set _ done =>
      obtain ⟨_, middle, sync, outcome⟩ := iface_set_ok _ _ _ done
      have synced := sync_asserted subscribed asserted sync
      rcases outcome with ⟨_, _, rfl⟩ | ⟨_, _, _, rfl⟩
      · exact synced
      · exact synced

structure Sane (platform : Platform NameBucket IndexBucket Kstate)
    (world : World NameBucket IndexBucket Kstate) : Prop where
  kept : Kept platform world
  asserted : Asserted world.trace

theorem effect_sane (reports : KernelReports platform.kernel) (sane : Sane platform world)
    {change : LeafChange} (effect : Effect platform change world next) : Sane platform next :=
  ⟨effect_kept reports sane.kept effect, effect_asserted sane.kept.subscribed sane.asserted effect⟩

theorem apply_iface_sane {hndl : Hndl} (sane : Sane platform world)
    (member : hndl ∈ world.store.ifaces) (valid : (world.objects hndl.iface).state ≠ .invalid)
    (done : ifaceApply platform hndl.iface world = .ok (ret, next)) : Sane platform next :=
  ⟨apply_enrolled_kept sane.kept ⟨hndl, member, rfl⟩ done,
    apply_asserted sane.asserted valid done⟩

theorem apply_visit_sane {hndl : Hndl} (sane : Sane platform world)
    (member : hndl ∈ world.store.ifaces) (valid : (world.objects hndl.iface).state ≠ .invalid)
    (done : applyIface platform hndl world = .ok (ret, next)) : Sane platform next := by
  obtain ⟨middle, applied, ⟨one, rfl⟩ | ⟨_, rfl⟩⟩ := apply_iface_ok done
  · have after := apply_iface_sane sane member valid applied
    have clean : (middle.objects hndl.iface).state ≠ .invalid := by
      rcases apply_state applied with ⟨_, negative, _⟩ | ⟨clean, _⟩ | ⟨_, zero, _⟩
      · omega
      · rw [clean]
        decide
      · omega
    exact ⟨after.kept.record _, (asserted_cons ..).mpr ⟨clean, after.asserted⟩⟩
  · exact apply_iface_sane sane member valid applied

theorem apply_visit_valid {hndl : Hndl} (sane : Sane platform world) (valid : AllValid world)
    (member : hndl ∈ world.store.ifaces)
    (done : applyIface platform hndl world = .ok (ret, next)) (goes : ¬ ret < 0) :
    Sane platform next ∧ AllValid next ∧ next.store.ifaces = world.store.ifaces := by
  obtain ⟨middle, applied, called⟩ := apply_iface_ok done
  have touched := apply_local applied
  have shape : next.objects = middle.objects ∧ next.store = middle.store := by
    rcases called with ⟨_, rfl⟩ | ⟨_, rfl⟩
    · exact ⟨rfl, rfl⟩
    · exact ⟨rfl, rfl⟩
  have listed : next.store.ifaces = world.store.ifaces := by
    rw [shape.2, touched.ifaces]
  refine ⟨apply_visit_sane sane member (valid hndl member) done, fun other enrolled => ?_, listed⟩
  rw [shape.1]
  by_cases same : other.iface = hndl.iface
  · rw [same]
    rcases apply_state applied with ⟨_, negative, _⟩ | ⟨clean, _⟩ | ⟨unchanged, _⟩
    · exact absurd negative goes
    · rw [clean]
      decide
    · rw [unchanged]
      exact valid hndl member
  · rw [touched.elsewhere _ same]
    exact valid other (listed ▸ enrolled)

theorem open_sane {objects : Objects} {kernel : Kstate}
    (reports : ∀ links after, platform.kernel.dump kernel = (.ok links, after) →
      ∀ link ∈ links, Reported link)
    (opened : nlifdOpen platform objects kernel = .ok (ret, world)) : Sane platform world := by
  obtain ⟨answer, _, asked, loaded⟩ := store_load_ok opened
  have initial : ∀ reached : Kstate, Sane platform
      { storeInit objects reached with gate := { notif := true, member := true } } := by
    intro reached
    have kept := kept_init platform objects reached
    exact ⟨⟨kept.linked, rfl, kept.indexed⟩, by simp [Asserted, storeInit]⟩
  rcases loaded with rfl | ⟨links, rfl, loaded⟩
  · exact initial _
  · refine load_each_invariant (Sane platform) links ?_ (initial _) loaded
    intro link member world ret next sane notified
    have kept := new_link_kept sane.kept (reports _ _ asked link member) notified
    obtain ⟨after, rfl, rfl | ⟨_, rfl⟩⟩ := new_link_ok sane.kept notified
    · exact ⟨kept, (asserted_cons ..).mpr ⟨trivial, sane.asserted⟩⟩
    · exact ⟨kept, (asserted_cons ..).mpr ⟨trivial, sane.asserted⟩⟩

end Asserted

/-- A Sysrepo that accepts everything, and reads every old value as "false". -/
def agreeingSysrepo : Sysrepo where
  ustrParseBool _ := some false
  ifMib := true
  srepoXpathCreatef _ _ := 0
  srepoDatChangeBypath _ _ _ := .ok

def enableLink : LeafChange where
  node := .enabled true (some true)
  key := some nameA
  oper := .modified
  old := some (cstring "false")

/-- The world a completed `nlifd_open()` leaves. -/
def started (platform : CodePlatform Unit) : CodeWorld Unit :=
  match nlifdOpen platform (fun _ => ifaceFill oneLink) () with
  | .ok (_, world) => world
  | .error _ => oneLinkInit

end Nlif.DaemonRun
