import Nlif.LibraryRun

/-!
# Change notification

Transcription of `nlif_store_enable_change_notif()` and
`nlif_store_disable_change_notif()` with the gate functions they call, and what
the second leaves behind. Enabling joins the link multicast group; disabling
drops the store's subscription instead of leaving the group, while the gate has
the function that leaves it.
-/

namespace Nlif.ChangeNotif

open LinkModel IfaceModel FaultWalk StoreModel GateModel GateSpec LabelledRun LibraryRun

set_option autoImplicit false

/-- `nlif_gate_enable_change_notif()`, which asserts that the gate has a subscriber;
`errno` is what joining the group reports. -/
def gateEnableChangeNotif (errno : Nat) (gate : Gate) : Int × Gate :=
  if errno ≠ 0 then (-(errno : Int), gate) else (0, { gate with member := true })

/-- `nlif_gate_disable_change_notif()`, which asserts that the group is left. -/
def gateDisableChangeNotif (gate : Gate) : Gate := { gate with member := false }

/-- `nlif_gate_unsubscribe()`. -/
def gateUnsubscribe (gate : Gate) : Gate := { gate with notif := false }

theorem gate_enable_ok_iff (errno : Nat) (gate enabled : Gate) :
    gateEnableChangeNotif errno gate = (0, enabled) ↔
      errno = 0 ∧ enabled = { gate with member := true } := by
  unfold gateEnableChangeNotif
  split
  · rename_i failed
    have negative : -(errno : Int) ≠ 0 := by omega
    simp [failed, negative]
  · rename_i joined
    simp [not_not.mp joined, eq_comm (a := enabled)]

theorem gate_disable_undoes {errno : Nat} {gate enabled : Gate} (outside : gate.member = false)
    (joined : gateEnableChangeNotif errno gate = (0, enabled)) :
    gateDisableChangeNotif enabled = gate := by
  obtain ⟨_, rfl⟩ := (gate_enable_ok_iff ..).mp joined
  cases gate
  cases outside
  rfl

section Store

variable {NameBucket IndexBucket Kstate : Type}

def storeEnableChangeNotif (errno : Nat) (world : World NameBucket IndexBucket Kstate) :
    Int × World NameBucket IndexBucket Kstate :=
  let (ret, gate) := gateEnableChangeNotif errno world.gate
  (ret, { world with gate })

def storeDisableChangeNotif (world : World NameBucket IndexBucket Kstate) :
    World NameBucket IndexBucket Kstate :=
  { world with gate := gateUnsubscribe world.gate }

variable [DecidableEq NameBucket] [DecidableEq IndexBucket]

/-- Disabling undid the enabling: the group is left, the subscription is the one
before, and every later run goes as if nothing had been enabled. -/
structure Undone (platform : Platform NameBucket IndexBucket Kstate)
    (before disabled : World NameBucket IndexBucket Kstate) : Prop where
  left : disabled.gate.member = false
  subscribed : disabled.gate.notif = before.gate.notif
  same : ∀ log next, Run (machine platform) before log next →
    ∃ other, Run (machine platform) disabled log other

section Unsubscribed

variable {platform : Platform NameBucket IndexBucket Kstate} {interface : Addr}
  {world next : World NameBucket IndexBucket Kstate} {ret : Int}

theorem gate_notify_unsubscribed (observers : Observers NameBucket IndexBucket Kstate)
    (data : EventData) (unsubscribed : world.gate.notif = false) :
    gateNotify platform observers data world = .ok (0, world) := by
  unfold gateNotify
  rw [unsubscribed]
  rfl

theorem load_each_unsubscribed (unsubscribed : world.gate.notif = false)
    (links : List GetlinkRsp) : gateLoadEach platform links world = .ok (0, world) := by
  induction links with
  | nil => rfl
  | cons link rest ih =>
      unfold gateLoadEach
      split
      · exact ih
      · rw [gate_notify_unsubscribed noObservers (.new link) unsubscribed]
        exact ih

theorem reload_unsubscribed (unsubscribed : world.gate.notif = false)
    (done : storeReload platform world = .ok (ret, next)) : next.store = storeReinit := by
  obtain ⟨cleared, clear, loaded⟩ := (bind_ok_iff ..).mp done
  obtain ⟨objects, _, emptied⟩ := (bind_ok_iff ..).mp clear
  cases emptied
  obtain ⟨answer, kernel, _, outcome⟩ := store_load_ok loaded
  rcases outcome with same | ⟨links, _, each⟩
  · rw [same]
  · cases each.symm.trans (load_each_unsubscribed (by exact unsubscribed) links)
    rfl

/-- An apply re-hashes nothing: a renamed interface stays under its old name. -/
theorem apply_unsubscribed (unsubscribed : world.gate.notif = false)
    (done : ifaceApply platform interface world = .ok (ret, next)) : next.store = world.store := by
  have quiet : ∀ {request : SetlinkReq} {kernel : Kstate} {code : Int}
      {after : World NameBucket IndexBucket Kstate},
      gateNotify platform noObservers (.modify interface)
        (sent interface world request kernel 0) = .ok (code, after) →
      after.store = world.store := by
    intro request kernel code after notified
    cases notified.symm.trans
      (gate_notify_unsubscribed noObservers (.modify interface) (by exact unsubscribed))
    rfl
  cases (iface_apply_ok_iff ..).mp done with
  | idle | refused => rfl
  | applied _ _ _ notified | clashed _ _ _ notified =>
      have kept := quiet notified
      exact kept

end Unsubscribed

/-- Disabling never undoes the enabling: the socket stays in the group and the
subscription is lost, so that the store no longer takes part in anything. -/
theorem disable_never_undoes {platform : Platform NameBucket IndexBucket Kstate} {errno : Nat}
    {world enabled : World NameBucket IndexBucket Kstate} (subscribed : world.gate.notif = true)
    (joined : storeEnableChangeNotif errno world = (0, enabled)) :
    ¬ Undone platform world (storeDisableChangeNotif enabled) ∧
      (storeDisableChangeNotif enabled).gate.member = true ∧
      (storeDisableChangeNotif enabled).gate.notif ≠ world.gate.notif ∧
      (∀ ret next, storeReload platform (storeDisableChangeNotif enabled) = .ok (ret, next) →
        next.store = storeReinit) ∧
      ∀ interface ret next,
        ifaceApply platform interface (storeDisableChangeNotif enabled) = .ok (ret, next) →
          next.store = world.store := by
  obtain ⟨code, gated⟩ := Prod.mk.inj joined
  obtain ⟨_, gate⟩ := (gate_enable_ok_iff errno world.gate _).mp (Prod.ext code rfl)
  subst gated
  have member : (storeDisableChangeNotif (storeEnableChangeNotif errno world).2).gate.member =
      true := congrArg Gate.member gate
  refine ⟨fun undone => ?_, member, ?_, fun _ _ done => ?_, fun _ _ _ done => ?_⟩
  · exact absurd (undone.left.symm.trans member) (by decide)
  · rw [subscribed]
    exact Bool.false_ne_true
  · exact reload_unsubscribed rfl done
  · have kept := apply_unsubscribed (by rfl) done
    exact kept

end Store

def enabledInit : CodeWorld Unit := { oneLinkInit with gate := { notif := true, member := true } }

/-- A store reload after disabling loses the link "a" and returns 0. -/
theorem disabled_reload_loses_links :
    storeEnableChangeNotif 0 oneLinkInit = (0, enabledInit) ∧
      (∃ next, storeReload oneLinkPlatform oneLinkInit = .ok (0, next) ∧
        storeFindIfaceByname djb2Hashing next.objects next.store nameA = some 0) ∧
      (∃ next, storeReload oneLinkPlatform (storeDisableChangeNotif enabledInit) = .ok (0, next) ∧
        storeFindIfaceByname djb2Hashing next.objects next.store nameA = none) ∧
      ¬ Undone oneLinkPlatform oneLinkInit (storeDisableChangeNotif enabledInit) := by
  refine ⟨rfl, ⟨_, rfl, by decide⟩, ⟨_, rfl, by decide⟩, fun undone => ?_⟩
  exact absurd undone.left (by decide)

theorem enabled_init_not_undone :
    ¬ Undone oneLinkPlatform oneLinkInit (storeDisableChangeNotif enabledInit) ∧
      (storeDisableChangeNotif enabledInit).gate.member = true :=
  have joined : storeEnableChangeNotif 0 oneLinkInit = (0, enabledInit) := rfl
  have disabled := @disable_never_undoes _ _ _ _ _ oneLinkPlatform 0 _ _ rfl joined
  ⟨disabled.1, disabled.2.1⟩

end Nlif.ChangeNotif
