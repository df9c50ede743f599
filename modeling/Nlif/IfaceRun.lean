import Nlif.GateSpec
import Nlif.LabelledRun
import Nlif.StoreRehash

/-!
# Runs of one interface

The calls of `lib/iface.h` on one object, while anything else may happen to the
rest of the library between two of them: other objects, the store, its
subscription and the kernel are arbitrary at every call. `Turn` says once what a
completed call does to the object; the results about one interface are derived
from it.
-/

namespace Nlif.IfaceRun

open LinkModel IfaceModel FaultWalk StoreModel StoreRehash GateModel GateSpec LabelledRun

set_option autoImplicit false

variable {NameBucket IndexBucket Kstate : Type}

inductive Call (NameBucket IndexBucket Kstate : Type) where
  | set (setter : Setter)
  | coherent
  | refresh (link : GetlinkRsp)
  | reload
  | reloadBylink (link : GetlinkRsp)
  | apply
  | meanwhile (world : World NameBucket IndexBucket Kstate)

/-- What a call returns. `nlif_iface_reload_bylink()` returns nothing. -/
inductive Answer where
  | code (ret : Int)
  | read (value : Except Int Iface)
  | changed (change : Bool)
  | done

section Machine

variable [DecidableEq NameBucket] [DecidableEq IndexBucket]

def code (result : Except Fault (Int × World NameBucket IndexBucket Kstate)) :
    Except Fault (Answer × World NameBucket IndexBucket Kstate) :=
  (fun done => (.code done.1, done.2)) <$> result

/-- What the callers of each function promise. -/
def admits (interface : Addr) (world : World NameBucket IndexBucket Kstate) :
    Call NameBucket IndexBucket Kstate → Prop
  | .set setter => setter.Valid
  | .refresh link | .reloadBylink link =>
      link.ifiIndex = (world.objects interface).idx ∧ gateIslinkValid link = 0
  | .meanwhile other => other.objects interface = world.objects interface
  | .coherent | .reload | .apply => True

def step (platform : Platform NameBucket IndexBucket Kstate) (interface : Addr)
    (call : Call NameBucket IndexBucket Kstate) (world : World NameBucket IndexBucket Kstate) :
    Except Fault (Answer × World NameBucket IndexBucket Kstate) :=
  match call with
  | .set setter => code (ifaceSet platform setter interface world)
  | .coherent =>
      (fun done => (.read done.1, done.2)) <$> ifaceCoherent platform id interface world
  | .refresh link =>
      let refreshed := ifaceRefreshState (world.objects interface) link
      .ok (.changed refreshed.1, world.setObject interface refreshed.2)
  | .reload => code (ifaceReload platform interface world)
  | .reloadBylink link =>
      (fun object => (.done, world.setObject interface object)) <$>
        ifaceReloadBylink (world.objects interface) link
  | .apply => code (ifaceApply platform interface world)
  | .meanwhile other => .ok (.done, other)

def machine (platform : Platform NameBucket IndexBucket Kstate) (interface : Addr) :
    Machine (World NameBucket IndexBucket Kstate) (Call NameBucket IndexBucket Kstate) Answer
      Fault where
  admits := admits interface
  step := step platform interface

end Machine

def handedOut (platform : Platform NameBucket IndexBucket Kstate) (interface : Addr)
    (world : World NameBucket IndexBucket Kstate) : Except Int GetlinkRsp :=
  gateGetlink (platform.kernel.getlink (world.objects interface).idx world.kernel).1

inductive Refill (handed : Except Int GetlinkRsp) (before : Iface) : Int → Iface → Prop
  | unanswered {err : Int} (held : Held before) (refused : handed = .error err)
      (negative : err < 0) :
      Refill handed before err { released before with state := .invalid }
  | filled {link : GetlinkRsp} (held : Held before) (given : handed = .ok link) :
      Refill handed before 0 (ifaceFill link)
  | clashed {link : GetlinkRsp} {ret : Int} (held : Held before) (given : handed = .ok link)
      (negative : ret < 0) : Refill handed before ret { ifaceFill link with state := .invalid }

inductive Synced (handed : Except Int GetlinkRsp) (before : Iface) : Int → Iface → Prop
  | passed (valid : before.state ≠ .invalid) : Synced handed before 0 before
  | reloaded {ret : Int} {after : Iface} (invalid : before.state = .invalid)
      (refill : Refill handed before ret after) : Synced handed before ret after

inductive Turn (handed : Except Int GetlinkRsp) (before : Iface) :
    Call NameBucket IndexBucket Kstate → Answer → Iface → Prop
  | set {setter : Setter} {ret : Int} {middle after : Iface}
      (synced : Synced handed before 0 middle) (staged : stage setter middle = .ok (ret, after)) :
      Turn handed before (.set setter) (.code ret) after
  | unset {setter : Setter} {ret : Int} {after : Iface} (synced : Synced handed before ret after)
      (failed : ret ≠ 0) : Turn handed before (.set setter) (.code ret) after
  | read {after : Iface} (synced : Synced handed before 0 after) :
      Turn handed before .coherent (.read (.ok after)) after
  | unread {ret : Int} {after : Iface} (synced : Synced handed before ret after)
      (failed : ret ≠ 0) : Turn handed before .coherent (.read (.error ret)) after
  | refresh (link : GetlinkRsp) :
      Turn handed before (.refresh link) (.changed (ifaceRefreshState before link).1)
        (ifaceRefreshState before link).2
  | reload {ret : Int} {after : Iface} (refill : Refill handed before ret after) :
      Turn handed before .reload (.code ret) after
  | reloadBylink (link : GetlinkRsp) (held : Held before) :
      Turn handed before (.reloadBylink link) .done (ifaceFill link)
  | idle (undirtied : before.state ≠ .dirty) : Turn handed before .apply (.code 0) before
  | applied (dirty : before.state = .dirty) : Turn handed before .apply (.code 1) (settled before)
  | unapplied {ret : Int} (dirty : before.state = .dirty) (negative : ret < 0) :
      Turn handed before .apply (.code ret) { before with state := .invalid }
  | meanwhile (world : World NameBucket IndexBucket Kstate) :
      Turn handed before (.meanwhile world) .done before

section Turns

variable [DecidableEq NameBucket] [DecidableEq IndexBucket]
  {platform : Platform NameBucket IndexBucket Kstate} {interface : Addr}
  {world next : World NameBucket IndexBucket Kstate} {ret : Int}

theorem gate_notify_reload_frame
    (notified : gateNotify platform noObservers (.reload interface) world = .ok (ret, next)) :
    next.objects = world.objects ∧ (ret = 0 ∨ ret < 0) := by
  unfold gateNotify at notified
  split at notified
  · obtain ⟨⟨code, after⟩, handled, notified⟩ := (bind_ok_iff ..).mp notified
    obtain ⟨⟨answer, store⟩, rehashed, handled⟩ := (bind_ok_iff ..).mp handled
    cases handled
    cases notified
    refine ⟨rfl, ?_⟩
    rcases store_rehash_ret _ _ rehashed with zero | refused
    · exact .inl zero
    · rw [refused]
      exact .inr (by decide)
  · cases notified
    exact ⟨rfl, .inl rfl⟩

theorem gate_getlink_negative {answer : Except YnlError GetlinkRsp} {err : Int}
    (refused : gateGetlink answer = .error err) : err < 0 := by
  unfold gateGetlink at refused
  cases answer with
  | error error =>
      cases refused
      exact ynl_err_negative error
  | ok link =>
      simp only at refused
      split at refused
      · cases refused
      · rename_i invalid
        cases refused
        unfold gateIslinkValid at invalid ⊢
        split
        · decide
        · simp_all

theorem reload_refills (done : ifaceReload platform interface world = .ok (ret, next)) :
    Refill (handedOut platform interface world) (world.objects interface) ret
      (next.objects interface) := by
  unfold ifaceReload at done
  obtain ⟨_, finished, done⟩ := (bind_ok_iff ..).mp done
  obtain ⟨held, rfl⟩ := (iface_fini_ok_iff ..).mp finished
  rcases asked : platform.kernel.getlink (world.objects interface).idx world.kernel with
    ⟨answer, kernel⟩
  have handed : handedOut platform interface world = gateGetlink answer := by
    rw [handedOut, asked]
  rw [handed]
  cases outcome : gateGetlink answer with
  | error err =>
      have failed := gate_getlink_error outcome
      rw [iface_load_byidx_error platform interface world asked outcome
        (released (world.objects interface)) rfl] at done
      simp only [ne_eq, failed, not_false_eq_true, if_true] at done
      cases done
      have after : Refill (.error ret) (world.objects interface) ret _ :=
        .unanswered held rfl (gate_getlink_negative outcome)
      simpa [World.invalidate, World.setObject, answered] using after
  | ok link =>
      rw [iface_load_byidx_link platform interface world asked outcome
        (released (world.objects interface)) rfl] at done
      simp only [ne_eq, not_true_eq_false, if_false] at done
      obtain ⟨⟨code, after⟩, notified, done⟩ := (bind_ok_iff ..).mp done
      have frame := gate_notify_reload_frame notified
      have object : after.objects interface = ifaceFill link := by
        rw [frame.1]
        simp [answered, World.setObject]
      by_cases zero : code = 0
      · subst zero
        cases done
        rw [object]
        exact .filled held rfl
      · simp only [zero, not_false_eq_true, if_true] at done
        cases done
        have left : Refill (.ok link) (world.objects interface) ret _ :=
          .clashed held rfl (frame.2.resolve_left zero)
        simpa [World.invalidate, World.setObject, object] using left

theorem sync_synced (done : ifaceSync platform interface world = .ok (ret, next)) :
    Synced (handedOut platform interface world) (world.objects interface) ret
      (next.objects interface) := by
  by_cases invalid : (world.objects interface).state = .invalid
  · unfold ifaceSync at done
    rw [invalid] at done
    exact .reloaded invalid (reload_refills done)
  · rw [sync_passes platform interface world invalid] at done
    cases done
    exact .passed invalid

theorem set_turns {setter : Setter}
    (done : ifaceSet platform setter interface world = .ok (ret, next)) :
    @Turn NameBucket IndexBucket Kstate
      (handedOut platform interface world) (world.objects interface) (.set setter) (.code ret)
      (next.objects interface) := by
  obtain ⟨_, middle, sync, ⟨failed, rfl, rfl⟩ | ⟨rfl, object, staged, rfl⟩⟩ :=
    iface_set_ok platform interface world done
  · exact .unset (sync_synced sync) failed
  · rw [World.set_object_self]
    exact .set (sync_synced sync) staged

theorem coherent_turns {value : Except Int Iface}
    (done : ifaceCoherent platform id interface world = .ok (value, next)) :
    @Turn NameBucket IndexBucket Kstate
      (handedOut platform interface world) (world.objects interface) .coherent (.read value)
      (next.objects interface) := by
  obtain ⟨_, sync, ⟨failed, rfl⟩ | ⟨rfl, rfl⟩⟩ := iface_coherent_ok platform interface world done
  · exact .unread (sync_synced sync) failed
  · exact .read (sync_synced sync)

theorem apply_turns (done : ifaceApply platform interface world = .ok (ret, next)) :
    @Turn NameBucket IndexBucket Kstate
      (handedOut platform interface world) (world.objects interface) .apply (.code ret)
      (next.objects interface) := by
  cases (iface_apply_ok_iff ..).mp done with
  | idle undirtied => exact .idle undirtied
  | refused dirty =>
      simp only [World.invalidate, World.setObject, sent, Function.update_self]
      exact .unapplied dirty (ynl_err_negative _)
  | applied dirty _ _ notified =>
      have frame := gate_notify_modify_frame _ _ _ notified
      simp only [World.setObject, Function.update_self, frame.1, sent]
      exact .applied dirty
  | clashed dirty _ _ notified failed =>
      have frame := gate_notify_modify_frame _ _ _ notified
      simp only [World.invalidate, World.setObject, Function.update_self, frame.1, sent]
      exact .unapplied dirty (gate_notify_modify_ret _ _ _ notified failed)

theorem step_turns {call : Call NameBucket IndexBucket Kstate} {answer : Answer}
    (admitted : admits interface world call)
    (stepped : step platform interface call world = .ok (answer, next)) :
    Turn (handedOut platform interface world) (world.objects interface) call answer
      (next.objects interface) := by
  have coded : ∀ {result : Except Fault (Int × World NameBucket IndexBucket Kstate)},
      code result = .ok (answer, next) → ∃ ret, answer = .code ret ∧ result = .ok (ret, next) := by
    intro result returned
    obtain ⟨⟨ret, after⟩, done, same⟩ := (map_ok_iff ..).mp returned
    cases same
    exact ⟨ret, rfl, done⟩
  cases call with
  | set setter =>
      obtain ⟨_, rfl, done⟩ := coded stepped
      exact set_turns done
  | coherent =>
      obtain ⟨⟨value, after⟩, done, same⟩ := (map_ok_iff ..).mp stepped
      cases same
      exact coherent_turns done
  | refresh link =>
      cases stepped
      rw [World.set_object_self]
      exact .refresh link
  | reload =>
      obtain ⟨_, rfl, done⟩ := coded stepped
      exact .reload (reload_refills done)
  | reloadBylink link =>
      obtain ⟨object, reloaded, same⟩ := (map_ok_iff ..).mp stepped
      cases same
      obtain ⟨_, finished, filled⟩ := (bind_ok_iff ..).mp reloaded
      cases filled
      obtain ⟨held, _⟩ := (iface_fini_ok_iff ..).mp finished
      rw [World.set_object_self]
      exact .reloadBylink link held
  | apply =>
      obtain ⟨_, rfl, done⟩ := coded stepped
      exact apply_turns done
  | meanwhile other =>
      cases stepped
      have same : next.objects interface = world.objects interface := admitted
      rw [same]
      exact .meanwhile next

end Turns

/-- What every piece of a call keeps. `loads` are the links the object may be
filled from. -/
structure Keeps (loads : GetlinkRsp → Prop) (invariant : Iface → Prop) : Prop where
  staged : ∀ setter before after ret, Setter.Valid setter → before.state ≠ .invalid →
    invariant before → stage setter before = .ok (ret, after) → invariant after
  refreshed : ∀ link before, invariant before → invariant (ifaceRefreshState before link).2
  filled : ∀ link, loads link → invariant (ifaceFill link)
  applied : ∀ before, before.state = .dirty → invariant before → invariant (settled before)
  invalidated : ∀ before, invariant before → invariant { before with state := .invalid }

section Keeps

variable {loads : GetlinkRsp → Prop} {invariant : Iface → Prop} {handed : Except Int GetlinkRsp}
  {before after : Iface} {ret : Int}

theorem refill_keeps (keeps : Keeps loads invariant)
    (releases : handed = .error ret → Held before →
      invariant { released before with state := .invalid })
    (answers : ∀ link, handed = .ok link → loads link)
    (refill : Refill handed before ret after) : invariant after := by
  cases refill with
  | unanswered held refused => exact releases refused held
  | filled _ given => exact keeps.filled _ (answers _ given)
  | clashed _ given => exact keeps.invalidated _ (keeps.filled _ (answers _ given))

theorem synced_keeps (keeps : Keeps loads invariant) (holds : invariant before)
    (releases : before.state = .invalid → ∀ err, handed = .error err → Held before →
      invariant { released before with state := .invalid })
    (answers : before.state = .invalid → ∀ link, handed = .ok link → loads link)
    (synced : Synced handed before ret after) : invariant after := by
  cases synced with
  | passed => exact holds
  | reloaded invalid refill =>
      exact refill_keeps keeps (releases invalid ret) (answers invalid) refill

theorem synced_valid (synced : Synced handed before 0 after) : after.state ≠ .invalid := by
  cases synced with
  | passed valid => exact valid
  | reloaded _ refill =>
      cases refill with
      | unanswered _ _ negative | clashed _ _ negative => omega
      | filled => simp [ifaceFill]

/-- A call that reloads the object, by itself or to synchronise it. -/
def Reloads (before : Iface) : Call NameBucket IndexBucket Kstate → Prop
  | .set _ | .coherent => before.state = .invalid
  | .reload => True
  | .refresh _ | .reloadBylink _ | .apply | .meanwhile _ => False

theorem turn_keeps {call : Call NameBucket IndexBucket Kstate} {answer : Answer}
    (keeps : Keeps loads invariant) (holds : invariant before)
    (arguments : ∀ setter, call = .set setter → setter.Valid)
    (releases : Reloads before call → ∀ err, handed = .error err → Held before →
      invariant { released before with state := .invalid })
    (answers : Reloads before call → ∀ link, handed = .ok link → loads link)
    (bylinks : ∀ link, call = .reloadBylink link → loads link)
    (turn : Turn handed before call answer after) : invariant after := by
  cases turn with
  | set synced staged =>
      have middle := synced_keeps keeps holds releases answers synced
      exact keeps.staged _ _ _ _ (arguments _ rfl) (synced_valid synced) middle staged
  | unset synced | read synced | unread synced =>
      exact synced_keeps keeps holds releases answers synced
  | refresh link => exact keeps.refreshed link before holds
  | reload refill => exact refill_keeps keeps (releases trivial _) (answers trivial) refill
  | reloadBylink link => exact keeps.filled link (bylinks link rfl)
  | idle | meanwhile => exact holds
  | applied dirty => exact keeps.applied before dirty holds
  | unapplied => exact keeps.invalidated before holds

end Keeps

theorem admits_valid {interface : Addr} {world : World NameBucket IndexBucket Kstate}
    {call : Call NameBucket IndexBucket Kstate} (admitted : admits interface world call) :
    ∀ setter, call = .set setter → setter.Valid := by
  intro setter same
  subst same
  exact admitted

section Runs

variable [DecidableEq NameBucket] [DecidableEq IndexBucket]
  {platform : Platform NameBucket IndexBucket Kstate} {interface : Addr}
  {start world : World NameBucket IndexBucket Kstate}

/-- What every link the gate accepts fills in, and every release keeps, holds in any run. -/
theorem run_keeps {invariant : Iface → Prop}
    (keeps : Keeps (fun link => gateIslinkValid link = 0) invariant)
    (releases : ∀ before, invariant before → invariant { released before with state := .invalid })
    (initial : invariant (start.objects interface))
    {log : List (Call NameBucket IndexBucket Kstate × Answer)}
    (run : Run (machine platform interface) start log world) :
    invariant (world.objects interface) := by
  apply run_invariant (fun world => invariant (world.objects interface)) initial _ run
  intro before call answer after holds admitted stepped
  apply turn_keeps keeps holds (admits_valid admitted) _ _ _ (step_turns admitted stepped)
  · intro _ _ _ _
    exact releases _ holds
  · intro _ link given
    exact (gate_getlink_ok given).2
  · intro link same
    subst same
    exact admitted.2

end Runs

end Nlif.IfaceRun
