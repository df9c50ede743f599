import Nlif.TransactionFrame

/-!
# The admin state of one interface during a transaction

What a setter, a reload and an apply do to the admin state of one interface,
cached and in the kernel, and that calls on any other interface leave both alone.
A refused request is told from the trace.
-/

namespace Nlif.AdmstateView

open LinkModel IfaceModel FaultWalk FlagWord StoreModel GateModel GateSpec RtnetlinkModel
  ApplyAgreement DaemonModel DaemonSpec DaemonStaging TransactionFrame

set_option autoImplicit false

variable {NameBucket IndexBucket : Type}

def view (origin world : World NameBucket IndexBucket Rtnetlink) (hndl : Hndl) :
    Iface × Option GetlinkRsp :=
  (world.objects hndl.iface, world.kernel.links (origin.objects hndl.iface).idx)

/-- State and marks of the object, the cached admin state and the kernel's. -/
structure Holds (view : Iface × Option GetlinkRsp) (state : IfaceState) (marked : BitVec 32)
    (cached kernel : Bool) : Prop where
  state : view.1.state = state
  marked : view.1.dirtyFlags = marked
  cached : ifaceAdmstateOf view.1 = cached
  kernel : ∃ link, view.2 = some link ∧ adminUp link.ifiFlags = kernel

def Rests (up : Bool) (view : Iface × Option GetlinkRsp) : Prop := Holds view .clean 0 up up

def Waits (up : Bool) (view : Iface × Option GetlinkRsp) : Prop :=
  ∃ value, Holds view .dirty IFF_UP value up

def Applied (view : Iface × Option GetlinkRsp) : Prop :=
  ∃ value, Holds view .clean 0 value value

def Lost (up : Bool) (view : Iface × Option GetlinkRsp) : Prop :=
  Held view.1 ∧ ∃ marked cached, Holds view .invalid marked cached up

/-- The old value is staged again, whatever the kernel has. -/
def Restaged (up : Bool) (view : Iface × Option GetlinkRsp) : Prop :=
  ∃ kernel, Holds view .dirty IFF_UP up kernel

structure Beside (other : Hndl) (world next : World NameBucket IndexBucket Rtnetlink) : Prop where
  touched : Local other.iface world next
  links : ∀ index, index ≠ (world.objects other.iface).idx →
    next.kernel.links index = world.kernel.links index

theorem Beside.spares {hash : Hashing NameBucket IndexBucket}
    {origin world next : World NameBucket IndexBucket Rtnetlink} {hndl other : Hndl}
    (beside : Beside other world next) (intact : Intact hash origin world)
    (member : hndl ∈ origin.store.ifaces) (there : other ∈ origin.store.ifaces)
    (different : hndl ≠ other) : view origin next hndl = view origin world hndl := by
  have memberNow : hndl ∈ world.store.ifaces := intact.ifaces ▸ member
  have thereNow : other ∈ world.store.ifaces := intact.ifaces ▸ there
  have object : next.objects hndl.iface = world.objects hndl.iface :=
    beside.touched.elsewhere _ fun same =>
      different (intact.linked.same_iface memberNow thereNow same)
  have link : next.kernel.links (origin.objects hndl.iface).idx =
      world.kernel.links (origin.objects hndl.iface).idx := by
    refine beside.links _ fun same => different (intact.linked.injective _ memberNow _ thereNow ?_)
    rw [(intact.alike hndl member).idx, same]
  rw [view, view, object, link]

def refusedRequest (index : UInt32) : Event → Bool
  | .getlink asked ret => asked = index ∧ ret ≠ 0
  | .setlink request ret => request.ifiIndex = index ∧ ret ≠ 0
  | .notified _ _ _ | .called _ _ _ => false

/-- What was recorded between two worlds, newest first. -/
def since (before after : World NameBucket IndexBucket Rtnetlink) : List Event :=
  after.trace.take (after.trace.length - before.trace.length)

/-- Every request about the link of this index succeeded meanwhile. -/
def Granted (index : UInt32) (before after : World NameBucket IndexBucket Rtnetlink) : Prop :=
  ∀ event ∈ since before after, refusedRequest index event = false

instance (index : UInt32) (before after : World NameBucket IndexBucket Rtnetlink) :
    Decidable (Granted index before after) :=
  inferInstanceAs (Decidable (∀ event ∈ since before after, refusedRequest index event = false))

def Denied (index : UInt32) (before after : World NameBucket IndexBucket Rtnetlink) : Prop :=
  ∃ recent, after.trace = recent ++ before.trace ∧
    ∃ event ∈ recent, refusedRequest index event = true

section Denied

variable {index : UInt32} {before world next : World NameBucket IndexBucket Rtnetlink}

theorem Denied.not_granted (denied : Denied index before world) : ¬ Granted index before world := by
  obtain ⟨recent, split, event, member, refused⟩ := denied
  intro granted
  have recorded : since before world = recent := by
    unfold since
    rw [split, List.length_append, Nat.add_sub_cancel, List.take_left]
  have allowed := granted event (recorded ▸ member)
  rw [refused] at allowed
  cases allowed

theorem Denied.grow (denied : Denied index before world) (grown : world.trace <:+ next.trace) :
    Denied index before next := by
  obtain ⟨recent, split, event, member, refused⟩ := denied
  obtain ⟨more, later⟩ := grown
  refine ⟨more ++ recent, ?_, event, List.mem_append_right more member, refused⟩
  rw [← later, split, List.append_assoc]

theorem denied_now (grown : before.trace <:+ world.trace) {events : List Event}
    (recorded : next.trace = events ++ world.trace) {event : Event} (member : event ∈ events)
    (refused : refusedRequest index event = true) : Denied index before next := by
  obtain ⟨recent, split⟩ := grown
  refine ⟨events ++ recent, ?_, event, List.mem_append_left recent member, refused⟩
  rw [recorded, ← split, List.append_assoc]

end Denied

section Calls

variable {platform : Platform NameBucket IndexBucket Rtnetlink}
  {origin world next : World NameBucket IndexBucket Rtnetlink} {hndl : Hndl} {ret : Int}
  {state : IfaceState} {marked : BitVec 32} {cached kernel up value : Bool}

theorem fresh_mark : (0 : BitVec 32) ||| IFF_UP = IFF_UP := by decide

theorem edited_admstate (interface : Iface) (value : Bool) :
    ifaceAdmstateOf (edited interface (.admstate value)) = value := by
  rw [iface_admstate_of_eq, admin_up_eq]
  simp [edited, iff_up_bit, admstate_mask_bit]

theorem up_elapsed {met : Rtnetlink} {key : UInt32} (index : UInt32)
    (held : ∃ link, met.links key = some link ∧ adminUp link.ifiFlags = up) :
    ∃ link, (elapsed met index).links key = some link ∧ adminUp link.ifiFlags = up :=
  elapsed_keeps (fun operational link flag => by rw [drifted_up, flag]) held

theorem Holds.push (rtnl : platform.kernel = rtnetlink)
    (idx : (world.objects hndl.iface).idx = (origin.objects hndl.iface).idx)
    (holds : Holds (view origin world hndl) .dirty IFF_UP cached kernel)
    (outcome : Fieldless platform hndl.iface world ret next) :
    (ret = 1 ∧ Holds (view origin next hndl) .clean 0 cached cached) ∨
      (ret < 0 ∧ Holds (view origin next hndl) .invalid IFF_UP cached kernel ∧
        ∃ events event, next.trace = events ++ world.trace ∧ event ∈ events ∧
          refusedRequest (origin.objects hndl.iface).idx event = true) := by
  have sameIndex : (requestOf (world.objects hndl.iface)).ifiIndex =
    (origin.objects hndl.iface).idx := idx
  obtain ⟨state, marked, value, held, there, flag⟩ := holds
  cases outcome with
  | idle settledAlready => exact absurd state settledAlready
  | @refused after error _ asked =>
      have negative := ynl_err_negative error
      have nonzero : ynlErr error ≠ 0 := by omega
      have self : (view origin ((sent hndl.iface world (requestOf (world.objects hndl.iface)) after
          (ynlErr error)).invalidate hndl.iface) hndl).1 =
            { world.objects hndl.iface with state := .invalid } := Function.update_self ..
      refine .inr ⟨negative, ⟨by rw [self], by rw [self]; exact marked, by rw [self]; exact value,
        ?_⟩, ?_⟩
      · rw [rtnl] at asked
        rcases rtnl_setlink_cases asked with ⟨_, _, rfl⟩ | ⟨_, accepted, _⟩
        · exact up_elapsed _ ⟨held, there, flag⟩
        · cases accepted
      · refine ⟨[.setlink (requestOf (world.objects hndl.iface)) (ynlErr error), .called .apply
          (world.objects hndl.iface).idx (world.objects hndl.iface).state], _, rfl,
          List.mem_cons_self, ?_⟩
        simp [refusedRequest, sameIndex, nonzero]
  | @applied after _ asked =>
      have self : (view origin (((sent hndl.iface world (requestOf (world.objects hndl.iface))
          after 0).record (.notified .modify (world.objects hndl.iface).idx 0)).setObject hndl.iface
            (settled (world.objects hndl.iface))) hndl).1 =
              settled (world.objects hndl.iface) := Function.update_self ..
      refine .inl ⟨rfl, ⟨by rw [self]; rfl, by rw [self]; rfl, by rw [self]; exact value, ?_⟩⟩
      rw [rtnl] at asked
      rcases rtnl_setlink_cases asked with ⟨_, refused, _⟩ | ⟨met, _, _, changed, _⟩
      · cases refused
      · rw [sameIndex] at changed
        refine ⟨_, changed, ?_⟩
        have flags : (setLink (requestOf (world.objects hndl.iface)) met).ifiFlags =
            combineFlags met.ifiFlags (world.objects hndl.iface).flags IFF_UP := by
          rw [← marked]
          rfl
        rw [flags, combine_up, ← iface_admstate_of_eq]
        exact value

theorem fieldless_unstaged (origin : World NameBucket IndexBucket Rtnetlink)
    (outcome : Fieldless platform hndl.iface world ret next)
    (idle : (world.objects hndl.iface).state ≠ .dirty) :
    ret = 0 ∧ view origin next hndl = view origin world hndl := by
  cases outcome with
  | idle => exact ⟨rfl, rfl⟩
  | refused dirty | applied dirty => exact absurd dirty idle

theorem fieldless_held {interface : Addr} (held : Held (world.objects interface))
    (outcome : Fieldless platform interface world ret next) : Held (next.objects interface) := by
  obtain ⟨ifalias, kind⟩ := held
  cases outcome with
  | idle => exact ⟨ifalias, kind⟩
  | refused =>
      constructor <;> simpa [World.invalidate, World.setObject, sent]
  | applied =>
      constructor <;> simpa [World.setObject, settled]

variable [DecidableEq NameBucket]

theorem reload_links {interface : Addr} (rtnl : platform.kernel = rtnetlink)
    (reload : Reload platform interface world ret next) (index : UInt32)
    (different : index ≠ (world.objects interface).idx) :
    next.kernel.links index = world.kernel.links index := by
  cases reload with
  | unanswered _ asked | accepted _ asked | clashed _ asked =>
      rw [rtnl] at asked
      exact rtnl_getlink_other asked different

variable [DecidableEq IndexBucket]

theorem set_beside (rtnl : platform.kernel = rtnetlink) (subscribed : world.gate.notif = true)
    (done : ifaceSetAdmstate platform value hndl.iface world = .ok (ret, next)) :
    Beside hndl world next where
  touched := set_local subscribed done
  links index different := by
    obtain ⟨synced, middle, sync, outcome⟩ := set_admstate_ok done
    have kept : middle.kernel.links index = world.kernel.links index := by
      rcases (iface_sync_ok_iff _ _ _ subscribed _ _).mp sync with ⟨_, _, rfl⟩ | ⟨_, reload⟩
      · rfl
      · exact reload_links rtnl reload index different
    rcases outcome with ⟨_, _, rfl⟩ | ⟨_, _, ⟨_, rfl⟩ | ⟨_, rfl⟩⟩
    · exact kept
    · exact kept
    · exact kept

theorem fieldless_beside (rtnl : platform.kernel = rtnetlink) (subscribed : world.gate.notif = true)
    (fields : (world.objects hndl.iface).dirtyFields = ∅)
    (outcome : Fieldless platform hndl.iface world ret next) : Beside hndl world next where
  touched := apply_local ((fieldless_ok_iff subscribed fields).mpr outcome)
  links index different := by
    cases outcome with
    | idle => rfl
    | refused _ asked | applied _ asked =>
        rw [rtnl] at asked
        exact rtnl_setlink_other asked different

theorem Holds.set (holds : Holds (view origin world hndl) state marked cached kernel)
    (valid : state ≠ .invalid)
    (done : ifaceSetAdmstate platform value hndl.iface world = .ok (ret, next)) :
    (cached = value ∧ next = world) ∨
      (cached ≠ value ∧
        Holds (view origin next hndl) .dirty (marked ||| IFF_UP) value kernel) := by
  obtain ⟨held, marks, seen, link⟩ := holds
  obtain ⟨synced, middle, sync, outcome⟩ := set_admstate_ok done
  have settledAlready : (world.objects hndl.iface).state ≠ .invalid := by
    rw [← held] at valid
    exact valid
  cases (sync_passes platform hndl.iface world settledAlready).symm.trans sync
  rcases outcome with ⟨failed, _⟩ | ⟨_, _, ⟨same, rfl⟩ | ⟨different, rfl⟩⟩
  · exact absurd rfl failed
  · exact .inl ⟨seen.symm.trans same, rfl⟩
  · refine .inr ⟨fun same => different (seen.trans same), ?_⟩
    have self : (view origin (world.setObject hndl.iface (edited (world.objects hndl.iface)
        (.admstate value))) hndl).1 = edited (world.objects hndl.iface) (.admstate value) :=
      Function.update_self ..
    refine ⟨?_, ?_, ?_, link⟩
    · rw [self]
      rfl
    · rw [self, ← marks]
      rfl
    · rw [self, edited_admstate]

theorem Holds.recover (rtnl : platform.kernel = rtnetlink)
    (intact : Intact platform.hash origin world) (distinct : DistinctStrings origin)
    (member : hndl ∈ origin.store.ifaces)
    (valid : ∀ other ∈ origin.store.ifaces, other ≠ hndl →
      (world.objects other.iface).state ≠ .invalid)
    (holds : Holds (view origin world hndl) .invalid marked cached up)
    (done : ifaceSetAdmstate platform up hndl.iface world = .ok (ret, next)) :
    Rests up (view origin next hndl) ∨
      ∃ events event, next.trace = events ++ world.trace ∧ event ∈ events ∧
        refusedRequest (origin.objects hndl.iface).idx event = true := by
  obtain ⟨lost, _, _, held, there, flag⟩ := holds
  have idx := (intact.alike hndl member).idx
  obtain ⟨synced, middle, sync, outcome⟩ := set_admstate_ok done
  rcases (iface_sync_ok_iff _ _ _ intact.subscribed _ _).mp sync with ⟨settled, _⟩ | ⟨_, reload⟩
  · exact absurd lost settled
  · rcases (intact.reload rtnl distinct member valid reload).2 with
      ⟨failed, _, recorded⟩ | ⟨rfl, link, met, filled, kept⟩
    · rcases outcome with ⟨_, _, rfl⟩ | ⟨zero, _⟩
      · refine .inr ⟨[.getlink (world.objects hndl.iface).idx synced], _, recorded,
          List.mem_cons_self, ?_⟩
        simp [refusedRequest, idx, failed]
      · exact absurd zero failed
    · rw [idx] at met kept
      have linkUp : adminUp link.ifiFlags = up := by
        have drift : link = drifted (origin.objects hndl.iface).idx
            (world.kernel.moments 0).operational held := by
          have was : world.kernel.links (origin.objects hndl.iface).idx = some held := there
          rw [current, was] at met
          exact (Option.some.inj met).symm
        rw [drift, drifted_up, flag]
      have loaded : ifaceAdmstateOf (middle.objects hndl.iface) = up := by
        rw [filled, iface_admstate_of_eq]
        exact linkUp
      rcases outcome with ⟨failed, _⟩ | ⟨_, _, ⟨_, rfl⟩ | ⟨different, _⟩⟩
      · exact absurd rfl failed
      · refine .inl ⟨?_, ?_, loaded, link, kept, linkUp⟩
        · simp [view, filled, ifaceFill]
        · simp [view, filled, ifaceFill]
      · exact absurd loaded different

theorem set_admstate_returns {synced : Int} {interface : Addr}
    (sync : ifaceSync platform interface world = .ok (synced, next)) (value : Bool) :
    ∃ ret after, ifaceSetAdmstate platform value interface world = .ok (ret, after) := by
  by_cases zero : synced = 0
  · rcases staged : stageAdmstate value (next.objects interface) with fault | ⟨ret, object⟩
    · unfold stageAdmstate at staged
      split at staged <;> cases staged
    · exact ⟨ret, next.setObject interface object, by
        simp [ifaceSetAdmstate, ifaceSet, sync, zero, stage, staged]⟩
  · exact ⟨synced, next, by simp [ifaceSetAdmstate, ifaceSet, sync, zero]⟩

end Calls

end Nlif.AdmstateView
