import Nlif.IfaceRun
import Nlif.LibraryRun

/-!
# Valid links and valid interfaces

`nlif_link_assert()` says what a link must be and `nlif_iface_assert()` what an
interface must be. They differ on one clause: the first reads a maximum MTU of 0
as no limit, the second compares it with the minimum all the same.
-/

namespace Nlif.IfaceValidity

open LinkModel IfaceModel FaultWalk StoreModel GateModel GateSpec LabelledRun IfaceRun
open LibraryRun (oneLink oneLinkPlatform oneLinkInit storeInit one_link_reported)

set_option autoImplicit false

/-- The conditions of the `nlif_iface_assert()` macro that are not in the type. A
string can only be checked while it is allocated. -/
structure IfaceAssert (interface : Iface) : Prop where
  idx : interface.idx ≠ 0
  dirtyFlags : interface.dirtyFlags &&& IFF_VOLATILE = 0
  name : linkValidateName interface.name > 0
  ifalias : ∀ pointer, interface.ifalias = some pointer →
    pointer.live = true ∧ linkValidateAlias (some pointer.text) ≥ 0
  kind : ∀ pointer, interface.kind = some pointer →
    pointer.live = true ∧ pointer.text.length ≠ 0
  limits : interface.minMtu ≤ interface.maxMtu
  aboveMin : interface.mtu ≥ interface.minMtu
  belowMax : interface.maxMtu = 0 ∨ interface.mtu ≤ interface.maxMtu
  unicast : linkHwaddrIsUcast interface.hwadr = true

/-- The limits of a link with a maximum, or without a minimum. -/
def Bounded (link : GetlinkRsp) : Prop := link.maxMtu.getD 0 ≠ 0 ∨ link.minMtu.getD 0 = 0

theorem bounded_of_ordered {link : GetlinkRsp} (ordered : link.minMtu.getD 0 ≤ link.maxMtu.getD 0) :
    Bounded link := by
  by_cases limited : link.maxMtu.getD 0 = 0
  · rw [limited] at ordered
    exact .inr (UInt32.le_zero_iff.mp ordered)
  · exact .inl limited

theorem bounded_ordered {link : GetlinkRsp} (asserted : LinkAssert link) (bounded : Bounded link) :
    link.minMtu.getD 0 ≤ link.maxMtu.getD 0 := by
  rcases bounded with limited | zero
  · have ceiling := asserted.belowMax.resolve_left limited
    rcases asserted.aboveMin with zero | floor
    · rw [zero]
      exact UInt32.zero_le
    · exact UInt32.le_trans floor ceiling
  · rw [zero]
    exact UInt32.zero_le

theorem fill_asserts {link : GetlinkRsp} (asserted : LinkAssert link) (bounded : Bounded link) :
    IfaceAssert (ifaceFill link) where
  idx := asserted.index
  dirtyFlags := by simp [ifaceFill]
  name := asserted.name_valid
  ifalias pointer present := by
    obtain ⟨text, held, rfl⟩ := Option.map_eq_some_iff.mp present
    have valid := asserted.alias_valid held
    simp only [dupStr, true_and]
    omega
  kind pointer present := by
    obtain ⟨text, held, rfl⟩ := Option.map_eq_some_iff.mp present
    obtain ⟨_, nonempty⟩ := Option.filter_eq_some_iff.mp held
    exact ⟨rfl, by simpa [dupStr] using nonempty⟩
  limits := bounded_ordered asserted bounded
  aboveMin := by
    rcases asserted.aboveMin with zero | floor
    · simp only [ifaceFill, zero]
      exact UInt32.zero_le
    · exact floor
  belowMax := asserted.belowMax
  unicast := asserted.unicast

theorem fill_asserts_iff {link : GetlinkRsp} (asserted : LinkAssert link) :
    IfaceAssert (ifaceFill link) ↔ Bounded link :=
  ⟨fun interface => bounded_of_ordered interface.limits, fill_asserts asserted⟩

theorem with_up_not_volatile {flags : BitVec 32} (none : flags &&& IFF_VOLATILE = 0) :
    (flags ||| IFF_UP) &&& IFF_VOLATILE = 0 := by
  have split : (flags ||| IFF_UP) &&& IFF_VOLATILE =
      (flags &&& IFF_VOLATILE) ||| (IFF_UP &&& IFF_VOLATILE) := by
    ext i bound
    simp only [BitVec.getElem_and, BitVec.getElem_or]
    cases flags[i] <;> cases IFF_UP[i] <;> simp
  rw [split, none]
  decide

theorem stage_mtu_cases {mtu : UInt32} {before after : Iface} {ret : Int}
    (staged : stageMtu mtu before = .ok (ret, after)) :
    after = before ∨ (ifaceValidateMtu mtu before = 0 ∧ after = edited before (.mtu mtu)) := by
  unfold stageMtu at staged
  split at staged
  · simp only at staged
    split at staged
    · rename_i valid
      cases staged
      exact .inr ⟨valid, rfl⟩
    · cases staged
      exact .inl rfl
  · cases staged
    exact .inl rfl

theorem stage_asserts {setter : Setter} {before after : Iface} {ret : Int}
    (valid : setter.Valid) (asserted : IfaceAssert before)
    (staged : stage setter before = .ok (ret, after)) : IfaceAssert after := by
  rcases stage_cases staged with same | ⟨_, rfl, _⟩
  · rw [same]
    exact asserted
  · cases setter with
    | name argument => exact { asserted with name := valid }
    | ifalias ifalias =>
        refine { asserted with ifalias := ?_ }
        intro pointer present
        obtain ⟨text, given, rfl⟩ := Option.map_eq_some_iff.mp present
        subst given
        exact ⟨rfl, valid⟩
    | group group => exact { asserted with }
    | admstate up =>
        exact { asserted with dirtyFlags := with_up_not_volatile asserted.dirtyFlags }
    | hwaddr address =>
        refine { asserted with unicast := ?_ }
        have checked : ifaceValidateHwaddr address = 0 := valid
        unfold ifaceValidateHwaddr at checked
        split at checked
        · rename_i both
          exact both.2
        · exact absurd checked (by decide)
    | mtu mtu =>
        rcases stage_mtu_cases staged with same | ⟨checked, _⟩
        · rw [same]
          exact asserted
        · unfold ifaceValidateMtu at checked
          split at checked
          · rename_i both
            exact { asserted with aboveMin := both.1, belowMax := both.2 }
          · exact absurd checked (by decide)

def Loads (link : GetlinkRsp) : Prop := LinkAssert link ∧ Bounded link

theorem asserts_keeps : Keeps Loads IfaceAssert where
  staged _ _ _ _ valid _ asserted staged := stage_asserts valid asserted staged
  refreshed _ _ asserted := { asserted with }
  filled _ loads := fill_asserts loads.1 loads.2
  applied _ _ asserted := { asserted with dirtyFlags := by simp [settled] }
  invalidated _ asserted := { asserted with }

/-- Where nothing was handed out, the object has no string that was released. -/
def Survives (before : Iface) : Except Int GetlinkRsp → Prop
  | .ok link => Bounded link
  | .error _ => before.ifalias = none ∧ before.kind = none

theorem released_asserts {before : Iface} (asserted : IfaceAssert before)
    (noAlias : before.ifalias = none) (noKind : before.kind = none) :
    IfaceAssert { released before with state := .invalid } :=
  { asserted with
    ifalias := fun pointer present => by simp [released, dangling, noAlias] at present
    kind := fun pointer present => by simp [released, dangling, noKind] at present }

theorem released_strings {before : Iface}
    (asserted : IfaceAssert { released before with state := .invalid }) :
    before.ifalias = none ∧ before.kind = none := by
  constructor
  · cases present : before.ifalias with
    | none => rfl
    | some pointer =>
        have live := (asserted.ifalias { pointer with live := false }
          (by simp [released, dangling, present])).1
        cases live
  · cases present : before.kind with
    | none => rfl
    | some pointer =>
        have live := (asserted.kind { pointer with live := false }
          (by simp [released, dangling, present])).1
        cases live

theorem refill_asserts {handed : Except Int GetlinkRsp} {before after : Iface} {ret : Int}
    (refill : Refill handed before ret after) (asserted : IfaceAssert after) :
    Survives before handed := by
  cases refill with
  | unanswered _ refused =>
      subst refused
      exact released_strings asserted
  | filled _ given | clashed _ given =>
      subst given
      exact bounded_of_ordered asserted.limits

theorem stage_limits {setter : Setter} {before after : Iface} {ret : Int}
    (staged : stage setter before = .ok (ret, after)) :
    after.minMtu = before.minMtu ∧ after.maxMtu = before.maxMtu := by
  rcases stage_cases staged with same | ⟨_, rfl, _⟩
  · rw [same]
    exact ⟨rfl, rfl⟩
  · cases setter <;> exact ⟨rfl, rfl⟩

section Runs

variable {NameBucket IndexBucket Kstate : Type}

/-- Every reload of the call is survived and every link it is given has a bound. -/
def Harmless (before : Iface) (handed : Except Int GetlinkRsp)
    (call : Call NameBucket IndexBucket Kstate) : Prop :=
  (Reloads before call → Survives before handed) ∧
    ∀ link, call = .reloadBylink link → Bounded link

/-- Every link the call takes from its caller or from the kernel is a valid one. -/
def Admitted (before : Iface) (handed : Except Int GetlinkRsp)
    (call : Call NameBucket IndexBucket Kstate) : Prop :=
  (Reloads before call → ∀ link, handed = .ok link → LinkAssert link) ∧
    ∀ link, call = .reloadBylink link ∨ call = .refresh link → LinkAssert link

theorem synced_survives {handed : Except Int GetlinkRsp} {before after : Iface} {ret : Int}
    (synced : Synced handed before ret after) (asserted : IfaceAssert after)
    (invalid : before.state = .invalid) : Survives before handed := by
  cases synced with
  | passed valid => exact absurd invalid valid
  | reloaded _ refill => exact refill_asserts refill asserted

theorem turn_survives {handed : Except Int GetlinkRsp} {before after : Iface}
    {call : Call NameBucket IndexBucket Kstate} {answer : Answer}
    (turn : Turn handed before call answer after) (asserted : IfaceAssert after) :
    Harmless before handed call := by
  cases turn with
  | set synced staged =>
      refine ⟨fun invalid => ?_, fun _ same => nomatch same⟩
      cases synced with
      | passed valid => exact absurd invalid valid
      | reloaded _ refill =>
          cases refill with
          | unanswered _ _ negative | clashed _ _ negative => omega
          | filled _ given =>
              subst given
              have limits := stage_limits staged
              have ordered := asserted.limits
              rw [limits.1, limits.2] at ordered
              exact bounded_of_ordered ordered
  | unset synced | read synced | unread synced =>
      exact ⟨synced_survives synced asserted, fun _ same => nomatch same⟩
  | reload refill => exact ⟨fun _ => refill_asserts refill asserted, fun _ same => nomatch same⟩
  | reloadBylink link =>
      refine ⟨fun reloads => (nomatch reloads), fun other same => ?_⟩
      cases same
      exact bounded_of_ordered asserted.limits
  | refresh | idle | applied | unapplied | meanwhile =>
      exact ⟨fun reloads => (nomatch reloads), fun _ same => nomatch same⟩

theorem turn_asserts_iff {handed : Except Int GetlinkRsp} {before after : Iface}
    {call : Call NameBucket IndexBucket Kstate} {answer : Answer} (asserted : IfaceAssert before)
    (arguments : ∀ setter, call = .set setter → setter.Valid)
    (admitted : Admitted before handed call) (turn : Turn handed before call answer after) :
    IfaceAssert after ↔ Harmless before handed call := by
  constructor
  · exact turn_survives turn
  · intro harmless
    apply turn_keeps asserts_keeps asserted arguments _ _ _ turn
    · intro reloads err refused _
      have absent := harmless.1 reloads
      rw [refused] at absent
      exact released_asserts asserted absent.1 absent.2
    · intro reloads link given
      have bounded := harmless.1 reloads
      rw [given] at bounded
      exact ⟨admitted.1 reloads link given, bounded⟩
    · intro link same
      exact ⟨admitted.2 link (.inl same), harmless.2 link same⟩

variable [DecidableEq NameBucket] [DecidableEq IndexBucket]

def admittedMachine (platform : Platform NameBucket IndexBucket Kstate) (interface : Addr) :
    Machine (World NameBucket IndexBucket Kstate) (Call NameBucket IndexBucket Kstate) Answer
      Fault :=
  (machine platform interface).given fun world call =>
    Admitted (world.objects interface) (handedOut platform interface world) call

/-- A valid link fills in a valid interface exactly where its limits are bounded, and
an interface stays valid over a call exactly where the call is harmless. -/
theorem run_asserts_iff {platform : Platform NameBucket IndexBucket Kstate} {interface : Addr}
    {link : GetlinkRsp} (valid : LinkAssert link) :
    (IfaceAssert (ifaceFill link) ↔ Bounded link) ∧
    ∀ start log world, start.objects interface = ifaceFill link → Bounded link →
      Run ((admittedMachine platform interface).given fun world call =>
        Harmless (world.objects interface) (handedOut platform interface world) call)
        start log world →
      IfaceAssert (world.objects interface) ∧
      ∀ call answer next, (admittedMachine platform interface).admits world call →
        step platform interface call world = .ok (answer, next) →
        (IfaceAssert (next.objects interface) ↔
          Harmless (world.objects interface) (handedOut platform interface world) call) := by
  refine ⟨fill_asserts_iff valid, fun start log world created bounded run => ?_⟩
  have initial : IfaceAssert (start.objects interface) := created ▸ fill_asserts valid bounded
  have asserted : IfaceAssert (world.objects interface) := by
    apply run_invariant (fun world => IfaceAssert (world.objects interface)) initial _ run
    intro before call answer after asserted admitted stepped
    have turn := step_turns admitted.1.1 stepped
    exact (turn_asserts_iff asserted (admits_valid admitted.1.1) admitted.1.2 turn).mpr admitted.2
  refine ⟨asserted, fun call answer next admitted stepped => ?_⟩
  exact turn_asserts_iff asserted (admits_valid admitted.1) admitted.2
    (step_turns admitted.1 stepped)

end Runs

/-- The link "a", with no maximum MTU and a minimum of 68. -/
theorem unlimited_link_unasserted :
    LinkAssert oneLink ∧ gateIslinkValid oneLink = 0 ∧ ¬ IfaceAssert (ifaceFill oneLink) := by
  refine ⟨one_link_reported.asserted, by decide, fun asserted => ?_⟩
  exact absurd asserted.limits (by decide)

def limitedLink : GetlinkRsp := { oneLink with maxMtu := some 9000 }

theorem limited_link_asserts :
    ∃ world, Run ((admittedMachine oneLinkPlatform 0).given fun world call =>
        Harmless (world.objects 0) (handedOut oneLinkPlatform 0 world) call)
        (storeInit (fun _ => ifaceFill limitedLink) ()) [(.set (.mtu 9000), .code 0)] world ∧
      (world.objects 0).mtu = 9000 ∧ (IfaceAssert (ifaceFill limitedLink) ↔ Bounded limitedLink) ∧
      IfaceAssert (world.objects 0) := by
  have valid : LinkAssert limitedLink := by
    constructor <;> decide
  have begun : Run ((admittedMachine oneLinkPlatform 0).given fun world call =>
      Harmless (world.objects 0) (handedOut oneLinkPlatform 0 world) call)
      (storeInit (fun _ => ifaceFill limitedLink) ()) [] _ := .start
  have run := Run.extend begun (.set (.mtu 9000)) (.code 0)
    ⟨⟨trivial, fun reloads => (nomatch reloads), fun _ same => by cases same <;> contradiction⟩,
      fun reloads => (nomatch reloads), fun _ same => nomatch same⟩ rfl
  have asserts := @run_asserts_iff _ _ _ _ _ oneLinkPlatform 0 limitedLink valid
  exact ⟨_, run, rfl, asserts.1, (asserts.2 _ _ _ rfl (.inl (by decide)) run).1⟩

end Nlif.IfaceValidity
