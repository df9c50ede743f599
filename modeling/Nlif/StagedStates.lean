import Nlif.IfaceRun
import Nlif.LibraryRun

/-!
# Staged changes of one interface

The state of an object and its two dirty sets are written separately by every
setter, by the refresh and by apply and reload. `Tidy` is the relation between
them; every call keeps it, whatever the kernel and the store answer.
-/

namespace Nlif.StagedStates

open LinkModel IfaceModel FaultWalk StoreModel GateModel GateSpec LabelledRun IfaceRun
open LibraryRun (oneLink oneLinkPlatform oneLinkInit)

set_option autoImplicit false

/-- The dirty sets are those the state tells. -/
structure Tidy (interface : Iface) : Prop where
  clean : interface.state = .clean → interface.dirtyFields = ∅ ∧ interface.dirtyFlags = 0
  dirty : interface.state = .dirty → interface.dirtyFields ≠ ∅ ∨ interface.dirtyFlags ≠ 0
  flags : interface.dirtyFlags &&& ~~~IFF_UP = 0

/-- What the object keeps in any run: its strings are only released while it is `INVALID`. -/
structure Orderly (interface : Iface) : Prop where
  tidy : Tidy interface
  held : interface.state ≠ .invalid → Held interface

theorem flags_with_up (flags : BitVec 32) (only : flags &&& ~~~IFF_UP = 0) :
    (flags ||| IFF_UP) &&& ~~~IFF_UP = 0 := by
  have split : (flags ||| IFF_UP) &&& ~~~IFF_UP = flags &&& ~~~IFF_UP := by
    ext i bound
    simp only [BitVec.getElem_and, BitVec.getElem_or, BitVec.getElem_not]
    cases flags[i] <;> cases IFF_UP[i] <;> rfl
  rw [split, only]

theorem flags_with_up_ne (flags : BitVec 32) : flags ||| IFF_UP ≠ 0 := by
  intro none
  have bit := congrArg (fun word : BitVec 32 => word[0]) none
  simp [iff_up_bit] at bit

theorem edited_tidy (setter : Setter) {before : Iface} (tidy : Tidy before) :
    Tidy (edited before setter) := by
  cases setter with
  | admstate up =>
      exact ⟨fun clean => (nomatch clean), fun _ => .inr (flags_with_up_ne _),
        flags_with_up _ tidy.flags⟩
  | name _ | ifalias _ | group _ | mtu _ | hwaddr _ =>
      exact ⟨fun clean => (nomatch clean), fun _ => .inl (Finset.insert_ne_empty _ _), tidy.flags⟩

theorem tidy_fill (link : GetlinkRsp) : Tidy (ifaceFill link) :=
  ⟨fun _ => ⟨rfl, rfl⟩, fun dirty => (nomatch dirty), by simp [ifaceFill]⟩

theorem tidy_invalid {before after : Iface} (tidy : Tidy before)
    (flags : after.dirtyFlags = before.dirtyFlags) (invalid : after.state = .invalid) :
    Tidy after where
  clean clean := by
    rw [invalid] at clean
    cases clean
  dirty dirty := by
    rw [invalid] at dirty
    cases dirty
  flags := flags ▸ tidy.flags

theorem orderly_keeps : Keeps (fun link => gateIslinkValid link = 0) Orderly where
  staged setter before after ret _ valid orderly staged := by
    refine ⟨?_, fun _ => held_of_stage (orderly.held valid) staged⟩
    rcases stage_cases staged with same | ⟨_, rfl, _⟩
    · rw [same]
      exact orderly.tidy
    · exact edited_tidy setter orderly.tidy
  refreshed link before orderly :=
    ⟨⟨orderly.tidy.clean, orderly.tidy.dirty, orderly.tidy.flags⟩, fun valid =>
      ⟨(orderly.held valid).ifalias, (orderly.held valid).kind⟩⟩
  filled link _ := ⟨tidy_fill link, fun _ => held_fill link⟩
  applied before dirty orderly := by
    have valid : before.state ≠ .invalid := by
      rw [dirty]
      decide
    exact ⟨⟨fun _ => ⟨rfl, rfl⟩, fun dirty => (nomatch dirty), by simp [settled]⟩, fun _ =>
      ⟨(orderly.held valid).ifalias, (orderly.held valid).kind⟩⟩
  invalidated before orderly :=
    ⟨tidy_invalid orderly.tidy rfl rfl, fun valid => absurd rfl valid⟩

theorem released_orderly {before : Iface} (orderly : Orderly before) :
    Orderly { released before with state := .invalid } :=
  ⟨tidy_invalid orderly.tidy rfl rfl, fun valid => absurd rfl valid⟩

def Holds (interface : Iface) : Setter → Prop
  | .name argument => interface.name = argument.text
  | .ifalias ifalias => interface.ifalias.map HeapStr.text = ifalias
  | .group group => interface.group = group
  | .admstate up => ifaceAdmstateOf interface = up
  | .mtu mtu => interface.mtu = mtu
  | .hwaddr address => interface.hwadr = address

theorem stage_held_value {interface : Iface} {setter : Setter} (held : Held interface)
    (holds : Holds interface setter) : stage setter interface = .ok (0, interface) := by
  cases setter with
  | name argument => simp [stage, stageName, show interface.name = argument.text from holds]
  | ifalias ifalias =>
      have same : interface.ifalias.map HeapStr.text = ifalias := holds
      cases present : interface.ifalias with
      | none =>
          rw [present] at same
          subst same
          simp [stage, stageAlias, present]
      | some pointer =>
          rw [present] at same
          subst same
          have live := held.ifalias pointer present
          simp [stage, stageAlias, present, aliasIs, HeapStr.read, live]
  | group group => simp [stage, stageGroup, show interface.group = group from holds]
  | admstate up =>
      have same : interface.flags &&& IFF_UP = admstateMask up :=
        (masked_up_iff _ up).mpr holds
      simp [stage, stageAdmstate, same]
  | mtu mtu => simp [stage, stageMtu, show interface.mtu = mtu from holds]
  | hwaddr address => simp [stage, stageHwaddr, show interface.hwadr = address from holds]

variable {NameBucket IndexBucket Kstate : Type}

theorem synced_of_valid {handed : Except Int GetlinkRsp} {before after : Iface} {ret : Int}
    (valid : before.state ≠ .invalid) (synced : Synced handed before ret after) :
    ret = 0 ∧ after = before := by
  cases synced with
  | passed => exact ⟨rfl, rfl⟩
  | reloaded invalid => exact absurd invalid valid

theorem turn_enters {handed : Except Int GetlinkRsp} {before after : Iface}
    {call : Call NameBucket IndexBucket Kstate} {answer : Answer}
    (valid : before.state ≠ .invalid) (turn : Turn handed before call answer after)
    (invalid : after.state = .invalid) :
    (call = .apply ∨ call = .reload) ∧ ∃ ret, answer = .code ret ∧ ret < 0 := by
  cases turn with
  | set synced staged =>
      have same := synced_of_valid valid synced
      exact absurd invalid ((stage_staged staged).valid (same.2 ▸ valid))
  | unset synced failed | unread synced failed =>
      exact absurd (synced_of_valid valid synced).1 failed
  | read synced => exact absurd invalid ((synced_of_valid valid synced).2 ▸ valid)
  | refresh | idle | meanwhile => exact absurd invalid valid
  | reload refill =>
      cases refill with
      | unanswered _ _ negative | clashed _ _ negative =>
          exact ⟨.inr rfl, _, rfl, negative⟩
      | filled => cases invalid
  | reloadBylink | applied => cases invalid
  | unapplied _ negative => exact ⟨.inl rfl, _, rfl, negative⟩

theorem refill_failed_invalid {handed : Except Int GetlinkRsp} {before after : Iface} {ret : Int}
    (refill : Refill handed before ret after) (failed : ret ≠ 0) : after.state = .invalid := by
  cases refill with
  | unanswered | clashed => rfl
  | filled => exact absurd rfl failed

theorem synced_failed_invalid {handed : Except Int GetlinkRsp} {before after : Iface} {ret : Int}
    (synced : Synced handed before ret after) (failed : ret ≠ 0) : after.state = .invalid := by
  cases synced with
  | passed => exact absurd rfl failed
  | reloaded _ refill => exact refill_failed_invalid refill failed

section Runs

variable [DecidableEq NameBucket] [DecidableEq IndexBucket]
  {platform : Platform NameBucket IndexBucket Kstate} {interface : Addr}
  {start world next : World NameBucket IndexBucket Kstate}

theorem set_held_value {setter : Setter} (orderly : Orderly (world.objects interface))
    (valid : (world.objects interface).state ≠ .invalid)
    (holds : Holds (world.objects interface) setter) :
    ifaceSet platform setter interface world = .ok (0, world) := by
  have staged := stage_held_value (orderly.held valid) holds
  have unchanged : world.setObject interface (world.objects interface) = world := by
    simp [World.setObject]
  simp [ifaceSet, sync_passes platform interface world valid, staged, unchanged]

/-- The reload that took an object out of `INVALID` returned 0. -/
theorem step_leaves {call : Call NameBucket IndexBucket Kstate} {answer : Answer}
    (admitted : admits interface world call)
    (stepped : step platform interface call world = .ok (answer, next))
    (invalid : (world.objects interface).state = .invalid)
    (valid : (next.objects interface).state ≠ .invalid) :
    (∃ link, call = .reloadBylink link) ∨
      ∃ reloaded, ifaceReload platform interface world = .ok (0, reloaded) := by
  have reloads : ∀ {ret : Int} {middle : World NameBucket IndexBucket Kstate},
      ifaceSync platform interface world = .ok (ret, middle) →
        ifaceReload platform interface world = .ok (ret, middle) := by
    intro ret middle sync
    simpa only [ifaceSync, invalid] using sync
  have turn := step_turns admitted stepped
  cases call with
  | set setter =>
      obtain ⟨⟨ret, after⟩, done, same⟩ := (map_ok_iff ..).mp stepped
      cases same
      obtain ⟨synced, middle, sync, ⟨failed, _, rfl⟩ | ⟨rfl, _⟩⟩ :=
        iface_set_ok platform interface world done
      · exact absurd (synced_failed_invalid (sync_synced sync) failed) valid
      · exact .inr ⟨middle, reloads sync⟩
  | coherent =>
      obtain ⟨⟨value, after⟩, done, same⟩ := (map_ok_iff ..).mp stepped
      cases same
      obtain ⟨synced, sync, ⟨failed, _⟩ | ⟨rfl, _⟩⟩ :=
        iface_coherent_ok platform interface world done
      · exact absurd (synced_failed_invalid (sync_synced sync) failed) valid
      · exact .inr ⟨_, reloads sync⟩
  | reload =>
      obtain ⟨⟨ret, after⟩, done, same⟩ := (map_ok_iff ..).mp stepped
      cases same
      by_cases zero : ret = 0
      · subst zero
        exact .inr ⟨_, done⟩
      · exact absurd (refill_failed_invalid (reload_refills done) zero) valid
  | reloadBylink link => exact .inl ⟨link, rfl⟩
  | refresh | meanwhile =>
      generalize next.objects interface = object at turn valid
      cases turn
      exact absurd invalid valid
  | apply =>
      generalize next.objects interface = object at turn valid
      cases turn with
      | idle => exact absurd invalid valid
      | applied dirty | unapplied dirty =>
          rw [invalid] at dirty
          cases dirty

theorem apply_leaves {ret : Int} (dirty : (world.objects interface).state = .dirty)
    (done : ifaceApply platform interface world = .ok (ret, next)) :
    (ret = 1 ∧ (next.objects interface).state = .clean) ∨
      (ret < 0 ∧ (next.objects interface).state = .invalid) := by
  have turn := apply_turns done
  generalize after : next.objects interface = object at turn
  cases turn with
  | idle undirtied => exact absurd dirty undirtied
  | applied => exact .inl ⟨rfl, rfl⟩
  | unapplied _ negative => exact .inr ⟨negative, rfl⟩

/-- What holds of an object in a world and of every call it may take there. -/
structure StateMachine (platform : Platform NameBucket IndexBucket Kstate) (interface : Addr)
    (world : World NameBucket IndexBucket Kstate) : Prop where
  clean : (world.objects interface).state = .clean →
    (world.objects interface).dirtyFields = ∅ ∧ (world.objects interface).dirtyFlags = 0
  dirty : (world.objects interface).state = .dirty →
    (world.objects interface).dirtyFields ≠ ∅ ∨ (world.objects interface).dirtyFlags ≠ 0
  flags : (world.objects interface).dirtyFlags &&& ~~~IFF_UP = 0
  unchanged : ∀ setter, (world.objects interface).state ≠ .invalid →
    Holds (world.objects interface) setter →
    ifaceSet platform setter interface world = .ok (0, world)
  entered : ∀ call answer next, admits interface world call →
    step platform interface call world = .ok (answer, next) →
    (world.objects interface).state ≠ .invalid → (next.objects interface).state = .invalid →
    (call = .apply ∨ call = .reload) ∧ ∃ ret, answer = .code ret ∧ ret < 0
  left : ∀ call answer next, admits interface world call →
    step platform interface call world = .ok (answer, next) →
    (world.objects interface).state = .invalid → (next.objects interface).state ≠ .invalid →
    (∃ link, call = .reloadBylink link) ∨
      ∃ reloaded, ifaceReload platform interface world = .ok (0, reloaded)
  applied : ∀ ret next, (world.objects interface).state = .dirty →
    ifaceApply platform interface world = .ok (ret, next) →
    (ret = 1 ∧ (next.objects interface).state = .clean) ∨
      (ret < 0 ∧ (next.objects interface).state = .invalid)

theorem run_orderly {link : GetlinkRsp} (created : start.objects interface = ifaceFill link)
    {log : List (Call NameBucket IndexBucket Kstate × Answer)}
    (run : Run (machine platform interface) start log world) :
    Orderly (world.objects interface) :=
  run_keeps orderly_keeps (fun _ orderly => released_orderly orderly)
    (created ▸ ⟨tidy_fill link, fun _ => held_fill link⟩) run

/-- The states of an interface and its staged changes, in every run of its calls. -/
theorem run_state_machine {link : GetlinkRsp} (created : start.objects interface = ifaceFill link)
    {log : List (Call NameBucket IndexBucket Kstate × Answer)}
    (run : Run (machine platform interface) start log world) :
    StateMachine platform interface world := by
  have orderly := run_orderly created run
  exact
    { clean := orderly.tidy.clean
      dirty := orderly.tidy.dirty
      flags := orderly.tidy.flags
      unchanged := fun _ valid holds => set_held_value orderly valid holds
      entered := fun _ _ _ admitted stepped valid invalid =>
        turn_enters valid (step_turns admitted stepped) invalid
      left := fun _ _ _ admitted stepped invalid valid =>
        step_leaves admitted stepped invalid valid
      applied := fun _ _ dirty done => apply_leaves dirty done }

end Runs

/-- The interface of the link "a", moved to another group. -/
theorem regrouped_state_machine :
    ∃ world, Run (machine oneLinkPlatform 0) oneLinkInit [(.set (.group 5), .code 0)] world ∧
      (world.objects 0).state = .dirty ∧ StateMachine oneLinkPlatform 0 world := by
  have begun : Run (machine oneLinkPlatform 0) oneLinkInit [] oneLinkInit := .start
  have run := Run.extend begun (.set (.group 5)) (.code 0) trivial rfl
  exact ⟨_, run, rfl, run_state_machine rfl run⟩

end Nlif.StagedStates
