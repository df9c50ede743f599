import Nlif.IfaceRun
import Nlif.LibraryRun

/-!
# Renaming and aliasing one interface

`nlif_iface_set_name()` and `nlif_iface_set_alias()` refuse a string the other
field holds. The first compares with the alias pointer whatever it holds and
copies a whole name array out of its argument, so it is only defined on some
objects and arguments; the last section says exactly on which.
-/

namespace Nlif.SetterSafety

open LinkModel IfaceModel FaultWalk StoreModel GateModel GateSpec LabelledRun IfaceRun
open LibraryRun (oneLink aliasedLink oneLinkPlatform oneLinkInit storeInit)

set_option autoImplicit false

def renamed (interface : Iface) (name : CString) : Iface :=
  { interface with
    state := .dirty, dirtyFields := insert .name interface.dirtyFields, name }

def realiased (interface : Iface) (ifalias : Option CString) : Iface :=
  { interface with
    state := .dirty
    dirtyFields := insert .ifalias interface.dirtyFields
    ifalias := ifalias.map dupStr }

/-- Refused where the name is another one and the current alias. -/
def renameOutcome (name : CString) (interface : Iface) : Int × Iface :=
  if name ≠ interface.name ∧ interface.ifalias.map HeapStr.text = some name then
    (-EEXIST, interface)
  else if name = interface.name then (0, interface)
  else (0, renamed interface name)

/-- Refused where the alias is another one and the current name. -/
def realiasOutcome (ifalias : Option CString) (interface : Iface) : Int × Iface :=
  if ifalias ≠ interface.ifalias.map HeapStr.text ∧ ifalias = some interface.name then
    (-EEXIST, interface)
  else if ifalias = interface.ifalias.map HeapStr.text then (0, interface)
  else (0, realiased interface ifalias)

/-- The name is the current one, or there is an alias and the name repeats it or
fills the whole array. -/
def Renamable (name : CString) (interface : Iface) : Prop :=
  name = interface.name ∨ ∃ pointer, interface.ifalias = some pointer ∧
    (pointer.text = name ∨ name.length = IFNAMSIZ - 1)

theorem stage_name_iff {interface : Iface} {argument : StrArg} (held : Held interface)
    (valid : linkValidateName argument.text > 0)
    (exactly : argument.extent = argument.text.length + 1) :
    stageName argument interface = .ok (renameOutcome argument.text interface) ↔
      Renamable argument.text interface := by
  have bounds := (link_validate_name_pos_iff argument.text).mp valid
  unfold stageName renameOutcome Renamable
  by_cases same : interface.name = argument.text
  · simp [same]
  · have other : argument.text ≠ interface.name := fun equal => same equal.symm
    cases present : interface.ifalias with
    | none => simp [same, other, derefStr]
    | some pointer =>
        have live := held.ifalias pointer present
        by_cases taken : pointer.text = argument.text
        · simp [same, other, derefStr, HeapStr.read, live, taken]
        · have different : argument.text ≠ pointer.text := fun equal => taken equal.symm
          have short : argument.extent < IFNAMSIZ ↔ argument.text.length ≠ IFNAMSIZ - 1 := by
            rw [exactly]
            unfold IFNAMSIZ at bounds ⊢
            omega
          by_cases fills : argument.text.length = IFNAMSIZ - 1
          · simp [same, other, derefStr, HeapStr.read, live, taken, different, short, fills,
              renamed, present]
          · simp [same, other, derefStr, HeapStr.read, live, taken, different, short, fills]

theorem stage_alias_eq {interface : Iface} (held : Held interface) (ifalias : Option CString) :
    stageAlias ifalias interface = .ok (realiasOutcome ifalias interface) := by
  unfold stageAlias realiasOutcome
  cases ifalias with
  | none =>
      cases present : interface.ifalias with
      | none => simp
      | some pointer =>
          have live := held.ifalias pointer present
          simp [nlifFree, live, realiased]
  | some text =>
      cases present : interface.ifalias with
      | none =>
          by_cases named : text = interface.name
          · simp [aliasIs, named]
          · simp [aliasIs, named, nlifFree, realiased]
      | some pointer =>
          have live := held.ifalias pointer present
          by_cases same : pointer.text = text
          · simp [aliasIs, HeapStr.read, live, same]
          · have other : text ≠ pointer.text := fun equal => same equal.symm
            by_cases named : text = interface.name
            · subst named
              simp [aliasIs, HeapStr.read, live, same, other]
            · simp [aliasIs, HeapStr.read, live, same, other, named, nlifFree, realiased]

/-- The name is never the alias, and a released string is only left while `INVALID`. -/
structure Apart (interface : Iface) : Prop where
  apart : ∀ pointer, interface.ifalias = some pointer → pointer.text ≠ interface.name
  held : interface.state ≠ .invalid → Held interface

theorem apart_fill {link : GetlinkRsp} (accepted : gateIslinkValid link = 0) :
    Apart (ifaceFill link) where
  apart pointer present := by
    obtain ⟨text, held, rfl⟩ := Option.map_eq_some_iff.mp present
    obtain ⟨given, _⟩ := Option.filter_eq_some_iff.mp held
    intro same
    have different := (gate_islink_valid_iff link).mp accepted
    rw [given] at different
    exact different (congrArg some same)
  held _ := held_fill link

theorem stage_name_apart {argument : StrArg} {before after : Iface} {ret : Int}
    (apart : Apart before) (staged : stageName argument before = .ok (ret, after)) :
    ∀ pointer, after.ifalias = some pointer → pointer.text ≠ after.name := by
  unfold stageName at staged
  split at staged
  · cases staged
    exact apart.apart
  · obtain ⟨current, read, staged⟩ := (bind_ok_iff ..).mp staged
    split at staged
    · cases staged
      exact apart.apart
    · rename_i different
      split at staged
      · cases staged
      · cases staged
        intro pointer present same
        have held : before.ifalias = some pointer := present
        rw [held] at read
        obtain ⟨_, rfl⟩ := (HeapStr.read_ok_iff ..).mp read
        exact different same.symm

theorem stage_alias_apart {ifalias : Option CString} {before after : Iface} {ret : Int}
    (apart : Apart before) (valid : before.state ≠ .invalid)
    (staged : stageAlias ifalias before = .ok (ret, after)) :
    ∀ pointer, after.ifalias = some pointer → pointer.text ≠ after.name := by
  rw [stage_alias_eq (apart.held valid)] at staged
  have outcome : after = (realiasOutcome ifalias before).2 := by
    rw [Except.ok.inj staged]
  rw [outcome]
  unfold realiasOutcome
  split
  · exact apart.apart
  · rename_i accepted
    split
    · exact apart.apart
    · rename_i different
      intro pointer present same
      obtain ⟨text, given, rfl⟩ := Option.map_eq_some_iff.mp present
      apply accepted
      refine ⟨different, ?_⟩
      rw [given]
      exact congrArg some same

theorem apart_keeps : Keeps (fun link => gateIslinkValid link = 0) Apart where
  staged setter before after ret _ valid apart staged := by
    refine ⟨?_, fun _ => held_of_stage (apart.held valid) staged⟩
    cases setter with
    | name argument => exact stage_name_apart apart staged
    | ifalias ifalias => exact stage_alias_apart apart valid staged
    | group _ | admstate _ | mtu _ | hwaddr _ =>
        rcases stage_cases staged with same | ⟨_, rfl, _⟩
        · rw [same]
          exact apart.apart
        · exact apart.apart
  refreshed link before apart :=
    ⟨apart.apart, fun valid => ⟨(apart.held valid).ifalias, (apart.held valid).kind⟩⟩
  filled link accepted := apart_fill accepted
  applied before dirty apart := by
    have valid : before.state ≠ .invalid := by
      rw [dirty]
      decide
    exact ⟨apart.apart, fun _ => ⟨(apart.held valid).ifalias, (apart.held valid).kind⟩⟩
  invalidated before apart := ⟨apart.apart, fun valid => absurd rfl valid⟩

theorem released_apart {before : Iface} (apart : Apart before) :
    Apart { released before with state := .invalid } where
  apart pointer present := by
    obtain ⟨old, held, rfl⟩ := Option.map_eq_some_iff.mp present
    exact apart.apart old held
  held valid := absurd rfl valid

section Runs

variable {NameBucket IndexBucket Kstate : Type} {interface : Addr}
  {start world synced : World NameBucket IndexBucket Kstate}

def stored (interface : Addr) (outcome : Int × Iface)
    (world : World NameBucket IndexBucket Kstate) :
    Int × World NameBucket IndexBucket Kstate :=
  (outcome.1, world.setObject interface outcome.2)

theorem stored_inj {left right : Int × Iface}
    (same : stored interface left world = stored interface right world) : left = right := by
  have codes := congrArg Prod.fst same
  have objects := congrArg (fun done => done.2.objects interface) same
  simp only [stored, World.set_object_self] at codes objects
  exact Prod.ext codes objects

variable [DecidableEq NameBucket] [DecidableEq IndexBucket]
  {platform : Platform NameBucket IndexBucket Kstate}

theorem set_synced {setter : Setter}
    (sync : ifaceSync platform interface world = .ok (0, synced)) :
    ifaceSet platform setter interface world =
      (fun outcome => stored interface outcome synced) <$>
        stage setter (synced.objects interface) := by
  unfold ifaceSet
  rw [sync]
  simp only [ok_bind, ne_eq, not_true_eq_false, if_false]
  rcases stage setter (synced.objects interface) with fault | outcome <;> rfl

/-- `nlif_iface_set_alias()` always answers as it should, `nlif_iface_set_name()`
exactly where the interface may be renamed so; the name is never the alias. -/
theorem run_setters_iff {link : GetlinkRsp} (accepted : gateIslinkValid link = 0)
    (created : start.objects interface = ifaceFill link)
    {log : List (Call NameBucket IndexBucket Kstate × Answer)}
    (run : Run (machine platform interface) start log world) :
    (∀ pointer, (world.objects interface).ifalias = some pointer →
      pointer.text ≠ (world.objects interface).name) ∧
    ∀ synced, ifaceSync platform interface world = .ok (0, synced) →
      (∀ argument : StrArg, linkValidateName argument.text > 0 →
        argument.extent = argument.text.length + 1 →
        (ifaceSetName platform argument interface world =
            .ok (stored interface (renameOutcome argument.text (synced.objects interface)) synced) ↔
          Renamable argument.text (synced.objects interface))) ∧
      ∀ ifalias, linkValidateAlias ifalias ≥ 0 →
        ifaceSetAlias platform ifalias interface world =
          .ok (stored interface (realiasOutcome ifalias (synced.objects interface)) synced) := by
  have initial : Apart (start.objects interface) := created ▸ apart_fill accepted
  have apart := run_keeps apart_keeps (fun _ apart => released_apart apart) initial run
  refine ⟨apart.apart, fun synced sync => ?_⟩
  have turn := sync_synced sync
  have syncedApart : Apart (synced.objects interface) := by
    refine synced_keeps apart_keeps apart (fun _ _ _ _ => released_apart apart) ?_ turn
    intro _ link given
    exact (gate_getlink_ok given).2
  have held := syncedApart.held (synced_valid turn)
  constructor
  · intro argument valid exactly
    rw [← stage_name_iff held valid exactly, ifaceSetName, set_synced sync, map_ok_iff]
    constructor
    · intro done
      obtain ⟨outcome, staged, same⟩ := done
      rw [← stored_inj same]
      exact staged
    · intro staged
      exact ⟨_, staged, rfl⟩
  · intro ifalias _
    have staged : stage (.ifalias ifalias) (synced.objects interface) = _ :=
      stage_alias_eq held ifalias
    rw [ifaceSetAlias, set_synced sync, staged]
    rfl

def shortName : StrArg := ⟨nameB, 2, by decide⟩

/-- The freshly loaded interface "a" without alias cannot be renamed "b". -/
theorem rename_without_alias_faults :
    ∃ world, Run (machine oneLinkPlatform 0) oneLinkInit
        [(.coherent, .read (.ok (ifaceFill oneLink)))] world ∧
      (world.objects 0).ifalias = none ∧ linkValidateName shortName.text > 0 ∧
      shortName.extent = shortName.text.length + 1 ∧ shortName.text ≠ (world.objects 0).name ∧
      ifaceSync oneLinkPlatform 0 world = .ok (0, world) ∧
      ifaceSetName oneLinkPlatform shortName 0 world = .error .nullDereference := by
  have begun : Run (machine oneLinkPlatform 0) oneLinkInit [] oneLinkInit := .start
  have run := Run.extend begun
    .coherent (.read (.ok (ifaceFill oneLink))) trivial rfl
  exact ⟨_, run, rfl, by decide, rfl, by decide, rfl, rfl⟩

/-- The freshly loaded interface "a" can be given the alias "b" and be renamed "a" only. -/
theorem fresh_setters_iff :
    ∃ world, Run (machine oneLinkPlatform 0) oneLinkInit [(.set (.group 5), .code 0)] world ∧
      (world.objects 0).state = .dirty ∧
      (ifaceSetName oneLinkPlatform shortName 0 world =
          .ok (stored 0 (renameOutcome shortName.text (world.objects 0)) world) ↔
        Renamable shortName.text (world.objects 0)) ∧
      ifaceSetAlias oneLinkPlatform (some nameB) 0 world =
        .ok (stored 0 (realiasOutcome (some nameB) (world.objects 0)) world) := by
  have begun : Run (machine oneLinkPlatform 0) oneLinkInit [] oneLinkInit := .start
  have run := Run.extend begun
    (.set (.group 5)) (.code 0) trivial rfl
  have accepted : gateIslinkValid oneLink = 0 := by decide
  have setters := (run_setters_iff accepted rfl run).2 _ rfl
  exact ⟨_, run, rfl, setters.1 shortName (by decide) rfl, setters.2 (some nameB) (by decide)⟩

end Runs

end Nlif.SetterSafety
