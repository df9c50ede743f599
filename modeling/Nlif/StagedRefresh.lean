import Nlif.FlagWord
import Nlif.GateSpec
import Nlif.Interleaving
import Nlif.LibraryRun

/-!
# Notifications beside staged settings

`nlif_iface_refresh_state()` writes the volatile flags, the operational state and the
link mode; the setters write the rest. Neither reads what the other writes, so that
their calls may be interleaved in any way.
-/

namespace Nlif.StagedRefresh

open LinkModel IfaceModel FaultWalk StoreModel GateModel GateSpec FlagWord Interleaving
open LibraryRun (oneLink oneLinkPlatform oneLinkInit)

set_option autoImplicit false

structure Volatile where
  flags : BitVec 32
  opstat : UInt8
  lnkmod : UInt8
deriving DecidableEq

def shown (interface : Iface) : Volatile :=
  ⟨interface.flags &&& IFF_VOLATILE, interface.opstat, interface.lnkmod⟩

def carried (link : GetlinkRsp) : Volatile :=
  ⟨link.ifiFlags &&& IFF_VOLATILE, link.operstate.getD 0, link.linkmode.getD 0⟩

structure SameSettings (before after : Iface) : Prop where
  fields : after = { before with
    flags := after.flags, opstat := after.opstat, lnkmod := after.lnkmod }
  flags : AgreeOn (~~~IFF_VOLATILE) after.flags before.flags

theorem same_settings_refl (interface : Iface) : SameSettings interface interface :=
  ⟨rfl, agree_on_refl _ _⟩

theorem SameSettings.trans {first second third : Iface} (left : SameSettings first second)
    (right : SameSettings second third) : SameSettings first third where
  fields := by
    rw [right.fields, left.fields]
  flags := right.flags.trans left.flags

theorem refresh_flags (interface : Iface) (link : GetlinkRsp) :
    (ifaceRefreshState interface link).2.flags =
      merge IFF_VOLATILE interface.flags link.ifiFlags := by
  by_cases same : interface.flags &&& IFF_VOLATILE = link.ifiFlags &&& IFF_VOLATILE
  · have kept : merge IFF_VOLATILE interface.flags link.ifiFlags = interface.flags := by
      rw [← agree_on_all_iff]
      apply merge_agree
      · exact agree_on_refl _ _
      · have agrees : AgreeOn IFF_VOLATILE link.ifiFlags interface.flags := same.symm
        exact agrees.mono (by decide)
    simp [ifaceRefreshState, same, kept]
  · simp [ifaceRefreshState, same, merge]

theorem refresh_shown (interface : Iface) (link : GetlinkRsp) :
    shown (ifaceRefreshState interface link).2 = carried link := by
  have taken : AgreeOn IFF_VOLATILE _ _ := merge_takes IFF_VOLATILE interface.flags link.ifiFlags
  unfold shown carried
  rw [refresh_flags, taken]
  rfl

theorem refresh_changed (interface : Iface) (link : GetlinkRsp) :
    (ifaceRefreshState interface link).1 = decide (shown interface ≠ carried link) := by
  rw [Bool.eq_iff_iff]
  simp [ifaceRefreshState, shown, carried]
  tauto

theorem refresh_same_settings (interface : Iface) (link : GetlinkRsp) :
    SameSettings interface (ifaceRefreshState interface link).2 where
  fields := rfl
  flags := by
    rw [refresh_flags]
    exact merge_keeps ..

theorem refresh_eq (interface : Iface) (link : GetlinkRsp) :
    (ifaceRefreshState interface link).2 = { interface with
      flags := merge IFF_VOLATILE interface.flags link.ifiFlags
      opstat := link.operstate.getD 0
      lnkmod := link.linkmode.getD 0 } := by
  rw [← refresh_flags]
  rfl

theorem refresh_admin (interface : Iface) (link : GetlinkRsp) :
    (ifaceRefreshState interface link).2.flags &&& IFF_UP = interface.flags &&& IFF_UP := by
  have kept : AgreeOn (~~~IFF_VOLATILE) (ifaceRefreshState interface link).2.flags
      interface.flags := (refresh_same_settings interface link).flags
  exact kept.mono (by decide)

theorem volatile_spares_up : IFF_VOLATILE &&& IFF_UP = 0 := by decide

theorem masked_merge (flags : BitVec 32) (up : Bool) :
    (flags &&& ~~~IFF_UP) ||| admstateMask up = merge IFF_UP flags (admstateMask up) := by
  have within : admstateMask up = admstateMask up &&& IFF_UP := by cases up <;> decide
  unfold merge
  rw [← within]

/-- What a setter body owes to a refresh before it: the same return, and the refresh of the
object it leaves. -/
def Refreshed (link : GetlinkRsp) (body : Iface → Except Fault (Int × Iface))
    (interface : Iface) : Prop :=
  body (ifaceRefreshState interface link).2 =
    (fun done => (done.1, (ifaceRefreshState done.2 link).2)) <$> body interface

theorem stage_name_refreshed (name : StrArg) (interface : Iface) (link : GetlinkRsp) :
    Refreshed link (stageName name) interface := by
  unfold Refreshed stageName
  simp only [refresh_eq]
  split
  · simp
  · cases derefStr interface.ifalias with
    | error fault => rfl
    | ok current =>
        simp only [ok_bind]
        split
        · simp
        · split
          · rfl
          · simp

theorem stage_alias_refreshed (ifalias : Option CString) (interface : Iface)
    (link : GetlinkRsp) : Refreshed link (stageAlias ifalias) interface := by
  unfold Refreshed stageAlias
  simp only [refresh_eq]
  cases ifalias with
  | none =>
      simp only
      split
      · simp
      · cases nlifFree interface.ifalias with
        | error fault => rfl
        | ok _ => simp
  | some text =>
      simp only
      cases aliasIs text interface.ifalias with
      | error fault => rfl
      | ok same =>
          simp only [ok_bind]
          split
          · simp
          · split
            · simp
            · cases nlifFree interface.ifalias with
              | error fault => rfl
              | ok _ => simp

/-- `IFF_UP` is not volatile, so its change and the refresh of the other flags commute. -/
theorem stage_admstate_refreshed (up : Bool) (interface : Iface) (link : GetlinkRsp) :
    Refreshed link (stageAdmstate up) interface := by
  have bit := refresh_admin interface link
  unfold Refreshed stageAdmstate
  rw [bit]
  split
  · have swapped := merge_comm volatile_spares_up interface.flags link.ifiFlags
      (admstateMask up)
    simp [refresh_eq, masked_merge, swapped]
  · simp

theorem stage_mtu_refreshed (mtu : UInt32) (interface : Iface) (link : GetlinkRsp) :
    Refreshed link (stageMtu mtu) interface := by
  have validated : ifaceValidateMtu mtu (ifaceRefreshState interface link).2 =
      ifaceValidateMtu mtu interface := rfl
  have cached : (ifaceRefreshState interface link).2.mtu = interface.mtu := rfl
  unfold Refreshed stageMtu
  rw [validated, cached]
  split
  · simp only
    split
    · simp [refresh_eq]
    · simp
  · simp

theorem stage_refreshed (setter : Setter) (interface : Iface) (link : GetlinkRsp) :
    Refreshed link (stage setter) interface := by
  cases setter with
  | name name => exact stage_name_refreshed name interface link
  | ifalias ifalias => exact stage_alias_refreshed ifalias interface link
  | admstate up => exact stage_admstate_refreshed up interface link
  | mtu mtu => exact stage_mtu_refreshed mtu interface link
  | group group =>
      unfold Refreshed stage stageGroup
      simp only [refresh_eq]
      split
      · simp
      · simp
  | hwaddr address =>
      unfold Refreshed stage stageHwaddr
      simp only [refresh_eq]
      split
      · simp
      · simp

theorem stage_shown {setter : Setter} {before after : Iface} {ret : Int}
    (staged : stage setter before = .ok (ret, after)) : shown after = shown before := by
  cases stage_cases staged with
  | inl same => rw [same]
  | inr changed =>
      rw [changed.2.1]
      cases setter with
      | admstate up =>
          have kept : AgreeOn (~~~IFF_UP) _ _ :=
            merge_keeps IFF_UP before.flags (admstateMask up)
          have volatile : AgreeOn IFF_VOLATILE _ _ := kept.mono (by decide)
          simp only [shown, edited, masked_merge]
          rw [volatile]
      | name _ | ifalias _ | group _ | mtu _ | hwaddr _ => rfl

section Calls

variable {NameBucket IndexBucket Kstate : Type} [DecidableEq NameBucket] [DecidableEq IndexBucket]
  (platform : Platform NameBucket IndexBucket Kstate) (interface : Addr)

/-- `nlif_iface_refresh_state()` of the object of a world. -/
def refreshObject (link : GetlinkRsp) (world : World NameBucket IndexBucket Kstate) :
    Bool × World NameBucket IndexBucket Kstate :=
  let (changed, object) := ifaceRefreshState (world.objects interface) link
  (changed, world.setObject interface object)

def setAll (setters : List Setter) (world : World NameBucket IndexBucket Kstate) :
    Except Fault (List Int × World NameBucket IndexBucket Kstate) :=
  actAll (fun setter => ifaceSet platform setter interface) setters world

/-- Setters and refreshes in the order of the list, with what either sequence returned. -/
def callAll (calls : List (Setter ⊕ GetlinkRsp)) (world : World NameBucket IndexBucket Kstate) :
    Except Fault (List Int × List Bool × World NameBucket IndexBucket Kstate) :=
  mixed (fun setter => ifaceSet platform setter interface) (refreshObject interface) calls world

def Valid (world : World NameBucket IndexBucket Kstate) : Prop :=
  (world.objects interface).state ≠ .invalid

theorem setters_independent :
    Independent (fun setter world => ifaceSet platform setter interface world)
      (fun link (world : World NameBucket IndexBucket Kstate) => refreshObject interface link world)
      (Valid interface) where
  acts setter world ret next valid done := by
    obtain ⟨object, staged, same⟩ := iface_set_valid_ok platform interface world valid done
    rw [same, Valid, World.set_object_self]
    exact (stage_staged staged).valid valid
  observes link world valid := by
    rw [Valid, refreshObject, World.set_object_self]
    exact valid
  commutes setter link world valid := by
    have self : (refreshObject interface link world).2.objects interface =
        (ifaceRefreshState (world.objects interface) link).2 := World.set_object_self ..
    have stillValid : ((refreshObject interface link world).2.objects interface).state ≠
        .invalid := by
      rw [self]
      exact valid
    rw [iface_set_valid_eq platform interface _ setter stillValid,
      iface_set_valid_eq platform interface world setter valid, self, stage_refreshed]
    cases stage setter (world.objects interface) with
    | error fault => rfl
    | ok done => simp [refreshObject, World.setObject]
  unnoticed setter link world ret next valid done := by
    obtain ⟨object, staged, same⟩ := iface_set_valid_ok platform interface world valid done
    simp only [refreshObject]
    rw [same, World.set_object_self, refresh_changed, refresh_changed, stage_shown staged]

theorem set_all_shown {world next : World NameBucket IndexBucket Kstate} {setters : List Setter}
    {rets : List Int} (valid : Valid interface world)
    (done : setAll platform interface setters world = .ok (rets, next)) :
    shown (next.objects interface) = shown (world.objects interface) := by
  unfold setAll at done
  induction setters generalizing world rets with
  | nil =>
      cases done
      rfl
  | cons setter setters ih =>
      obtain ⟨⟨ret, middle⟩, acted, done⟩ := (bind_ok_iff ..).mp done
      obtain ⟨⟨others, last⟩, rest, same⟩ := (bind_ok_iff ..).mp done
      cases same
      have middleValid := (setters_independent platform interface).acts _ _ _ _ valid acted
      obtain ⟨object, staged, moved⟩ := iface_set_valid_ok platform interface world valid acted
      have self : middle.objects interface = object := by rw [moved, World.set_object_self]
      rw [ih middleValid rest, self, stage_shown staged]

omit [DecidableEq NameBucket] [DecidableEq IndexBucket] in
/-- The refreshes alone: the last one decides the volatile values. -/
theorem observe_all_refreshes (links : List GetlinkRsp)
    (world : World NameBucket IndexBucket Kstate) :
    SameSettings (world.objects interface)
        ((observeAll (refreshObject interface) links world).2.objects interface) ∧
      shown ((observeAll (refreshObject interface) links world).2.objects interface) =
        (links.getLast?.map carried).getD (shown (world.objects interface)) := by
  induction links generalizing world with
  | nil => exact ⟨same_settings_refl _, rfl⟩
  | cons link links ih =>
      have self : (refreshObject interface link world).2.objects interface =
          (ifaceRefreshState (world.objects interface) link).2 := World.set_object_self ..
      have rest := ih (refreshObject interface link world).2
      rw [self, refresh_shown] at rest
      refine ⟨(refresh_same_settings _ link).trans rest.1, ?_⟩
      refine rest.2.trans ?_
      rw [List.getLast?_cons]
      cases links.getLast? with
      | none => rfl
      | some last => rfl

theorem same_settings_request {before after : Iface} (same : SameSettings before after) :
    ifaceSetlinkReq after =
      (fun request => { request with ifiFlags := after.flags }) <$> ifaceSetlinkReq before := by
  rw [same.fields]
  unfold ifaceSetlinkReq
  simp only
  split
  · cases setlinkAlias before.ifalias with
    | error fault => rfl
    | ok ifalias => rfl
  · rfl

variable {interface} in
/-- All interleavings of the same setters and the same refreshes of a synchronised
interface end in the same world with the same returns. The settings are those of the
setters alone, the volatile values those of the last refresh, and the request of an
apply that follows asks for what the setters alone ask for. -/
theorem interleavings_agree {world after : World NameBucket IndexBucket Kstate}
    (valid : Valid interface world) {setters : List Setter} {links : List GetlinkRsp}
    {first second : List (Setter ⊕ GetlinkRsp)} (one : Interleaves setters links first)
    (two : Interleaves setters links second) {rets : List Int} {seen : List Bool}
    (done : callAll platform interface first world = .ok (rets, seen, after)) :
    callAll platform interface second world = .ok (rets, seen, after) ∧
      ∃ alone, setAll platform interface setters world = .ok (rets, alone) ∧
        SameSettings (alone.objects interface) (after.objects interface) ∧
        shown (after.objects interface) =
          (links.getLast?.map carried).getD (shown (world.objects interface)) ∧
        ifaceSetlinkReq (after.objects interface) =
          (fun request => { request with ifiFlags := (after.objects interface).flags }) <$>
            ifaceSetlinkReq (alone.objects interface) := by
  have independent := @setters_independent _ _ Kstate _ _ platform interface
  have firstTurn : callAll platform interface first world = _ :=
    mixed_in_turn independent one valid
  have secondTurn : callAll platform interface second world = _ :=
    mixed_in_turn independent two valid
  refine ⟨secondTurn.trans (firstTurn.symm.trans done), ?_⟩
  rw [firstTurn] at done
  obtain ⟨⟨returned, alone⟩, acted, same⟩ := (map_ok_iff ..).mp done
  obtain ⟨sameRets, ended⟩ := Prod.mk.inj same
  have last : (observeAll (refreshObject interface) links alone).2 = after :=
    congrArg Prod.snd ended
  have refreshed := observe_all_refreshes interface links alone
  have untouched := set_all_shown platform interface valid acted
  rw [last, untouched] at refreshed
  exact ⟨alone, sameRets ▸ acted, refreshed.1, refreshed.2, same_settings_request refreshed.1⟩

end Calls

def runningLink : GetlinkRsp :=
  { oneLink with ifiFlags := IFF_RUNNING ||| IFF_LOWER_UP, operstate := some 6 }

/-- The MTU and the admin state are staged before and after a notification. -/
theorem staged_and_running_agree :
    ∃ after, callAll oneLinkPlatform 0 [.inl (.mtu 1400), .inr runningLink, .inl (.admstate true)]
        oneLinkInit = .ok ([0, 0], [true], after) ∧
      callAll oneLinkPlatform 0 [.inr runningLink, .inl (.mtu 1400), .inl (.admstate true)]
        oneLinkInit = .ok ([0, 0], [true], after) := by
  have one : Interleaves [Setter.mtu 1400, .admstate true] [runningLink]
      [.inl (.mtu 1400), .inr runningLink, .inl (.admstate true)] :=
    .left (.right (.left .nil))
  have two : Interleaves [Setter.mtu 1400, .admstate true] [runningLink]
      [.inr runningLink, .inl (.mtu 1400), .inl (.admstate true)] :=
    .right (.left (.left .nil))
  have valid : Valid 0 oneLinkInit := fun invalid => nomatch invalid
  have done : callAll oneLinkPlatform 0
      [.inl (.mtu 1400), .inr runningLink, .inl (.admstate true)] oneLinkInit =
      .ok ([0, 0], [true], _) := rfl
  exact ⟨_, done, (interleavings_agree oneLinkPlatform valid one two done).1⟩

end Nlif.StagedRefresh
