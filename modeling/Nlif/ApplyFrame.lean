import Nlif.ApplyAgreement

/-!
# What `nlif_iface_apply()` leaves alone

The setters are followed with a record of what they changed, kept beside the
world and computed from the cached values alone. The request is then compared
with that record on whatever link the kernel holds by then.
-/

namespace Nlif.ApplyFrame

open LinkModel IfaceModel FaultWalk StoreModel GateModel GateSpec FlagWord RtnetlinkModel
  LabelledRun ApplyAgreement

set_option autoImplicit false

def fieldDiffers (before after : Iface) : IfaceField → Bool
  | .group => before.group ≠ after.group
  | .name => before.name ≠ after.name
  | .ifalias => before.ifalias.map HeapStr.text ≠ after.ifalias.map HeapStr.text
  | .mtu => before.mtu ≠ after.mtu
  | .hwadr => before.hwadr ≠ after.hwadr

/-- The settings and flag bits some setter gave another value. -/
structure Changes where
  fields : IfaceField → Bool
  flags : BitVec 32

def Changes.empty : Changes := ⟨fun _ => false, 0⟩

def Changes.and (changes : Changes) (before after : Iface) : Changes where
  fields field := changes.fields field || fieldDiffers before after field
  flags := changes.flags ||| (before.flags ^^^ after.flags)

theorem field_differs_self (interface : Iface) (field : IfaceField) :
    fieldDiffers interface interface field = false := by
  cases field <;> simp [fieldDiffers]

theorem up_toggled {flags : BitVec 32} {up : Bool}
    (different : flags &&& IFF_UP ≠ admstateMask up) :
    flags ^^^ ((flags &&& ~~~IFF_UP) ||| admstateMask up) = IFF_UP := by
  have first : flags[0] = !up := by
    have other := fun same => different ((masked_up_bit flags up).mpr same)
    cases up <;> simpa using other
  ext i bound
  simp only [BitVec.getElem_xor, BitVec.getElem_or, BitVec.getElem_and, BitVec.getElem_not,
    iff_up_bit, admstate_mask_bit]
  by_cases lowest : i = 0
  · subst lowest
    simp [first]
  · simp [lowest]

/-- The record and the dirty sets of the object say the same. -/
structure Tracked (changes : Changes) (interface : Iface) : Prop where
  valid : interface.state ≠ .invalid
  fields : ∀ field, field ∈ interface.dirtyFields ↔ changes.fields field = true
  flags : interface.dirtyFlags = changes.flags

theorem Tracked.stage {changes : Changes} {setter : Setter} {before after : Iface} {ret : Int}
    (tracked : Tracked changes before) (staged : stage setter before = .ok (ret, after)) :
    Tracked (changes.and before after) after := by
  obtain ⟨valid, fields, flags⟩ := tracked
  rcases stage_cases staged with rfl | ⟨_, rfl, different⟩
  · exact ⟨valid, by simp [Changes.and, field_differs_self, fields], by
      simp [Changes.and, flags]⟩
  · cases setter with
    | admstate up =>
        refine ⟨by simp [edited], fun field => ?_, ?_⟩
        · cases field <;> simp [edited, Changes.and, fieldDiffers, fields]
        · simp only [edited, Changes.and, flags]
          rw [up_toggled different]
    | name _ | ifalias _ | group _ | mtu _ | hwaddr _ =>
        refine ⟨by simp [edited], fun field => ?_, by simp [edited, Changes.and, flags]⟩
        cases field <;>
          simp_all [edited, Changes.and, fieldDiffers, Option.map_map, dupStr, Function.comp_def]

theorem Tracked.refresh {changes : Changes} {interface : Iface}
    (tracked : Tracked changes interface)
    (link : GetlinkRsp) : Tracked changes (ifaceRefreshState interface link).2 :=
  ⟨tracked.valid, tracked.fields, tracked.flags⟩

/-- Everything no setter changed is as it was. -/
structure Spares (changes : Changes) (before after : GetlinkRsp) : Prop where
  others : after = { before with
    ifiFlags := after.ifiFlags
    group := after.group
    ifname := after.ifname
    ifalias := after.ifalias
    mtu := after.mtu
    address := after.address }
  group : changes.fields .group = false → after.group = before.group
  name : changes.fields .name = false → after.ifname = before.ifname
  ifalias : changes.fields .ifalias = false → after.ifalias = before.ifalias
  mtu : changes.fields .mtu = false → after.mtu = before.mtu
  hwadr : changes.fields .hwadr = false → after.address = before.address
  flags : AgreeOn (~~~changes.flags) after.ifiFlags before.ifiFlags

/-- The request spares what was not changed exactly where the flags survive it. -/
theorem set_link_spares_iff {changes : Changes} {interface : Iface}
    (tracked : Tracked changes interface) (link : GetlinkRsp) :
    Spares changes link (setLink (requestOf interface) link) ↔
      changes.flags ≠ 0 ∨ interface.flags = 0 ∨ interface.flags = link.ifiFlags := by
  have combined : (setLink (requestOf interface) link).ifiFlags =
      combineFlags link.ifiFlags interface.flags changes.flags := by
    simp only [setLink, requestOf, tracked.flags]
  have spared := combine_flags_spares_iff link.ifiFlags interface.flags changes.flags
  rw [← combined] at spared
  constructor
  · intro spares
    exact spared.mp spares.flags
  · intro survives
    refine ⟨rfl, fun same => ?_, fun same => ?_, fun same => ?_, fun same => ?_, fun same => ?_,
      spared.mpr survives⟩ <;>
    simp [setLink, requestOf, tracked.fields, same]

section Runs

variable {NameBucket IndexBucket : Type}

/-- Nothing is marked dirty on a clean interface. -/
def Spotless (interface : Iface) : Prop :=
  interface.state = .clean → interface.dirtyFields = ∅ ∧ interface.dirtyFlags = 0

theorem spotless_invalidated (interface : Addr) (world : World NameBucket IndexBucket Rtnetlink) :
    Spotless ((world.invalidate interface).objects interface) := by
  intro clean
  simp [World.invalidate, World.setObject] at clean

theorem spotless_fill (link : GetlinkRsp) : Spotless (ifaceFill link) := fun _ => ⟨rfl, rfl⟩

variable [DecidableEq NameBucket] [DecidableEq IndexBucket]

def editMachine (platform : Platform NameBucket IndexBucket Rtnetlink) (interface : Addr) :
    Machine (World NameBucket IndexBucket Rtnetlink × Changes) Touch Int Fault where
  admits state touch :=
    (touchMachine platform interface).admits state.1 touch ∧
      match touch with
      | .set _ | .refresh _ => True
      | .apply => False
  step touch state :=
    (fun done => (done.1, done.2,
      match touch with
      | .set _ => state.2.and (state.1.objects interface) (done.2.objects interface)
      | .refresh _ | .apply => state.2)) <$> (touchMachine platform interface).step touch state.1

variable {platform : Platform NameBucket IndexBucket Rtnetlink} {interface : Addr}
  {world next : World NameBucket IndexBucket Rtnetlink} {ret : Int}

theorem reload_spotless (done : ifaceReload platform interface world = .ok (ret, next)) :
    Spotless (next.objects interface) := by
  unfold ifaceReload at done
  obtain ⟨released, _, done⟩ := (bind_ok_iff ..).mp done
  simp only [ifaceLoadByidx, gateLoadLinkByidx] at done
  rcases outcome : gateGetlink (platform.kernel.getlink released.idx world.kernel).1 with err | link
  · have failed := gate_getlink_error outcome
    simp only [World.setObject, outcome, ne_eq, failed, not_false_eq_true, if_true] at done
    cases done
    exact spotless_invalidated interface _
  · simp only [World.setObject, outcome, ne_eq, not_true_eq_false, if_false] at done
    obtain ⟨⟨eventRet, middle⟩, notified, done⟩ := (bind_ok_iff ..).mp done
    have filled : middle.objects interface = ifaceFill link := by
      unfold gateNotify at notified
      split at notified
      · obtain ⟨⟨_, _⟩, event, same⟩ := (bind_ok_iff ..).mp notified
        obtain ⟨⟨_, _⟩, _, stored⟩ := (bind_ok_iff ..).mp event
        cases stored
        cases same
        simp [World.record]
      · cases notified
        simp [World.record]
    simp only at done
    split at done
    · cases done
      exact spotless_invalidated interface middle
    · cases done
      rw [filled]
      exact spotless_fill link

theorem sync_spotless (spotless : Spotless (world.objects interface))
    (done : ifaceSync platform interface world = .ok (ret, next)) :
    Spotless (next.objects interface) := by
  unfold ifaceSync at done
  split at done
  · cases done
    exact spotless
  · cases done
    exact spotless
  · exact reload_spotless done

theorem touch_spotless {touch : Touch} (spotless : Spotless (world.objects interface))
    (stepped : (touchMachine platform interface).step touch world = .ok (ret, next)) :
    Spotless (next.objects interface) := by
  cases touch with
  | set setter =>
      obtain ⟨synced, middle, sync, outcome⟩ := iface_set_ok platform interface world stepped
      have before := sync_spotless spotless sync
      rcases outcome with ⟨_, _, rfl⟩ | ⟨_, object, staged, rfl⟩
      · exact before
      · rw [show (middle.setObject interface object).objects interface = object from
          Function.update_self ..]
        rcases (stage_staged staged).state with same | dirty
        · rw [same]
          exact before
        · intro clean
          rw [dirty] at clean
          cases clean
  | refresh link =>
      rw [(refresh_step stepped).1]
      exact spotless
  | apply =>
      cases (iface_apply_ok_iff ..).mp stepped with
      | idle => exact spotless
      | refused | clashed => exact spotless_invalidated interface _
      | applied =>
          intro _
          simp [World.setObject, settled]

theorem run_spotless {first : World NameBucket IndexBucket Rtnetlink} {loaded : GetlinkRsp}
    (cached : first.objects interface = ifaceFill loaded) {history : List (Touch × Int)}
    (past : Run (touchMachine platform interface) first history world) :
    Spotless (world.objects interface) :=
  run_invariant (fun world => Spotless (world.objects interface))
    (by
      rw [cached]
      exact spotless_fill loaded)
    (fun _ _ _ _ spotless _ stepped => touch_spotless spotless stepped) past

theorem run_tracked {clean staged : World NameBucket IndexBucket Rtnetlink} {changes : Changes}
    {log : List (Touch × Int)} (spotless : Spotless (clean.objects interface))
    (atRest : (clean.objects interface).state = .clean)
    (edits : Run (editMachine platform interface) (clean, .empty) log (staged, changes)) :
    Tracked changes (staged.objects interface) := by
  have initial : Tracked Changes.empty (clean.objects interface) := by
    obtain ⟨noField, noFlag⟩ := spotless atRest
    exact ⟨by simp [atRest], by simp [noField, Changes.empty], noFlag⟩
  refine run_invariant (fun state => Tracked state.2 (state.1.objects interface)) initial ?_ edits
  intro state touch ret after tracked admitted stepped
  obtain ⟨⟨_, reached⟩, done, same⟩ := (map_ok_iff ..).mp stepped
  cases same
  cases touch with
  | set setter =>
      obtain ⟨object, staged, rfl⟩ := iface_set_valid_ok _ _ _ tracked.valid done
      have self : (state.1.setObject interface object).objects interface = object :=
        Function.update_self ..
      simp only [self]
      exact tracked.stage staged
  | refresh link =>
      simp only [(refresh_step done).1]
      exact tracked.refresh link
  | apply => exact admitted.2.elim

/-- An accepted apply of edits made on a clean interface leaves everything else
alone exactly where the admin state was edited too, or the cached word is zero or
the link's own. -/
theorem apply_spares_unchanged_iff (kernel : platform.kernel = rtnetlink)
    {first clean staged : World NameBucket IndexBucket Rtnetlink} {loaded : GetlinkRsp}
    {changes : Changes} {history log : List (Touch × Int)}
    (cached : first.objects interface = ifaceFill loaded)
    (past : Run (touchMachine platform interface) first history clean)
    (atRest : (clean.objects interface).state = .clean)
    (edits : Run (editMachine platform interface) (clean, .empty) log (staged, changes))
    {state : Rtnetlink} {link : GetlinkRsp} (accepting : (state.moments 0).refusal = none)
    (met : current state (staged.objects interface).idx = some link)
    (dirty : (staged.objects interface).state = .dirty)
    (done : ifaceApply platform interface { staged with kernel := state } = .ok (ret, next)) :
    ∃ after, next.kernel.links (staged.objects interface).idx = some after ∧
      (Spares changes link after ↔
        changes.flags ≠ 0 ∨ (staged.objects interface).flags = 0 ∨
          (staged.objects interface).flags = link.ifiFlags) := by
  have tracked := run_tracked (run_spotless cached past) atRest edits
  obtain ⟨request, built, sent⟩ := iface_apply_kernel platform interface _ done dirty
  have sentRequest := iface_setlink_req_ok built
  subst sentRequest
  rw [kernel] at sent
  refine ⟨setLink (requestOf (staged.objects interface)) link, ?_,
    set_link_spares_iff tracked link⟩
  rw [sent]
  exact rtnl_setlink_accepts accepting met

end Runs

def raisedLink : GetlinkRsp :=
  { bareLink 1 nameA none with ifiFlags := IFF_UP ||| IFF_BROADCAST }

def loweredLink : GetlinkRsp := { raisedLink with ifiFlags := IFF_BROADCAST }

/-- With the admin state staged too, the other attributes of the link stay. -/
theorem admstate_and_group_spare_link :
    ∃ staged changes next after,
      Run (editMachine rtnetlinkPlatform 0) (loadedWorld raisedLink, .empty)
        [(.set (.admstate false), 0), (.set (.group 5), 0)] (staged, changes) ∧
      ifaceApply rtnetlinkPlatform 0 { staged with kernel := servingOnly loweredLink } =
        .ok (1, next) ∧
      next.kernel.links 1 = some after ∧ Spares changes loweredLink after := by
  have loaded : Run (touchMachine rtnetlinkPlatform 0) (loadedWorld raisedLink) [] _ := .start
  have idle : Run (editMachine rtnetlinkPlatform 0) (loadedWorld raisedLink, .empty) [] _ := .start
  have edits := (idle.extend (.set (.admstate false)) 0 ⟨trivial, trivial⟩ rfl).extend
    (.set (.group 5)) 0 ⟨trivial, trivial⟩ rfl
  have accepting : ((servingOnly loweredLink).moments 0).refusal = none := rfl
  obtain ⟨after, held, spares⟩ :=
    apply_spares_unchanged_iff rfl rfl loaded rfl edits accepting rfl rfl rfl
  exact ⟨_, _, _, after, edits, rfl, held, spares.mpr (.inl (by decide))⟩

/-- A staged group number alone puts the cached admin state back. -/
theorem group_alone_raises_link :
    ∃ staged changes next after,
      Run (editMachine rtnetlinkPlatform 0) (loadedWorld raisedLink, .empty)
        [(.refresh loweredLink, 0), (.set (.group 5), 0)] (staged, changes) ∧
      ifaceApply rtnetlinkPlatform 0 { staged with kernel := servingOnly loweredLink } =
        .ok (1, next) ∧
      next.kernel.links 1 = some after ∧ changes.flags = 0 ∧
      loweredLink.ifiFlags &&& IFF_UP = 0 ∧ after.ifiFlags &&& IFF_UP = IFF_UP ∧
      ¬ Spares changes loweredLink after := by
  have idle : Run (editMachine rtnetlinkPlatform 0) (loadedWorld raisedLink, .empty) [] _ := .start
  have edits := (idle.extend (.refresh loweredLink) 0 ⟨trivial, trivial⟩ rfl).extend
    (.set (.group 5)) 0 ⟨trivial, trivial⟩ rfl
  refine ⟨_, _, _, _, edits, rfl, rfl, rfl, by decide, rfl, ?_⟩
  intro spares
  exact absurd spares.flags (by decide)

end Nlif.ApplyFrame
