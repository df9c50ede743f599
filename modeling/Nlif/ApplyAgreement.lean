import Nlif.LabelledRun
import Nlif.RtnetlinkModel
import Nlif.StoreRehash

/-!
# Cache and kernel around `nlif_iface_apply()`

One interface and the link behind it, edited by setters, refreshed by
notifications and applied. `Mirrored` says how far the cached values may be from
the link's: only by what a dirty bit stands for.
-/

namespace Nlif.ApplyAgreement

open LinkModel IfaceModel FaultWalk StoreModel GateModel GateSpec FlagWord RtnetlinkModel
  LabelledRun

set_option autoImplicit false

/-- The request `nlif_iface_apply()` sends, where the alias is readable. -/
def requestOf (interface : Iface) : SetlinkReq where
  ifiIndex := interface.idx
  ifiFlags := interface.flags
  ifiChange := interface.dirtyFlags
  group := if .group ∈ interface.dirtyFields then some interface.group else none
  ifname := if .name ∈ interface.dirtyFields then some interface.name else none
  ifalias :=
    if .ifalias ∈ interface.dirtyFields then some (interface.ifalias.map HeapStr.text) else none
  mtu := if .mtu ∈ interface.dirtyFields then some interface.mtu else none
  address := if .hwadr ∈ interface.dirtyFields then some interface.hwadr else none

theorem setlink_alias_ok {pointer : Option HeapStr} {text : Option CString}
    (readable : setlinkAlias pointer = .ok text) : text = pointer.map HeapStr.text := by
  cases pointer with
  | none =>
      cases readable
      rfl
  | some pointer =>
      obtain ⟨current, read, rfl⟩ := (map_ok_iff ..).mp readable
      obtain ⟨_, rfl⟩ := (HeapStr.read_ok_iff ..).mp read
      rfl

theorem iface_setlink_req_ok {interface : Iface} {request : SetlinkReq}
    (built : ifaceSetlinkReq interface = .ok request) : request = requestOf interface := by
  by_cases dirty : .ifalias ∈ interface.dirtyFields
  · simp only [ifaceSetlinkReq, dirty, if_true, bind_ok_iff, map_ok_iff] at built
    obtain ⟨_, ⟨text, readable, rfl⟩, built⟩ := built
    have held := setlink_alias_ok readable
    cases built
    simp only [requestOf, dirty, if_true, held]
  · simp only [ifaceSetlinkReq, dirty, if_false, ok_bind, Except.ok.injEq] at built
    simp only [← built, requestOf, dirty, if_false]

/-- The settings of the link are the cached ones. -/
structure Agrees (interface : Iface) (link : GetlinkRsp) : Prop where
  group : link.group.getD 0 = interface.group
  name : link.ifname = interface.name
  ifalias : link.heldAlias = interface.ifalias.map HeapStr.text
  mtu : link.mtu.getD 0 = interface.mtu
  hwadr : link.etherAddress = interface.hwadr
  flags : AgreeOn (~~~IFF_VOLATILE) link.ifiFlags interface.flags

/-- Every setting that differs from the link's is marked dirty. -/
structure Mirrored (interface : Iface) (link : GetlinkRsp) : Prop where
  valid : interface.state ≠ .invalid
  clean : interface.state = .clean → interface.dirtyFields = ∅ ∧ interface.dirtyFlags = 0
  text : ∀ pointer, interface.ifalias = some pointer → pointer.text.length ≠ 0
  group : .group ∈ interface.dirtyFields ∨ link.group.getD 0 = interface.group
  name : .name ∈ interface.dirtyFields ∨ link.ifname = interface.name
  ifalias : .ifalias ∈ interface.dirtyFields ∨
    link.heldAlias = interface.ifalias.map HeapStr.text
  mtu : .mtu ∈ interface.dirtyFields ∨ link.mtu.getD 0 = interface.mtu
  hwadr : .hwadr ∈ interface.dirtyFields ∨ link.etherAddress = interface.hwadr
  flags : AgreeOn (~~~IFF_VOLATILE &&& ~~~interface.dirtyFlags) link.ifiFlags interface.flags

theorem mirrored_fill (link : GetlinkRsp) : Mirrored (ifaceFill link) link where
  valid := by simp [ifaceFill]
  clean _ := ⟨rfl, rfl⟩
  text pointer present := by
    obtain ⟨text, held, rfl⟩ := Option.map_eq_some_iff.mp present
    simpa [dupStr] using (Option.filter_eq_some_iff.mp held).2
  group := .inr rfl
  name := .inr rfl
  ifalias := .inr (by simp [ifaceFill, Option.map_map, Function.comp_def, dupStr])
  mtu := .inr rfl
  hwadr := .inr rfl
  flags := agree_on_refl ..

theorem Mirrored.agrees {interface : Iface} {link : GetlinkRsp} (mirrored : Mirrored interface link)
    (clean : interface.state = .clean) : Agrees interface link := by
  obtain ⟨noField, noFlag⟩ := mirrored.clean clean
  have untouched : ∀ field, field ∉ interface.dirtyFields := by simp [noField]
  refine ⟨mirrored.group.resolve_left (untouched _), mirrored.name.resolve_left (untouched _),
    mirrored.ifalias.resolve_left (untouched _), mirrored.mtu.resolve_left (untouched _),
    mirrored.hwadr.resolve_left (untouched _), ?_⟩
  have flags := mirrored.flags
  rw [noFlag] at flags
  exact (agree_outside_zero_iff ..).mp flags

theorem Agrees.mirrored {interface : Iface} {link : GetlinkRsp} (agrees : Agrees interface link)
    (clean : interface.state = .clean) (noField : interface.dirtyFields = ∅)
    (noFlag : interface.dirtyFlags = 0)
    (text : ∀ pointer, interface.ifalias = some pointer → pointer.text.length ≠ 0) :
    Mirrored interface link where
  valid := by simp [clean]
  clean _ := ⟨noField, noFlag⟩
  text := text
  group := .inr agrees.group
  name := .inr agrees.name
  ifalias := .inr agrees.ifalias
  mtu := .inr agrees.mtu
  hwadr := .inr agrees.hwadr
  flags := by
    rw [noFlag]
    exact (agree_outside_zero_iff ..).mpr agrees.flags

theorem Mirrored.drift {interface : Iface} {link : GetlinkRsp} (mirrored : Mirrored interface link)
    (index : UInt32) (operational : Operational) :
    Mirrored interface (drifted index operational link) where
  valid := mirrored.valid
  clean := mirrored.clean
  text := mirrored.text
  group := mirrored.group
  name := mirrored.name
  ifalias := mirrored.ifalias
  mtu := mirrored.mtu
  hwadr := mirrored.hwadr
  flags := by
    exact ((drifted_flags index operational link).restrict _).trans mirrored.flags

theorem Mirrored.refresh {interface : Iface} {link : GetlinkRsp}
    (mirrored : Mirrored interface link) (reported : GetlinkRsp) :
    Mirrored (ifaceRefreshState interface reported).2 link where
  valid := mirrored.valid
  clean := mirrored.clean
  text := mirrored.text
  group := mirrored.group
  name := mirrored.name
  ifalias := mirrored.ifalias
  mtu := mirrored.mtu
  hwadr := mirrored.hwadr
  flags := by
    refine mirrored.flags.trans ?_
    simp only [ifaceRefreshState]
    split
    · have kept : AgreeOn (~~~IFF_VOLATILE)
          (merge IFF_VOLATILE interface.flags reported.ifiFlags) interface.flags := merge_keeps ..
      exact (kept.restrict _).symm
    · exact agree_on_refl ..

theorem Mirrored.edit {interface : Iface} {link : GetlinkRsp} (mirrored : Mirrored interface link)
    {setter : Setter} (argument : setter.Valid) : Mirrored (edited interface setter) link := by
  obtain ⟨valid, clean, text, group, name, ifalias, mtu, hwadr, flags⟩ := mirrored
  cases setter with
  | name value =>
      exact ⟨by simp [edited], by simp [edited], text, by simpa [edited] using group,
        .inl (by simp [edited]), by simpa [edited] using ifalias, by simpa [edited] using mtu,
        by simpa [edited] using hwadr, flags⟩
  | ifalias value =>
      refine ⟨by simp [edited], by simp [edited], ?_, by simpa [edited] using group,
        by simpa [edited] using name, .inl (by simp [edited]), by simpa [edited] using mtu,
        by simpa [edited] using hwadr, flags⟩
      intro pointer present
      obtain ⟨held, rfl, rfl⟩ := Option.map_eq_some_iff.mp present
      have checked : linkValidateAlias (some held) ≥ 0 := argument
      simp only [linkValidateAlias, CString.strnlen, ENODATA, ENAMETOOLONG] at checked
      rintro empty
      have none_ : held.length = 0 := empty
      simp [none_] at checked
  | group value =>
      exact ⟨by simp [edited], by simp [edited], text, .inl (by simp [edited]),
        by simpa [edited] using name, by simpa [edited] using ifalias, by simpa [edited] using mtu,
        by simpa [edited] using hwadr, flags⟩
  | admstate up =>
      refine ⟨by simp [edited], by simp [edited], text, group, name, ifalias, mtu, hwadr, ?_⟩
      -- outside the masks the staged word is still the old one
      have upMask : admstateMask up = admstateMask up &&& IFF_UP := by cases up <;> decide
      have same : (edited interface (.admstate up)).flags =
          merge IFF_UP interface.flags (admstateMask up) := by
        simp only [edited, merge]
        rw [← upMask]
      rw [same]
      refine (flags.mono ?_).trans
        ((merge_keeps IFF_UP interface.flags (admstateMask up)).mono ?_).symm
      · ext i bound
        simp [edited]
        grind
      · ext i bound
        simp [edited]
  | mtu value =>
      exact ⟨by simp [edited], by simp [edited], text, by simpa [edited] using group,
        by simpa [edited] using name, by simpa [edited] using ifalias, .inl (by simp [edited]),
        by simpa [edited] using hwadr, flags⟩
  | hwaddr value =>
      exact ⟨by simp [edited], by simp [edited], text, by simpa [edited] using group,
        by simpa [edited] using name, by simpa [edited] using ifalias,
        by simpa [edited] using mtu, .inl (by simp [edited]), flags⟩

theorem ether_address_toList (address : EtherAddr) (link : GetlinkRsp)
    (same : link.address = address.toList) : link.etherAddress = address := by
  unfold GetlinkRsp.etherAddress
  ext octet bound
  simp [same, List.getD_eq_getElem?_getD]

theorem set_link_agrees {interface : Iface} {link : GetlinkRsp}
    (mirrored : Mirrored interface link) :
    Agrees interface (setLink (requestOf interface) link) where
  group := by
    by_cases dirty : IfaceField.group ∈ interface.dirtyFields
    · simp [setLink, requestOf, dirty]
    · simpa [setLink, requestOf, dirty] using mirrored.group.resolve_left dirty
  name := by
    by_cases dirty : IfaceField.name ∈ interface.dirtyFields
    · simp [setLink, requestOf, dirty]
    · simpa [setLink, requestOf, dirty] using mirrored.name.resolve_left dirty
  ifalias := by
    by_cases dirty : IfaceField.ifalias ∈ interface.dirtyFields
    · rcases held : interface.ifalias with _ | pointer
      · simp [setLink, requestOf, dirty, held, GetlinkRsp.heldAlias]
      · simp [setLink, requestOf, dirty, held, GetlinkRsp.heldAlias, mirrored.text pointer held]
    · simpa [setLink, requestOf, dirty, GetlinkRsp.heldAlias] using
        mirrored.ifalias.resolve_left dirty
  mtu := by
    by_cases dirty : IfaceField.mtu ∈ interface.dirtyFields
    · simp [setLink, requestOf, dirty]
    · simpa [setLink, requestOf, dirty] using mirrored.mtu.resolve_left dirty
  hwadr := by
    by_cases dirty : IfaceField.hwadr ∈ interface.dirtyFields
    · exact ether_address_toList interface.hwadr _ (by simp [setLink, requestOf, dirty])
    · simpa [setLink, requestOf, dirty, GetlinkRsp.etherAddress] using
        mirrored.hwadr.resolve_left dirty
  flags := combine_flags_agree mirrored.flags

section Runs

variable {NameBucket IndexBucket : Type} [DecidableEq NameBucket] [DecidableEq IndexBucket]

inductive Touch where
  | set (setter : Setter)
  | refresh (link : GetlinkRsp)
  | apply

/-- The calls on one interface. The store behind it may be subscribed or not. -/
def touchMachine (platform : Platform NameBucket IndexBucket Rtnetlink) (interface : Addr) :
    Machine (World NameBucket IndexBucket Rtnetlink) Touch Int Fault where
  admits _ touch :=
    match touch with
    | .set setter => setter.Valid
    | .refresh _ | .apply => True
  step touch world :=
    match touch with
    | .set setter => ifaceSet platform setter interface world
    | .refresh link =>
        let (changed, refreshed) := ifaceRefreshState (world.objects interface) link
        .ok (if changed then 1 else 0, world.setObject interface refreshed)
    | .apply => ifaceApply platform interface world

/-- The cached interface mirrors the kernel's link of its index. -/
def InStep (interface : Addr) (index : UInt32) (world : World NameBucket IndexBucket Rtnetlink) :
    Prop :=
  (world.objects interface).idx = index ∧
    ∃ link, world.kernel.links index = some link ∧ Mirrored (world.objects interface) link

theorem stage_mirrored {setter : Setter} {before after : Iface} {ret : Int} {link : GetlinkRsp}
    (mirrored : Mirrored before link) (argument : setter.Valid)
    (staged : stage setter before = .ok (ret, after)) : Mirrored after link := by
  rcases stage_cases staged with rfl | ⟨_, rfl, _⟩
  · exact mirrored
  · exact mirrored.edit argument

variable {platform : Platform NameBucket IndexBucket Rtnetlink} {interface : Addr}
  {index : UInt32} {world next : World NameBucket IndexBucket Rtnetlink} {ret : Int}

theorem set_in_step (inStep : InStep interface index world) {setter : Setter}
    (argument : setter.Valid)
    (done : ifaceSet platform setter interface world = .ok (ret, next)) :
    InStep interface index next := by
  obtain ⟨idx, link, present, mirrored⟩ := inStep
  obtain ⟨object, staged, rfl⟩ := iface_set_valid_ok _ _ _ mirrored.valid done
  have self : (world.setObject interface object).objects interface = object :=
    Function.update_self ..
  refine ⟨?_, link, present, ?_⟩
  · rw [self, (stage_staged staged).idx, idx]
  · rw [self]
    exact stage_mirrored mirrored argument staged

theorem refresh_step {link : GetlinkRsp}
    (stepped : (touchMachine platform interface).step (.refresh link) world = .ok (ret, next)) :
    next.objects interface = (ifaceRefreshState (world.objects interface) link).2 ∧
      next.kernel = world.kernel := by
  cases stepped
  exact ⟨Function.update_self .., rfl⟩

theorem setlink_agrees {object : Iface} {state after : Rtnetlink} {link : GetlinkRsp}
    (idx : object.idx = index) (present : state.links index = some link)
    (mirrored : Mirrored object link)
    (answer : rtnlSetlink (requestOf object) state = (none, after)) :
    ∃ changed, after.links index = some changed ∧ Agrees (settled object) changed := by
  rcases rtnl_setlink_cases answer with ⟨_, none_, _⟩ | ⟨met, _, there, changed, _⟩
  · cases none_
  · have sameIndex : (requestOf object).ifiIndex = index := idx
    rw [sameIndex] at there changed
    obtain ⟨old, stored, rfl⟩ := Option.map_eq_some_iff.mp there
    cases present.symm.trans stored
    have agrees := set_link_agrees (mirrored.drift index (state.moments 0).operational)
    exact ⟨_, changed,
      ⟨agrees.group, agrees.name, agrees.ifalias, agrees.mtu, agrees.hwadr, agrees.flags⟩⟩

theorem apply_in_step (kernel : platform.kernel = rtnetlink)
    (inStep : InStep interface index world)
    (done : ifaceApply platform interface world = .ok (ret, next)) (success : 0 ≤ ret) :
    InStep interface index next ∧ (next.objects interface).state = .clean ∧
      ∃ link, next.kernel.links index = some link ∧ Agrees (next.objects interface) link := by
  obtain ⟨idx, link, present, mirrored⟩ := inStep
  cases (iface_apply_ok_iff ..).mp done with
  | idle notDirty =>
      have clean : (world.objects interface).state = .clean := by
        have valid := mirrored.valid
        rcases state : (world.objects interface).state with _ | _ | _
        · exact absurd state valid
        · rfl
        · exact absurd state notDirty
      exact ⟨⟨idx, link, present, mirrored⟩, clean, link, present, mirrored.agrees clean⟩
  | @refused request after error dirty built asked =>
      have negative := ynl_err_negative error
      omega
  | @clashed request after ret middle dirty built asked notified failed =>
      have negative := gate_notify_modify_ret _ _ _ notified failed
      omega
  | @applied request after middle dirty built asked notified =>
      have sentRequest := iface_setlink_req_ok built
      subst sentRequest
      obtain ⟨sameObjects, sameKernel, _⟩ := gate_notify_modify_frame _ _ _ notified
      have answer : rtnlSetlink (requestOf (world.objects interface)) world.kernel =
          (none, after) := by
        rw [kernel] at asked
        exact asked
      obtain ⟨changed, held, agrees⟩ := setlink_agrees idx present mirrored answer
      have self : (middle.setObject interface (settled (middle.objects interface))).objects
          interface = settled (world.objects interface) := by
        rw [sameObjects]
        exact Function.update_self ..
      have heldAfter : (middle.setObject interface
          (settled (middle.objects interface))).kernel.links index = some changed := by
        simp only [World.setObject, sameKernel]
        exact held
      refine ⟨⟨?_, _, heldAfter, ?_⟩, ?_, _, heldAfter, ?_⟩
      · rw [self]
        exact idx
      · rw [self]
        exact agrees.mirrored rfl rfl rfl mirrored.text
      · rw [self]
        rfl
      · rw [self]
        exact agrees

/-- From an interface loaded from its link, over any completed setters, refreshes
and successful applies: each apply leaves the cache clean and the kernel with it. -/
theorem applied_cache_agrees (kernel : platform.kernel = rtnetlink)
    {start : World NameBucket IndexBucket Rtnetlink} {loaded : GetlinkRsp}
    (cached : start.objects interface = ifaceFill loaded)
    (present : start.kernel.links loaded.ifiIndex = some loaded)
    {log : List (Touch × Int)}
    (run : Run (touchMachine platform interface) start log world)
    (successes : ∀ entry ∈ log, entry.1 = .apply → 0 ≤ entry.2)
    (done : ifaceApply platform interface world = .ok (ret, next)) (success : 0 ≤ ret) :
    (next.objects interface).state = .clean ∧
      ∃ link, next.kernel.links loaded.ifiIndex = some link ∧
        Agrees (next.objects interface) link := by
  have initial : InStep interface loaded.ifiIndex start := by
    refine ⟨?_, loaded, present, ?_⟩
    · rw [cached]
      rfl
    · rw [cached]
      exact mirrored_fill loaded
  have inStep : InStep interface loaded.ifiIndex world := by
    refine run_invariant_of_returns (fun touch ret => touch = .apply → 0 ≤ ret)
      (InStep interface loaded.ifiIndex) initial ?_ run successes
    intro state touch ret after inStep admitted stepped allowed
    cases touch with
    | set setter => exact set_in_step inStep admitted stepped
    | refresh link =>
        obtain ⟨idx, held, there, mirrored⟩ := inStep
        obtain ⟨self, kept⟩ := refresh_step stepped
        refine ⟨?_, held, ?_, ?_⟩
        · rw [self]
          exact idx
        · rw [kept, there]
        · rw [self]
          exact mirrored.refresh link
    | apply => exact (apply_in_step kernel inStep stepped (allowed rfl)).1
  exact (apply_in_step kernel inStep done success).2

end Runs

/-- A change of the MTU and one of the admin state, applied together. -/
theorem mtu_and_admstate_applied :
    ∃ world next : CodeWorld Rtnetlink,
      Run (touchMachine rtnetlinkPlatform 0) (loadedWorld (bareLink 1 nameA none))
        [(.set (.mtu 1400), 0), (.set (.admstate true), 0)] world ∧
      ifaceApply rtnetlinkPlatform 0 world = .ok (1, next) ∧
      (next.objects 0).mtu = 1400 ∧ (next.objects 0).state = .clean ∧
      ∃ link, next.kernel.links 1 = some link ∧ Agrees (next.objects 0) link := by
  have loaded : Run (touchMachine rtnetlinkPlatform 0)
    (loadedWorld (bareLink 1 nameA none)) [] _ := .start
  have run := (loaded.extend (.set (.mtu 1400)) 0 trivial rfl).extend
    (.set (.admstate true)) 0 trivial rfl
  have agrees := applied_cache_agrees rfl rfl rfl run (by simp) rfl (by decide)
  exact ⟨_, _, run, rfl, rfl, agrees⟩

end Nlif.ApplyAgreement
