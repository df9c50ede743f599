import Nlif.DaemonFrame
import Nlif.RtnetlinkModel

/-!
# What the daemon can change in the kernel

An rtnetlink kernel whose links are always well formed, because it refuses the settings
that would make one malformed. Under the daemon the links of such a kernel change in
nothing but what moves by itself and the admin state of enrolled interfaces, and that
state is the one of the last request the kernel accepted.
-/

namespace Nlif.DaemonConfinement

open LinkModel IfaceModel StoreModel GateModel FlagWord RtnetlinkModel LabelledRun DaemonModel
  DaemonRun DaemonCalls DaemonFrame
open LibraryRun (Enrolled KernelReports Reported)

set_option autoImplicit false

instance (rsp : GetlinkRsp) : Decidable (LinkAssert rsp) :=
  decidable_of_iff
    ((rsp.ifiIndex ≠ 0 ∧ rsp.operstate.isSome ∧ rsp.linkmode.isSome ∧ rsp.carrier.isSome ∧
        rsp.group.isSome ∧ rsp.ifname.length ≠ 0) ∧
      (linkValidateName rsp.ifname = rsp.ifname.length ∧
        linkValidateAlias rsp.ifalias = rsp.ifaliasLen ∧
        rsp.link ≠ some 0 ∧ rsp.master ≠ some 0) ∧
      (rsp.mtu.isSome ∧ rsp.minMtu.isSome ∧ rsp.maxMtu.isSome ∧
        (rsp.minMtu.getD 0 = 0 ∨ rsp.mtu.getD 0 ≥ rsp.minMtu.getD 0) ∧
        (rsp.maxMtu.getD 0 = 0 ∨ rsp.mtu.getD 0 ≤ rsp.maxMtu.getD 0)) ∧
      rsp.address.length = 6 ∧ linkHwaddrIsUcast rsp.etherAddress = true)
    ⟨fun ⟨⟨index, operstate, linkmode, carrier, group, ifnameLen⟩,
        ⟨ifname, ifalias, lower, master⟩, ⟨mtu, minMtu, maxMtu, aboveMin, belowMax⟩,
        address, unicast⟩ =>
      { index, operstate, linkmode, carrier, group, ifnameLen, ifname, ifalias, lower, master,
        mtu, minMtu, maxMtu, aboveMin, belowMax, address, unicast },
    fun asserted =>
      ⟨⟨asserted.index, asserted.operstate, asserted.linkmode, asserted.carrier, asserted.group,
        asserted.ifnameLen⟩, ⟨asserted.ifname, asserted.ifalias, asserted.lower,
        asserted.master⟩, ⟨asserted.mtu, asserted.minMtu, asserted.maxMtu, asserted.aboveMin,
        asserted.belowMax⟩, asserted.address, asserted.unicast⟩⟩

instance (link : GetlinkRsp) : Decidable (Reported link) :=
  decidable_of_iff (LinkAssert link ∧ linkValidateIndex link.ifiIndex = 0)
    ⟨fun valid => ⟨valid.1, valid.2⟩, fun reported => ⟨reported.asserted, reported.index⟩⟩

def WellFormed (links : UInt32 → Option GetlinkRsp) : Prop :=
  ∀ index link, links index = some link → link.ifiIndex = index ∧ Reported link

structure Netdevs where
  rtnl : Rtnetlink
  wellFormed : WellFormed rtnl.links

theorem reported_drifted {index : UInt32} {link : GetlinkRsp} (same : link.ifiIndex = index)
    (reported : Reported link) (operational : Operational) :
    Reported (drifted index operational link) := by
  subst same
  obtain ⟨asserted, valid⟩ := reported
  exact
    { asserted := { asserted with operstate := rfl, linkmode := rfl }
      index := valid }

theorem current_reported (devices : Netdevs) {index : UInt32} {link : GetlinkRsp}
    (met : current devices.rtnl index = some link) : link.ifiIndex = index ∧ Reported link := by
  obtain ⟨held, present, rfl⟩ := Option.map_eq_some_iff.mp met
  obtain ⟨same, reported⟩ := devices.wellFormed index held present
  exact ⟨rfl, reported_drifted same reported _⟩

theorem elapsed_well_formed (devices : Netdevs) (index : UInt32) :
    WellFormed (elapsed devices.rtnl index).links := by
  intro other link present
  by_cases same : other = index
  · subst same
    rw [setlink_elapsed_links] at present
    exact current_reported devices present
  · rw [elapsed_other devices.rtnl same] at present
    exact devices.wellFormed other link present

theorem getlink_well_formed {devices : Netdevs} {index : UInt32} {next : Rtnetlink}
    {answer : Except YnlError GetlinkRsp}
    (asked : rtnlGetlink index devices.rtnl = (answer, next)) : WellFormed next.links := by
  rw [(rtnl_getlink_cases asked).1]
  exact elapsed_well_formed devices index

def netdevGetlink (index : UInt32) (devices : Netdevs) : Except YnlError GetlinkRsp × Netdevs :=
  ((rtnlGetlink index devices.rtnl).1,
    ⟨(rtnlGetlink index devices.rtnl).2, getlink_well_formed (Prod.eta _).symm⟩)

def Settable (request : SetlinkReq) (link : GetlinkRsp) : Bool :=
  decide (Reported (setLink request link))

def invalidArgument : YnlError := ⟨22, by decide⟩

theorem setlink_well_formed {devices : Netdevs} {request : SetlinkReq} {next : Rtnetlink}
    {answer : Option YnlError}
    (settable : (current devices.rtnl request.ifiIndex).all (Settable request) = true)
    (asked : rtnlSetlink request devices.rtnl = (answer, next)) : WellFormed next.links := by
  intro other link present
  cases rtnl_setlink_cases asked with
  | inl refused =>
      obtain ⟨_, _, rfl⟩ := refused
      exact elapsed_well_formed devices _ other link present
  | inr accepted =>
      obtain ⟨met, _, here, changed, elsewhere⟩ := accepted
      by_cases same : other = request.ifiIndex
      · subst same
        cases changed.symm.trans present
        rw [here] at settable
        exact ⟨(current_reported devices here).1, by simpa [Settable] using settable⟩
      · rw [elsewhere other same] at present
        exact devices.wellFormed other link present

def netdevSetlink (request : SetlinkReq) (devices : Netdevs) : Option YnlError × Netdevs :=
  if settable : (current devices.rtnl request.ifiIndex).all (Settable request) = true then
    ((rtnlSetlink request devices.rtnl).1,
      ⟨(rtnlSetlink request devices.rtnl).2, setlink_well_formed settable (Prod.eta _).symm⟩)
  else
    (some invalidArgument,
      ⟨elapsed devices.rtnl request.ifiIndex, elapsed_well_formed devices request.ifiIndex⟩)

theorem rtnl_dump_links (state : Rtnetlink) : (rtnlDump state).2.links = state.links := by
  simp only [rtnlDump]
  split <;> rfl

def netdevDump (devices : Netdevs) : Except YnlError (List GetlinkRsp) × Netdevs :=
  ((rtnlDump devices.rtnl).1,
    { rtnl := (rtnlDump devices.rtnl).2
      wellFormed := by
        rw [rtnl_dump_links]
        exact devices.wellFormed })

def netdevKernel : Kernel Netdevs where
  getlink := netdevGetlink
  setlink := netdevSetlink
  dump := netdevDump

theorem netdev_kernel_reports : KernelReports netdevKernel where
  getlink index devices link next asked := by
    have given := congrArg Prod.fst asked
    cases (rtnl_getlink_cases (Prod.eta (rtnlGetlink index devices.rtnl)).symm).2 with
    | inl refused =>
        obtain ⟨error, refused⟩ := refused
        cases refused.symm.trans given
    | inr answered =>
        obtain ⟨met, answered, here⟩ := answered
        cases answered.symm.trans given
        exact current_reported devices here
  dump devices links next asked := by
    have given : (rtnlDump devices.rtnl).1 = .ok links := congrArg Prod.fst asked
    simp only [rtnlDump] at given
    split at given
    · cases given
    · cases given
      intro link member
      obtain ⟨index, _, here⟩ := List.mem_filterMap.mp member
      exact (current_reported devices here).2

/-- The same link but for what moves by itself and its admin state. -/
structure Spared (before after : GetlinkRsp) : Prop where
  flags : AgreeOn (~~~(IFF_VOLATILE ||| IFF_UP)) after.ifiFlags before.ifiFlags
  rest : after = { before with
    ifiFlags := after.ifiFlags, operstate := after.operstate, linkmode := after.linkmode }

theorem spared_refl (link : GetlinkRsp) : Spared link link := ⟨rfl, rfl⟩

theorem Spared.trans {first second third : GetlinkRsp} (left : Spared first second)
    (right : Spared second third) : Spared first third where
  flags := right.flags.trans left.flags
  rest := by
    rw [right.rest, left.rest]

theorem spared_drifted {index : UInt32} {link : GetlinkRsp} (same : link.ifiIndex = index)
    (operational : Operational) : Spared link (drifted index operational link) := by
  subst same
  refine ⟨(drifted_flags _ operational link).mono ?_, rfl⟩
  decide

theorem spared_set (index : UInt32) (flags : BitVec 32) (link : GetlinkRsp) :
    Spared link (setLink (adminRequest index flags) link) := by
  refine ⟨?_, rfl⟩
  have spares : AgreeOn (~~~IFF_UP) (combineFlags link.ifiFlags flags IFF_UP) link.ifiFlags :=
    (combine_flags_spares_iff ..).mpr (.inl (by decide))
  apply spares.mono
  decide

def acceptedUp (index : UInt32) : Event → Option Bool
  | .setlink request ret =>
      if request.ifiIndex = index ∧ ret = 0 then some (adminUp request.ifiFlags) else none
  | .getlink _ _ | .notified _ _ _ | .called _ _ _ => none

def lastAccepted (index : UInt32) (trace : List Event) : Option Bool :=
  trace.findSome? (acceptedUp index)

theorem last_accepted_cons (index : UInt32) (event : Event) (earlier : List Event) :
    lastAccepted index (event :: earlier) =
      (acceptedUp index event).or (lastAccepted index earlier) := by
  unfold lastAccepted
  rw [List.findSome?_cons]
  cases acceptedUp index event <;> rfl

theorem last_accepted_asked (index : UInt32) (trace : List Event) :
    lastAccepted index (asked trace) = lastAccepted index trace := by
  induction trace with
  | nil => rfl
  | cons event earlier ih =>
      cases event with
      | getlink | setlink =>
          rw [asked_cons rfl, last_accepted_cons, last_accepted_cons, ih]
      | notified | called =>
          rw [asked_silent rfl, last_accepted_cons, ih]
          rfl

/-- What the links have become of those at the start. -/
structure Governed (member : UInt32 → Prop) (first : UInt32 → Option GetlinkRsp)
    (requests : List Event) (links : UInt32 → Option GetlinkRsp) : Prop where
  elsewhere : ∀ index, ¬ member index → links index = first index
  absent : ∀ index, first index = none → links index = none
  present : ∀ index link, first index = some link → ∃ after, links index = some after ∧
    Spared link after ∧
    adminUp after.ifiFlags = (lastAccepted index requests).getD (adminUp link.ifiFlags)

theorem governed_refl (member : UInt32 → Prop) (first : UInt32 → Option GetlinkRsp) :
    Governed member first [] first where
  elsewhere _ _ := rfl
  absent _ none := none
  present _ link present := ⟨link, present, spared_refl link, rfl⟩

theorem Governed.turn {member : UInt32 → Prop} {first links next : UInt32 → Option GetlinkRsp}
    {requests : List Event} {event : Event} {index : UInt32}
    (governed : Governed member first requests links) (enrolled : member index)
    (others : ∀ other, other ≠ index → next other = links other ∧ acceptedUp other event = none)
    (gone : links index = none → next index = none)
    (kept : ∀ link, links index = some link → ∃ after, next index = some after ∧
      Spared link after ∧
      adminUp after.ifiFlags = (acceptedUp index event).getD (adminUp link.ifiFlags)) :
    Governed member first (event :: requests) next where
  elsewhere other stranger := by
    have different : other ≠ index := fun same => stranger (same ▸ enrolled)
    rw [(others other different).1]
    exact governed.elsewhere other stranger
  absent other none := by
    have before := governed.absent other none
    by_cases same : other = index
    · exact same ▸ gone (same ▸ before)
    · rw [(others other same).1]
      exact before
  present other link there := by
    obtain ⟨before, held, spared, up⟩ := governed.present other link there
    rw [last_accepted_cons]
    by_cases same : other = index
    · subst same
      obtain ⟨after, changed, sparedToo, upToo⟩ := kept before held
      refine ⟨after, changed, spared.trans sparedToo, ?_⟩
      rw [upToo, up]
      cases acceptedUp other event <;> rfl
    · obtain ⟨unchanged, unheard⟩ := others other same
      rw [unchanged, unheard]
      exact ⟨before, held, spared, up⟩

theorem elapsed_governed {member : UInt32 → Prop} {first : UInt32 → Option GetlinkRsp}
    {requests : List Event} {event : Event} {index : UInt32} {devices : Netdevs}
    (governed : Governed member first requests devices.rtnl.links) (enrolled : member index)
    (unheard : ∀ other, acceptedUp other event = none) :
    Governed member first (event :: requests) (elapsed devices.rtnl index).links := by
  refine governed.turn enrolled ?_ ?_ ?_
  · exact fun other different => ⟨elapsed_other devices.rtnl different, unheard other⟩
  · intro none
    rw [setlink_elapsed_links, current, none]
    rfl
  · intro link held
    refine ⟨drifted index (devices.rtnl.moments 0).operational link, ?_, ?_, ?_⟩
    · rw [setlink_elapsed_links, current, held]
      rfl
    · exact spared_drifted (devices.wellFormed index link held).1 _
    · rw [unheard index]
      exact drifted_up ..

theorem refused_unheard (request : SetlinkReq) (error : YnlError) (index : UInt32) :
    acceptedUp index (.setlink request (ynlErr error)) = none := by
  have negative := ynl_err_negative error
  have failed : ynlErr error ≠ 0 := by omega
  simp [acceptedUp, failed]

theorem netdev_setlink_cases {request : SetlinkReq} {devices next : Netdevs}
    {answer : Option YnlError} (asked : netdevSetlink request devices = (answer, next)) :
    (∃ error, answer = some error ∧ next.rtnl = elapsed devices.rtnl request.ifiIndex) ∨
      rtnlSetlink request devices.rtnl = (answer, next.rtnl) := by
  unfold netdevSetlink at asked
  split at asked
  · cases asked
    exact .inr rfl
  · cases asked
    exact .inl ⟨_, rfl, rfl⟩

theorem setlink_governed {member : UInt32 → Prop} {first : UInt32 → Option GetlinkRsp}
    {requests : List Event} {index : UInt32} {flags : BitVec 32} {devices next : Netdevs}
    {answer : Option YnlError}
    (governed : Governed member first requests devices.rtnl.links) (enrolled : member index)
    (asked : netdevSetlink (adminRequest index flags) devices = (answer, next)) :
    Governed member first (.setlink (adminRequest index flags) (setlinkRet answer) :: requests)
      next.rtnl.links := by
  have refused : ∀ error, answer = some error →
      next.rtnl = elapsed devices.rtnl index →
      Governed member first (.setlink (adminRequest index flags) (setlinkRet answer) :: requests)
        next.rtnl.links := by
    rintro error rfl same
    rw [same]
    exact elapsed_governed governed enrolled (refused_unheard _ error)
  cases netdev_setlink_cases asked with
  | inl invalid =>
      obtain ⟨error, answered, same⟩ := invalid
      exact refused error answered same
  | inr asked =>
      cases rtnl_setlink_cases asked with
      | inl unaccepted =>
          obtain ⟨error, answered, same⟩ := unaccepted
          exact refused error answered same
      | inr accepted =>
          obtain ⟨met, rfl, here, changed, elsewhere⟩ := accepted
          obtain ⟨held, present, rfl⟩ := Option.map_eq_some_iff.mp here
          refine governed.turn enrolled ?_ ?_ ?_
          · intro other different
            refine ⟨elsewhere other different, ?_⟩
            have stranger : ¬ (adminRequest index flags).ifiIndex = other :=
              fun same => different same.symm
            simp [acceptedUp, stranger]
          · intro none
            cases none.symm.trans present
          · intro link same
            cases present.symm.trans same
            refine ⟨_, changed, ?_, ?_⟩
            · exact (spared_drifted (devices.wellFormed index held present).1 _).trans
                (spared_set index flags _)
            · have up : acceptedUp index (.setlink (adminRequest index flags) 0) =
                  some (adminUp flags) := if_pos ⟨rfl, rfl⟩
              rw [setlinkRet, up]
              exact combine_up ..

theorem governed_history (member : UInt32 → Prop) (first : UInt32 → Option GetlinkRsp) :
    History netdevKernel member fun requests devices =>
      Governed member first requests devices.rtnl.links where
  getlink := by
    intro index ret requests devices enrolled governed
    have next : (netdevKernel.getlink index devices).2.rtnl = elapsed devices.rtnl index :=
      (rtnl_getlink_cases (Prod.eta (rtnlGetlink index devices.rtnl)).symm).1
    rw [next]
    exact elapsed_governed governed enrolled fun _ => rfl
  setlink enrolled governed asked := setlink_governed governed enrolled asked

section Daemon

variable {NameBucket IndexBucket : Type} [DecidableEq NameBucket] [DecidableEq IndexBucket]

def netdevPlatform (hash : Hashing NameBucket IndexBucket) :
    Platform NameBucket IndexBucket Netdevs :=
  ⟨hash, netdevKernel⟩

/-- In every run of the daemon the links of interfaces it has not loaded stay as they were.
Those of the others keep everything but what moves by itself and their admin state, which
is the one of the last set-link request the kernel accepted, if it accepted any. -/
theorem daemon_governs_admin_states {hash : Hashing NameBucket IndexBucket} {sysrepo : Sysrepo}
    {objects : Objects} {devices : Netdevs} {start world : World NameBucket IndexBucket Netdevs}
    (opened : nlifdOpen (netdevPlatform hash) objects devices = .ok (0, start))
    {log : List (DaemonOp × DaemonRet)}
    (run : Run (daemonMachine sysrepo (netdevPlatform hash)) start log world) :
    Governed (Indexes start) start.kernel.rtnl.links world.trace world.kernel.rtnl.links := by
  have framed := daemon_run_framed netdev_kernel_reports opened
    (governed_history (Indexes start) start.kernel.rtnl.links) (governed_refl ..) run
  have governed := framed.history
  refine ⟨governed.elsewhere, governed.absent, fun index link there => ?_⟩
  obtain ⟨after, held, spared, up⟩ := governed.present index link there
  rw [last_accepted_asked] at up
  exact ⟨after, held, spared, up⟩

end Daemon

/-- The links "a", and "b" which appeared after the dump. -/
def twoDevices : Netdevs where
  rtnl := { servingOnly LibraryRun.oneLink with
    links := fun index =>
      if index = 1 then some LibraryRun.oneLink
      else if index = 2 then some (bareLink 2 nameB none)
      else none }
  wellFormed := by
    intro index link present
    simp only at present
    split at present
    · rename_i first
      cases present
      exact ⟨first.symm, LibraryRun.one_link_reported⟩
    · split at present
      · rename_i second
        cases present
        exact ⟨second.symm, by decide⟩
      · cases present

def twoDevicesOpened : CodeWorld Netdevs :=
  match nlifdOpen (netdevPlatform djb2Hashing) (fun _ => ifaceFill LibraryRun.oneLink)
    twoDevices with
  | .ok (_, world) => world
  | .error _ => LibraryRun.storeInit (fun _ => ifaceFill LibraryRun.oneLink) twoDevices

/-- A transaction enables the link "a". -/
theorem enabled_device_governed :
    ∃ world, Run (daemonMachine agreeingSysrepo (netdevPlatform djb2Hashing)) twoDevicesOpened
        [(.change .change [enableLink], .sr .ok)] world ∧
      lastAccepted 1 world.trace = some true ∧
      Governed (Indexes twoDevicesOpened) twoDevicesOpened.kernel.rtnl.links world.trace
        world.kernel.rtnl.links := by
  have opened : nlifdOpen (netdevPlatform djb2Hashing) (fun _ => ifaceFill LibraryRun.oneLink)
      twoDevices = .ok (0, twoDevicesOpened) := rfl
  have run := (Run.start : Run (daemonMachine agreeingSysrepo (netdevPlatform djb2Hashing))
    twoDevicesOpened [] _).extend (.change .change [enableLink]) (.sr .ok) trivial rfl
  exact ⟨_, run, by decide, daemon_governs_admin_states opened run⟩

end Nlif.DaemonConfinement
