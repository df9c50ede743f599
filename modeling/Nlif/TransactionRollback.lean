import Nlif.AdmstateView

/-!
# Rolling back a transaction over admin states

When the kernel refuses an interface halfway through the apply loop, the
interfaces before it are applied, it is `INVALID`, and those after it are still
staged. The restore handlers stage the old admin state again and the abort loop
applies it: each interface ends as it began unless the kernel refuses one of its
own requests.
-/

namespace Nlif.TransactionRollback

open LinkModel IfaceModel FaultWalk FaultLoop FlagWord BucketTable StoreModel GateModel GateSpec
  StoreInvariant LibraryRun RtnetlinkModel ApplyAgreement DaemonModel DaemonSpec DaemonStaging
  DaemonRun TransactionFrame AdmstateView

set_option autoImplicit false

variable {NameBucket IndexBucket : Type}

/-- The value of a changed 'enabled' leaf before, its default where it is created. -/
def OldValue (sysrepo : Sysrepo) (change : LeafChange) (value : Bool) : Prop :=
  ∃ asked dflt, change.node = .enabled asked dflt ∧
    (change.oper = .created ∧ value = dflt.getD false ∨
      (change.oper = .modified ∨ change.oper = .deleted) ∧
        ∃ text, change.old = some text ∧ sysrepo.ustrParseBool text = some value)

def upBefore (origin : World NameBucket IndexBucket Rtnetlink) (hndl : Hndl) : Bool :=
  ifaceAdmstateOf (origin.objects hndl.iface)

/-- At most one 'enabled' leaf an interface, with the value the interface has. -/
structure Restorable (sysrepo : Sysrepo) (origin : World NameBucket IndexBucket Rtnetlink)
    (changes : List LeafChange) : Prop where
  keys : (changes.map LeafChange.key).Nodup
  enabled : ∀ change ∈ changes, ∃ asked dflt, change.node = .enabled asked dflt
  old : ∀ change ∈ changes, ∀ hndl ∈ origin.store.ifaces,
    change.key = some (origin.objects hndl.iface).name →
      OldValue sysrepo change (upBefore origin hndl)

theorem Restorable.tail {sysrepo : Sysrepo} {origin : World NameBucket IndexBucket Rtnetlink}
    {change : LeafChange} {rest : List LeafChange}
    (restorable : Restorable sysrepo origin (change :: rest)) : Restorable sysrepo origin rest where
  keys := (List.nodup_cons.mp restorable.keys).2
  enabled leaf listed := restorable.enabled leaf (List.mem_cons_of_mem change listed)
  old leaf listed := restorable.old leaf (List.mem_cons_of_mem change listed)

def Owned (origin : World NameBucket IndexBucket Rtnetlink) (changes : List LeafChange)
    (hndl : Hndl) : Prop :=
  ∃ change ∈ changes, change.key = some (origin.objects hndl.iface).name

/-- Before the apply loop: the interface of a leaf may wait, any other rests. -/
def Unsent (origin : World NameBucket IndexBucket Rtnetlink) (changes : List LeafChange)
    (world : World NameBucket IndexBucket Rtnetlink) (hndl : Hndl) : Prop :=
  Rests (upBefore origin hndl) (view origin world hndl) ∨
    Owned origin changes hndl ∧ Waits (upBefore origin hndl) (view origin world hndl)

/-- Before the abort loop: the interface of a leaf may have moved, any other rests. -/
def Moved (origin : World NameBucket IndexBucket Rtnetlink) (changes : List LeafChange)
    (world : World NameBucket IndexBucket Rtnetlink) (hndl : Hndl) : Prop :=
  Rests (upBefore origin hndl) (view origin world hndl) ∨
    Owned origin changes hndl ∧
      (Waits (upBefore origin hndl) (view origin world hndl) ∨ Applied (view origin world hndl))

theorem Unsent.moved {origin world : World NameBucket IndexBucket Rtnetlink}
    {changes : List LeafChange} {hndl : Hndl} (unsent : Unsent origin changes world hndl) :
    Moved origin changes world hndl := by
  rcases unsent with rests | ⟨owned, waits⟩
  · exact .inl rests
  · exact .inr ⟨owned, .inl waits⟩

theorem Moved.valid {origin world : World NameBucket IndexBucket Rtnetlink}
    {changes : List LeafChange} {hndl : Hndl} (moved : Moved origin changes world hndl) :
    (world.objects hndl.iface).state ≠ .invalid := by
  rcases moved with rests | ⟨_, ⟨_, waits⟩ | ⟨_, applied⟩⟩
  · simp [show (world.objects hndl.iface).state = .clean from rests.state]
  · simp [show (world.objects hndl.iface).state = .dirty from waits.state]
  · simp [show (world.objects hndl.iface).state = .clean from applied.state]

section Transaction

variable [DecidableEq NameBucket] [DecidableEq IndexBucket] {sysrepo : Sysrepo}
  {platform : Platform NameBucket IndexBucket Rtnetlink}
  {origin world next : World NameBucket IndexBucket Rtnetlink} {hndl : Hndl} {ret : Int}
  {change : LeafChange} {changes : List LeafChange}

theorem handler_stages (rtnl : platform.kernel = rtnetlink)
    (intact : Intact platform.hash origin world) (distinct : DistinctStrings origin)
    (unsent : ∀ hndl ∈ origin.store.ifaces, Unsent origin changes world hndl)
    (listed : change ∈ changes) (enabled : ∃ asked dflt, change.node = .enabled asked dflt)
    (done : nlifdIfaceChangeHndlr platform change world = .ok (.ok, next)) :
    Intact platform.hash origin next ∧
      ∀ hndl ∈ origin.store.ifaces, Unsent origin changes next hndl := by
  obtain ⟨asked, dflt, node⟩ := enabled
  rw [nlifdIfaceChangeHndlr, node] at done
  rcases change_enabled_ok_iff.mp done with
    ⟨_, failed, _⟩ | ⟨interface, found, ⟨_, failed, _⟩ | ⟨wanted, code, _, set, _⟩⟩
  · cases failed
  · cases failed
  · obtain ⟨hndl, member, rfl, key⟩ := intact.from_node_key found
    have beside := set_beside rtnl intact.subscribed set
    have valid : (world.objects hndl.iface).state ≠ .invalid := by
      rcases unsent hndl member with rests | ⟨_, value, waits⟩
      · simp [show (world.objects hndl.iface).state = .clean from rests.state]
      · simp [show (world.objects hndl.iface).state = .dirty from waits.state]
    refine ⟨intact.set_admstate rtnl distinct member (fun lost => absurd lost valid) set,
      fun other there => ?_⟩
    by_cases same : other = hndl
    · subst same
      rcases unsent other there with rests | ⟨owned, value, waits⟩
      · rcases Holds.set rests (by decide) set with ⟨_, rfl⟩ | ⟨_, staged⟩
        · exact .inl rests
        · rw [fresh_mark] at staged
          exact .inr ⟨⟨change, listed, key⟩, _, staged⟩
      · rcases waits.set (by decide) set with ⟨_, rfl⟩ | ⟨_, staged⟩
        · exact .inr ⟨owned, value, waits⟩
        · rw [BitVec.or_self] at staged
          exact .inr ⟨owned, _, staged⟩
    · rw [Unsent, beside.spares intact there member same]
      exact unsent other there

theorem apply_sends (rtnl : platform.kernel = rtnetlink)
    (intact : Intact platform.hash origin world) (member : hndl ∈ origin.store.ifaces)
    (moved : Moved origin changes world hndl)
    (done : applyIface platform hndl world = .ok (ret, next)) :
    Intact platform.hash origin next ∧ Beside hndl world next ∧
      (0 ≤ ret ∧ Moved origin changes next hndl ∨
        ret < 0 ∧ Owned origin changes hndl ∧
          Lost (upBefore origin hndl) (view origin next hndl)) := by
  have same := intact.alike hndl member
  obtain ⟨middle, applied, message⟩ := apply_iface_ok done
  have outcome := (fieldless_ok_iff intact.subscribed same.fields).mp applied
  have kept := intact.apply rtnl member outcome
  have beside := fieldless_beside rtnl intact.subscribed same.fields outcome
  -- the message of an applied change only records a call
  have later : Intact platform.hash origin next ∧ Beside hndl world next ∧
      view origin next hndl = view origin middle hndl := by
    rcases message with ⟨_, rfl⟩ | ⟨_, rfl⟩
    · exact ⟨kept.same rfl rfl rfl rfl rfl, ⟨beside.touched.record _, beside.links⟩, rfl⟩
    · exact ⟨kept, beside, rfl⟩
  obtain ⟨keptLater, besideLater, unseen⟩ := later
  refine ⟨keptLater, besideLater, ?_⟩
  rcases moved with rests | ⟨owned, ⟨value, waits⟩ | ⟨value, settled⟩⟩
  · have idle : (world.objects hndl.iface).state = .clean := rests.state
    obtain ⟨rfl, quiet⟩ := fieldless_unstaged origin outcome (by simp [idle])
    refine .inl ⟨le_rfl, .inl ?_⟩
    rw [unseen, quiet]
    exact rests
  · rcases waits.push rtnl same.idx outcome with ⟨rfl, sent⟩ | ⟨negative, lost, _⟩
    · refine .inl ⟨by decide, .inr ⟨owned, .inr ⟨value, ?_⟩⟩⟩
      rw [unseen]
      exact sent
    · have dirty : (world.objects hndl.iface).state = .dirty := waits.state
      have held := fieldless_held (intact.held member (by simp [dirty])) outcome
      refine .inr ⟨negative, owned, ?_, _, _, unseen ▸ lost⟩
      rw [unseen]
      exact held
  · have idle : (world.objects hndl.iface).state = .clean := settled.state
    obtain ⟨rfl, quiet⟩ := fieldless_unstaged origin outcome (by simp [idle])
    refine .inl ⟨le_rfl, .inr ⟨owned, .inr ⟨value, ?_⟩⟩⟩
    rw [unseen, quiet]
    exact settled

structure Refused (hash : Hashing NameBucket IndexBucket)
    (origin : World NameBucket IndexBucket Rtnetlink) (changes : List LeafChange)
    (walked : World NameBucket IndexBucket Rtnetlink) (failing : Hndl) : Prop where
  intact : Intact hash origin walked
  enrolled : failing ∈ origin.store.ifaces
  owned : Owned origin changes failing
  lost : Lost (upBefore origin failing) (view origin walked failing)
  moved : ∀ hndl ∈ origin.store.ifaces, hndl ≠ failing → Moved origin changes walked hndl

/-- The first interface the kernel refuses stops the apply loop, with every
other one applied or still staged. -/
theorem walk_refused {staged walked : World NameBucket IndexBucket Rtnetlink} {err : Int}
    (rtnl : platform.kernel = rtnetlink) (intact : Intact platform.hash origin staged)
    (unsent : ∀ hndl ∈ origin.store.ifaces, Unsent origin changes staged hndl)
    (refused : applyIfaces platform staged = .ok (err, walked)) (failed : err < 0) :
    ∃ failing, Refused platform.hash origin changes walked failing := by
  rcases stopping_ok_iff.mp refused with
    ⟨rfl, _⟩ | ⟨_, front, failing, rest, middle, split, passes, visited⟩
  · exact absurd failed (by decide)
  · have listed : ∀ hndl, hndl ∈ front ++ failing :: rest → hndl ∈ origin.store.ifaces := by
      intro hndl member
      rw [← intact.ifaces, split]
      exact member
    -- no visit before the stop lost its interface
    obtain ⟨kept, moved⟩ := passes.invariant
      (fun state => Intact platform.hash origin state ∧
        ∀ hndl ∈ origin.store.ifaces, Moved origin changes state hndl)
      (fun hndl member state code after ⟨kept, moved⟩ visited goes => by
        have enrolled := listed hndl (List.mem_append_left _ member)
        have going : ¬ code < 0 := by simpa using goes
        obtain ⟨keptAfter, beside, ⟨_, own⟩ | ⟨negative, _⟩⟩ :=
          apply_sends rtnl kept enrolled (moved hndl enrolled) visited
        · refine ⟨keptAfter, fun other there => ?_⟩
          by_cases same : other = hndl
          · subst same
            exact own
          · rw [Moved, beside.spares kept there enrolled same]
            exact moved other there
        · exact absurd negative going)
      ⟨intact, fun hndl member => (unsent hndl member).moved⟩
    have enrolled := listed failing (by simp)
    obtain ⟨keptAfter, beside, ⟨positive, _⟩ | ⟨_, owned, lost⟩⟩ :=
      apply_sends rtnl kept enrolled (moved failing enrolled) visited
    · omega
    · refine ⟨failing, keptAfter, enrolled, owned, lost, fun hndl member different => ?_⟩
      rw [Moved, beside.spares kept member enrolled different]
      exact moved hndl member

end Transaction

/-- After its leaf was restored: the interface has or stages its old value again,
unless the kernel refused a request about it. -/
def Returning (origin walked world : World NameBucket IndexBucket Rtnetlink) (hndl : Hndl) :
    Prop :=
  Rests (upBefore origin hndl) (view origin world hndl) ∨
    Restaged (upBefore origin hndl) (view origin world hndl) ∨
    Denied (origin.objects hndl.iface).idx walked world

theorem Returning.keep {origin walked world next : World NameBucket IndexBucket Rtnetlink}
    {hndl : Hndl} (returning : Returning origin walked world hndl)
    (same : view origin next hndl = view origin world hndl) (grown : world.trace <:+ next.trace) :
    Returning origin walked next hndl := by
  rcases returning with rests | restaged | denied
  · exact .inl (same ▸ rests)
  · exact .inr (.inl (same ▸ restaged))
  · exact .inr (.inr (denied.grow grown))

structure Restoring (hash : Hashing NameBucket IndexBucket)
    (origin walked : World NameBucket IndexBucket Rtnetlink) (failing : Hndl)
    (rest : List LeafChange) (world : World NameBucket IndexBucket Rtnetlink) : Prop where
  intact : Intact hash origin world
  grown : walked.trace <:+ world.trace
  valid : ∀ hndl ∈ origin.store.ifaces, hndl ≠ failing →
    (world.objects hndl.iface).state ≠ .invalid
  owing : ∀ hndl ∈ origin.store.ifaces, Owned origin rest hndl →
    Waits (upBefore origin hndl) (view origin world hndl) ∨ Applied (view origin world hndl) ∨
      hndl = failing ∧ Lost (upBefore origin hndl) (view origin world hndl)
  returning : ∀ hndl ∈ origin.store.ifaces, ¬ Owned origin rest hndl →
    Returning origin walked world hndl

section Restore

variable {sysrepo : Sysrepo} {platform : Platform NameBucket IndexBucket Rtnetlink}
  {origin walked world next : World NameBucket IndexBucket Rtnetlink} {hndl failing : Hndl}
  {ret : Int} {up : Bool} {change : LeafChange} {changes rest : List LeafChange}

theorem Refused.restoring (refused : Refused platform.hash origin changes walked failing) :
    Restoring platform.hash origin walked failing changes walked where
  intact := refused.intact
  grown := List.suffix_rfl
  valid hndl member different := (refused.moved hndl member different).valid
  owing hndl member _ := by
    by_cases same : hndl = failing
    · subst same
      exact .inr (.inr ⟨rfl, refused.lost⟩)
    · rcases refused.moved hndl member same with rests | ⟨_, waits | applied⟩
      · exact .inr (.inl ⟨_, rests⟩)
      · exact .inl waits
      · exact .inr (.inl applied)
  returning hndl member unowned := by
    have different : hndl ≠ failing := by
      rintro rfl
      exact unowned refused.owned
    rcases refused.moved hndl member different with rests | ⟨owned, _⟩
    · exact .inl rests
    · exact absurd owned unowned

theorem Restoring.visited
    (restoring : Restoring platform.hash origin walked failing (change :: rest) world)
    (member : hndl ∈ origin.store.ifaces)
    (key : change.key = some (origin.objects hndl.iface).name)
    (distinct : DistinctStrings origin)
    (fresh : change.key ∉ rest.map LeafChange.key) (intact : Intact platform.hash origin next)
    (beside : Beside hndl world next) (returning : Returning origin walked next hndl)
    (valid : hndl ≠ failing → (next.objects hndl.iface).state ≠ .invalid) :
    Restoring platform.hash origin walked failing rest next where
  intact := intact
  grown := restoring.grown.trans beside.touched.trace
  valid other there different := by
    by_cases same : other = hndl
    · subst same
      exact valid different
    · have unseen := beside.spares restoring.intact there member same
      have object : next.objects other.iface = world.objects other.iface :=
        congrArg Prod.fst unseen
      rw [object]
      exact restoring.valid other there different
  owing other there owned := by
    have different : other ≠ hndl := by
      rintro rfl
      obtain ⟨leaf, listed, same⟩ := owned
      exact fresh (List.mem_map.mpr ⟨leaf, listed, by rw [same, key]⟩)
    obtain ⟨leaf, listed, same⟩ := owned
    rw [beside.spares restoring.intact there member different]
    exact restoring.owing other there ⟨leaf, List.mem_cons_of_mem _ listed, same⟩
  returning other there unowned := by
    by_cases same : other = hndl
    · subst same
      exact returning
    · refine (restoring.returning other there ?_).keep
        (beside.spares restoring.intact there member same) beside.touched.trace
      rintro ⟨leaf, listed, named⟩
      rcases List.mem_cons.mp listed with rfl | listed
      · refine distinct.names other there hndl member same (Option.some.inj ?_)
        rw [← named, key]
      · exact unowned ⟨leaf, listed, named⟩

variable [DecidableEq NameBucket] [DecidableEq IndexBucket]

theorem restore_unfound (enabled : ∃ asked dflt, change.node = .enabled asked dflt)
    (unfound : nlifdIfaceFromNode platform change world = none) :
    nlifdIfaceRestoreHndlr sysrepo platform change world = .ok (.ok, world) := by
  obtain ⟨asked, dflt, node⟩ := enabled
  simp [nlifdIfaceRestoreHndlr, node, nlifdIfaceRestoreEnabled, unfound]

theorem restore_sets (old : OldValue sysrepo change up) {interface : Addr}
    (found : nlifdIfaceFromNode platform change world = some interface)
    (set : ifaceSetAdmstate platform up interface world = .ok (ret, next)) :
    nlifdIfaceRestoreHndlr sysrepo platform change world = .ok (.ok, next) := by
  obtain ⟨asked, dflt, node, ⟨created, rfl⟩ | ⟨oper, text, held, parsed⟩⟩ := old
  · simp [nlifdIfaceRestoreHndlr, node, nlifdIfaceRestoreEnabled, found, restoredValue, created,
      set]
  · rcases oper with oper | oper
    · simp [nlifdIfaceRestoreHndlr, node, nlifdIfaceRestoreEnabled, found, restoredValue, oper,
        held, parsed, set]
    · simp [nlifdIfaceRestoreHndlr, node, nlifdIfaceRestoreEnabled, found, restoredValue, oper,
        held, parsed, set]

theorem set_valid_returns (platform : Platform NameBucket IndexBucket Rtnetlink)
    (walked : World NameBucket IndexBucket Rtnetlink)
    (moved : Waits (upBefore origin hndl) (view origin world hndl) ∨
      Applied (view origin world hndl)) :
    (world.objects hndl.iface).state ≠ .invalid ∧
      ∃ ret next, ifaceSetAdmstate platform (upBefore origin hndl) hndl.iface world =
          .ok (ret, next) ∧ Returning origin walked next hndl ∧
        (next.objects hndl.iface).state ≠ .invalid := by
  have restaged : ∀ {next : World NameBucket IndexBucket Rtnetlink} {kernel : Bool},
      Holds (view origin next hndl) .dirty IFF_UP (upBefore origin hndl) kernel →
        Returning origin walked next hndl ∧ (next.objects hndl.iface).state ≠ .invalid := by
    intro next kernel holds
    have dirty : (next.objects hndl.iface).state = .dirty := holds.state
    exact ⟨.inr (.inl ⟨kernel, holds⟩), by simp [dirty]⟩
  rcases moved with ⟨value, waits⟩ | ⟨value, applied⟩
  · have dirty : (world.objects hndl.iface).state = .dirty := waits.state
    have valid : (world.objects hndl.iface).state ≠ .invalid := by simp [dirty]
    obtain ⟨ret, next, set⟩ := set_admstate_returns (sync_passes platform _ _ valid)
      (upBefore origin hndl)
    refine ⟨valid, ret, next, set, ?_⟩
    rcases waits.set (by decide) set with ⟨rfl, rfl⟩ | ⟨_, staged⟩
    · exact restaged waits
    · rw [BitVec.or_self] at staged
      exact restaged staged
  · have clean : (world.objects hndl.iface).state = .clean := applied.state
    have valid : (world.objects hndl.iface).state ≠ .invalid := by simp [clean]
    obtain ⟨ret, next, set⟩ := set_admstate_returns (sync_passes platform _ _ valid)
      (upBefore origin hndl)
    refine ⟨valid, ret, next, set, ?_⟩
    rcases applied.set (by decide) set with ⟨rfl, rfl⟩ | ⟨_, staged⟩
    · exact ⟨.inl applied, valid⟩
    · rw [fresh_mark] at staged
      exact restaged staged

theorem set_lost_returns (rtnl : platform.kernel = rtnetlink)
    (intact : Intact platform.hash origin world) (distinct : DistinctStrings origin)
    (grown : walked.trace <:+ world.trace) (member : hndl ∈ origin.store.ifaces)
    (valid : ∀ other ∈ origin.store.ifaces, other ≠ hndl →
      (world.objects other.iface).state ≠ .invalid)
    (lost : Lost (upBefore origin hndl) (view origin world hndl)) :
    ∃ ret next, ifaceSetAdmstate platform (upBefore origin hndl) hndl.iface world =
        .ok (ret, next) ∧ Returning origin walked next hndl := by
  obtain ⟨held, marked, cached, holds⟩ := lost
  obtain ⟨synced, middle, reload⟩ := intact.reloads rtnl distinct member valid held
  have sync := (iface_sync_ok_iff platform hndl.iface world intact.subscribed _ _).mpr
    (.inr ⟨holds.state, reload⟩)
  obtain ⟨ret, next, set⟩ := set_admstate_returns sync (upBefore origin hndl)
  refine ⟨ret, next, set, ?_⟩
  rcases Holds.recover rtnl intact distinct member valid holds set with
    rests | ⟨events, event, recorded, there, refused⟩
  · exact .inl rests
  · exact .inr (.inr (denied_now grown recorded there refused))

theorem restore_step (rtnl : platform.kernel = rtnetlink) (distinct : DistinctStrings origin)
    (restorable : Restorable sysrepo origin (change :: rest))
    (restoring : Restoring platform.hash origin walked failing (change :: rest) world) :
    ∃ next, nlifdIfaceRestoreHndlr sysrepo platform change world = .ok (.ok, next) ∧
      Restoring platform.hash origin walked failing rest next := by
  have intact := restoring.intact
  have keys := restorable.keys
  rw [List.map_cons, List.nodup_cons] at keys
  rcases found : nlifdIfaceFromNode platform change world with _ | interface
  · refine ⟨world, restore_unfound (restorable.enabled change List.mem_cons_self) found, intact,
      restoring.grown, restoring.valid, fun hndl member => ?_, fun hndl member unowned => ?_⟩
    · rintro ⟨leaf, listed, named⟩
      exact restoring.owing hndl member ⟨leaf, List.mem_cons_of_mem _ listed, named⟩
    · refine restoring.returning hndl member ?_
      rintro ⟨leaf, listed, named⟩
      rcases List.mem_cons.mp listed with rfl | listed
      · cases found.symm.trans (intact.from_node distinct member named)
      · exact unowned ⟨leaf, listed, named⟩
  · obtain ⟨hndl, member, rfl, key⟩ := intact.from_node_key found
    have old := restorable.old change List.mem_cons_self hndl member key
    have owned : Owned origin (change :: rest) hndl := ⟨change, List.mem_cons_self, key⟩
    have moved := restoring.owing hndl member owned
    have step : ∀ {ret : Int} {next : World NameBucket IndexBucket Rtnetlink},
        ((world.objects hndl.iface).state = .invalid → ∀ other ∈ origin.store.ifaces,
          other ≠ hndl → (world.objects other.iface).state ≠ .invalid) →
        ifaceSetAdmstate platform (upBefore origin hndl) hndl.iface world = .ok (ret, next) →
        Returning origin walked next hndl →
        (hndl ≠ failing → (next.objects hndl.iface).state ≠ .invalid) →
        ∃ next, nlifdIfaceRestoreHndlr sysrepo platform change world = .ok (.ok, next) ∧
          Restoring platform.hash origin walked failing rest next :=
      fun valid set returning still => ⟨_, restore_sets old found set,
        restoring.visited member key distinct keys.1
          (intact.set_admstate rtnl distinct member valid set)
          (set_beside rtnl intact.subscribed set) returning still⟩
    rcases or_assoc.mpr moved with moved | ⟨rfl, lost⟩
    · obtain ⟨valid, ret, next, set, returning, still⟩ :=
        set_valid_returns platform walked moved
      exact step (fun lost => absurd lost valid) set returning fun _ => still
    · obtain ⟨ret, next, set, returning⟩ := set_lost_returns rtnl intact distinct
        restoring.grown member restoring.valid lost
      exact step (fun _ => restoring.valid) set returning fun different => absurd rfl different

theorem restores_return (rtnl : platform.kernel = rtnetlink) (distinct : DistinctStrings origin)
    (restorable : Restorable sysrepo origin changes)
    (refused : Refused platform.hash origin changes walked failing) :
    ∃ restored, srplugProcessChildChanges (nlifdIfaceRestoreHndlr sysrepo platform) changes walked =
        .ok (.ok, restored) ∧ Intact platform.hash origin restored ∧
      walked.trace <:+ restored.trace ∧
      ∀ hndl ∈ origin.store.ifaces, Returning origin walked restored hndl := by
  have completed : ∃ restored, Passes (nlifdIfaceRestoreHndlr sysrepo platform)
      (fun ret => ret ≠ .ok) changes walked restored ∧ Restorable sysrepo origin [] ∧
        Restoring platform.hash origin walked failing [] restored := by
    refine passes_exist (fun rest state => Restorable sysrepo origin rest ∧
      Restoring platform.hash origin walked failing rest state) ?_
      ⟨restorable, refused.restoring⟩
    rintro change rest state ⟨restorable, restoring⟩
    obtain ⟨next, visited, later⟩ := restore_step rtnl distinct restorable restoring
    exact ⟨SrError.ok, next, visited, by decide, restorable.tail, later⟩
  obtain ⟨restored, passes, _, restoring⟩ := completed
  refine ⟨restored, stopping_ok_iff.mpr (.inl ⟨rfl, passes⟩), restoring.intact, restoring.grown,
    fun hndl member => restoring.returning hndl member ?_⟩
  rintro ⟨leaf, listed, _⟩
  cases listed

end Restore

structure Aborting (hash : Hashing NameBucket IndexBucket)
    (origin walked : World NameBucket IndexBucket Rtnetlink) (rest : List Hndl)
    (world : World NameBucket IndexBucket Rtnetlink) : Prop where
  intact : Intact hash origin world
  distinct : rest.Nodup
  listed : ∀ hndl ∈ rest, hndl ∈ origin.store.ifaces
  grown : walked.trace <:+ world.trace
  returning : ∀ hndl ∈ rest, Returning origin walked world hndl
  returned : ∀ hndl ∈ origin.store.ifaces, hndl ∉ rest →
    Rests (upBefore origin hndl) (view origin world hndl) ∨
      Denied (origin.objects hndl.iface).idx walked world

section Abort

variable {platform : Platform NameBucket IndexBucket Rtnetlink}
  {origin walked world next : World NameBucket IndexBucket Rtnetlink} {hndl : Hndl}
  {rest : List Hndl} {ret : Int}

theorem apply_returns (rtnl : platform.kernel = rtnetlink)
    (idx : (world.objects hndl.iface).idx = (origin.objects hndl.iface).idx)
    (grown : walked.trace <:+ world.trace) (later : world.trace <:+ next.trace)
    (returning : Returning origin walked world hndl)
    (outcome : Fieldless platform hndl.iface world ret next) :
    Rests (upBefore origin hndl) (view origin next hndl) ∨
      Denied (origin.objects hndl.iface).idx walked next := by
  rcases returning with rests | ⟨kernel, restaged⟩ | denied
  · have idle : (world.objects hndl.iface).state = .clean := rests.state
    obtain ⟨_, quiet⟩ := fieldless_unstaged origin outcome (by simp [idle])
    rw [quiet]
    exact .inl rests
  · rcases restaged.push rtnl idx outcome with
      ⟨_, applied⟩ | ⟨_, _, events, event, recorded, member, refused⟩
    · exact .inl applied
    · exact .inr (denied_now grown recorded member refused)
  · exact .inr (denied.grow later)

variable [DecidableEq NameBucket] [DecidableEq IndexBucket]

theorem abort_step (rtnl : platform.kernel = rtnetlink)
    (aborting : Aborting platform.hash origin walked (hndl :: rest) world) (answer : SrError) :
    ∃ code after, abortIface platform hndl (answer, world) = .ok (code, after) ∧
      Aborting platform.hash origin walked rest after.2 := by
  have intact := aborting.intact
  have member := aborting.listed hndl List.mem_cons_self
  have same := intact.alike hndl member
  obtain ⟨fresh, distinct⟩ := List.nodup_cons.mp aborting.distinct
  obtain ⟨ret, next, outcome⟩ := fieldless_returns platform hndl.iface world
  have applied := (fieldless_ok_iff intact.subscribed same.fields).mpr outcome
  have beside := fieldless_beside rtnl intact.subscribed same.fields outcome
  have later := beside.touched.trace
  have aborted : ∃ after : SrError × World NameBucket IndexBucket Rtnetlink,
      abortIface platform hndl (answer, world) = .ok (ret, after) ∧ after.2 = next := by
    rw [abortIface, applied]
    exact ⟨_, rfl, rfl⟩
  obtain ⟨after, aborted, rfl⟩ := aborted
  refine ⟨ret, after, aborted, intact.apply rtnl member outcome, distinct,
    fun other there => aborting.listed other (List.mem_cons_of_mem hndl there),
    aborting.grown.trans later, fun other there => ?_, fun other there gone => ?_⟩
  · have different : other ≠ hndl := by
      rintro rfl
      exact fresh there
    have enrolled := aborting.listed other (List.mem_cons_of_mem hndl there)
    exact (aborting.returning other (List.mem_cons_of_mem hndl there)).keep
      (beside.spares intact enrolled member different) later
  · by_cases self : other = hndl
    · subst self
      exact apply_returns rtnl same.idx aborting.grown later
        (aborting.returning other List.mem_cons_self) outcome
    · rcases aborting.returned other there (by simp [self, gone]) with rests | denied
      · rw [beside.spares intact there member self]
        exact .inl rests
      · exact .inr (denied.grow later)

/-- The abort loop goes over every interface and returns each one, unless the
kernel refused a request about it. -/
theorem aborts_return {restored : World NameBucket IndexBucket Rtnetlink}
    (rtnl : platform.kernel = rtnetlink) (intact : Intact platform.hash origin restored)
    (grown : walked.trace <:+ restored.trace)
    (returning : ∀ hndl ∈ origin.store.ifaces, Returning origin walked restored hndl) :
    ∃ answer last, Passes (abortIface platform) (fun _ => false) restored.store.ifaces
        (.ok, restored) (answer, last) ∧
      ∀ hndl ∈ origin.store.ifaces,
        Rests (upBefore origin hndl) (view origin last hndl) ∨
          Denied (origin.objects hndl.iface).idx walked last := by
  have completed : ∃ last, Passes (abortIface platform) (fun _ => false) restored.store.ifaces
      (.ok, restored) last ∧ Aborting platform.hash origin walked [] last.2 := by
    refine passes_exist (fun rest (state : SrError × World NameBucket IndexBucket Rtnetlink) =>
      Aborting platform.hash origin walked rest state.2) ?_
      ⟨intact, intact.linked.nodup, ?_, grown, ?_, ?_⟩
    · rintro hndl rest ⟨answer, world⟩ aborting
      obtain ⟨code, after, visited, later⟩ := abort_step rtnl aborting answer
      exact ⟨code, after, visited, rfl, later⟩
    · rw [intact.ifaces]
      exact fun _ member => member
    · rw [intact.ifaces]
      exact returning
    · rw [intact.ifaces]
      exact fun _ member gone => absurd member gone
  obtain ⟨⟨answer, last⟩, passes, aborting⟩ := completed
  exact ⟨answer, last, passes, fun hndl member => aborting.returned hndl member (by simp)⟩

end Abort

/-- Every interface is `CLEAN`, unmarked, and equal to its link. -/
structure AtRest (hash : Hashing NameBucket IndexBucket)
    (world : World NameBucket IndexBucket Rtnetlink) : Prop where
  linked : Linked hash world.objects world.next world.store
  indexed : Indexed hash world.objects world.store
  subscribed : world.gate.notif = true
  clean : ∀ hndl ∈ world.store.ifaces, (world.objects hndl.iface).state = .clean
  unmarked : ∀ hndl ∈ world.store.ifaces, (world.objects hndl.iface).dirtyFields = ∅ ∧
    (world.objects hndl.iface).dirtyFlags = 0
  agrees : ∀ hndl ∈ world.store.ifaces, ∃ link,
    world.kernel.links (world.objects hndl.iface).idx = some link ∧
      Agrees (world.objects hndl.iface) link

/-- The interface is `CLEAN` and `IFF_UP` is what it was, cached and in the kernel. -/
structure Restored (before after : World NameBucket IndexBucket Rtnetlink) (hndl : Hndl) :
    Prop where
  clean : (after.objects hndl.iface).state = .clean
  cached : AgreeOn IFF_UP (after.objects hndl.iface).flags (before.objects hndl.iface).flags
  kernel : ∃ link old, after.kernel.links (before.objects hndl.iface).idx = some link ∧
    before.kernel.links (before.objects hndl.iface).idx = some old ∧
    AgreeOn IFF_UP link.ifiFlags old.ifiFlags

theorem agree_on_up_iff (left right : BitVec 32) :
    AgreeOn IFF_UP left right ↔ adminUp left = adminUp right := by
  rw [agree_on_iff, admin_up_eq, admin_up_eq]
  constructor
  · exact fun agree => agree 0 (by decide) (by decide)
  · intro same i bound masked
    rw [iff_up_bit] at masked
    obtain rfl := of_decide_eq_true masked
    exact same

section Rest

variable {hash : Hashing NameBucket IndexBucket}
  {origin next : World NameBucket IndexBucket Rtnetlink} {hndl : Hndl}

theorem AtRest.link_up (rest : AtRest hash origin) (member : hndl ∈ origin.store.ifaces) :
    ∃ link, origin.kernel.links (origin.objects hndl.iface).idx = some link ∧
      adminUp link.ifiFlags = upBefore origin hndl := by
  obtain ⟨link, there, agrees⟩ := rest.agrees hndl member
  refine ⟨link, there, ?_⟩
  rw [upBefore, iface_admstate_of_eq]
  exact (agree_on_up_iff ..).mp (agrees.flags.mono (by decide))

theorem AtRest.intact (rest : AtRest hash origin) : Intact hash origin origin where
  linked := rest.linked
  subscribed := rest.subscribed
  ifaces := rfl
  alike hndl member := ⟨rfl, rfl, rfl, (rest.unmarked hndl member).1⟩
  home hndl member := by
    refine rest.indexed.names.home hndl member _ ?_
    have settled : NameSettled (origin.objects hndl.iface) := by
      simp [NameSettled, rest.clean hndl member, (rest.unmarked hndl member).1]
    rw [nameKey, if_pos settled]
  bears hndl member := by
    obtain ⟨link, there, agrees⟩ := rest.agrees hndl member
    exact ⟨link, there, agrees.name, agrees.ifalias⟩

theorem AtRest.rests (rest : AtRest hash origin) (member : hndl ∈ origin.store.ifaces) :
    Rests (upBefore origin hndl) (view origin origin hndl) :=
  ⟨rest.clean hndl member, (rest.unmarked hndl member).2, rfl, rest.link_up member⟩

theorem AtRest.restored (rest : AtRest hash origin) (member : hndl ∈ origin.store.ifaces)
    (rests : Rests (upBefore origin hndl) (view origin next hndl)) : Restored origin next hndl := by
  obtain ⟨clean, _, cached, link, there, up⟩ := rests
  obtain ⟨old, was, upWas⟩ := rest.link_up member
  refine ⟨clean, ?_, link, old, there, was, ?_⟩
  · rw [agree_on_up_iff, ← iface_admstate_of_eq, ← iface_admstate_of_eq]
    exact cached
  · rw [agree_on_up_iff, up, upWas]

end Rest

/-- Where the kernel refuses an interface, the transaction fails and returns every
interface whose own requests it grants from then on. -/
theorem refused_transaction_restores [DecidableEq NameBucket] [DecidableEq IndexBucket]
    {sysrepo : Sysrepo} {platform : Platform NameBucket IndexBucket Rtnetlink}
    {world staged walked : World NameBucket IndexBucket Rtnetlink} {changes : List LeafChange}
    {err : Int} (rtnl : platform.kernel = rtnetlink) (rest : AtRest platform.hash world)
    (distinct : DistinctStrings world) (restorable : Restorable sysrepo world changes)
    (handled : srplugProcessChildChanges (nlifdIfaceChangeHndlr platform) changes world =
      .ok (.ok, staged))
    (refused : applyIfaces platform staged = .ok (err, walked)) (failed : err < 0) :
    ∃ answer next, nlifdIfaceProcessChanges sysrepo platform changes world = .ok (answer, next) ∧
      answer ≠ .ok ∧ ∀ hndl ∈ world.store.ifaces,
        Granted (world.objects hndl.iface).idx walked next → Restored world next hndl := by
  have unsent : Intact platform.hash world staged ∧
      ∀ hndl ∈ world.store.ifaces, Unsent world changes staged hndl := by
    rcases stopping_ok_iff.mp handled with ⟨_, passes⟩ | ⟨stopped, _⟩
    · refine passes.invariant (fun state => Intact platform.hash world state ∧
        ∀ hndl ∈ world.store.ifaces, Unsent world changes state hndl) ?_
        ⟨rest.intact, fun hndl member => .inl (rest.rests member)⟩
      rintro change listed state answer after ⟨intact, unsent⟩ visited goes
      obtain rfl : answer = .ok := by simpa using goes
      exact handler_stages rtnl intact distinct unsent listed (restorable.enabled change listed)
        visited
    · cases stopped
  obtain ⟨intact, unsent⟩ := unsent
  obtain ⟨failing, lost⟩ := walk_refused rtnl intact unsent refused failed
  obtain ⟨restored, restores, kept, grown, returning⟩ :=
    restores_return rtnl distinct restorable lost
  obtain ⟨answer, next, passes, returned⟩ := aborts_return rtnl kept grown returning
  have aborted : nlifdIfaceProcessAborts sysrepo platform changes walked = .ok (answer, next) :=
    process_aborts_ok_iff.mpr ⟨restored, restores, passes⟩
  refine ⟨_, next, process_changes_ok_iff.mpr (.rolledBack handled refused failed aborted), ?_,
    fun hndl member granted => ?_⟩
  · rw [ne_eq, nlifd_iface_error_ok_iff]
    omega
  · rcases returned hndl member with rests | denied
    · exact rest.restored member rests
    · exact absurd granted denied.not_granted

def secondLink : GetlinkRsp := bareLink 2 nameB none

def refusingTwice : Rtnetlink where
  links index := if index = 1 then some oneLink else if index = 2 then some secondLink else none
  known := [1, 2]
  moments later :=
    { operational := ⟨0, 2, 0⟩
      refusal := if later = 2 ∨ later = 3 then some deviceBusy else none }

/-- The world `nlifd_open()` leaves on that kernel. -/
def twoLinks : CodeWorld Rtnetlink :=
  match nlifdOpen rtnetlinkPlatform (fun _ => ifaceFill oneLink) refusingTwice with
  | .ok (_, world) => world
  | .error _ => loadedWorld oneLink

def enableBoth : List LeafChange :=
  [enableLink, { enableLink with key := some nameB }]

theorem dumped_link_reported {links : List GetlinkRsp} {after : Rtnetlink}
    (dumped : rtnetlinkPlatform.kernel.dump refusingTwice = (.ok links, after)) :
    ∀ link ∈ links, Reported link := by
  have known : rtnetlinkPlatform.kernel.dump refusingTwice =
      (.ok [drifted 1 ⟨0, 2, 0⟩ oneLink, drifted 2 ⟨0, 2, 0⟩ secondLink], _) := rfl
  cases dumped.symm.trans known
  intro link member
  rcases List.mem_cons.mp member with rfl | member
  · exact ⟨by constructor <;> decide, by decide⟩
  · obtain rfl := List.mem_singleton.mp member
    exact ⟨by constructor <;> decide, by decide⟩

theorem two_links_at_rest : AtRest rtnetlinkPlatform.hash twoLinks := by
  have opened : nlifdOpen rtnetlinkPlatform (fun _ => ifaceFill oneLink) refusingTwice =
      .ok (0, twoLinks) := rfl
  have kept := (open_sane (fun _ _ => dumped_link_reported) opened).kept
  refine ⟨kept.linked, kept.indexed (by decide), rfl, by decide, by decide, ?_⟩
  have ifaces : twoLinks.store.ifaces = [⟨1, 0⟩, ⟨3, 2⟩] := rfl
  intro hndl member
  rw [ifaces] at member
  rcases List.mem_cons.mp member with rfl | member
  · exact ⟨oneLink, rfl, rfl, rfl, rfl, rfl, rfl, by decide⟩
  · obtain rfl := List.mem_singleton.mp member
    exact ⟨secondLink, rfl, rfl, rfl, rfl, rfl, rfl, by decide⟩

/-- The first interface is applied, the second one refused, its reload refused as
well: the first one still gets its old admin state back. -/
theorem second_refusal_restores_first :
    ∃ staged walked next,
      srplugProcessChildChanges (nlifdIfaceChangeHndlr rtnetlinkPlatform) enableBoth twoLinks =
        .ok (.ok, staged) ∧
      applyIfaces rtnetlinkPlatform staged = .ok (-16, walked) ∧
      nlifdIfaceProcessChanges agreeingSysrepo rtnetlinkPlatform enableBoth twoLinks =
        .ok (.sys, next) ∧
      Restored twoLinks next ⟨1, 0⟩ ∧ (next.objects 2).state = .invalid := by
  have noAlias : ∀ hndl ∈ twoLinks.store.ifaces,
      (twoLinks.objects hndl.iface).ifalias = none := by decide
  have distinct : DistinctStrings twoLinks := by
    refine ⟨by decide, fun left member _ _ _ text held => ?_, fun left member _ _ _ held => ?_⟩
    · rw [noAlias left member] at held
      cases held
    · rw [noAlias left member] at held
      cases held
  have down : ∀ hndl ∈ twoLinks.store.ifaces, upBefore twoLinks hndl = false := by decide
  have restorable : Restorable agreeingSysrepo twoLinks enableBoth := by
    refine ⟨by decide, fun change listed => ?_, fun change listed hndl member _ => ?_⟩
    · rcases List.mem_cons.mp listed with rfl | listed
      · exact ⟨_, _, rfl⟩
      · obtain rfl := List.mem_singleton.mp listed
        exact ⟨_, _, rfl⟩
    · rw [down hndl member]
      rcases List.mem_cons.mp listed with rfl | listed
      · exact ⟨_, _, rfl, .inr ⟨.inl rfl, _, rfl, rfl⟩⟩
      · obtain rfl := List.mem_singleton.mp listed
        exact ⟨_, _, rfl, .inr ⟨.inl rfl, _, rfl, rfl⟩⟩
  obtain ⟨answer, next, done, _, restored⟩ :=
    refused_transaction_restores rfl two_links_at_rest distinct restorable rfl rfl (by decide)
  have computed : nlifdIfaceProcessChanges agreeingSysrepo rtnetlinkPlatform enableBoth twoLinks =
      .ok (.sys, _) := rfl
  cases done.symm.trans computed
  exact ⟨_, _, _, rfl, rfl, computed, restored ⟨1, 0⟩ (by decide) (by decide), rfl⟩

end Nlif.TransactionRollback
