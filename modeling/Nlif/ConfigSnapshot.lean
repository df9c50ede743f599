import Nlif.TransactionEffect

/-!
# The configuration built from the store

Transcription of `nlifd_iface_new_entry()` and `nlifd_iface_reset_config_dstore()`
of `src/nlifd.c`, and what feeding the built configuration back does. The
tree-building calls of libyang and Sysrepo are outside this repository: what
they answer is a parameter.
-/

namespace Nlif.ConfigSnapshot

open LinkModel IfaceModel FaultWalk FaultLoop StoreModel GateModel GateSpec StoreInvariant
  LibraryRun StagedStates DaemonModel DaemonSpec DaemonRun TransactionEffect

set_option autoImplicit false

/-- The `default` that `netlink-interfaces.yang` gives to the 'enabled' leaf. -/
def ENABLED_DEFAULT : Bool := false

inductive EntryLeaf where
  | type
  | description
deriving DecidableEq

structure ConfigEntry where
  name : CString
  enabled : Bool
  type : CString
  description : Option CString
deriving DecidableEq

/-- `srepo_dat_create_container()`, `srepo_dat_create_list_keyent()`,
`srepo_dat_new_dflt_nodes()`, `srepo_dat_create_leaf()`, `srepo_replace_config()`. -/
structure ConfigTree where
  createContainer : SrError
  createListKeyent : CString → SrError
  newDfltNodes : CString → SrError
  createLeaf : CString → EntryLeaf → CString → SrError
  replaceConfig : List ConfigEntry → SrError

def nlifdIfaceNewEntry (tree : ConfigTree) (interface : Iface) :
    Except Fault (Except SrError ConfigEntry) :=
  let created := tree.createListKeyent interface.name
  if created ≠ .ok then .ok (.error created)
  else
    let defaulted := tree.newDfltNodes interface.name
    if defaulted ≠ .ok then .ok (.error defaulted)
    else do
      let str ← nlifdIfaceTypeStr interface.type interface.kind
      match str with
      | none => .ok (.error .unsupported)
      | some type =>
          let typed := tree.createLeaf interface.name .type type
          if typed ≠ .ok then .ok (.error typed)
          else
            match interface.ifalias with
            | none => .ok (.ok ⟨interface.name, ENABLED_DEFAULT, type, none⟩)
            | some pointer => do
                let text ← pointer.read
                let described := tree.createLeaf interface.name .description text
                if described ≠ .ok then .ok (.error described)
                else .ok (.ok ⟨interface.name, ENABLED_DEFAULT, type, some text⟩)

/-- The loop of `nlifd_iface_reset_config_dstore()` over the store. -/
def newEntries (tree : ConfigTree) (objects : Objects) :
    List Hndl → Except Fault (Except SrError (List ConfigEntry))
  | [] => .ok (.ok [])
  | hndl :: rest => do
      let entry ← nlifdIfaceNewEntry tree (objects hndl.iface)
      match entry with
      | .error err => .ok (.error err)
      | .ok entry => do
          let entries ← newEntries tree objects rest
          match entries with
          | .error err => .ok (.error err)
          | .ok entries => .ok (.ok (entry :: entries))

variable {NameBucket IndexBucket Kstate : Type}

/-- On success, with the configuration the datastore then holds. -/
def nlifdIfaceResetConfigDstore (tree : ConfigTree)
    (world : World NameBucket IndexBucket Kstate) :
    Except Fault (Except SrError (List ConfigEntry)) :=
  if tree.createContainer ≠ .ok then .ok (.error tree.createContainer)
  else do
    let entries ← newEntries tree world.objects world.store.ifaces
    match entries with
    | .error err => .ok (.error err)
    | .ok entries =>
        let replaced := tree.replaceConfig entries
        if replaced ≠ .ok then .ok (.error replaced) else .ok (.ok entries)

/-- The leaves of an entry with a handler, as a change creates them. -/
def ConfigEntry.created (entry : ConfigEntry) : List LeafChange :=
  [{ node := .enabled entry.enabled (some ENABLED_DEFAULT), key := some entry.name,
     oper := .created, old := none },
   { node := .type entry.type, key := some entry.name, oper := .created, old := none }]

/-- The entry built for an interface. -/
structure Snapshot (interface : Iface) (entry : ConfigEntry) : Prop where
  name : entry.name = interface.name
  enabled : entry.enabled = ENABLED_DEFAULT
  type : nlifdIfaceTypeStr interface.type interface.kind = .ok (some entry.type)
  description : entry.description = interface.ifalias.map HeapStr.text

theorem new_entry_snapshot {tree : ConfigTree} {interface : Iface} {entry : ConfigEntry}
    (built : nlifdIfaceNewEntry tree interface = .ok (.ok entry)) : Snapshot interface entry := by
  unfold nlifdIfaceNewEntry at built
  simp only at built
  split at built
  · cases built
  · split at built
    · cases built
    · obtain ⟨str, read, built⟩ := (bind_ok_iff ..).mp built
      cases str with
      | none => cases built
      | some type =>
          simp only at built
          split at built
          · cases built
          · cases held : interface.ifalias with
            | none =>
                rw [held] at built
                cases built
                exact ⟨rfl, rfl, read, by rw [held]; rfl⟩
            | some pointer =>
                rw [held] at built
                obtain ⟨text, live, built⟩ := (bind_ok_iff ..).mp built
                obtain ⟨_, same⟩ := (HeapStr.read_ok_iff ..).mp live
                split at built
                · cases built
                · cases built
                  exact ⟨rfl, rfl, read, by rw [held, same]; rfl⟩

theorem new_entries_snapshot {tree : ConfigTree} {objects : Objects} {ifaces : List Hndl}
    {entries : List ConfigEntry} (built : newEntries tree objects ifaces = .ok (.ok entries)) :
    List.Forall₂ (fun hndl entry => Snapshot (objects hndl.iface) entry) ifaces entries := by
  induction ifaces generalizing entries with
  | nil =>
      cases built
      exact .nil
  | cons hndl rest ih =>
      obtain ⟨first, entered, built⟩ := (bind_ok_iff ..).mp built
      cases first with
      | error err => cases built
      | ok entry =>
          obtain ⟨others, remaining, built⟩ := (bind_ok_iff ..).mp built
          cases others with
          | error err => cases built
          | ok others =>
              cases built
              exact .cons (new_entry_snapshot entered) (ih remaining)

abbrev Snapshots (world : World NameBucket IndexBucket Kstate) (entries : List ConfigEntry) :
    Prop :=
  List.Forall₂ (fun hndl entry => Snapshot (world.objects hndl.iface) entry) world.store.ifaces
    entries

theorem reset_config_snapshot {tree : ConfigTree} {world : World NameBucket IndexBucket Kstate}
    {entries : List ConfigEntry}
    (built : nlifdIfaceResetConfigDstore tree world = .ok (.ok entries)) :
    Snapshots world entries := by
  unfold nlifdIfaceResetConfigDstore at built
  split at built
  · cases built
  · obtain ⟨listed, entered, built⟩ := (bind_ok_iff ..).mp built
    cases listed with
    | error err => cases built
    | ok listed =>
        simp only at built
        split at built
        · cases built
        · cases built
          exact new_entries_snapshot entered

structure ConfigTree.Accepts (tree : ConfigTree) : Prop where
  createContainer : tree.createContainer = .ok
  createListKeyent : ∀ name, tree.createListKeyent name = .ok
  newDfltNodes : ∀ name, tree.newDfltNodes name = .ok
  createLeaf : ∀ name leaf value, tree.createLeaf name leaf value = .ok
  replaceConfig : ∀ entries, tree.replaceConfig entries = .ok

/-- The interface has a type that `nlifd_iface_type_str()` knows. -/
def Supported (interface : Iface) : Prop :=
  ∃ str, nlifdIfaceTypeStr interface.type interface.kind = .ok (some str)

theorem new_entry_built {tree : ConfigTree} (accepts : tree.Accepts) {interface : Iface}
    (held : Held interface) (supported : Supported interface) :
    ∃ entry, nlifdIfaceNewEntry tree interface = .ok (.ok entry) := by
  obtain ⟨str, known⟩ := supported
  unfold nlifdIfaceNewEntry
  simp only [accepts.createListKeyent, accepts.newDfltNodes, accepts.createLeaf, known, ok_bind,
    ne_eq, not_true_eq_false, if_false]
  cases present : interface.ifalias with
  | none => exact ⟨_, rfl⟩
  | some pointer =>
      have live := held.ifalias pointer present
      simp only [HeapStr.read, live, if_true, ok_bind]
      exact ⟨_, rfl⟩

theorem new_entries_built {tree : ConfigTree} (accepts : tree.Accepts) {objects : Objects}
    (ifaces : List Hndl) (held : ∀ hndl ∈ ifaces, Held (objects hndl.iface))
    (supported : ∀ hndl ∈ ifaces, Supported (objects hndl.iface)) :
    ∃ entries, newEntries tree objects ifaces = .ok (.ok entries) := by
  induction ifaces with
  | nil => exact ⟨[], rfl⟩
  | cons hndl rest ih =>
      obtain ⟨entry, entered⟩ := new_entry_built accepts (held hndl (List.mem_cons_self ..))
        (supported hndl (List.mem_cons_self ..))
      obtain ⟨entries, remaining⟩ := ih
        (fun other there => held other (List.mem_cons_of_mem _ there))
        (fun other there => supported other (List.mem_cons_of_mem _ there))
      refine ⟨entry :: entries, ?_⟩
      simp only [newEntries, entered, remaining, ok_bind]

theorem reset_config_built {tree : ConfigTree} (accepts : tree.Accepts)
    {world : World NameBucket IndexBucket Kstate}
    (held : ∀ hndl ∈ world.store.ifaces, Held (world.objects hndl.iface))
    (supported : ∀ hndl ∈ world.store.ifaces, Supported (world.objects hndl.iface)) :
    ∃ entries, nlifdIfaceResetConfigDstore tree world = .ok (.ok entries) := by
  obtain ⟨entries, built⟩ := new_entries_built accepts world.store.ifaces held supported
  refine ⟨entries, ?_⟩
  simp only [nlifdIfaceResetConfigDstore, accepts.createContainer, built, accepts.replaceConfig,
    ok_bind, ne_eq, not_true_eq_false, if_false]

section Loaded

variable [DecidableEq NameBucket] [DecidableEq IndexBucket]
  {platform : Platform NameBucket IndexBucket Kstate}
  {world next : World NameBucket IndexBucket Kstate}

/-- A loaded world: every enrolled interface is filled from a link. -/
structure Fresh (platform : Platform NameBucket IndexBucket Kstate)
    (world : World NameBucket IndexBucket Kstate) : Prop where
  kept : Kept platform world
  quiet : Quiet world.trace
  filled : ∀ hndl ∈ world.store.ifaces, ∃ link, world.objects hndl.iface = ifaceFill link

theorem new_link_fresh (fresh : Fresh platform world) {link : GetlinkRsp} {ret : Int}
    (reported : Reported link)
    (notified : gateNotify platform noObservers (.new link) world = .ok (ret, next)) :
    Fresh platform next := by
  have kept := new_link_kept fresh.kept reported notified
  obtain ⟨after, same, outcome⟩ := new_link_ok fresh.kept notified
  subst same
  have recorded : ∀ trace, Quiet trace → Quiet (.notified .new link.ifiIndex 0 :: trace) := by
    intro trace quiet
    exact (quiet_cons ..).mpr ⟨rfl, quiet⟩
  cases outcome with
  | inl same =>
      subst same
      exact ⟨kept, recorded _ fresh.quiet, fresh.filled⟩
  | inr enrolled =>
      obtain ⟨_, same⟩ := enrolled
      subst same
      refine ⟨kept, recorded _ fresh.quiet, ?_⟩
      intro hndl member
      cases List.mem_append.mp member with
      | inl old =>
          obtain ⟨from_, object⟩ := fresh.filled hndl old
          exact ⟨from_, (fresh.kept.linked.fresh _ hndl old).trans object⟩
      | inr new =>
          rw [List.mem_singleton.mp new]
          exact ⟨link, Function.update_self ..⟩

/-- What a successful `nlifd_open()` leaves. -/
theorem open_fresh (reports : KernelReports platform.kernel) {objects : Objects} {kernel : Kstate}
    {ret : Int} (opened : nlifdOpen platform objects kernel = .ok (ret, world)) :
    Fresh platform world := by
  have initial : ∀ reached : Kstate, Fresh platform
      { storeInit objects reached with gate := { notif := true, member := true } } := by
    intro reached
    have kept := kept_init platform objects reached
    exact ⟨⟨kept.linked, rfl, kept.indexed⟩, by simp [Quiet, storeInit],
      by simp [storeInit, storeReinit]⟩
  obtain ⟨answer, after, asked, loaded⟩ := store_load_ok opened
  cases loaded with
  | inl same =>
      subst same
      exact initial after
  | inr dumped =>
      obtain ⟨links, same, loaded⟩ := dumped
      subst same
      apply load_each_invariant (Fresh platform) links _ (initial after) loaded
      intro link member _ _ _ fresh notified
      exact new_link_fresh fresh (reports.dump _ _ _ asked link member) notified

omit [DecidableEq NameBucket] [DecidableEq IndexBucket] in
theorem Fresh.ready (fresh : Fresh platform world) : Ready platform.hash world where
  linked := fresh.kept.linked
  indexed := fresh.kept.indexed fresh.quiet
  clean hndl member := by
    obtain ⟨link, object⟩ := fresh.filled hndl member
    rw [object]
    rfl
  tidy hndl member := by
    obtain ⟨link, object⟩ := fresh.filled hndl member
    rw [object]
    exact tidy_fill link

end Loaded

section Feeding

variable {hash : Hashing NameBucket IndexBucket} {world : World NameBucket IndexBucket Kstate}
  {entries : List ConfigEntry}

theorem forall2_left {Left Right : Type} {related : Left → Right → Prop} {left : List Left}
    {right : List Right} (both : List.Forall₂ related left right) :
    ∀ item ∈ left, ∃ other ∈ right, related item other := by
  induction both with
  | nil =>
      intro item member
      cases member
  | @cons first other _ _ here _ ih =>
      intro item member
      cases member with
      | head => exact ⟨other, List.mem_cons_self .., here⟩
      | tail _ there =>
          obtain ⟨found, listed, holds⟩ := ih item there
          exact ⟨found, List.mem_cons_of_mem _ listed, holds⟩

theorem entry_of_iface (snapshots : Snapshots world entries) :
    ∀ hndl ∈ world.store.ifaces, ∃ entry ∈ entries, Snapshot (world.objects hndl.iface) entry :=
  forall2_left snapshots

theorem iface_of_entry (snapshots : Snapshots world entries) :
    ∀ entry ∈ entries, ∃ hndl ∈ world.store.ifaces, Snapshot (world.objects hndl.iface) entry :=
  forall2_left snapshots.flip

theorem entries_distinct (ready : Ready hash world) (snapshots : Snapshots world entries) :
    entries.Pairwise fun left right => left.name ≠ right.name := by
  have names : List.Forall₂ (fun left right => left = right)
      (world.store.ifaces.map fun hndl => (world.objects hndl.iface).name)
      (entries.map ConfigEntry.name) := by
    rw [List.forall₂_map_left_iff, List.forall₂_map_right_iff]
    exact snapshots.imp fun _ _ snapshot => snapshot.name.symm
  have nodup : (world.store.ifaces.map fun hndl => (world.objects hndl.iface).name).Nodup := by
    apply List.Nodup.map_on _ ready.linked.nodup
    intro left leftThere right rightThere same
    exact ready.distinct rightThere leftThere same
  rw [List.forall₂_eq_eq_eq] at names
  rw [names] at nodup
  exact List.pairwise_map.mp nodup

theorem created_leaf {entry : ConfigEntry} {change : LeafChange}
    (made : change ∈ entry.created) :
    change.key = some entry.name ∧ change.oper = .created ∧
      ∀ value, change.node = .type value → value = entry.type := by
  cases made with
  | head => exact ⟨rfl, rfl, fun value node => by cases node⟩
  | tail _ more =>
      rw [List.mem_singleton.mp more]
      exact ⟨rfl, rfl, fun value node => by cases node; rfl⟩

theorem created_changeable (ready : Ready hash world) (snapshots : Snapshots world entries) :
    Changeable world.objects world.store.ifaces (entries.flatMap ConfigEntry.created) where
  single := by
    rw [List.pairwise_flatMap]
    constructor
    · intro entry _
      apply List.Pairwise.cons _ (List.pairwise_singleton ..)
      intro other listed same
      rw [List.mem_singleton.mp listed] at same
      cases same.2
    · apply (entries_distinct ready snapshots).imp
      intro left right different change ofLeft other ofRight same
      have keys := same.1
      rw [(created_leaf ofLeft).1, (created_leaf ofRight).1] at keys
      exact different (Option.some.inj keys)
  named := by
    intro change listed
    obtain ⟨entry, there, made⟩ := List.mem_flatMap.mp listed
    obtain ⟨hndl, member, snapshot⟩ := iface_of_entry snapshots entry there
    refine ⟨hndl, member, ?_⟩
    rw [(created_leaf made).1, snapshot.name]
  handled := by
    intro change listed
    obtain ⟨entry, _, made⟩ := List.mem_flatMap.mp listed
    rw [(created_leaf made).2.1]
    decide
  typed := by
    intro change listed value node hndl member key
    obtain ⟨entry, there, made⟩ := List.mem_flatMap.mp listed
    obtain ⟨other, otherThere, snapshot⟩ := iface_of_entry snapshots entry there
    have names := (created_leaf made).1.symm.trans key
    rw [snapshot.name] at names
    have same := ready.distinct member otherThere (Option.some.inj names)
    rw [(created_leaf made).2.2 value node, ← same]
    exact snapshot.type

theorem created_requested (ready : Ready hash world) (snapshots : Snapshots world entries)
    {hndl : Hndl} (member : hndl ∈ world.store.ifaces) :
    requested (entries.flatMap ConfigEntry.created) (world.objects hndl.iface).name =
      some ENABLED_DEFAULT := by
  obtain ⟨entry, there, snapshot⟩ := entry_of_iface snapshots hndl member
  rw [requested_some_iff (created_changeable ready snapshots).single]
  refine ⟨_, List.mem_flatMap.mpr ⟨entry, there, List.mem_cons_self ..⟩, ?_⟩
  simp [asks, snapshot.name, snapshot.enabled, changedValue]

end Feeding

section Faithful

variable [DecidableEq NameBucket] [DecidableEq IndexBucket]
  {platform : Platform NameBucket IndexBucket Kstate}
  {world next : World NameBucket IndexBucket Kstate} {interface : Addr} {ret : Int}

theorem apply_flags (done : ifaceApply platform interface world = .ok (ret, next))
    (address : Addr) : (next.objects address).flags = (world.objects address).flags :=
  apply_field _ _ _ (fun _ => rfl) (fun _ => rfl) done address

theorem apply_name (done : ifaceApply platform interface world = .ok (ret, next))
    (address : Addr) : (next.objects address).name = (world.objects address).name :=
  apply_field _ _ _ (fun _ => rfl) (fun _ => rfl) done address

theorem walk_flags {walked : World NameBucket IndexBucket Kstate} {code : Int}
    (done : applyIfaces platform world = .ok (code, walked)) (address : Addr) :
    (walked.objects address).flags = (world.objects address).flags := by
  apply stopping_invariant
    (fun state => (state.objects address).flags = (world.objects address).flags) _ done rfl
  intro hndl _ before code after same visited
  obtain ⟨middle, applied, outcome⟩ := apply_iface_ok visited
  have moved := (apply_flags applied address).trans same
  cases outcome with
  | inl called =>
      rw [called.2]
      exact moved
  | inr plain =>
      rw [plain.2]
      exact moved

theorem accepted_transaction {sysrepo : Sysrepo} {changes : List LeafChange}
    (done : nlifdIfaceProcessChanges sysrepo platform changes world = .ok (.ok, next)) :
    ∃ staged code, srplugProcessChildChanges (nlifdIfaceChangeHndlr platform) changes world =
      .ok (.ok, staged) ∧ applyIfaces platform staged = .ok (code, next) ∧ ¬ code < 0 := by
  generalize answered : SrError.ok = answer at done
  cases process_changes_ok_iff.mp done with
  | rejected _ failed => exact absurd answered.symm failed
  | applied handled walk accepted => exact ⟨_, _, handled, walk, accepted⟩
  | rolledBack _ _ failed _ =>
      have zero := (nlifd_iface_error_ok_iff _).mp answered.symm
      omega

theorem staged_down {changes : List LeafChange} {object : Iface}
    (asked : requested changes object.name = some false) :
    adminUp (staged changes object).flags = false := by
  unfold staged
  split
  · rw [configured, asked]
    exact admin_up_with false object
  · rename_i same
    rw [differs, asked] at same
    simpa using same

theorem quiet_transaction (sysrepo : Sysrepo) (ready : Ready platform.hash world)
    {changes : List LeafChange}
    (changeable : Changeable world.objects world.store.ifaces changes)
    (same : ∀ hndl ∈ world.store.ifaces, differs changes (world.objects hndl.iface) = false) :
    ∃ next, nlifdIfaceProcessChanges sysrepo platform changes world = .ok (.ok, next) ∧
      next.store = world.store ∧ next.objects = world.objects ∧
      requests next.trace = requests world.trace := by
  have nothing : wanted changes world.objects world.store.ifaces = [] := by
    rw [wanted, List.filter_eq_nil_iff.mpr, List.map_nil]
    intro hndl member
    rw [same hndl member]
    exact Bool.false_ne_true
  obtain ⟨next, done, walked⟩ := transaction_walks sysrepo ready changeable
    fun hndl member differing => by
      rw [same hndl member] at differing
      cases differing
  refine ⟨next, done, walked.store, ?_, ?_⟩
  · funext address
    by_cases listed : address ∈ world.store.ifaces.map Hndl.iface
    · obtain ⟨hndl, member, at_⟩ := List.mem_map.mp listed
      rw [← at_, walked.applied hndl member, configured_same (same hndl member)]
    · exact walked.elsewhere address listed
  · rw [walked.posted, nothing]
    rfl

/-- Feeding the built configuration back, in any order of its leaves, changes nothing
exactly where no interface was up. -/
theorem snapshot_faithful_iff (sysrepo : Sysrepo) {tree : ConfigTree}
    {entries : List ConfigEntry} {changes : List LeafChange}
    (reports : KernelReports platform.kernel) {objects : Objects} {kernel : Kstate}
    (opened : nlifdOpen platform objects kernel = .ok (0, world))
    (built : nlifdIfaceResetConfigDstore tree world = .ok (.ok entries))
    (fed : changes.Perm (entries.flatMap ConfigEntry.created)) :
    (∃ next, nlifdIfaceProcessChanges sysrepo platform changes world = .ok (.ok, next) ∧
      next.store = world.store ∧ next.objects = world.objects ∧
      requests next.trace = requests world.trace) ↔
    ∀ hndl ∈ world.store.ifaces, ifaceAdmstateOf (world.objects hndl.iface) = false := by
  have ready := (open_fresh reports opened).ready
  have snapshots := reset_config_snapshot built
  have created := created_changeable ready snapshots
  have changeable := created.perm fed
  have asked : ∀ hndl ∈ world.store.ifaces,
      requested changes (world.objects hndl.iface).name = some false := by
    intro hndl member
    rw [requested_perm created.single fed]
    exact created_requested ready snapshots member
  constructor
  · intro unchanged hndl member
    obtain ⟨next, done, _, same, _⟩ := unchanged
    obtain ⟨middle, code, handling, walk, _⟩ := accepted_transaction done
    obtain ⟨between, handlingToo, handled⟩ := changes_handled ready changeable
    cases handling.symm.trans handlingToo
    have flags := walk_flags walk hndl.iface
    rw [same, handled.object member] at flags
    rw [iface_admstate_of_eq, flags]
    exact staged_down (asked hndl member)
  · intro down
    apply quiet_transaction sysrepo ready changeable
    intro hndl member
    have off := down hndl member
    rw [iface_admstate_of_eq] at off
    simp [differs, asked hndl member, off]

end Faithful

def agreeingTree : ConfigTree where
  createContainer := .ok
  createListKeyent _ := .ok
  newDfltNodes _ := .ok
  createLeaf _ _ _ := .ok
  replaceConfig _ := .ok

/-- The configuration of the link "a". -/
def linkEntry : ConfigEntry :=
  ⟨nameA, ENABLED_DEFAULT, cstring "iana-if-type:ethernetCsmacd", none⟩

/-- The configuration of a link that is down is fed back without effect. -/
theorem down_link_unchanged :
    ∃ world next, nlifdOpen oneLinkPlatform (fun _ => ifaceFill oneLink) () = .ok (0, world) ∧
      nlifdIfaceResetConfigDstore agreeingTree world = .ok (.ok [linkEntry]) ∧
      nlifdIfaceProcessChanges agreeingSysrepo oneLinkPlatform linkEntry.created world =
        .ok (.ok, next) ∧ next.objects = world.objects := by
  have opened : nlifdOpen oneLinkPlatform (fun _ => ifaceFill oneLink) () =
      .ok (0, started oneLinkPlatform) := rfl
  have built : nlifdIfaceResetConfigDstore agreeingTree (started oneLinkPlatform) =
      .ok (.ok [linkEntry]) := rfl
  have fed : linkEntry.created.Perm ([linkEntry].flatMap ConfigEntry.created) := .refl _
  obtain ⟨next, done, _, same, _⟩ :=
    (snapshot_faithful_iff agreeingSysrepo one_link_kernel_reports opened built fed).mpr (by decide)
  exact ⟨_, next, opened, built, done, same⟩

def upLink : GetlinkRsp := { oneLink with ifiFlags := IFF_UP }

def upPlatform : CodePlatform Unit where
  hash := djb2Hashing
  kernel := { oneLinkKernel with dump := fun _ => (.ok [upLink], ()) }

/-- The configuration of a link that is up takes it down. -/
theorem up_link_taken_down :
    ∃ world next, nlifdOpen upPlatform (fun _ => ifaceFill oneLink) () = .ok (0, world) ∧
      (∀ hndl ∈ world.store.ifaces, ∃ str, nlifdIfaceTypeStr (world.objects hndl.iface).type
        (world.objects hndl.iface).kind = .ok (some str)) ∧
      nlifdIfaceResetConfigDstore agreeingTree world = .ok (.ok [linkEntry]) ∧
      nlifdIfaceProcessChanges agreeingSysrepo upPlatform linkEntry.created world =
        .ok (.ok, next) ∧
      ifaceAdmstateOf (world.objects 0) = true ∧ ifaceAdmstateOf (next.objects 0) = false ∧
      (requests next.trace).length = 1 := by
  have supported : ∀ hndl ∈ (started upPlatform).store.ifaces, ∃ str,
      nlifdIfaceTypeStr ((started upPlatform).objects hndl.iface).type
        ((started upPlatform).objects hndl.iface).kind = .ok (some str) := by
    intro hndl member
    cases member with
    | head => exact ⟨_, rfl⟩
    | tail _ more => cases more
  have result : (fun done => (done.1, ifaceAdmstateOf (done.2.objects 0),
      (requests done.2.trace).length)) <$> nlifdIfaceProcessChanges agreeingSysrepo upPlatform
        linkEntry.created (started upPlatform) = .ok (.ok, false, 1) := by
    decide +kernel
  obtain ⟨⟨answer, next⟩, done, same⟩ := (map_ok_iff ..).mp result
  simp only [Prod.mk.injEq] at same
  obtain ⟨rfl, off, once⟩ := same
  exact ⟨started upPlatform, next, rfl, supported, rfl, done, rfl, off, once⟩

end Nlif.ConfigSnapshot
