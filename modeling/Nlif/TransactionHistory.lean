import Nlif.ConfigSnapshot
import Nlif.DaemonFrame
import Nlif.StagedRefresh

/-!
# Histories of transactions

Sysrepo hands a transaction to the daemon as a CHANGE event and then closes it with a DONE
or an ABORT event of the same leaves. The restore handlers are the change handlers of the
inverse leaves, so an ABORT after an accepted CHANGE is an accepted transaction of these.
Over a whole session the admin states of the enrolled interfaces are therefore those of a
configuration that takes the leaves of the transactions that were done and none of the
others.
-/

namespace Nlif.TransactionHistory

open LinkModel IfaceModel FaultWalk FaultLoop FlagWord StoreModel GateModel GateSpec
  StoreInvariant StoreLookup StagedStates StagedRefresh LabelledRun DaemonModel DaemonSpec
  DaemonRun TransactionEffect
open DaemonFrame (adminRequest)
open LibraryRun (oneLink oneLinkPlatform)

set_option autoImplicit false

/-- The admin state of each name, as Sysrepo holds it. -/
abbrev Config := CString → Bool

def committed (changes : List LeafChange) (config : Config) : Config :=
  fun name => (requested changes name).getD (config name)

/-- The leaf that asks for what the configuration had. -/
def undoing (config : Config) (change : LeafChange) : LeafChange :=
  match change.node with
  | .enabled _ dflt =>
      { change with
        node := .enabled ((change.key.map config).getD false) dflt
        oper := .modified }
  | .type _ => { change with oper := .deleted }

/-- Sysrepo tells the value the leaf had. -/
def Told (sysrepo : Sysrepo) (config : Config) (change : LeafChange) : Prop :=
  ∀ asked dflt, change.node = .enabled asked dflt →
    ∃ name, change.key = some name ∧
      restoredValue sysrepo dflt change = .ok (some (config name))

section Leaves

variable {config : Config} {change : LeafChange}

theorem undoing_key (config : Config) (change : LeafChange) :
    (undoing config change).key = change.key := by
  unfold undoing
  split <;> rfl

theorem undoing_enabled (config : Config) (change : LeafChange) :
    isEnabled (undoing config change).node = isEnabled change.node := by
  unfold undoing
  split
  · rename_i node
    rw [node]
    rfl
  · rfl

theorem undoing_handled (config : Config) (change : LeafChange) :
    (undoing config change).oper ≠ .moved := by
  unfold undoing
  split
  · intro moved
    cases moved
  · intro moved
    cases moved

theorem undoing_type {value : CString} (config : Config)
    (node : (undoing config change).node = .type value) : change.node = .type value := by
  unfold undoing at node
  split at node
  · cases node
  · exact node

theorem asks_undoing (config : Config) (handled : change.oper ≠ .moved) (name : CString) :
    asks name (undoing config change) = (asks name change).map fun _ => config name := by
  unfold asks undoing
  cases node : change.node with
  | enabled value dflt =>
      simp only
      by_cases key : change.key = some name
      · have wants : ∃ up, changedValue value dflt change.oper = some up := by
          cases oper : change.oper with
          | moved => exact absurd oper handled
          | created | modified | deleted => exact ⟨_, rfl⟩
        obtain ⟨up, wants⟩ := wants
        have now : changedValue ((change.key.map config).getD false) dflt .modified =
            some (config name) := by
          rw [key]
          rfl
        rw [if_pos key, if_pos key, wants, now]
        rfl
      · simp [key]
  | type value => rfl

theorem requested_undoing {changes : List LeafChange} (config : Config)
    (handled : ∀ change ∈ changes, change.oper ≠ .moved) (name : CString) :
    requested (changes.map (undoing config)) name =
      (requested changes name).map fun _ => config name := by
  induction changes with
  | nil => rfl
  | cons change rest ih =>
      have first := asks_undoing config (handled change (List.mem_cons_self ..)) name
      have later := ih fun other listed => handled other (List.mem_cons_of_mem change listed)
      unfold requested at later ⊢
      rw [List.map_cons, List.findSome?_cons, List.findSome?_cons, first, later]
      cases asks name change <;> rfl

theorem changeable_later {objects later : Objects} {ifaces : List Hndl}
    {changes : List LeafChange} (changeable : Changeable objects ifaces changes)
    (same : ∀ hndl ∈ ifaces, (later hndl.iface).name = (objects hndl.iface).name ∧
      (later hndl.iface).type = (objects hndl.iface).type ∧
      (later hndl.iface).kind = (objects hndl.iface).kind) :
    Changeable later ifaces changes where
  single := changeable.single
  named change listed := by
    obtain ⟨hndl, member, key⟩ := changeable.named change listed
    refine ⟨hndl, member, ?_⟩
    rw [(same hndl member).1]
    exact key
  handled := changeable.handled
  typed change listed value node hndl member key := by
    obtain ⟨names, types, kinds⟩ := same hndl member
    rw [names] at key
    rw [types, kinds]
    exact changeable.typed change listed value node hndl member key

theorem changeable_undoing {objects : Objects} {ifaces : List Hndl} {changes : List LeafChange}
    (changeable : Changeable objects ifaces changes) (config : Config) :
    Changeable objects ifaces (changes.map (undoing config)) where
  single := by
    rw [List.pairwise_map]
    refine changeable.single.imp fun different again => different ?_
    simpa only [SameLeaf, undoing_key, undoing_enabled] using again
  named change listed := by
    obtain ⟨source, sourced, rfl⟩ := List.mem_map.mp listed
    rw [undoing_key]
    exact changeable.named source sourced
  handled change listed := by
    obtain ⟨source, _, rfl⟩ := List.mem_map.mp listed
    exact undoing_handled config source
  typed change listed value node hndl member key := by
    obtain ⟨source, sourced, rfl⟩ := List.mem_map.mp listed
    rw [undoing_key] at key
    exact changeable.typed source sourced value (undoing_type config node) hndl member key

end Leaves

section Objects

variable {interface : Iface} {changes : List LeafChange}

theorem with_admstate_again (first second : Bool) (interface : Iface) :
    withAdmstate second (withAdmstate first interface) = withAdmstate second interface := by
  have flags : ((interface.flags &&& ~~~IFF_UP ||| admstateMask first) &&& ~~~IFF_UP) |||
      admstateMask second = interface.flags &&& ~~~IFF_UP ||| admstateMask second := by
    ext i bound
    simp only [BitVec.getElem_and, BitVec.getElem_or, BitVec.getElem_not, iff_up_bit,
      admstate_mask_bit]
    cases interface.flags[i] <;> cases first <;> cases second <;> cases decide (i = 0) <;> rfl
  simp only [withAdmstate, flags]

theorem configured_eq (changes : List LeafChange) (interface : Iface) :
    configured changes interface =
      withAdmstate ((requested changes interface.name).getD (adminUp interface.flags))
        interface := by
  unfold configured
  cases requested changes interface.name with
  | none => exact (with_admstate_self rfl).symm
  | some up => rfl

theorem configured_name (changes : List LeafChange) (interface : Iface) :
    (configured changes interface).name = interface.name := by
  rw [configured_frame]

theorem undo_configured {config : Config}
    (handled : ∀ change ∈ changes, change.oper ≠ .moved)
    (shows : adminUp interface.flags = config interface.name) :
    configured (changes.map (undoing config)) (configured changes interface) = interface := by
  rw [configured_eq, configured_name, requested_undoing config handled, configured_eq]
  cases requested changes interface.name with
  | none =>
      rw [Option.getD_none, with_admstate_self (rfl : adminUp interface.flags = _)]
      exact with_admstate_self rfl
  | some up =>
      rw [Option.map_some, Option.getD_some, with_admstate_again]
      exact with_admstate_self shows

theorem undo_differs {config : Config}
    (handled : ∀ change ∈ changes, change.oper ≠ .moved)
    (shows : adminUp interface.flags = config interface.name) :
    differs (changes.map (undoing config)) (configured changes interface) =
      differs changes interface := by
  unfold differs
  rw [configured_name, requested_undoing config handled]
  cases asked : requested changes interface.name with
  | none => rfl
  | some up =>
      have now : adminUp (configured changes interface).flags = up := by
        rw [configured, asked]
        exact admin_up_with up interface
      simp only [Option.map_some, now, ← shows]
      cases up <;> cases adminUp interface.flags <;> rfl

theorem undo_request {config : Config}
    (handled : ∀ change ∈ changes, change.oper ≠ .moved)
    (shows : adminUp interface.flags = config interface.name) :
    admstateRequest (changes.map (undoing config)) (configured changes interface) =
      adminRequest interface.idx interface.flags := by
  have idx : (configured changes interface).idx = interface.idx := by rw [configured_frame]
  rw [admstateRequest, undo_configured handled shows, idx]
  rfl

end Objects

section Transactions

variable {NameBucket IndexBucket Kstate : Type}
  {platform : Platform NameBucket IndexBucket Kstate} {sysrepo : Sysrepo} {config : Config}
  {origin world next : World NameBucket IndexBucket Kstate} {changes : List LeafChange}

theorem ready_later (ready : Ready platform.hash origin) (store : next.store = origin.store)
    (reach : next.next = origin.next)
    (same : ∀ hndl ∈ origin.store.ifaces, next.objects hndl.iface =
      { origin.objects hndl.iface with
        flags := (next.objects hndl.iface).flags
        opstat := (next.objects hndl.iface).opstat
        lnkmod := (next.objects hndl.iface).lnkmod }) : Ready platform.hash next where
  linked := by
    rw [store, reach]
    refine ready.linked.touch fun hndl member => ?_
    have sound := ready.linked.sound hndl member
    rw [same hndl member]
    exact ⟨rfl, sound.idx, sound.name, sound.ifalias, fun valid =>
      ⟨(sound.held valid).ifalias, (sound.held valid).kind⟩⟩
  indexed := by
    rw [store]
    refine Filed.indexed (ready.indexed.filed.ease ?_ ?_) ready.indexed.named
    · intro hndl member
      apply Or.inr
      simp only [nameKey, NameSettled]
      rw [same hndl member]
    · intro hndl member
      apply Or.inr
      simp only [aliasKey, AliasSettled]
      rw [same hndl member]
  clean hndl member := by
    rw [store] at member
    rw [same hndl member]
    exact ready.clean hndl member
  tidy hndl member := by
    rw [store] at member
    have tidy := ready.tidy hndl member
    rw [same hndl member]
    exact ⟨tidy.clean, tidy.dirty, tidy.flags⟩

theorem walked_ready (walked : Walked platform changes origin origin.store.ifaces next)
    (ready : Ready platform.hash origin) : Ready platform.hash next := by
  apply ready_later ready walked.store walked.next
  intro hndl member
  rw [walked.applied hndl member, configured_frame]

section Undo

variable [DecidableEq NameBucket] [DecidableEq IndexBucket]

theorem restore_hndlr_undoes {change : LeafChange}
    (told : Told sysrepo config change)
    (done : nlifdIfaceChangeHndlr platform (undoing config change) world = .ok (.ok, next)) :
    nlifdIfaceRestoreHndlr sysrepo platform change world = .ok (.ok, next) := by
  have key := undoing_key config change
  have found : nlifdIfaceFromNode platform (undoing config change) world =
      nlifdIfaceFromNode platform change world := by
    unfold nlifdIfaceFromNode
    rw [key]
  cases node : change.node with
  | enabled value dflt =>
      obtain ⟨name, named, told⟩ := told value dflt node
      have inverse : (undoing config change).node = .enabled (config name) dflt ∧
          (undoing config change).oper = .modified := by
        simp [undoing, node, named]
      unfold nlifdIfaceChangeHndlr at done
      rw [inverse.1] at done
      cases change_enabled_ok_iff.mp done with
      | inl lost => cases lost.2.1
      | inr set =>
          obtain ⟨interface, reached, outcome⟩ := set
          cases outcome with
          | inl moved => cases moved.2.1
          | inr sets =>
              obtain ⟨asked, code, wants, set, _⟩ := sets
              rw [inverse.2] at wants
              cases wants
              rw [found] at reached
              unfold nlifdIfaceRestoreHndlr nlifdIfaceRestoreEnabled
              simp only [node, reached, told, ok_bind, set]
  | type value =>
      have inverse : (undoing config change).node = .type value ∧
          (undoing config change).oper = .deleted := by
        simp [undoing, node]
      unfold nlifdIfaceChangeHndlr nlifdIfaceChangeType at done
      rw [inverse.1] at done
      unfold nlifdIfaceRestoreHndlr nlifdIfaceRestoreType
      simp only [node]
      simp only [inverse.2] at done
      split at done
      · cases done
      · exact done

theorem restores_undo (told : ∀ change ∈ changes, Told sysrepo config change)
    (done : srplugProcessChildChanges (nlifdIfaceChangeHndlr platform)
      (changes.map (undoing config)) world = .ok (.ok, next)) :
    srplugProcessChildChanges (nlifdIfaceRestoreHndlr sysrepo platform) changes world =
      .ok (.ok, next) := by
  cases stopping_ok_iff.mp done with
  | inl passed =>
      refine stopping_ok_iff.mpr (.inl ⟨rfl, passed.2.preimage ?_⟩)
      intro change listed state code after visited goes
      have accepted : code = .ok := by simpa using goes
      subst accepted
      exact ⟨.ok, restore_hndlr_undoes (told change listed) visited, rfl⟩
  | inr stopped => simp at stopped

/-- A turn of the abort loop is one of the apply loop without its message. -/
theorem abort_visits {hndl : Hndl} {front : List Hndl} {code : Int}
    (visited : applyIface platform hndl world = .ok (code, next)) (goes : ¬ code < 0)
    (walked : Walked platform changes origin front next) :
    ∃ after, abortIface platform hndl (.ok, world) = .ok (code, .ok, after) ∧
      Walked platform changes origin front after := by
  obtain ⟨middle, applied, spoken⟩ := apply_iface_ok visited
  have turn : abortIface platform hndl (.ok, world) = .ok (code, .ok, middle) := by
    unfold abortIface
    rw [applied]
    simp [goes]
  refine ⟨middle, turn, ?_⟩
  cases spoken with
  | inl named =>
      obtain ⟨_, rfl⟩ := named
      exact ⟨walked.applied, walked.waiting, walked.elsewhere, walked.store, walked.next,
        walked.gate, walked.kernel, walked.posted⟩
  | inr silent =>
      obtain ⟨_, rfl⟩ := silent
      exact walked

theorem aborts_walk (handled : Handled origin changes world) (ready : Ready platform.hash origin)
    (accepting : ∀ request, Accepts platform.kernel request) :
    ∃ next, Passes (abortIface platform) (fun _ => false) world.store.ifaces (.ok, world)
        (.ok, next) ∧
      Walked platform changes origin origin.store.ifaces next := by
  let pending (rest : List Hndl) (state : SrError × World NameBucket IndexBucket Kstate) : Prop :=
    state.1 = .ok ∧ ∃ front, origin.store.ifaces = front ++ rest ∧
      Walked platform changes origin front state.2
  have progress : ∀ hndl rest state, pending (hndl :: rest) state →
      ∃ code next, abortIface platform hndl state = .ok (code, next) ∧ false = false ∧
        pending rest next := by
    intro hndl rest state before
    obtain ⟨answer, middle⟩ := state
    obtain ⟨rfl, front, split, walked⟩ := before
    have member : hndl ∈ origin.store.ifaces := by
      rw [split]
      simp
    have ahead : hndl ∉ front := by
      have nodup := ready.linked.nodup
      rw [split, List.nodup_append] at nodup
      intro listed
      exact nodup.2.2 hndl listed hndl (List.mem_cons_self ..) rfl
    have visited : ∃ code next, applyIface platform hndl middle = .ok (code, next) ∧
        decide (code < 0) = false ∧ Walked platform changes origin (front ++ [hndl]) next := by
      cases asked : differs changes (origin.objects hndl.iface) with
      | true => exact walked.send ready member ahead asked (accepting _)
      | false => exact walked.pass ready member ahead asked
    obtain ⟨code, next, done, goes, after⟩ := visited
    obtain ⟨last, turn, after⟩ := abort_visits done (by simpa using goes) after
    refine ⟨code, (.ok, last), turn, rfl, rfl, front ++ [hndl], ?_, after⟩
    rw [split]
    simp
  have begun : pending world.store.ifaces (.ok, world) :=
    ⟨rfl, [], by rw [handled.store]; rfl, handled.walked⟩
  have completed : ∃ last, Passes (abortIface platform) (fun _ => false) world.store.ifaces
      (.ok, world) last ∧ pending [] last := passes_exist pending progress begun
  obtain ⟨⟨answer, next⟩, passes, good, front, split, walked⟩ := completed
  cases good
  rw [List.append_nil] at split
  refine ⟨next, passes, ?_⟩
  rw [split]
  exact walked

def Shown (config : Config) (world : World NameBucket IndexBucket Kstate) : Prop :=
  ∀ hndl ∈ world.store.ifaces,
    adminUp (world.objects hndl.iface).flags = config (world.objects hndl.iface).name

omit [DecidableEq NameBucket] [DecidableEq IndexBucket] in
theorem walked_frame (walked : Walked platform changes origin origin.store.ifaces next) :
    ∀ hndl ∈ next.store.ifaces,
      (next.objects hndl.iface).name = (origin.objects hndl.iface).name ∧
      (next.objects hndl.iface).type = (origin.objects hndl.iface).type ∧
      (next.objects hndl.iface).kind = (origin.objects hndl.iface).kind := by
  intro hndl member
  rw [walked.store] at member
  rw [walked.applied hndl member, configured_frame]
  exact ⟨rfl, rfl, rfl⟩

theorem abort_walks (ready : Ready platform.hash origin)
    (changeable : Changeable origin.objects origin.store.ifaces changes)
    (told : ∀ change ∈ changes, Told sysrepo config change)
    (accepting : ∀ request, Accepts platform.kernel request)
    (walked : Walked platform changes origin origin.store.ifaces next) :
    ∃ last, nlifdIfaceProcessAborts sysrepo platform changes next = .ok (.ok, last) ∧
      Walked platform (changes.map (undoing config)) next next.store.ifaces last := by
  have readyNext := walked_ready walked ready
  have listed : Changeable origin.objects next.store.ifaces changes := by
    rw [walked.store]
    exact changeable
  obtain ⟨middle, handling, handled⟩ :=
    changes_handled readyNext
      (changeable_later (changeable_undoing listed config) (walked_frame walked))
  obtain ⟨last, passes, walkedBack⟩ := aborts_walk handled readyNext accepting
  exact ⟨last, process_aborts_ok_iff.mpr ⟨middle, restores_undo told handling, passes⟩,
    walkedBack⟩

omit [DecidableEq NameBucket] [DecidableEq IndexBucket] in
theorem walked_back_objects {last : World NameBucket IndexBucket Kstate}
    (handled : ∀ change ∈ changes, change.oper ≠ .moved) (shown : Shown config origin)
    (walked : Walked platform changes origin origin.store.ifaces next)
    (back : Walked platform (changes.map (undoing config)) next next.store.ifaces last) :
    last.objects = origin.objects := by
  funext address
  by_cases listed : address ∈ origin.store.ifaces.map Hndl.iface
  · obtain ⟨hndl, member, rfl⟩ := List.mem_map.mp listed
    rw [back.applied hndl (walked.store ▸ member), walked.applied hndl member]
    exact undo_configured handled (shown hndl member)
  · rw [back.elsewhere address (walked.store ▸ listed), walked.elsewhere address listed]

/-- What the ABORT of a change leaves: the store and the objects from before the change, and
one request for each interface the change had set, with the flags it had. -/
structure Undone (changes : List LeafChange)
    (world next last : World NameBucket IndexBucket Kstate) : Prop where
  objects : last.objects = world.objects
  store : last.store = world.store
  reach : last.next = world.next
  gate : last.gate = world.gate
  requests : requests last.trace =
    ((world.store.ifaces.filter fun hndl => differs changes (world.objects hndl.iface)).map
      fun hndl => adminRequest (world.objects hndl.iface).idx
        (world.objects hndl.iface).flags).reverse ++ requests next.trace

omit [DecidableEq NameBucket] [DecidableEq IndexBucket] in
theorem walked_back_wanted (handled : ∀ change ∈ changes, change.oper ≠ .moved)
    (shown : Shown config origin)
    (walked : Walked platform changes origin origin.store.ifaces next) :
    wanted (changes.map (undoing config)) next.objects next.store.ifaces =
      (origin.store.ifaces.filter fun hndl => differs changes (origin.objects hndl.iface)).map
        fun hndl => adminRequest (origin.objects hndl.iface).idx
          (origin.objects hndl.iface).flags := by
  unfold wanted
  rw [walked.store]
  have same : (origin.store.ifaces.filter fun hndl =>
        differs (changes.map (undoing config)) (next.objects hndl.iface)) =
      origin.store.ifaces.filter fun hndl => differs changes (origin.objects hndl.iface) := by
    apply List.filter_congr
    intro hndl member
    rw [walked.applied hndl member]
    exact undo_differs handled (shown hndl member)
  rw [same]
  apply List.map_congr_left
  intro hndl kept
  have member := List.mem_of_mem_filter kept
  rw [walked.applied hndl member]
  exact undo_request handled (shown hndl member)

omit [DecidableEq NameBucket] [DecidableEq IndexBucket] in
theorem walked_back_undone {last : World NameBucket IndexBucket Kstate}
    (handled : ∀ change ∈ changes, change.oper ≠ .moved) (shown : Shown config origin)
    (walked : Walked platform changes origin origin.store.ifaces next)
    (back : Walked platform (changes.map (undoing config)) next next.store.ifaces last) :
    Undone changes origin next last where
  objects := walked_back_objects handled shown walked back
  store := back.store.trans walked.store
  reach := back.next.trans walked.next
  gate := back.gate.trans walked.gate
  requests := by rw [back.posted, walked_back_wanted handled shown walked]

/-- An accepted change that Sysrepo aborts leaves everything as it was: the ABORT sets back
exactly the interfaces the change has set, in the order of the store. -/
theorem abort_undoes_change (ready : Ready platform.hash world)
    (changeable : Changeable world.objects world.store.ifaces changes)
    (told : ∀ change ∈ changes, Told sysrepo config change) (shown : Shown config world)
    (accepting : ∀ request, Accepts platform.kernel request) :
    ∃ next last, nlifdOnIfaceChange sysrepo platform .change changes world = .ok (.ok, next) ∧
      nlifdOnIfaceChange sysrepo platform .abort changes next = .ok (.ok, last) ∧
      requests next.trace =
        (wanted changes world.objects world.store.ifaces).reverse ++ requests world.trace ∧
      Undone changes world next last := by
  obtain ⟨next, done, walked⟩ :=
    transaction_walks sysrepo ready changeable fun _ _ _ => accepting _
  obtain ⟨last, aborted, back⟩ := abort_walks ready changeable told accepting walked
  exact ⟨next, last, done, aborted, walked.posted,
    walked_back_undone changeable.handled shown walked back⟩

end Undo

/-- A transaction Sysrepo finishes with DONE, one it finishes with ABORT, or a batch of link
notifications. -/
inductive Step where
  | commit (changes : List LeafChange)
  | drop (changes : List LeafChange)
  | notify (notifications : List Notification)

def Step.events : Step → List (DaemonOp × DaemonRet)
  | .commit changes => [(.change .change changes, .sr .ok), (.change .done changes, .sr .ok)]
  | .drop changes => [(.change .change changes, .sr .ok), (.change .abort changes, .sr .ok)]
  | .notify notifications => [(.notify notifications, .code 0)]

def Step.commits (config : Config) : Step → Config
  | .commit changes => committed changes config
  | .drop _ | .notify _ => config

def Step.Sensible (sysrepo : Sysrepo) (origin : World NameBucket IndexBucket Kstate)
    (config : Config) : Step → Prop
  | .commit changes => Changeable origin.objects origin.store.ifaces changes
  | .drop changes => Changeable origin.objects origin.store.ifaces changes ∧
      ∀ change ∈ changes, Told sysrepo config change
  | .notify _ => True

/-- The leaves of every step are changes of the configuration it meets. -/
def Sensible (sysrepo : Sysrepo) (origin : World NameBucket IndexBucket Kstate) :
    Config → List Step → Prop
  | _, [] => True
  | config, step :: rest =>
      step.Sensible sysrepo origin config ∧ Sensible sysrepo origin (step.commits config) rest

/-- The store of the origin, with the admin states of the configuration and whatever
notifications brought. -/
structure Steady (origin : World NameBucket IndexBucket Kstate) (config : Config)
    (world : World NameBucket IndexBucket Kstate) : Prop where
  store : world.store = origin.store
  reach : world.next = origin.next
  gate : world.gate = origin.gate
  settings : ∀ hndl ∈ origin.store.ifaces,
    SameSettings (withAdmstate (config (origin.objects hndl.iface).name)
      (origin.objects hndl.iface)) (world.objects hndl.iface)
  elsewhere : ∀ address, address ∉ origin.store.ifaces.map Hndl.iface →
    world.objects address = origin.objects address

theorem steady_refl (shown : Shown config origin) : Steady origin config origin where
  store := rfl
  reach := rfl
  gate := rfl
  settings hndl member := by
    rw [with_admstate_self (shown hndl member)]
    exact same_settings_refl _
  elsewhere _ _ := rfl

theorem Steady.frame (steady : Steady origin config world) {hndl : Hndl}
    (member : hndl ∈ origin.store.ifaces) :
    world.objects hndl.iface = { origin.objects hndl.iface with
      flags := (world.objects hndl.iface).flags
      opstat := (world.objects hndl.iface).opstat
      lnkmod := (world.objects hndl.iface).lnkmod } := by
  have fields := (steady.settings hndl member).fields
  rw [fields]
  rfl

theorem Steady.ready (steady : Steady origin config world) (ready : Ready platform.hash origin) :
    Ready platform.hash world :=
  ready_later ready steady.store steady.reach fun _ member => steady.frame member

theorem Steady.shown (steady : Steady origin config world) : Shown config world := by
  intro hndl member
  rw [steady.store] at member
  have same := steady.settings hndl member
  have name : (world.objects hndl.iface).name = (origin.objects hndl.iface).name := by
    rw [steady.frame member]
  have up := (agree_on_iff ..).mp same.flags 0 (by decide) (by decide)
  rw [name, ← admin_up_with (config (origin.objects hndl.iface).name)
    (origin.objects hndl.iface), admin_up_eq, admin_up_eq]
  exact up

theorem Steady.changeable (steady : Steady origin config world)
    (changeable : Changeable origin.objects origin.store.ifaces changes) :
    Changeable world.objects world.store.ifaces changes := by
  rw [steady.store]
  refine changeable_later changeable fun hndl member => ?_
  rw [steady.frame member]
  exact ⟨rfl, rfl, rfl⟩

theorem same_settings_with_admstate {first second : Bool} {before after : Iface}
    (same : SameSettings (withAdmstate first before) after) :
    SameSettings (withAdmstate second before) (withAdmstate second after) where
  fields := by
    rw [same.fields]
    rfl
  flags := by
    have agree := (agree_on_iff ..).mp same.flags
    rw [agree_on_iff]
    intro i bound stable
    have bit := agree i bound stable
    simp only [withAdmstate, BitVec.getElem_and, BitVec.getElem_or, BitVec.getElem_not,
      iff_up_bit, admstate_mask_bit] at bit ⊢
    rw [bit]
    by_cases lowest : i = 0
    · simp [lowest]
    · simp [lowest]

theorem Steady.walked (steady : Steady origin config world)
    (walked : Walked platform changes world world.store.ifaces next) :
    Steady origin (committed changes config) next where
  store := walked.store.trans steady.store
  reach := walked.next.trans steady.reach
  gate := walked.gate.trans steady.gate
  settings hndl member := by
    have there : hndl ∈ world.store.ifaces := steady.store ▸ member
    have name : (world.objects hndl.iface).name = (origin.objects hndl.iface).name := by
      rw [steady.frame member]
    rw [walked.applied hndl there, configured_eq, steady.shown hndl there, name]
    exact same_settings_with_admstate (steady.settings hndl member)
  elsewhere address absent := by
    rw [walked.elsewhere address (steady.store ▸ absent)]
    exact steady.elsewhere address absent

theorem Steady.undone {last : World NameBucket IndexBucket Kstate}
    (steady : Steady origin config world) (undone : Undone changes world next last) :
    Steady origin config last where
  store := undone.store.trans steady.store
  reach := undone.reach.trans steady.reach
  gate := undone.gate.trans steady.gate
  settings := by
    rw [undone.objects]
    exact steady.settings
  elsewhere := by
    rw [undone.objects]
    exact steady.elsewhere

theorem Steady.traced (steady : Steady origin config world) (trace : List Event) :
    Steady origin config { world with trace } :=
  ⟨steady.store, steady.reach, steady.gate, steady.settings, steady.elsewhere⟩

theorem Steady.refreshed (steady : Steady origin config world)
    (ready : Ready platform.hash origin) {hndl : Hndl} (member : hndl ∈ origin.store.ifaces)
    (link : GetlinkRsp) :
    Steady origin config
      (world.setObject hndl.iface (ifaceRefreshState (world.objects hndl.iface) link).2) where
  store := steady.store
  reach := steady.reach
  gate := steady.gate
  settings other there := by
    by_cases same : other.iface = hndl.iface
    · rw [ready.linked.same_iface there member same, World.set_object_self]
      exact (steady.settings hndl member).trans (refresh_same_settings _ link)
    · rw [(local_set_object hndl.iface _ world).elsewhere _ same]
      exact steady.settings other there
  elsewhere address absent := by
    have different : address ≠ hndl.iface := by
      intro same
      exact absent (same ▸ List.mem_map_of_mem member)
    rw [(local_set_object hndl.iface _ world).elsewhere address different]
    exact steady.elsewhere address absent

section Sessions

variable [DecidableEq NameBucket] [DecidableEq IndexBucket]

theorem push_oper_records {interface : Addr}
    (valid : (world.objects interface).state ≠ .invalid) :
    ∃ trace, nlifdPushOper sysrepo platform interface world = .ok { world with trace } := by
  unfold nlifdPushOper ifaceCoherentName ifaceCoherent
  rw [sync_passes platform interface world valid]
  simp only [ok_bind, ne_eq, not_true_eq_false, if_false]
  split
  · exact ⟨world.trace, rfl⟩
  · have calls := refresh_oper_calls sysrepo (world.objects interface).name interface world
    obtain oper | admin | both := calls
    · exact ⟨_, by rw [oper]; rfl⟩
    · exact ⟨_, by rw [admin]; rfl⟩
    · exact ⟨_, by rw [both]; rfl⟩

theorem change_steady (ready : Ready platform.hash origin) (subscribed : origin.gate.notif = true)
    (steady : Steady origin config world) (link : GetlinkRsp) :
    ∃ next, gateNotify platform (nlifdPushOper sysrepo platform) (.change link) world =
      .ok (0, next) ∧ Steady origin config next := by
  have heard : world.gate.notif = true := by
    rw [steady.gate]
    exact subscribed
  have readyNow := steady.ready ready
  have changes : ∃ next, storeOnIfaceChange platform (nlifdPushOper sysrepo platform) link world =
      .ok next ∧ Steady origin config next := by
    unfold storeOnIfaceChange
    cases found : storeFindIfaceByindex platform.hash world.objects world.store link.ifiIndex with
    | none => exact ⟨world, rfl, steady⟩
    | some interface =>
        obtain ⟨hndl, member, rfl, _⟩ := (find_byindex_iff readyNow.linked ..).mp found
        have after := steady.refreshed ready (steady.store ▸ member) link
        have valid : (ifaceRefreshState (world.objects hndl.iface) link).2.state ≠ .invalid := by
          have clean : (world.objects hndl.iface).state = .clean := readyNow.clean hndl member
          simp only [ifaceRefreshState, clean]
          decide
        simp only
        split
        · rw [← World.set_object_self hndl.iface
            (ifaceRefreshState (world.objects hndl.iface) link).2 world] at valid
          obtain ⟨trace, pushed⟩ := push_oper_records valid
          exact ⟨_, pushed, after.traced trace⟩
        · exact ⟨_, rfl, after⟩
  obtain ⟨next, changed, after⟩ := changes
  refine ⟨next.record (.notified .change link.ifiIndex 0), ?_, after.traced _⟩
  simp only [gateNotify, heard, if_true, storeOnEvent, changed]
  rfl

theorem dispatch_steady (ready : Ready platform.hash origin)
    (subscribed : origin.gate.notif = true) (steady : Steady origin config world)
    (notifications : List Notification) :
    ∃ next, nlifdDispatchNotif sysrepo platform notifications world = .ok (0, next) ∧
      Steady origin config next := by
  unfold nlifdDispatchNotif
  induction notifications generalizing world with
  | nil => exact ⟨world, rfl, steady⟩
  | cons notification rest ih =>
      unfold gateNotifyChanges
      split
      · exact ih steady
      · obtain ⟨middle, notified, after⟩ := change_steady ready subscribed steady notification.link
        obtain ⟨next, done, final⟩ := ih after
        refine ⟨next, ?_, final⟩
        rw [notified]
        exact done

theorem step_steady (ready : Ready platform.hash origin) (subscribed : origin.gate.notif = true)
    (accepting : ∀ request, Accepts platform.kernel request) (steady : Steady origin config world)
    {step : Step} (sensible : step.Sensible sysrepo origin config) :
    ∃ next, Run (daemonMachine sysrepo platform) world step.events next ∧
      Steady origin (step.commits config) next := by
  have readyNow := steady.ready ready
  cases step with
  | commit changes =>
      obtain ⟨next, done, walked⟩ := transaction_walks sysrepo readyNow
        (steady.changeable sensible) fun _ _ _ => accepting _
      have changed : (daemonMachine sysrepo platform).step (.change .change changes) world =
          .ok (.sr .ok, next) := (map_ok_iff ..).mpr ⟨_, done, rfl⟩
      have closed : (daemonMachine sysrepo platform).step (.change .done changes) next =
          .ok (.sr .ok, next) := rfl
      exact ⟨next, .step (.step .start trivial changed) trivial closed, steady.walked walked⟩
  | drop changes =>
      obtain ⟨changeable, told⟩ := sensible
      have changeableNow := steady.changeable changeable
      obtain ⟨next, done, walked⟩ := transaction_walks sysrepo readyNow changeableNow
        fun _ _ _ => accepting _
      obtain ⟨last, aborted, back⟩ := abort_walks readyNow changeableNow told accepting walked
      have changed : (daemonMachine sysrepo platform).step (.change .change changes) world =
          .ok (.sr .ok, next) := (map_ok_iff ..).mpr ⟨_, done, rfl⟩
      have closed : (daemonMachine sysrepo platform).step (.change .abort changes) next =
          .ok (.sr .ok, last) := (map_ok_iff ..).mpr ⟨_, aborted, rfl⟩
      exact ⟨last, .step (.step .start trivial changed) trivial closed,
        steady.undone (walked_back_undone changeable.handled steady.shown walked back)⟩
  | notify notifications =>
      obtain ⟨next, done, after⟩ := dispatch_steady ready subscribed steady notifications
      have notified : (daemonMachine sysrepo platform).step (.notify notifications) world =
          .ok (.code 0, next) := (map_ok_iff ..).mpr ⟨_, done, rfl⟩
      exact ⟨next, .step .start trivial notified, after⟩

theorem steps_steady (ready : Ready platform.hash origin) (subscribed : origin.gate.notif = true)
    (accepting : ∀ request, Accepts platform.kernel request) {steps : List Step}
    (steady : Steady origin config world) (sensible : Sensible sysrepo origin config steps) :
    ∃ last, Run (daemonMachine sysrepo platform) world (steps.flatMap Step.events) last ∧
      Steady origin (steps.foldl Step.commits config) last := by
  induction steps generalizing config world with
  | nil => exact ⟨world, .start, steady⟩
  | cons step rest ih =>
      obtain ⟨first, later⟩ := sensible
      obtain ⟨middle, run, after⟩ := step_steady ready subscribed accepting steady first
      obtain ⟨last, onward, final⟩ := ih after later
      exact ⟨last, run.trans onward, final⟩

/-- Over every session of transactions that Sysrepo finishes or aborts, with notifications
in between, the daemon completes, and each interface has the admin state of the
configuration that took the leaves of the finished transactions only. -/
theorem session_shows_configuration (ready : Ready platform.hash origin)
    (subscribed : origin.gate.notif = true) (shown : Shown config origin)
    (accepting : ∀ request, Accepts platform.kernel request) {steps : List Step}
    (sensible : Sensible sysrepo origin config steps) :
    ∃ last, Run (daemonMachine sysrepo platform) origin (steps.flatMap Step.events) last ∧
      Steady origin (steps.foldl Step.commits config) last :=
  steps_steady ready subscribed accepting (steady_refl shown) sensible

end Sessions

end Transactions

theorem loaded_init_shown : Shown (fun _ => false) loadedInit := by
  intro hndl member
  cases member with
  | head => rfl
  | tail _ more => cases more

theorem enabled_leaves_told :
    ∀ change ∈ [enableLink, typeLink], Told agreeingSysrepo (fun _ => false) change := by
  intro change listed asked dflt node
  cases listed with
  | head =>
      cases node
      exact ⟨nameA, rfl, rfl⟩
  | tail _ more =>
      rw [List.mem_singleton.mp more] at node
      cases node

/-- The interface "a" is enabled, and set back. -/
theorem enabled_link_undone :
    ∃ next last,
      nlifdOnIfaceChange agreeingSysrepo oneLinkPlatform .change [enableLink, typeLink]
        loadedInit = .ok (.ok, next) ∧
      nlifdOnIfaceChange agreeingSysrepo oneLinkPlatform .abort [enableLink, typeLink] next =
        .ok (.ok, last) ∧
      requests next.trace = (wanted [enableLink, typeLink] loadedInit.objects
        loadedInit.store.ifaces).reverse ++ requests loadedInit.trace ∧
      Undone [enableLink, typeLink] loadedInit next last :=
  abort_undoes_change loaded_init_ready loaded_init_changeable enabled_leaves_told
    loaded_init_shown fun _ _ => rfl

def enablingSession : List Step :=
  [.drop [enableLink, typeLink], .commit [enableLink, typeLink],
    .notify [⟨true, { oneLink with operstate := some 6 }⟩]]

theorem enabling_session_shown :
    ∃ last, Run (daemonMachine agreeingSysrepo oneLinkPlatform) loadedInit
        (enablingSession.flatMap Step.events) last ∧
      Steady loadedInit (enablingSession.foldl Step.commits fun _ => false) last :=
  session_shows_configuration loaded_init_ready rfl loaded_init_shown (fun _ _ => rfl)
    ⟨⟨loaded_init_changeable, enabled_leaves_told⟩, loaded_init_changeable, trivial, trivial⟩

end Nlif.TransactionHistory
