import Nlif.ApplyAgreement
import Nlif.DaemonRun
import Nlif.StagedStates

/-!
# What an accepted transaction does

The change handlers stage the admin state each leaf asks for and the walk over
the store sends it. Where the kernel accepts every request both loops can be
written down: `staged` is an object between the loops, `configured` after them,
and the order of the leaves is in neither.
-/

namespace Nlif.TransactionEffect

open LinkModel IfaceModel FaultWalk FaultLoop BucketTable StoreModel GateModel GateSpec
  StoreInvariant StoreLookup StagedStates DaemonModel DaemonSpec LabelledRun
open DaemonRun (agreeingSysrepo enableLink)
open LibraryRun (oneLink oneLinkPlatform oneLinkInit)

set_option autoImplicit false

/-- The admin state a leaf asks of the interface of this name. -/
def asks (name : CString) (change : LeafChange) : Option Bool :=
  match change.node with
  | .enabled value dflt =>
      if change.key = some name then changedValue value dflt change.oper else none
  | .type _ => none

def requested (changes : List LeafChange) (name : CString) : Option Bool :=
  changes.findSome? (asks name)

def withAdmstate (up : Bool) (interface : Iface) : Iface :=
  { interface with flags := (interface.flags &&& ~~~IFF_UP) ||| admstateMask up }

def configured (changes : List LeafChange) (interface : Iface) : Iface :=
  match requested changes interface.name with
  | none => interface
  | some up => withAdmstate up interface

def differs (changes : List LeafChange) (interface : Iface) : Bool :=
  match requested changes interface.name with
  | none => false
  | some up => adminUp interface.flags != up

def staged (changes : List LeafChange) (interface : Iface) : Iface :=
  if differs changes interface then
    { configured changes interface with state := .dirty, dirtyFlags := IFF_UP }
  else interface

def admstateRequest (changes : List LeafChange) (interface : Iface) : SetlinkReq where
  ifiIndex := interface.idx
  ifiFlags := (configured changes interface).flags
  ifiChange := IFF_UP
  group := none
  ifname := none
  ifalias := none
  mtu := none
  address := none

def isEnabled : LeafNode → Bool
  | .enabled _ _ => true
  | .type _ => false

def SameLeaf (left right : LeafChange) : Prop :=
  left.key = right.key ∧ isEnabled left.node = isEnabled right.node

section Objects

variable {changes : List LeafChange} {interface : Iface}

theorem with_admstate_self {up : Bool} (same : adminUp interface.flags = up) :
    withAdmstate up interface = interface := by
  have flags : (interface.flags &&& ~~~IFF_UP) ||| admstateMask up = interface.flags := by
    rw [← (masked_up_iff interface.flags up).mpr same]
    ext i bound
    simp only [BitVec.getElem_and, BitVec.getElem_or, BitVec.getElem_not]
    cases interface.flags[i] <;> cases IFF_UP[i] <;> rfl
  rw [withAdmstate, flags]

theorem admin_up_with (up : Bool) (interface : Iface) :
    adminUp (withAdmstate up interface).flags = up := by
  rw [admin_up_eq]
  simp [withAdmstate, iff_up_bit, admstate_mask_bit]

theorem configured_same (same : differs changes interface = false) :
    configured changes interface = interface := by
  unfold configured
  unfold differs at same
  split
  · rfl
  · rename_i up asked
    rw [asked] at same
    exact with_admstate_self (by simpa using same)

theorem configured_frame (changes : List LeafChange) (interface : Iface) :
    configured changes interface =
      { interface with flags := (configured changes interface).flags } := by
  unfold configured
  split <;> rfl

theorem configured_outside (changes : List LeafChange) (interface : Iface) :
    (configured changes interface).flags &&& ~~~IFF_UP = interface.flags &&& ~~~IFF_UP := by
  unfold configured
  split
  · rfl
  · rename_i up _
    ext i bound
    simp only [withAdmstate, BitVec.getElem_and, BitVec.getElem_or, BitVec.getElem_not,
      admstate_mask_bit, iff_up_bit]
    cases interface.flags[i] <;> cases up <;> cases decide (i = 0) <;> rfl

theorem staged_frame (changes : List LeafChange) (interface : Iface) :
    (staged changes interface).name = interface.name ∧
      (staged changes interface).idx = interface.idx ∧
      (staged changes interface).type = interface.type ∧
      (staged changes interface).kind = interface.kind ∧
      (staged changes interface).dirtyFields = interface.dirtyFields := by
  unfold staged
  split
  · rw [configured_frame]
    exact ⟨rfl, rfl, rfl, rfl, rfl⟩
  · exact ⟨rfl, rfl, rfl, rfl, rfl⟩

theorem staged_valid (clean : interface.state = .clean) :
    (staged changes interface).state ≠ .invalid := by
  unfold staged
  split
  · intro invalid
    cases invalid
  · rw [clean]
    decide

theorem requested_append (front : List LeafChange) (change : LeafChange) (name : CString) :
    requested (front ++ [change]) name = (requested front name).or (asks name change) := by
  have last : List.findSome? (asks name) [change] = asks name change := by
    rw [List.findSome?_cons]
    cases asks name change <;> rfl
  rw [requested, List.findSome?_append, last, requested]

theorem staged_append {front : List LeafChange} {change : LeafChange}
    (silent : asks interface.name change = none) :
    staged (front ++ [change]) interface = staged front interface := by
  have same : requested (front ++ [change]) interface.name = requested front interface.name := by
    rw [requested_append, silent, Option.or_none]
  unfold staged differs configured
  rw [same]

end Objects

/-- Leaves that name enrolled interfaces and types that are the interfaces' own. -/
structure Changeable (objects : Objects) (ifaces : List Hndl) (changes : List LeafChange) :
    Prop where
  single : changes.Pairwise fun left right => ¬ SameLeaf left right
  named : ∀ change ∈ changes, ∃ hndl ∈ ifaces, change.key = some (objects hndl.iface).name
  handled : ∀ change ∈ changes, change.oper ≠ .moved
  typed : ∀ change ∈ changes, ∀ value, change.node = .type value → ∀ hndl ∈ ifaces,
    change.key = some (objects hndl.iface).name →
      nlifdIfaceTypeStr (objects hndl.iface).type (objects hndl.iface).kind = .ok (some value)

theorem single_perm {changes other : List LeafChange}
    (single : changes.Pairwise fun left right => ¬ SameLeaf left right)
    (perm : other.Perm changes) : other.Pairwise fun left right => ¬ SameLeaf left right := by
  apply perm.symm.pairwise single
  intro left right different same
  exact different ⟨same.1.symm, same.2.symm⟩

theorem Changeable.perm {objects : Objects} {ifaces : List Hndl} {changes other : List LeafChange}
    (changeable : Changeable objects ifaces changes) (perm : other.Perm changes) :
    Changeable objects ifaces other where
  single := single_perm changeable.single perm
  named change listed := changeable.named change (perm.mem_iff.mp listed)
  handled change listed := changeable.handled change (perm.mem_iff.mp listed)
  typed change listed := changeable.typed change (perm.mem_iff.mp listed)

theorem asks_once {changes : List LeafChange}
    (single : changes.Pairwise fun left right => ¬ SameLeaf left right)
    {front rest : List LeafChange} {change : LeafChange}
    (split : changes = front ++ change :: rest) {name : CString} (key : change.key = some name)
    (enabled : isEnabled change.node = true) :
    requested front name = none := by
  rw [requested, List.findSome?_eq_none_iff]
  intro other listed
  rw [split, List.pairwise_append] at single
  have different := single.2.2 other listed change (List.mem_cons_self ..)
  unfold asks
  split
  · rename_i value dflt node
    apply if_neg
    intro same
    exact different ⟨same.trans key.symm, by rw [node, enabled]; rfl⟩
  · rfl

theorem asks_some {name : CString} {change : LeafChange} {up : Bool}
    (asked : asks name change = some up) :
    change.key = some name ∧ isEnabled change.node = true := by
  unfold asks at asked
  split at asked
  · rename_i value dflt node
    split at asked
    · rename_i key
      exact ⟨key, by rw [node]; rfl⟩
    · cases asked
  · cases asked

theorem requested_some_iff {changes : List LeafChange}
    (single : changes.Pairwise fun left right => ¬ SameLeaf left right) (name : CString)
    (up : Bool) :
    requested changes name = some up ↔ ∃ change ∈ changes, asks name change = some up := by
  constructor
  · intro asked
    obtain ⟨front, change, rest, split, asked, _⟩ := List.findSome?_eq_some_iff.mp asked
    exact ⟨change, by rw [split]; simp, asked⟩
  · intro asked
    obtain ⟨change, listed, asked⟩ := asked
    obtain ⟨front, rest, split⟩ := List.append_of_mem listed
    obtain ⟨key, enabled⟩ := asks_some asked
    have silent := asks_once single split key enabled
    rw [requested, List.findSome?_eq_none_iff] at silent
    exact List.findSome?_eq_some_iff.mpr ⟨front, change, rest, split, asked, silent⟩

/-- The order of the leaves does not matter. -/
theorem requested_perm {changes other : List LeafChange}
    (single : changes.Pairwise fun left right => ¬ SameLeaf left right)
    (perm : other.Perm changes) : requested other = requested changes := by
  have singleToo := single_perm single perm
  funext name
  apply Option.ext
  intro up
  rw [requested_some_iff singleToo, requested_some_iff single]
  simp only [perm.mem_iff]

section Loops

variable {NameBucket IndexBucket Kstate : Type}

/-- The representation of a store whose interfaces are all `CLEAN`. -/
structure Ready (hash : Hashing NameBucket IndexBucket)
    (world : World NameBucket IndexBucket Kstate) : Prop where
  linked : Linked hash world.objects world.next world.store
  indexed : Indexed hash world.objects world.store
  clean : ∀ hndl ∈ world.store.ifaces, (world.objects hndl.iface).state = .clean
  tidy : ∀ hndl ∈ world.store.ifaces, Tidy (world.objects hndl.iface)

def changed (objects : Objects) (ifaces : List Hndl) (change : Iface → Iface) : Objects :=
  fun address =>
    if address ∈ ifaces.map Hndl.iface then change (objects address) else objects address

theorem changed_listed (objects : Objects) {ifaces : List Hndl} {hndl : Hndl}
    (member : hndl ∈ ifaces) (change : Iface → Iface) :
    changed objects ifaces change hndl.iface = change (objects hndl.iface) :=
  if_pos (List.mem_map_of_mem member)

theorem changed_name (objects : Objects) (ifaces : List Hndl) {change : Iface → Iface}
    (same : ∀ interface, (change interface).name = interface.name) (address : Addr) :
    (changed objects ifaces change address).name = (objects address).name := by
  unfold changed
  split
  · exact same _
  · rfl

theorem changed_update {objects : Objects} {ifaces : List Hndl} {hndl : Hndl}
    (member : hndl ∈ ifaces) {before after : Iface → Iface}
    (others : ∀ other ∈ ifaces, other.iface ≠ hndl.iface →
      after (objects other.iface) = before (objects other.iface)) :
    Function.update (changed objects ifaces before) hndl.iface (after (objects hndl.iface)) =
      changed objects ifaces after := by
  funext address
  by_cases self : address = hndl.iface
  · rw [self, Function.update_self, changed_listed objects member]
  · rw [Function.update_of_ne self]
    unfold changed
    split
    · rename_i listed
      obtain ⟨other, there, same⟩ := List.mem_map.mp listed
      subst same
      exact (others other there self).symm
    · rfl

theorem Ready.settled {hash : Hashing NameBucket IndexBucket}
    {world : World NameBucket IndexBucket Kstate} (ready : Ready hash world) {hndl : Hndl}
    (member : hndl ∈ world.store.ifaces) : Settled (world.objects hndl.iface) := by
  have clean := ready.clean hndl member
  have fields := ((ready.tidy hndl member).clean clean).1
  simp [Settled, clean, fields]

theorem Ready.distinct {hash : Hashing NameBucket IndexBucket}
    {world : World NameBucket IndexBucket Kstate} (ready : Ready hash world) {hndl other : Hndl}
    (member : hndl ∈ world.store.ifaces) (there : other ∈ world.store.ifaces)
    (same : (world.objects other.iface).name = (world.objects hndl.iface).name) : other = hndl := by
  have key := settled_name_key (ready.settled there)
  rw [same] at key
  exact ready.indexed.names.once other there hndl member _ key
    (settled_name_key (ready.settled member))

theorem Ready.from_node {platform : Platform NameBucket IndexBucket Kstate}
    {origin world : World NameBucket IndexBucket Kstate} (ready : Ready platform.hash origin)
    {hndl : Hndl} (member : hndl ∈ origin.store.ifaces) (store : world.store = origin.store)
    (names : ∀ address, (world.objects address).name = (origin.objects address).name)
    {change : LeafChange} (key : change.key = some (origin.objects hndl.iface).name) :
    nlifdIfaceFromNode platform change world = some hndl.iface := by
  have valid := (ready.linked.sound hndl member).name
  obtain ⟨found, there, search, same, _⟩ :=
    find_byname_settled ready.linked ready.indexed member (ready.settled member)
  rw [ready.distinct member there same] at search
  unfold nlifdIfaceFromNode
  rw [key]
  simp only [if_pos valid]
  rw [← search]
  simp only [storeFindIfaceByname, storeSearchIfaceByname, store, names]

def requests (trace : List Event) : List SetlinkReq :=
  trace.filterMap fun event =>
    match event with
    | .setlink request _ => some request
    | _ => none

structure Handled (origin : World NameBucket IndexBucket Kstate) (front : List LeafChange)
    (world : World NameBucket IndexBucket Kstate) : Prop where
  objects : world.objects = changed origin.objects origin.store.ifaces (staged front)
  store : world.store = origin.store
  next : world.next = origin.next
  gate : world.gate = origin.gate
  kernel : world.kernel = origin.kernel
  unsent : requests world.trace = requests origin.trace

variable {platform : Platform NameBucket IndexBucket Kstate}
  {origin world : World NameBucket IndexBucket Kstate}

theorem Handled.object {front : List LeafChange} (handled : Handled origin front world)
    {hndl : Hndl} (member : hndl ∈ origin.store.ifaces) :
    world.objects hndl.iface = staged front (origin.objects hndl.iface) := by
  rw [handled.objects]
  exact changed_listed _ member _

theorem Handled.from_node {front : List LeafChange} (handled : Handled origin front world)
    (ready : Ready platform.hash origin) {hndl : Hndl} (member : hndl ∈ origin.store.ifaces)
    {change : LeafChange} (key : change.key = some (origin.objects hndl.iface).name) :
    nlifdIfaceFromNode platform change world = some hndl.iface := by
  apply ready.from_node member handled.store _ key
  intro address
  rw [handled.objects]
  exact changed_name _ _ (fun interface => (staged_frame front interface).1) address

theorem stage_clean {front : List LeafChange} {change : LeafChange} {interface : Iface}
    (tidy : Tidy interface) (clean : interface.state = .clean) {up : Bool}
    (silent : requested front interface.name = none)
    (asked : asks interface.name change = some up) :
    stageAdmstate up (staged front interface) =
      .ok (0, staged (front ++ [change]) interface) := by
  have before : staged front interface = interface := by
    simp [staged, differs, silent]
  have wanted : requested (front ++ [change]) interface.name = some up := by
    rw [requested_append, silent, asked]
    rfl
  have flags := (tidy.clean clean).2
  rw [before]
  unfold stageAdmstate staged differs
  simp only [wanted]
  by_cases same : adminUp interface.flags = up
  · have masked := (masked_up_iff interface.flags up).mpr same
    simp [masked, same]
  · have masked : interface.flags &&& IFF_UP ≠ admstateMask up :=
      fun equal => same ((masked_up_iff interface.flags up).mp equal)
    simp [masked, same, configured, wanted, withAdmstate, flags]

section Handlers

variable [DecidableEq NameBucket] [DecidableEq IndexBucket]

theorem enabled_handled {front : List LeafChange} {change : LeafChange}
    (ready : Ready platform.hash origin) (handled : Handled origin front world) {hndl : Hndl}
    (member : hndl ∈ origin.store.ifaces)
    (key : change.key = some (origin.objects hndl.iface).name) {value : Bool}
    {dflt : Option Bool} (node : change.node = .enabled value dflt) {up : Bool}
    (wanted : changedValue value dflt change.oper = some up)
    (silent : requested front (origin.objects hndl.iface).name = none) :
    ∃ next, nlifdIfaceChangeHndlr platform change world = .ok (.ok, next) ∧
      Handled origin (front ++ [change]) next := by
  have found := handled.from_node ready member key
  have asked : asks (origin.objects hndl.iface).name change = some up := by
    simp only [asks, node, key, if_true, wanted]
  have object := handled.object member
  have clean := ready.clean hndl member
  have before : staged front (origin.objects hndl.iface) = origin.objects hndl.iface := by
    simp [staged, differs, silent]
  have valid : (world.objects hndl.iface).state ≠ .invalid := by
    rw [object, before, clean]
    decide
  have body := stage_clean (ready.tidy hndl member) clean silent asked
  rw [← object] at body
  have set : ifaceSetAdmstate platform up hndl.iface world = .ok (0, world.setObject hndl.iface
      (staged (front ++ [change]) (origin.objects hndl.iface))) := by
    simp only [ifaceSetAdmstate, ifaceSet, sync_passes _ _ _ valid, ok_bind, ne_eq,
      not_true_eq_false, if_false, stage, body]
  have done : nlifdIfaceChangeHndlr platform change world = .ok (.ok, world.setObject hndl.iface
      (staged (front ++ [change]) (origin.objects hndl.iface))) := by
    unfold nlifdIfaceChangeHndlr
    rw [node]
    exact change_enabled_ok_iff.mpr (.inr ⟨_, found, .inr ⟨up, 0, wanted, set, rfl⟩⟩)
  have others : ∀ other ∈ origin.store.ifaces, other.iface ≠ hndl.iface →
      staged (front ++ [change]) (origin.objects other.iface) =
        staged front (origin.objects other.iface) := by
    intro other there different
    apply staged_append
    have names : (origin.objects hndl.iface).name ≠ (origin.objects other.iface).name := by
      intro same
      exact different (congrArg Hndl.iface (ready.distinct member there same.symm))
    simp [asks, node, key, names]
  refine ⟨_, done, ?_, handled.store, handled.next, handled.gate, handled.kernel, handled.unsent⟩
  rw [← changed_update member others, ← handled.objects]
  rfl

theorem type_handled {front : List LeafChange} {change : LeafChange}
    (ready : Ready platform.hash origin) (handled : Handled origin front world) {hndl : Hndl}
    (member : hndl ∈ origin.store.ifaces)
    (key : change.key = some (origin.objects hndl.iface).name) {value : CString}
    (node : change.node = .type value) (handledOper : change.oper ≠ .moved)
    (typed : nlifdIfaceTypeStr (origin.objects hndl.iface).type (origin.objects hndl.iface).kind =
      .ok (some value)) :
    ∃ next, nlifdIfaceChangeHndlr platform change world = .ok (.ok, next) ∧
      Handled origin (front ++ [change]) next := by
  have found := handled.from_node ready member key
  have quiet : staged (front ++ [change]) = staged front := by
    funext interface
    apply staged_append
    simp [asks, node]
  have same : ∀ trace, requests trace = requests origin.trace →
      Handled origin (front ++ [change]) { world with trace } := by
    intro trace unsent
    refine ⟨?_, handled.store, handled.next, handled.gate, handled.kernel, unsent⟩
    rw [quiet]
    exact handled.objects
  have object := handled.object member
  obtain ⟨_, _, type, kind, _⟩ := staged_frame front (origin.objects hndl.iface)
  have valid : (world.objects hndl.iface).state ≠ .invalid := by
    rw [object]
    exact staged_valid (ready.clean hndl member)
  have read : nlifdIfaceCoherentTypeStr platform hndl.iface world =
      .ok (.ok value, callAsserting .kind hndl.iface world) := by
    have str : nlifdIfaceTypeStr (world.objects hndl.iface).type (world.objects hndl.iface).kind =
        .ok (some value) := by
      rw [object, type, kind]
      exact typed
    simp only [nlifdIfaceCoherentTypeStr, ifaceCoherentType, ifaceCoherent,
      sync_passes _ _ _ valid, ok_bind, ne_eq, not_true_eq_false, if_false]
    have objects : (callAsserting .kind hndl.iface world).objects = world.objects := rfl
    rw [objects, str]
    rfl
  unfold nlifdIfaceChangeHndlr nlifdIfaceChangeType
  simp only [node, found]
  cases oper : change.oper with
  | moved => exact absurd oper handledOper
  | deleted => exact ⟨world, rfl, same _ handled.unsent⟩
  | created | modified =>
      refine ⟨callAsserting .kind hndl.iface world, ?_, same _ handled.unsent⟩
      simp only [read, ok_bind, ne_eq, not_true_eq_false, if_false]

/-- The handlers stage what the leaves ask for, whatever their order. -/
theorem changes_handled {changes : List LeafChange} (ready : Ready platform.hash origin)
    (changeable : Changeable origin.objects origin.store.ifaces changes) :
    ∃ middle, srplugProcessChildChanges (nlifdIfaceChangeHndlr platform) changes origin =
      .ok (.ok, middle) ∧ Handled origin changes middle := by
  have unstaged : staged [] = id := by
    funext interface
    simp [staged, differs, requested]
  have begun : Handled origin [] origin := by
    refine ⟨?_, rfl, rfl, rfl, rfl, rfl⟩
    rw [unstaged]
    funext address
    simp [changed]
  have progress : ∀ change rest middle,
      (∃ front, changes = front ++ change :: rest ∧ Handled origin front middle) →
      ∃ code next, nlifdIfaceChangeHndlr platform change middle = .ok (code, next) ∧
        decide (code ≠ .ok) = false ∧
        ∃ front, changes = front ++ rest ∧ Handled origin front next := by
    intro change rest middle before
    obtain ⟨front, split, handled⟩ := before
    have listed : change ∈ changes := by
      rw [split]
      simp
    obtain ⟨hndl, member, key⟩ := changeable.named change listed
    have oper := changeable.handled change listed
    have splitNext : changes = (front ++ [change]) ++ rest := by
      rw [split]
      simp
    cases node : change.node with
    | enabled value dflt =>
        have silent := asks_once changeable.single split key (by rw [node]; rfl)
        have wanted : ∃ up, changedValue value dflt change.oper = some up := by
          cases asked : change.oper with
          | moved => exact absurd asked oper
          | created | modified | deleted => exact ⟨_, rfl⟩
        obtain ⟨up, wanted⟩ := wanted
        obtain ⟨next, done, after⟩ :=
          enabled_handled ready handled member key node wanted silent
        exact ⟨.ok, next, done, rfl, front ++ [change], splitNext, after⟩
    | type value =>
        have typed := changeable.typed change listed value node hndl member key
        obtain ⟨next, done, after⟩ := type_handled ready handled member key node oper typed
        exact ⟨.ok, next, done, rfl, front ++ [change], splitNext, after⟩
  obtain ⟨middle, passes, front, split, handled⟩ :=
    passes_exist (fun rest middle => ∃ front, changes = front ++ rest ∧ Handled origin front middle)
      progress ⟨[], rfl, begun⟩
  rw [List.append_nil] at split
  subst split
  exact ⟨middle, stopping_ok_iff.mpr (.inl ⟨rfl, passes⟩), handled⟩

end Handlers

def wanted (changes : List LeafChange) (objects : Objects) (ifaces : List Hndl) :
    List SetlinkReq :=
  (ifaces.filter fun hndl => differs changes (objects hndl.iface)).map fun hndl =>
    admstateRequest changes (objects hndl.iface)

theorem wanted_append (changes : List LeafChange) (objects : Objects) (front : List Hndl)
    (hndl : Hndl) :
    wanted changes objects (front ++ [hndl]) = wanted changes objects front ++
      if differs changes (objects hndl.iface) then [admstateRequest changes (objects hndl.iface)]
      else [] := by
  rw [wanted, List.filter_append, List.map_append, ← wanted]
  congr 1
  rw [List.filter_cons]
  split <;> rfl

def Accepts (kernel : Kernel Kstate) (request : SetlinkReq) : Prop :=
  ∀ state, (kernel.setlink request state).1 = none

def kernelAfter (kernel : Kernel Kstate) (asked : List SetlinkReq) (state : Kstate) : Kstate :=
  asked.foldl (fun state request => (kernel.setlink request state).2) state

theorem kernel_after_append (kernel : Kernel Kstate) (front : List SetlinkReq)
    (request : SetlinkReq) (state : Kstate) :
    kernelAfter kernel (front ++ [request]) state =
      (kernel.setlink request (kernelAfter kernel front state)).2 :=
  List.foldl_append ..

structure Walked (platform : Platform NameBucket IndexBucket Kstate) (changes : List LeafChange)
    (origin : World NameBucket IndexBucket Kstate) (front : List Hndl)
    (world : World NameBucket IndexBucket Kstate) : Prop where
  applied : ∀ hndl ∈ front,
    world.objects hndl.iface = configured changes (origin.objects hndl.iface)
  waiting : ∀ hndl ∈ origin.store.ifaces, hndl ∉ front →
    world.objects hndl.iface = staged changes (origin.objects hndl.iface)
  elsewhere : ∀ address, address ∉ origin.store.ifaces.map Hndl.iface →
    world.objects address = origin.objects address
  store : world.store = origin.store
  next : world.next = origin.next
  gate : world.gate = origin.gate
  kernel : world.kernel =
    kernelAfter platform.kernel (wanted changes origin.objects front) origin.kernel
  posted : requests world.trace =
    (wanted changes origin.objects front).reverse ++ requests origin.trace

theorem Handled.walked {changes : List LeafChange} (handled : Handled origin changes world) :
    Walked platform changes origin [] world where
  applied := by simp
  waiting hndl member _ := handled.object member
  elsewhere address absent := by
    rw [handled.objects]
    exact if_neg absent
  store := handled.store
  next := handled.next
  gate := handled.gate
  kernel := handled.kernel
  posted := handled.unsent

theorem settled_staged {changes : List LeafChange} {interface : Iface} (tidy : Tidy interface)
    (clean : interface.state = .clean) :
    settled (staged changes interface) = configured changes interface := by
  obtain ⟨fields, flags⟩ := tidy.clean clean
  unfold staged
  split
  · rw [configured_frame, settled, ← clean, ← fields, ← flags]
  · rename_i same
    rw [configured_same (by simpa using same), settled, ← clean, ← fields, ← flags]

theorem request_staged {changes : List LeafChange} {interface : Iface}
    (fields : interface.dirtyFields = ∅) (asked : differs changes interface = true) :
    ifaceSetlinkReq (staged changes interface) = .ok (admstateRequest changes interface) := by
  have frame := configured_frame changes interface
  have idx : (configured changes interface).idx = interface.idx := by rw [frame]
  have unstaged : (configured changes interface).dirtyFields = ∅ := by rw [frame, fields]
  simp [staged, asked, ifaceSetlinkReq, unstaged, admstateRequest, idx]

/-- What a transaction did to the store: every interface has what its leaves ask
for, and the kernel was asked for no more. -/
structure Effected (changes : List LeafChange) (world next : World NameBucket IndexBucket Kstate) :
    Prop where
  store : next.store = world.store
  clean : ∀ hndl ∈ world.store.ifaces, (next.objects hndl.iface).state = .clean
  admstate : ∀ hndl ∈ world.store.ifaces, ∀ change ∈ changes, ∀ up,
    asks (world.objects hndl.iface).name change = some up →
      adminUp (next.objects hndl.iface).flags = up
  unasked : ∀ hndl ∈ world.store.ifaces,
    (∀ change ∈ changes, asks (world.objects hndl.iface).name change = none) →
      next.objects hndl.iface = world.objects hndl.iface
  fields : ∀ hndl ∈ world.store.ifaces, next.objects hndl.iface =
    { world.objects hndl.iface with flags := (next.objects hndl.iface).flags }
  flags : ∀ hndl ∈ world.store.ifaces,
    (next.objects hndl.iface).flags &&& ~~~IFF_UP = (world.objects hndl.iface).flags &&& ~~~IFF_UP
  elsewhere : ∀ address, address ∉ world.store.ifaces.map Hndl.iface →
    next.objects address = world.objects address
  requests : requests next.trace =
    (wanted changes world.objects world.store.ifaces).reverse ++ requests world.trace

theorem Walked.effected {changes : List LeafChange}
    (walked : Walked platform changes origin origin.store.ifaces world)
    (ready : Ready platform.hash origin)
    (single : changes.Pairwise fun left right => ¬ SameLeaf left right) :
    Effected changes origin world where
  store := walked.store
  clean hndl member := by
    rw [walked.applied hndl member, configured_frame]
    exact ready.clean hndl member
  admstate hndl member change listed up asked := by
    have wants := (requested_some_iff single _ up).mpr ⟨change, listed, asked⟩
    rw [walked.applied hndl member, configured, wants]
    exact admin_up_with up _
  unasked hndl member silent := by
    have nothing : requested changes (origin.objects hndl.iface).name = none :=
      List.findSome?_eq_none_iff.mpr silent
    rw [walked.applied hndl member, configured, nothing]
  fields hndl member := by
    rw [walked.applied hndl member]
    exact configured_frame changes _
  flags hndl member := by
    rw [walked.applied hndl member]
    exact configured_outside changes _
  elsewhere := walked.elsewhere
  requests := walked.posted

section Walk

theorem notify_unstaged [DecidableEq NameBucket] [DecidableEq IndexBucket] {interface : Addr}
    (fields : (world.objects interface).dirtyFields = ∅) :
    ∃ trace, gateNotify platform noObservers (.modify interface) world =
      .ok (0, { world with trace }) ∧ requests trace = requests world.trace := by
  cases subscribed : world.gate.notif with
  | true =>
      have kept : storeOnIfaceModify platform.hash world.objects interface world.store =
          .ok (0, world.store) := by
        simp [storeOnIfaceModify, storeRehash, rehashWhen, fields]
      have notified := (gate_notify_modify_ok_iff platform interface world 0 _).mpr
        (.inl ⟨subscribed, world.store, kept, rfl⟩)
      exact ⟨_, notified, rfl⟩
  | false =>
      have notified := (gate_notify_modify_ok_iff platform interface world 0 world).mpr
        (.inr ⟨subscribed, rfl, rfl⟩)
      exact ⟨world.trace, notified, rfl⟩

variable [DecidableEq NameBucket] [DecidableEq IndexBucket] {changes : List LeafChange}
  {front : List Hndl} {hndl : Hndl}

theorem Walked.pass (walked : Walked platform changes origin front world)
    (ready : Ready platform.hash origin) (member : hndl ∈ origin.store.ifaces)
    (ahead : hndl ∉ front) (same : differs changes (origin.objects hndl.iface) = false) :
    ∃ code next, applyIface platform hndl world = .ok (code, next) ∧ decide (code < 0) = false ∧
      Walked platform changes origin (front ++ [hndl]) next := by
  have object := walked.waiting hndl member ahead
  have unstaged : staged changes (origin.objects hndl.iface) = origin.objects hndl.iface := by
    simp [staged, same]
  have settledAlready : (world.objects hndl.iface).state ≠ .dirty := by
    rw [object, unstaged, ready.clean hndl member]
    decide
  have unasked : wanted changes origin.objects (front ++ [hndl]) =
      wanted changes origin.objects front := by
    rw [wanted_append, same]
    simp
  have applied := (iface_apply_ok_iff platform hndl.iface world 0 _).mpr (.idle settledAlready)
  have visited : applyIface platform hndl world = .ok (0, world.record
      (.called .apply (world.objects hndl.iface).idx (world.objects hndl.iface).state)) := by
    rw [applyIface, applied]
    rfl
  refine ⟨0, _, visited, rfl, ?_⟩
  exact
    { applied := fun other listed => by
        cases List.mem_append.mp listed with
        | inl there => exact walked.applied other there
        | inr last =>
            rw [List.mem_singleton.mp last, configured_same same, ← unstaged]
            exact object
      waiting := fun other there ahead =>
        walked.waiting other there fun listed => ahead (List.mem_append_left _ listed)
      elsewhere := walked.elsewhere
      store := walked.store
      next := walked.next
      gate := walked.gate
      kernel := by
        rw [unasked]
        exact walked.kernel
      posted := by
        rw [unasked]
        exact walked.posted }

structure Posted (platform : Platform NameBucket IndexBucket Kstate) (request : SetlinkReq)
    (interface : Addr) (object : Iface) (world next : World NameBucket IndexBucket Kstate) :
    Prop where
  objects : next.objects = Function.update world.objects interface object
  store : next.store = world.store
  reach : next.next = world.next
  gate : next.gate = world.gate
  kernel : next.kernel = (platform.kernel.setlink request world.kernel).2
  posted : requests next.trace = request :: requests world.trace

theorem apply_posts {request : SetlinkReq} (dirty : (world.objects hndl.iface).state = .dirty)
    (unstaged : (world.objects hndl.iface).dirtyFields = ∅)
    (built : ifaceSetlinkReq (world.objects hndl.iface) = .ok request)
    (accepting : Accepts platform.kernel request) :
    ∃ next, applyIface platform hndl world = .ok (1, next) ∧
      Posted platform request hndl.iface (settled (world.objects hndl.iface)) world next := by
  let kernel := (platform.kernel.setlink request world.kernel).2
  have answered : platform.kernel.setlink request world.kernel = (none, kernel) :=
    Prod.ext (accepting _) rfl
  have notified : ∃ trace, gateNotify platform noObservers (.modify hndl.iface)
      (sent hndl.iface world request kernel 0) =
        .ok (0, { sent hndl.iface world request kernel 0 with trace }) ∧
      requests trace = request :: requests world.trace := notify_unstaged unstaged
  obtain ⟨trace, notified, recorded⟩ := notified
  let delivered := { sent hndl.iface world request kernel 0 with trace }
  let next := delivered.setObject hndl.iface (settled (world.objects hndl.iface))
  have applied : ifaceApply platform hndl.iface world = .ok (1, next) :=
    (iface_apply_ok_iff ..).mpr (.applied dirty built answered notified)
  have visited : applyIface platform hndl world =
      .ok (1, callAsserting .name hndl.iface next) := by
    rw [applyIface, applied]
    rfl
  exact ⟨_, visited, rfl, rfl, rfl, rfl, rfl, recorded⟩

theorem Walked.send (walked : Walked platform changes origin front world)
    (ready : Ready platform.hash origin) (member : hndl ∈ origin.store.ifaces)
    (ahead : hndl ∉ front) (asked : differs changes (origin.objects hndl.iface) = true)
    (accepting : Accepts platform.kernel (admstateRequest changes (origin.objects hndl.iface))) :
    ∃ code next, applyIface platform hndl world = .ok (code, next) ∧ decide (code < 0) = false ∧
      Walked platform changes origin (front ++ [hndl]) next := by
  have object := walked.waiting hndl member ahead
  have clean := ready.clean hndl member
  have tidy := ready.tidy hndl member
  have fields := (tidy.clean clean).1
  have dirty : (world.objects hndl.iface).state = .dirty := by
    rw [object, staged, if_pos asked]
  have built : ifaceSetlinkReq (world.objects hndl.iface) =
      .ok (admstateRequest changes (origin.objects hndl.iface)) := by
    rw [object]
    exact request_staged fields asked
  have unstaged : (world.objects hndl.iface).dirtyFields = ∅ := by
    rw [object, (staged_frame changes (origin.objects hndl.iface)).2.2.2.2, fields]
  obtain ⟨next, visited, sent⟩ := apply_posts dirty unstaged built accepting
  rw [object, settled_staged tidy clean] at sent
  have self : next.objects hndl.iface = configured changes (origin.objects hndl.iface) := by
    rw [sent.objects, Function.update_self]
  have others : ∀ address, address ≠ hndl.iface →
      next.objects address = world.objects address := by
    intro address different
    rw [sent.objects, Function.update_of_ne different]
  have more : wanted changes origin.objects (front ++ [hndl]) =
      wanted changes origin.objects front ++
        [admstateRequest changes (origin.objects hndl.iface)] := by
    rw [wanted_append, if_pos asked]
  refine ⟨1, next, visited, rfl, ?_⟩
  exact
    { applied := fun other listed => by
        by_cases same : other.iface = hndl.iface
        · rw [same, self]
        · cases List.mem_append.mp listed with
          | inl there => exact (others other.iface same).trans (walked.applied other there)
          | inr last => exact absurd (congrArg Hndl.iface (List.mem_singleton.mp last)) same
      waiting := fun other there absent => by
        have different : other.iface ≠ hndl.iface := by
          intro same
          apply absent
          rw [ready.linked.same_iface there member same]
          simp
        have ahead : other ∉ front := fun listed => absent (List.mem_append_left _ listed)
        exact (others other.iface different).trans (walked.waiting other there ahead)
      elsewhere := fun address absent => by
        have different : address ≠ hndl.iface := by
          intro same
          exact absent (same ▸ List.mem_map_of_mem member)
        exact (others address different).trans (walked.elsewhere address absent)
      store := sent.store.trans walked.store
      next := sent.reach.trans walked.next
      gate := sent.gate.trans walked.gate
      kernel := by
        rw [sent.kernel, walked.kernel, more, kernel_after_append]
      posted := by
        rw [sent.posted, walked.posted, more, List.reverse_append]
        rfl }

theorem walk_applies (handled : Handled origin changes world) (ready : Ready platform.hash origin)
    (accepting : ∀ hndl ∈ origin.store.ifaces, differs changes (origin.objects hndl.iface) = true →
      Accepts platform.kernel (admstateRequest changes (origin.objects hndl.iface))) :
    ∃ next, applyIfaces platform world = .ok (0, next) ∧
      Walked platform changes origin origin.store.ifaces next := by
  have progress : ∀ hndl rest middle,
      (∃ front, origin.store.ifaces = front ++ hndl :: rest ∧
        Walked platform changes origin front middle) →
      ∃ code next, applyIface platform hndl middle = .ok (code, next) ∧ decide (code < 0) = false ∧
        ∃ front, origin.store.ifaces = front ++ rest ∧
          Walked platform changes origin front next := by
    intro hndl rest middle before
    obtain ⟨front, split, walked⟩ := before
    have member : hndl ∈ origin.store.ifaces := by
      rw [split]
      simp
    have ahead : hndl ∉ front := by
      have nodup := ready.linked.nodup
      rw [split, List.nodup_append] at nodup
      intro listed
      exact nodup.2.2 hndl listed hndl (List.mem_cons_self ..) rfl
    have visited : ∃ code next, applyIface platform hndl middle = .ok (code, next) ∧
        decide (code < 0) = false ∧ Walked platform changes origin (front ++ [hndl]) next := by
      cases asked : differs changes (origin.objects hndl.iface) with
      | true => exact walked.send ready member ahead asked (accepting hndl member asked)
      | false => exact walked.pass ready member ahead asked
    obtain ⟨code, next, done, goes, after⟩ := visited
    refine ⟨code, next, done, goes, front ++ [hndl], ?_, after⟩
    rw [split]
    simp
  have begun : ∃ front, origin.store.ifaces = front ++ world.store.ifaces ∧
      Walked platform changes origin front world :=
    ⟨[], by rw [handled.store]; rfl, handled.walked⟩
  obtain ⟨next, passes, front, split, walked⟩ := passes_exist
    (fun rest middle => ∃ front, origin.store.ifaces = front ++ rest ∧
      Walked platform changes origin front middle) progress begun
  rw [List.append_nil] at split
  refine ⟨next, stopping_ok_iff.mpr (.inl ⟨rfl, passes⟩), ?_⟩
  rw [split]
  exact walked

theorem transaction_walks (sysrepo : Sysrepo) (ready : Ready platform.hash world)
    (changeable : Changeable world.objects world.store.ifaces changes)
    (accepting : ∀ hndl ∈ world.store.ifaces, differs changes (world.objects hndl.iface) = true →
      Accepts platform.kernel (admstateRequest changes (world.objects hndl.iface))) :
    ∃ next, nlifdIfaceProcessChanges sysrepo platform changes world = .ok (.ok, next) ∧
      Walked platform changes world world.store.ifaces next := by
  obtain ⟨middle, handling, handled⟩ := changes_handled ready changeable
  obtain ⟨next, walk, walked⟩ := walk_applies handled ready accepting
  have zero : ¬ (0 : Int) < 0 := by decide
  exact ⟨next, process_changes_ok_iff.mpr (.applied handling walk zero), walked⟩

/-- A transaction of accepted leaves on a store of clean interfaces does what its
leaves say, in any order of the leaves. -/
theorem transaction_effected (sysrepo : Sysrepo) (ready : Ready platform.hash world)
    (changeable : Changeable world.objects world.store.ifaces changes)
    (accepting : ∀ request, Accepts platform.kernel request) :
    ∃ next, nlifdIfaceProcessChanges sysrepo platform changes world = .ok (.ok, next) ∧
      Effected changes world next ∧
      ∀ other, other.Perm changes → ∃ after,
        nlifdIfaceProcessChanges sysrepo platform other world = .ok (.ok, after) ∧
        after.store = next.store ∧ after.objects = next.objects ∧ after.kernel = next.kernel := by
  obtain ⟨next, done, walked⟩ :=
    transaction_walks sysrepo ready changeable fun _ _ _ => accepting _
  refine ⟨next, done, walked.effected ready changeable.single, fun other perm => ?_⟩
  obtain ⟨after, doneToo, walkedToo⟩ :=
    transaction_walks sysrepo ready (changeable.perm perm) fun _ _ _ => accepting _
  have requests := requested_perm changeable.single perm
  have same : configured other = configured changes := by
    funext interface
    rw [configured, configured, requests]
  have sends : wanted other world.objects world.store.ifaces =
      wanted changes world.objects world.store.ifaces := by
    unfold wanted admstateRequest differs
    rw [same, requests]
  refine ⟨after, doneToo, walkedToo.store.trans walked.store.symm, ?_, ?_⟩
  · funext address
    by_cases listed : address ∈ world.store.ifaces.map Hndl.iface
    · obtain ⟨hndl, member, at_⟩ := List.mem_map.mp listed
      rw [← at_, walkedToo.applied hndl member, walked.applied hndl member, same]
    · rw [walkedToo.elsewhere address listed, walked.elsewhere address listed]
  · rw [walkedToo.kernel, walked.kernel, sends]

end Walk

end Loops

def typeLink : LeafChange where
  node := .type (cstring "iana-if-type:ethernetCsmacd")
  key := some nameA
  oper := .created
  old := none

def loadedInit : CodeWorld Unit := (LibraryRun.machine oneLinkPlatform).after .load oneLinkInit

theorem loaded_init_run :
    Run (LibraryRun.machine oneLinkPlatform) oneLinkInit [(.load, .code 0)] loadedInit := by
  have begun : Run (LibraryRun.machine oneLinkPlatform) oneLinkInit [] oneLinkInit := .start
  exact Run.extend begun .load (.code 0) rfl rfl

theorem loaded_init_ready : Ready oneLinkPlatform.hash loadedInit := by
  have kept := LibraryRun.run_kept LibraryRun.one_link_kernel_reports loaded_init_run
  refine ⟨kept.linked, kept.indexed (by decide), by decide, ?_⟩
  intro hndl member
  cases member with
  | head => exact tidy_fill oneLink
  | tail _ more => cases more

theorem loaded_init_changeable :
    Changeable loadedInit.objects loadedInit.store.ifaces [enableLink, typeLink] := by
  refine ⟨?_, ?_, by decide, ?_⟩
  · apply List.Pairwise.cons _ (List.pairwise_singleton ..)
    intro other listed same
    rw [List.mem_singleton.mp listed] at same
    exact absurd same.2 (by decide)
  · intro change listed
    refine ⟨⟨1, 0⟩, by decide, ?_⟩
    cases listed with
    | head => rfl
    | tail _ more =>
        rw [List.mem_singleton.mp more]
        rfl
  · intro change listed value node hndl member _
    cases listed with
    | head => cases node
    | tail _ more =>
        rw [List.mem_singleton.mp more] at node
        cases node
        cases member with
        | head => rfl
        | tail _ others => cases others

/-- The loaded interface "a" is enabled. -/
theorem enabled_link_effected :
    ∃ next, nlifdIfaceProcessChanges agreeingSysrepo oneLinkPlatform [enableLink, typeLink]
        loadedInit = .ok (.ok, next) ∧ Effected [enableLink, typeLink] loadedInit next := by
  obtain ⟨next, done, effected, _⟩ := transaction_effected agreeingSysrepo loaded_init_ready
    loaded_init_changeable fun _ _ => rfl
  exact ⟨next, done, effected⟩

end Nlif.TransactionEffect
