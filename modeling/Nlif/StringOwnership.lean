import Nlif.Recovery
import Nlif.StringAccess
import Nlif.StringView

/-!
# Who owns the strings

Runs of the calls that allocate, release or read an alias or a kind, on any number of
interfaces. `Shift` says once what a completed call does to the allocated interfaces,
their strings and the store; that no live string is lost holds in every run, that none is
released twice or read after its release where every reload gets an answer.
-/

namespace Nlif.StringOwnership

open LinkModel IfaceModel FaultWalk FaultRelation BucketTable StoreModel GateModel GateSpec
  LabelledRun LibraryRun Recovery SlotHeap StringHeap StringView StringAccess
open IfaceRun (Call Answer Refill Synced Turn Keeps Reloads handedOut reload_refills sync_synced
  set_turns coherent_turns apply_turns turn_keeps)

set_option autoImplicit false

variable {NameBucket IndexBucket Kstate : Type}

/-- What the callers promise: an interface is passed between its creation and its
destruction, and one in a store is withdrawn before it is destroyed. -/
def admits (heap : HeapWorld NameBucket IndexBucket Kstate) : HeapOp → Prop
  | .destroy interface => heap.allocated interface = true ∧ ¬ Enrolled interface heap.world
  | .set setter interface => setter.Valid ∧ heap.allocated interface = true
  | .coherent interface | .apply interface | .reload interface | .enroll interface
  | .withdraw interface => heap.allocated interface = true
  | .createByidx _ | .createByname _ | .createBylink _ | .newLink _ | .clear
  | .mayRegisterName _ | .mayRegisterAlias _ | .findByalias _ | .findBystrid _ => True

def heapMachine [DecidableEq NameBucket] [DecidableEq IndexBucket]
    (platform : Platform NameBucket IndexBucket Kstate) :
    Machine (HeapWorld NameBucket IndexBucket Kstate) HeapOp HeapRet Fault where
  admits := admits
  step := heapStep platform

def heapInit (objects : Objects) (gate : Gate) (kernel : Kstate) :
    HeapWorld NameBucket IndexBucket Kstate where
  world := { objects, next := 0, store := storeReinit, gate, kernel, trace := [] }
  strings := Heap.empty
  allocated _ := false

def callOf : HeapOp → Option (Addr × Call NameBucket IndexBucket Kstate)
  | .set setter interface => some (interface, .set setter)
  | .coherent interface => some (interface, .coherent)
  | .apply interface => some (interface, .apply)
  | .reload interface => some (interface, .reload)
  | .createByidx _ | .createByname _ | .createBylink _ | .newLink _ | .destroy _ | .enroll _
  | .withdraw _ | .clear | .mayRegisterName _ | .mayRegisterAlias _ | .findByalias _
  | .findBystrid _ => none

def Bare (interface : Iface) : Prop := interface.ifalias = none ∧ interface.kind = none

/-- A call that reloads an interface which has strings is given its link. -/
def Answered (platform : Platform NameBucket IndexBucket Kstate)
    (world : World NameBucket IndexBucket Kstate) (op : HeapOp) : Prop :=
  ∀ interface (call : Call NameBucket IndexBucket Kstate), callOf op = some (interface, call) →
    Reloads (world.objects interface) call →
    Bare (world.objects interface) ∨ ∃ link, handedOut platform interface world = .ok link

/-- A get-link request is answered for the index it names. -/
def AnswersAsked (kernel : Kernel Kstate) : Prop :=
  ∀ index state link next, kernel.getlink index state = (.ok link, next) → link.ifiIndex = index

def Spent (object : Iface) : Prop :=
  ∀ field pointer, strOf field object = some pointer → pointer.live = false

/-- The chains and the list hold allocated interfaces, each once and under its index. -/
structure Tidy (hash : Hashing NameBucket IndexBucket) (allocated : Addr → Bool)
    (objects : Objects) (next : Addr) (store : Store NameBucket IndexBucket) : Prop where
  within : Within store
  filed : ∀ hndl ∈ store.ifaces, hndl ∈ store.indxh (hash.index (objects hndl.iface).idx)
  single : (store.ifaces.map Hndl.iface).Nodup
  enrolled : ∀ hndl ∈ store.ifaces, allocated hndl.iface = true
  bounded : ∀ interface, allocated interface = true → interface < next
  spent : ∀ interface, allocated interface = false → Spent (objects interface)

def AllHeld (allocated : Addr → Bool) (objects : Objects) : Prop :=
  ∀ interface, allocated interface = true → Held (objects interface)

/-- No live string is lost: its interface is allocated and points to it. -/
structure Owns (heap : HeapWorld NameBucket IndexBucket Kstate) : Prop where
  pointed : ∀ id cell, heap.strings.cells id = some cell → cell.live = true →
    heap.strings.pointer cell.slot = some id
  drained : ∀ interface, heap.allocated interface = false → ∀ id cell,
    heap.strings.cells id = some cell → cell.slot.1 = interface → cell.live = false

structure Guarded (platform : Platform NameBucket IndexBucket Kstate)
    (heap : HeapWorld NameBucket IndexBucket Kstate) : Prop where
  owned : Owned heap.strings
  tidy : Tidy platform.hash heap.allocated heap.view.objects heap.view.next heap.view.store

theorem spent_released (object : Iface) : Spent (released object) := by
  intro field pointer present
  cases field with
  | ifalias =>
      obtain ⟨_, _, rfl⟩ := Option.map_eq_some_iff.mp present
      rfl
  | kind =>
      obtain ⟨_, _, rfl⟩ := Option.map_eq_some_iff.mp present
      rfl

theorem view_str (heap : HeapWorld NameBucket IndexBucket Kstate) (interface : Addr)
    (field : StrField) :
    strOf field (heap.view.objects interface) = shown heap.strings (interface, field) := by
  cases field <;> rfl

theorem spent_vacant {heap : HeapWorld NameBucket IndexBucket Kstate} {interface : Addr}
    (spent : Spent (heap.view.objects interface)) (field : StrField) :
    Vacant (interface, field) heap.strings := by
  rw [vacant_iff]
  intro pointer present
  exact spent field pointer ((view_str heap interface field).trans present)

theorem Guarded.tended {platform : Platform NameBucket IndexBucket Kstate}
    {heap : HeapWorld NameBucket IndexBucket Kstate} (guarded : Guarded platform heap) :
    Tended heap where
  owned := guarded.owned
  bounded := guarded.tidy.bounded
  vacant interface gone := spent_vacant (guarded.tidy.spent interface gone)

theorem Guarded.owns {platform : Platform NameBucket IndexBucket Kstate}
    {heap : HeapWorld NameBucket IndexBucket Kstate} (guarded : Guarded platform heap) :
    Owns heap where
  pointed := guarded.owned.held
  drained interface gone id cell there mine := by
    have vacant := spent_vacant (guarded.tidy.spent interface gone) cell.slot.2
    exact guarded.owned.released vacant there (Prod.ext mine rfl)

theorem init_guarded (platform : Platform NameBucket IndexBucket Kstate) (objects : Objects)
    (gate : Gate) (kernel : Kstate) : Guarded platform (heapInit objects gate kernel) where
  owned := owned_empty
  tidy := {
    within := within_reinit
    filed := fun _ member => nomatch member
    single := List.nodup_nil
    enrolled := fun _ member => nomatch member
    bounded := fun _ allocated => nomatch allocated
    spent := by
      intro interface _ field pointer present
      cases field with
      | ifalias => cases present
      | kind => cases present }

section Shift

variable (platform : Platform NameBucket IndexBucket Kstate) (allocated : Addr → Bool)
  (world : World NameBucket IndexBucket Kstate)

variable [DecidableEq NameBucket] [DecidableEq IndexBucket]

inductive Shift (op : HeapOp) :
    (Addr → Bool) → Objects → Addr → Store NameBucket IndexBucket → Prop
  | kept : Shift op allocated world.objects world.next world.store
  | turned {interface : Addr} {call : Call NameBucket IndexBucket Kstate} {answer : Answer}
      {after : World NameBucket IndexBucket Kstate} (calls : callOf op = some (interface, call))
      (mine : allocated interface = true) (valid : ∀ setter, call = .set setter → setter.Valid)
      (apart : Apart interface world after)
      (turn : Turn (handedOut platform interface world) (world.objects interface) call answer
        (after.objects interface)) :
      Shift op allocated after.objects after.next after.store
  | created (link : GetlinkRsp) :
      Shift op (Function.update allocated world.next true)
        (Function.update world.objects world.next (ifaceFill link)) (world.next + 1) world.store
  | loaded (link : GetlinkRsp) (nameBucket : NameBucket) (aliasBucket : Option NameBucket) :
      Shift op (Function.update allocated world.next true)
        (Function.update world.objects world.next (ifaceFill link)) (world.next + 1 + 1)
        (storeCreatenEnrollIfaceHndl world.store ⟨world.next + 1, world.next⟩
          (platform.hash.index link.ifiIndex) nameBucket aliasBucket)
  | enrolled {interface : Addr} (mine : allocated interface = true)
      (free : storeSearchIfaceHndlByindex platform.hash world.objects world.store
        (world.objects interface).idx = none)
      (nameBucket : NameBucket) (aliasBucket : Option NameBucket) :
      Shift op allocated world.objects (world.next + 1)
        (storeCreatenEnrollIfaceHndl world.store ⟨world.next, interface⟩
          (platform.hash.index (world.objects interface).idx) nameBucket aliasBucket)
  | unlinked (hndl : Hndl) :
      Shift op allocated world.objects world.next (storeUnlinkHndl hndl world.store)
  | destroyed {interface : Addr} (idle : ¬ Enrolled interface world) :
      Shift op (Function.update allocated interface false)
        (Function.update world.objects interface (released (world.objects interface)))
        world.next world.store
  | cleared {objects : Objects}
      (done : storeRelease world.store.ifaces world.objects = .ok objects) :
      Shift op (remaining allocated world.store.ifaces) objects world.next storeReinit

end Shift

section Tidy

variable {hash : Hashing NameBucket IndexBucket} {allocated : Addr → Bool} {objects : Objects}
  {next interface : Addr} {store : Store NameBucket IndexBucket}

theorem Tidy.not_next (tidy : Tidy hash allocated objects next store) {hndl : Hndl}
    (member : hndl ∈ store.ifaces) : hndl.iface ≠ next :=
  Nat.ne_of_lt (tidy.bounded _ (tidy.enrolled hndl member))

theorem Tidy.apart {world after : World NameBucket IndexBucket Kstate}
    (tidy : Tidy hash allocated world.objects world.next world.store)
    (mine : allocated interface = true) (apart : Apart interface world after)
    (idx : (after.objects interface).idx = (world.objects interface).idx) :
    Tidy hash allocated after.objects after.next after.store where
  within := apart.within tidy.within
  filed hndl member := by
    rw [apart.ifaces] at member
    have same : (after.objects hndl.iface).idx = (world.objects hndl.iface).idx := by
      by_cases self : hndl.iface = interface
      · rw [self, idx]
      · rw [apart.objects _ self]
    rw [apart.indxh, same]
    exact tidy.filed hndl member
  single := apart.ifaces ▸ tidy.single
  enrolled := apart.ifaces ▸ tidy.enrolled
  bounded := apart.reach ▸ tidy.bounded
  spent other gone := by
    have different : other ≠ interface := by
      intro same
      rw [same, mine] at gone
      cases gone
    rw [apart.objects _ different]
    exact tidy.spent other gone

theorem Tidy.created (tidy : Tidy hash allocated objects next store) (object : Iface) :
    Tidy hash (Function.update allocated next true) (Function.update objects next object)
      (next + 1) store where
  within := tidy.within
  filed hndl member := by
    rw [Function.update_of_ne (tidy.not_next member)]
    exact tidy.filed hndl member
  single := tidy.single
  enrolled hndl member := by
    rw [Function.update_of_ne (tidy.not_next member)]
    exact tidy.enrolled hndl member
  bounded other known := by
    by_cases self : other = next
    · rw [self]
      exact Nat.lt_succ_self next
    · rw [Function.update_of_ne self] at known
      exact Nat.lt_succ_of_lt (tidy.bounded other known)
  spent other gone := by
    by_cases self : other = next
    · rw [self, Function.update_self] at gone
      cases gone
    · rw [Function.update_of_ne self] at gone ⊢
      exact tidy.spent other gone

theorem Tidy.unenrolled (tidy : Tidy hash allocated objects next store)
    (free : storeSearchIfaceHndlByindex hash objects store (objects interface).idx = none) :
    ∀ hndl ∈ store.ifaces, hndl.iface ≠ interface := by
  intro hndl member same
  have filed := tidy.filed hndl member
  rw [same] at filed
  have other := List.find?_eq_none.mp free hndl filed
  simp [same] at other

variable [DecidableEq NameBucket] [DecidableEq IndexBucket]

theorem Tidy.enrolls (tidy : Tidy hash allocated objects next store)
    (mine : allocated interface = true) (fresh : ∀ hndl ∈ store.ifaces, hndl.iface ≠ interface)
    (nameBucket : NameBucket) (aliasBucket : Option NameBucket) :
    Tidy hash allocated objects (next + 1) (storeCreatenEnrollIfaceHndl store ⟨next, interface⟩
      (hash.index (objects interface).idx) nameBucket aliasBucket) := by
  have split : ∀ hndl ∈ store.ifaces ++ [⟨next, interface⟩],
      hndl ∈ store.ifaces ∨ hndl = ⟨next, interface⟩ := by
    intro hndl member
    simpa using member
  have chains : ∀ {Bucket : Type} [DecidableEq Bucket] (bucket : Bucket)
      (table : Table Bucket Hndl), (∀ other, ∀ hndl ∈ table other, hndl ∈ store.ifaces) →
      ∀ other, ∀ hndl ∈ add bucket ⟨next, interface⟩ table other,
        hndl ∈ store.ifaces ++ [⟨next, interface⟩] := by
    intro Bucket _ bucket table included other hndl chained
    cases (mem_add ..).mp chained with
    | inl new => simp [new.1]
    | inr old => simp [included other hndl old]
  refine ⟨⟨chains _ _ tidy.within.nameh, chains _ _ tidy.within.indxh, ?_⟩, ?_, ?_, ?_, ?_,
    tidy.spent⟩
  · cases aliasBucket with
    | none =>
        intro bucket hndl chained
        exact List.mem_append_left _ (tidy.within.aliash bucket hndl chained)
    | some bucket => exact chains _ _ tidy.within.aliash
  · intro hndl member
    apply (mem_add ..).mpr
    cases split hndl member with
    | inl old => exact .inr (tidy.filed hndl old)
    | inr new =>
        subst new
        exact .inl ⟨rfl, rfl⟩
  · simpa [storeCreatenEnrollIfaceHndl, List.nodup_append] using And.intro tidy.single fresh
  · intro hndl member
    cases split hndl member with
    | inl old => exact tidy.enrolled hndl old
    | inr new =>
        subst new
        exact mine
  · intro other known
    exact Nat.lt_succ_of_lt (tidy.bounded other known)

omit [DecidableEq NameBucket] [DecidableEq IndexBucket]

theorem Tidy.unlinks (tidy : Tidy hash allocated objects next store) (hndl : Hndl) :
    Tidy hash allocated objects next (storeUnlinkHndl hndl store) := by
  have stays : ∀ other, other ∈ store.ifaces → other ≠ hndl →
      other ∈ (storeUnlinkHndl hndl store).ifaces := by
    intro other member different
    simp [storeUnlinkHndl, member, different]
  have listed : ∀ other ∈ (storeUnlinkHndl hndl store).ifaces,
      other ∈ store.ifaces ∧ other ≠ hndl := by
    intro other member
    simpa [storeUnlinkHndl] using member
  have chains : ∀ {Bucket : Type} (table : Table Bucket Hndl),
      (∀ bucket, ∀ other ∈ table bucket, other ∈ store.ifaces) →
      ∀ bucket, ∀ other ∈ del hndl table bucket,
        other ∈ (storeUnlinkHndl hndl store).ifaces := by
    intro Bucket table included bucket other chained
    obtain ⟨there, different⟩ := (mem_del ..).mp chained
    exact stays other (included bucket other there) different
  refine ⟨⟨chains _ tidy.within.nameh, chains _ tidy.within.indxh, chains _ tidy.within.aliash⟩,
    ?_, ?_, ?_, tidy.bounded, tidy.spent⟩
  · intro other member
    obtain ⟨there, different⟩ := listed other member
    exact (mem_del ..).mpr ⟨tidy.filed other there, different⟩
  · exact tidy.single.sublist (List.filter_sublist.map _)
  · intro other member
    exact tidy.enrolled other (listed other member).1

theorem Tidy.destroys (tidy : Tidy hash allocated objects next store)
    (idle : ∀ hndl ∈ store.ifaces, hndl.iface ≠ interface) {object : Iface} (spent : Spent object) :
    Tidy hash (Function.update allocated interface false)
      (Function.update objects interface object) next store where
  within := tidy.within
  filed hndl member := by
    rw [Function.update_of_ne (idle hndl member)]
    exact tidy.filed hndl member
  single := tidy.single
  enrolled hndl member := by
    rw [Function.update_of_ne (idle hndl member)]
    exact tidy.enrolled hndl member
  bounded other known := by
    by_cases self : other = interface
    · rw [self, Function.update_self] at known
      cases known
    · rw [Function.update_of_ne self] at known
      exact tidy.bounded other known
  spent other gone := by
    by_cases self : other = interface
    · rw [self, Function.update_self]
      exact spent
    · rw [Function.update_of_ne self] at gone ⊢
      exact tidy.spent other gone

theorem release_objects {ifaces : List Hndl} {after : Objects}
    (done : storeRelease ifaces objects = .ok after) (other : Addr) :
    (remaining allocated ifaces other = true →
        allocated other = true ∧ after other = objects other) ∧
      ((allocated other = false → Spent (objects other)) →
        remaining allocated ifaces other = false → Spent (after other)) := by
  induction ifaces generalizing allocated objects with
  | nil =>
      cases done
      exact ⟨fun known => ⟨known, rfl⟩, id⟩
  | cons hndl rest ih =>
      obtain ⟨object, finished, done⟩ := (bind_ok_iff ..).mp done
      obtain ⟨_, rfl⟩ := (iface_fini_ok_iff ..).mp finished
      obtain ⟨stays, leaves⟩ := @ih (Function.update allocated hndl.iface false) _ done
      by_cases self : other = hndl.iface
      · subst self
        rw [Function.update_self] at stays leaves
        constructor
        · intro known
          cases (stays known).1
        · intro _ gone
          apply leaves _ gone
          intro _
          rw [Function.update_self]
          exact spent_released _
      · rw [Function.update_of_ne self, Function.update_of_ne self] at stays leaves
        exact ⟨stays, leaves⟩

theorem Tidy.clears (tidy : Tidy hash allocated objects next store) {after : Objects}
    (done : storeRelease store.ifaces objects = .ok after) :
    Tidy hash (remaining allocated store.ifaces) after next storeReinit where
  within := within_reinit
  filed _ member := nomatch member
  single := List.nodup_nil
  enrolled _ member := nomatch member
  bounded other known := tidy.bounded other ((release_objects done other).1 known).1
  spent other gone := (release_objects done other).2 (tidy.spent other) gone

end Tidy

theorem idx_keeps (idx : UInt32) :
    Keeps (fun link => link.ifiIndex = idx) (fun object => object.idx = idx) where
  staged _ _ _ _ _ _ holds staged := (stage_staged staged).idx.trans holds
  refreshed _ _ holds := holds
  filled _ same := same
  applied _ _ holds := holds
  invalidated _ holds := holds

theorem held_keeps : Keeps (fun _ => True) Held where
  staged _ _ _ _ _ _ held staged := held_of_stage held staged
  refreshed _ _ held := ⟨held.ifalias, held.kind⟩
  filled link _ := held_fill link
  applied _ _ held := ⟨held.ifalias, held.kind⟩
  invalidated _ held := ⟨held.ifalias, held.kind⟩

theorem call_of_link {op : HeapOp} {interface : Addr} {call : Call NameBucket IndexBucket Kstate}
    {loads : GetlinkRsp → Prop} (calls : callOf op = some (interface, call)) :
    ∀ link, call = .reloadBylink link → loads link := by
  intro link same
  subst same
  cases op <;> cases calls

section Kept

variable [DecidableEq NameBucket] [DecidableEq IndexBucket]
  {platform : Platform NameBucket IndexBucket Kstate} {allocated later : Addr → Bool}
  {world : World NameBucket IndexBucket Kstate} {op : HeapOp} {objects : Objects} {next : Addr}
  {store : Store NameBucket IndexBucket}

theorem Shift.tidy (asked : AnswersAsked platform.kernel)
    (tidy : Tidy platform.hash allocated world.objects world.next world.store)
    (shift : Shift platform allocated world op later objects next store) :
    Tidy platform.hash later objects next store := by
  cases shift with
  | kept => exact tidy
  | @turned interface call answer after calls mine valid apart turn =>
      apply tidy.apart mine apart
      refine turn_keeps (idx_keeps (world.objects interface).idx) rfl valid ?_ ?_
        (call_of_link calls) turn
      · intro _ _ _ _
        rfl
      · intro _ link given
        exact asked _ _ _ _ (Prod.ext (gate_getlink_ok given).1 rfl)
  | created link => exact tidy.created _
  | loaded link nameBucket aliasBucket =>
      have enrolled := (tidy.created (ifaceFill link)).enrolls (Function.update_self ..)
        (fun _ => tidy.not_next) nameBucket aliasBucket
      rw [Function.update_self] at enrolled
      exact enrolled
  | enrolled mine free nameBucket aliasBucket =>
      exact tidy.enrolls mine (tidy.unenrolled free) nameBucket aliasBucket
  | unlinked hndl => exact tidy.unlinks hndl
  | destroyed idle =>
      apply tidy.destroys _ (spent_released _)
      intro hndl member same
      exact idle ⟨hndl, member, same⟩
  | cleared done => exact tidy.clears done

theorem held_update {interface : Addr} {object : Iface} (held : AllHeld allocated objects)
    (fresh : Held object) (flag : Bool) :
    AllHeld (Function.update allocated interface flag)
      (Function.update objects interface object) := by
  intro other known
  by_cases self : other = interface
  · rw [self, Function.update_self]
    exact fresh
  · rw [Function.update_of_ne self] at known ⊢
    exact held other known

theorem Shift.held (held : AllHeld allocated world.objects)
    (answered : Answered platform world op)
    (shift : Shift platform allocated world op later objects next store) :
    AllHeld later objects := by
  cases shift with
  | kept | enrolled | unlinked => exact held
  | @turned interface call answer after calls mine valid apart turn =>
      intro other known
      by_cases self : other = interface
      · rw [self]
        refine turn_keeps held_keeps (held interface mine) valid ?_ (fun _ _ _ => trivial)
          (call_of_link calls) turn
        intro reloads err refused _
        cases answered interface call calls reloads with
        | inl bare =>
            constructor
            · intro pointer present
              simp [released, bare.1, dangling] at present
            · intro pointer present
              simp [released, bare.2, dangling] at present
        | inr given =>
            obtain ⟨link, given⟩ := given
            cases refused.symm.trans given
      · rw [apart.objects other self]
        exact held other known
  | created link => exact held_update held (held_fill link) true
  | loaded link => exact held_update held (held_fill link) true
  | @destroyed interface idle =>
      intro other known
      by_cases self : other = interface
      · rw [self, Function.update_self] at known
        cases known
      · rw [Function.update_of_ne self] at known ⊢
        exact held other known
  | cleared done =>
      intro other known
      obtain ⟨before, same⟩ := (release_objects done other).1 known
      rw [same]
      exact held other before

end Kept

section Steps

variable [DecidableEq NameBucket] [DecidableEq IndexBucket]
  {platform : Platform NameBucket IndexBucket Kstate}
  {heap after : HeapWorld NameBucket IndexBucket Kstate} {op : HeapOp}

def Shifted (platform : Platform NameBucket IndexBucket Kstate) (op : HeapOp)
    (heap after : HeapWorld NameBucket IndexBucket Kstate) : Prop :=
  Owned after.strings ∧ Shift platform heap.allocated heap.view op after.allocated
    after.view.objects after.view.next after.view.store

theorem sees_shifted {allocated : Addr → Bool} {world : World NameBucket IndexBucket Kstate}
    (sees : Sees allocated after world)
    (shift : Shift platform heap.allocated heap.view op allocated world.objects world.next
      world.store) : Shifted platform op heap after := by
  refine ⟨sees.owned, ?_⟩
  rw [sees.allocated, sees.view]
  exact shift

theorem shifted_refl (owned : Owned heap.strings) (op : HeapOp) : Shifted platform op heap heap :=
  ⟨owned, .kept⟩

theorem create_bylink_shifted (tended : Tended heap) (link : GetlinkRsp) :
    Shifted platform op heap (heapCreateBylink link heap).2 :=
  sees_shifted (create_answers tended.owned tended.next_vacant link).2 (.created link)

theorem create_byidx_shifted (tended : Tended heap) (index : UInt32) :
    Shifted platform op heap (heapCreateByidx platform index heap).2 := by
  have loaded : gateLoadLinkByidx platform index heap.world =
      (gateGetlink (platform.kernel.getlink index heap.world.kernel).1,
        (gateLoadLinkByidx platform index heap.world).2) := rfl
  unfold heapCreateByidx
  rw [loaded]
  cases gateGetlink (platform.kernel.getlink index heap.world.kernel).1 with
  | error err => exact ⟨tended.owned, .kept⟩
  | ok link =>
      have vacant := tended.next_vacant
      have created := @create_answers _ _ _
        (heap.adopt (gateLoadLinkByidx platform index heap.world).2) tended.owned vacant link
      exact sees_shifted created.2 (.created link)

theorem create_byname_shifted (tended : Tended heap) (answer : Except YnlError GetlinkRsp) :
    Shifted platform op heap (heapCreateByname answer heap).2 := by
  unfold heapCreateByname
  cases gateGetlink answer with
  | error err => exact shifted_refl tended.owned op
  | ok link => exact create_bylink_shifted tended link

theorem on_new_iface_cases {link : GetlinkRsp}
    (done : heapOnNewIface platform link heap = .ok after) :
    after = heap ∨ ∃ aliasBucket, after = heapEnrollLink platform link aliasBucket heap := by
  unfold heapOnNewIface at done
  simp only at done
  split at done
  · cases done
    exact .inl rfl
  · obtain ⟨_, _, done⟩ := (bind_ok_iff ..).mp done
    split at done
    · cases done
      exact .inl rfl
    · split at done
      · cases done
        exact .inr ⟨_, rfl⟩
      · obtain ⟨_, _, done⟩ := (bind_ok_iff ..).mp done
        split at done
        · cases done
          exact .inl rfl
        · cases done
          exact .inr ⟨_, rfl⟩

theorem enroll_link_shifted (tended : Tended heap) (link : GetlinkRsp)
    (aliasBucket : Option NameBucket) :
    Shifted platform op heap (heapEnrollLink platform link aliasBucket heap) := by
  obtain ⟨view, owned⟩ := @enroll_link_view _ _ _ heap platform _ _ tended link aliasBucket
  refine ⟨owned, ?_⟩
  rw [view]
  exact .loaded link (platform.hash.str link.ifname) aliasBucket

theorem new_link_shifted (tended : Tended heap) {link : GetlinkRsp} {ret : Int}
    (done : heapNewLink platform link heap = .ok (ret, after)) :
    Shifted platform op heap after := by
  unfold heapNewLink at done
  split at done
  · obtain ⟨next, handled, done⟩ := (bind_ok_iff ..).mp done
    have shifted : Shifted platform op heap next := by
      cases on_new_iface_cases handled with
      | inl same =>
          rw [same]
          exact shifted_refl tended.owned op
      | inr enrolled =>
          obtain ⟨aliasBucket, rfl⟩ := enrolled
          exact enroll_link_shifted tended link aliasBucket
    cases done
    exact shifted
  · cases done
    exact shifted_refl tended.owned op

theorem destroy_shifted (tended : Tended heap) {interface : Addr}
    (idle : ¬ Enrolled interface heap.world) (done : heapDestroy interface heap = .ok after) :
    Shifted platform op heap after := by
  obtain ⟨world, destroyed, sees⟩ := (destroy_sees tended.owned interface).left_ok done
  obtain ⟨object, finished, rfl⟩ := (map_ok_iff ..).mp destroyed
  obtain ⟨_, rfl⟩ := (iface_fini_ok_iff ..).mp finished
  exact sees_shifted sees (.destroyed idle)

theorem enroll_shift {interface : Addr} {world next : World NameBucket IndexBucket Kstate}
    {allocated : Addr → Bool} {ret : Int} (mine : allocated interface = true)
    (done : storeEnroll platform interface world = .ok (ret, next)) :
    Shift platform allocated world op allocated next.objects next.next next.store := by
  obtain ⟨_, linked, done⟩ := (bind_ok_iff ..).mp done
  cases store_enroll_iface_ok linked with
  | inl refused =>
      simp only [refused.1] at done
      cases done
      exact .kept
  | inr accepted =>
      obtain ⟨zero, _, free, store⟩ := accepted
      simp only [zero, store] at done
      cases done
      exact .enrolled mine free.index _ _

theorem withdraw_shift {interface : Addr} {world : World NameBucket IndexBucket Kstate}
    {allocated : Addr → Bool} :
    Shift platform allocated world op allocated (storeWithdraw platform interface world).2.objects
      (storeWithdraw platform interface world).2.next
      (storeWithdraw platform interface world).2.store := by
  unfold storeWithdraw storeWithdrawIface
  cases storeSearchIfaceHndlByindex platform.hash world.objects world.store
      (world.objects interface).idx with
  | none => exact .kept
  | some hndl => exact .unlinked hndl

theorem call_turns (tended : Tended heap) (admitted : admits heap op) {interface : Addr}
    {call : Call NameBucket IndexBucket Kstate} (calls : callOf op = some (interface, call))
    {ret : HeapRet} (stepped : heapStep platform op heap = .ok (ret, after)) :
    heap.allocated interface = true ∧ (∀ setter, call = .set setter → setter.Valid) ∧
      ∃ world answer, Sees heap.allocated after world ∧ Apart interface heap.view world ∧
        Turn (handedOut platform interface heap.view) (heap.view.objects interface) call answer
          (world.objects interface) := by
  have owned := tended.owned
  cases op with
  | set setter interface =>
      cases calls
      obtain ⟨⟨code, _⟩, done, same⟩ := (map_ok_iff ..).mp stepped
      cases same
      obtain ⟨⟨_, world⟩, turned, _, sees⟩ := (set_answers owned setter interface).left_ok done
      refine ⟨admitted.2, fun other same => ?_, world, _, sees, set_apart turned, set_turns turned⟩
      cases same
      exact admitted.1
  | coherent interface =>
      cases calls
      obtain ⟨⟨code, _⟩, done, same⟩ := (map_ok_iff ..).mp stepped
      cases same
      obtain ⟨⟨_, world⟩, turned, _, sees⟩ := (coherent_answers owned interface).left_ok done
      exact ⟨admitted, nofun, world, _, sees, coherent_apart turned, coherent_turns turned⟩
  | apply interface =>
      cases calls
      obtain ⟨⟨code, _⟩, done, same⟩ := (map_ok_iff ..).mp stepped
      cases same
      obtain ⟨⟨_, world⟩, turned, _, sees⟩ :=
        (reading_answers owned fun _ _ done => apply_seen done).left_ok done
      exact ⟨admitted, nofun, world, _, sees, apply_apart turned, apply_turns turned⟩
  | reload interface =>
      cases calls
      obtain ⟨⟨code, _⟩, done, same⟩ := (map_ok_iff ..).mp stepped
      cases same
      obtain ⟨⟨_, world⟩, turned, _, sees⟩ := (reload_answers owned interface).left_ok done
      exact ⟨admitted, nofun, world, _, sees, reload_apart turned, .reload (reload_refills turned)⟩
  | createByidx | createByname | createBylink | newLink | destroy | enroll | withdraw | clear
  | mayRegisterName | mayRegisterAlias | findByalias | findBystrid => cases calls

theorem call_shifted (tended : Tended heap) (admitted : admits heap op) {interface : Addr}
    {call : Call NameBucket IndexBucket Kstate} (calls : callOf op = some (interface, call))
    {ret : HeapRet} (stepped : heapStep platform op heap = .ok (ret, after)) :
    Shifted platform op heap after := by
  obtain ⟨mine, valid, world, answer, sees, apart, turn⟩ :=
    call_turns tended admitted calls stepped
  exact sees_shifted sees (.turned calls mine valid apart turn)

theorem asking_shifted {Value : Type} {put : Value → HeapRet} {result : Except Fault Value}
    {ret : HeapRet} (owned : Owned heap.strings)
    (done : asking put heap result = .ok (ret, after)) :
    Shifted platform op heap after := by
  obtain ⟨_, _, same⟩ := (map_ok_iff ..).mp done
  cases same
  exact shifted_refl owned op

theorem heap_step_shifted (tended : Tended heap) (admitted : admits heap op) {ret : HeapRet}
    (stepped : heapStep platform op heap = .ok (ret, after)) : Shifted platform op heap after := by
  have owned := tended.owned
  cases op with
  | createByidx index =>
      cases stepped
      exact create_byidx_shifted tended index
  | createByname answer =>
      cases stepped
      exact create_byname_shifted tended answer
  | createBylink link =>
      cases stepped
      exact create_bylink_shifted tended link
  | newLink link =>
      obtain ⟨_, done, same⟩ := (map_ok_iff ..).mp stepped
      cases same
      exact new_link_shifted tended done
  | destroy interface =>
      obtain ⟨_, done, same⟩ := (map_ok_iff ..).mp stepped
      cases same
      exact destroy_shifted tended admitted.2 done
  | set setter interface => exact call_shifted tended admitted rfl stepped
  | coherent interface => exact call_shifted tended admitted rfl stepped
  | apply interface => exact call_shifted tended admitted rfl stepped
  | reload interface => exact call_shifted tended admitted rfl stepped
  | enroll interface =>
      obtain ⟨_, done, same⟩ := (map_ok_iff ..).mp stepped
      cases same
      obtain ⟨_, enrolled, _, sees⟩ := (reading_answers owned fun _ _ done =>
        view_seen (enroll_objects done)).left_ok done
      exact sees_shifted sees (enroll_shift admitted enrolled)
  | withdraw interface =>
      obtain ⟨_, done, same⟩ := (map_ok_iff ..).mp stepped
      cases same
      cases done
      exact ⟨owned, withdraw_shift⟩
  | clear =>
      obtain ⟨_, done, same⟩ := (map_ok_iff ..).mp stepped
      cases same
      obtain ⟨_, cleared, sees⟩ := (clear_answers owned).left_ok done
      obtain ⟨_, released, cleared⟩ := (bind_ok_iff ..).mp cleared
      cases cleared
      exact sees_shifted sees (.cleared released)
  | mayRegisterName | mayRegisterAlias | findByalias | findBystrid =>
      exact asking_shifted owned stepped

theorem Guarded.shifted (asked : AnswersAsked platform.kernel) (guarded : Guarded platform heap)
    (shifted : Shifted platform op heap after) : Guarded platform after :=
  ⟨shifted.1, shifted.2.tidy asked guarded.tidy⟩

theorem step_avoids (guarded : Guarded platform heap)
    (held : AllHeld heap.allocated heap.view.objects) (admitted : admits heap op) :
    Avoids MemoryFault (heapStep platform op heap) := by
  have within := guarded.tidy.within
  have members : MembersHeld heap.view.objects heap.view.store :=
    fun hndl member => held _ (guarded.tidy.enrolled hndl member)
  have aliases : ∀ bucket, ∀ hndl ∈ heap.view.store.aliash bucket,
      Held (heap.view.objects hndl.iface) :=
    fun bucket hndl chained => members hndl (within.aliash bucket hndl chained)
  apply (heap_step_matches guarded.tended op).avoids
  cases op with
  | createByidx index => exact avoids_ok _
  | createByname answer => exact avoids_ok _
  | createBylink link => exact avoids_ok _
  | newLink link => exact (notify_new_avoids within members link).map _
  | destroy interface => exact ((fini_avoids (held interface admitted.1)).map _).map _
  | set setter interface =>
      exact (set_avoids within members (held interface admitted.2) setter).map _
  | coherent interface => exact (coherent_avoids within members (held interface admitted)).map _
  | apply interface => exact (apply_avoids within members (held interface admitted)).map _
  | reload interface => exact (reload_avoids within members (held interface admitted)).map _
  | enroll interface => exact (enroll_avoids within members (held interface admitted)).map _
  | withdraw interface => exact avoids_ok _
  | clear =>
      have released := release_avoids guarded.tidy.single members
      exact (released.bind fun _ _ => avoids_ok _).map _
  | mayRegisterName name => exact (may_register_avoids within members name).1.map _
  | mayRegisterAlias ifalias => exact (may_register_avoids within members ifalias).2.map _
  | findByalias ifalias => exact (find_byalias_avoids aliases ifalias).map _
  | findBystrid strid => exact (find_bystrid_avoids aliases strid).map _

omit [DecidableEq NameBucket] [DecidableEq IndexBucket] in
theorem refill_unanswered {handed : Except Int GetlinkRsp} {err ret : Int} {before left : Iface}
    (refused : handed = .error err) (refill : Refill handed before ret left) :
    ret < 0 ∧ left = { released before with state := .invalid } := by
  cases refill with
  | unanswered _ _ negative => exact ⟨negative, rfl⟩
  | filled _ given => cases refused.symm.trans given
  | clashed _ given => cases refused.symm.trans given

omit [DecidableEq NameBucket] [DecidableEq IndexBucket] in
theorem synced_unanswered {handed : Except Int GetlinkRsp} {err ret : Int} {before left : Iface}
    (refused : handed = .error err) (invalid : before.state = .invalid)
    (synced : Synced handed before ret left) :
    ret < 0 ∧ left = { released before with state := .invalid } := by
  cases synced with
  | passed valid => exact absurd invalid valid
  | reloaded _ refill => exact refill_unanswered refused refill

omit [DecidableEq NameBucket] [DecidableEq IndexBucket] in
theorem turn_unanswered {handed : Except Int GetlinkRsp} {err : Int} {before left : Iface}
    {call : Call NameBucket IndexBucket Kstate} {answer : Answer} (refused : handed = .error err)
    (reloads : Reloads before call) (turn : Turn handed before call answer left) :
    left = { released before with state := .invalid } := by
  cases turn with
  | set synced | read synced =>
      have negative := (synced_unanswered refused reloads synced).1
      omega
  | unset synced | unread synced => exact (synced_unanswered refused reloads synced).2
  | reload refill => exact (refill_unanswered refused refill).2
  | refresh | reloadBylink | idle | applied | unapplied | meanwhile => exact reloads.elim

omit [DecidableEq NameBucket] [DecidableEq IndexBucket] in
theorem bare_of_held_released {object : Iface} (held : Held (released object)) : Bare object := by
  constructor
  · cases present : object.ifalias with
    | none => rfl
    | some pointer =>
        have dangles : (released object).ifalias = some { pointer with live := false } := by
          simp [released, present, dangling]
        cases held.ifalias _ dangles
  · cases present : object.kind with
    | none => rfl
    | some pointer =>
        have dangles : (released object).kind = some { pointer with live := false } := by
          simp [released, present, dangling]
        cases held.kind _ dangles

/-- What does not hold its strings is released twice by the next reload. -/
theorem reload_double_frees (owned : Owned heap.strings) {interface : Addr}
    (dangles : ¬ Held (heap.view.objects interface)) :
    heapStep platform (.reload interface) heap = .error .doubleFree := by
  have freed : ifaceFini (heap.view.objects interface) = .error .doubleFree := by
    have only : ∀ pointer, Avoids (fun fault => fault ≠ .doubleFree) (nlifFree pointer) := by
      intro pointer fault failed
      cases pointer with
      | none => cases failed
      | some string =>
          simp only [nlifFree] at failed
          split at failed
          · cases failed
          · cases failed
            exact not_not.mpr rfl
    cases finished : ifaceFini (heap.view.objects interface) with
    | ok object => exact absurd ((iface_fini_ok_iff ..).mp finished).1 dangles
    | error fault =>
        have avoids : Avoids (fun fault => fault ≠ .doubleFree)
            (ifaceFini (heap.view.objects interface)) :=
          (only _).bind fun _ _ => (only _).bind fun _ _ => avoids_ok _
        rw [not_not.mp (avoids fault finished)]
  have reloaded : ifaceReload platform interface heap.view = .error .doubleFree := by
    unfold ifaceReload
    rw [freed, error_bind]
  have together := @reload_answers _ _ _ heap platform _ _ owned interface
  rw [reloaded] at together
  change returning _ _ = _
  revert together
  generalize heapReload platform interface heap = result
  intro together
  cases together with
  | fault => rfl

/-- A completed call is an answered one exactly when no call after it releases or reads a
released string. -/
theorem answered_iff_safe (asked : AnswersAsked platform.kernel) (guarded : Guarded platform heap)
    (held : AllHeld heap.allocated heap.view.objects) (admitted : admits heap op) {ret : HeapRet}
    (stepped : heapStep platform op heap = .ok (ret, after)) :
    Answered platform heap.view op ↔
      ∀ later, admits after later → Avoids MemoryFault (heapStep platform later after) := by
  constructor
  · intro answered later admittedLater
    have shifted := heap_step_shifted guarded.tended admitted stepped
    exact step_avoids (guarded.shifted asked shifted) (shifted.2.held held answered) admittedLater
  · intro safe interface call calls reloads
    cases given : handedOut platform interface heap.view with
    | ok link => exact .inr ⟨link, rfl⟩
    | error err =>
        obtain ⟨mine, _, world, answer, sees, _, turn⟩ :=
          call_turns guarded.tended admitted calls stepped
        have left := turn_unanswered given reloads turn
        rw [← sees.view] at left
        apply Or.inl
        by_contra strings
        have dangles : ¬ Held (after.view.objects interface) := by
          intro holds
          rw [left] at holds
          exact strings (bare_of_held_released ⟨holds.ifalias, holds.kind⟩)
        have avoids := safe (.reload interface) (by rw [← sees.allocated] at mine; exact mine)
        exact avoids _ (reload_double_frees sees.owned dangles) (.inl rfl)

end Steps

section Runs

variable [DecidableEq NameBucket] [DecidableEq IndexBucket]
  {platform : Platform NameBucket IndexBucket Kstate} {objects : Objects} {gate : Gate}
  {kernel : Kstate} {log : List (HeapOp × HeapRet)}
  {heap : HeapWorld NameBucket IndexBucket Kstate}

/-- Whatever the kernel refuses, no live string is lost. -/
theorem runs_lose_nothing (asked : AnswersAsked platform.kernel)
    (run : Run (heapMachine platform) (heapInit objects gate kernel) log heap) : Owns heap := by
  have guarded : Guarded platform heap := by
    apply run_invariant _ (init_guarded platform objects gate kernel) _ run
    intro before op ret after guarded admitted stepped
    exact guarded.shifted asked (heap_step_shifted guarded.tended admitted stepped)
  exact guarded.owns

/-- In every run whose reloads are answered, nothing is released twice or read after its
release, and what no longer is allocated owns nothing. -/
theorem answered_runs_own (asked : AnswersAsked platform.kernel)
    (run : Run ((heapMachine platform).given fun heap op => Answered platform heap.view op)
      (heapInit objects gate kernel) log heap) :
    Owns heap ∧ ∀ op, admits heap op → Avoids MemoryFault (heapStep platform op heap) ∧
      ∀ ret after, heapStep platform op heap = .ok (ret, after) → Owns after ∧
        (Answered platform heap.view op ↔
          ∀ later, admits after later → Avoids MemoryFault (heapStep platform later after)) := by
  have kept : Guarded platform heap ∧ AllHeld heap.allocated heap.view.objects := by
    apply run_invariant (fun heap : HeapWorld NameBucket IndexBucket Kstate =>
      Guarded platform heap ∧ AllHeld heap.allocated heap.view.objects) _ _ run
    · exact ⟨init_guarded platform objects gate kernel, fun _ allocated => nomatch allocated⟩
    · intro before op ret after holds admitted stepped
      have shifted := heap_step_shifted holds.1.tended admitted.1 stepped
      exact ⟨holds.1.shifted asked shifted, shifted.2.held holds.2 admitted.2⟩
  obtain ⟨guarded, held⟩ := kept
  refine ⟨guarded.owns, fun op admitted => ⟨step_avoids guarded held admitted, ?_⟩⟩
  intro ret after stepped
  have shifted := heap_step_shifted guarded.tended admitted stepped
  exact ⟨(guarded.shifted asked shifted).owns,
    answered_iff_safe asked guarded held admitted stepped⟩

end Runs

def flakyHeap (asked : Nat) :
    HeapWorld (Fin (2 ^ NLIF_STORE_NAMEH_BITS)) (Fin (2 ^ NLIF_STORE_INDXH_BITS)) Nat :=
  heapInit (fun _ => ifaceFill oneLink) { notif := true, member := false } asked

def reloadedOnce (asked : Nat) :
    Except Fault ((HeapRet × HeapRet) ×
      HeapWorld (Fin (2 ^ NLIF_STORE_NAMEH_BITS)) (Fin (2 ^ NLIF_STORE_INDXH_BITS)) Nat ×
      HeapWorld (Fin (2 ^ NLIF_STORE_NAMEH_BITS)) (Fin (2 ^ NLIF_STORE_INDXH_BITS)) Nat) := do
  let (first, enrolled) ←
    heapStep (flakyPlatform aliasedLink) (.newLink aliasedLink) (flakyHeap asked)
  let (second, reloaded) ← heapStep (flakyPlatform aliasedLink) (.reload 0) enrolled
  .ok ((first, second), enrolled, reloaded)

theorem reloaded_once_ok {asked : Nat} {first second : HeapRet}
    {enrolled reloaded : HeapWorld (Fin (2 ^ NLIF_STORE_NAMEH_BITS))
      (Fin (2 ^ NLIF_STORE_INDXH_BITS)) Nat}
    (done : reloadedOnce asked = .ok ((first, second), enrolled, reloaded)) :
    heapStep (flakyPlatform aliasedLink) (.newLink aliasedLink) (flakyHeap asked) =
        .ok (first, enrolled) ∧
      heapStep (flakyPlatform aliasedLink) (.reload 0) enrolled = .ok (second, reloaded) := by
  obtain ⟨⟨_, _⟩, linked, done⟩ := (bind_ok_iff ..).mp done
  obtain ⟨⟨_, _⟩, loaded, done⟩ := (bind_ok_iff ..).mp done
  cases done
  exact ⟨linked, loaded⟩

theorem fault_of_fst {Value State : Type} {result : Except Fault (Value × State)} {fault : Fault}
    (failed : Prod.fst <$> result = .error fault) : result = .error fault := by
  cases result with
  | error other =>
      cases failed
      rfl
  | ok done => cases failed

/-- A link with alias is enrolled and its next reload fails: whatever comes next releases or
reads the alias again. -/
theorem failed_reload_double_frees :
    ∃ heap, Run (heapMachine (flakyPlatform aliasedLink)) (flakyHeap 0)
        [(.newLink aliasedLink, .code 0), (.reload 0, .code (-12))] heap ∧
      admits heap (.reload 0) ∧
      heapStep (flakyPlatform aliasedLink) (.reload 0) heap = .error .doubleFree ∧
      heapStep (flakyPlatform aliasedLink) .clear heap = .error .doubleFree ∧
      heapStep (flakyPlatform aliasedLink) (.mayRegisterAlias nameB) heap =
        .error .useAfterFree := by
  have result : (fun done => (done.1, done.2.1.allocated 0, done.2.2.allocated 0,
      [.reload 0, .clear, .mayRegisterAlias nameB].map fun op =>
        Prod.fst <$> heapStep (flakyPlatform aliasedLink) op done.2.2)) <$> reloadedOnce 0 =
      .ok ((.code 0, .code (-12)), true, true,
        [.error .doubleFree, .error .doubleFree, .error .useAfterFree]) := by
    decide +kernel
  obtain ⟨⟨_, enrolled, heap⟩, done, same⟩ := (map_ok_iff ..).mp result
  simp only [Prod.mk.injEq, List.map_cons, List.map_nil, List.cons.injEq, and_true] at same
  obtain ⟨rfl, known, still, again, cleared, asked⟩ := same
  obtain ⟨linked, loaded⟩ := reloaded_once_ok done
  have first : Run (heapMachine (flakyPlatform aliasedLink)) (flakyHeap 0)
      ([] ++ [(.newLink aliasedLink, .code 0)]) enrolled := .step .start True.intro linked
  have run : Run (heapMachine (flakyPlatform aliasedLink)) (flakyHeap 0)
      ([] ++ [(.newLink aliasedLink, .code 0)] ++ [(.reload 0, .code (-12))]) heap :=
    .step first known loaded
  exact ⟨heap, run, still, fault_of_fst again, fault_of_fst cleared, fault_of_fst asked⟩

def answeredMachine := (heapMachine (flakyPlatform aliasedLink)).given fun heap op =>
  Answered (flakyPlatform aliasedLink) heap.view op

theorem answered_reload_owns :
    ∃ heap, Run answeredMachine (flakyHeap 1)
        [(.newLink aliasedLink, .code 0), (.reload 0, .code 0)] heap ∧
      Owns heap ∧
      Avoids MemoryFault (heapStep (flakyPlatform aliasedLink) .clear heap) := by
  have result : (fun done => (done.1, done.2.1.allocated 0,
      handedOut (flakyPlatform aliasedLink) 0 done.2.1.view)) <$> reloadedOnce 1 =
      .ok ((.code 0, .code 0), true, .ok aliasedLink) := by
    decide +kernel
  obtain ⟨⟨_, enrolled, heap⟩, done, same⟩ := (map_ok_iff ..).mp result
  simp only [Prod.mk.injEq] at same
  obtain ⟨rfl, known, given⟩ := same
  obtain ⟨linked, loaded⟩ := reloaded_once_ok done
  have silent : Answered (flakyPlatform aliasedLink) (flakyHeap 1).view (.newLink aliasedLink) := by
    intro interface call calls _
    cases calls
  have answered : Answered (flakyPlatform aliasedLink) enrolled.view (.reload 0) := by
    intro interface call calls _
    cases calls
    exact .inr ⟨aliasedLink, given⟩
  have first : Run answeredMachine (flakyHeap 1) ([] ++ [(.newLink aliasedLink, .code 0)])
      enrolled := .step .start ⟨True.intro, silent⟩ linked
  have run : Run answeredMachine (flakyHeap 1)
      ([] ++ [(.newLink aliasedLink, .code 0)] ++ [(.reload 0, .code 0)]) heap :=
    .step first ⟨known, answered⟩ loaded
  have asked : AnswersAsked (flakyPlatform aliasedLink).kernel :=
    fun index state link next given =>
      ((flaky_kernel_reports aliased_link_reported).getlink index state link next given).1
  have owned := answered_runs_own asked run
  exact ⟨heap, run, owned.1, (owned.2 .clear True.intro).1⟩

end Nlif.StringOwnership
