import Nlif.FaultRelation
import Nlif.IfaceRun
import Nlif.StringHeap

/-!
# The heap shows a world

Each call over the heap does to the view what the same call of `GateModel` does to a
world, and faults where that one does, as long as the heap is owned.
-/

namespace Nlif.StringView

open LinkModel IfaceModel StoreModel GateModel GateSpec FaultWalk FaultRelation SlotHeap StringHeap
open IfaceRun (gate_notify_reload_frame)

set_option autoImplicit false

variable {NameBucket IndexBucket Kstate : Type}

section View

variable {heap : HeapWorld NameBucket IndexBucket Kstate} {interface : Addr}

theorem adopt_view {world : World NameBucket IndexBucket Kstate}
    (shows : ∀ interface, seen heap.strings interface (world.objects interface) =
      world.objects interface) : (heap.adopt world).view = world := by
  have objects : (fun interface => seen heap.strings interface (world.objects interface)) =
      world.objects := funext shows
  unfold HeapWorld.view HeapWorld.adopt
  simp only [objects]

theorem set_object_view (object : Iface) :
    (heap.setObject interface object).view =
      heap.view.setObject interface (seen heap.strings interface object) := by
  have objects : (fun other => seen heap.strings other
        (Function.update heap.world.objects interface object other)) =
      Function.update heap.view.objects interface (seen heap.strings interface object) := by
    funext other
    by_cases self : other = interface
    · subst self
      rw [Function.update_self, Function.update_self]
    · rw [Function.update_of_ne self, Function.update_of_ne self]
      rfl
  unfold HeapWorld.view HeapWorld.setObject HeapWorld.adopt World.setObject
  simp only [objects]
  rfl

theorem invalidate_view :
    (heap.invalidate interface).view = heap.view.invalidate interface :=
  set_object_view _

theorem record_view (event : Event) :
    (heap.adopt (heap.world.record event)).view = heap.view.record event := rfl

theorem vacant_iff (strings : Heap Slot CString) (slot : Slot) :
    Vacant slot strings ↔ ∀ pointer, shown strings slot = some pointer → pointer.live = false := by
  constructor
  · intro vacant pointer present
    obtain ⟨found, look, rfl⟩ := Option.map_eq_some_iff.mp present
    by_contra alive
    have held : found.2 = true := by simpa using alive
    exact vacant found.1 (look.trans (congrArg some (Prod.ext rfl held)))
  · intro dead content look
    have shows : shown strings slot = some ⟨content, true⟩ := by
      rw [shown, look]
      rfl
    cases dead _ shows

end View

def strOf : StrField → Iface → Option HeapStr
  | .ifalias => Iface.ifalias
  | .kind => Iface.kind

def withStr (field : StrField) (pointer : Option HeapStr) (object : Iface) : Iface :=
  match field with
  | .ifalias => { object with ifalias := pointer }
  | .kind => { object with kind := pointer }

/-- The heap is owned and shows this world. -/
structure Sees (allocated : Addr → Bool) (heap : HeapWorld NameBucket IndexBucket Kstate)
    (world : World NameBucket IndexBucket Kstate) : Prop where
  view : heap.view = world
  owned : Owned heap.strings
  allocated : heap.allocated = allocated

def Answers {Value : Type} (allocated : Addr → Bool)
    (done : Value × HeapWorld NameBucket IndexBucket Kstate)
    (other : Value × World NameBucket IndexBucket Kstate) : Prop :=
  done.1 = other.1 ∧ Sees allocated done.2 other.2

section Sees

variable {heap : HeapWorld NameBucket IndexBucket Kstate} {interface : Addr} {field : StrField}

theorem seen_with_str {strings other : Heap Slot CString}
    (kept : ∀ slot, slot ≠ (interface, field) → shown strings slot = shown other slot)
    (address : Addr) (object : Iface) :
    seen strings address object =
      if address = interface then
        withStr field (shown strings (interface, field)) (seen other address object)
      else seen other address object := by
  have elsewhere : ∀ another, (address, another) ≠ (interface, field) →
      shown strings (address, another) = shown other (address, another) :=
    fun _ different => kept _ different
  by_cases self : address = interface
  · subst self
    rw [if_pos rfl]
    cases field with
    | ifalias => simp [seen, withStr, elsewhere .kind (by simp)]
    | kind => simp [seen, withStr, elsewhere .ifalias (by simp)]
  · rw [if_neg self]
    simp [seen, elsewhere _ (fun same => self (congrArg Prod.fst same))]

theorem strings_view {strings : Heap Slot CString}
    (kept : ∀ slot, slot ≠ (interface, field) → shown strings slot = shown heap.strings slot) :
    HeapWorld.view { heap with strings } =
      heap.view.setObject interface
        (withStr field (shown strings (interface, field)) (heap.view.objects interface)) := by
  have objects : (fun address => seen strings address (heap.world.objects address)) =
      Function.update heap.view.objects interface
        (withStr field (shown strings (interface, field)) (heap.view.objects interface)) := by
    funext address
    rw [seen_with_str kept]
    by_cases self : address = interface
    · subst self
      rw [if_pos rfl, Function.update_self]
      rfl
    · rw [if_neg self, Function.update_of_ne self]
      rfl
  unfold HeapWorld.view World.setObject
  simp only [objects]
  rfl

theorem assign_sees (owned : Owned heap.strings) (vacant : Vacant (interface, field) heap.strings)
    (text : Option CString) :
    Sees heap.allocated (heap.assign (interface, field) text)
      (heap.view.setObject interface
        (withStr field (text.map dupStr) (heap.view.objects interface))) where
  view := by
    have fresh : shown (heap.strings.assign (interface, field) text) (interface, field) =
        text.map dupStr := by
      rw [shown, look_assign_self, Option.map_map]
      rfl
    rw [← fresh]
    apply strings_view
    intro slot different
    rw [shown, shown, look_assign_other owned text different]
  owned := owned_assign owned vacant text
  allocated := rfl

theorem free_sees (owned : Owned heap.strings) (interface : Addr) (field : StrField) :
    Together (fun next after => Sees heap.allocated next (heap.view.setObject interface
        (withStr field after (heap.view.objects interface))))
      (heap.free (interface, field)) (nlifFree (strOf field (heap.view.objects interface))) := by
  have read : strOf field (heap.view.objects interface) =
      shown heap.strings (interface, field) := by
    cases field <;> rfl
  rw [read]
  unfold HeapWorld.free
  cases dropped : heap.strings.drop (interface, field) with
  | none =>
      obtain ⟨content, look⟩ := (drop_none_iff owned).mp dropped
      have dead : shown heap.strings (interface, field) = some ⟨content, false⟩ := by
        rw [shown, look]
        rfl
      rw [dead]
      exact .fault _
  | some strings =>
      have vacated : shown strings (interface, field) =
          dangling (shown heap.strings (interface, field)) := by
        rw [shown, look_drop_self dropped, shown, Option.map_map, dangling, Option.map_map]
        rfl
      have alive : nlifFree (shown heap.strings (interface, field)) =
          .ok (dangling (shown heap.strings (interface, field))) := by
        refine (nlif_free_ok_iff _ _).mpr ⟨fun pointer present => ?_, rfl⟩
        obtain ⟨found, look, rfl⟩ := Option.map_eq_some_iff.mp present
        by_contra dead
        have released : found.2 = false := by simpa using dead
        have refused := (drop_none_iff owned).mpr
          ⟨found.1, look.trans (congrArg some (Prod.ext rfl released))⟩
        rw [dropped] at refused
        cases refused
      rw [alive, ← vacated]
      refine .done ⟨strings_view fun slot different => ?_, owned_drop owned dropped, rfl⟩
      rw [shown, shown, look_drop_other owned different dropped]

theorem set_object_twice (world : World NameBucket IndexBucket Kstate) (first second : Iface) :
    (world.setObject interface first).setObject interface second =
      world.setObject interface second := by
  simp only [World.setObject, Function.update_idem]

theorem fini_sees (owned : Owned heap.strings) (interface : Addr) :
    Together (fun next object =>
        Sees heap.allocated next (heap.view.setObject interface object))
      (heapFini interface heap) (ifaceFini (heap.view.objects interface)) := by
  refine (free_sees owned interface .ifalias).bind fun middle after _ _ sees => ?_
  have object : middle.view.objects interface =
      withStr .ifalias after (heap.view.objects interface) := by
    rw [sees.view, World.set_object_self]
  have second := free_sees sees.owned interface .kind
  rw [object, sees.view, sees.allocated] at second
  refine second.finish fun next kind further => ?_
  rw [set_object_twice] at further
  exact further

theorem fill_sees (owned : Owned heap.strings)
    (vacant : ∀ field, Vacant (interface, field) heap.strings) (link : GetlinkRsp) :
    Sees heap.allocated (heapFill interface link heap)
      (heap.view.setObject interface (ifaceFill link)) := by
  have first := @assign_sees _ _ _ (heap.setObject interface (ifaceFill link)) interface .ifalias
    owned (vacant .ifalias) link.heldAlias
  have other : shown (heap.strings.assign (interface, .ifalias) link.heldAlias) (interface, .kind) =
      shown heap.strings (interface, .kind) := by
    rw [shown, shown, look_assign_other owned _ (by simp)]
  have still : Vacant (interface, .kind)
      (heap.strings.assign (interface, .ifalias) link.heldAlias) := by
    rw [vacant_iff, other, ← vacant_iff]
    exact vacant .kind
  have second := @assign_sees _ _ _ ((heap.setObject interface (ifaceFill link)).assign
    (interface, .ifalias) link.heldAlias) interface .kind first.owned still link.heldKind
  rw [first.view, set_object_view, set_object_twice, World.set_object_self, set_object_twice,
    World.set_object_self] at second
  exact second

theorem load_link_view (platform : Platform NameBucket IndexBucket Kstate) (index : UInt32) :
    gateLoadLinkByidx platform index heap.view =
      ((gateLoadLinkByidx platform index heap.world).1,
        (heap.adopt (gateLoadLinkByidx platform index heap.world).2).view) := rfl

theorem load_byidx_sees (owned : Owned heap.strings)
    (vacant : ∀ field, Vacant (interface, field) heap.strings)
    (platform : Platform NameBucket IndexBucket Kstate) (index : UInt32) :
    Answers heap.allocated (heapLoadByidx platform interface index heap)
      (ifaceLoadByidx platform interface index heap.view) := by
  unfold heapLoadByidx ifaceLoadByidx
  rw [load_link_view]
  cases gateLoadLinkByidx platform index heap.world with
  | mk outcome world =>
      cases outcome with
      | error err => exact ⟨rfl, rfl, owned, rfl⟩
      | ok link =>
          have filled := @fill_sees _ _ _ (heap.adopt world) interface owned vacant link
          exact ⟨rfl, filled⟩

theorem reading_answers {Value : Type} (owned : Owned heap.strings)
    {call : World NameBucket IndexBucket Kstate →
      Except Fault (Value × World NameBucket IndexBucket Kstate)}
    (keeps : ∀ value next, call heap.view = .ok (value, next) → ∀ address,
      seen heap.strings address (next.objects address) = next.objects address) :
    Together (Answers heap.allocated) (heap.reading call) (call heap.view) := by
  unfold HeapWorld.reading
  cases called : call heap.view with
  | error fault => exact .fault fault
  | ok done => exact .done ⟨rfl, adopt_view (keeps done.1 done.2 called), owned, rfl⟩

theorem invalidate_sees {allocated : Addr → Bool}
    {world : World NameBucket IndexBucket Kstate} (sees : Sees allocated heap world) :
    Sees allocated (heap.invalidate interface) (world.invalidate interface) where
  view := by rw [invalidate_view, sees.view]
  owned := sees.owned
  allocated := sees.allocated

/-- After `nlif_iface_fini()` both pointers dangle. -/
theorem fini_vacant {object : Iface} {next : HeapWorld NameBucket IndexBucket Kstate}
    {allocated : Addr → Bool} {world : World NameBucket IndexBucket Kstate}
    (finished : ifaceFini (world.objects interface) = .ok object)
    (sees : Sees allocated next (world.setObject interface object)) (field : StrField) :
    Vacant (interface, field) next.strings := by
  obtain ⟨_, rfl⟩ := (iface_fini_ok_iff ..).mp finished
  have object : next.view.objects interface = released (world.objects interface) := by
    rw [sees.view, World.set_object_self]
  have shows : shown next.strings (interface, field) =
      strOf field (released (world.objects interface)) := by
    rw [← object]
    cases field <;> rfl
  rw [vacant_iff, shows]
  intro pointer present
  cases field with
  | ifalias =>
      obtain ⟨_, _, rfl⟩ := Option.map_eq_some_iff.mp present
      rfl
  | kind =>
      obtain ⟨_, _, rfl⟩ := Option.map_eq_some_iff.mp present
      rfl

end Sees

section Calls

variable {heap : HeapWorld NameBucket IndexBucket Kstate}
  {platform : Platform NameBucket IndexBucket Kstate}

theorem view_seen {world : World NameBucket IndexBucket Kstate}
    (same : world.objects = heap.view.objects) (address : Addr) :
    seen heap.strings address (world.objects address) = world.objects address := by
  rw [same]
  rfl

theorem set_object_same (world : World NameBucket IndexBucket Kstate) (interface : Addr) :
    world.setObject interface (world.objects interface) = world := by
  rw [World.setObject, Function.update_eq_self]

theorem replace_alias_answers (owned : Owned heap.strings) (text : Option CString)
    (interface : Addr) (dirty : Iface) :
    Together (Answers heap.allocated)
      (heap.free (interface, .ifalias) >>= fun heap =>
        .ok ((0 : Int), (heap.setObject interface dirty).assign (interface, .ifalias) text))
      (nlifFree (heap.view.objects interface).ifalias >>= fun _ =>
        .ok ((0 : Int), heap.view.setObject interface (withStr .ifalias (text.map dupStr)
          (seen heap.strings interface dirty)))) := by
  refine (free_sees owned interface .ifalias).bind fun freed after _ released sees => ?_
  have vacant : Vacant (interface, .ifalias) freed.strings := by
    have object : freed.view.objects interface =
        withStr .ifalias after (heap.view.objects interface) := by
      rw [sees.view, World.set_object_self]
    have shows : shown freed.strings (interface, .ifalias) = after :=
      congrArg Iface.ifalias object
    obtain ⟨_, rfl⟩ := (nlif_free_ok_iff ..).mp released
    rw [vacant_iff, shows]
    intro pointer present
    obtain ⟨_, _, rfl⟩ := Option.map_eq_some_iff.mp present
    rfl
  have kind : shown freed.strings (interface, .kind) = shown heap.strings (interface, .kind) := by
    have object : freed.view.objects interface =
        withStr .ifalias after (heap.view.objects interface) := by
      rw [sees.view, World.set_object_self]
    exact congrArg Iface.kind object
  have assigned := @assign_sees _ _ _ (freed.setObject interface dirty) interface .ifalias
    sees.owned vacant text
  have object : withStr .ifalias (text.map dupStr) (seen freed.strings interface dirty) =
      withStr .ifalias (text.map dupStr) (seen heap.strings interface dirty) := by
    simp only [withStr, seen, kind]
  rw [set_object_view, set_object_twice, World.set_object_self, object, sees.view,
    set_object_twice] at assigned
  refine .done ⟨rfl, assigned.view, assigned.owned, ?_⟩
  exact sees.allocated

theorem stage_alias_answers (owned : Owned heap.strings) (ifalias : Option CString)
    (interface : Addr) :
    Together (Answers heap.allocated) (heapStageAlias ifalias interface heap)
      ((fun staged => (staged.1, heap.view.setObject interface staged.2)) <$>
        stageAlias ifalias (heap.view.objects interface)) := by
  have unchanged : ∀ ret : Int, Answers heap.allocated (ret, heap)
      (ret, heap.view.setObject interface (heap.view.objects interface)) := by
    intro ret
    rw [set_object_same]
    exact ⟨rfl, rfl, owned, rfl⟩
  unfold heapStageAlias stageAlias
  cases ifalias with
  | none =>
      simp only
      split
      · exact .done (unchanged 0)
      · have replaced := replace_alias_answers owned none interface
          { heap.view.objects interface with
            state := .dirty
            dirtyFields := insert .ifalias (heap.view.objects interface).dirtyFields }
        rw [map_bind]
        exact replaced
  | some text =>
      simp only [map_bind]
      refine together_bind_same fun same _ => ?_
      cases same with
      | true => exact .done (unchanged 0)
      | false =>
          simp only [Bool.false_eq_true, if_false]
          split
          · exact .done (unchanged (-EEXIST))
          · have replaced := replace_alias_answers owned (some text) interface
              { heap.view.objects interface with
                state := .dirty
                dirtyFields := insert .ifalias (heap.view.objects interface).dirtyFields }
            rw [map_bind]
            exact replaced

theorem stage_seen {setter : Setter} (other : ∀ ifalias, setter ≠ .ifalias ifalias)
    {interface : Addr} {ret : Int} {after : Iface}
    (staged : stage setter (heap.view.objects interface) = .ok (ret, after)) :
    seen heap.strings interface after = after := by
  cases stage_cases staged with
  | inl same =>
      rw [same]
      rfl
  | inr changed =>
      rw [changed.2.1]
      cases setter with
      | ifalias ifalias => exact absurd rfl (other ifalias)
      | name | group | admstate | mtu | hwaddr => rfl

theorem stage_answers (owned : Owned heap.strings) (setter : Setter) (interface : Addr) :
    Together (Answers heap.allocated) (heapStage setter interface heap)
      ((fun staged => (staged.1, heap.view.setObject interface staged.2)) <$>
        stage setter (heap.view.objects interface)) := by
  have plain : (∀ ifalias, setter ≠ .ifalias ifalias) → Together (Answers heap.allocated)
      ((fun staged => (staged.1, heap.setObject interface staged.2)) <$>
        stage setter (heap.view.objects interface))
      ((fun staged => (staged.1, heap.view.setObject interface staged.2)) <$>
        stage setter (heap.view.objects interface)) := by
    intro other
    cases staged : stage setter (heap.view.objects interface) with
    | error fault => exact .fault fault
    | ok done =>
        refine .done ⟨rfl, ?_, owned, rfl⟩
        rw [set_object_view, stage_seen other staged]
  cases setter with
  | ifalias ifalias => exact stage_alias_answers owned ifalias interface
  | name | group | admstate | mtu | hwaddr => exact plain (by simp)

variable [DecidableEq NameBucket] [DecidableEq IndexBucket]

theorem reload_answers (owned : Owned heap.strings) (interface : Addr) :
    Together (Answers heap.allocated) (heapReload platform interface heap)
      (ifaceReload platform interface heap.view) := by
  refine (fini_sees owned interface).bind fun finished object _ fini sees => ?_
  have vacant := fini_vacant fini sees
  have idx : (finished.world.objects interface).idx = object.idx := by
    have shows : (finished.view.objects interface).idx = object.idx := by
      rw [sees.view, World.set_object_self]
    exact shows
  have loaded := load_byidx_sees sees.owned vacant platform object.idx
  rw [sees.view, sees.allocated] at loaded
  rw [idx]
  revert loaded
  cases heapLoadByidx platform interface object.idx finished with
  | mk err filled =>
      cases ifaceLoadByidx platform interface object.idx (heap.view.setObject interface object) with
      | mk code world =>
          intro loaded
          obtain ⟨same, seesFilled⟩ := loaded
          subst same
          by_cases failed : err ≠ 0
          · simp only [if_pos failed]
            exact .done ⟨rfl, invalidate_sees seesFilled⟩
          · simp only [if_neg failed]
            have notified := @reading_answers _ _ _ filled _ seesFilled.owned
              (gateNotify platform noObservers (.reload interface))
              (fun _ _ done => view_seen (gate_notify_reload_frame done).1)
            rw [seesFilled.view, seesFilled.allocated] at notified
            refine notified.bind fun left right _ _ both => ?_
            obtain ⟨returned, sees⟩ := both
            rw [returned]
            split
            · exact .done ⟨rfl, invalidate_sees sees⟩
            · exact .done ⟨rfl, sees⟩

theorem sync_answers (owned : Owned heap.strings) (interface : Addr) :
    Together (Answers heap.allocated) (heapSync platform interface heap)
      (ifaceSync platform interface heap.view) := by
  have state : (heap.view.objects interface).state = (heap.world.objects interface).state := rfl
  unfold heapSync ifaceSync
  rw [state]
  cases (heap.world.objects interface).state with
  | clean => exact .done ⟨rfl, rfl, owned, rfl⟩
  | dirty => exact .done ⟨rfl, rfl, owned, rfl⟩
  | invalid => exact reload_answers owned interface

theorem set_answers (owned : Owned heap.strings) (setter : Setter) (interface : Addr) :
    Together (Answers heap.allocated) (heapSet platform setter interface heap)
      (ifaceSet platform setter interface heap.view) := by
  refine (sync_answers owned interface).bind fun ⟨ret, synced⟩ ⟨_, world⟩ _ _ both => ?_
  obtain ⟨rfl, sees⟩ := both
  simp only
  split
  · exact .done ⟨rfl, sees⟩
  · have staged := @stage_answers _ _ _ synced sees.owned setter interface
    rw [sees.view, sees.allocated] at staged
    exact staged

theorem coherent_answers (owned : Owned heap.strings) (interface : Addr) :
    Together (Answers heap.allocated) (heapCoherent platform interface heap)
      (ifaceCoherent platform id interface heap.view) := by
  refine (sync_answers owned interface).bind fun ⟨ret, synced⟩ ⟨_, world⟩ _ _ both => ?_
  obtain ⟨rfl, sees⟩ := both
  simp only
  split
  · exact .done ⟨rfl, sees⟩
  · refine .done ⟨?_, sees⟩
    rw [sees.view]
    rfl

theorem apply_seen {interface : Addr} {ret : Int} {next : World NameBucket IndexBucket Kstate}
    (done : ifaceApply platform interface heap.view = .ok (ret, next)) (address : Addr) :
    seen heap.strings address (next.objects address) = next.objects address := by
  have ifalias : (next.objects address).ifalias = (heap.view.objects address).ifalias :=
    apply_field _ _ _ (fun _ => rfl) (fun _ => rfl) done address
  have kind : (next.objects address).kind = (heap.view.objects address).kind :=
    apply_field _ _ _ (fun _ => rfl) (fun _ => rfl) done address
  rw [seen]
  exact (congrArg₂ (fun ifalias kind => { next.objects address with ifalias, kind }) ifalias
    kind).symm

theorem enroll_objects {interface : Addr} {world next : World NameBucket IndexBucket Kstate}
    {ret : Int} (done : storeEnroll platform interface world = .ok (ret, next)) :
    next.objects = world.objects := by
  obtain ⟨⟨code, store⟩, _, done⟩ := (bind_ok_iff ..).mp done
  simp only at done
  split at done
  · cases done
    rfl
  · cases done
    rfl

end Calls

section Lifetimes

variable {heap : HeapWorld NameBucket IndexBucket Kstate}
  {platform : Platform NameBucket IndexBucket Kstate}

theorem create_answers (owned : Owned heap.strings)
    (vacant : ∀ field, Vacant (heap.world.next, field) heap.strings) (link : GetlinkRsp) :
    Answers (Function.update heap.allocated heap.world.next true) (heapCreateBylink link heap)
      (ifaceCreateBylink link heap.view) := by
  have filled := fill_sees owned vacant link
  refine ⟨rfl, ?_, filled.owned, ?_⟩
  · have shows : (heapCreateBylink link heap).2.view =
        { (heapFill heap.world.next link heap).view with next := heap.world.next + 1 } := rfl
    rw [shows, filled.view]
    rfl
  · exact congrArg (fun allocated => Function.update allocated heap.world.next true)
      filled.allocated

theorem destroy_sees (owned : Owned heap.strings) (interface : Addr) :
    Together (Sees (Function.update heap.allocated interface false)) (heapDestroy interface heap)
      (ifaceDestroy interface heap.view) := by
  have finished := fini_sees owned interface
  unfold heapDestroy ifaceDestroy
  revert finished
  generalize heapFini interface heap = left
  generalize ifaceFini (heap.view.objects interface) = right
  intro finished
  cases finished with
  | fault fault => exact .fault fault
  | done sees => exact .done ⟨sees.view, sees.owned, by rw [← sees.allocated]⟩

theorem release_sees (owned : Owned heap.strings) (ifaces : List Hndl) :
    Together (fun next objects =>
        Sees (remaining heap.allocated ifaces) next { heap.view with objects })
      (heapRelease ifaces heap) (storeRelease ifaces heap.view.objects) := by
  induction ifaces generalizing heap with
  | nil => exact .done ⟨rfl, owned, rfl⟩
  | cons hndl rest ih =>
      have destroyed := destroy_sees owned hndl.iface
      have same : ifaceDestroy hndl.iface heap.view =
          (fun object => heap.view.setObject hndl.iface object) <$>
            ifaceFini (heap.view.objects hndl.iface) := rfl
      rw [same] at destroyed
      unfold heapRelease storeRelease
      revert destroyed
      generalize heapDestroy hndl.iface heap = left
      cases ifaceFini (heap.view.objects hndl.iface) with
      | error fault =>
          intro destroyed
          cases destroyed with
          | fault => exact .fault fault
      | ok object =>
          intro destroyed
          cases destroyed with
          | @done next _ sees =>
              have later := @ih next sees.owned
              rw [sees.view, sees.allocated] at later
              exact later

theorem clear_answers (owned : Owned heap.strings) :
    Together (Sees (remaining heap.allocated heap.world.store.ifaces)) (heapClear heap)
      (storeClear heap.view) := by
  refine (release_sees owned heap.world.store.ifaces).bind fun next objects _ _ sees => ?_
  refine .done ⟨?_, sees.owned, sees.allocated⟩
  have shows : (next.adopt { next.world with store := storeReinit }).view =
      { next.view with store := storeReinit } := rfl
  rw [shows, sees.view]

end Lifetimes

structure Tended (heap : HeapWorld NameBucket IndexBucket Kstate) : Prop where
  owned : Owned heap.strings
  bounded : ∀ interface, heap.allocated interface = true → interface < heap.world.next
  vacant : ∀ interface, heap.allocated interface = false → ∀ field,
    Vacant (interface, field) heap.strings

def Matches {Value : Type} (done : Value × HeapWorld NameBucket IndexBucket Kstate)
    (other : Value × World NameBucket IndexBucket Kstate) : Prop :=
  done.1 = other.1 ∧ done.2.view = other.2 ∧ Owned done.2.strings

section Steps

variable {heap : HeapWorld NameBucket IndexBucket Kstate}
  {platform : Platform NameBucket IndexBucket Kstate}

theorem Tended.next_vacant (tended : Tended heap) (field : StrField) :
    Vacant (heap.world.next, field) heap.strings := by
  apply tended.vacant
  by_contra allocated
  have bound := tended.bounded heap.world.next (by simpa using allocated)
  exact absurd bound (Nat.lt_irrefl _)

theorem returning_matches {Value : Type} {put : Value → HeapRet} {allocated : Addr → Bool}
    {left : Except Fault (Value × HeapWorld NameBucket IndexBucket Kstate)}
    {right : Except Fault (Value × World NameBucket IndexBucket Kstate)}
    (together : Together (Answers allocated) left right) :
    Together Matches (returning put left) (returning put right) :=
  together.map fun _ _ answers =>
    ⟨congrArg put answers.1, answers.2.view, answers.2.owned⟩

theorem asking_matches {Value : Type} (owned : Owned heap.strings) (put : Value → HeapRet)
    (result : Except Fault Value) :
    Together Matches (asking put heap result) (asking put heap.view result) := by
  cases result with
  | error fault => exact .fault fault
  | ok value => exact .done ⟨rfl, rfl, owned⟩

theorem create_byidx_matches (tended : Tended heap) (index : UInt32) :
    Matches (heapCreateByidx platform index heap) (ifaceCreateByidx platform index heap.view) := by
  have next : (gateLoadLinkByidx platform index heap.world).2.next = heap.world.next := rfl
  unfold heapCreateByidx ifaceCreateByidx
  rw [load_link_view]
  revert next
  cases gateLoadLinkByidx platform index heap.world with
  | mk outcome world =>
      intro next
      cases outcome with
      | error err => exact ⟨rfl, rfl, tended.owned⟩
      | ok link =>
          have vacant : ∀ field, Vacant ((heap.adopt world).world.next, field)
              (heap.adopt world).strings := by
            intro field
            have same : (heap.adopt world).world.next = heap.world.next := next
            rw [same]
            exact tended.next_vacant field
          have created := @create_answers _ _ _ (heap.adopt world) tended.owned vacant link
          exact ⟨congrArg Except.ok created.1, created.2.view, created.2.owned⟩

theorem create_byname_matches (tended : Tended heap) (answer : Except YnlError GetlinkRsp) :
    Matches (heapCreateByname answer heap) (ifaceCreateByname answer heap.view) := by
  unfold heapCreateByname ifaceCreateByname
  cases gateGetlink answer with
  | error err => exact ⟨rfl, rfl, tended.owned⟩
  | ok link =>
      have created := create_answers tended.owned tended.next_vacant link
      exact ⟨congrArg Except.ok created.1, created.2.view, created.2.owned⟩

variable [DecidableEq NameBucket] [DecidableEq IndexBucket]

theorem enroll_link_view (tended : Tended heap) (link : GetlinkRsp)
    (aliasBucket : Option NameBucket) :
    (heapEnrollLink platform link aliasBucket heap).view =
        storeEnrollLink platform link aliasBucket heap.view ∧
      Owned (heapEnrollLink platform link aliasBucket heap).strings := by
  have created := create_answers tended.owned tended.next_vacant link
  have shows : (heapEnrollLink platform link aliasBucket heap).view =
      { (heapCreateBylink link heap).2.view with
        store := storeCreatenEnrollIfaceHndl (heapCreateBylink link heap).2.view.store
          ⟨(heapCreateBylink link heap).2.view.next, (heapCreateBylink link heap).1⟩
          (platform.hash.index link.ifiIndex) (platform.hash.str link.ifname) aliasBucket
        next := (heapCreateBylink link heap).2.view.next + 1 } := rfl
  rw [shows, created.2.view, created.1]
  exact ⟨rfl, created.2.owned⟩

theorem on_new_iface_matches (tended : Tended heap) (link : GetlinkRsp) :
    Together (fun next world => next.view = world ∧ Owned next.strings)
      (heapOnNewIface platform link heap) (storeOnNewIface platform link heap.view) := by
  have kept : Together (fun (next : HeapWorld NameBucket IndexBucket Kstate) world =>
      next.view = world ∧ Owned next.strings) (.ok heap : Except Fault _) (.ok heap.view) :=
    .done ⟨rfl, tended.owned⟩
  have store : heap.world.store = heap.view.store := rfl
  unfold heapOnNewIface storeOnNewIface
  simp only [store]
  cases storeMayRegisterIfaceIndex platform.hash heap.view.objects heap.view.store
      link.ifiIndex with
  | false => exact kept
  | true =>
      simp only [Bool.not_true, Bool.false_eq_true, if_false]
      refine together_bind_same fun mayName _ => ?_
      cases mayName with
      | false => exact kept
      | true =>
          simp only [Bool.not_true, Bool.false_eq_true, if_false]
          cases link.heldAlias with
          | none => exact .done (enroll_link_view tended link none)
          | some text =>
              refine together_bind_same fun mayAlias _ => ?_
              cases mayAlias with
              | false => exact kept
              | true => exact .done (enroll_link_view tended link _)

theorem new_link_matches (tended : Tended heap) (link : GetlinkRsp) :
    Together Matches (heapNewLink platform link heap)
      (gateNotify platform noObservers (.new link) heap.view) := by
  have gate : heap.view.gate = heap.world.gate := rfl
  unfold heapNewLink gateNotify
  rw [gate]
  split
  · simp only [storeOnEvent, bind_assoc]
    refine (on_new_iface_matches tended link).bind fun next world _ _ both => ?_
    refine .done ⟨rfl, ?_, both.2⟩
    rw [record_view, both.1]
    rfl
  · exact .done ⟨rfl, rfl, tended.owned⟩

theorem heap_step_matches (tended : Tended heap) (op : HeapOp) :
    Together Matches (heapStep platform op heap) (worldStep platform op heap.view) := by
  have owned := tended.owned
  cases op with
  | createByidx index =>
      have created := @create_byidx_matches _ _ _ _ platform tended index
      exact .done ⟨congrArg HeapRet.created created.1, created.2⟩
  | createByname answer =>
      have created := create_byname_matches tended answer
      exact .done ⟨congrArg HeapRet.created created.1, created.2⟩
  | createBylink link =>
      have created := create_answers owned tended.next_vacant link
      have same : HeapRet.created (.ok (heapCreateBylink link heap).1) =
          .created (.ok (ifaceCreateBylink link heap.view).1) := by
        rw [created.1]
      exact .done ⟨same, created.2.view, created.2.owned⟩
  | newLink link =>
      exact (new_link_matches tended link).map fun _ _ both =>
        ⟨congrArg HeapRet.code both.1, both.2⟩
  | destroy interface =>
      exact (destroy_sees owned interface).map fun _ _ sees => ⟨rfl, sees.view, sees.owned⟩
  | set setter interface => exact returning_matches (set_answers owned setter interface)
  | coherent interface => exact returning_matches (coherent_answers owned interface)
  | apply interface =>
      exact returning_matches (reading_answers owned fun _ _ done => apply_seen done)
  | reload interface => exact returning_matches (reload_answers owned interface)
  | enroll interface =>
      exact returning_matches (reading_answers owned fun _ _ done =>
        view_seen (enroll_objects done))
  | withdraw interface =>
      have withdrawn := @reading_answers _ _ _ heap _ owned
        (fun world => .ok (storeWithdraw platform interface world)) ?_
      · exact returning_matches withdrawn
      · intro ret next done
        cases done
        exact view_seen rfl
  | clear => exact (clear_answers owned).map fun _ _ sees => ⟨rfl, sees.view, sees.owned⟩
  | mayRegisterName name => exact asking_matches owned _ _
  | mayRegisterAlias ifalias => exact asking_matches owned _ _
  | findByalias ifalias => exact asking_matches owned _ _
  | findBystrid strid => exact asking_matches owned _ _

end Steps

end Nlif.StringView
