import Nlif.GateModel
import Nlif.StoreRehash

/-!
# What the calls that reach the kernel do

One inversion lemma for `nlif_iface_reload()`, one for `nlif_iface_apply()` and
one for the setters, under a subscribed store: a completed call is one of the
listed outcomes and every listed outcome is a completed call. Later proofs cite
these and do not unfold the calls again.
-/

namespace Nlif.GateSpec

open LinkModel IfaceModel StoreModel GateModel FaultWalk

set_option autoImplicit false

/-- Neither string was released already. -/
structure Held (interface : Iface) : Prop where
  ifalias : ∀ pointer, interface.ifalias = some pointer → pointer.live = true
  kind : ∀ pointer, interface.kind = some pointer → pointer.live = true

def dangling : Option HeapStr → Option HeapStr :=
  Option.map fun pointer => { pointer with live := false }

/-- The object `nlif_iface_fini()` leaves. -/
def released (interface : Iface) : Iface :=
  { interface with ifalias := dangling interface.ifalias, kind := dangling interface.kind }

theorem nlif_free_ok_iff (pointer after : Option HeapStr) :
    nlifFree pointer = .ok after ↔
      (∀ string, pointer = some string → string.live = true) ∧ after = dangling pointer := by
  cases pointer with
  | none => simp [nlifFree, dangling, eq_comm (a := after)]
  | some string =>
      rcases string with ⟨text, live⟩
      cases live <;> simp [nlifFree, dangling, eq_comm (a := after)]

theorem iface_fini_ok_iff (interface after : Iface) :
    ifaceFini interface = .ok after ↔ Held interface ∧ after = released interface := by
  unfold ifaceFini
  simp only [bind_ok_iff, nlif_free_ok_iff, Except.ok.injEq]
  constructor
  · rintro ⟨_, ⟨ifalias, rfl⟩, _, ⟨kind, rfl⟩, rfl⟩
    exact ⟨⟨ifalias, kind⟩, rfl⟩
  · rintro ⟨held, rfl⟩
    exact ⟨_, ⟨held.ifalias, rfl⟩, _, ⟨held.kind, rfl⟩, rfl⟩

theorem held_fill (link : GetlinkRsp) : Held (ifaceFill link) := by
  constructor
  · intro pointer present
    obtain ⟨text, _, rfl⟩ := Option.map_eq_some_iff.mp present
    rfl
  · intro pointer present
    obtain ⟨text, _, rfl⟩ := Option.map_eq_some_iff.mp present
    rfl

theorem held_of_stage {setter : Setter} {before after : Iface} {ret : Int}
    (held : Held before) (staged : stage setter before = .ok (ret, after)) : Held after := by
  have owned := stage_staged staged
  refine ⟨fun pointer present => ?_, fun pointer present => held.kind pointer ?_⟩
  · rcases owned.ifalias with kept | ⟨_, fresh⟩
    · exact held.ifalias pointer (kept ▸ present)
    · exact fresh pointer present
  · exact owned.kind ▸ present

theorem gate_getlink_error {answer : Except YnlError GetlinkRsp} {err : Int}
    (refused : gateGetlink answer = .error err) : err ≠ 0 := by
  unfold gateGetlink at refused
  rcases answer with error | link
  · have negative := ynl_err_negative error
    cases refused
    omega
  · simp only at refused
    split at refused <;> cases refused
    assumption

theorem gate_getlink_ok {answer : Except YnlError GetlinkRsp} {link : GetlinkRsp}
    (given : gateGetlink answer = .ok link) : answer = .ok link ∧ gateIslinkValid link = 0 := by
  unfold gateGetlink at given
  rcases answer with error | link
  · cases given
  · simp only at given
    split at given <;> cases given
    exact ⟨rfl, by assumption⟩

variable {NameBucket IndexBucket Kstate : Type}

section Reload

variable (platform : Platform NameBucket IndexBucket Kstate) (interface : Addr)
  (world : World NameBucket IndexBucket Kstate)

def answered (object : Iface) (kernel : Kstate) (ret : Int) :
    World NameBucket IndexBucket Kstate :=
  { world.setObject interface object with
    kernel, trace := .getlink (world.objects interface).idx ret :: world.trace }

def reloaded (link : GetlinkRsp) (kernel : Kstate) (ret : Int)
    (store : Store NameBucket IndexBucket) : World NameBucket IndexBucket Kstate :=
  { answered interface world (ifaceFill link) kernel 0 with
    store
    trace := .notified .reload link.ifiIndex ret ::
      .getlink (world.objects interface).idx 0 :: world.trace }

theorem iface_load_byidx_error {answer : Except YnlError GetlinkRsp} {kernel : Kstate} {err : Int}
    (asked : platform.kernel.getlink (world.objects interface).idx world.kernel = (answer, kernel))
    (refused : gateGetlink answer = .error err) (object : Iface)
    (same : object.idx = (world.objects interface).idx) :
    ifaceLoadByidx platform interface object.idx (world.setObject interface object) =
      (err, answered interface world object kernel err) := by
  simp only [ifaceLoadByidx, gateLoadLinkByidx, World.setObject, same, asked, refused,
    getlinkRet, World.record, answered]

theorem iface_load_byidx_link {answer : Except YnlError GetlinkRsp} {kernel : Kstate}
    {link : GetlinkRsp}
    (asked : platform.kernel.getlink (world.objects interface).idx world.kernel = (answer, kernel))
    (given : gateGetlink answer = .ok link) (object : Iface)
    (same : object.idx = (world.objects interface).idx) :
    ifaceLoadByidx platform interface object.idx (world.setObject interface object) =
      (0, answered interface world (ifaceFill link) kernel 0) := by
  simp only [ifaceLoadByidx, gateLoadLinkByidx, World.setObject, same, asked, given,
    getlinkRet, World.record, answered, Function.update_idem]

variable [DecidableEq NameBucket]

/-- The outcomes of `nlif_iface_reload()`. -/
inductive Reload : Int → World NameBucket IndexBucket Kstate → Prop
  | unanswered {answer : Except YnlError GetlinkRsp} {kernel : Kstate} {err : Int}
      (held : Held (world.objects interface))
      (asked : platform.kernel.getlink (world.objects interface).idx world.kernel =
        (answer, kernel))
      (refused : gateGetlink answer = .error err) :
      Reload err (answered interface world
        { released (world.objects interface) with state := .invalid } kernel err)
  | accepted {answer : Except YnlError GetlinkRsp} {kernel : Kstate} {link : GetlinkRsp}
      {store : Store NameBucket IndexBucket}
      (held : Held (world.objects interface))
      (asked : platform.kernel.getlink (world.objects interface).idx world.kernel =
        (answer, kernel))
      (given : gateGetlink answer = .ok link)
      (rehashed : storeOnIfaceReload platform.hash
        (Function.update world.objects interface (ifaceFill link)) interface world.store =
        .ok (0, store)) :
      Reload 0 (reloaded interface world link kernel 0 store)
  | clashed {answer : Except YnlError GetlinkRsp} {kernel : Kstate} {link : GetlinkRsp}
      {store : Store NameBucket IndexBucket} {ret : Int}
      (held : Held (world.objects interface))
      (asked : platform.kernel.getlink (world.objects interface).idx world.kernel =
        (answer, kernel))
      (given : gateGetlink answer = .ok link)
      (rehashed : storeOnIfaceReload platform.hash
        (Function.update world.objects interface (ifaceFill link)) interface world.store =
        .ok (ret, store))
      (failed : ret ≠ 0) :
      Reload ret ((reloaded interface world link kernel ret store).invalidate interface)

variable [DecidableEq IndexBucket]

theorem gate_notify_reload (link : GetlinkRsp) (kernel : Kstate)
    (subscribed : world.gate.notif = true) :
    gateNotify platform noObservers (.reload interface)
        (answered interface world (ifaceFill link) kernel 0) =
      (fun outcome => (outcome.1, reloaded interface world link kernel outcome.1 outcome.2)) <$>
        storeOnIfaceReload platform.hash
          (Function.update world.objects interface (ifaceFill link)) interface world.store := by
  simp only [gateNotify, answered, World.setObject, subscribed, if_true, storeOnEvent,
    EventData.event, EventData.index, reloaded]
  rcases storeOnIfaceReload platform.hash
    (Function.update world.objects interface (ifaceFill link)) interface world.store with
    fault | ⟨ret, store⟩
  · rfl
  · simp [World.record, ifaceFill]

theorem iface_reload_refused {answer : Except YnlError GetlinkRsp} {kernel : Kstate} {err : Int}
    (held : Held (world.objects interface))
    (asked : platform.kernel.getlink (world.objects interface).idx world.kernel = (answer, kernel))
    (refused : gateGetlink answer = .error err) :
    ifaceReload platform interface world = .ok (err, answered interface world
      { released (world.objects interface) with state := .invalid } kernel err) := by
  have finished := (iface_fini_ok_iff _ _).mpr ⟨held, rfl⟩
  have loaded := iface_load_byidx_error platform interface world asked refused
    (released (world.objects interface)) rfl
  have failed := gate_getlink_error refused
  simp only [ifaceReload, finished, ok_bind, loaded, ne_eq, failed, not_false_eq_true, if_true]
  simp [World.invalidate, World.setObject, answered]

theorem iface_reload_given (subscribed : world.gate.notif = true)
    {answer : Except YnlError GetlinkRsp} {kernel : Kstate} {link : GetlinkRsp}
    (held : Held (world.objects interface))
    (asked : platform.kernel.getlink (world.objects interface).idx world.kernel = (answer, kernel))
    (given : gateGetlink answer = .ok link) :
    ifaceReload platform interface world =
      (fun outcome =>
        if outcome.1 ≠ 0 then
          (outcome.1,
            (reloaded interface world link kernel outcome.1 outcome.2).invalidate interface)
        else (0, reloaded interface world link kernel outcome.1 outcome.2)) <$>
      storeOnIfaceReload platform.hash
        (Function.update world.objects interface (ifaceFill link)) interface world.store := by
  have finished := (iface_fini_ok_iff _ _).mpr ⟨held, rfl⟩
  have loaded := iface_load_byidx_link platform interface world asked given
    (released (world.objects interface)) rfl
  have notified := gate_notify_reload platform interface world link kernel subscribed
  simp only [ifaceReload, finished, ok_bind, loaded, ne_eq, not_true_eq_false, if_false, notified]
  cases storeOnIfaceReload platform.hash
      (Function.update world.objects interface (ifaceFill link)) interface world.store with
  | error fault => rfl
  | ok outcome =>
      simp only [map_ok, ok_bind]
      split <;> rfl

theorem iface_reload_ok_iff (subscribed : world.gate.notif = true) (ret : Int)
    (next : World NameBucket IndexBucket Kstate) :
    ifaceReload platform interface world = .ok (ret, next) ↔
      Reload platform interface world ret next := by
  constructor
  · intro done
    obtain ⟨_, finished, _⟩ := (bind_ok_iff ..).mp done
    have held := ((iface_fini_ok_iff ..).mp finished).1
    rcases asked : platform.kernel.getlink (world.objects interface).idx world.kernel with
      ⟨answer, kernel⟩
    cases outcome : gateGetlink answer with
    | error err =>
        rw [iface_reload_refused platform interface world held asked outcome] at done
        cases done
        exact .unanswered held asked outcome
    | ok link =>
        rw [iface_reload_given platform interface world subscribed held asked outcome] at done
        obtain ⟨⟨eventRet, store⟩, rehashed, done⟩ := (map_ok_iff ..).mp done
        by_cases failed : eventRet = 0
        · subst failed
          cases done
          exact .accepted held asked outcome rehashed
        · rw [if_pos failed] at done
          cases done
          exact .clashed held asked outcome rehashed failed
  · intro reload
    cases reload with
    | unanswered held asked refused =>
        exact iface_reload_refused platform interface world held asked refused
    | accepted held asked given rehashed =>
        rw [iface_reload_given platform interface world subscribed held asked given, rehashed]
        rfl
    | clashed held asked given rehashed failed =>
        rw [iface_reload_given platform interface world subscribed held asked given, rehashed,
          map_ok, if_pos failed]

end Reload

section Apply

variable (platform : Platform NameBucket IndexBucket Kstate) (interface : Addr)
  (world : World NameBucket IndexBucket Kstate)

def sent (request : SetlinkReq) (kernel : Kstate) (ret : Int) :
    World NameBucket IndexBucket Kstate :=
  { world with
    kernel
    trace := .setlink request ret ::
      .called .apply (world.objects interface).idx (world.objects interface).state ::
        world.trace }

variable [DecidableEq NameBucket] [DecidableEq IndexBucket]

/-- The outcomes of `nlif_iface_apply()`. -/
inductive Apply : Int → World NameBucket IndexBucket Kstate → Prop
  | idle (settledAlready : (world.objects interface).state ≠ .dirty) :
      Apply 0 (world.record
        (.called .apply (world.objects interface).idx (world.objects interface).state))
  | refused {request : SetlinkReq} {kernel : Kstate} {error : YnlError}
      (dirty : (world.objects interface).state = .dirty)
      (built : ifaceSetlinkReq (world.objects interface) = .ok request)
      (asked : platform.kernel.setlink request world.kernel = (some error, kernel)) :
      Apply (ynlErr error)
        ((sent interface world request kernel (ynlErr error)).invalidate interface)
  | applied {request : SetlinkReq} {kernel : Kstate}
      {next : World NameBucket IndexBucket Kstate}
      (dirty : (world.objects interface).state = .dirty)
      (built : ifaceSetlinkReq (world.objects interface) = .ok request)
      (asked : platform.kernel.setlink request world.kernel = (none, kernel))
      (notified : gateNotify platform noObservers (.modify interface)
        (sent interface world request kernel 0) = .ok (0, next)) :
      Apply 1 (next.setObject interface (settled (next.objects interface)))
  | clashed {request : SetlinkReq} {kernel : Kstate} {ret : Int}
      {next : World NameBucket IndexBucket Kstate}
      (dirty : (world.objects interface).state = .dirty)
      (built : ifaceSetlinkReq (world.objects interface) = .ok request)
      (asked : platform.kernel.setlink request world.kernel = (none, kernel))
      (notified : gateNotify platform noObservers (.modify interface)
        (sent interface world request kernel 0) = .ok (ret, next))
      (failed : ret ≠ 0) :
      Apply ret (next.invalidate interface)

theorem iface_apply_refused {request : SetlinkReq} {kernel : Kstate} {error : YnlError}
    (dirty : (world.objects interface).state = .dirty)
    (built : ifaceSetlinkReq (world.objects interface) = .ok request)
    (asked : platform.kernel.setlink request world.kernel = (some error, kernel)) :
    ifaceApply platform interface world = .ok (ynlErr error,
      (sent interface world request kernel (ynlErr error)).invalidate interface) := by
  have negative := ynl_err_negative error
  have failed : ynlErr error ≠ 0 := by omega
  simp [ifaceApply, dirty, built, gateSetlink, World.record, asked, setlinkRet, failed, sent]

theorem iface_apply_accepted {request : SetlinkReq} {kernel : Kstate}
    (dirty : (world.objects interface).state = .dirty)
    (built : ifaceSetlinkReq (world.objects interface) = .ok request)
    (asked : platform.kernel.setlink request world.kernel = (none, kernel)) :
    ifaceApply platform interface world =
      (fun done =>
        if done.1 ≠ 0 then (done.1, done.2.invalidate interface)
        else (1, done.2.setObject interface (settled (done.2.objects interface)))) <$>
      gateNotify platform noObservers (.modify interface)
        (sent interface world request kernel 0) := by
  have record : sent interface world request kernel 0 =
      ({ world.record (.called .apply (world.objects interface).idx .dirty) with
        kernel }.record (.setlink request 0)) := by
    rw [sent, dirty]
    rfl
  rw [record]
  simp only [ifaceApply, dirty, if_true, built, ok_bind, gateSetlink, World.record, asked,
    setlinkRet, ne_eq, not_true_eq_false, if_false]
  cases gateNotify platform noObservers (.modify interface) _ with
  | error fault => rfl
  | ok done =>
      simp only [map_ok, ok_bind]
      split <;> rfl

theorem iface_apply_ok_iff (ret : Int) (next : World NameBucket IndexBucket Kstate) :
    ifaceApply platform interface world = .ok (ret, next) ↔
      Apply platform interface world ret next := by
  have idle : (world.objects interface).state ≠ .dirty → ifaceApply platform interface world =
      .ok (0, world.record
        (.called .apply (world.objects interface).idx (world.objects interface).state)) := by
    intro settledAlready
    simp only [ifaceApply, settledAlready, if_false]
  constructor
  · intro done
    by_cases dirty : (world.objects interface).state = .dirty
    · have built : ∃ request, ifaceSetlinkReq (world.objects interface) = .ok request := by
        simp only [ifaceApply, dirty, if_true, bind_ok_iff] at done
        obtain ⟨request, built, _⟩ := done
        exact ⟨request, built⟩
      obtain ⟨request, built⟩ := built
      rcases asked : platform.kernel.setlink request world.kernel with ⟨answer, kernel⟩
      cases answer with
      | some error =>
          rw [iface_apply_refused platform interface world dirty built asked] at done
          cases done
          exact .refused dirty built asked
      | none =>
          rw [iface_apply_accepted platform interface world dirty built asked] at done
          obtain ⟨⟨eventRet, after⟩, notified, done⟩ := (map_ok_iff ..).mp done
          by_cases failed : eventRet = 0
          · subst failed
            cases done
            exact .applied dirty built asked notified
          · rw [if_pos failed] at done
            cases done
            exact .clashed dirty built asked notified failed
    · rw [idle dirty] at done
      cases done
      exact .idle dirty
  · intro apply
    cases apply with
    | idle settledAlready => exact idle settledAlready
    | refused dirty built asked =>
        exact iface_apply_refused platform interface world dirty built asked
    | applied dirty built asked notified =>
        rw [iface_apply_accepted platform interface world dirty built asked, notified]
        rfl
    | clashed dirty built asked notified failed =>
        rw [iface_apply_accepted platform interface world dirty built asked, notified, map_ok,
          if_pos failed]

theorem gate_notify_modify_ok_iff (ret : Int) (next : World NameBucket IndexBucket Kstate) :
    gateNotify platform noObservers (.modify interface) world = .ok (ret, next) ↔
      (world.gate.notif = true ∧ ∃ store,
        storeOnIfaceModify platform.hash world.objects interface world.store = .ok (ret, store) ∧
        next = { world with
          store
          trace := .notified .modify (world.objects interface).idx ret :: world.trace }) ∨
      (world.gate.notif = false ∧ ret = 0 ∧ next = world) := by
  unfold gateNotify
  rcases subscribed : world.gate.notif with _ | _
  · simp [eq_comm (a := ret), eq_comm (a := next)]
  · simp only [if_true, storeOnEvent, EventData.event, EventData.index, bind_ok_iff, true_and,
      Bool.true_eq_false, false_and, or_false]
    constructor
    · rintro ⟨_, ⟨⟨eventRet, store⟩, rehashed, same⟩, done⟩
      cases same
      cases done
      exact ⟨store, rehashed, rfl⟩
    · rintro ⟨store, rehashed, rfl⟩
      exact ⟨_, ⟨_, rehashed, rfl⟩, rfl⟩

theorem gate_notify_modify_heard {ret : Int} {next : World NameBucket IndexBucket Kstate}
    (notified : gateNotify platform noObservers (.modify interface) world = .ok (ret, next))
    (subscribed : world.gate.notif = true) :
    ∃ store,
      storeOnIfaceModify platform.hash world.objects interface world.store = .ok (ret, store) ∧
      next = { world with
        store
        trace := .notified .modify (world.objects interface).idx ret :: world.trace } := by
  cases (gate_notify_modify_ok_iff platform interface world ret next).mp notified with
  | inl heard => exact heard.2
  | inr silent => cases subscribed.symm.trans silent.1

theorem gate_notify_modify_ret {ret : Int} {next : World NameBucket IndexBucket Kstate}
    (notified : gateNotify platform noObservers (.modify interface) world = .ok (ret, next))
    (failed : ret ≠ 0) : ret < 0 := by
  cases (gate_notify_modify_ok_iff platform interface world ret next).mp notified with
  | inl heard =>
      obtain ⟨_, store, rehashed, _⟩ := heard
      rw [(StoreRehash.store_rehash_ret _ _ rehashed).resolve_left failed]
      decide
  | inr silent => exact absurd silent.2.1 failed

theorem gate_notify_modify_frame {ret : Int} {next : World NameBucket IndexBucket Kstate}
    (notified : gateNotify platform noObservers (.modify interface) world = .ok (ret, next)) :
    next.objects = world.objects ∧ next.kernel = world.kernel ∧ next.gate = world.gate := by
  rcases (gate_notify_modify_ok_iff ..).mp notified with ⟨_, store, _, rfl⟩ | ⟨_, _, rfl⟩
  · exact ⟨rfl, rfl, rfl⟩
  · exact ⟨rfl, rfl, rfl⟩

theorem replaced_field {Value : Type} {field : Iface → Value} {objects : Objects} {object : Iface}
    {changed : Addr} (same : field object = field (objects changed)) (address : Addr) :
    field (Function.update objects changed object address) = field (objects address) := by
  by_cases self : address = changed
  · rw [self, Function.update_self, same]
  · rw [Function.update_of_ne self]

theorem apply_field {Value : Type} {field : Iface → Value} {ret : Int}
    {next : World NameBucket IndexBucket Kstate}
    (settles : ∀ object, field (settled object) = field object)
    (invalidates : ∀ object : Iface, field { object with state := .invalid } = field object)
    (done : ifaceApply platform interface world = .ok (ret, next)) (address : Addr) :
    field (next.objects address) = field (world.objects address) := by
  cases (iface_apply_ok_iff ..).mp done with
  | idle => rfl
  | refused => exact replaced_field (invalidates _) address
  | applied _ _ _ notified =>
      have kept := (gate_notify_modify_frame _ _ _ notified).1
      simp only [World.setObject, kept]
      exact replaced_field (settles _) address
  | clashed _ _ _ notified =>
      have kept := (gate_notify_modify_frame _ _ _ notified).1
      simp only [World.setObject, World.invalidate, kept]
      exact replaced_field (invalidates _) address

theorem iface_apply_kernel {ret : Int} {next : World NameBucket IndexBucket Kstate}
    (done : ifaceApply platform interface world = .ok (ret, next))
    (dirty : (world.objects interface).state = .dirty) :
    ∃ request, ifaceSetlinkReq (world.objects interface) = .ok request ∧
      next.kernel = (platform.kernel.setlink request world.kernel).2 := by
  cases (iface_apply_ok_iff ..).mp done with
  | idle settledAlready => exact absurd dirty settledAlready
  | refused _ built asked => exact ⟨_, built, by rw [asked]; rfl⟩
  | applied _ built asked notified | clashed _ built asked notified =>
      refine ⟨_, built, ?_⟩
      rw [asked]
      exact (gate_notify_modify_frame _ _ _ notified).2.1

end Apply

section Synchronised

variable [DecidableEq NameBucket] [DecidableEq IndexBucket]
  (platform : Platform NameBucket IndexBucket Kstate) (interface : Addr)
  (world : World NameBucket IndexBucket Kstate)

theorem iface_sync_ok_iff (subscribed : world.gate.notif = true) (ret : Int)
    (next : World NameBucket IndexBucket Kstate) :
    ifaceSync platform interface world = .ok (ret, next) ↔
      ((world.objects interface).state ≠ .invalid ∧ ret = 0 ∧ next = world) ∨
      ((world.objects interface).state = .invalid ∧
        Reload platform interface world ret next) := by
  unfold ifaceSync
  rcases (world.objects interface).state with _ | _ | _
  · simpa using iface_reload_ok_iff platform interface world subscribed ret next
  · simp [eq_comm (a := ret), eq_comm (a := next)]
  · simp [eq_comm (a := ret), eq_comm (a := next)]

theorem iface_set_ok {setter : Setter} {ret : Int} {next : World NameBucket IndexBucket Kstate}
    (done : ifaceSet platform setter interface world = .ok (ret, next)) :
    ∃ synced middle, ifaceSync platform interface world = .ok (synced, middle) ∧
      ((synced ≠ 0 ∧ ret = synced ∧ next = middle) ∨
        (synced = 0 ∧ ∃ object, stage setter (middle.objects interface) = .ok (ret, object) ∧
          next = middle.setObject interface object)) := by
  unfold ifaceSet at done
  obtain ⟨⟨synced, middle⟩, sync, done⟩ := (bind_ok_iff ..).mp done
  refine ⟨synced, middle, sync, ?_⟩
  by_cases failed : synced = 0
  · simp only [failed, ne_eq, not_true_eq_false, if_false] at done
    obtain ⟨⟨_, object⟩, staged, done⟩ := (bind_ok_iff ..).mp done
    cases done
    exact .inr ⟨failed, object, staged, rfl⟩
  · simp only [ne_eq, failed, not_false_eq_true, if_true] at done
    cases done
    exact .inl ⟨failed, rfl, rfl⟩

theorem sync_passes (valid : (world.objects interface).state ≠ .invalid) :
    ifaceSync platform interface world = .ok (0, world) := by
  unfold ifaceSync
  rcases held : (world.objects interface).state with _ | _ | _
  · exact absurd held valid
  · rfl
  · rfl

theorem iface_set_valid_eq (setter : Setter) (valid : (world.objects interface).state ≠ .invalid) :
    ifaceSet platform setter interface world =
      (fun done => (done.1, world.setObject interface done.2)) <$>
        stage setter (world.objects interface) := by
  unfold ifaceSet
  rw [sync_passes platform interface world valid]
  simp only [ok_bind, ne_eq, not_true_eq_false, if_false]
  cases stage setter (world.objects interface) with
  | error fault => rfl
  | ok done => rfl

theorem iface_set_valid_ok {setter : Setter} {ret : Int}
    {next : World NameBucket IndexBucket Kstate}
    (valid : (world.objects interface).state ≠ .invalid)
    (done : ifaceSet platform setter interface world = .ok (ret, next)) :
    ∃ object, stage setter (world.objects interface) = .ok (ret, object) ∧
      next = world.setObject interface object := by
  rw [iface_set_valid_eq platform interface world setter valid] at done
  obtain ⟨⟨_, object⟩, staged, same⟩ := (map_ok_iff ..).mp done
  cases same
  exact ⟨object, staged, rfl⟩

theorem iface_coherent_ok {Value : Type} {read : Iface → Value} {value : Except Int Value}
    {next : World NameBucket IndexBucket Kstate}
    (done : ifaceCoherent platform read interface world = .ok (value, next)) :
    ∃ synced, ifaceSync platform interface world = .ok (synced, next) ∧
      ((synced ≠ 0 ∧ value = .error synced) ∨
        (synced = 0 ∧ value = .ok (read (next.objects interface)))) := by
  unfold ifaceCoherent at done
  obtain ⟨⟨synced, middle⟩, sync, done⟩ := (bind_ok_iff ..).mp done
  by_cases failed : synced = 0
  · simp only [failed, ne_eq, not_true_eq_false, if_false] at done
    cases done
    exact ⟨synced, sync, .inr ⟨failed, rfl⟩⟩
  · simp only [ne_eq, failed, not_false_eq_true, if_true] at done
    cases done
    exact ⟨synced, sync, .inl ⟨failed, rfl⟩⟩

end Synchronised

section Enrolment

variable [DecidableEq NameBucket] [DecidableEq IndexBucket]

/-- No chain the registration walks holds a conflict with these strings and index. -/
structure MayEnroll (hash : Hashing NameBucket IndexBucket) (objects : Objects)
    (store : Store NameBucket IndexBucket) (index : UInt32) (name : CString)
    (ifalias : Option CString) : Prop where
  name : answersIn objects name (store.nameh (hash.str name)) = .ok false
  index : storeSearchIfaceHndlByindex hash objects store index = none
  ifalias : ∀ text, ifalias = some text →
    answersIn objects text (store.aliash (hash.str text)) = .ok false

theorem not_ok_iff (walk : Except Fault Bool) (answer : Bool) :
    not <$> walk = .ok answer ↔ walk = .ok (!answer) := by
  rcases walk with fault | _ | _ <;> cases answer <;> simp

/-- `nlif_store_enroll_iface()` links the handle or leaves the store alone. -/
theorem store_enroll_iface_ok {hash : Hashing NameBucket IndexBucket} {objects : Objects}
    {hndl : Hndl} {store after : Store NameBucket IndexBucket} {ret : Int}
    (done : storeEnrollIface hash objects hndl store = .ok (ret, after)) :
    (ret = -EEXIST ∧ after = store) ∨
    (ret = 0 ∧ (∀ pointer, (objects hndl.iface).ifalias = some pointer → pointer.live = true) ∧
      MayEnroll hash objects store (objects hndl.iface).idx (objects hndl.iface).name
        ((objects hndl.iface).ifalias.map HeapStr.text) ∧
      after = storeCreatenEnrollIfaceHndl store hndl (hash.index (objects hndl.iface).idx)
        (hash.str (objects hndl.iface).name)
        ((objects hndl.iface).ifalias.map fun pointer => hash.str pointer.text)) := by
  unfold storeEnrollIface at done
  obtain ⟨mayName, nameWalk, done⟩ := (bind_ok_iff ..).mp done
  cases mayName with
  | false =>
      cases done
      exact .inl ⟨rfl, rfl⟩
  | true =>
      simp only [Bool.not_true, Bool.false_eq_true, if_false] at done
      split at done
      · cases done
        exact .inl ⟨rfl, rfl⟩
      · rename_i mayIndex
        have nameFree := (not_ok_iff _ true).mp nameWalk
        have indexFree : storeSearchIfaceHndlByindex hash objects store
            (objects hndl.iface).idx = none := by
          simpa [storeMayRegisterIfaceIndex] using mayIndex
        rcases held : (objects hndl.iface).ifalias with _ | pointer
        · simp only [held] at done
          cases done
          exact .inr ⟨rfl, by simp, ⟨nameFree, indexFree, by simp⟩, rfl⟩
        · simp only [held] at done
          obtain ⟨text, read, done⟩ := (bind_ok_iff ..).mp done
          obtain ⟨mayAlias, aliasWalk, done⟩ := (bind_ok_iff ..).mp done
          obtain ⟨live, rfl⟩ := (HeapStr.read_ok_iff ..).mp read
          cases mayAlias with
          | false =>
              cases done
              exact .inl ⟨rfl, rfl⟩
          | true =>
              cases done
              exact .inr ⟨rfl, by rintro other ⟨⟩; exact live, ⟨nameFree, indexFree, by
                rintro text ⟨⟩
                exact (not_ok_iff _ true).mp aliasWalk⟩, rfl⟩

/-- `nlif_store_on_new_iface()` enrolls the link or leaves the world alone. -/
theorem store_on_new_iface_ok {platform : Platform NameBucket IndexBucket Kstate}
    {link : GetlinkRsp} {world next : World NameBucket IndexBucket Kstate}
    (done : storeOnNewIface platform link world = .ok next) :
    next = world ∨
    (MayEnroll platform.hash world.objects world.store link.ifiIndex link.ifname
        link.heldAlias ∧
      next = storeEnrollLink platform link (link.heldAlias.map platform.hash.str) world) := by
  unfold storeOnNewIface at done
  split at done
  · cases done
    exact .inl rfl
  · rename_i mayIndex
    have indexFree : storeSearchIfaceHndlByindex platform.hash world.objects world.store
        link.ifiIndex = none := by
      simpa [storeMayRegisterIfaceIndex] using mayIndex
    obtain ⟨mayName, nameWalk, done⟩ := (bind_ok_iff ..).mp done
    cases mayName with
    | false =>
        cases done
        exact .inl rfl
    | true =>
        have nameFree := (not_ok_iff _ true).mp nameWalk
        simp only [Bool.not_true, Bool.false_eq_true, if_false] at done
        rcases held : link.heldAlias with _ | text
        · simp only [held] at done
          cases done
          exact .inr ⟨⟨nameFree, indexFree, by simp⟩, rfl⟩
        · simp only [held] at done
          obtain ⟨mayAlias, aliasWalk, done⟩ := (bind_ok_iff ..).mp done
          cases mayAlias with
          | false =>
              cases done
              exact .inl rfl
          | true =>
              cases done
              exact .inr ⟨⟨nameFree, indexFree, by
                rintro other ⟨⟩
                exact (not_ok_iff _ true).mp aliasWalk⟩, rfl⟩

end Enrolment

end Nlif.GateSpec
