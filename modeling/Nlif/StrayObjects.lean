import Nlif.ChangeNotif
import Nlif.StoreWithdraw

/-!
# Objects the store does not hold

Calls on interfaces that are bound to the gate but not enrolled: created and not enrolled
yet, withdrawn, or a second object of an enrolled index. The gate forwards their events to
the store, whose handlers take the handle of the index for theirs. As long as no event asks
for a re-hash, these calls leave the store alone.
-/

namespace Nlif.StrayObjects

open LinkModel IfaceModel FaultWalk StoreModel StoreRehash GateModel GateSpec StoreInvariant
  LabelledRun LibraryRun ChangeNotif StoreWithdraw

set_option autoImplicit false

def OnObject (interface : Addr) : Op → Prop
  | .set _ other | .coherent other | .apply other | .ifaceReload other => other = interface
  | _ => False

section Calls

variable {NameBucket IndexBucket Kstate : Type}

/-- The kernel does not give a valid link for the index of the object. -/
def Unanswered (platform : Platform NameBucket IndexBucket Kstate) (interface : Addr)
    (world : World NameBucket IndexBucket Kstate) : Prop :=
  ∀ link, gateGetlink (platform.kernel.getlink (world.objects interface).idx world.kernel).1 ≠
    .ok link

/-- The call raises no event that re-hashes: it does not reload the object from a link, nor
apply a staged name or alias the kernel takes. -/
def Unheard (platform : Platform NameBucket IndexBucket Kstate)
    (world : World NameBucket IndexBucket Kstate) : Op → Prop
  | .set _ interface | .coherent interface =>
      (world.objects interface).state = .invalid → Unanswered platform interface world
  | .apply interface =>
      (world.objects interface).state = .dirty →
      (.name ∈ (world.objects interface).dirtyFields ∨
        .ifalias ∈ (world.objects interface).dirtyFields) →
      ∀ request, ifaceSetlinkReq (world.objects interface) = .ok request →
        (platform.kernel.setlink request world.kernel).1 ≠ none
  | .ifaceReload interface => Unanswered platform interface world
  | _ => True

/-- Calls on enrolled interfaces as before, and those on other objects that raise no event
that re-hashes. -/
def strayAdmits (platform : Platform NameBucket IndexBucket Kstate)
    (world : World NameBucket IndexBucket Kstate) (op : Op) : Prop :=
  LibraryRun.admits world op ∨
    ∃ interface < world.next, OnObject interface op ∧ ¬ Enrolled interface world ∧
      Unheard platform world op

def deaf (world : World NameBucket IndexBucket Kstate) : World NameBucket IndexBucket Kstate :=
  { world with gate := gateUnsubscribe world.gate }

variable [DecidableEq NameBucket] [DecidableEq IndexBucket]

def strayMachine (platform : Platform NameBucket IndexBucket Kstate) :
    Machine (World NameBucket IndexBucket Kstate) Op Ret Fault where
  admits := strayAdmits platform
  step := LibraryRun.step platform

structure Alone (interface : Addr) (world next : World NameBucket IndexBucket Kstate) : Prop where
  store : next.store = world.store
  gate : next.gate = world.gate
  reach : next.next = world.next
  objects : ∀ other, other ≠ interface → next.objects other = world.objects other
  quiet : Quiet next.trace → Quiet world.trace

variable {platform : Platform NameBucket IndexBucket Kstate} {interface : Addr} {ret : Int}
  {world middle next : World NameBucket IndexBucket Kstate}

omit [DecidableEq NameBucket] [DecidableEq IndexBucket] in
theorem alone_refl (interface : Addr) (world : World NameBucket IndexBucket Kstate) :
    Alone interface world world :=
  ⟨rfl, rfl, rfl, fun _ _ => rfl, id⟩

omit [DecidableEq NameBucket] [DecidableEq IndexBucket] in
theorem Alone.set_object (alone : Alone interface world next) (object : Iface) :
    Alone interface world (next.setObject interface object) where
  store := alone.store
  gate := alone.gate
  reach := alone.reach
  objects other different :=
    (Function.update_of_ne different ..).trans (alone.objects other different)
  quiet := alone.quiet

theorem reload_alone (subscribed : world.gate.notif = true)
    (unanswered : Unanswered platform interface world)
    (done : ifaceReload platform interface world = .ok (ret, next)) :
    ret ≠ 0 ∧ Alone interface world next := by
  cases (iface_reload_ok_iff _ _ _ subscribed _ _).mp done with
  | unanswered held asked refused =>
      exact ⟨gate_getlink_error refused, rfl, rfl, rfl,
        fun _ different => Function.update_of_ne different .., fun still =>
          ((quiet_cons ..).mp still).2⟩
  | accepted held asked given | clashed held asked given =>
      rw [Unanswered, asked] at unanswered
      exact absurd given (unanswered _)

theorem sync_alone (subscribed : world.gate.notif = true)
    (unheard : (world.objects interface).state = .invalid → Unanswered platform interface world)
    (done : ifaceSync platform interface world = .ok (ret, next)) :
    Alone interface world next := by
  unfold ifaceSync at done
  cases state : (world.objects interface).state with
  | clean | dirty =>
      rw [state] at done
      cases done
      exact alone_refl interface world
  | invalid =>
      rw [state] at done
      exact (reload_alone subscribed (unheard state) done).2

variable (platform world) in
omit [DecidableEq IndexBucket] in
theorem modify_unheard (name : .name ∉ (world.objects interface).dirtyFields)
    (ifalias : .ifalias ∉ (world.objects interface).dirtyFields) :
    storeOnIfaceModify platform.hash world.objects interface world.store =
      .ok (0, world.store) := by
  unfold storeOnIfaceModify storeRehash
  simp only [name, ifalias, decide_false, rehashWhen]
  rfl

omit [DecidableEq NameBucket] [DecidableEq IndexBucket] in
theorem apply_unheard (unheard : Unheard platform world (.apply interface))
    (dirty : (world.objects interface).state = .dirty) {request : SetlinkReq} {kernel : Kstate}
    (built : ifaceSetlinkReq (world.objects interface) = .ok request)
    (asked : platform.kernel.setlink request world.kernel = (none, kernel)) :
    .name ∉ (world.objects interface).dirtyFields ∧
      .ifalias ∉ (world.objects interface).dirtyFields := by
  apply not_or.mp
  intro staged
  have refused := unheard dirty staged request built
  rw [asked] at refused
  exact refused rfl

theorem apply_alone (unheard : Unheard platform world (.apply interface))
    (done : ifaceApply platform interface world = .ok (ret, next)) :
    Alone interface world next := by
  have handled : ∀ {request : SetlinkReq} {kernel : Kstate} {code : Int}
      {after : World NameBucket IndexBucket Kstate},
      (world.objects interface).state = .dirty →
      ifaceSetlinkReq (world.objects interface) = .ok request →
      platform.kernel.setlink request world.kernel = (none, kernel) →
      gateNotify platform noObservers (.modify interface)
        (sent interface world request kernel 0) = .ok (code, after) →
      Alone interface world after := by
    intro request kernel code after dirty built asked notified
    obtain ⟨name, ifalias⟩ := apply_unheard unheard dirty built asked
    cases (gate_notify_modify_ok_iff ..).mp notified with
    | inl heard =>
        obtain ⟨_, store, rehashed, rfl⟩ := heard
        have nothing := modify_unheard platform (sent interface world request kernel 0)
          name ifalias
        rw [nothing] at rehashed
        cases rehashed
        refine ⟨rfl, rfl, rfl, fun _ _ => rfl, fun still => ?_⟩
        exact ((quiet_cons ..).mp ((quiet_cons ..).mp ((quiet_cons ..).mp still).2).2).2
    | inr silent =>
        obtain ⟨_, _, rfl⟩ := silent
        refine ⟨rfl, rfl, rfl, fun _ _ => rfl, fun still => ?_⟩
        exact ((quiet_cons ..).mp ((quiet_cons ..).mp still).2).2
  cases (iface_apply_ok_iff ..).mp done with
  | idle => exact ⟨rfl, rfl, rfl, fun _ _ => rfl, fun still => ((quiet_cons ..).mp still).2⟩
  | refused =>
      refine ⟨rfl, rfl, rfl, fun _ different => Function.update_of_ne different .., fun still => ?_⟩
      exact ((quiet_cons ..).mp ((quiet_cons ..).mp still).2).2
  | applied dirty built asked notified =>
      exact (handled dirty built asked notified).set_object _
  | clashed dirty built asked notified =>
      exact (handled dirty built asked notified).set_object _

theorem set_alone (subscribed : world.gate.notif = true) {setter : Setter}
    (unheard : Unheard platform world (.set setter interface))
    (done : ifaceSet platform setter interface world = .ok (ret, next)) :
    Alone interface world next := by
  obtain ⟨_, middle, sync, outcome⟩ := iface_set_ok platform interface world done
  have synced := sync_alone subscribed unheard sync
  cases outcome with
  | inl failed =>
      obtain ⟨_, _, rfl⟩ := failed
      exact synced
  | inr staged =>
      obtain ⟨_, object, _, rfl⟩ := staged
      exact synced.set_object object

/-- A call on a stray object that raises no re-hash touches this object alone. -/
theorem stray_step_alone (subscribed : world.gate.notif = true) {op : Op} {answer : Ret}
    (on : OnObject interface op) (unheard : Unheard platform world op)
    (stepped : LibraryRun.step platform op world = .ok (answer, next)) :
    Alone interface world next := by
  cases op with
  | set setter other =>
      obtain rfl : other = interface := on
      obtain ⟨_, done⟩ := code_ok stepped
      exact set_alone subscribed unheard done
  | coherent other =>
      obtain rfl : other = interface := on
      obtain ⟨⟨value, after⟩, done, same⟩ := (map_ok_iff ..).mp stepped
      cases same
      obtain ⟨_, sync, _⟩ := iface_coherent_ok platform other world done
      exact sync_alone subscribed unheard sync
  | apply other =>
      obtain rfl : other = interface := on
      obtain ⟨_, done⟩ := code_ok stepped
      exact apply_alone unheard done
  | ifaceReload other =>
      obtain rfl : other = interface := on
      obtain ⟨_, done⟩ := code_ok stepped
      exact (reload_alone subscribed unheard done).2
  | create _ | enroll _ | withdraw _ | clear | load | reload | newLink _ | notify _
  | findByname _ | findByalias _ | findBystrid _ | findByindex _ => cases on

section Faults

variable {fault : Fault}

omit [DecidableEq NameBucket] [DecidableEq IndexBucket] in
theorem unanswered_error (unanswered : Unanswered platform interface world) :
    ∃ answer kernel err, platform.kernel.getlink (world.objects interface).idx world.kernel =
      (answer, kernel) ∧ gateGetlink answer = .error err := by
  rcases asked : platform.kernel.getlink (world.objects interface).idx world.kernel with
    ⟨answer, kernel⟩
  cases outcome : gateGetlink answer with
  | error err => exact ⟨answer, kernel, err, rfl, outcome⟩
  | ok link =>
      rw [Unanswered, asked] at unanswered
      exact absurd outcome (unanswered link)

theorem reload_faults_deaf (unanswered : Unanswered platform interface world)
    (failed : ifaceReload platform interface world = .error fault) :
    ifaceReload platform interface (deaf world) = .error fault := by
  cases finished : ifaceFini (world.objects interface) with
  | error other =>
      have object : (deaf world).objects interface = world.objects interface := rfl
      rw [ifaceReload, finished, error_bind] at failed
      rw [ifaceReload, object, finished, error_bind]
      exact failed
  | ok object =>
      have held := ((iface_fini_ok_iff ..).mp finished).1
      obtain ⟨_, _, _, asked, refused⟩ := unanswered_error unanswered
      rw [iface_reload_refused platform interface world held asked refused] at failed
      cases failed

theorem sync_faults_deaf
    (unheard : (world.objects interface).state = .invalid → Unanswered platform interface world)
    (failed : ifaceSync platform interface world = .error fault) :
    ifaceSync platform interface (deaf world) = .error fault := by
  have object : (deaf world).objects interface = world.objects interface := rfl
  unfold ifaceSync at failed ⊢
  rw [object]
  cases state : (world.objects interface).state with
  | clean | dirty =>
      rw [state] at failed
      cases failed
  | invalid =>
      rw [state] at failed
      exact reload_faults_deaf (unheard state) failed

theorem apply_faults_deaf (unheard : Unheard platform world (.apply interface))
    (failed : ifaceApply platform interface world = .error fault) :
    ifaceApply platform interface (deaf world) = .error fault := by
  by_cases dirty : (world.objects interface).state = .dirty
  · have object : (deaf world).objects interface = world.objects interface := rfl
    cases built : ifaceSetlinkReq (world.objects interface) with
    | error other =>
        simp only [ifaceApply, dirty, if_true, built, error_bind] at failed
        simp only [ifaceApply, object, dirty, if_true, built, error_bind]
        exact failed
    | ok request =>
        rcases asked : platform.kernel.setlink request world.kernel with ⟨answer, kernel⟩
        cases answer with
        | some error =>
            rw [iface_apply_refused platform interface world dirty built asked] at failed
            cases failed
        | none =>
            -- the handler of the event has nothing to re-hash, so it cannot fault
            obtain ⟨name, ifalias⟩ := apply_unheard unheard dirty built asked
            have nothing := modify_unheard platform
              (sent interface world request kernel 0) name ifalias
            rw [iface_apply_accepted platform interface world dirty built asked] at failed
            unfold gateNotify at failed
            split at failed
            · simp only [storeOnEvent, nothing, ok_bind, map_ok] at failed
              cases failed
            · cases failed
  · simp only [ifaceApply, dirty, if_false] at failed
    cases failed

theorem set_faults_deaf {setter : Setter} (subscribed : world.gate.notif = true)
    (unheard : Unheard platform world (.set setter interface))
    (failed : ifaceSet platform setter interface world = .error fault) :
    ifaceSet platform setter interface (deaf world) = .error fault := by
  cases synced : ifaceSync platform interface world with
  | error other =>
      have alike := sync_faults_deaf unheard synced
      rw [ifaceSet, synced, error_bind] at failed
      rw [ifaceSet, alike, error_bind]
      exact failed
  | ok outcome =>
      obtain ⟨ret, middle⟩ := outcome
      by_cases invalid : (world.objects interface).state = .invalid
      · -- the reload was refused, and the setter stops there
        unfold ifaceSync at synced
        rw [invalid] at synced
        have refused := (reload_alone subscribed (unheard invalid) synced).1
        simp only [ifaceSet, ifaceSync, invalid, synced, ok_bind, ne_eq, refused,
          not_false_eq_true, if_true] at failed
        cases failed
      · rw [iface_set_valid_eq platform interface world setter invalid] at failed
        rw [iface_set_valid_eq platform interface (deaf world) setter invalid]
        change _ <$> stage setter (world.objects interface) = _
        cases staged : stage setter (world.objects interface) with
        | error other =>
            rw [staged] at failed
            cases failed
            rfl
        | ok done =>
            rw [staged] at failed
            cases failed

theorem coherent_faults_deaf
    (unheard : (world.objects interface).state = .invalid → Unanswered platform interface world)
    (failed : ifaceCoherent platform id interface world = .error fault) :
    ifaceCoherent platform id interface (deaf world) = .error fault := by
  cases synced : ifaceSync platform interface world with
  | error cause =>
      rw [ifaceCoherent, synced] at failed
      rw [ifaceCoherent, sync_faults_deaf unheard synced]
      exact failed
  | ok outcome =>
      -- once the object is synchronised, the getter completes
      rw [ifaceCoherent, synced, ok_bind] at failed
      by_cases refused : outcome.1 ≠ 0
      · cases (if_pos refused).symm.trans failed
      · cases (if_neg refused).symm.trans failed

theorem stray_step_faults (subscribed : world.gate.notif = true) {op : Op}
    (on : OnObject interface op) (unheard : Unheard platform world op)
    (failed : LibraryRun.step platform op world = .error fault) :
    LibraryRun.step platform op (deaf world) = .error fault := by
  have coded : ∀ {result other : Except Fault (Int × World NameBucket IndexBucket Kstate)},
      (result = .error fault → other = .error fault) →
      code result = .error fault → code other = .error fault := by
    intro result other alike broken
    cases result with
    | error cause =>
        cases broken
        rw [alike rfl]
        rfl
    | ok done => cases broken
  cases op with
  | set setter other =>
      obtain rfl : other = interface := on
      exact coded (set_faults_deaf subscribed unheard) failed
  | coherent other =>
      obtain rfl : other = interface := on
      change _ <$> ifaceCoherent platform id other world = _ at failed
      change _ <$> ifaceCoherent platform id other (deaf world) = _
      cases read : ifaceCoherent platform id other world with
      | error cause =>
          rw [read] at failed
          cases failed
          rw [coherent_faults_deaf unheard read]
          rfl
      | ok done =>
          rw [read] at failed
          cases failed
  | apply other =>
      obtain rfl : other = interface := on
      exact coded (apply_faults_deaf unheard) failed
  | ifaceReload other =>
      obtain rfl : other = interface := on
      exact coded (reload_faults_deaf unheard) failed
  | create _ | enroll _ | withdraw _ | clear | load | reload | newLink _ | notify _
  | findByname _ | findByalias _ | findBystrid _ | findByindex _ => cases on

end Faults

section Runs

omit [DecidableEq NameBucket] [DecidableEq IndexBucket] in
theorem Alone.agree (alone : Alone interface world next)
    (stray : ¬ Enrolled interface world) :
    ∀ hndl ∈ world.store.ifaces, next.objects hndl.iface = world.objects hndl.iface := by
  intro hndl member
  apply alone.objects
  intro same
  exact stray ⟨hndl, member, same⟩

omit [DecidableEq NameBucket] [DecidableEq IndexBucket] in
theorem alone_kept (kept : Kept platform world) (alone : Alone interface world next)
    (stray : ¬ Enrolled interface world) : Kept platform next := by
  have agree := alone.agree stray
  refine ⟨?_, alone.gate ▸ kept.subscribed, fun still => ?_⟩
  · rw [alone.store, alone.reach]
    apply kept.linked.touch
    intro hndl member
    rw [agree hndl member]
    exact ⟨rfl, kept.linked.sound hndl member⟩
  · rw [alone.store]
    exact (kept.indexed (alone.quiet still)).congr agree

theorem stray_run_kept (reports : KernelReports platform.kernel) {start : World NameBucket
    IndexBucket Kstate} (initial : Kept platform start) {log : List (Op × Ret)}
    (run : Run (strayMachine platform) start log world) : Kept platform world := by
  apply run_invariant (Kept platform) initial _ run
  intro state op answer later kept admitted stepped
  cases admitted with
  | inl known => exact step_kept reports kept known stepped
  | inr strayed =>
      obtain ⟨_, _, on, stray, unheard⟩ := strayed
      exact alone_kept kept (stray_step_alone kept.subscribed on unheard stepped) stray

def SameStore (platform : Platform NameBucket IndexBucket Kstate)
    (world later : World NameBucket IndexBucket Kstate) : Prop :=
  later.store = world.store ∧ ∀ lookup,
    answer platform.hash later.objects later.store lookup =
      answer platform.hash world.objects world.store lookup

omit [DecidableEq NameBucket] [DecidableEq IndexBucket] in
theorem stray_admitted {op : Op} (stray : ¬ Enrolled interface world)
    (on : OnObject interface op) (admitted : strayAdmits platform world op) :
    Unheard platform world op := by
  cases admitted with
  | inl known =>
      cases op with
      | set setter other =>
          obtain rfl : other = interface := on
          exact absurd known.2 stray
      | coherent other | apply other | ifaceReload other =>
          obtain rfl : other = interface := on
          exact absurd known stray
      | create _ | enroll _ | withdraw _ | clear | load | reload | newLink _ | notify _
      | findByname _ | findByalias _ | findBystrid _ | findByindex _ => cases on
  | inr strayed =>
      obtain ⟨_, _, _, _, unheard⟩ := strayed
      exact unheard

omit [DecidableEq NameBucket] [DecidableEq IndexBucket] in
theorem Alone.same_store (kept : Kept platform world) (alone : Alone interface world next)
    (stray : ¬ Enrolled interface world) : SameStore platform world next := by
  refine ⟨alone.store, fun lookup => ?_⟩
  rw [alone.store]
  exact answer_congr kept.linked (alone.agree stray) lookup

theorem stray_sequence (kept : Kept platform world)
    (stray : ¬ Enrolled interface world) {calls : List (Op × Ret)}
    (sequence : Run (strayMachine platform) world calls next)
    (on : ∀ call ∈ calls, OnObject interface call.1) :
    Kept platform next ∧ SameStore platform world next := by
  apply run_invariant_of_returns (fun op _ => OnObject interface op)
    (fun later => Kept platform later ∧ SameStore platform world later)
    ⟨kept, rfl, fun _ => rfl⟩ _ sequence on
  rintro state op answer later ⟨keptState, same⟩ admitted stepped here
  have strayState : ¬ Enrolled interface state := by
    unfold Enrolled
    rw [same.1]
    exact stray
  have unheard := stray_admitted strayState here admitted
  have alone := stray_step_alone keptState.subscribed here unheard stepped
  have step := alone.same_store keptState strayState
  exact ⟨alone_kept keptState alone strayState, step.1.trans same.1,
    fun lookup => (step.2 lookup).trans (same.2 lookup)⟩

/-- In every run whose calls on objects that are not enrolled raise no re-hash, a sequence
of calls on such an object leaves the store and its lookups as they were, and none of its
calls meets a fault it would not meet without the store. -/
theorem stray_calls_harmless (reports : KernelReports platform.kernel) {objects : Objects}
    {kernel : Kstate} {log : List (Op × Ret)}
    (run : Run (strayMachine platform) (storeInit objects kernel) log world)
    (stray : ¬ Enrolled interface world) {calls : List (Op × Ret)}
    (sequence : Run (strayMachine platform) world calls next)
    (on : ∀ call ∈ calls, OnObject interface call.1) :
    SameStore platform world next ∧
      ∀ op fault, OnObject interface op → strayAdmits platform next op →
        LibraryRun.step platform op next = .error fault →
        LibraryRun.step platform op (deaf next) = .error fault := by
  have kept := stray_run_kept reports (kept_init platform objects kernel) run
  obtain ⟨keptNext, same⟩ := stray_sequence kept stray sequence on
  refine ⟨same, fun op fault here admitted failed => ?_⟩
  have strayNext : ¬ Enrolled interface next := by
    unfold Enrolled
    rw [same.1]
    exact stray
  exact stray_step_faults keptNext.subscribed here (stray_admitted strayNext here admitted) failed

end Runs

section Heard

omit [DecidableEq NameBucket] [DecidableEq IndexBucket] in
theorem stray_handle (kept : Kept platform world) (stray : ¬ Enrolled interface world)
    {index : UInt32} {hndl : Hndl}
    (found : storeSearchIfaceHndlByindex platform.hash world.objects world.store index =
      some hndl) : hndl.iface ≠ interface := by
  obtain ⟨member, _⟩ := kept.linked.search_some found
  intro same
  exact stray ⟨hndl, member, same⟩

variable (subscribed : world.gate.notif = true)
  (unknown : storeSearchIfaceHndlByindex platform.hash world.objects world.store
    (world.objects interface).idx = none)

include subscribed unknown

/-- An accepted apply of a staged name or alias, where the index is unknown. -/
theorem heard_apply_faults (dirty : (world.objects interface).state = .dirty)
    (staged : .name ∈ (world.objects interface).dirtyFields ∨
      .ifalias ∈ (world.objects interface).dirtyFields) {request : SetlinkReq} {kernel : Kstate}
    (built : ifaceSetlinkReq (world.objects interface) = .ok request)
    (asked : platform.kernel.setlink request world.kernel = (none, kernel)) :
    ifaceApply platform interface world = .error .nullDereference := by
  have handled : storeOnIfaceModify platform.hash world.objects interface world.store =
      .error .nullDereference := by
    unfold storeOnIfaceModify
    rw [store_rehash_unfound _ _ _ _ _ _ unknown]
    exact if_pos (by simpa using staged)
  rw [iface_apply_accepted platform interface world dirty built asked]
  simp only [gateNotify, sent, subscribed, if_true, storeOnEvent, handled, error_bind, map_error]

/-- A reload from a link, where the index is unknown. -/
theorem heard_reload_faults (held : Held (world.objects interface)) {answer : Except YnlError
    GetlinkRsp} {kernel : Kstate} {link : GetlinkRsp}
    (linked : Linked platform.hash world.objects world.next world.store)
    (stray : ¬ Enrolled interface world)
    (asked : platform.kernel.getlink (world.objects interface).idx world.kernel = (answer, kernel))
    (given : gateGetlink answer = .ok link)
    (index : link.ifiIndex = (world.objects interface).idx) :
    ifaceReload platform interface world = .error .nullDereference := by
  have still : storeSearchIfaceHndlByindex platform.hash
      (Function.update world.objects interface (ifaceFill link)) world.store
      (Function.update world.objects interface (ifaceFill link) interface).idx = none := by
    rw [Function.update_self]
    change storeSearchIfaceHndlByindex platform.hash _ world.store link.ifiIndex = none
    rw [index, ← unknown]
    unfold storeSearchIfaceHndlByindex
    apply List.find?_congr
    intro hndl chained
    have apart : hndl.iface ≠ interface := fun same =>
      stray ⟨hndl, linked.indxh.registered _ hndl chained, same⟩
    rw [Function.update_of_ne apart]
  rw [iface_reload_given platform interface world subscribed held asked given]
  unfold storeOnIfaceReload
  rw [store_rehash_unfound _ _ _ _ _ _ still]
  rfl

end Heard

end Calls

/-- A second object of index 1, with an MTU staged and applied. -/
theorem second_object_harmless :
    ∃ world next, Run (strayMachine oneLinkPlatform) oneLinkInit
        [(.load, .code 0), (.create (ifaceFill oneLink), .object 2)] world ∧
      Run (strayMachine oneLinkPlatform) world
        [(.set (.mtu 1400) 2, .code 0), (.apply 2, .code 1)] next ∧
      SameStore oneLinkPlatform world next := by
  have begun : Run (strayMachine oneLinkPlatform) oneLinkInit [] oneLinkInit := .start
  have loaded := begun.extend .load (.code 0) (.inl rfl) rfl
  have created := loaded.extend (.create (ifaceFill oneLink)) (.object 2)
    (.inl (sound_fill one_link_reported)) rfl
  have stray : ¬ Enrolled 2 ((strayMachine oneLinkPlatform).after (.create (ifaceFill oneLink))
      ((strayMachine oneLinkPlatform).after .load oneLinkInit)) := by
    rintro ⟨hndl, member, same⟩
    cases member with
    | head => cases same
    | tail _ more => cases more
  have staged := (Run.start : Run (strayMachine oneLinkPlatform) _ [] _).extend
    (.set (.mtu 1400) 2) (.code 0)
    (.inr ⟨2, by decide, rfl, stray, fun invalid => nomatch invalid⟩) rfl
  have applied := staged.extend (.apply 2) (.code 1)
    (.inr ⟨2, by decide, rfl, stray, fun _ changed => absurd changed (by decide)⟩) rfl
  have harmless := stray_calls_harmless one_link_kernel_reports created stray applied (by
    intro call member
    cases member with
    | head => rfl
    | tail _ more =>
        rw [List.mem_singleton.mp more]
        rfl)
  exact ⟨_, _, created, applied, harmless.1⟩

/-- The alias of an object that is not enrolled is applied: the handler meets no handle. That
of a second object is applied: the handle of the first is filed under it, and the walk for
the alias meets an interface without one. -/
theorem stray_objects_disturb :
    (∃ world, Run (strayMachine oneLinkPlatform) oneLinkInit
        [(.create (ifaceFill oneLink), .object 0),
          (.set (.ifalias (some nameB)) 0, .code 0)] world ∧
      ¬ Enrolled 0 world ∧
      LibraryRun.step oneLinkPlatform (.apply 0) world = .error .nullDereference ∧
      ∃ done, LibraryRun.step oneLinkPlatform (.apply 0) (deaf world) = .ok done) ∧
    (∃ world next, Run (strayMachine oneLinkPlatform) oneLinkInit
        [(.load, .code 0), (.create (ifaceFill oneLink), .object 2),
          (.set (.ifalias (some nameB)) 2, .code 0)] world ∧
      ¬ Enrolled 2 world ∧
      LibraryRun.step oneLinkPlatform (.apply 2) world = .ok (.code 1, next) ∧
      answer djb2Hashing world.objects world.store (.byalias nameB) = .ok none ∧
      answer djb2Hashing next.objects next.store (.byalias nameB) = .error .nullDereference) := by
  have begun : Run (strayMachine oneLinkPlatform) oneLinkInit [] oneLinkInit := .start
  constructor
  · have created := begun.extend (.create (ifaceFill oneLink)) (.object 0)
      (.inl (sound_fill one_link_reported)) rfl
    have stray : ¬ Enrolled 0 ((strayMachine oneLinkPlatform).after
        (.create (ifaceFill oneLink)) oneLinkInit) := by
      rintro ⟨hndl, member, _⟩
      cases member
    have staged := created.extend (.set (.ifalias (some nameB)) 0) (.code 0)
      (.inr ⟨0, by decide, rfl, stray, fun invalid => nomatch invalid⟩) rfl
    refine ⟨_, staged, ?_, rfl, ⟨_, rfl⟩⟩
    rintro ⟨hndl, member, _⟩
    cases member
  · have loaded := begun.extend .load (.code 0) (.inl rfl) rfl
    have created := loaded.extend (.create (ifaceFill oneLink)) (.object 2)
      (.inl (sound_fill one_link_reported)) rfl
    have stray : ∀ world : CodeWorld Unit, world.store.ifaces = [⟨1, 0⟩] → ¬ Enrolled 2 world := by
      rintro world listed ⟨hndl, member, same⟩
      rw [listed] at member
      rw [List.mem_singleton.mp member] at same
      cases same
    have staged := created.extend (.set (.ifalias (some nameB)) 2) (.code 0)
      (.inr ⟨2, by decide, rfl, stray _ rfl, fun invalid => nomatch invalid⟩) rfl
    exact ⟨_, _, staged, stray _ rfl, rfl, rfl, rfl⟩

end Nlif.StrayObjects
