import Nlif.LinkFeed

/-!
# The store and the notifications of its links

What the enrolled interfaces show of their links while the links change between and during
the calls of a client. No call is in step with the kernel, but what is queued always leads
from the values shown to those of the links: an interface with nothing queued shows its link.
-/

namespace Nlif.StoreFeed

open LinkModel IfaceModel FaultWalk StoreModel GateModel GateSpec StoreLookup LabelledRun
  StagedRefresh LinkFeed
open LibraryRun (Op Ret Enrolled Kept)
open DaemonCalls (listening listening_kept)
open DaemonSpec (Local reload_local sync_local set_local apply_local local_set_object)
open OperMirror (Heard skipped_iff)

set_option autoImplicit false

variable {NameBucket IndexBucket Kstate : Type}

/-- What is shown of every enrolled interface leads, through the notifications taken and
those still queued, to what its link carries. -/
def InStep (taken : List Notification) (host : Host)
    (world : World NameBucket IndexBucket Kstate) : Prop :=
  ∀ interface, Enrolled interface world →
    host.Leading taken (world.objects interface).idx (shown (world.objects interface))

/-- The volatile values are those of the link, where there is one that the gate accepts. -/
def Shows (host : Host) (object : Iface) : Prop :=
  ∀ link, host.links object.idx = some link → gateIslinkValid link = 0 →
    shown object = carried link

def feedPlatform (hash : Hashing NameBucket IndexBucket) :
    Platform NameBucket IndexBucket Host :=
  ⟨hash, feedKernel⟩

theorem reloaded_self (interface : Addr) (world : World NameBucket IndexBucket Kstate)
    (link : GetlinkRsp) (kernel : Kstate) (ret : Int) (store : Store NameBucket IndexBucket) :
    (reloaded interface world link kernel ret store).objects interface = ifaceFill link :=
  Function.update_self ..

section Step

variable {taken : List Notification} {host after : Host}
  {world next : World NameBucket IndexBucket Kstate} {interface : Addr}

theorem InStep.moved (inStep : InStep taken host world)
    (keeps : ∀ {index values}, host.Leading taken index values →
      after.Leading taken index values) : InStep taken after world :=
  fun interface enrolled => keeps (inStep interface enrolled)

theorem InStep.turn (inStep : InStep taken host world) (touched : Local interface world next)
    (keeps : ∀ {index values}, host.Leading taken index values →
      after.Leading taken index values)
    (here : Enrolled interface world → after.Leading taken (next.objects interface).idx
      (shown (next.objects interface))) : InStep taken after next := by
  intro other enrolled
  obtain ⟨hndl, member, same⟩ := enrolled
  have before : Enrolled other world := ⟨hndl, touched.ifaces ▸ member, same⟩
  by_cases self : other = interface
  · subst self
    exact here before
  · rw [touched.elsewhere other self]
    exact keeps (inStep other before)

theorem InStep.turn_same (inStep : InStep taken host world)
    (touched : Local interface world next)
    (keeps : ∀ {index values}, host.Leading taken index values →
      after.Leading taken index values)
    (idx : (next.objects interface).idx = (world.objects interface).idx)
    (same : shown (next.objects interface) = shown (world.objects interface)) :
    InStep taken after next := by
  refine inStep.turn touched keeps fun enrolled => ?_
  rw [idx, same]
  exact keeps (inStep interface enrolled)

theorem enrolled_by_index {platform : Platform NameBucket IndexBucket Kstate}
    (kept : Kept platform world) {left right : Addr} (leftThere : Enrolled left world)
    (rightThere : Enrolled right world)
    (same : (world.objects left).idx = (world.objects right).idx) : left = right := by
  obtain ⟨first, firstThere, rfl⟩ := leftThere
  obtain ⟨second, secondThere, rfl⟩ := rightThere
  exact congrArg Hndl.iface (kept.linked.injective first firstThere second secondThere same)

theorem InStep.refresh {platform : Platform NameBucket IndexBucket Kstate}
    (kept : Kept platform world) {notification : Notification} (heard : Heard notification)
    (inStep : InStep (notification :: taken) host world) (enrolled : Enrolled interface world)
    (idx : (world.objects interface).idx = notification.link.ifiIndex) :
    InStep taken host (world.setObject interface
      (ifaceRefreshState (world.objects interface) notification.link).2) := by
  intro other there
  have before : Enrolled other world := there
  have told := leading_heard heard (inStep other before)
  by_cases self : other = interface
  · subst self
    rw [if_pos idx.symm] at told
    rw [World.set_object_self, refresh_shown]
    exact told
  · have elsewhere : notification.link.ifiIndex ≠ (world.objects other).idx :=
      fun same => self (enrolled_by_index kept before enrolled (same.symm.trans idx.symm))
    rw [if_neg elsewhere] at told
    have same : (world.setObject interface
        (ifaceRefreshState (world.objects interface) notification.link).2).objects other =
        world.objects other := Function.update_of_ne self _ _
    rw [same]
    exact told

theorem InStep.unknown {notification : Notification} (heard : Heard notification)
    (inStep : InStep (notification :: taken) host world)
    (unknown : ∀ interface, Enrolled interface world →
      (world.objects interface).idx ≠ notification.link.ifiIndex) :
    InStep taken host world := by
  intro other enrolled
  have told := leading_heard heard (inStep other enrolled)
  rwa [if_neg (Ne.symm (unknown other enrolled))] at told

theorem InStep.skip {notification : Notification} (skipped : ¬ Heard notification)
    (inStep : InStep (notification :: taken) host world) : InStep taken host world :=
  fun other enrolled => leading_skipped skipped (inStep other enrolled)

theorem InStep.take (inStep : InStep [] host world) (count : Nat) :
    InStep (host.pending.take count) (host.take count) world :=
  fun other enrolled => (inStep other enrolled).take count

theorem InStep.current (inStep : InStep [] host world) (enrolled : Enrolled interface world)
    (untold : Untold host.pending (world.objects interface).idx) :
    Shows host (world.objects interface) :=
  fun _ present valid => leading_untold (inStep interface enrolled) untold present valid

end Step

section Calls

variable [DecidableEq NameBucket] {hash : Hashing NameBucket IndexBucket}
  {world next : World NameBucket IndexBucket Host} {interface : Addr} {ret : Int}
  {taken : List Notification}

theorem reload_in_step (inStep : InStep taken world.kernel world)
    (enrolled : Enrolled interface world)
    (reload : Reload (feedPlatform hash) interface world ret next) :
    InStep taken next.kernel next := by
  have touched := reload_local reload
  cases reload with
  | unanswered held asked refused =>
      refine inStep.turn_same touched (fun before => before.getlink asked) ?_ ?_
      · simp [answered, World.setObject, released]
      · simp [answered, World.setObject, released, shown]
  | @accepted _ _ link _ held asked given rehashed =>
      obtain ⟨rfl, _⟩ := gate_getlink_ok given
      have same := (feed_kernel_reports.getlink _ _ _ _ asked).1
      refine inStep.turn touched (fun before => before.getlink asked) fun _ => ?_
      have read := (inStep interface enrolled).answered asked
      rw [← same] at read
      rw [reloaded_self]
      exact read
  | @clashed _ _ link _ _ held asked given rehashed failed =>
      obtain ⟨rfl, _⟩ := gate_getlink_ok given
      have same := (feed_kernel_reports.getlink _ _ _ _ asked).1
      refine inStep.turn touched (fun before => before.getlink asked) fun _ => ?_
      have read := (inStep interface enrolled).answered asked
      rw [← same] at read
      rw [World.invalidate, World.set_object_self, reloaded_self]
      exact read

variable [DecidableEq IndexBucket]

theorem sync_in_step (subscribed : world.gate.notif = true)
    (inStep : InStep taken world.kernel world) (enrolled : Enrolled interface world)
    (sync : ifaceSync (feedPlatform hash) interface world = .ok (ret, next)) :
    InStep taken next.kernel next := by
  cases (iface_sync_ok_iff _ _ _ subscribed _ _).mp sync with
  | inl passed => exact passed.2.2 ▸ inStep
  | inr loaded => exact reload_in_step inStep enrolled loaded.2

theorem set_in_step {setter : Setter} (subscribed : world.gate.notif = true)
    (inStep : InStep taken world.kernel world) (enrolled : Enrolled interface world)
    (done : ifaceSet (feedPlatform hash) setter interface world = .ok (ret, next)) :
    InStep taken next.kernel next := by
  obtain ⟨synced, middle, sync, outcome⟩ := iface_set_ok _ _ _ done
  have after := sync_in_step subscribed inStep enrolled sync
  cases outcome with
  | inl failed => exact failed.2.2 ▸ after
  | inr sets =>
      obtain ⟨_, object, staged, rfl⟩ := sets
      refine after.turn_same (local_set_object interface object middle) (fun before => before)
        ?_ ?_
      · rw [World.set_object_self]
        exact (stage_staged staged).idx
      · rw [World.set_object_self]
        exact stage_shown staged

theorem apply_in_step (inStep : InStep taken world.kernel world)
    (done : ifaceApply (feedPlatform hash) interface world = .ok (ret, next)) :
    InStep taken next.kernel next := by
  have idx : (next.objects interface).idx = (world.objects interface).idx :=
    apply_field _ _ _ (fun _ => rfl) (fun _ => rfl) done interface
  have same : shown (next.objects interface) = shown (world.objects interface) :=
    apply_field _ _ _ (fun _ => rfl) (fun _ => rfl) done interface
  refine inStep.turn_same (apply_local done) (fun before => ?_) idx same
  cases (iface_apply_ok_iff ..).mp done with
  | idle => exact before
  | refused _ _ asked => exact before.setlink asked
  | applied _ _ asked notified | clashed _ _ asked notified =>
      have kernel := (gate_notify_modify_frame _ _ _ notified).2.1
      simp only [World.setObject, World.invalidate, kernel]
      exact before.setlink asked

theorem change_heard {platform : Platform NameBucket IndexBucket Kstate}
    {observers : Observers NameBucket IndexBucket Kstate}
    {world next : World NameBucket IndexBucket Kstate} (kept : Kept platform world)
    {link : GetlinkRsp}
    (done : gateNotify platform observers (.change link) world = .ok (ret, next)) :
    ret = 0 ∧ ∃ after, next = after.record (.notified .change link.ifiIndex 0) ∧
      ((after = world ∧ ∀ interface, Enrolled interface world →
          (world.objects interface).idx ≠ link.ifiIndex) ∨
        ∃ interface, Enrolled interface world ∧ (world.objects interface).idx = link.ifiIndex ∧
          let refreshed :=
            world.setObject interface (ifaceRefreshState (world.objects interface) link).2
          (observers interface refreshed = .ok after ∨ after = refreshed)) := by
  simp only [gateNotify, kept.subscribed, if_true, storeOnEvent, bind_ok_iff] at done
  obtain ⟨_, ⟨after, changed, same⟩, done⟩ := done
  cases same
  cases done
  refine ⟨rfl, after, rfl, ?_⟩
  unfold storeOnIfaceChange at changed
  cases found : storeFindIfaceByindex platform.hash world.objects world.store link.ifiIndex with
  | none =>
      rw [found] at changed
      cases changed
      refine .inl ⟨rfl, fun interface enrolled same => ?_⟩
      obtain ⟨hndl, member, rfl⟩ := enrolled
      have there := (find_byindex_iff kept.linked link.ifiIndex hndl.iface).mpr
        ⟨hndl, member, rfl, same⟩
      cases found.symm.trans there
  | some interface =>
      rw [found] at changed
      obtain ⟨hndl, member, rfl, idx⟩ := (find_byindex_iff kept.linked ..).mp found
      refine .inr ⟨hndl.iface, ⟨hndl, member, rfl⟩, idx, ?_⟩
      simp only at changed
      split at changed
      · exact .inl changed
      · cases changed
        exact .inr rfl

/-- The calls that bring no interface or link the client has read itself. -/
def Stays : Op → Prop
  | .create _ | .enroll _ | .newLink _ | .notify _ => False
  | .withdraw _ | .clear | .load | .reload | .set _ _ | .coherent _ | .apply _ | .ifaceReload _
  | .findByname _ | .findByalias _ | .findBystrid _ | .findByindex _ => True

inductive ClientOp where
  | call (op : Op)
  | serve (count : Nat)
  | happen (happening : Happening)

/-- A client of the library beside its kernel: `nlif_gate_notify_changes()` is served the
first notifications of the queue. -/
def clientMachine (hash : Hashing NameBucket IndexBucket) :
    Machine (World NameBucket IndexBucket Host) ClientOp Ret Fault where
  admits world
    | .call op => LibraryRun.admits world op ∧ Stays op
    | .serve _ | .happen _ => True
  step
    | .call op, world => LibraryRun.step (feedPlatform hash) op world
    | .serve count, world =>
        LibraryRun.code (gateNotifyChanges (feedPlatform hash) noObservers
          (world.kernel.pending.take count) { world with kernel := world.kernel.take count })
    | .happen happening, world =>
        .ok (.code 0, { world with kernel := world.kernel.happen happening })

theorem change_completes {platform : Platform NameBucket IndexBucket Kstate}
    {world : World NameBucket IndexBucket Kstate} (kept : Kept platform world)
    (link : GetlinkRsp) :
    ∃ next, gateNotify platform noObservers (.change link) world = .ok (0, next) := by
  simp only [gateNotify, kept.subscribed, if_true, storeOnEvent, storeOnIfaceChange, noObservers]
  split
  · exact ⟨_, rfl⟩
  · simp only [ite_self]
    exact ⟨_, rfl⟩

theorem notify_in_step {host : Host} {platform : Platform NameBucket IndexBucket Kstate}
    {world : World NameBucket IndexBucket Kstate} (kept : Kept platform world)
    (notifications : List Notification)
    (inStep : InStep (notifications ++ taken) host world) :
    ∃ next, gateNotifyChanges platform noObservers notifications world = .ok (0, next) ∧
      InStep taken host next ∧ next.kernel = world.kernel := by
  induction notifications generalizing world with
  | nil => exact ⟨world, rfl, inStep, rfl⟩
  | cons notification rest ih =>
      by_cases heard : Heard notification
      · obtain ⟨middle, notified⟩ := change_completes kept notification.link
        obtain ⟨_, after, rfl, outcome⟩ := change_heard kept notified
        have keptAfter : Kept platform (after.record _) :=
          LibraryRun.change_kept (fun _ _ _ kept _ observed => Except.ok.inj observed ▸ kept) kept
            notified
        have moved : InStep (rest ++ taken) host after ∧ after.kernel = world.kernel := by
          cases outcome with
          | inl unknown =>
              rw [unknown.1]
              exact ⟨inStep.unknown heard unknown.2, rfl⟩
          | inr refreshes =>
              obtain ⟨interface, enrolled, idx, outcome⟩ := refreshes
              have same : after = world.setObject interface
                  (ifaceRefreshState (world.objects interface) notification.link).2 :=
                outcome.elim (fun observed => (Except.ok.inj observed).symm) id
              rw [same]
              exact ⟨inStep.refresh kept heard enrolled idx, rfl⟩
        obtain ⟨next, dispatched, reached, kernel⟩ := ih keptAfter moved.1
        refine ⟨next, ?_, reached, kernel.trans moved.2⟩
        rw [gateNotifyChanges, if_neg (mt (skipped_iff _).mp (not_not.mpr heard)), notified]
        exact dispatched
      · obtain ⟨next, dispatched, reached⟩ := ih kept (inStep.skip heard)
        refine ⟨next, ?_, reached⟩
        rw [gateNotifyChanges, if_pos ((skipped_iff _).mpr heard)]
        exact dispatched

theorem new_link_in_step {host : Host} {platform : Platform NameBucket IndexBucket Kstate}
    {world next : World NameBucket IndexBucket Kstate} (kept : Kept platform world)
    (inStep : InStep [] host world) {link : GetlinkRsp}
    (leads : host.Leading [] link.ifiIndex (carried link))
    (notified : gateNotify platform noObservers (.new link) world = .ok (ret, next)) :
    InStep [] host next ∧ next.kernel = world.kernel := by
  obtain ⟨after, rfl, outcome⟩ := LibraryRun.new_link_ok kept notified
  cases outcome with
  | inl same =>
      rw [same]
      exact ⟨inStep, rfl⟩
  | inr enrolls =>
      obtain ⟨_, rfl⟩ := enrolls
      refine ⟨fun interface enrolled => ?_, rfl⟩
      obtain ⟨hndl, member, rfl⟩ := enrolled
      cases List.mem_append.mp member with
      | inl old =>
          have fresh := kept.linked.fresh (ifaceFill link) hndl old
          have same : (storeEnrollLink platform link
              (link.heldAlias.map platform.hash.str) world).objects hndl.iface =
                world.objects hndl.iface := fresh
          rw [World.record, same]
          exact inStep hndl.iface ⟨hndl, old, rfl⟩
      | inr new =>
          have same : (storeEnrollLink platform link
              (link.heldAlias.map platform.hash.str) world).objects world.next =
                ifaceFill link := Function.update_self ..
          rw [List.mem_singleton.mp new, World.record, same]
          exact leads

theorem load_in_step {platform : Platform NameBucket IndexBucket Kstate} (hostOf : Kstate → Host)
    (dumps : ∀ {state next answer}, platform.kernel.dump state = (answer, next) →
      feedDump (hostOf state) = (answer, hostOf next))
    {world next : World NameBucket IndexBucket Kstate} (kept : Kept platform world)
    (inStep : InStep [] (hostOf world.kernel) world)
    (done : storeLoad platform world = .ok (ret, next)) :
    InStep [] (hostOf next.kernel) next := by
  obtain ⟨answer, kernel, asked, loaded⟩ := LibraryRun.store_load_ok done
  have keptBefore : Kept platform { world with kernel } :=
    ⟨kept.linked, kept.subscribed, kept.indexed⟩
  have stepBefore : InStep [] (hostOf kernel) { world with kernel } :=
    inStep.moved fun before => before.dump (dumps asked)
  cases loaded with
  | inl same => exact same ▸ stepBefore
  | inr dumped =>
      obtain ⟨links, rfl, loaded⟩ := dumped
      have reached := LibraryRun.load_each_invariant (fun state => Kept platform state ∧
        InStep [] (hostOf kernel) state ∧ state.kernel = kernel) links ?_
        ⟨keptBefore, stepBefore, rfl⟩ loaded
      · rw [reached.2.2]
        exact reached.2.1
      · intro link listed state code after before notified
        obtain ⟨keptState, stepState, same⟩ := before
        obtain ⟨reported, leads⟩ := feed_dump_leads (dumps asked) link listed
        have enrolled := new_link_in_step keptState stepState leads notified
        exact ⟨LibraryRun.new_link_kept keptState reported notified, enrolled.1,
          enrolled.2.trans same⟩

theorem store_step_in_step (kept : Kept (feedPlatform hash) world)
    (inStep : InStep [] world.kernel world) {op : Op} {answer : Ret}
    (admitted : LibraryRun.admits world op) (stays : Stays op)
    (stepped : LibraryRun.step (feedPlatform hash) op world = .ok (answer, next)) :
    InStep [] next.kernel next := by
  have emptied : ∀ cleared : World NameBucket IndexBucket Host, cleared.store = storeReinit →
      InStep [] cleared.kernel cleared := by
    intro cleared empty interface enrolled
    obtain ⟨hndl, member, _⟩ := enrolled
    rw [empty] at member
    cases member
  cases op with
  | create | enroll | newLink | notify => exact stays.elim
  | withdraw interface =>
      obtain ⟨_, done⟩ := LibraryRun.code_ok stepped
      obtain ⟨hndl, member, rfl⟩ := admitted
      simp only [storeWithdraw, storeWithdrawIface, kept.linked.search member,
        Except.ok.injEq, Prod.mk.injEq] at done
      obtain ⟨_, rfl⟩ := done
      intro other enrolled
      obtain ⟨left, there, same⟩ := enrolled
      exact inStep other ⟨left, List.mem_of_mem_filter there, same⟩
  | clear =>
      obtain ⟨_, done⟩ := LibraryRun.code_ok stepped
      obtain ⟨_, cleared, same⟩ := (map_ok_iff ..).mp done
      cases same
      exact emptied next (LibraryRun.clear_kept kept cleared).2.1
  | load =>
      obtain ⟨_, done⟩ := LibraryRun.code_ok stepped
      exact load_in_step id id kept inStep done
  | reload =>
      obtain ⟨_, done⟩ := LibraryRun.code_ok stepped
      obtain ⟨middle, cleared, loaded⟩ := (bind_ok_iff ..).mp done
      have after := LibraryRun.clear_kept kept cleared
      exact load_in_step id id after.1 (emptied middle after.2.1) loaded
  | set setter interface =>
      obtain ⟨_, done⟩ := LibraryRun.code_ok stepped
      exact set_in_step kept.subscribed inStep admitted.2 done
  | coherent interface =>
      obtain ⟨⟨_, _⟩, done, same⟩ := (map_ok_iff ..).mp stepped
      cases same
      obtain ⟨_, sync, _⟩ := iface_coherent_ok _ _ _ done
      exact sync_in_step kept.subscribed inStep admitted sync
  | apply interface =>
      obtain ⟨_, done⟩ := LibraryRun.code_ok stepped
      exact apply_in_step inStep done
  | ifaceReload interface =>
      obtain ⟨_, done⟩ := LibraryRun.code_ok stepped
      exact reload_in_step inStep admitted ((iface_reload_ok_iff _ _ _ kept.subscribed _ _).mp done)
  | findByname | findByindex =>
      cases stepped
      exact inStep
  | findByalias | findBystrid =>
      obtain ⟨_, _, same⟩ := (map_ok_iff ..).mp stepped
      cases same
      exact inStep

theorem serve_in_step (kept : Kept (feedPlatform hash) world)
    (inStep : InStep [] world.kernel world) (count : Nat) :
    ∃ next, gateNotifyChanges (feedPlatform hash) noObservers (world.kernel.pending.take count)
        { world with kernel := world.kernel.take count } = .ok (0, next) ∧
      Kept (feedPlatform hash) next ∧ InStep [] next.kernel next ∧
      next.kernel = world.kernel.take count := by
  have taken : Kept (feedPlatform hash) { world with kernel := world.kernel.take count } :=
    ⟨kept.linked, kept.subscribed, kept.indexed⟩
  have before := inStep.take count
  rw [← List.append_nil (world.kernel.pending.take count)] at before
  obtain ⟨next, dispatched, reached, kernel⟩ := notify_in_step taken _ before
  refine ⟨next, dispatched, ?_, kernel ▸ reached, kernel⟩
  exact LibraryRun.notify_kept (fun _ _ _ kept _ observed => Except.ok.inj observed ▸ kept) _
    taken dispatched

theorem client_step_in_step (kept : Kept (feedPlatform hash) world)
    (inStep : InStep [] world.kernel world) {op : ClientOp} {answer : Ret}
    (admitted : (clientMachine hash).admits world op)
    (stepped : (clientMachine hash).step op world = .ok (answer, next)) :
    Kept (feedPlatform hash) next ∧ InStep [] next.kernel next := by
  cases op with
  | call op =>
      obtain ⟨admitted, stays⟩ := admitted
      exact ⟨LibraryRun.step_kept feed_kernel_reports kept admitted stepped,
        store_step_in_step kept inStep admitted stays stepped⟩
  | serve count =>
      obtain ⟨_, done⟩ := LibraryRun.code_ok stepped
      obtain ⟨after, dispatched, keptAfter, reached, _⟩ := serve_in_step kept inStep count
      cases done.symm.trans dispatched
      exact ⟨keptAfter, reached⟩
  | happen happening =>
      cases stepped
      exact ⟨⟨kept.linked, kept.subscribed, kept.indexed⟩,
        inStep.moved fun before => before.happen happening⟩

theorem client_in_step {objects : Objects} {host : Host} {log : List (ClientOp × Ret)}
    (run : Run (clientMachine hash) (listening objects host) log world) :
    Kept (feedPlatform hash) world ∧ InStep [] world.kernel world := by
  refine run_invariant (fun state => Kept (feedPlatform hash) state ∧
    InStep [] state.kernel state) ⟨listening_kept objects host, ?_⟩ ?_ run
  · intro interface enrolled
    obtain ⟨_, member, _⟩ := enrolled
    cases member
  · intro state op answer after before admitted stepped
    exact client_step_in_step before.1 before.2 admitted stepped

/-- However the links change between and during the calls of a client that joins the link
group before it loads the store, an enrolled interface of which nothing is queued shows its
link; once everything queued is served, which returns, every enrolled interface does. -/
theorem client_catches_up {objects : Objects} {host : Host} {log : List (ClientOp × Ret)}
    (run : Run (clientMachine hash) (listening objects host) log world) :
    (∀ interface, Enrolled interface world →
      Untold world.kernel.pending (world.objects interface).idx →
      Shows world.kernel (world.objects interface)) ∧
    ∃ next, (clientMachine hash).step (.serve world.kernel.pending.length) world =
        .ok (.code 0, next) ∧
      next.kernel.links = world.kernel.links ∧
      ∀ interface, Enrolled interface next → Shows next.kernel (next.objects interface) := by
  obtain ⟨kept, inStep⟩ := client_in_step run
  refine ⟨fun interface enrolled untold => inStep.current enrolled untold, ?_⟩
  obtain ⟨next, dispatched, _, reached, kernel⟩ :=
    serve_in_step kept inStep world.kernel.pending.length
  have links : next.kernel.links = world.kernel.links := by
    rw [kernel]
    rfl
  have drained : next.kernel.pending = [] := by
    rw [kernel]
    exact List.drop_length
  refine ⟨next, (congrArg LibraryRun.code dispatched).trans rfl, links, ?_⟩
  intro interface enrolled
  apply InStep.current reached enrolled
  rw [drained]
  exact fun notification listed => nomatch listed

end Calls

def runningLink : { link : GetlinkRsp // LibraryRun.Reported link } :=
  ⟨{ LibraryRun.oneLink with ifiFlags := IFF_VOLATILE, operstate := some 6 }, by decide +kernel⟩

def oneLinkHost : Host :=
  .joined (fun index => if index = 1 then some LibraryRun.oneLink else none) [1]
    (fun _ => ⟨[], none⟩) fun index link present => by
      simp only at present
      split at present
      · rename_i first
        cases present
        exact ⟨first.symm, LibraryRun.one_link_reported⟩
      · cases present

def oneLinkJoined : CodeWorld Host := listening (fun _ => ifaceFill LibraryRun.oneLink) oneLinkHost

def oneLinkLoaded : CodeWorld Host :=
  (clientMachine djb2Hashing).after (.call .load) oneLinkJoined

def oneLinkRunning : CodeWorld Host :=
  (clientMachine djb2Hashing).after (.happen (.changes runningLink)) oneLinkLoaded

/-- The link "a" runs after it was loaded, and is served. -/
theorem running_link_caught_up :
    Run (clientMachine djb2Hashing) oneLinkJoined
        [(.call .load, .code 0), (.happen (.changes runningLink), .code 0)] oneLinkRunning ∧
      shown (oneLinkRunning.objects 0) ≠ carried runningLink.val ∧
      ∃ next, (clientMachine djb2Hashing).step (.serve 1) oneLinkRunning = .ok (.code 0, next) ∧
        shown (next.objects 0) = carried runningLink.val := by
  have one := (Run.start : Run (clientMachine djb2Hashing) oneLinkJoined [] _).extend
    (.call .load) (.code 0) ⟨rfl, trivial⟩ rfl
  have two := one.extend (.happen (.changes runningLink)) (.code 0) trivial rfl
  obtain ⟨_, next, served, links, shows⟩ := client_catches_up two
  have listed : (fun done => (done.2.store.ifaces, (done.2.objects 0).idx)) <$>
      (clientMachine djb2Hashing).step (.serve 1) oneLinkRunning = .ok ([⟨1, 0⟩], 1) := by
    decide +kernel
  obtain ⟨⟨_, reached⟩, again, same⟩ := (map_ok_iff ..).mp listed
  cases again.symm.trans served
  obtain ⟨ifaces, idx⟩ := Prod.mk.inj same
  refine ⟨two, by decide +kernel, next, served, ?_⟩
  refine shows 0 ⟨⟨1, 0⟩, ?_, rfl⟩ runningLink.val ?_ ?_
  · rw [ifaces]
    exact List.mem_singleton_self _
  · rw [links, idx]
    rfl
  · decide +kernel

end Nlif.StoreFeed
