import Nlif.DaemonFeed
import Nlif.OperStatus

/-!
# From the links to the operational datastore

The operational states of the links, the cache of the daemon and the oper-status leaves it
writes, under links that change at any moment: what is queued leads from a leaf to its link.
-/

namespace Nlif.OperFeed

open LinkModel IfaceModel FaultWalk StoreModel GateModel LabelledRun StagedRefresh OperModel
  OperMirror OperSetup OperStatus LinkFeed StoreFeed
open LibraryRun (Enrolled Kept)
open DaemonModel (SrError cstring)
open DaemonRun (nlifdOpen)
open ConfigSnapshot (open_fresh)
open DaemonCalls (listening listening_kept)

set_option autoImplicit false

variable {NameBucket IndexBucket : Type}

abbrev hostOf (world : OperWorld NameBucket IndexBucket Host) : Host := world.kernel.1

def setHost (host : Host) (world : OperWorld NameBucket IndexBucket Host) :
    OperWorld NameBucket IndexBucket Host :=
  { world with kernel := (host, world.kernel.2) }

/-- The oper-status leaf names the state of the link, where there is one the gate accepts. -/
def LeafShows (world : OperWorld NameBucket IndexBucket Host) (hndl : Hndl) : Prop :=
  ∀ link, (hostOf world).links (world.objects hndl.iface).idx = some link →
    gateIslinkValid link = 0 → ∃ value, yangOperStatus (link.operstate.getD 0) = some value ∧
      world.kernel.2.leaf (world.objects hndl.iface).name .operStatus = some value

section Batches

variable {hash : Hashing NameBucket IndexBucket} {datastore : Datastore}
  {world next : OperWorld NameBucket IndexBucket Host} {taken : List Notification}

/-- The cache is in step with the links and the leaves follow the cache. -/
structure Relayed (hash : Hashing NameBucket IndexBucket) (taken : List Notification)
    (world : OperWorld NameBucket IndexBucket Host) : Prop where
  steady : Steady (beside (feedPlatform hash)) world
  mirrored : Mirrored world
  inStep : InStep taken (hostOf world) world

theorem Relayed.shows (relayed : Relayed hash [] world) {hndl : Hndl}
    (member : hndl ∈ world.store.ifaces)
    (untold : Untold (hostOf world).pending (world.objects hndl.iface).idx) :
    LeafShows world hndl := by
  intro link present valid
  have same := relayed.inStep.current ⟨hndl, member, rfl⟩ untold link present valid
  obtain ⟨value, named, leaf⟩ := relayed.mirrored.follows hndl member
  have state : (world.objects hndl.iface).opstat = link.operstate.getD 0 :=
    congrArg Volatile.opstat same
  exact ⟨value, state ▸ named, leaf⟩

theorem notified_in_step (steady : Steady (beside (feedPlatform hash)) world)
    {notification : Notification} (heard : Heard notification)
    (inStep : InStep (notification :: taken) (hostOf world) world)
    (notified : Notified datastore notification.link world next) :
    InStep taken (hostOf world) next ∧ hostOf next = hostOf world := by
  cases notified with
  | quiet still =>
      refine ⟨fun interface enrolled => ?_, rfl⟩
      have told := leading_heard heard (inStep interface enrolled)
      obtain ⟨hndl, member, rfl⟩ := enrolled
      by_cases same : notification.link.ifiIndex = (world.objects hndl.iface).idx
      · have unmoved : Unmoved (world.objects hndl.iface) notification.link := by
          by_contra moved
          exact still hndl ⟨member, same.symm, moved⟩
        have kept : shown (world.objects hndl.iface) = carried notification.link := by
          simp only [shown, carried, unmoved.1, unmoved.2.1, unmoved.2.2]
        rw [if_pos same, ← kept] at told
        exact told
      · rw [if_neg same] at told
        exact told
  | pushed moves =>
      exact ⟨inStep.refresh steady.kept heard ⟨_, moves.1, rfl⟩ moves.2.1, rfl⟩

variable [DecidableEq NameBucket] [DecidableEq IndexBucket]

theorem dispatch_in_step (yang : Yang datastore) (notifications : List Notification) {ret : Int}
    (steady : Steady (beside (feedPlatform hash)) world)
    (inStep : InStep (notifications ++ taken) (hostOf world) world)
    (done : nlifdDispatchNotif datastore (feedPlatform hash) notifications world =
      .ok (ret, next)) : InStep taken (hostOf world) next ∧ hostOf next = hostOf world := by
  induction notifications generalizing world with
  | nil =>
      cases done
      exact ⟨inStep, rfl⟩
  | cons notification rest ih =>
      cases dispatch_cons_ok steady yang.xpath done with
      | inl skipped => exact ih steady (inStep.skip skipped.1) skipped.2
      | inr heard =>
          obtain ⟨listened, middle, notified, done⟩ := heard
          obtain ⟨stepped, same⟩ := notified_in_step steady listened inStep notified
          obtain ⟨reached, still⟩ := ih (notified.steady steady) (same ▸ stepped) done
          exact ⟨same ▸ reached, still.trans same⟩

theorem serve_relayed (yang : Yang datastore) (relayed : Relayed hash [] world) (count : Nat)
    (listed : BatchListed world ((hostOf world).pending.take count)) :
    ∃ next, nlifdDispatchNotif datastore (feedPlatform hash) ((hostOf world).pending.take count)
        (setHost ((hostOf world).take count) world) = .ok (0, next) ∧ Relayed hash [] next ∧
      hostOf next = (hostOf world).take count := by
  obtain ⟨steady, mirrored, inStep⟩ := relayed
  have steadyTaken : Steady (beside (feedPlatform hash))
      (setHost ((hostOf world).take count) world) :=
    ⟨⟨steady.kept.linked, steady.kept.subscribed, steady.kept.indexed⟩, steady.valid,
      steady.distinct⟩
  have mirroredTaken : Mirrored (setHost ((hostOf world).take count) world) :=
    ⟨mirrored.applied, mirrored.listed, mirrored.follows⟩
  have before := inStep.take count
  rw [← List.append_nil ((hostOf world).pending.take count)] at before
  obtain ⟨next, dispatched, reached⟩ := dispatch_followed yang _ steadyTaken mirroredTaken listed
  obtain ⟨stepped, same⟩ := dispatch_in_step yang _ steadyTaken before dispatched
  exact ⟨next, dispatched, ⟨reached.steady, reached.mirrored, same ▸ stepped⟩, same⟩

end Batches

inductive FeedOp where
  | serve (count : Nat)
  | happen (happening : Happening)

def feedMachine [DecidableEq NameBucket] [DecidableEq IndexBucket] (datastore : Datastore)
    (hash : Hashing NameBucket IndexBucket) :
    Machine (OperWorld NameBucket IndexBucket Host) FeedOp Int Fault where
  admits _ _ := True
  step
    | .serve count, world =>
        nlifdDispatchNotif datastore (feedPlatform hash) ((hostOf world).pending.take count)
          (setHost ((hostOf world).take count) world)
    | .happen happening, world => .ok (0, setHost ((hostOf world).happen happening) world)

/-- The notifications served are of operational states the leaf can name. -/
def ServesListed (world : OperWorld NameBucket IndexBucket Host) : FeedOp → Prop
  | .serve count => BatchListed world ((hostOf world).pending.take count)
  | .happen _ => True

section Runs

variable [DecidableEq NameBucket] [DecidableEq IndexBucket]
  {hash : Hashing NameBucket IndexBucket} {datastore : Datastore}
  {loaded ready world : OperWorld NameBucket IndexBucket Host}

theorem setup_relayed (yang : Yang datastore) {objects : Objects} {kernel : Host × Session}
    {ret : Int} (opened : nlifdOpen (beside (feedPlatform hash)) objects kernel =
      .ok (ret, loaded)) (meanwhile : List Happening)
    (done : nlifdIfaceSetupOperDstore datastore
      (setHost (meanwhile.foldl Host.happen (hostOf loaded)) loaded) = .ok (.ok, ready)) :
    Relayed hash [] ready := by
  have reports : LibraryRun.KernelReports (beside (feedPlatform hash)).kernel :=
    beside_reports feed_kernel_reports
  have steady := fresh_steady (open_fresh reports opened)
  have kept : Kept (beside (feedPlatform hash)) (listening objects kernel) :=
    listening_kept objects kernel
  have stepLoaded : InStep [] (hostOf loaded) loaded := by
    refine load_in_step Prod.fst (fun asked => ?_) kept ?_ opened
    · rw [← (Prod.mk.inj asked).1, ← (Prod.mk.inj asked).2]
      rfl
    · intro interface enrolled
      obtain ⟨_, member, _⟩ := enrolled
      cases member
  have stepMeanwhile : ∀ (happenings : List Happening) (host : Host), InStep [] host loaded →
      InStep [] (happenings.foldl Host.happen host) loaded := by
    intro happenings
    induction happenings with
    | nil => exact fun _ same => same
    | cons happening rest ih =>
        exact fun host before => ih _ (before.moved fun leading => leading.happen happening)
  have steadyMeanwhile : Steady (beside (feedPlatform hash))
      (setHost (meanwhile.foldl Host.happen (hostOf loaded)) loaded) :=
    ⟨⟨steady.kept.linked, steady.kept.subscribed, steady.kept.indexed⟩, steady.valid,
      steady.distinct⟩
  obtain ⟨steadyReady, mirrored⟩ := setup_dstore_mirrored yang steadyMeanwhile done
  obtain ⟨session, _, rfl⟩ := setup_dstore_ok done
  exact ⟨steadyReady, mirrored, stepMeanwhile meanwhile (hostOf loaded) stepLoaded⟩

/-- From the load of the store on, however the links change, the leaf of an interface of which
nothing is queued names the operational state of its link; once everything queued is
dispatched, which succeeds where it can be named, every leaf does. -/
theorem leaves_catch_up (yang : Yang datastore) {objects : Objects} {kernel : Host × Session}
    (opened : nlifdOpen (beside (feedPlatform hash)) objects kernel = .ok (0, loaded))
    {meanwhile : List Happening}
    (done : nlifdIfaceSetupOperDstore datastore
      (setHost (meanwhile.foldl Host.happen (hostOf loaded)) loaded) = .ok (.ok, ready))
    {log : List (FeedOp × Int)}
    (run : Run ((feedMachine datastore hash).given ServesListed) ready log world) :
    (∀ hndl ∈ world.store.ifaces,
      Untold (hostOf world).pending (world.objects hndl.iface).idx → LeafShows world hndl) ∧
    (BatchListed world (hostOf world).pending →
      ∃ next, (feedMachine datastore hash).step (.serve (hostOf world).pending.length) world =
          .ok (0, next) ∧
        (hostOf next).links = (hostOf world).links ∧
        ∀ hndl ∈ next.store.ifaces, LeafShows next hndl) := by
  have relayed : Relayed hash [] world := by
    refine run_invariant (Relayed hash []) (setup_relayed yang opened meanwhile done) ?_ run
    intro state op ret next before admitted stepped
    cases op with
    | serve count =>
        obtain ⟨after, dispatched, reached, _⟩ := serve_relayed yang before count admitted.2
        cases dispatched.symm.trans stepped
        exact reached
    | happen happening =>
        cases stepped
        obtain ⟨steady, mirrored, inStep⟩ := before
        exact ⟨⟨⟨steady.kept.linked, steady.kept.subscribed, steady.kept.indexed⟩, steady.valid,
          steady.distinct⟩, ⟨mirrored.applied, mirrored.listed, mirrored.follows⟩,
          inStep.moved fun leading => leading.happen happening⟩
  refine ⟨fun hndl member untold => relayed.shows member untold, fun listed => ?_⟩
  rw [← List.take_length (l := (hostOf world).pending)] at listed
  obtain ⟨next, dispatched, reached, host⟩ := serve_relayed yang relayed _ listed
  have drained : (hostOf next).pending = [] := by
    rw [host]
    exact List.drop_length
  refine ⟨next, dispatched, by rw [host]; rfl, fun hndl member => ?_⟩
  apply reached.shows member
  rw [drained]
  exact fun notification listed => nomatch listed

end Runs

def runningOnce : Except Fault ((Int × SrError × Int) × CodeWorld (Host × Session) ×
    CodeWorld (Host × Session) × CodeWorld (Host × Session)) := do
  let (first, loaded) ← nlifdOpen (beside (feedPlatform djb2Hashing))
    (fun _ => ifaceFill LibraryRun.oneLink) (oneLinkHost, freshSession)
  let (second, ready) ← nlifdIfaceSetupOperDstore yangDatastore
    (setHost ((hostOf loaded).happen (.changes runningLink)) loaded)
  let (third, world) ← (feedMachine yangDatastore djb2Hashing).step (.serve 1) ready
  .ok ((first, second, third), loaded, ready, world)

def queueListed (world : CodeWorld (Host × Session)) : Bool :=
  (hostOf world).pending.all fun notification => Listed (notification.link.operstate.getD 0)

theorem running_leaf_caught_up :
    ∃ loaded ready world, nlifdOpen (beside (feedPlatform djb2Hashing))
        (fun _ => ifaceFill LibraryRun.oneLink) (oneLinkHost, freshSession) = .ok (0, loaded) ∧
      nlifdIfaceSetupOperDstore yangDatastore
        (setHost ((hostOf loaded).happen (.changes runningLink)) loaded) = .ok (.ok, ready) ∧
      ready.kernel.2.leaf nameA .operStatus = some (cstring "down") ∧
      Run ((feedMachine yangDatastore djb2Hashing).given ServesListed) ready [(.serve 1, 0)] world ∧
      LeafShows world ⟨1, 0⟩ ∧
      world.kernel.2.leaf nameA .operStatus = some (cstring "up") := by
  have result : (fun done => (done.1, queueListed done.2.2.1)) <$> runningOnce =
      .ok ((0, .ok, 0), true) := by
    decide +kernel
  have queue : (fun done => ((hostOf done.2.2.2).pending.length, done.2.2.2.store.ifaces)) <$>
      runningOnce = .ok (0, [⟨1, 0⟩]) := by
    decide +kernel
  have leaves : (fun done => (done.2.2.1.kernel.2.leaf nameA .operStatus,
      done.2.2.2.kernel.2.leaf nameA .operStatus)) <$> runningOnce =
        .ok (some (cstring "down"), some (cstring "up")) := by
    decide +kernel
  obtain ⟨⟨_, loaded, ready, world⟩, done, same⟩ := (map_ok_iff ..).mp result
  obtain ⟨codes, listed⟩ := Prod.mk.inj same
  rw [done] at queue leaves
  obtain ⟨drained, ifaces⟩ := Prod.mk.inj (Except.ok.inj queue)
  obtain ⟨before, after⟩ := Prod.mk.inj (Except.ok.inj leaves)
  obtain ⟨⟨_, _⟩, opened, done⟩ := (bind_ok_iff ..).mp done
  obtain ⟨⟨_, _⟩, setup, done⟩ := (bind_ok_iff ..).mp done
  obtain ⟨⟨_, _⟩, dispatched, done⟩ := (bind_ok_iff ..).mp done
  cases done
  cases codes
  have admitted : ServesListed ready (.serve 1) := by
    intro notification queued _ _ _ _
    have named := List.all_eq_true.mp listed notification (List.mem_of_mem_take queued)
    exact of_decide_eq_true named
  have run : Run ((feedMachine yangDatastore djb2Hashing).given ServesListed) ready
      [(.serve 1, 0)] world := Run.step .start ⟨trivial, admitted⟩ dispatched
  have meanwhile : nlifdIfaceSetupOperDstore yangDatastore
      (setHost ([Happening.changes runningLink].foldl Host.happen (hostOf loaded)) loaded) =
        .ok (.ok, ready) := setup
  have shows := (leaves_catch_up yang_datastore_yang opened meanwhile run).1
  refine ⟨loaded, ready, world, opened, setup, before, run, shows ⟨1, 0⟩ ?_ ?_, after⟩
  · rw [ifaces]
    exact List.mem_singleton_self _
  · rw [List.eq_nil_of_length_eq_zero drained]
    exact fun notification listed => nomatch listed

end Nlif.OperFeed
