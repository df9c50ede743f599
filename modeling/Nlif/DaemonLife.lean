import Mathlib.Data.Finset.Lattice.Lemmas
import Nlif.AdminStatus
import Nlif.ChangeNotif
import Nlif.LoadEnrolment
import Nlif.ObsrvModel
import Nlif.ResourceLedger

/-!
# From the start of the daemon to its end

Transcription of `nlifd_open()`, `nlifd_load()`, `nlifd_poll()`, `nlifd_close()` and
`main()` of `src/nlifd.c`, with what they hold of their environment. The calls of
libsrplug, Sysrepo, libynl and the poller are outside this repository: what they answer
is a parameter.
-/

namespace Nlif.DaemonLife

open LinkModel IfaceModel FaultWalk StoreModel GateModel GateSpec StoreInvariant LibraryRun
  LabelledRun LinkRing ObsrvModel DaemonModel DaemonSpec DaemonRun ConfigSnapshot OperModel
  OperMirror ChangeNotif ResourceLedger
open DaemonModel (SrError)

set_option autoImplicit false

inductive Resource where
  /-- `struct srplug_daemon_conf`. -/
  | conf
  | logger
  /-- What `srplug_daemon_open()` sets up: the connection, its session and the poller. -/
  | connection
  | socket
  | store
  /-- The subscription of `oper_sub` to the store. -/
  | observer
  /-- The registration of the socket with the poller. -/
  | polling
  | context
  | data
  | tree
  /-- The Sysrepo subscriptions `nlifd_change_sub` and `nlifd_oper_sub`. -/
  | changeSub
  | operSub
deriving DecidableEq

/-- What the call that acquires a resource is handed. -/
def needs : Resource → Finset Resource
  | .conf | .logger => ∅
  | .connection | .socket => {.logger}
  | .store => {.socket}
  | .observer | .changeSub | .operSub => {.store, .connection}
  | .polling => {.connection, .socket, .store}
  | .context | .data => {.connection}
  | .tree => {.context}

/-- What outlives the resource. The Sysrepo subscriptions outlive the store they were handed:
they end in `srplug_daemon_close()`. -/
def keeps : Resource → Finset Resource
  | .changeSub | .operSub => {.connection}
  | .store => {.socket, .changeSub, .operSub}
  | resource => needs resource

/-- What the calls of the daemon answer. -/
structure Service where
  /-- `srplug_daemon_cmdln_parse()`. -/
  cmdlnParse : Int
  /-- `srplug_daemon_open()`. -/
  daemonOpen : Int
  /-- `ynl_sock_create()`. -/
  sockCreate : Option YnlError
  /-- `errno` of `setsockopt(NETLINK_ADD_MEMBERSHIP)`. -/
  addMembership : Nat
  /-- `upoll_register_dispatch()`. -/
  registerDispatch : Int
  /-- `srepo_acquire_context()`. -/
  acquireContext : SrError
  /-- `srplug_find_module()`. -/
  findModule : CString → Bool
  /-- `srplug_probe_feature()`. -/
  probeFeature : CString → CString → SrError
  /-- `srepo_dat_load_data()`. -/
  loadData : SrError
  /-- `srplug_daemon_change_subscribe()`. -/
  changeSubscribe : Int
  /-- `srplug_daemon_oper_subscribe()`. -/
  operSubscribe : Int
  /-- `srplug_daemon_poll()`. -/
  poll : Int

section Model

variable {NameBucket IndexBucket Kstate : Type}

/-- `struct nlifd`, with its Sysrepo subscriptions, newest first, what the datastore holds
and the acts so far, oldest first. -/
structure Nlifd (NameBucket IndexBucket Kstate : Type) where
  world : OperWorld NameBucket IndexBucket Kstate
  links : Links Addr
  subscribed : List Resource
  config : List ConfigEntry
  acts : List (Act Resource)

def STORE_NOTIF : Addr := 0

def OPER_SUB : Addr := 1

/-- `stroll_dlist_init()`. -/
def dlistInit (node : Addr) (links : Links Addr) : Links Addr where
  next := Function.update links.next node node
  prev := Function.update links.prev node node

namespace Nlifd

def act (act : Act Resource) (daemon : Nlifd NameBucket IndexBucket Kstate) :
    Nlifd NameBucket IndexBucket Kstate :=
  { daemon with acts := daemon.acts ++ [act] }

def setWorld (world : OperWorld NameBucket IndexBucket Kstate)
    (daemon : Nlifd NameBucket IndexBucket Kstate) : Nlifd NameBucket IndexBucket Kstate :=
  { daemon with world }

end Nlifd

def srplugDaemonOpen (daemon : Nlifd NameBucket IndexBucket Kstate) :
    Nlifd NameBucket IndexBucket Kstate :=
  { daemon.act (.acquire .connection) with subscribed := [] }

/-- `srplug_daemon_close()`, which is assumed to end the subscriptions first. -/
def srplugDaemonClose (daemon : Nlifd NameBucket IndexBucket Kstate) :
    Nlifd NameBucket IndexBucket Kstate :=
  { daemon with
    subscribed := []
    acts := daemon.acts ++ daemon.subscribed.map .release ++ [.release .connection] }

/-- `nlif_gate_init()`. -/
def gateInit (service : Service) (daemon : Nlifd NameBucket IndexBucket Kstate) :
    Int × Nlifd NameBucket IndexBucket Kstate :=
  match service.sockCreate with
  | some error => (ynlErr error, daemon)
  | none =>
      (0, (daemon.act (.acquire .socket)).setWorld
        { daemon.world with gate := { notif := false, member := false } })

/-- `nlif_gate_fini()`. -/
def gateFini (daemon : Nlifd NameBucket IndexBucket Kstate) :
    Nlifd NameBucket IndexBucket Kstate :=
  daemon.act (.release .socket)

/-- `nlif_store_init()`; `nlif_gate_subscribe()` asserts that the gate has no subscriber. -/
def storeInit (daemon : Nlifd NameBucket IndexBucket Kstate) :
    Except Fault (Nlifd NameBucket IndexBucket Kstate) :=
  if daemon.world.gate.notif then .error .unreachable
  else .ok { daemon with
    world := { daemon.world with
      store := storeReinit, gate := { daemon.world.gate with notif := true } }
    links := dlistInit STORE_NOTIF daemon.links
    acts := daemon.acts ++ [.acquire .store] }

/-- `nlif_store_fini()`, which asserts that no subscriber is left. -/
def storeFini (daemon : Nlifd NameBucket IndexBucket Kstate) :
    Except Fault (Nlifd NameBucket IndexBucket Kstate) :=
  if daemon.links.next STORE_NOTIF ≠ STORE_NOTIF then .error .unreachable
  else do
    let objects ← storeRelease daemon.world.store.ifaces daemon.world.objects
    .ok ((daemon.act (.release .store)).setWorld
      { daemon.world with objects, gate := gateUnsubscribe daemon.world.gate })

/-- `nlif_store_subscribe_changes()`, which asserts that the subscriber is on no list. -/
def storeSubscribeChanges (daemon : Nlifd NameBucket IndexBucket Kstate) :
    Except Fault (Nlifd NameBucket IndexBucket Kstate) :=
  if nlifObsrvSubscribed daemon.links OPER_SUB then .error .unreachable
  else .ok { daemon.act (.acquire .observer) with
    links := nlifObsrvSubscribe STORE_NOTIF OPER_SUB daemon.links }

/-- `nlif_store_unsubscribe_changes()`. -/
def storeUnsubscribeChanges (daemon : Nlifd NameBucket IndexBucket Kstate) :
    Nlifd NameBucket IndexBucket Kstate :=
  { daemon.act (.release .observer) with links := nlifObsrvUnsubscribe OPER_SUB daemon.links }

def nlifdEnableNotif (service : Service) (daemon : Nlifd NameBucket IndexBucket Kstate) :
    Except Fault (Int × Nlifd NameBucket IndexBucket Kstate) := do
  -- `nlif_obsrv_setup_subscriber()`
  let daemon ← storeSubscribeChanges { daemon with links := dlistInit OPER_SUB daemon.links }
  let (ret, world) := storeEnableChangeNotif service.addMembership daemon.world
  let daemon := (daemon.act (.use .socket)).setWorld world
  if ret ≠ 0 then .ok (ret, storeUnsubscribeChanges daemon)
  else if service.registerDispatch ≠ 0 then
    .ok (service.registerDispatch,
      storeUnsubscribeChanges (daemon.setWorld (storeDisableChangeNotif daemon.world)))
  else .ok (0, daemon.act (.acquire .polling))

def nlifdDisableNotif (daemon : Nlifd NameBucket IndexBucket Kstate) :
    Nlifd NameBucket IndexBucket Kstate :=
  storeUnsubscribeChanges
    ((daemon.act (.release .polling)).setWorld (storeDisableChangeNotif daemon.world))

/-- What `nlifd_open()` and `nlifd_close()` end with. -/
def finiAll (daemon : Nlifd NameBucket IndexBucket Kstate) :
    Except Fault (Nlifd NameBucket IndexBucket Kstate) := do
  let daemon ← storeFini daemon
  .ok (srplugDaemonClose (gateFini daemon))

def nlifdClose (daemon : Nlifd NameBucket IndexBucket Kstate) :
    Except Fault (Nlifd NameBucket IndexBucket Kstate) :=
  finiAll (nlifdDisableNotif daemon)

variable [DecidableEq NameBucket] [DecidableEq IndexBucket]

/-- `nlifd_open()`, once the gate is open. -/
def openStore (service : Service) (platform : Platform NameBucket IndexBucket Kstate)
    (daemon : Nlifd NameBucket IndexBucket Kstate) :
    Except Fault (Int × Nlifd NameBucket IndexBucket Kstate) := do
  let daemon ← storeInit daemon
  let (err, daemon) ← nlifdEnableNotif service daemon
  if err ≠ 0 then do
    let daemon ← finiAll daemon
    .ok (err, daemon)
  else do
    let (err, world) ← storeLoad (beside platform) daemon.world
    let daemon := (daemon.act (.use .socket)).setWorld world
    if err ≠ 0 then do
      let daemon ← finiAll (nlifdDisableNotif daemon)
      .ok (err, daemon)
    else .ok (0, daemon)

def nlifdOpen (service : Service) (platform : Platform NameBucket IndexBucket Kstate)
    (daemon : Nlifd NameBucket IndexBucket Kstate) :
    Except Fault (Int × Nlifd NameBucket IndexBucket Kstate) :=
  if service.daemonOpen ≠ 0 then .ok (service.daemonOpen, daemon)
  else
    let (err, daemon) := gateInit service (srplugDaemonOpen daemon)
    if err ≠ 0 then .ok (err, srplugDaemonClose daemon)
    else openStore service platform daemon

/-- `nlifd_iface_dstore_empty()`. -/
def nlifdIfaceDstoreEmpty (service : Service) (daemon : Nlifd NameBucket IndexBucket Kstate) :
    SrError × Bool × Nlifd NameBucket IndexBucket Kstate :=
  match service.loadData with
  | .ok => (.ok, false, (daemon.act (.acquire .data)).act (.release .data))
  | .notFound => (.ok, true, daemon.act (.use .connection))
  | ret => (ret, false, daemon.act (.use .connection))

/-- `nlifd_iface_reset_config_dstore()`. The tree is spent once it was handed to
`srepo_replace_config()`, whatever that returns. -/
def nlifdIfaceResetConfigDstore (tree : ConfigTree)
    (daemon : Nlifd NameBucket IndexBucket Kstate) :
    Except Fault (SrError × Nlifd NameBucket IndexBucket Kstate) :=
  if tree.createContainer ≠ .ok then .ok (tree.createContainer, daemon.act (.use .context))
  else do
    let daemon := daemon.act (.acquire .tree)
    let built ← newEntries tree daemon.world.objects daemon.world.store.ifaces
    match built with
    | .error err => .ok (err, daemon.act (.release .tree))
    | .ok entries =>
        let daemon := daemon.act (.release .tree)
        let err := tree.replaceConfig entries
        -- the tree is freed again
        if err ≠ .ok then .ok (err, daemon.act (.release .tree))
        else .ok (.ok, { daemon with config := entries })

/-- The modules and features are those `nlifd_load()` looks for. -/
def probed (service : Service) : Bool :=
  service.findModule (cstring "iana-if-type") &&
    service.probeFeature (cstring "ietf-interfaces") (cstring "arbitrary-names") = .ok &&
    service.probeFeature (cstring "ietf-interfaces") (cstring "pre-provisioning") = .ok &&
    service.probeFeature (cstring "ietf-interfaces") (cstring "if-mib") = .ok &&
    service.findModule (cstring "netlink-interfaces")

/-- `srplug_daemon_change_subscribe()` and `srplug_daemon_oper_subscribe()`, by what they
answer. -/
def srplugSubscribe (sub : Resource) (answer : Int)
    (daemon : Nlifd NameBucket IndexBucket Kstate) : Nlifd NameBucket IndexBucket Kstate :=
  { daemon with
    subscribed := if answer ≠ 0 then daemon.subscribed else sub :: daemon.subscribed
    acts := daemon.acts ++ [if answer ≠ 0 then .use .connection else .acquire sub] }

/-- The subscriptions of `nlifd_load()`, with the set-up in between. -/
def subscribeLoaded (service : Service) (datastore : Datastore)
    (daemon : Nlifd NameBucket IndexBucket Kstate) :
    Except Fault (SrError × Nlifd NameBucket IndexBucket Kstate) :=
  let daemon := srplugSubscribe .changeSub service.changeSubscribe daemon
  if service.changeSubscribe ≠ 0 then .ok (.sys, daemon)
  else do
    let (ret, world) ← nlifdIfaceSetupOperDstore datastore daemon.world
    let daemon := (daemon.act (.use .connection)).setWorld world
    if ret ≠ .ok then .ok (ret, daemon)
    else
      let daemon := srplugSubscribe .operSub service.operSubscribe daemon
      .ok (if service.operSubscribe ≠ 0 then .sys else .ok, daemon)

/-- `nlifd_load()`, while it holds the context. -/
def loadInContext (service : Service) (tree : ConfigTree) (datastore : Datastore)
    (daemon : Nlifd NameBucket IndexBucket Kstate) :
    Except Fault (SrError × Nlifd NameBucket IndexBucket Kstate) :=
  let daemon := daemon.act (.use .context)
  if !probed service then .ok (.notFound, daemon)
  else
    let (ret, empty, daemon) := nlifdIfaceDstoreEmpty service daemon
    if ret ≠ .ok then .ok (ret, daemon)
    else do
      let (ret, daemon) ←
        if empty then nlifdIfaceResetConfigDstore tree daemon else .ok (.ok, daemon)
      if ret ≠ .ok then .ok (ret, daemon) else subscribeLoaded service datastore daemon

def nlifdLoad (service : Service) (tree : ConfigTree) (datastore : Datastore)
    (daemon : Nlifd NameBucket IndexBucket Kstate) :
    Except Fault (Int × Nlifd NameBucket IndexBucket Kstate) :=
  if service.acquireContext ≠ .ok then .ok (-EPERM, daemon.act (.use .connection))
  else do
    let (ret, daemon) ← loadInContext service tree datastore (daemon.act (.acquire .context))
    .ok (if ret = .ok then 0 else -EPERM, daemon.act (.release .context))

/-- The events the daemon takes, with its session. -/
def servingMachine (sysrepo : Sysrepo) (datastore : Datastore)
    (platform : Platform NameBucket IndexBucket Kstate) :
    Machine (OperWorld NameBucket IndexBucket Kstate) DaemonOp DaemonRet Fault where
  admits _ _ := True
  step op world :=
    match op with
    | .change event changes =>
        (fun done => (.sr done.1, done.2)) <$>
          nlifdOnIfaceChange sysrepo (beside platform) event changes world
    | .notify notifications =>
        (fun done => (.code done.1, done.2)) <$>
          OperModel.nlifdDispatchNotif datastore platform notifications world

def serve (sysrepo : Sysrepo) (datastore : Datastore)
    (platform : Platform NameBucket IndexBucket Kstate) :
    List DaemonOp → Nlifd NameBucket IndexBucket Kstate →
      Except Fault (Nlifd NameBucket IndexBucket Kstate)
  | [], daemon => .ok daemon
  | op :: rest, daemon => do
      let (_, world) ← (servingMachine sysrepo datastore platform).step op daemon.world
      serve sysrepo datastore platform rest
        (((daemon.act (.use .polling)).act (.use .connection)).setWorld world)

def ESHUTDOWN : Int := 108

def nlifdPoll (service : Service) : Int := if service.poll = -ESHUTDOWN then 0 else service.poll

def pollLoaded (service : Service) (sysrepo : Sysrepo) (datastore : Datastore)
    (platform : Platform NameBucket IndexBucket Kstate) (events : List DaemonOp) (ret : Int)
    (daemon : Nlifd NameBucket IndexBucket Kstate) :
    Except Fault (Int × Nlifd NameBucket IndexBucket Kstate) :=
  if ret ≠ 0 then .ok (ret, daemon)
  else (fun served => (nlifdPoll service, served)) <$>
    serve sysrepo datastore platform events daemon

inductive Exit where
  | success
  | failure
  | usage
deriving DecidableEq

/-- `main()`, once the command line is parsed. -/
def run (service : Service) (tree : ConfigTree) (sysrepo : Sysrepo) (datastore : Datastore)
    (platform : Platform NameBucket IndexBucket Kstate) (events : List DaemonOp)
    (daemon : Nlifd NameBucket IndexBucket Kstate) :
    Except Fault (Exit × Nlifd NameBucket IndexBucket Kstate) := do
  let (ret, daemon) ← nlifdOpen service platform daemon
  if ret ≠ 0 then .ok (.failure, daemon.act (.release .logger))
  else do
    let (ret, daemon) ← nlifdLoad service tree datastore daemon
    let (ret, daemon) ← pollLoaded service sysrepo datastore platform events ret daemon
    let daemon ← nlifdClose daemon
    .ok (if ret = 0 then .success else .failure, daemon.act (.release .logger))

/-- `main()`, with `nlifd_setup()`. -/
def main (service : Service) (tree : ConfigTree) (sysrepo : Sysrepo) (datastore : Datastore)
    (platform : Platform NameBucket IndexBucket Kstate) (events : List DaemonOp)
    (daemon : Nlifd NameBucket IndexBucket Kstate) :
    Except Fault (Exit × Nlifd NameBucket IndexBucket Kstate) :=
  let daemon := (daemon.act (.acquire .conf)).act (.use .conf)
  if service.cmdlnParse = 0 then
    run service tree sysrepo datastore platform events
      ((daemon.act (.acquire .logger)).act (.release .conf))
  else if service.cmdlnParse = 1 then .ok (.success, daemon.act (.release .conf))
  else .ok (.usage, daemon.act (.release .conf))

end Model

variable {NameBucket IndexBucket Kstate : Type}

section Books

variable {before middle after : Nlifd NameBucket IndexBucket Kstate}
  {held between now : Finset Resource}

/-- The acts in between lead from holding one set to holding the other. -/
def Books (before after : Nlifd NameBucket IndexBucket Kstate) (held now : Finset Resource) :
    Prop :=
  ∃ more, after.acts = before.acts ++ more ∧ ledger needs keeps more held = some now

theorem books_same (same : after.acts = before.acts) (held : Finset Resource) :
    Books before after held held :=
  ⟨[], by rw [same, List.append_nil], rfl⟩

theorem books_acts (acts : List (Act Resource)) (same : after.acts = before.acts ++ acts)
    (kept : ledger needs keeps acts held = some now) : Books before after held now :=
  ⟨acts, same, kept⟩

theorem Books.trans (first : Books before middle held between)
    (second : Books middle after between now) : Books before after held now := by
  obtain ⟨front, same, kept⟩ := first
  obtain ⟨rest, next, onward⟩ := second
  refine ⟨front ++ rest, ?_, ledger_trans kept onward⟩
  rw [next, same, List.append_assoc]

/-- As the books, but for a release of the tree that is not held. -/
def Stray (before after : Nlifd NameBucket IndexBucket Kstate) (held now : Finset Resource) :
    Prop :=
  ∃ front rest between, after.acts = before.acts ++ front ++ .release .tree :: rest ∧
    ledger needs keeps front held = some between ∧ .tree ∉ between ∧
    ledger needs keeps rest between = some now

theorem Books.stray (first : Books before middle held between)
    (second : Stray middle after between now) : Stray before after held now := by
  obtain ⟨opening, same, kept⟩ := first
  obtain ⟨front, rest, at_, next, onward, gone, later⟩ := second
  refine ⟨opening ++ front, rest, at_, ?_, ledger_trans kept onward, gone, later⟩
  rw [next, same, List.append_assoc before.acts]

theorem Stray.books (first : Stray before middle held between)
    (second : Books middle after between now) : Stray before after held now := by
  obtain ⟨front, rest, at_, same, kept, gone, onward⟩ := first
  obtain ⟨closing, next, later⟩ := second
  refine ⟨front, rest ++ closing, at_, ?_, kept, gone, ledger_trans onward later⟩
  rw [next, same, List.append_assoc _ _ closing, List.cons_append]

theorem Stray.counts (stray : Stray before after ∅ ∅) (blank : before.acts = [])
    (resource : Resource) : after.acts.count (.release resource) =
      after.acts.count (.acquire resource) + if resource = .tree then 1 else 0 := by
  obtain ⟨front, rest, between, same, kept, gone, onward⟩ := stray
  have first := ledger_counts kept resource
  have second := ledger_counts onward resource
  have tree : Act.release Resource.tree = .release resource ↔ resource = .tree := by
    rw [Act.release.injEq, eq_comm]
  simp only [holding, Finset.notMem_empty, if_false] at first second
  rw [same, blank, List.nil_append, List.count_append, List.count_append, count_cons, count_cons]
  simp only [reduceCtorEq, if_false, tree]
  omega

theorem Stray.unbalanced (stray : Stray before after ∅ ∅) (blank : before.acts = []) :
    ¬ Balanced needs keeps after.acts := by
  intro balanced
  have counts := stray.counts blank .tree
  rw [balanced.returned, if_pos rfl] at counts
  omega

end Books

def storing : Finset Resource := {.logger, .connection, .socket, .store}

def running : Finset Resource := {.logger, .connection, .socket, .store, .observer, .polling}

def subscriptions : List (List Resource) := [[], [.changeSub], [.operSub, .changeSub]]

def Subscribing (before after : Nlifd NameBucket IndexBucket Kstate) (held : Finset Resource) :
    Prop :=
  after.subscribed ∈ subscriptions ∧
    Books before after held (after.subscribed.toFinset ∪ held)

section Subscribing

variable {before middle after : Nlifd NameBucket IndexBucket Kstate} {held : Finset Resource}

theorem subscribing_acts (subs : List Resource) (left : after.subscribed = subs)
    (listed : subs ∈ subscriptions) (acts : List (Act Resource))
    (same : after.acts = before.acts ++ acts)
    (kept : ledger needs keeps acts held = some (subs.toFinset ∪ held)) :
    Subscribing before after held := by
  subst left
  exact ⟨listed, acts, same, kept⟩

theorem subscribing_none (left : after.subscribed = []) (books : Books before after held held) :
    Subscribing before after held := by
  rw [Subscribing, left, List.toFinset_nil, Finset.empty_union]
  exact ⟨by decide, books⟩

theorem Books.subscribing (first : Books before middle held held)
    (second : Subscribing middle after held) : Subscribing before after held :=
  ⟨second.1, first.trans second.2⟩

end Subscribing

section Holding

variable {service : Service} {tree : ConfigTree} {sysrepo : Sysrepo} {datastore : Datastore}
  {daemon next : Nlifd NameBucket IndexBucket Kstate} {ret : Int}

theorem fini_all_cases (done : finiAll daemon = .ok next) : ∃ objects,
    storeRelease daemon.world.store.ifaces daemon.world.objects = .ok objects ∧ next = {
      daemon with
      world := { daemon.world with objects, gate := gateUnsubscribe daemon.world.gate }
      subscribed := []
      acts := daemon.acts ++ ([.release .store, .release .socket] ++
        daemon.subscribed.map .release ++ [.release .connection]) } := by
  obtain ⟨finished, fini, same⟩ := (bind_ok_iff ..).mp done
  cases same
  unfold storeFini at fini
  split at fini
  · cases fini
  · obtain ⟨objects, releases, same⟩ := (bind_ok_iff ..).mp fini
    cases same
    refine ⟨objects, releases, ?_⟩
    simp [gateFini, srplugDaemonClose, Nlifd.act, Nlifd.setWorld]

theorem fini_all_books (listed : daemon.subscribed ∈ subscriptions)
    (done : finiAll daemon = .ok next) :
    Books daemon next (daemon.subscribed.toFinset ∪ storing) {.logger} := by
  obtain ⟨_, _, rfl⟩ := fini_all_cases done
  have kept : ∀ subs ∈ subscriptions, ledger needs keeps ([.release .store, .release .socket] ++
      subs.map .release ++ [.release .connection]) (subs.toFinset ∪ storing) = some {.logger} := by
    decide
  exact books_acts _ rfl (kept _ listed)

theorem disable_books (listed : daemon.subscribed ∈ subscriptions) :
    Books daemon (nlifdDisableNotif daemon) (daemon.subscribed.toFinset ∪ running)
      (daemon.subscribed.toFinset ∪ storing) := by
  have kept : ∀ subs ∈ subscriptions, ledger needs keeps [.release .polling, .release .observer]
      (subs.toFinset ∪ running) = some (subs.toFinset ∪ storing) := by
    decide
  refine books_acts [.release .polling, .release .observer] ?_ (kept _ listed)
  simp [nlifdDisableNotif, storeUnsubscribeChanges, Nlifd.act, Nlifd.setWorld]

theorem close_books (listed : daemon.subscribed ∈ subscriptions)
    (done : nlifdClose daemon = .ok next) :
    Books daemon next (daemon.subscribed.toFinset ∪ running) {.logger} :=
  (disable_books listed).trans (fini_all_books listed done)

theorem fini_all_fresh (fresh : daemon.subscribed = []) (done : finiAll daemon = .ok next) :
    Books daemon next storing {.logger} := by
  have books := fini_all_books (by rw [fresh]; decide) done
  rwa [fresh, List.toFinset_nil, Finset.empty_union] at books

theorem close_fresh (fresh : daemon.subscribed = []) (done : nlifdClose daemon = .ok next) :
    Books daemon next running {.logger} := by
  have books := close_books (by rw [fresh]; decide) done
  rwa [fresh, List.toFinset_nil, Finset.empty_union] at books

def subscribedLinks (links : Links Addr) : Links Addr :=
  nlifObsrvSubscribe STORE_NOTIF OPER_SUB (dlistInit OPER_SUB links)

def enabledNotif (daemon : Nlifd NameBucket IndexBucket Kstate) :
    Nlifd NameBucket IndexBucket Kstate where
  world := { daemon.world with gate := { daemon.world.gate with member := true } }
  links := subscribedLinks daemon.links
  subscribed := daemon.subscribed
  config := daemon.config
  acts := daemon.acts ++ [.acquire .observer, .use .socket, .acquire .polling]

def refusedNotif (gate : Gate) (daemon : Nlifd NameBucket IndexBucket Kstate) :
    Nlifd NameBucket IndexBucket Kstate where
  world := { daemon.world with gate }
  links := nlifObsrvUnsubscribe OPER_SUB (subscribedLinks daemon.links)
  subscribed := daemon.subscribed
  config := daemon.config
  acts := daemon.acts ++ [.acquire .observer, .use .socket, .release .observer]

/-- The ways through `nlifd_enable_notif()`. -/
inductive Enabling (daemon : Nlifd NameBucket IndexBucket Kstate) :
    Int → Nlifd NameBucket IndexBucket Kstate → Prop
  | refused {ret : Int} (gate : Gate) (failed : ret ≠ 0) :
      Enabling daemon ret (refusedNotif gate daemon)
  | enabled : Enabling daemon 0 (enabledNotif daemon)

theorem enable_completes (service : Service) (daemon : Nlifd NameBucket IndexBucket Kstate) :
    ∃ ret next, nlifdEnableNotif service daemon = .ok (ret, next) ∧ Enabling daemon ret next := by
  have alone : nlifObsrvSubscribed (dlistInit OPER_SUB daemon.links) OPER_SUB = false := by
    simp [nlifObsrvSubscribed, dlistInit]
  unfold nlifdEnableNotif storeSubscribeChanges
  simp only [alone, Bool.false_eq_true, if_false, ok_bind, storeEnableChangeNotif,
    gateEnableChangeNotif, Nlifd.act, Nlifd.setWorld, List.append_assoc, List.cons_append,
    List.nil_append]
  by_cases joined : service.addMembership = 0
  · by_cases registered : service.registerDispatch = 0
    · simp only [joined, registered, ne_eq, not_true_eq_false, if_false]
      exact ⟨_, _, rfl, .enabled⟩
    · simp only [joined, registered, ne_eq, not_true_eq_false, if_false, not_false_eq_true,
        if_true, storeUnsubscribeChanges, Nlifd.act, List.append_assoc, List.cons_append,
        List.nil_append]
      exact ⟨_, _, rfl, .refused _ registered⟩
  · have failed : ¬ -(service.addMembership : Int) = 0 := by omega
    simp only [joined, failed, ne_eq, not_false_eq_true, if_true, storeUnsubscribeChanges,
      Nlifd.act, List.append_assoc, List.cons_append, List.nil_append]
    exact ⟨_, _, rfl, .refused _ failed⟩

theorem enable_cases (done : nlifdEnableNotif service daemon = .ok (ret, next)) :
    Enabling daemon ret next := by
  obtain ⟨_, _, enables, enabling⟩ := enable_completes service daemon
  cases done.symm.trans enables
  exact enabling

theorem store_init_cases (done : storeInit daemon = .ok next) : next = {
    world := { daemon.world with
      store := storeReinit, gate := { daemon.world.gate with notif := true } }
    links := dlistInit STORE_NOTIF daemon.links
    subscribed := daemon.subscribed
    config := daemon.config
    acts := daemon.acts ++ [.acquire .store] } := by
  unfold storeInit at done
  split at done
  · cases done
  · cases done
    rfl

theorem store_init_books (done : storeInit daemon = .ok next) :
    Books daemon next {.logger, .connection, .socket} storing := by
  rw [store_init_cases done]
  exact books_acts [.acquire .store] rfl (by decide)

def loadedStore (inited : Nlifd NameBucket IndexBucket Kstate)
    (world : OperWorld NameBucket IndexBucket Kstate) : Nlifd NameBucket IndexBucket Kstate :=
  ((enabledNotif inited).act (.use .socket)).setWorld world

theorem loaded_store_books (inited : Nlifd NameBucket IndexBucket Kstate)
    (world : OperWorld NameBucket IndexBucket Kstate) :
    Books inited (loadedStore inited world) storing running := by
  refine books_acts [.acquire .observer, .use .socket, .acquire .polling, .use .socket] ?_
    (by decide)
  simp [loadedStore, enabledNotif, Nlifd.act, Nlifd.setWorld]

theorem refused_notif_books (gate : Gate) (inited : Nlifd NameBucket IndexBucket Kstate) :
    Books inited (refusedNotif gate inited) storing storing :=
  books_acts [.acquire .observer, .use .socket, .release .observer] rfl (by decide)

/-- The configuration is built, and refused once the tree is spent. -/
def RefusedOnce (tree : ConfigTree) (world : OperWorld NameBucket IndexBucket Kstate) : Prop :=
  tree.createContainer = .ok ∧ ∃ entries,
    newEntries tree world.objects world.store.ifaces = .ok (.ok entries) ∧
    tree.replaceConfig entries ≠ .ok

def loading : Finset Resource := insert .context running

theorem reset_books {answer : SrError}
    (done : nlifdIfaceResetConfigDstore tree daemon = .ok (answer, next)) :
    (¬ RefusedOnce tree daemon.world ∧ Books daemon next loading loading) ∨
      (answer ≠ .ok ∧ RefusedOnce tree daemon.world ∧ Stray daemon next loading loading) := by
  unfold nlifdIfaceResetConfigDstore at done
  split at done
  · rename_i failed
    cases done
    exact .inl ⟨fun refused => failed refused.1, books_acts [.use .context] rfl (by decide)⟩
  · rename_i created
    obtain ⟨built, entered, done⟩ := (bind_ok_iff ..).mp done
    have entered : newEntries tree daemon.world.objects daemon.world.store.ifaces = .ok built :=
      entered
    cases built with
    | error err =>
        cases done
        refine .inl ⟨?_, books_acts [.acquire .tree, .release .tree] ?_ (by decide)⟩
        · rintro ⟨_, entries, others, _⟩
          cases entered.symm.trans others
        · simp [Nlifd.act]
    | ok entries =>
        simp only at done
        split at done
        · rename_i failed
          cases done
          refine .inr ⟨failed, ⟨not_not.mp created, entries, entered, failed⟩,
            [.acquire .tree, .release .tree], [], loading, ?_, by decide, by decide, rfl⟩
          simp [Nlifd.act]
        · rename_i replaced
          cases done
          refine .inl ⟨?_, books_acts [.acquire .tree, .release .tree] ?_ (by decide)⟩
          · rintro ⟨_, others, same, failed⟩
            cases entered.symm.trans same
            exact replaced failed
          · simp [Nlifd.act]

theorem reset_subscribed {answer : SrError}
    (done : nlifdIfaceResetConfigDstore tree daemon = .ok (answer, next)) :
    next.subscribed = daemon.subscribed := by
  unfold nlifdIfaceResetConfigDstore at done
  split at done
  · cases done
    rfl
  · obtain ⟨built, _, done⟩ := (bind_ok_iff ..).mp done
    cases built with
    | error err =>
        cases done
        rfl
    | ok entries =>
        simp only at done
        split at done
        · cases done
          rfl
        · cases done
          rfl

/-- The load reaches the configuration tree, which is refused once it is spent. -/
def FreesSpentTree (service : Service) (tree : ConfigTree)
    (world : OperWorld NameBucket IndexBucket Kstate) : Prop :=
  service.acquireContext = .ok ∧ probed service = true ∧ service.loadData = .notFound ∧
    RefusedOnce tree world

theorem subscribe_books {answer : SrError} (fresh : daemon.subscribed = [])
    (done : subscribeLoaded service datastore daemon = .ok (answer, next)) :
    Subscribing daemon next loading := by
  unfold subscribeLoaded srplugSubscribe at done
  simp only [fresh] at done
  by_cases refused : service.changeSubscribe ≠ 0
  · simp only [if_pos refused] at done
    cases done
    exact subscribing_acts [] rfl (by decide) [.use .connection] rfl (by decide)
  · simp only [if_neg refused] at done
    obtain ⟨⟨ret, world⟩, _, done⟩ := (bind_ok_iff ..).mp done
    simp only at done
    split at done
    · cases done
      refine subscribing_acts [.changeSub] rfl (by decide)
        [.acquire .changeSub, .use .connection] ?_
        (by decide)
      simp [Nlifd.act, Nlifd.setWorld]
    · by_cases denied : service.operSubscribe ≠ 0
      · simp only [if_pos denied] at done
        cases done
        refine subscribing_acts [.changeSub] rfl (by decide)
          [.acquire .changeSub, .use .connection, .use .connection] ?_ (by decide)
        simp [Nlifd.act, Nlifd.setWorld]
      · simp only [if_neg denied] at done
        cases done
        refine subscribing_acts [.operSub, .changeSub] rfl (by decide)
          [.acquire .changeSub, .use .connection, .acquire .operSub] ?_ (by decide)
        simp [Nlifd.act, Nlifd.setWorld]

def lookedUp (daemon : Nlifd NameBucket IndexBucket Kstate) : Nlifd NameBucket IndexBucket Kstate :=
  (daemon.act (.use .context)).act (.use .connection)

def lookedOver (daemon : Nlifd NameBucket IndexBucket Kstate) :
    Nlifd NameBucket IndexBucket Kstate :=
  ((daemon.act (.use .context)).act (.acquire .data)).act (.release .data)

/-- The ways through `nlifd_load()`, by what it answers and leaves. -/
inductive InContext (service : Service) (tree : ConfigTree) (datastore : Datastore)
    (daemon : Nlifd NameBucket IndexBucket Kstate) :
    SrError → Nlifd NameBucket IndexBucket Kstate → Prop
  | unprobed (missing : probed service = false) :
      InContext service tree datastore daemon .notFound (daemon.act (.use .context))
  | unread (found : probed service = true) (failed : service.loadData ≠ .ok)
      (unread : service.loadData ≠ .notFound) :
      InContext service tree datastore daemon service.loadData (lookedUp daemon)
  | present {answer : SrError} {next : Nlifd NameBucket IndexBucket Kstate}
      (found : probed service = true) (loaded : service.loadData = .ok)
      (subscribes : subscribeLoaded service datastore (lookedOver daemon) = .ok (answer, next)) :
      InContext service tree datastore daemon answer next
  | unwritten {answer : SrError} {next : Nlifd NameBucket IndexBucket Kstate}
      (found : probed service = true) (missing : service.loadData = .notFound)
      (resets : nlifdIfaceResetConfigDstore tree (lookedUp daemon) = .ok (answer, next))
      (failed : answer ≠ .ok) : InContext service tree datastore daemon answer next
  | written {answer : SrError} {reset next : Nlifd NameBucket IndexBucket Kstate}
      (found : probed service = true) (missing : service.loadData = .notFound)
      (resets : nlifdIfaceResetConfigDstore tree (lookedUp daemon) = .ok (.ok, reset))
      (subscribes : subscribeLoaded service datastore reset = .ok (answer, next)) :
      InContext service tree datastore daemon answer next

theorem load_in_context_cases {answer : SrError}
    (done : loadInContext service tree datastore daemon = .ok (answer, next)) :
    InContext service tree datastore daemon answer next := by
  unfold loadInContext at done
  cases found : probed service with
  | false =>
      simp only [found, Bool.not_false, if_true] at done
      cases done
      exact .unprobed found
  | true =>
      simp only [found, Bool.not_true, Bool.false_eq_true, if_false] at done
      by_cases loaded : service.loadData = .ok
      · simp only [nlifdIfaceDstoreEmpty, loaded, ne_eq, not_true_eq_false, if_false,
          Bool.false_eq_true, ok_bind] at done
        exact .present found loaded done
      · by_cases missing : service.loadData = .notFound
        · simp only [nlifdIfaceDstoreEmpty, missing, ne_eq, not_true_eq_false, if_false,
            if_true] at done
          obtain ⟨⟨resetRet, reset⟩, resets, done⟩ := (bind_ok_iff ..).mp done
          simp only at done
          split at done
          · rename_i failed
            cases done
            exact .unwritten found missing resets failed
          · rename_i replaced
            cases not_not.mp replaced
            exact .written found missing resets done
        · have looked : nlifdIfaceDstoreEmpty service (daemon.act (.use .context)) =
              (service.loadData, false, lookedUp daemon) := by
            unfold nlifdIfaceDstoreEmpty
            split
            · rename_i ok
              exact absurd ok loaded
            · rename_i notFound
              exact absurd notFound missing
            · rfl
          simp only [looked, if_pos loaded] at done
          cases done
          exact .unread found loaded missing

theorem in_context_books {answer : SrError} (fresh : daemon.subscribed = [])
    (acquired : service.acquireContext = .ok)
    (done : loadInContext service tree datastore daemon = .ok (answer, next)) :
    (¬ FreesSpentTree service tree daemon.world ∧ Subscribing daemon next loading) ∨
      (answer ≠ .ok ∧ FreesSpentTree service tree daemon.world ∧ next.subscribed = [] ∧
        Stray daemon next loading loading) := by
  have looked : Books daemon (lookedUp daemon) loading loading :=
    books_acts [.use .context, .use .connection] (by simp [lookedUp, Nlifd.act]) (by decide)
  cases load_in_context_cases done with
  | unprobed missing =>
      refine .inl ⟨fun frees => ?_, subscribing_none fresh
        (books_acts [.use .context] rfl (by decide))⟩
      exact Bool.false_ne_true (missing.symm.trans frees.2.1)
  | unread _ _ unread =>
      exact .inl ⟨fun frees => unread frees.2.2.1, subscribing_none fresh looked⟩
  | present _ loaded subscribes =>
      have read : Books daemon (lookedOver daemon) loading loading :=
        books_acts [.use .context, .acquire .data, .release .data]
          (by simp [lookedOver, Nlifd.act]) (by decide)
      have subscribed : Subscribing (lookedOver daemon) next loading :=
        subscribe_books fresh subscribes
      refine .inl ⟨fun frees => ?_, read.subscribing subscribed⟩
      cases loaded.symm.trans frees.2.2.1
  | unwritten found missing resets failed =>
      have left := (reset_subscribed resets).trans fresh
      cases reset_books resets with
      | inl sound =>
          exact .inl ⟨fun frees => sound.1 frees.2.2.2,
            subscribing_none left (looked.trans sound.2)⟩
      | inr freed =>
          exact .inr ⟨failed, ⟨acquired, found, missing, freed.2.1⟩, left, looked.stray freed.2.2⟩
  | written _ _ resets subscribes =>
      cases reset_books resets with
      | inl sound =>
          have subscribed := subscribe_books ((reset_subscribed resets).trans fresh) subscribes
          exact .inl ⟨fun frees => sound.1 frees.2.2.2,
            (looked.trans sound.2).subscribing subscribed⟩
      | inr freed => exact absurd rfl freed.1

theorem load_books (fresh : daemon.subscribed = [])
    (done : nlifdLoad service tree datastore daemon = .ok (ret, next)) :
    (¬ FreesSpentTree service tree daemon.world ∧ Subscribing daemon next running) ∨
      (ret ≠ 0 ∧ FreesSpentTree service tree daemon.world ∧ next.subscribed = [] ∧
        Stray daemon next running running) := by
  unfold nlifdLoad at done
  split at done
  · rename_i failed
    cases done
    exact .inl ⟨fun frees => failed frees.1, subscribing_none fresh
      (books_acts [.use .connection] rfl (by decide))⟩
  · rename_i acquired
    obtain ⟨⟨answer, loaded⟩, loads, done⟩ := (bind_ok_iff ..).mp done
    cases done
    have entered : Books daemon (daemon.act (.acquire .context)) running loading :=
      books_acts [.acquire .context] rfl (by decide)
    have leaves : ∀ subs ∈ subscriptions, ledger needs keeps [.release .context]
        (subs.toFinset ∪ loading) = some (subs.toFinset ∪ running) := by
      decide
    have still : (daemon.act (.acquire .context)).subscribed = [] := fresh
    cases in_context_books still (not_not.mp acquired) loads with
    | inl sound =>
        obtain ⟨sound, listed, books⟩ := sound
        exact .inl ⟨sound, listed, (entered.trans books).trans
          (books_acts [.release .context] rfl (leaves _ listed))⟩
    | inr freed =>
        obtain ⟨failed, frees, left, stray⟩ := freed
        have last : Books loaded (loaded.act (.release .context)) loading running :=
          books_acts [.release .context] rfl (by decide)
        refine .inr ⟨?_, frees, left, (entered.stray stray).books last⟩
        simp [failed, EPERM]

variable [DecidableEq NameBucket] [DecidableEq IndexBucket]
  {platform : Platform NameBucket IndexBucket Kstate}

/-- The ways through `nlifd_open()` once the gate is open. -/
inductive Opening (platform : Platform NameBucket IndexBucket Kstate)
    (daemon : Nlifd NameBucket IndexBucket Kstate) :
    Int → Nlifd NameBucket IndexBucket Kstate → Prop
  | refused {ret : Int} {inited next : Nlifd NameBucket IndexBucket Kstate} (gate : Gate)
      (inits : storeInit daemon = .ok inited) (failed : ret ≠ 0)
      (fini : finiAll (refusedNotif gate inited) = .ok next) : Opening platform daemon ret next
  | unloaded {ret : Int} {inited next : Nlifd NameBucket IndexBucket Kstate}
      {world : OperWorld NameBucket IndexBucket Kstate} (inits : storeInit daemon = .ok inited)
      (failed : ret ≠ 0) (fini : nlifdClose (loadedStore inited world) = .ok next) :
      Opening platform daemon ret next
  | opened {inited : Nlifd NameBucket IndexBucket Kstate}
      {world : OperWorld NameBucket IndexBucket Kstate} (inits : storeInit daemon = .ok inited)
      (loads : storeLoad (beside platform) (enabledNotif inited).world = .ok (0, world)) :
      Opening platform daemon 0 (loadedStore inited world)

theorem open_store_cases (done : openStore service platform daemon = .ok (ret, next)) :
    Opening platform daemon ret next := by
  obtain ⟨inited, inits, done⟩ := (bind_ok_iff ..).mp done
  obtain ⟨⟨enableRet, enabled⟩, enables, done⟩ := (bind_ok_iff ..).mp done
  simp only at done
  cases enable_cases enables with
  | refused gate failed =>
      rw [if_pos failed] at done
      obtain ⟨finished, fini, same⟩ := (bind_ok_iff ..).mp done
      cases same
      exact .refused gate inits failed fini
  | enabled =>
      rw [if_neg (not_not.mpr rfl)] at done
      obtain ⟨⟨loadRet, world⟩, loads, done⟩ := (bind_ok_iff ..).mp done
      simp only at done
      split at done
      · rename_i failed
        obtain ⟨finished, fini, same⟩ := (bind_ok_iff ..).mp done
        cases same
        exact .unloaded inits failed fini
      · rename_i zero
        cases done
        rw [not_not.mp zero] at loads
        exact .opened inits loads

omit [DecidableEq NameBucket] [DecidableEq IndexBucket] in
theorem store_init_subscribed (done : storeInit daemon = .ok next) :
    next.subscribed = daemon.subscribed := by
  rw [store_init_cases done]

theorem open_store_books (fresh : daemon.subscribed = [])
    (done : openStore service platform daemon = .ok (ret, next)) :
    (ret = 0 ∧ next.subscribed = [] ∧ Books daemon next {.logger, .connection, .socket} running) ∨
      (ret ≠ 0 ∧ Books daemon next {.logger, .connection, .socket} {.logger}) := by
  cases open_store_cases done with
  | @refused _ inited _ gate inits failed fini =>
      have opening := (store_init_books inits).trans (refused_notif_books gate _)
      have still : (refusedNotif gate inited).subscribed = [] :=
        (store_init_subscribed inits).trans fresh
      exact .inr ⟨failed, opening.trans (fini_all_fresh still fini)⟩
  | @unloaded _ inited _ world inits failed fini =>
      have opening := (store_init_books inits).trans (loaded_store_books _ world)
      have still : (loadedStore inited world).subscribed = [] :=
        (store_init_subscribed inits).trans fresh
      exact .inr ⟨failed, opening.trans (close_fresh still fini)⟩
  | opened inits =>
      exact .inl ⟨rfl, (store_init_subscribed inits).trans fresh,
        (store_init_books inits).trans (loaded_store_books _ _)⟩

theorem open_books (done : nlifdOpen service platform daemon = .ok (ret, next)) :
    (ret = 0 ∧ next.subscribed = [] ∧ Books daemon next {.logger} running) ∨
      (ret ≠ 0 ∧ Books daemon next {.logger} {.logger}) := by
  unfold nlifdOpen at done
  split at done
  · rename_i failed
    cases done
    exact .inr ⟨failed, books_same rfl _⟩
  · cases created : service.sockCreate with
    | some error =>
        have failed : ynlErr error ≠ 0 := ne_of_lt (ynl_err_negative error)
        simp only [gateInit, created, if_pos failed] at done
        cases done
        refine .inr ⟨failed, books_acts [.acquire .connection, .release .connection] ?_
          (by decide)⟩
        simp [srplugDaemonOpen, srplugDaemonClose, Nlifd.act]
    | none =>
        simp only [gateInit, created, ne_eq, not_true_eq_false, if_false] at done
        have opening : Books daemon (((srplugDaemonOpen daemon).act (.acquire .socket)).setWorld
            { daemon.world with gate := { notif := false, member := false } }) {.logger}
            {.logger, .connection, .socket} := by
          refine books_acts [.acquire .connection, .acquire .socket] ?_ (by decide)
          simp [srplugDaemonOpen, Nlifd.act, Nlifd.setWorld]
        cases open_store_books rfl done with
        | inl accepted => exact .inl ⟨accepted.1, accepted.2.1, opening.trans accepted.2.2⟩
        | inr refused => exact .inr ⟨refused.1, opening.trans refused.2⟩

theorem serve_books {events : List DaemonOp} (listed : daemon.subscribed ∈ subscriptions)
    (done : serve sysrepo datastore platform events daemon = .ok next) :
    next.subscribed = daemon.subscribed ∧
      Books daemon next (daemon.subscribed.toFinset ∪ running)
        (daemon.subscribed.toFinset ∪ running) := by
  have kept : ∀ subs ∈ subscriptions, ledger needs keeps [.use .polling, .use .connection]
      (subs.toFinset ∪ running) = some (subs.toFinset ∪ running) := by
    decide
  induction events generalizing daemon with
  | nil =>
      cases done
      exact ⟨rfl, books_same rfl _⟩
  | cons op rest ih =>
      obtain ⟨⟨_, world⟩, _, done⟩ := (bind_ok_iff ..).mp done
      have still : (((daemon.act (.use .polling)).act (.use .connection)).setWorld world).subscribed
          ∈ subscriptions := listed
      obtain ⟨same, later⟩ := ih still done
      refine ⟨same, Books.trans (books_acts [.use .polling, .use .connection] ?_ (kept _ listed))
        later⟩
      simp [Nlifd.act, Nlifd.setWorld]

theorem poll_loaded_books {events : List DaemonOp} {answer : Int}
    (listed : daemon.subscribed ∈ subscriptions)
    (done : pollLoaded service sysrepo datastore platform events ret daemon =
      .ok (answer, next)) :
    next.subscribed = daemon.subscribed ∧
      Books daemon next (daemon.subscribed.toFinset ∪ running)
        (daemon.subscribed.toFinset ∪ running) ∧ (ret ≠ 0 → answer ≠ 0) := by
  unfold pollLoaded at done
  split at done
  · rename_i failed
    cases done
    exact ⟨rfl, books_same rfl _, fun _ => failed⟩
  · rename_i zero
    obtain ⟨_, served, same⟩ := (map_ok_iff ..).mp done
    cases same
    obtain ⟨same, books⟩ := serve_books listed served
    exact ⟨same, books, fun failed => absurd failed zero⟩

theorem run_books {events : List DaemonOp} {exit : Exit}
    (done : run service tree sysrepo datastore platform events daemon = .ok (exit, next)) :
    ((∀ opened, nlifdOpen service platform daemon = .ok (0, opened) →
        ¬ FreesSpentTree service tree opened.world) ∧ Books daemon next {.logger} ∅) ∨
      ((∃ opened, nlifdOpen service platform daemon = .ok (0, opened) ∧
          FreesSpentTree service tree opened.world) ∧ exit = .failure ∧
        Stray daemon next {.logger} ∅) := by
  obtain ⟨⟨openRet, opened⟩, opens, done⟩ := (bind_ok_iff ..).mp done
  simp only at done
  cases open_books opens with
  | inr refused =>
      obtain ⟨failed, books⟩ := refused
      rw [if_pos failed] at done
      cases done
      refine .inl ⟨?_, books.trans (books_acts [.release .logger] rfl (by decide))⟩
      intro other again
      cases opens.symm.trans again
      exact absurd rfl failed
  | inl accepted =>
      obtain ⟨rfl, fresh, books⟩ := accepted
      rw [if_neg (not_not.mpr rfl)] at done
      obtain ⟨⟨loadRet, loaded⟩, loads, done⟩ := (bind_ok_iff ..).mp done
      obtain ⟨⟨ret, served⟩, serves, done⟩ := (bind_ok_iff ..).mp done
      obtain ⟨closed, closes, same⟩ := (bind_ok_iff ..).mp done
      cases same
      have last : Books closed (closed.act (.release .logger)) {.logger} ∅ :=
        books_acts [.release .logger] rfl (by decide)
      have ending : loaded.subscribed ∈ subscriptions →
          Books loaded (closed.act (.release .logger)) (loaded.subscribed.toFinset ∪ running) ∅ ∧
            (loadRet ≠ 0 → ret ≠ 0) := by
        intro listed
        obtain ⟨same, polled, fails⟩ := poll_loaded_books listed serves
        have closing := close_books (same ▸ listed) closes
        rw [same] at closing
        exact ⟨(polled.trans closing).trans last, fails⟩
      cases load_books fresh loads with
      | inl sound =>
          obtain ⟨sound, listed, loading⟩ := sound
          refine .inl ⟨?_, (books.trans loading).trans (ending listed).1⟩
          intro other again
          cases opens.symm.trans again
          exact sound
      | inr freed =>
          obtain ⟨failed, frees, left, stray⟩ := freed
          obtain ⟨ending, fails⟩ := ending (by rw [left]; decide)
          rw [left, List.toFinset_nil, Finset.empty_union] at ending
          exact .inr ⟨⟨opened, opens, frees⟩, if_neg (fails failed),
            (books.stray stray).books ending⟩

def logging (daemon : Nlifd NameBucket IndexBucket Kstate) : Nlifd NameBucket IndexBucket Kstate :=
  (((daemon.act (.acquire .conf)).act (.use .conf)).act (.acquire .logger)).act (.release .conf)

/-- Whatever is answered and whatever events are handled, a daemon that ends has released
all it acquired once each, never used or handed on what it did not hold, and released the
store before the Sysrepo subscriptions it was handed to, all else after what needs it; but
for the configuration tree, which is freed once more where Sysrepo refuses it, and then
the daemon fails. -/
theorem main_returns_resources {events : List DaemonOp} {exit : Exit} (blank : daemon.acts = [])
    (done : main service tree sysrepo datastore platform events daemon = .ok (exit, next)) :
    (Balanced needs keeps next.acts ↔ ¬ (service.cmdlnParse = 0 ∧ ∃ opened,
        nlifdOpen service platform (logging daemon) = .ok (0, opened) ∧
        FreesSpentTree service tree opened.world)) ∧
      (¬ Balanced needs keeps next.acts → exit = .failure ∧
        ∀ resource, next.acts.count (.release resource) =
          next.acts.count (.acquire resource) + if resource = .tree then 1 else 0) := by
  have opening : Books daemon (logging daemon) ∅ {.logger} := by
    refine books_acts [.acquire .conf, .use .conf, .acquire .logger, .release .conf] ?_
      (by decide)
    simp [logging, Nlifd.act]
  have sound : ∀ {after : Nlifd NameBucket IndexBucket Kstate}, Books daemon after ∅ ∅ →
      Balanced needs keeps after.acts := by
    rintro after ⟨acts, same, kept⟩
    rw [same, blank]
    exact balanced_of_ledger kept
  unfold main at done
  simp only at done
  split at done
  · rename_i parsed
    cases run_books done with
    | inl kept =>
        have balanced := sound (opening.trans kept.2)
        refine ⟨iff_of_true balanced ?_, fun unbalanced => absurd balanced unbalanced⟩
        rintro ⟨_, opened, opens, frees⟩
        exact kept.1 opened opens frees
    | inr freed =>
        obtain ⟨refused, failed, stray⟩ := freed
        have stray := opening.stray stray
        refine ⟨iff_of_false (stray.unbalanced blank) (not_not.mpr ⟨parsed, refused⟩), fun _ => ?_⟩
        exact ⟨failed, stray.counts blank⟩
  · rename_i unparsed
    have balanced : Balanced needs keeps next.acts := by
      apply sound
      have same : next.acts = daemon.acts ++ [.acquire .conf, .use .conf, .release .conf] := by
        split at done
        · cases done
          simp [Nlifd.act]
        · cases done
          simp [Nlifd.act]
      exact books_acts _ same (by decide)
    exact ⟨iff_of_true balanced fun parsed => unparsed parsed.1,
      fun unbalanced => absurd balanced unbalanced⟩

end Holding

def answering : Service where
  cmdlnParse := 0
  daemonOpen := 0
  sockCreate := none
  addMembership := 0
  registerDispatch := 0
  acquireContext := .ok
  findModule _ := true
  probeFeature _ _ := .ok
  loadData := .notFound
  changeSubscribe := 0
  operSubscribe := 0
  poll := -ESHUTDOWN

def refusedTree : ConfigTree := { agreeingTree with replaceConfig := fun _ => .operationFailed }

def memory : Nlifd (Fin (2 ^ NLIF_STORE_NAMEH_BITS)) (Fin (2 ^ NLIF_STORE_INDXH_BITS)) Unit where
  world := LibraryRun.storeInit (fun _ => ifaceFill oneLink) ((), OperSetup.freshSession)
  links := unlinked
  subscribed := []
  config := []
  acts := []

/-- The daemon enables the link "a" and ends; with the refused tree, it frees it twice. -/
theorem one_link_resources :
    (∃ next, main answering agreeingTree agreeingSysrepo AdminStatus.takingDatastore
        oneLinkPlatform [.change .change [enableLink]] memory = .ok (.success, next) ∧
      Balanced needs keeps next.acts ∧ next.acts.count (.release .operSub) = 1) ∧
    ∃ next, main answering refusedTree agreeingSysrepo AdminStatus.takingDatastore
        oneLinkPlatform [] memory = .ok (.failure, next) ∧ ¬ Balanced needs keeps next.acts ∧
      next.acts.count (.release .tree) = next.acts.count (.acquire .tree) + 1 := by
  constructor
  · have ends : (fun done => (done.1, done.2.acts.count (.release .operSub))) <$>
        main answering agreeingTree agreeingSysrepo AdminStatus.takingDatastore oneLinkPlatform
          [.change .change [enableLink]] memory = .ok (.success, 1) := by
      decide +kernel
    obtain ⟨⟨_, next⟩, done, same⟩ := (map_ok_iff ..).mp ends
    obtain ⟨rfl, ended⟩ := Prod.mk.inj same
    refine ⟨next, done, (main_returns_resources rfl done).1.mpr ?_, ended⟩
    rintro ⟨_, _, _, _, _, _, _, _, _, refused⟩
    exact refused rfl
  · have ends : Prod.fst <$> main answering refusedTree agreeingSysrepo
        AdminStatus.takingDatastore oneLinkPlatform [] memory = .ok .failure := by
      decide +kernel
    obtain ⟨⟨_, next⟩, done, rfl⟩ := (map_ok_iff ..).mp ends
    have outcome := main_returns_resources rfl done
    have unbalanced : ¬ Balanced needs keeps next.acts := by
      refine fun balanced => outcome.1.mp balanced ⟨rfl, _, rfl, rfl, rfl, rfl, rfl, [linkEntry],
        rfl, ?_⟩
      decide
    exact ⟨next, done, unbalanced, (outcome.2 unbalanced).2 .tree⟩

end Nlif.DaemonLife
