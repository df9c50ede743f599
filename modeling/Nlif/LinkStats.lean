import Nlif.DaemonClose
import Nlif.LinkText

/-!
# The statistics of an interface

Transcription of `nlifd_on_iface_get_stats()` and `nlifd_iface_get_stats()` of `src/nlifd.c`,
`nlif_iface_load_stats()` and `nlif_gate_load_link_stats()`. Sysrepo hands the list entry of
an interface over between any two other events; the daemon asks the kernel for the counters
of its link and creates six leaves. What the kernel and libyang answer is a parameter.
-/

namespace Nlif.LinkStats

open LinkModel IfaceModel FaultWalk StoreModel GateModel StoreInvariant StoreLookup LibraryRun
  LabelledRun DaemonModel ConfigSnapshot OperModel OperMirror DaemonLife DaemonClose DigitText
  LinkText
open DaemonModel (SrError cstring)
open DaemonRun (DaemonOp DaemonRet agreeingSysrepo enableLink)

set_option autoImplicit false

/-- The counters of `struct rtnl_link_stats64` that are shown. -/
structure LinkStats64 where
  rxBytes : UInt64
  rxDropped : UInt64
  rxErrors : UInt64
  txBytes : UInt64
  txDropped : UInt64
  txErrors : UInt64
deriving DecidableEq

/-- `rt_link_getstats()` with the filter `IFLA_STATS_LINK_64`. -/
abbrev Getstats (Kstate : Type) := UInt32 → Kstate → Except YnlError LinkStats64 × Kstate

inductive StatLeaf where
  /-- `in-octets` -/
  | inOctets
  /-- `in-discards` -/
  | inDiscards
  /-- `in-errors` -/
  | inErrors
  /-- `out-octets` -/
  | outOctets
  /-- `out-discards` -/
  | outDiscards
  /-- `out-errors` -/
  | outErrors
deriving DecidableEq

/-- The leaves in the order of their creation. -/
def statLeaves : List StatLeaf :=
  [.inOctets, .inDiscards, .inErrors, .outOctets, .outDiscards, .outErrors]

def LinkStats64.counter (stats : LinkStats64) : StatLeaf → UInt64
  | .inOctets => stats.rxBytes
  | .inDiscards => stats.rxDropped
  | .inErrors => stats.rxErrors
  | .outOctets => stats.txBytes
  | .outDiscards => stats.txDropped
  | .outErrors => stats.txErrors

def counterStr (counter : UInt64) : CString := cstring (toString counter.toNat)

/-- The list entry: the name among the keys of its path, and the leaves created so far. -/
structure Entry where
  key : Option CString
  leaves : List (StatLeaf × CString)
deriving DecidableEq

structure Tree where
  /-- `srepo_dat_create_leaf_printf()`, beside the leaves there are. -/
  createLeaf : List (StatLeaf × CString) → StatLeaf → CString → SrError

def srepoDatCreateLeafPrintf (tree : Tree) (leaf : StatLeaf) (counter : UInt64) (entry : Entry) :
    SrError × Entry :=
  let text := counterStr counter
  let ret := tree.createLeaf entry.leaves leaf text
  (ret, if ret = .ok then { entry with leaves := entry.leaves ++ [(leaf, text)] } else entry)

/-- The leaves of `nlifd_iface_get_stats()`, until one is refused. -/
def createLeaves (tree : Tree) (stats : LinkStats64) : List StatLeaf → Entry → SrError × Entry
  | [], entry => (.ok, entry)
  | leaf :: rest, entry =>
      let (ret, entry) := srepoDatCreateLeafPrintf tree leaf (stats.counter leaf) entry
      if ret ≠ .ok then (ret, entry) else createLeaves tree stats rest entry

section Request

variable {NameBucket IndexBucket Kstate : Type}

/-- `nlif_gate_load_link_stats()`. Of the assertions on the way only that of the index is kept. -/
def gateLoadLinkStats (getstats : Getstats Kstate) (index : UInt32)
    (world : World NameBucket IndexBucket Kstate) :
    Except Fault (Except Int LinkStats64 × World NameBucket IndexBucket Kstate) :=
  if linkValidateIndex index ≠ 0 then .error .unreachable
  else
    let (answer, kernel) := getstats index world.kernel
    .ok (answer.mapError ynlErr, { world with kernel })

def ifaceLoadStats (getstats : Getstats Kstate) (interface : Addr)
    (world : World NameBucket IndexBucket Kstate) :
    Except Fault (Except Int LinkStats64 × World NameBucket IndexBucket Kstate) :=
  gateLoadLinkStats getstats (world.objects interface).idx world

/-- What `nlifd_iface_from_node()` does with the key in the path of the node. -/
def nlifdIfaceFromKey (platform : Platform NameBucket IndexBucket Kstate) (key : Option CString)
    (world : World NameBucket IndexBucket Kstate) : Option Addr :=
  match key with
  | none => none
  | some name =>
      if linkValidateName name > 0 then
        storeFindIfaceByname platform.hash world.objects world.store name
      else none

def nlifdIfaceGetStats (tree : Tree) (getstats : Getstats Kstate)
    (platform : Platform NameBucket IndexBucket Kstate) (entry : Entry)
    (world : World NameBucket IndexBucket Kstate) :
    Except Fault ((SrError × Entry) × World NameBucket IndexBucket Kstate) :=
  match nlifdIfaceFromKey platform entry.key world with
  | none => .ok ((.notFound, entry), world)
  | some interface => do
      let (outcome, world) ← ifaceLoadStats getstats interface world
      match outcome with
      | .error ret => .ok ((nlifdIfaceError ret, entry), world)
      | .ok stats => .ok (createLeaves tree stats statLeaves entry, world)

/-- The callback of the subscription, which logs what it returns. -/
def nlifdOnIfaceGetStats (tree : Tree) (getstats : Getstats Kstate)
    (platform : Platform NameBucket IndexBucket Kstate) (entry : Entry)
    (world : World NameBucket IndexBucket Kstate) :
    Except Fault ((SrError × Entry) × World NameBucket IndexBucket Kstate) :=
  nlifdIfaceGetStats tree getstats platform entry world

theorem from_node_eq (platform : Platform NameBucket IndexBucket Kstate) (change : LeafChange)
    (world : World NameBucket IndexBucket Kstate) :
    nlifdIfaceFromNode platform change world = nlifdIfaceFromKey platform change.key world :=
  rfl

end Request

section Leaves

variable {tree : Tree} {stats : LinkStats64} {leaves : List StatLeaf} {entry : Entry}

def shown (stats : LinkStats64) (leaves : List StatLeaf) : List (StatLeaf × CString) :=
  leaves.map fun leaf => (leaf, counterStr (stats.counter leaf))

def readCounter (text : CString) : Option UInt64 :=
  (readDecimal (characters text.bytes)).map Nat.toUInt64

theorem counter_str_read (counter : UInt64) : readCounter (counterStr counter) = some counter := by
  rw [readCounter, counterStr, number_characters, read_decimal, Option.map_some]
  exact congrArg some UInt64.ofNat_toNat

/-- Leaves are created up to the first one that is refused, whose refusal is the answer. -/
inductive Created (tree : Tree) (stats : LinkStats64) (entry : Entry) (leaves : List StatLeaf) :
    SrError × Entry → Prop where
  | all : Created tree stats entry leaves
      (.ok, { entry with leaves := entry.leaves ++ shown stats leaves })
  | refused {front rest : List StatLeaf} {leaf : StatLeaf} {ret : SrError}
      (at_ : leaves = front ++ leaf :: rest) (failed : ret ≠ .ok)
      (answered : tree.createLeaf (entry.leaves ++ shown stats front) leaf
        (counterStr (stats.counter leaf)) = ret) :
      Created tree stats entry leaves
        (ret, { entry with leaves := entry.leaves ++ shown stats front })

theorem create_leaves_created (leaves : List StatLeaf) (entry : Entry) :
    Created tree stats entry leaves (createLeaves tree stats leaves entry) := by
  induction leaves generalizing entry with
  | nil =>
      have nothing : { entry with leaves := entry.leaves ++ shown stats [] } = entry := by
        rw [shown, List.map_nil, List.append_nil]
      have created := @Created.all tree stats entry []
      rw [nothing] at created
      exact created
  | cons leaf rest ih =>
      rw [createLeaves, srepoDatCreateLeafPrintf]
      by_cases taken : tree.createLeaf entry.leaves leaf (counterStr (stats.counter leaf)) = .ok
      · have further (more : List StatLeaf) :
            (entry.leaves ++ [(leaf, counterStr (stats.counter leaf))]) ++ shown stats more =
              entry.leaves ++ shown stats (leaf :: more) := by
          rw [List.append_assoc, List.singleton_append, shown, shown, List.map_cons]
        simp only [taken, ne_eq, not_true_eq_false, if_false, if_true]
        generalize made : createLeaves tree stats rest
          { entry with leaves := entry.leaves ++ [(leaf, counterStr (stats.counter leaf))] } = done
        have created := ih { entry with
          leaves := entry.leaves ++ [(leaf, counterStr (stats.counter leaf))] }
        rw [made] at created
        cases created with
        | all =>
            rw [further]
            exact .all
        | @refused front later next ret at_ failed answered =>
            rw [further] at answered ⊢
            exact .refused (congrArg (leaf :: ·) at_) failed answered
      · simp only [taken, ne_eq, not_false_eq_true, if_true, if_false]
        have none_yet : entry.leaves ++ shown stats [] = entry.leaves := List.append_nil _
        have refused := @Created.refused tree stats entry (leaf :: rest) [] rest leaf _ rfl taken
          (by rw [none_yet])
        rw [none_yet] at refused
        exact refused

/-- The bits of the type of a leaf: `ietf-interfaces` counts octets in a `counter64`, and
discards and errors in a `counter32`. -/
def StatLeaf.bits : StatLeaf → Nat
  | .inOctets | .outOctets => 64
  | .inDiscards | .inErrors | .outDiscards | .outErrors => 32

/-- A leaf that is not there yet takes the text of a counter its type holds, and no other. -/
def Typed (tree : Tree) : Prop :=
  ∀ leaves leaf counter, leaf ∉ leaves.map Prod.fst →
    (tree.createLeaf leaves leaf (counterStr counter) = .ok ↔ counter.toNat < 2 ^ leaf.bits)

def fits (stats : LinkStats64) (leaf : StatLeaf) : Bool :=
  (stats.counter leaf).toNat < 2 ^ leaf.bits

theorem create_leaves_typed (typed : Typed tree) (distinct : leaves.Nodup)
    (absent : ∀ leaf ∈ leaves, leaf ∉ entry.leaves.map Prod.fst) :
    (createLeaves tree stats leaves entry).2.leaves =
        entry.leaves ++ shown stats (leaves.takeWhile (fits stats)) ∧
      ((createLeaves tree stats leaves entry).1 = .ok ↔
        ∀ leaf ∈ leaves, fits stats leaf = true) := by
  induction leaves generalizing entry with
  | nil =>
      constructor
      · rw [createLeaves, List.takeWhile_nil, shown, List.map_nil, List.append_nil]
      · exact iff_of_true rfl fun _ member => nomatch member
  | cons leaf rest ih =>
      have taken := typed entry.leaves leaf (stats.counter leaf)
        (absent leaf (List.mem_cons_self ..))
      rw [createLeaves, srepoDatCreateLeafPrintf]
      cases fit : fits stats leaf with
      | true =>
          have accepted := taken.mpr (of_decide_eq_true fit)
          obtain ⟨apart, others⟩ := List.nodup_cons.mp distinct
          simp only [accepted, ne_eq, not_true_eq_false, if_false, if_true]
          obtain ⟨made, answer⟩ := @ih { entry with
            leaves := entry.leaves ++ [(leaf, counterStr (stats.counter leaf))] } others (by
              intro other later
              rw [List.map_append, List.mem_append, List.map_singleton, List.mem_singleton]
              rintro (before | same)
              · exact absent other (List.mem_cons_of_mem leaf later) before
              · have same : other = leaf := same
                exact apart (same ▸ later))
          constructor
          · rw [made, List.takeWhile_cons_of_pos fit, List.append_assoc]
            rfl
          · rw [answer, List.forall_mem_cons, fit]
            exact (and_iff_right rfl).symm
      | false =>
          have refused : tree.createLeaf entry.leaves leaf (counterStr (stats.counter leaf)) ≠
              .ok :=
            fun accepted => of_decide_eq_false fit (taken.mp accepted)
          simp only [refused, ne_eq, not_false_eq_true, if_true, if_false]
          constructor
          · rw [List.takeWhile_cons_of_neg (by rw [fit]; exact Bool.false_ne_true), shown,
              List.map_nil, List.append_nil]
          · refine iff_of_false id fun all => ?_
            rw [all leaf (List.mem_cons_self ..)] at fit
            cases fit

theorem fits_all_iff (stats : LinkStats64) :
    (∀ leaf ∈ statLeaves, fits stats leaf = true) ↔
      stats.rxDropped.toNat < 2 ^ 32 ∧ stats.rxErrors.toNat < 2 ^ 32 ∧
        stats.txDropped.toNat < 2 ^ 32 ∧ stats.txErrors.toNat < 2 ^ 32 := by
  have received := stats.rxBytes.toNat_lt
  have sent := stats.txBytes.toNat_lt
  have fits_iff (leaf : StatLeaf) :
      fits stats leaf = true ↔ (stats.counter leaf).toNat < 2 ^ leaf.bits := decide_eq_true_iff
  simp [statLeaves, fits_iff, LinkStats64.counter, StatLeaf.bits, received, sent]

end Leaves

section Runs

variable {NameBucket IndexBucket Kstate : Type}

def statsBeside (getstats : Getstats Kstate) : Getstats (Kstate × Session) := fun index state =>
  ((getstats index state.1).1, (getstats index state.1).2, state.2)

inductive ServeOp where
  | event (op : DaemonOp)
  | getStats (entry : Entry)

inductive ServeRet where
  | event (ret : DaemonRet)
  | stats (answer : SrError × Entry)

def asked (getstats : Getstats Kstate) (index : UInt32)
    (world : OperWorld NameBucket IndexBucket Kstate) :
    OperWorld NameBucket IndexBucket Kstate :=
  { world with kernel := ((getstats index world.kernel.1).2, world.kernel.2) }

/-- A request is answered for an enrolled interface of the requested name with the counters
the kernel has for its index, or where there is none; nothing but the kernel sees it. -/
inductive Reply (tree : Tree) (getstats : Getstats Kstate) (entry : Entry)
    (world : OperWorld NameBucket IndexBucket Kstate) :
    SrError × Entry → OperWorld NameBucket IndexBucket Kstate → Prop where
  | unknown
      (nobody : Quiet world.trace → ∀ hndl ∈ world.store.ifaces,
        Settled (world.objects hndl.iface) → entry.key ≠ some (world.objects hndl.iface).name) :
      Reply tree getstats entry world (.notFound, entry) world
  | unanswered {hndl : Hndl} {error : YnlError} (enrolled : hndl ∈ world.store.ifaces)
      (named : entry.key = some (world.objects hndl.iface).name)
      (answered : (getstats (world.objects hndl.iface).idx world.kernel.1).1 = .error error) :
      Reply tree getstats entry world (nlifdIfaceError (ynlErr error), entry)
        (asked getstats (world.objects hndl.iface).idx world)
  | filled {hndl : Hndl} {stats : LinkStats64} {answer : SrError × Entry}
      (enrolled : hndl ∈ world.store.ifaces)
      (named : entry.key = some (world.objects hndl.iface).name)
      (answered : (getstats (world.objects hndl.iface).idx world.kernel.1).1 = .ok stats)
      (created : Created tree stats entry statLeaves answer) :
      Reply tree getstats entry world answer
        (asked getstats (world.objects hndl.iface).idx world)

variable [DecidableEq NameBucket] [DecidableEq IndexBucket]

def statsMachine (sysrepo : Sysrepo) (datastore : Datastore) (tree : Tree)
    (getstats : Getstats Kstate) (platform : Platform NameBucket IndexBucket Kstate) :
    Machine (OperWorld NameBucket IndexBucket Kstate) ServeOp ServeRet Fault where
  admits _ _ := True
  step op world :=
    match op with
    | .event op =>
        (fun done => (.event done.1, done.2)) <$>
          (servingMachine sysrepo datastore platform).step op world
    | .getStats entry =>
        (fun done => (.stats done.1, done.2)) <$>
          nlifdOnIfaceGetStats tree (statsBeside getstats) (beside platform) entry world

variable {sysrepo : Sysrepo} {datastore : Datastore} {tree : Tree} {getstats : Getstats Kstate}
  {platform : Platform NameBucket IndexBucket Kstate} {entry : Entry}
  {world next : OperWorld NameBucket IndexBucket Kstate}

omit [DecidableEq NameBucket] [DecidableEq IndexBucket] in
theorem from_key_some {key : Option CString} {interface : Addr}
    (found : nlifdIfaceFromKey (beside platform) key world = some interface) :
    ∃ name, key = some name ∧
      storeFindIfaceByname platform.hash world.objects world.store name = some interface := by
  let change : LeafChange := ⟨.type (cstring ""), key, .created, none⟩
  exact DaemonSpec.from_node_some ((from_node_eq (beside platform) change world).trans found)

omit [DecidableEq NameBucket] [DecidableEq IndexBucket] in
theorem from_key_none (kept : Kept (beside platform) world)
    (missed : nlifdIfaceFromKey (beside platform) entry.key world = none)
    (quiet : Quiet world.trace) {hndl : Hndl} (enrolled : hndl ∈ world.store.ifaces)
    (settled : Settled (world.objects hndl.iface)) :
    entry.key ≠ some (world.objects hndl.iface).name := by
  intro named
  obtain ⟨other, _, found, _⟩ :=
    find_byname_settled kept.linked (kept.indexed quiet) enrolled settled
  have valid := (kept.linked.sound hndl enrolled).name
  rw [named, nlifdIfaceFromKey] at missed
  simp only [if_pos valid] at missed
  rw [missed] at found
  cases found

omit [DecidableEq NameBucket] [DecidableEq IndexBucket] in
theorem get_stats_replies (kept : Kept (beside platform) world) :
    ∃ answer next, nlifdOnIfaceGetStats tree (statsBeside getstats) (beside platform) entry world =
      .ok (answer, next) ∧ Reply tree getstats entry world answer next := by
  unfold nlifdOnIfaceGetStats nlifdIfaceGetStats
  cases looked : nlifdIfaceFromKey (beside platform) entry.key world with
  | none =>
      refine ⟨_, _, rfl, .unknown fun quiet hndl enrolled settled => ?_⟩
      exact from_key_none kept looked quiet enrolled settled
  | some interface =>
      obtain ⟨name, named, found⟩ := from_key_some looked
      obtain ⟨hndl, enrolled, rfl, same⟩ := find_byname_some kept.linked found
      have valid := (kept.linked.sound hndl enrolled).idx
      rw [← same] at named
      simp only [ifaceLoadStats, gateLoadLinkStats, valid, ne_eq, not_true_eq_false, if_false,
        statsBeside, ok_bind]
      cases answered : (getstats (world.objects hndl.iface).idx world.kernel.1).1 with
      | error error => exact ⟨_, _, rfl, .unanswered enrolled named answered⟩
      | ok stats =>
          have created := @create_leaves_created tree stats statLeaves entry
          exact ⟨_, _, rfl, .filled enrolled named answered created⟩

omit [DecidableEq NameBucket] [DecidableEq IndexBucket] in
theorem Reply.kept {answer : SrError × Entry} (reply : Reply tree getstats entry world answer next)
    (kept : Kept (beside platform) world) : Kept (beside platform) next := by
  cases reply with
  | unknown => exact kept
  | unanswered | filled => exact ⟨kept.linked, kept.subscribed, kept.indexed⟩

theorem stats_run_kept (reports : KernelReports platform.kernel)
    {start : OperWorld NameBucket IndexBucket Kstate} {log : List (ServeOp × ServeRet)}
    (kept : Kept (beside platform) start)
    (run : Run (statsMachine sysrepo datastore tree getstats platform) start log world) :
    Kept (beside platform) world := by
  refine run_invariant (Kept (beside platform)) kept ?_ run
  intro state op ret after kept _ stepped
  cases op with
  | event op =>
      obtain ⟨⟨answer, reached⟩, steps, same⟩ := (map_ok_iff ..).mp stepped
      cases same
      exact serving_step_kept reports kept steps
  | getStats entry =>
      obtain ⟨⟨answer, reached⟩, gets, same⟩ := (map_ok_iff ..).mp stepped
      cases same
      obtain ⟨_, _, got, reply⟩ := @get_stats_replies _ _ _ tree getstats platform entry _ kept
      cases got.symm.trans gets
      exact reply.kept kept

omit [DecidableEq NameBucket] [DecidableEq IndexBucket] in
theorem Reply.succeeds {answer : SrError × Entry}
    (reply : Reply tree getstats entry world answer next) (succeeded : answer.1 = .ok) :
    ∃ hndl ∈ world.store.ifaces, entry.key = some (world.objects hndl.iface).name ∧
      ∃ stats, (getstats (world.objects hndl.iface).idx world.kernel.1).1 = .ok stats ∧
        answer.2.leaves = entry.leaves ++ shown stats statLeaves := by
  cases reply with
  | unknown => cases succeeded
  | @unanswered _ error =>
      have zero := (nlifd_iface_error_ok_iff (ynlErr error)).mp succeeded
      exact absurd zero (ne_of_lt (ynl_err_negative error))
  | filled enrolled named answered created =>
      refine ⟨_, enrolled, named, _, answered, ?_⟩
      cases created with
      | all => rfl
      | refused _ failed => exact absurd succeeded failed

/-- At any moment of any run of the loaded daemon, a request for statistics is answered for an
enrolled interface of the requested name. It succeeds only with the six leaves, whose texts read
back to the counters the kernel has for that index. -/
theorem statistics_reported (tree : Tree) (getstats : Getstats Kstate)
    (reports : KernelReports platform.kernel) {service : Service} {config : ConfigTree}
    {daemon opened loaded : Nlifd NameBucket IndexBucket Kstate} {ret : Int}
    (opens : nlifdOpen service platform daemon = .ok (0, opened))
    (loads : nlifdLoad service config datastore opened = .ok (ret, loaded))
    {log : List (ServeOp × ServeRet)}
    (run : Run (statsMachine sysrepo datastore tree getstats platform) loaded.world log world)
    (entry : Entry) :
    ∃ answer next, nlifdOnIfaceGetStats tree (statsBeside getstats) (beside platform) entry world =
        .ok (answer, next) ∧
      Reply tree getstats entry world answer next ∧
      (answer.1 = .ok → ∃ hndl ∈ world.store.ifaces,
        entry.key = some (world.objects hndl.iface).name ∧
        ∃ stats, (getstats (world.objects hndl.iface).idx world.kernel.1).1 = .ok stats ∧
        ∃ made, answer.2.leaves = entry.leaves ++ made ∧
          made.map (fun leaf => (leaf.1, readCounter leaf.2)) =
            statLeaves.map fun leaf => (leaf, some (stats.counter leaf))) := by
  obtain ⟨zero, reached, opens', runs⟩ := open_completes service reports daemon
  cases opens.symm.trans opens'
  have running := load_running (runs rfl) loads
  have kept := stats_run_kept reports running.kept run
  obtain ⟨answer, next, gets, reply⟩ := @get_stats_replies _ _ _ tree getstats platform entry _ kept
  refine ⟨answer, next, gets, reply, fun succeeded => ?_⟩
  obtain ⟨hndl, enrolled, named, stats, answered, made⟩ := reply.succeeds succeeded
  refine ⟨hndl, enrolled, named, stats, answered, _, made, ?_⟩
  rw [shown, List.map_map]
  exact List.map_congr_left fun leaf _ =>
    congrArg (Prod.mk leaf) (counter_str_read (stats.counter leaf))

omit [DecidableEq NameBucket] [DecidableEq IndexBucket] in
/-- A tree typed by `ietf-interfaces` shows the leaves before the first counter its type does
not hold: a link with 2^32 discards or errors in one direction has incomplete statistics. -/
theorem statistics_complete_iff (typed : Typed tree) (fresh : entry.leaves = [])
    {answer : SrError × Entry}
    (done : nlifdOnIfaceGetStats tree (statsBeside getstats) (beside platform) entry world =
      .ok (answer, next)) :
    (answer.1 = .ok ↔ ∃ interface,
      nlifdIfaceFromKey (beside platform) entry.key world = some interface ∧
      ∃ stats, (getstats (world.objects interface).idx world.kernel.1).1 = .ok stats ∧
        stats.rxDropped.toNat < 2 ^ 32 ∧ stats.rxErrors.toNat < 2 ^ 32 ∧
        stats.txDropped.toNat < 2 ^ 32 ∧ stats.txErrors.toNat < 2 ^ 32) ∧
      ∀ interface stats, nlifdIfaceFromKey (beside platform) entry.key world = some interface →
        (getstats (world.objects interface).idx world.kernel.1).1 = .ok stats →
        answer.2.leaves = shown stats (statLeaves.takeWhile (fits stats)) := by
  unfold nlifdOnIfaceGetStats nlifdIfaceGetStats at done
  cases looked : nlifdIfaceFromKey (beside platform) entry.key world with
  | none =>
      rw [looked] at done
      cases done
      simp
  | some interface =>
      simp only [looked, ifaceLoadStats, gateLoadLinkStats] at done
      split at done
      · cases done
      · simp only [statsBeside, ok_bind] at done
        cases answered : (getstats (world.objects interface).idx world.kernel.1).1 with
        | error error =>
            rw [answered] at done
            cases done
            have failed : nlifdIfaceError (ynlErr error) ≠ .ok := fun succeeded =>
              absurd ((nlifd_iface_error_ok_iff _).mp succeeded)
                (ne_of_lt (ynl_err_negative error))
            constructor
            · simp [failed, answered]
            · intro other stats same counted
              cases same
              cases answered.symm.trans counted
        | ok stats =>
            rw [answered] at done
            cases done
            have absent : ∀ leaf ∈ statLeaves, leaf ∉ entry.leaves.map Prod.fst := by
              rw [fresh]
              exact fun _ _ => List.not_mem_nil
            obtain ⟨made, all⟩ := @create_leaves_typed _ stats _ entry typed (by decide) absent
            constructor
            · rw [all, fits_all_iff]
              simp [answered]
            · intro other others same counted
              cases same
              cases answered.symm.trans counted
              rw [made, fresh, List.nil_append]

end Runs

def ietfTree : Tree where
  createLeaf leaves leaf text :=
    if leaf ∈ leaves.map Prod.fst then .exists
    else if (readCounter text).any fun counter => counter.toNat < 2 ^ leaf.bits then .ok
    else .invalArg

theorem ietf_tree_typed : Typed ietfTree := by
  intro leaves leaf counter absent
  simp [ietfTree, absent, counter_str_read]

def counting (errors : UInt64) : Getstats Unit := fun _ _ =>
  (.ok ⟨1500, 0, errors, 60, 0, 0⟩, ())

def linkStats : Entry := ⟨some nameA, []⟩

def enabledOnce : Except Fault ((Int × Int × DaemonRet) × CodeWorld (Unit × Session)) := do
  let (first, opened) ← nlifdOpen answering oneLinkPlatform memory
  let (second, loaded) ← nlifdLoad answering agreeingTree AdminStatus.takingDatastore opened
  let (third, enabled) ← (servingMachine agreeingSysrepo AdminStatus.takingDatastore
    oneLinkPlatform).step (.change .change [enableLink]) loaded.world
  .ok ((first, second, third), enabled)

theorem enabled_link_counted :
    ∃ opened loaded world answer next,
      nlifdOpen answering oneLinkPlatform memory = .ok (0, opened) ∧
      nlifdLoad answering agreeingTree AdminStatus.takingDatastore opened = .ok (0, loaded) ∧
      Run (statsMachine agreeingSysrepo AdminStatus.takingDatastore ietfTree (counting 0)
        oneLinkPlatform) loaded.world
        [(.event (.change .change [enableLink]), .event (.sr .ok))] world ∧
      nlifdOnIfaceGetStats ietfTree (statsBeside (counting 0)) (beside oneLinkPlatform) linkStats
        world = .ok (answer, next) ∧ Reply ietfTree (counting 0) linkStats world answer next := by
  have result : Prod.fst <$> enabledOnce = .ok (0, 0, .sr .ok) := by decide +kernel
  obtain ⟨⟨codes, enabled⟩, done, rfl⟩ := (map_ok_iff ..).mp result
  obtain ⟨⟨first, opened⟩, opens, done⟩ := (bind_ok_iff ..).mp done
  obtain ⟨⟨second, loaded⟩, loads, done⟩ := (bind_ok_iff ..).mp done
  obtain ⟨⟨third, world⟩, steps, done⟩ := (bind_ok_iff ..).mp done
  cases done
  have stepped : (statsMachine agreeingSysrepo AdminStatus.takingDatastore ietfTree (counting 0)
      oneLinkPlatform).step (.event (.change .change [enableLink])) loaded.world =
      .ok (.event (.sr .ok), enabled) :=
    (map_ok_iff ..).mpr ⟨_, steps, rfl⟩
  have run := Run.step .start trivial stepped
  obtain ⟨answer, next, gets, reply, _⟩ := statistics_reported ietfTree (counting 0)
    one_link_kernel_reports opens loads run linkStats
  exact ⟨opened, loaded, enabled, answer, next, opens, loads, run, gets, reply⟩

/-- One error too many hides the octets sent. -/
theorem erring_link_incomplete :
    ∃ opened answer next, nlifdOpen answering oneLinkPlatform memory = .ok (0, opened) ∧
      nlifdOnIfaceGetStats ietfTree (statsBeside (counting 0x100000000)) (beside oneLinkPlatform)
        linkStats opened.world = .ok (answer, next) ∧
      answer.1 ≠ .ok ∧ answer.2.leaves =
        [(.inOctets, counterStr 1500), (.inDiscards, counterStr 0)] := by
  have result : (fun done => (done.1, nlifdIfaceFromKey (beside oneLinkPlatform) linkStats.key
      done.2.world)) <$> nlifdOpen answering oneLinkPlatform memory = .ok (0, some 0) := by
    decide +kernel
  obtain ⟨⟨ret, opened⟩, opens, same⟩ := (map_ok_iff ..).mp result
  obtain ⟨rfl, looked⟩ := Prod.mk.inj same
  have reports : KernelReports oneLinkPlatform.kernel := one_link_kernel_reports
  obtain ⟨_, _, opens', runs⟩ := open_completes answering reports memory
  cases opens.symm.trans opens'
  obtain ⟨answer, next, gets, _⟩ := @get_stats_replies _ _ _ ietfTree (counting 0x100000000)
    oneLinkPlatform linkStats _ (runs rfl).kept
  obtain ⟨succeeds, leaves⟩ := statistics_complete_iff ietf_tree_typed rfl gets
  refine ⟨opened, answer, next, opens, gets, ?_, ?_⟩
  · intro succeeded
    obtain ⟨_, _, stats, answered, _, few, _⟩ := succeeds.mp succeeded
    cases answered
    exact absurd few (by decide)
  · exact leaves 0 _ looked rfl

end Nlif.LinkStats
