import Nlif.ApplyAgreement
import Nlif.ChangeNotif
import Nlif.LinkPrint
import Nlif.StoreReload
import Nlif.StringView

/-!
# The tools on one interface

Transcription of `sample/show_iface.c` and `sample/set_iface.c` without their log. Both load
the interface their argument names, print it and destroy it again; the first lists the store
where it is given no argument, the second configures the interface before it is printed. Both
end with success exactly where they leave zero in `ret`.
-/

namespace Nlif.IfaceTools

open LinkModel IfaceModel FaultWalk StoreModel GateModel GateSpec StoreInvariant LibraryRun
  ApplyAgreement LinkPrint StringHeap StoreReload
open ChangeNotif (gateUnsubscribe)
open DaemonModel (cstring)
open DigitText (readDecimal characters)

set_option autoImplicit false

/-- What the tools call outside the repository. -/
structure Tool (NameBucket IndexBucket Kstate : Type) where
  platform : Platform NameBucket IndexBucket Kstate
  printer : Printer
  /-- `ynl_sock_create()`. -/
  sockCreate : Option YnlError
  /-- `strtoul(arg, &end, 0)`: the number, and the text at `end`. -/
  strtoul : CString → UInt64 × CString
  /-- `rt_link_getlink()` of a name. -/
  getlinkByname : CString → Kstate → Except YnlError GetlinkRsp × Kstate

inductive Lookup where
  | byidx (index : UInt32)
  | byname (name : CString)
deriving DecidableEq

def UINT_MAX : UInt64 := 0xffffffff

/-- How both tools read their argument, where it is valid. -/
def lookup (strtoul : CString → UInt64 × CString) (arg : CString) : Option Lookup :=
  let (indx, rest) := strtoul arg
  if rest.bytes = [] then
    if indx > UINT_MAX ∨ linkValidateIndex indx.toUInt32 ≠ 0 then none
    else some (.byidx indx.toUInt32)
  else if linkValidateName arg < 0 then none
  else some (.byname arg)

def ALIAS : CString := cstring "atestalias"

/-- `ether_aton_r("1a:42:41:59:a7:e0")` -/
def ADDRESS : EtherAddr := #v[0x1a, 0x42, 0x41, 0x59, 0xa7, 0xe0]

/-- The settings whose setters are checked, in order. -/
def settings : List Setter := [.mtu 1500, .ifalias (some ALIAS), .hwaddr ADDRESS]

section Programs

variable {NameBucket IndexBucket Kstate : Type} [DecidableEq NameBucket]
  [DecidableEq IndexBucket] (tool : Tool NameBucket IndexBucket Kstate) (str : Scratch)

abbrev Ending (NameBucket IndexBucket Kstate : Type) :=
  (Int × List Bytes) × World NameBucket IndexBucket Kstate

def create : Lookup → World NameBucket IndexBucket Kstate →
    Except Int Addr × World NameBucket IndexBucket Kstate
  | .byidx index, world => ifaceCreateByidx tool.platform index world
  | .byname name, world =>
      let (answer, kernel) := tool.getlinkByname name world.kernel
      ifaceCreateByname answer { world with kernel }

/-- The end of both programs: the interface is printed and destroyed. -/
def leave (interface : Addr) (ret : Int) (world : World NameBucket IndexBucket Kstate) :
    Except Halt (Ending NameBucket IndexBucket Kstate) := do
  let ((_, lines), world) ← nlifIfacePrint tool.printer tool.platform str interface world
  let world ← faulting (ifaceDestroy interface world)
  .ok ((ret, lines), world)

def display (interface : Addr) (world : World NameBucket IndexBucket Kstate) :
    Except Halt (Ending NameBucket IndexBucket Kstate) :=
  leave tool str interface 0 world

def withIface (body : Addr → World NameBucket IndexBucket Kstate →
      Except Halt (Ending NameBucket IndexBucket Kstate)) (arg : CString)
    (world : World NameBucket IndexBucket Kstate) :
    Except Halt (Ending NameBucket IndexBucket Kstate) :=
  match lookup tool.strtoul arg with
  -- `ret` is still what `nlif_gate_init()` returned
  | none => .ok ((0, []), world)
  | some lookup =>
      match create tool lookup world with
      | (.error err, world) => .ok ((err, []), world)
      | (.ok interface, world) => body interface world

def printStore : List Hndl → World NameBucket IndexBucket Kstate →
    Except Halt (List Bytes × World NameBucket IndexBucket Kstate)
  | [], world => .ok ([], world)
  | hndl :: rest, world => do
      let ((_, lines), world) ← nlifIfacePrint tool.printer tool.platform str hndl.iface world
      let (more, world) ← printStore rest world
      .ok (lines ++ more, world)

def listLoaded (world : World NameBucket IndexBucket Kstate) :
    Except Halt (Ending NameBucket IndexBucket Kstate) := do
  let (lines, world) ← printStore tool str world.store.ifaces world
  let objects ← faulting (storeRelease world.store.ifaces world.objects)
  .ok ((0, lines), { world with objects, gate := gateUnsubscribe world.gate })

/-- `show_iface` without an argument. A store that cannot be loaded is not finished. -/
def listStore (world : World NameBucket IndexBucket Kstate) :
    Except Halt (Ending NameBucket IndexBucket Kstate) := do
  let world := { world with store := storeReinit, gate := { world.gate with notif := true } }
  let (ret, world) ← faulting (storeLoad tool.platform world)
  if ret ≠ 0 then .ok ((ret, []), world) else listLoaded tool str world

/-- `nlif_gate_init()` at the start of both programs. -/
def withGate (body : World NameBucket IndexBucket Kstate →
      Except Halt (Ending NameBucket IndexBucket Kstate))
    (world : World NameBucket IndexBucket Kstate) :
    Except Halt (Ending NameBucket IndexBucket Kstate) :=
  match tool.sockCreate with
  | some error => .ok ((ynlErr error, []), world)
  | none => body { world with gate := { notif := false, member := false } }

/-- `show_iface`. With more than one argument, and with an empty one, `ret` is what
`nlif_gate_init()` returned. -/
def showIface (args : List CString) : World NameBucket IndexBucket Kstate →
    Except Halt (Ending NameBucket IndexBucket Kstate) :=
  withGate tool fun world =>
    match args with
    | [] => listStore tool str world
    | [arg] => if arg.bytes = [] then .ok ((0, []), world)
        else withIface tool (display tool str) arg world
    | _ => .ok ((0, []), world)

end Programs

section Printing

variable {NameBucket IndexBucket Kstate : Type} [DecidableEq NameBucket]
  [DecidableEq IndexBucket] {tool : Tool NameBucket IndexBucket Kstate} {str : Scratch}
  {names : Nat → CString} {world next : World NameBucket IndexBucket Kstate} {interface : Addr}
  {ret : Int} {lines : List Bytes}

theorem print_valid_iff (documented : Documented tool.printer names)
    (valid : (world.objects interface).state ≠ .invalid) (held : Held (world.objects interface)) :
    nlifIfacePrint tool.printer tool.platform str interface world = .ok ((ret, lines), next) ↔
      ret = 0 ∧ next = world ∧ ifaceRecord names (world.objects interface) = some lines := by
  have synced := sync_passes tool.platform interface world valid
  have prints : nlifIfacePrint tool.printer tool.platform str interface world =
      .ok ((0, lines), world) ↔ ifaceRecord names (world.objects interface) = some lines :=
    iface_print_synced_iff documented synced held
  rw [← prints]
  constructor
  · intro done
    have passed := done
    unfold nlifIfacePrint at passed
    rw [synced] at passed
    simp only [faulting, ok_bind, ne_eq, not_true_eq_false, if_false] at passed
    obtain ⟨_, _, same⟩ := (bind_ok_iff ..).mp passed
    cases same
    exact ⟨rfl, rfl, done⟩
  · rintro ⟨rfl, rfl, done⟩
    exact done

theorem print_store_iff (documented : Documented tool.printer names) {ifaces : List Hndl}
    (valid : ∀ hndl ∈ ifaces, (world.objects hndl.iface).state ≠ .invalid)
    (held : ∀ hndl ∈ ifaces, Held (world.objects hndl.iface)) :
    printStore tool str ifaces world = .ok (lines, next) ↔ next = world ∧ ∃ records,
      ifaces.mapM (fun hndl => ifaceRecord names (world.objects hndl.iface)) = some records ∧
        lines = records.flatten := by
  induction ifaces generalizing lines with
  | nil => simp [printStore, eq_comm, and_comm]
  | cons hndl rest ih =>
      have here : ∀ ret lines after,
          nlifIfacePrint tool.printer tool.platform str hndl.iface world =
              .ok ((ret, lines), after) ↔ ret = 0 ∧ after = world ∧
            ifaceRecord names (world.objects hndl.iface) = some lines :=
        fun _ _ _ => print_valid_iff documented (valid hndl (List.mem_cons_self ..))
          (held hndl (List.mem_cons_self ..))
      have later : ∀ lines, printStore tool str rest world = .ok (lines, next) ↔ _ :=
        fun lines => @ih lines (fun other there => valid other (List.mem_cons_of_mem _ there))
          fun other there => held other (List.mem_cons_of_mem _ there)
      rw [printStore, bind_ok_iff, List.mapM_cons]
      constructor
      · rintro ⟨⟨⟨ret, first⟩, middle⟩, printed, done⟩
        obtain ⟨rfl, rfl, recorded⟩ := (here ret first middle).mp printed
        obtain ⟨⟨more, last⟩, looped, same⟩ := (bind_ok_iff ..).mp done
        cases same
        obtain ⟨rfl, records, others, rfl⟩ := (later more).mp looped
        refine ⟨rfl, first :: records, ?_, rfl⟩
        rw [recorded, others]
        rfl
      · rintro ⟨rfl, records, recorded, rfl⟩
        obtain ⟨first, shown, recorded⟩ := Option.bind_eq_some_iff.mp recorded
        obtain ⟨others, remaining, same⟩ := Option.bind_eq_some_iff.mp recorded
        cases same
        refine ⟨((0, first), next), (here 0 first next).mpr ⟨rfl, rfl, shown⟩, ?_⟩
        exact (bind_ok_iff ..).mpr ⟨(others.flatten, next), (later _).mpr
          ⟨rfl, others, remaining, rfl⟩, rfl⟩

end Printing

section Listing

variable {NameBucket IndexBucket Kstate : Type} [DecidableEq NameBucket]
  [DecidableEq IndexBucket] {tool : Tool NameBucket IndexBucket Kstate} {str : Scratch}
  {names : Nat → CString} {world next : World NameBucket IndexBucket Kstate}

omit [DecidableEq IndexBucket] in
theorem reload_answer_failed {hash : Hashing NameBucket IndexBucket}
    {answer : Except YnlError (List GetlinkRsp)} (failed : (reloadAnswer hash answer).1 ≠ 0) :
    (reloadAnswer hash answer).2 = [] := by
  cases answer with
  | error error => rfl
  | ok dump =>
      cases dump with
      | nil => rfl
      | cons link rest => exact absurd rfl failed

def Freed (interface : Iface) : Prop :=
  ∀ pointer, interface.ifalias = some pointer ∨ interface.kind = some pointer →
    pointer.live = false

theorem released_freed (interface : Iface) : Freed (released interface) := by
  rintro pointer (ifalias | kind)
  · obtain ⟨_, _, rfl⟩ := Option.map_eq_some_iff.mp ifalias
    rfl
  · obtain ⟨_, _, rfl⟩ := Option.map_eq_some_iff.mp kind
    rfl

theorem list_loaded_iff (documented : Documented tool.printer names) {links : List GetlinkRsp}
    (kept : Kept tool.platform world) (mirrors : Mirrors tool.platform.hash links world)
    {done : Ending NameBucket IndexBucket Kstate} :
    listLoaded tool str world = .ok done ↔
      ∃ records, (links.map ifaceFill).mapM (ifaceRecord names) = some records ∧
        done = ((0, records.flatten), { world with
          objects := fun interface => if interface ∈ world.store.ifaces.map Hndl.iface then
            released (world.objects interface) else world.objects interface
          gate := gateUnsubscribe world.gate }) := by
  have filled : ∀ hndl ∈ world.store.ifaces, ∃ link, world.objects hndl.iface = ifaceFill link := by
    intro hndl member
    have listed := List.mem_map_of_mem (f := fun hndl => world.objects hndl.iface) member
    rw [mirrors.ifaces] at listed
    obtain ⟨link, _, same⟩ := List.mem_map.mp listed
    exact ⟨link, same.symm⟩
  have held : ∀ hndl ∈ world.store.ifaces, Held (world.objects hndl.iface) := by
    intro hndl member
    obtain ⟨link, same⟩ := filled hndl member
    rw [same]
    exact held_fill link
  have valid : ∀ hndl ∈ world.store.ifaces, (world.objects hndl.iface).state ≠ .invalid := by
    intro hndl member
    obtain ⟨link, same⟩ := filled hndl member
    rw [same]
    exact IfaceState.noConfusion
  have release := (store_release_ok_iff (kept_distinct kept) _).mpr ⟨held, rfl⟩
  rw [listLoaded, bind_ok_iff, ← mirrors.ifaces, List.mapM_map]
  constructor
  · rintro ⟨⟨lines, after⟩, printed, done⟩
    obtain ⟨rfl, records, recorded, rfl⟩ := (print_store_iff documented valid held).mp printed
    simp only [release, faulting, ok_bind] at done
    cases done
    exact ⟨records, recorded, rfl⟩
  · rintro ⟨records, recorded, rfl⟩
    refine ⟨(records.flatten, world), (print_store_iff documented valid held).mpr
      ⟨rfl, records, recorded, rfl⟩, ?_⟩
    simp only [release, faulting, ok_bind]

/-- `show_iface` without an argument ends exactly where each link the dump enrolls can be
printed. It prints these in order, with success unless the dump failed, and destroys every
interface it created. -/
theorem show_lists_iff (documented : Documented tool.printer names)
    (reports : KernelReports tool.platform.kernel) (sock : tool.sockCreate = none)
    (ret : Int) (lines : List Bytes) :
    ((∃ next, showIface tool str [] world = .ok ((ret, lines), next)) ↔
      ret = (reloadAnswer tool.platform.hash (tool.platform.kernel.dump world.kernel).1).1 ∧
        ∃ records, ((reloadAnswer tool.platform.hash
            (tool.platform.kernel.dump world.kernel).1).2.map ifaceFill).mapM
              (ifaceRecord names) = some records ∧ lines = records.flatten) ∧
      ∀ next, showIface tool str [] world = .ok ((ret, lines), next) →
        ∀ hndl ∈ next.store.ifaces, Freed (next.objects hndl.iface) := by
  let start : World NameBucket IndexBucket Kstate :=
    { world with store := storeReinit, gate := { notif := true, member := false } }
  have empty : Kept tool.platform start :=
    ⟨linked_reinit .., rfl, fun _ => indexed_reinit ..⟩
  obtain ⟨loaded, loads, mirrors⟩ : ∃ loaded, storeLoad tool.platform start = .ok
      ((reloadAnswer tool.platform.hash (tool.platform.kernel.dump world.kernel).1).1, loaded) ∧
      Mirrors tool.platform.hash
        (reloadAnswer tool.platform.hash (tool.platform.kernel.dump world.kernel).1).2 loaded :=
    load_mirrors reports rfl rfl
  have kept := load_kept reports empty loads
  have begins : showIface tool str [] world = listStore tool str
      { world with gate := { notif := false, member := false } } := by
    rw [showIface, withGate, sock]
  have opens : faulting (storeLoad tool.platform start) = .ok
      ((reloadAnswer tool.platform.hash (tool.platform.kernel.dump world.kernel).1).1, loaded) :=
    (faulting_ok_iff ..).mpr loads
  rw [begins, listStore]
  change ((∃ next, (faulting (storeLoad tool.platform start) >>= _) = _) ↔ _) ∧
    ∀ next, (faulting (storeLoad tool.platform start) >>= _) = _ → _
  rw [opens]
  simp only [ok_bind]
  have unloaded := @reload_answer_failed _ _ _ tool.platform.hash
    (tool.platform.kernel.dump world.kernel).1
  generalize reloadAnswer tool.platform.hash (tool.platform.kernel.dump world.kernel).1 = answer
    at *
  by_cases failed : answer.1 ≠ 0
  · rw [if_pos failed, unloaded failed]
    rw [unloaded failed] at mirrors
    have none_listed : loaded.store.ifaces = [] := List.map_eq_nil_iff.mp mirrors.ifaces
    refine ⟨⟨?_, ?_⟩, ?_⟩
    · rintro ⟨next, same⟩
      cases same
      exact ⟨rfl, [], rfl, rfl⟩
    · rintro ⟨rfl, records, recorded, rfl⟩
      cases recorded
      exact ⟨loaded, rfl⟩
    · intro next same hndl member
      cases same
      rw [none_listed] at member
      cases member
  · have listed := fun done => @list_loaded_iff _ _ _ _ _ _ str _ _ documented _ kept mirrors done
    rw [if_neg failed]
    refine ⟨⟨?_, ?_⟩, ?_⟩
    · rintro ⟨next, done⟩
      obtain ⟨records, recorded, same⟩ := (listed _).mp done
      cases same
      exact ⟨(not_not.mp failed).symm, records, recorded, rfl⟩
    · rintro ⟨rfl, records, recorded, rfl⟩
      rw [not_not.mp failed]
      exact ⟨_, (listed _).mpr ⟨records, recorded, rfl⟩⟩
    · intro next done hndl member
      obtain ⟨records, _, same⟩ := (listed _).mp done
      cases same
      have there : hndl.iface ∈ loaded.store.ifaces.map Hndl.iface :=
        List.mem_map_of_mem (f := Hndl.iface) member
      simp only [if_pos there]
      exact released_freed _

end Listing

section Settings

variable {link : GetlinkRsp}

structure Configured (link : GetlinkRsp) : Prop where
  down : link.ifiFlags &&& IFF_UP = 0
  mtu : link.mtu.getD 0 = 1500
  ifalias : link.heldAlias = some ALIAS
  hwaddr : link.etherAddress = ADDRESS

structure Settable (link : GetlinkRsp) : Prop where
  mtu : link.mtu.getD 0 = 1500 ∨ ifaceValidateMtu 1500 (ifaceFill link) = 0
  ifalias : link.heldAlias = some ALIAS ∨ ALIAS ≠ link.ifname

theorem Configured.settable (configured : Configured link) : Settable link :=
  ⟨.inl configured.mtu, .inl configured.ifalias⟩

/-- The interface of the link after the setter of the administrative state, and after each
of the others where it was not refused. -/
def lowered (link : GetlinkRsp) : Iface :=
  if link.ifiFlags &&& IFF_UP = 0 then ifaceFill link
  else edited (ifaceFill link) (.admstate false)

def resized (link : GetlinkRsp) : Iface :=
  if link.mtu.getD 0 = 1500 then lowered link else edited (lowered link) (.mtu 1500)

def relabelled (link : GetlinkRsp) : Iface :=
  if link.heldAlias = some ALIAS then resized link
  else edited (resized link) (.ifalias (some ALIAS))

def wished (link : GetlinkRsp) : Iface :=
  if link.etherAddress = ADDRESS then relabelled link
  else edited (relabelled link) (.hwaddr ADDRESS)

theorem wished_clean (configured : Configured link) : wished link = ifaceFill link := by
  rw [wished, if_pos configured.hwaddr, relabelled, if_pos configured.ifalias, resized,
    if_pos configured.mtu, lowered, if_pos configured.down]

theorem wished_dirty (unconfigured : ¬ Configured link) : (wished link).state = .dirty := by
  unfold wished
  split
  · rename_i hwaddr
    unfold relabelled
    split
    · rename_i ifalias
      unfold resized
      split
      · rename_i mtu
        unfold lowered
        split
        · rename_i down
          exact absurd ⟨down, mtu, ifalias, hwaddr⟩ unconfigured
        · rfl
      · rfl
    · rfl
  · rfl

theorem setlink_req_held {interface : Iface} (held : Held interface) :
    ifaceSetlinkReq interface = .ok (requestOf interface) := by
  have reads : setlinkAlias interface.ifalias = .ok (interface.ifalias.map HeapStr.text) := by
    cases present : interface.ifalias with
    | none => rfl
    | some pointer =>
        have read := (pointer.read_ok_iff _).mpr ⟨held.ifalias pointer present, rfl⟩
        rw [setlinkAlias, read]
        rfl
  by_cases dirty : .ifalias ∈ interface.dirtyFields
  · simp only [ifaceSetlinkReq, requestOf, dirty, if_true, reads, map_ok, ok_bind]
  · simp only [ifaceSetlinkReq, requestOf, dirty, if_false, ok_bind]

end Settings

section Setters

variable {NameBucket IndexBucket Kstate : Type} [DecidableEq NameBucket]
  [DecidableEq IndexBucket] {tool : Tool NameBucket IndexBucket Kstate}
  {world : World NameBucket IndexBucket Kstate} {interface : Addr} {link : GetlinkRsp}

end Setters

section Leaving

variable {NameBucket IndexBucket Kstate : Type} [DecidableEq NameBucket]
  [DecidableEq IndexBucket] {tool : Tool NameBucket IndexBucket Kstate} {str : Scratch}
  {names : Nat → CString} {world reached : World NameBucket IndexBucket Kstate}
  {interface : Addr} {ret : Int}

def FreesOnce {Value : Type} (outcome : Except Halt Value) : Prop :=
  outcome ≠ .error (.fault .doubleFree)

theorem FreesOnce.bind {Value Other : Type} {first : Except Halt Value}
    {next : Value → Except Halt Other} (once : FreesOnce first)
    (later : ∀ value, FreesOnce (next value)) : FreesOnce (first >>= next) := by
  cases first with
  | error halt => exact fun same => once (congrArg Except.error (Except.error.inj same))
  | ok value => exact later value

end Leaving

section Configuring

variable {NameBucket IndexBucket Kstate : Type} [DecidableEq NameBucket]
  [DecidableEq IndexBucket] {tool : Tool NameBucket IndexBucket Kstate} {str : Scratch}
  {names : Nat → CString} {world : World NameBucket IndexBucket Kstate} {interface : Addr}
  {link : GetlinkRsp}

/-- The kernel takes the request for the settings the link lacks. -/
def Taken (tool : Tool NameBucket IndexBucket Kstate) (link : GetlinkRsp) (kernel : Kstate) :
    Prop :=
  Settable link ∧ ¬ Configured link ∧
    (tool.platform.kernel.setlink (requestOf (wished link)) kernel).1 = none

/-- The interface that is printed: as it was wished, or reloaded where the kernel refused it. -/
def printed (tool : Tool NameBucket IndexBucket Kstate) (link : GetlinkRsp) (kernel : Kstate) :
    Iface :=
  if (wished link).state = .dirty then
    match tool.platform.kernel.setlink (requestOf (wished link)) kernel with
    | (none, _) => wished link
    | (some _, next) =>
        match gateGetlink (tool.platform.kernel.getlink link.ifiIndex next).1 with
        | .ok other => ifaceFill other
        | .error _ => wished link
  else wished link

structure Ends (tool : Tool NameBucket IndexBucket Kstate) (names : Nat → CString)
    (link : GetlinkRsp) (kernel : Kstate) (interface : Addr) (ret : Int) (lines : List Bytes)
    (next : World NameBucket IndexBucket Kstate) : Prop where
  zero : ret = 0 ↔ Configured link
  one : ret = 1 ↔ Taken tool link kernel
  lines : ret = 0 ∨ ret = 1 → ifaceRecord names (wished link) = some lines
  freed : Freed (next.objects interface)

theorem apply_unheard (unsubscribed : world.gate.notif = false)
    (dirty : (world.objects interface).state = .dirty) (held : Held (world.objects interface))
    {kernel : Kstate} (asked : tool.platform.kernel.setlink
      (requestOf (world.objects interface)) world.kernel = (none, kernel)) :
    ifaceApply tool.platform interface world =
      .ok (1, (sent interface world (requestOf (world.objects interface)) kernel 0).setObject
        interface (settled (world.objects interface))) := by
  have silent : gateNotify tool.platform noObservers (.modify interface)
      (sent interface world (requestOf (world.objects interface)) kernel 0) =
      .ok (0, sent interface world (requestOf (world.objects interface)) kernel 0) := by
    unfold gateNotify sent
    simp only [unsubscribed, Bool.false_eq_true, if_false]
  have built := setlink_req_held held
  rw [iface_apply_accepted tool.platform interface world dirty built asked, silent]
  rfl

/-- What is left in `ret` once every setter succeeded, with the interface that is printed
then: no request was needed, it was taken, or it was refused and the interface reloaded. -/
inductive Way (tool : Tool NameBucket IndexBucket Kstate) (link : GetlinkRsp) (kernel : Kstate) :
    Int → Iface → Prop where
  | idle (configured : Configured link) : Way tool link kernel 0 (wished link)
  | taken (taken : Taken tool link kernel) : Way tool link kernel 1 (settled (wished link))
  | refused {error : YnlError} {next : Kstate} {other : GetlinkRsp}
      (unconfigured : ¬ Configured link)
      (asked : tool.platform.kernel.setlink (requestOf (wished link)) kernel = (some error, next))
      (given : gateGetlink (tool.platform.kernel.getlink link.ifiIndex next).1 = .ok other) :
      Way tool link kernel (ynlErr error) (ifaceFill other)

omit [DecidableEq NameBucket] [DecidableEq IndexBucket] in
theorem Way.printed {ret : Int} {object : Iface} {kernel : Kstate}
    (way : Way tool link kernel ret object) :
    ifaceRecord names object = ifaceRecord names (IfaceTools.printed tool link kernel) := by
  unfold IfaceTools.printed
  cases way with
  | idle configured =>
      have clean : (wished link).state = .clean := by
        rw [wished_clean configured]
        rfl
      rw [if_neg fun dirty => IfaceState.noConfusion (clean.symm.trans dirty)]
  | taken taken =>
      obtain ⟨_, unconfigured, accepted⟩ := taken
      rw [if_pos (wished_dirty unconfigured)]
      cases asked : tool.platform.kernel.setlink (requestOf (wished link)) kernel with
      | mk answer next =>
          rw [asked] at accepted
          cases accepted
          rfl
  | refused unconfigured asked given =>
      rw [if_pos (wished_dirty unconfigured), asked]
      simp only [given]

omit [DecidableEq NameBucket] [DecidableEq IndexBucket] in
theorem Way.ends {ret : Int} {object : Iface} {lines : List Bytes}
    {next : World NameBucket IndexBucket Kstate} {kernel : Kstate}
    (way : Way tool link kernel ret object) (recorded : ifaceRecord names object = some lines)
    (freed : Freed (next.objects interface)) :
    Ends tool names link kernel interface ret lines next := by
  cases way with
  | idle configured =>
      refine ⟨iff_of_true rfl configured, ?_, fun _ => recorded, freed⟩
      exact iff_of_false zero_ne_one fun taken => taken.2.1 configured
  | taken taken =>
      refine ⟨iff_of_false one_ne_zero taken.2.1, iff_of_true rfl taken, fun _ => ?_, freed⟩
      exact recorded
  | @refused error _ _ unconfigured asked _ =>
      have negative := ynl_err_negative error
      have untaken : ¬ Taken tool link kernel := by
        rintro ⟨_, _, taken⟩
        rw [asked] at taken
        cases taken
      refine ⟨iff_of_false (by omega) unconfigured, iff_of_false (by omega) untaken, ?_, freed⟩
      intro small
      omega

end Configuring

/-- `strtoul()` as far as a decimal goes. -/
def decimalStrtoul (text : CString) : UInt64 × CString :=
  match readDecimal (characters text.bytes) with
  | some number => (number.toUInt64, cstring "")
  | none => (0, text)

def indexTool {Kstate : Type} (kernel : Kernel Kstate) :
    Tool (Fin (2 ^ NLIF_STORE_NAMEH_BITS)) (Fin (2 ^ NLIF_STORE_INDXH_BITS)) Kstate where
  platform := ⟨djb2Hashing, kernel⟩
  printer := codePrinter
  sockCreate := none
  strtoul := decimalStrtoul
  getlinkByname _ state := (.error noSuchDevice, state)

theorem one_link_listed : ∃ lines next, lines.length = 14 ∧
    showIface (indexTool oneLinkKernel) FlagString.blank [] oneLinkInit =
      .ok ((0, lines), next) := by
  have result : (([oneLink].map ifaceFill).mapM (ifaceRecord FlagString.flagNames)).map
      (fun records => records.flatten.length) = some 14 := by
    decide +kernel
  obtain ⟨records, recorded, size⟩ := Option.map_eq_some_iff.mp result
  obtain ⟨listed, _⟩ := @show_lists_iff _ _ _ _ _ (indexTool oneLinkKernel) FlagString.blank
    FlagString.flagNames oneLinkInit code_printer_documented one_link_kernel_reports rfl 0
    records.flatten
  have enrolled : (reloadAnswer djb2Hashing (.ok [oneLink])).2 = [oneLink] := rfl
  obtain ⟨next, done⟩ := listed.mpr ⟨rfl, records, enrolled.symm ▸ recorded, rfl⟩
  exact ⟨records.flatten, next, size, done⟩

end Nlif.IfaceTools
