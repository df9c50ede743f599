import Nlif.LinkPrint
import Nlif.NotifyFold

/-!
# The monitor

Transcription of `sample/mon.c` without its log: the store is loaded and printed, then each
turn of the loop drains the socket, with a subscriber that prints the interface it is called
for. What was printed after any number of turns is decided by the links loaded and by those
heard since, however they came in batches.
-/

namespace Nlif.Monitor

open LinkModel IfaceModel FaultWalk StoreModel StoreInvariant StoreLookup GateModel GateSpec
  StagedRefresh FlagWord LinkPrint
open DaemonRun (nlifdOpen)
open LibraryRun (KernelReports Kept kept_init load_each_invariant new_link_kept new_link_ok
  oneLink oneLinkPlatform one_link_kernel_reports refresh_eased store_load_ok)
open ConfigSnapshot (Fresh open_fresh)
open OperMirror (Heard skipped_iff refresh_unmoved)
open NotifyFold (heard heard_skipped heard_reached find_congr operatingLink)

set_option autoImplicit false

section Program

variable {NameBucket IndexBucket Kstate : Type}

abbrev Terminal (NameBucket IndexBucket Kstate : Type) :=
  World NameBucket IndexBucket (Kstate × List Bytes)

def withOutput (kernel : Kernel Kstate) : Kernel (Kstate × List Bytes) where
  getlink index state :=
    ((kernel.getlink index state.1).1, (kernel.getlink index state.1).2, state.2)
  setlink request state :=
    ((kernel.setlink request state.1).1, (kernel.setlink request state.1).2, state.2)
  dump state := ((kernel.dump state.1).1, (kernel.dump state.1).2, state.2)

abbrev CodeTerminal :=
  Terminal (Fin (2 ^ NLIF_STORE_NAMEH_BITS)) (Fin (2 ^ NLIF_STORE_INDXH_BITS)) Unit

def printing (platform : Platform NameBucket IndexBucket Kstate) :
    Platform NameBucket IndexBucket (Kstate × List Bytes) where
  hash := platform.hash
  kernel := withOutput platform.kernel

def write (lines : List Bytes) (world : Terminal NameBucket IndexBucket Kstate) :
    Terminal NameBucket IndexBucket Kstate :=
  { world with kernel := (world.kernel.1, world.kernel.2 ++ lines) }

/-- The program ends where a print halts; in which way is left out. -/
def stopping {Value : Type} : Except Halt Value → Except Fault Value
  | .ok value => .ok value
  | .error _ => .error .unreachable

variable [DecidableEq NameBucket] [DecidableEq IndexBucket] (printer : Printer)
  (platform : Platform NameBucket IndexBucket Kstate)
  (heap : Terminal NameBucket IndexBucket Kstate → Scratch)

/-- `on_iface_change()`, and the body of the first loop. -/
def printIface : Observers NameBucket IndexBucket (Kstate × List Bytes) :=
  fun interface world => do
    let ((_, lines), world) ←
      stopping (nlifIfacePrint printer (printing platform) (heap world) interface world)
    .ok (write lines world)

def printEach : List Hndl → Terminal NameBucket IndexBucket Kstate →
    Except Fault (Terminal NameBucket IndexBucket Kstate)
  | [], world => .ok world
  | hndl :: rest, world => do
      let world ← printIface printer platform heap hndl.iface world
      printEach rest world

/-- Turns of the `while (true)` loop, each with what it finds in the socket. -/
def watch : List (List Notification) → Terminal NameBucket IndexBucket Kstate →
    Except Fault (Terminal NameBucket IndexBucket Kstate)
  | [], world => .ok world
  | queue :: rest, world => do
      let (_, world) ←
        gateNotifyChanges (printing platform) (printIface printer platform heap) queue world
      watch rest world

/-- `main()` without arguments, up to the turns given. The store is enabled and loaded as
`nlifd_open()` does it. -/
def monMain (objects : Objects) (kernel : Kstate) (queues : List (List Notification)) :
    Except Fault (Int × Terminal NameBucket IndexBucket Kstate) := do
  let (ret, world) ← nlifdOpen (printing platform) objects (kernel, [])
  if ret ≠ 0 then .ok (ret, world)
  else do
    let world ← printEach printer platform heap world.store.ifaces world
    let world ← watch printer platform heap queues world
    .ok (0, world)

end Program

/-- The links that change what an interface shows, with the interface. -/
def moves (find : UInt32 → Option Addr) :
    List GetlinkRsp → (Addr → Volatile) → List (Addr × GetlinkRsp)
  | [], _ => []
  | link :: rest, values =>
      match find link.ifiIndex with
      | none => moves find rest values
      | some interface =>
          if values interface = carried link then moves find rest values
          else (interface, link) ::
            moves find rest (Function.update values interface (carried link))

def moved (names : Nat → CString) (objects : Objects) (move : Addr × GetlinkRsp) :
    Option (List Bytes) :=
  ifaceRecord names (ifaceRefreshState (objects move.1) move.2).2

def told (names : Nat → CString) (find : UInt32 → Option Addr) (objects : Objects)
    (links : List GetlinkRsp) (values : Addr → Volatile) : Option (List (List Bytes)) :=
  (moves find links values).mapM (moved names objects)

section Told

variable {names : Nat → CString} {find : UInt32 → Option Addr} {objects : Objects}
  {link : GetlinkRsp} {rest : List GetlinkRsp} {shows : Addr → Volatile} {interface : Addr}

theorem told_unmoved
    (quiet : ∀ interface, find link.ifiIndex = some interface → shows interface = carried link) :
    told names find objects (link :: rest) shows = told names find objects rest shows := by
  unfold told
  rw [moves]
  cases found : find link.ifiIndex with
  | none => rfl
  | some interface =>
      simp only
      rw [if_pos (quiet interface found)]

theorem told_moved (found : find link.ifiIndex = some interface)
    (differs : shows interface ≠ carried link) :
    told names find objects (link :: rest) shows = (moved names objects (interface, link)).bind
      fun lines => (told names find objects rest
        (Function.update shows interface (carried link))).map (lines :: ·) := by
  unfold told
  rw [moves, found]
  simp only
  rw [if_neg differs, List.mapM_cons]
  cases moved names objects (interface, link) with
  | none => rfl
  | some lines =>
      cases (moves find rest (Function.update shows interface (carried link))).mapM
        (moved names objects) <;> rfl

end Told

theorem refresh_again {before after : Iface} (settings : SameSettings before after)
    (link : GetlinkRsp) : (ifaceRefreshState after link).2 = (ifaceRefreshState before link).2 := by
  have flags : merge IFF_VOLATILE after.flags link.ifiFlags =
      merge IFF_VOLATILE before.flags link.ifiFlags := by
    rw [← agree_on_all_iff]
    apply merge_agree
    · exact (settings.flags.trans (merge_keeps ..).symm).mono (by decide)
    · exact (merge_takes IFF_VOLATILE before.flags link.ifiFlags).symm.mono (by decide)
  rw [refresh_eq, refresh_eq, flags, settings.fields]

section Runs

variable {NameBucket IndexBucket Kstate : Type} {printer : Printer} {names : Nat → CString}
  {platform : Platform NameBucket IndexBucket Kstate}
  {heap : Terminal NameBucket IndexBucket Kstate → Scratch}
  {loaded world next : Terminal NameBucket IndexBucket Kstate}

theorem printing_reports (reports : KernelReports platform.kernel) :
    KernelReports (printing platform).kernel where
  getlink index state link next asked := by
    have answered := congrArg Prod.fst asked
    exact reports.getlink index state.1 link _ (Prod.ext answered rfl)
  dump state links next asked := by
    have answered := congrArg Prod.fst asked
    exact reports.dump state.1 links _ (Prod.ext answered rfl)

theorem write_write (first second : List Bytes) :
    write second (write first world) = write (first ++ second) world := by
  simp only [write, List.append_assoc]

variable [DecidableEq NameBucket] [DecidableEq IndexBucket]

theorem print_iface_iff (documented : Documented printer names) {interface : Addr}
    (valid : (world.objects interface).state ≠ .invalid)
    (held : Held (world.objects interface)) :
    printIface printer platform heap interface world = .ok next ↔
      ∃ lines, ifaceRecord names (world.objects interface) = some lines ∧
        next = write lines world := by
  have synced := sync_passes (printing platform) interface world valid
  have prints : ∀ lines, ifaceLines printer (world.objects interface) (heap world) = .ok lines ↔
      ifaceRecord names (world.objects interface) = some lines :=
    fun lines => held_lines_iff documented held
  unfold printIface nlifIfacePrint
  rw [synced]
  simp only [faulting, ok_bind, ne_eq, not_true_eq_false, if_false]
  constructor
  · intro done
    cases printed : ifaceLines printer (world.objects interface) (heap world) with
    | error halt =>
        rw [printed] at done
        cases done
    | ok lines =>
        rw [printed] at done
        cases done
        exact ⟨lines, (prints lines).mp printed, rfl⟩
  · rintro ⟨lines, recorded, rfl⟩
    rw [(prints lines).mpr recorded]
    rfl

theorem print_each_iff (documented : Documented printer names) {ifaces : List Hndl}
    (valid : ∀ hndl ∈ ifaces, (world.objects hndl.iface).state ≠ .invalid)
    (held : ∀ hndl ∈ ifaces, Held (world.objects hndl.iface)) :
    printEach printer platform heap ifaces world = .ok next ↔
      ∃ texts, ifaces.mapM (fun hndl => ifaceRecord names (world.objects hndl.iface)) =
          some texts ∧ next = write texts.flatten world := by
  induction ifaces generalizing world with
  | nil =>
      have silent : write [] world = world := by
        rw [write, List.append_nil]
      simp [printEach, silent, eq_comm]
  | cons hndl rest ih =>
      have here : ∀ after, printIface printer platform heap hndl.iface world = .ok after ↔
          ∃ lines, ifaceRecord names (world.objects hndl.iface) = some lines ∧
            after = write lines world :=
        fun after => print_iface_iff documented (valid hndl (List.mem_cons_self ..))
          (held hndl (List.mem_cons_self ..))
      have later : ∀ lines, printEach printer platform heap rest (write lines world) = .ok next ↔
          ∃ texts, rest.mapM (fun hndl => ifaceRecord names (world.objects hndl.iface)) =
              some texts ∧ next = write texts.flatten (write lines world) :=
        fun lines => ih (fun other there => valid other (List.mem_cons_of_mem _ there))
          fun other there => held other (List.mem_cons_of_mem _ there)
      rw [printEach, bind_ok_iff, List.mapM_cons]
      constructor
      · rintro ⟨middle, printed, done⟩
        obtain ⟨lines, recorded, rfl⟩ := (here middle).mp printed
        obtain ⟨texts, others, rfl⟩ := (later lines).mp done
        refine ⟨lines :: texts, ?_, write_write ..⟩
        rw [recorded, others]
        rfl
      · rintro ⟨texts, recorded, rfl⟩
        obtain ⟨lines, first, recorded⟩ := Option.bind_eq_some_iff.mp recorded
        obtain ⟨others, remaining, same⟩ := Option.bind_eq_some_iff.mp recorded
        cases same
        exact ⟨write lines world, (here _).mpr ⟨lines, first, rfl⟩,
          (later lines).mpr ⟨others, remaining, (write_write ..).symm⟩⟩

end Runs

section Notification

variable {NameBucket IndexBucket State : Type} [DecidableEq NameBucket] [DecidableEq IndexBucket]
  {platform : Platform NameBucket IndexBucket State}
  {observers : Observers NameBucket IndexBucket State}
  {world : World NameBucket IndexBucket State} {link : GetlinkRsp}

theorem change_untold (linked : Linked platform.hash world.objects world.next world.store)
    (subscribed : world.gate.notif = true)
    (quiet : ∀ hndl ∈ world.store.ifaces, (world.objects hndl.iface).idx = link.ifiIndex →
      shown (world.objects hndl.iface) = carried link) :
    gateNotify platform observers (.change link) world =
      .ok (0, world.record (.notified .change link.ifiIndex 0)) := by
  simp only [gateNotify, subscribed, if_true, storeOnEvent, storeOnIfaceChange]
  cases found : storeFindIfaceByindex platform.hash world.objects world.store link.ifiIndex with
  | none => rfl
  | some interface =>
      obtain ⟨hndl, member, rfl, idx⟩ := (find_byindex_iff linked ..).mp found
      have same := quiet hndl member idx
      have unchanged : (ifaceRefreshState (world.objects hndl.iface) link).1 = false := by
        rw [refresh_changed]
        exact decide_eq_false (not_not.mpr same)
      have kept : (ifaceRefreshState (world.objects hndl.iface) link).2 =
          world.objects hndl.iface := refresh_unmoved (Volatile.mk.inj same)
      have self : world.setObject hndl.iface (world.objects hndl.iface) = world := by
        rw [World.setObject, Function.update_eq_self]
      simp only [unchanged, kept, self]
      rfl

theorem change_told {hndl : Hndl}
    (linked : Linked platform.hash world.objects world.next world.store)
    (subscribed : world.gate.notif = true) (member : hndl ∈ world.store.ifaces)
    (idx : (world.objects hndl.iface).idx = link.ifiIndex)
    (differs : shown (world.objects hndl.iface) ≠ carried link) :
    gateNotify platform observers (.change link) world =
      (fun next => (0, next.record (.notified .change link.ifiIndex 0))) <$>
        observers hndl.iface (world.setObject hndl.iface
          (ifaceRefreshState (world.objects hndl.iface) link).2) := by
  have found : storeFindIfaceByindex platform.hash world.objects world.store link.ifiIndex =
      some hndl.iface := (find_byindex_iff linked ..).mpr ⟨hndl, member, rfl, idx⟩
  have changed : (ifaceRefreshState (world.objects hndl.iface) link).1 = true := by
    rw [refresh_changed]
    exact decide_eq_true differs
  simp only [gateNotify, subscribed, if_true, storeOnEvent, storeOnIfaceChange, found, changed]
  cases observers hndl.iface (world.setObject hndl.iface
    (ifaceRefreshState (world.objects hndl.iface) link).2) <;> rfl

theorem queue_skipped {notification : Notification} (rest : List Notification)
    (skipped : ¬ Heard notification) :
    gateNotifyChanges platform observers (notification :: rest) world =
      gateNotifyChanges platform observers rest world := by
  rw [gateNotifyChanges, if_pos ((skipped_iff _).mpr skipped)]

theorem queue_ok {notification : Notification} (rest : List Notification)
    (reached : Heard notification) {next : World NameBucket IndexBucket State}
    (notified : gateNotify platform observers (.change notification.link) world =
      .ok (0, next)) :
    gateNotifyChanges platform observers (notification :: rest) world =
      gateNotifyChanges platform observers rest next := by
  rw [gateNotifyChanges, if_neg (mt (skipped_iff _).mp (not_not.mpr reached)), notified]
  rfl

theorem queue_error {notification : Notification} (rest : List Notification)
    (reached : Heard notification) {fault : Fault}
    (notified : gateNotify platform observers (.change notification.link) world =
      .error fault) :
    gateNotifyChanges platform observers (notification :: rest) world = .error fault := by
  rw [gateNotifyChanges, if_neg (mt (skipped_iff _).mp (not_not.mpr reached)), notified]
  rfl

theorem change_answer {ret : Int} {next : World NameBucket IndexBucket State}
    (done : gateNotify platform observers (.change link) world = .ok (ret, next)) : ret = 0 := by
  unfold gateNotify at done
  split at done
  · obtain ⟨⟨answer, middle⟩, handled, done⟩ := (bind_ok_iff ..).mp done
    obtain ⟨after, _, same⟩ := (bind_ok_iff ..).mp handled
    cases same
    cases done
    rfl
  · cases done
    rfl

theorem queue_append (first second : List Notification) :
    gateNotifyChanges platform observers (first ++ second) world =
      gateNotifyChanges platform observers first world >>= fun done =>
        gateNotifyChanges platform observers second done.2 := by
  induction first generalizing world with
  | nil => rfl
  | cons notification rest ih =>
      by_cases reached : Heard notification
      · cases notified : gateNotify platform observers (.change notification.link) world with
        | error fault =>
            rw [List.cons_append, queue_error _ reached notified, queue_error _ reached notified]
            rfl
        | ok done =>
            obtain ⟨ret, middle⟩ := done
            obtain rfl := change_answer notified
            rw [List.cons_append, queue_ok _ reached notified, queue_ok _ reached notified]
            exact ih
      · rw [List.cons_append, queue_skipped _ reached, queue_skipped _ reached, ih]

end Notification

section Loop

variable {NameBucket IndexBucket Kstate : Type} {printer : Printer} {names : Nat → CString}
  {platform : Platform NameBucket IndexBucket Kstate}
  {heap : Terminal NameBucket IndexBucket Kstate → Scratch}
  {loaded world next : Terminal NameBucket IndexBucket Kstate}

/-- What the program has done since the store was loaded. -/
structure Watching (platform : Platform NameBucket IndexBucket Kstate)
    (loaded world : Terminal NameBucket IndexBucket Kstate) : Prop where
  linked : Linked platform.hash world.objects world.next world.store
  subscribed : world.gate.notif = true
  valid : ∀ hndl ∈ world.store.ifaces, (world.objects hndl.iface).state ≠ .invalid
  store : world.store = loaded.store
  idx : ∀ address, (world.objects address).idx = (loaded.objects address).idx
  settings : ∀ address, SameSettings (loaded.objects address) (world.objects address)

def finds (platform : Platform NameBucket IndexBucket Kstate)
    (world : Terminal NameBucket IndexBucket Kstate) : UInt32 → Option Addr :=
  storeFindIfaceByindex platform.hash world.objects world.store

def values (world : Terminal NameBucket IndexBucket Kstate) : Addr → Volatile :=
  fun address => shown (world.objects address)

theorem Watching.finds_eq (watching : Watching platform loaded world) :
    finds platform world = finds platform loaded := by
  rw [finds, watching.store]
  exact find_congr watching.idx

theorem Watching.recorded (watching : Watching platform loaded world) (event : Event) :
    Watching platform loaded (world.record event) :=
  ⟨watching.linked, watching.subscribed, watching.valid, watching.store, watching.idx,
    watching.settings⟩

theorem Watching.written (watching : Watching platform loaded world) (lines : List Bytes) :
    Watching platform loaded (write lines world) :=
  ⟨watching.linked, watching.subscribed, watching.valid, watching.store, watching.idx,
    watching.settings⟩

theorem Watching.refreshed (watching : Watching platform loaded world) {hndl : Hndl}
    (member : hndl ∈ world.store.ifaces) (link : GetlinkRsp) :
    Watching platform loaded (world.setObject hndl.iface
      (ifaceRefreshState (world.objects hndl.iface) link).2) where
  linked := watching.linked.replace rfl
    ((refresh_eased _ link).sound (watching.linked.sound hndl member))
  subscribed := watching.subscribed
  valid other there := by
    have kept : (ifaceRefreshState (world.objects hndl.iface) link).2.state =
        (world.objects hndl.iface).state := rfl
    exact (replaced_field kept other.iface).symm ▸ watching.valid other there
  store := watching.store
  idx address := by
    have kept : (ifaceRefreshState (world.objects hndl.iface) link).2.idx =
        (world.objects hndl.iface).idx := rfl
    exact (replaced_field kept address).trans (watching.idx address)
  settings address := by
    by_cases self : address = hndl.iface
    · subst self
      rw [World.set_object_self]
      exact (watching.settings _).trans (refresh_same_settings _ link)
    · have other : (world.setObject hndl.iface
          (ifaceRefreshState (world.objects hndl.iface) link).2).objects address =
          world.objects address := Function.update_of_ne self _ _
      rw [other]
      exact watching.settings address

theorem refreshed_values (interface : Addr) (link : GetlinkRsp) :
    values (world.setObject interface (ifaceRefreshState (world.objects interface) link).2) =
      Function.update (values world) interface (carried link) := by
  funext address
  by_cases self : address = interface
  · subst self
    rw [values, World.set_object_self, refresh_shown, Function.update_self]
  · rw [Function.update_of_ne self]
    exact congrArg shown (Function.update_of_ne self _ _)

structure Printed (names : Nat → CString) (platform : Platform NameBucket IndexBucket Kstate)
    (loaded world next : Terminal NameBucket IndexBucket Kstate) (link : GetlinkRsp)
    (texts : List (List Bytes)) : Prop where
  watching : Watching platform loaded next
  output : next.kernel.2 = world.kernel.2 ++ texts.flatten
  told : ∀ rest, told names (finds platform loaded) loaded.objects (link :: rest) (values world) =
    (told names (finds platform loaded) loaded.objects rest (values next)).map (texts ++ ·)

theorem unmoved_printed (watching : Watching platform loaded world) {link : GetlinkRsp}
    (quiet : ∀ hndl ∈ world.store.ifaces, (world.objects hndl.iface).idx = link.ifiIndex →
      shown (world.objects hndl.iface) = carried link) :
    Printed names platform loaded world (world.record (.notified .change link.ifiIndex 0)) link
      [] where
  watching := watching.recorded _
  output := (List.append_nil _).symm
  told rest := by
    have unmoved : ∀ interface, finds platform loaded link.ifiIndex = some interface →
        values world interface = carried link := by
      intro interface found
      rw [← watching.finds_eq] at found
      obtain ⟨hndl, member, rfl, idx⟩ := (find_byindex_iff watching.linked ..).mp found
      exact quiet hndl member idx
    have shows : values (world.record (.notified .change link.ifiIndex 0)) = values world := rfl
    rw [told_unmoved unmoved, shows]
    exact Option.map_id'.symm

theorem fresh_watching (fresh : Fresh (printing platform) loaded) :
    Watching platform loaded loaded where
  linked := fresh.kept.linked
  subscribed := fresh.kept.subscribed
  valid hndl member := by
    rw [fresh.ready.clean hndl member]
    decide
  store := rfl
  idx _ := rfl
  settings address := same_settings_refl (loaded.objects address)

variable [DecidableEq NameBucket] [DecidableEq IndexBucket]

theorem moved_printed (documented : Documented printer names)
    (watching : Watching platform loaded world) {link : GetlinkRsp} {hndl : Hndl}
    (member : hndl ∈ world.store.ifaces) (idx : (world.objects hndl.iface).idx = link.ifiIndex)
    (differs : shown (world.objects hndl.iface) ≠ carried link) :
    (∃ next texts, gateNotify (printing platform) (printIface printer platform heap)
        (.change link) world = .ok (0, next) ∧
      Printed names platform loaded world next link texts) ∨
    ((∃ fault, gateNotify (printing platform) (printIface printer platform heap)
        (.change link) world = .error fault) ∧ ∀ rest,
      told names (finds platform loaded) loaded.objects (link :: rest) (values world) = none) := by
  let refreshed := world.setObject hndl.iface
    (ifaceRefreshState (world.objects hndl.iface) link).2
  have notified : gateNotify (printing platform) (printIface printer platform heap)
      (.change link) world = (fun next => (0, next.record (.notified .change link.ifiIndex 0))) <$>
        printIface printer platform heap hndl.iface refreshed :=
    change_told watching.linked watching.subscribed member idx differs
  have found : finds platform loaded link.ifiIndex = some hndl.iface := by
    rw [← watching.finds_eq]
    exact (find_byindex_iff watching.linked ..).mpr ⟨hndl, member, rfl, idx⟩
  have watched : Watching platform loaded refreshed := watching.refreshed member link
  have again : refreshed.objects hndl.iface =
      (ifaceRefreshState (loaded.objects hndl.iface) link).2 := by
    rw [World.set_object_self]
    exact refresh_again (watching.settings hndl.iface) link
  have valid := watched.valid hndl member
  have prints : ∀ next, printIface printer platform heap hndl.iface refreshed = .ok next ↔
      ∃ lines, moved names loaded.objects (hndl.iface, link) = some lines ∧
        next = write lines refreshed := by
    intro next
    rw [print_iface_iff documented valid ((watched.linked.sound hndl member).held valid), again]
    rfl
  rw [notified]
  cases recorded : moved names loaded.objects (hndl.iface, link) with
  | none =>
      refine .inr ⟨?_, fun rest => ?_⟩
      · cases printed : printIface printer platform heap hndl.iface refreshed with
        | error fault => exact ⟨fault, rfl⟩
        | ok next =>
            obtain ⟨lines, some_lines, _⟩ := (prints next).mp printed
            rw [recorded] at some_lines
            cases some_lines
      · rw [told_moved found differs, recorded]
        rfl
  | some lines =>
      have printed := (prints _).mpr ⟨lines, recorded, rfl⟩
      rw [printed]
      refine .inl ⟨_, [lines], rfl, (watched.written lines).recorded _, ?_, fun rest => ?_⟩
      · exact congrArg (world.kernel.2 ++ ·) (List.append_nil lines).symm
      · have shows : values ((write lines refreshed).record (.notified .change link.ifiIndex 0)) =
            Function.update (values world) hndl.iface (carried link) :=
          refreshed_values hndl.iface link
        rw [told_moved found differs, recorded, shows]
        rfl

theorem change_printed (documented : Documented printer names)
    (watching : Watching platform loaded world) (link : GetlinkRsp) :
    (∃ next texts, gateNotify (printing platform) (printIface printer platform heap)
        (.change link) world = .ok (0, next) ∧
      Printed names platform loaded world next link texts) ∨
    ((∃ fault, gateNotify (printing platform) (printIface printer platform heap)
        (.change link) world = .error fault) ∧ ∀ rest,
      told names (finds platform loaded) loaded.objects (link :: rest) (values world) = none) := by
  by_cases moving : ∃ hndl ∈ world.store.ifaces,
      (world.objects hndl.iface).idx = link.ifiIndex ∧
        shown (world.objects hndl.iface) ≠ carried link
  · obtain ⟨hndl, member, idx, differs⟩ := moving
    exact moved_printed documented watching member idx differs
  · have quiet : ∀ hndl ∈ world.store.ifaces, (world.objects hndl.iface).idx = link.ifiIndex →
        shown (world.objects hndl.iface) = carried link := by
      intro hndl member idx
      by_contra differs
      exact moving ⟨hndl, member, idx, differs⟩
    exact .inl ⟨_, [], change_untold watching.linked watching.subscribed quiet,
      unmoved_printed watching quiet⟩

/-- A drained queue prints what its links tell, or the program ends at the first link that
cannot be printed. -/
theorem queue_told (documented : Documented printer names) (queue : List Notification)
    (watching : Watching platform loaded world) :
    (∃ next, gateNotifyChanges (printing platform) (printIface printer platform heap) queue world =
        .ok (0, next) ∧ ∃ texts,
          told names (finds platform loaded) loaded.objects (heard queue) (values world) =
            some texts ∧ next.kernel.2 = world.kernel.2 ++ texts.flatten) ∨
      (∃ fault, gateNotifyChanges (printing platform) (printIface printer platform heap) queue
        world = .error fault) ∧
        told names (finds platform loaded) loaded.objects (heard queue) (values world) = none := by
  induction queue generalizing world with
  | nil => exact .inl ⟨world, rfl, [], rfl, (List.append_nil _).symm⟩
  | cons notification rest ih =>
      by_cases reached : Heard notification
      · rw [heard_reached rest reached]
        cases change_printed documented watching notification.link with
        | inl went =>
            obtain ⟨middle, texts, notified, printed⟩ := went
            rw [queue_ok rest reached notified, printed.told]
            cases ih printed.watching with
            | inl finished =>
                obtain ⟨next, done, more, later, output⟩ := finished
                refine .inl ⟨next, done, texts ++ more, ?_, ?_⟩
                · rw [later, Option.map_some]
                · rw [output, printed.output, List.flatten_append, List.append_assoc]
            | inr halted =>
                refine .inr ⟨halted.1, ?_⟩
                rw [halted.2, Option.map_none]
        | inr halted =>
            obtain ⟨⟨fault, notified⟩, silent⟩ := halted
            exact .inr ⟨⟨fault, queue_error rest reached notified⟩, silent _⟩
      · rw [queue_skipped rest reached, heard_skipped rest reached]
        exact ih watching

theorem watch_flatten (queues : List (List Notification)) :
    watch printer platform heap queues world = Prod.snd <$>
      gateNotifyChanges (printing platform) (printIface printer platform heap) queues.flatten
        world := by
  induction queues generalizing world with
  | nil => rfl
  | cons queue rest ih =>
      rw [watch, List.flatten_cons, queue_append]
      cases gateNotifyChanges (printing platform) (printIface printer platform heap) queue
        world with
      | error fault => rfl
      | ok done => exact ih

theorem open_silent (reports : KernelReports platform.kernel) {objects : Objects}
    {kernel : Kstate} {ret : Int}
    (opened : nlifdOpen (printing platform) objects (kernel, []) = .ok (ret, loaded)) :
    loaded.kernel.2 = [] := by
  obtain ⟨answer, reached, dumped, result⟩ := store_load_ok opened
  have silent : reached.2 = [] := (congrArg (fun done => done.2.2) dumped).symm
  cases result with
  | inl same =>
      rw [same]
      exact silent
  | inr loading =>
      obtain ⟨links, rfl, loading⟩ := loading
      have reported := (printing_reports reports).dump _ _ _ dumped
      have initial := kept_init (printing platform) objects reached
      have begun : Kept (printing platform)
          { LibraryRun.storeInit objects reached with gate := { notif := true, member := true } } :=
        ⟨initial.linked, rfl, initial.indexed⟩
      have news : ∀ link ∈ links, ∀ world ret next,
          Kept (printing platform) world ∧ world.kernel.2 = [] →
          gateNotify (printing platform) noObservers (.new link) world = .ok (ret, next) →
          Kept (printing platform) next ∧ next.kernel.2 = [] := by
        rintro link member world ret next ⟨kept, quiet⟩ notified
        refine ⟨new_link_kept kept (reported link member) notified, ?_⟩
        obtain ⟨after, rfl, outcome⟩ := new_link_ok kept notified
        cases outcome with
        | inl same => exact same ▸ quiet
        | inr enrolled =>
            obtain ⟨_, rfl⟩ := enrolled
            exact quiet
      have kept := load_each_invariant _ links news ⟨begun, silent⟩ loading
      exact kept.2

theorem watch_prints_iff (documented : Documented printer names)
    (queues : List (List Notification)) (watching : Watching platform loaded world)
    (output : List Bytes) :
    (∃ next, watch printer platform heap queues world = .ok next ∧ next.kernel.2 = output) ↔
      ∃ texts, told names (finds platform loaded) loaded.objects (heard queues.flatten)
          (values world) = some texts ∧ output = world.kernel.2 ++ texts.flatten := by
  rw [watch_flatten]
  cases queue_told documented queues.flatten watching with
  | inl finished =>
      obtain ⟨last, done, texts, tells, written⟩ := finished
      rw [done, tells]
      constructor
      · rintro ⟨next, same, rfl⟩
        cases same
        exact ⟨texts, rfl, written⟩
      · rintro ⟨others, same, rfl⟩
        cases same
        exact ⟨last, rfl, written⟩
  | inr halted =>
      obtain ⟨⟨fault, ended⟩, silent⟩ := halted
      rw [ended, silent]
      constructor
      · rintro ⟨next, same, _⟩
        cases same
      · rintro ⟨texts, same, _⟩
        cases same

/-- Once the store is loaded, the program prints every interface and then, for each link that
moves one, this interface as it was loaded with the values of that link, whether they come in
one queue or in several. It goes on exactly as long as all of these can be printed. -/
theorem monitor_shows (documented : Documented printer names)
    (reports : KernelReports platform.kernel) {objects : Objects} {kernel : Kstate}
    (opened : nlifdOpen (printing platform) objects (kernel, []) = .ok (0, loaded))
    (queues : List (List Notification)) (output : List Bytes) :
    (∃ world, monMain printer platform heap objects kernel queues = .ok (0, world) ∧
        world.kernel.2 = output) ↔
      ∃ first later,
        loaded.store.ifaces.mapM (fun hndl => ifaceRecord names (loaded.objects hndl.iface)) =
          some first ∧
        told names (finds platform loaded) loaded.objects (heard queues.flatten)
          (values loaded) = some later ∧ output = first.flatten ++ later.flatten := by
  have fresh := open_fresh (printing_reports reports) opened
  have watching := fresh_watching fresh
  have silent := open_silent reports opened
  have held : ∀ hndl ∈ loaded.store.ifaces, Held (loaded.objects hndl.iface) :=
    fun hndl member => (watching.linked.sound hndl member).held (watching.valid hndl member)
  have printed : ∀ world, printEach printer platform heap loaded.store.ifaces loaded = .ok world ↔
      ∃ texts, loaded.store.ifaces.mapM
          (fun hndl => ifaceRecord names (loaded.objects hndl.iface)) = some texts ∧
        world = write texts.flatten loaded :=
    fun world => print_each_iff documented watching.valid held
  have goes : ∀ lines, (∃ next, watch printer platform heap queues (write lines loaded) =
        .ok next ∧ next.kernel.2 = output) ↔
      ∃ texts, told names (finds platform loaded) loaded.objects (heard queues.flatten)
          (values loaded) = some texts ∧ output = lines ++ texts.flatten := by
    intro lines
    have turned : (∃ next, watch printer platform heap queues (write lines loaded) =
        .ok next ∧ next.kernel.2 = output) ↔ _ :=
      watch_prints_iff documented queues (watching.written lines) output
    have written : (write lines loaded).kernel.2 = lines := by
      rw [write, silent, List.nil_append]
    rw [written] at turned
    exact turned
  unfold monMain
  rw [opened]
  constructor
  · rintro ⟨world, done, written⟩
    simp only [ok_bind, ne_eq, not_true_eq_false, if_false] at done
    obtain ⟨middle, first, done⟩ := (bind_ok_iff ..).mp done
    obtain ⟨last, watched, done⟩ := (bind_ok_iff ..).mp done
    cases done
    obtain ⟨texts, recorded, rfl⟩ := (printed middle).mp first
    obtain ⟨later, tells, same⟩ := (goes texts.flatten).mp ⟨world, watched, written⟩
    exact ⟨texts, later, recorded, tells, same⟩
  · rintro ⟨texts, later, recorded, tells, same⟩
    obtain ⟨last, watched, written⟩ := (goes texts.flatten).mpr ⟨later, tells, same⟩
    refine ⟨last, ?_, written⟩
    have first := (printed _).mpr ⟨texts, recorded, rfl⟩
    simp only [ok_bind, ne_eq, not_true_eq_false, if_false, first, watched]

end Loop

def loadedOnce : Except Fault ((Int × Option Nat × Option Nat) × CodeTerminal) := do
  let (ret, loaded) ←
    nlifdOpen (printing oneLinkPlatform) (fun _ => ifaceFill oneLink) ((), [])
  let first := loaded.store.ifaces.mapM
    fun hndl => ifaceRecord FlagString.flagNames (loaded.objects hndl.iface)
  let later := told FlagString.flagNames (finds oneLinkPlatform loaded) loaded.objects
    [operatingLink, operatingLink] (values loaded)
  .ok ((ret, first.map fun texts => texts.flatten.length,
    later.map fun texts => texts.flatten.length), loaded)

/-- The link "a" is printed when it is loaded and once when it comes up. -/
theorem operating_link_monitored :
    ∃ output : List Bytes, output.length = 28 ∧
      ∃ world, monMain codePrinter oneLinkPlatform (fun _ => FlagString.blank)
          (fun _ => ifaceFill oneLink) () [[⟨true, operatingLink⟩], [⟨true, operatingLink⟩]] =
            .ok (0, world) ∧ world.kernel.2 = output := by
  have result : Prod.fst <$> loadedOnce = .ok (0, some 14, some 14) := by decide +kernel
  obtain ⟨⟨_, loaded⟩, done, rfl⟩ := (map_ok_iff ..).mp result
  obtain ⟨⟨ret, world⟩, opened, same⟩ := (bind_ok_iff ..).mp done
  simp only [Except.ok.injEq, Prod.mk.injEq] at same
  obtain ⟨⟨rfl, first, later⟩, rfl⟩ := same
  obtain ⟨texts, recorded, count⟩ := Option.map_eq_some_iff.mp first
  obtain ⟨others, tells, further⟩ := Option.map_eq_some_iff.mp later
  refine ⟨texts.flatten ++ others.flatten, ?_, ?_⟩
  · rw [List.length_append, count, further]
  · exact (monitor_shows code_printer_documented one_link_kernel_reports opened _ _).mpr
      ⟨texts, others, recorded, tells, rfl⟩

end Nlif.Monitor
