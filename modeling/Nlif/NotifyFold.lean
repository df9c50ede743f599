import Nlif.ObsrvModel
import Nlif.OperMirror
import Nlif.StagedRefresh

/-!
# A queue of notifications

`nlif_gate_notify_changes()` over a whole queue, with the subscribers of the store's
notifier. What each interface shows afterwards is decided by the last notification heard
for it; what the subscribers are called for is the fold of the queue over the values shown.
-/

namespace Nlif.NotifyFold

open LinkModel IfaceModel FaultWalk LinkRing ObsrvModel StoreModel StoreInvariant StoreLookup
  GateModel StagedRefresh
open OperMirror (Heard skipped_iff refresh_unmoved)

set_option autoImplicit false

/-- `NLIF_STORE_IFACE_CHANGE_EVT` -/
def NLIF_STORE_IFACE_CHANGE_EVT : Nat := 0

def heard (queue : List Notification) : List GetlinkRsp :=
  (queue.filter fun notification => Heard notification).map Notification.link

def lastHeard (index : UInt32) (links : List GetlinkRsp) : Option GetlinkRsp :=
  (links.filter fun link => link.ifiIndex = index).getLast?

/-- The interface shows what the last link carries, and nothing else of it changed. -/
structure Follows (last : Option GetlinkRsp) (before after : Iface) : Prop where
  settings : SameSettings before after
  shows : shown after = (last.map carried).getD (shown before)

/-- The interfaces that change, once for each link that changes one of the values shown. -/
def effective (find : UInt32 → Option Addr) : List GetlinkRsp → (Addr → Volatile) → List Addr
  | [], _ => []
  | link :: rest, values =>
      match find link.ifiIndex with
      | none => effective find rest values
      | some interface =>
          if values interface = carried link then effective find rest values
          else interface :: effective find rest (Function.update values interface (carried link))

theorem follows_refl (interface : Iface) : Follows none interface interface :=
  ⟨same_settings_refl interface, rfl⟩

theorem last_heard_cons (index : UInt32) (link : GetlinkRsp) (links : List GetlinkRsp) :
    lastHeard index (link :: links) =
      if link.ifiIndex = index then some ((lastHeard index links).getD link)
      else lastHeard index links := by
  unfold lastHeard
  by_cases same : link.ifiIndex = index
  · rw [if_pos same, List.filter_cons_of_pos (by simpa using same), List.getLast?_cons]
  · rw [if_neg same, List.filter_cons_of_neg (by simpa using same)]

theorem Follows.after_refresh {last : Option GetlinkRsp} {before after : Iface}
    {link : GetlinkRsp} (follows : Follows last (ifaceRefreshState before link).2 after) :
    Follows (some (last.getD link)) before after where
  settings := (refresh_same_settings before link).trans follows.settings
  shows := by
    rw [follows.shows, refresh_shown]
    cases last with
    | none => rfl
    | some later => rfl

section Notifier

variable {NameBucket IndexBucket Kstate Client : Type}

/-- The world with the store's notifier beside the kernel. A callback is handed the
interface and may read every object. -/
abbrev WatchedWorld (NameBucket IndexBucket Kstate Client : Type) :=
  World NameBucket IndexBucket (Kstate × Obsrv (Addr × Objects) Client)

/-- `nlif_obsrv_notify(&store->notif, NLIF_STORE_IFACE_CHANGE_EVT, iface)`. -/
def notifyStore (onEvent : Addr → OnEvent (Addr × Objects) Client) (notifier : Addr)
    (fuel : Nat) : Observers NameBucket IndexBucket (Kstate × Obsrv (Addr × Objects) Client) :=
  fun interface world =>
    match nlifObsrvNotify onEvent NLIF_STORE_IFACE_CHANGE_EVT (interface, world.objects)
        notifier fuel world.kernel.2 with
    | some state => .ok { world with kernel := (world.kernel.1, state) }
    -- the bound was reached before the walk came back to the notifier
    | none => .error .unreachable

def called (world : WatchedWorld NameBucket IndexBucket Kstate Client) :
    List (Addr × Nat × Addr) :=
  world.kernel.2.calls.map fun call => (call.subscriber, call.event, call.data.1)

def announcements (subscribers : List Addr) (interface : Addr) : List (Addr × Nat × Addr) :=
  subscribers.map fun subscriber => (subscriber, NLIF_STORE_IFACE_CHANGE_EVT, interface)

variable {platform : Platform NameBucket IndexBucket (Kstate × Obsrv (Addr × Objects) Client)}
  {onEvent : Addr → OnEvent (Addr × Objects) Client} {notifier : Addr}
  {subscribers : List Addr} {world : WatchedWorld NameBucket IndexBucket Kstate Client}

/-- The store is subscribed to the gate, and these subscribers to the store. -/
structure Watched
    (platform : Platform NameBucket IndexBucket (Kstate × Obsrv (Addr × Objects) Client))
    (notifier : Addr) (subscribers : List Addr)
    (world : WatchedWorld NameBucket IndexBucket Kstate Client) : Prop where
  linked : Linked platform.hash world.objects world.next world.store
  subscribed : world.gate.notif = true
  listed : Sole world.kernel.2.links notifier subscribers

theorem notify_store_returns {fuel : Nat} {interface : Addr}
    (stays : ∀ subscriber event data client, (onEvent subscriber event data client).1 = false)
    (listed : Sole world.kernel.2.links notifier subscribers)
    (enough : subscribers.length < fuel) :
    notifyStore onEvent notifier fuel interface world = .ok { world with
      kernel := (world.kernel.1, visitAll (nlifObsrvNotifySubscriber onEvent
        NLIF_STORE_IFACE_CHANGE_EVT (interface, world.objects)) subscribers world.kernel.2) } := by
  have delivered := notify_delivers (fun subscriber client =>
    stays subscriber NLIF_STORE_IFACE_CHANGE_EVT (interface, world.objects) client) listed enough
  unfold notifyStore
  rw [delivered]

theorem Watched.recorded {event : Event} (watched : Watched platform notifier subscribers world) :
    Watched platform notifier subscribers (world.record event) where
  linked := watched.linked
  subscribed := watched.subscribed
  listed := watched.listed

def informed (onEvent : Addr → OnEvent (Addr × Objects) Client) (subscribers : List Addr)
    (interface : Addr) (link : GetlinkRsp)
    (world : WatchedWorld NameBucket IndexBucket Kstate Client) :
    WatchedWorld NameBucket IndexBucket Kstate Client :=
  let refreshed :=
    world.setObject interface (ifaceRefreshState (world.objects interface) link).2
  { refreshed with
    kernel := (refreshed.kernel.1, visitAll (nlifObsrvNotifySubscriber onEvent
      NLIF_STORE_IFACE_CHANGE_EVT (interface, refreshed.objects)) subscribers refreshed.kernel.2)
    trace := .notified .change link.ifiIndex 0 :: refreshed.trace }

section Informed

variable {link : GetlinkRsp} {hndl : Hndl} {interface other : Addr}

theorem informed_self :
    (informed onEvent subscribers interface link world).objects interface =
      (ifaceRefreshState (world.objects interface) link).2 :=
  Function.update_self ..

theorem informed_other (different : other ≠ interface) :
    (informed onEvent subscribers interface link world).objects other = world.objects other :=
  Function.update_of_ne different ..

theorem informed_idx (address : Addr) :
    ((informed onEvent subscribers interface link world).objects address).idx =
      (world.objects address).idx := by
  have same : (ifaceRefreshState (world.objects interface) link).2.idx =
      (world.objects interface).idx := rfl
  exact GateSpec.replaced_field same address

theorem informed_shown :
    (fun address => shown ((informed onEvent subscribers interface link world).objects address)) =
      Function.update (fun address => shown (world.objects address)) interface (carried link) := by
  funext address
  by_cases self : address = interface
  · rw [self, informed_self, refresh_shown, Function.update_self]
  · rw [informed_other self, Function.update_of_ne self]

theorem informed_watched (watched : Watched platform notifier subscribers world)
    (stays : ∀ subscriber event data client, (onEvent subscriber event data client).1 = false)
    (member : hndl ∈ world.store.ifaces) :
    Watched platform notifier subscribers
      (informed onEvent subscribers hndl.iface link world) where
  linked := by
    have sound := watched.linked.sound hndl member
    exact watched.linked.replace rfl ((LibraryRun.refresh_eased _ link).sound sound)
  subscribed := watched.subscribed
  listed := by
    have kept : (informed onEvent subscribers hndl.iface link world).kernel.2.links =
        world.kernel.2.links := visit_all_links (fun subscriber => stays subscriber _ _) _
    rw [kept]
    exact watched.listed

theorem informed_called :
    called (informed onEvent subscribers interface link world) =
      called world ++ announcements subscribers interface := by
  have announced : ∀ (subscribers : List Addr) (objects : Objects) (client : Client),
      (deliveries onEvent NLIF_STORE_IFACE_CHANGE_EVT (interface, objects) subscribers client).map
        (fun call => (call.subscriber, call.event, call.data.1)) =
      announcements subscribers interface := by
    intro subscribers objects client
    induction subscribers generalizing client with
    | nil => rfl
    | cons subscriber rest ih => exact congrArg (List.cons _) (ih _)
  unfold called informed
  simp only
  rw [visit_all_calls, List.map_append, announced]
  rfl

end Informed

section Change

variable [DecidableEq NameBucket] [DecidableEq IndexBucket] {fuel : Nat} {link : GetlinkRsp}

theorem change_quiet (watched : Watched platform notifier subscribers world)
    (quiet : ∀ hndl ∈ world.store.ifaces, (world.objects hndl.iface).idx = link.ifiIndex →
      shown (world.objects hndl.iface) = carried link) :
    gateNotify platform (notifyStore onEvent notifier fuel) (.change link) world =
      .ok (0, world.record (.notified .change link.ifiIndex 0)) := by
  simp only [gateNotify, watched.subscribed, if_true, storeOnEvent, storeOnIfaceChange]
  cases found : storeFindIfaceByindex platform.hash world.objects world.store link.ifiIndex with
  | none => rfl
  | some interface =>
      obtain ⟨hndl, member, rfl, idx⟩ := (find_byindex_iff watched.linked ..).mp found
      have same := quiet hndl member idx
      have unchanged : (ifaceRefreshState (world.objects hndl.iface) link).1 = false := by
        rw [refresh_changed]
        exact decide_eq_false (not_not.mpr same)
      have kept : (ifaceRefreshState (world.objects hndl.iface) link).2 =
          world.objects hndl.iface := refresh_unmoved (Volatile.mk.inj same)
      have self : world.setObject hndl.iface (world.objects hndl.iface) = world := by
        rw [World.setObject, Function.update_eq_self]
      simp only [unchanged, kept, self]
      rfl

theorem change_moved {hndl : Hndl} (watched : Watched platform notifier subscribers world)
    (stays : ∀ subscriber event data client, (onEvent subscriber event data client).1 = false)
    (enough : subscribers.length < fuel) (member : hndl ∈ world.store.ifaces)
    (idx : (world.objects hndl.iface).idx = link.ifiIndex)
    (differs : shown (world.objects hndl.iface) ≠ carried link) :
    gateNotify platform (notifyStore onEvent notifier fuel) (.change link) world =
      .ok (0, informed onEvent subscribers hndl.iface link world) := by
  have found : storeFindIfaceByindex platform.hash world.objects world.store link.ifiIndex =
      some hndl.iface := (find_byindex_iff watched.linked ..).mpr ⟨hndl, member, rfl, idx⟩
  have changed : (ifaceRefreshState (world.objects hndl.iface) link).1 = true := by
    rw [refresh_changed]
    exact decide_eq_true differs
  let refreshed :=
    world.setObject hndl.iface (ifaceRefreshState (world.objects hndl.iface) link).2
  have returned : notifyStore onEvent notifier fuel hndl.iface refreshed = _ :=
    notify_store_returns stays watched.listed enough
  simp only [gateNotify, watched.subscribed, if_true, storeOnEvent, storeOnIfaceChange, found,
    changed]
  rw [returned]
  rfl

end Change

structure Folded
    (platform : Platform NameBucket IndexBucket (Kstate × Obsrv (Addr × Objects) Client))
    (subscribers : List Addr) (links : List GetlinkRsp)
    (before after : WatchedWorld NameBucket IndexBucket Kstate Client) : Prop where
  enrolled : ∀ hndl ∈ before.store.ifaces,
    Follows (lastHeard (before.objects hndl.iface).idx links) (before.objects hndl.iface)
      (after.objects hndl.iface)
  others : ∀ address, (∀ hndl ∈ before.store.ifaces, hndl.iface ≠ address) →
    after.objects address = before.objects address
  store : after.store = before.store
  gate : after.gate = before.gate
  reach : after.next = before.next
  kernel : after.kernel.1 = before.kernel.1
  calls : called after = called before ++
    (effective (storeFindIfaceByindex platform.hash before.objects before.store) links
      (fun address => shown (before.objects address))).flatMap (announcements subscribers)

theorem folded_nil : Folded platform subscribers [] world world where
  enrolled hndl _ := follows_refl (world.objects hndl.iface)
  others _ _ := rfl
  store := rfl
  gate := rfl
  reach := rfl
  kernel := rfl
  calls := (List.append_nil _).symm

theorem find_congr {hash : Hashing NameBucket IndexBucket} {objects later : Objects}
    {store : Store NameBucket IndexBucket}
    (idx : ∀ address, (later address).idx = (objects address).idx) :
    storeFindIfaceByindex hash later store = storeFindIfaceByindex hash objects store := by
  funext index
  simp only [storeFindIfaceByindex, storeSearchIfaceHndlByindex, idx]

variable {links : List GetlinkRsp} {link : GetlinkRsp}
  {after : WatchedWorld NameBucket IndexBucket Kstate Client}

theorem Follows.after_quiet {last : Option GetlinkRsp} {before after : Iface}
    (follows : Follows last before after) (same : shown before = carried link) :
    Follows (some (last.getD link)) before after where
  settings := follows.settings
  shows := by
    rw [follows.shows]
    cases last with
    | none => exact same
    | some later => rfl

theorem Folded.after_quiet (watched : Watched platform notifier subscribers world)
    (quiet : ∀ hndl ∈ world.store.ifaces, (world.objects hndl.iface).idx = link.ifiIndex →
      shown (world.objects hndl.iface) = carried link)
    (folded : Folded platform subscribers links
      (world.record (.notified .change link.ifiIndex 0)) after) :
    Folded platform subscribers (link :: links) world after where
  enrolled hndl member := by
    have follows := folded.enrolled hndl member
    rw [last_heard_cons]
    split
    · rename_i same
      exact follows.after_quiet (quiet hndl member same.symm)
    · exact follows
  others := folded.others
  store := folded.store
  gate := folded.gate
  reach := folded.reach
  kernel := folded.kernel
  calls := by
    have silent : effective (storeFindIfaceByindex platform.hash world.objects world.store)
        (link :: links) (fun address => shown (world.objects address)) =
        effective (storeFindIfaceByindex platform.hash world.objects world.store) links
          (fun address => shown (world.objects address)) := by
      rw [effective]
      cases found : storeFindIfaceByindex platform.hash world.objects world.store
          link.ifiIndex with
      | none => rfl
      | some interface =>
          obtain ⟨hndl, member, rfl, idx⟩ := (find_byindex_iff watched.linked ..).mp found
          exact if_pos (quiet hndl member idx)
    rw [silent]
    exact folded.calls

theorem Folded.after_moved {hndl : Hndl} (watched : Watched platform notifier subscribers world)
    (member : hndl ∈ world.store.ifaces)
    (idx : (world.objects hndl.iface).idx = link.ifiIndex)
    (differs : shown (world.objects hndl.iface) ≠ carried link)
    (folded : Folded platform subscribers links
      (informed onEvent subscribers hndl.iface link world) after) :
    Folded platform subscribers (link :: links) world after where
  enrolled other there := by
    have follows := folded.enrolled other there
    rw [informed_idx] at follows
    rw [last_heard_cons]
    split
    · rename_i same
      have self := watched.linked.injective other there hndl member (same.symm.trans idx.symm)
      rw [self, informed_self] at follows
      rw [self]
      exact follows.after_refresh
    · rename_i different
      have apart : other.iface ≠ hndl.iface := fun same => different (by rw [same, idx])
      rw [informed_other apart] at follows
      exact follows
  others address outside := by
    rw [folded.others address outside, informed_other (Ne.symm (outside hndl member))]
  store := folded.store
  gate := folded.gate
  reach := folded.reach
  kernel := folded.kernel
  calls := by
    have found : storeFindIfaceByindex platform.hash world.objects world.store link.ifiIndex =
        some hndl.iface := (find_byindex_iff watched.linked ..).mpr ⟨hndl, member, rfl, idx⟩
    have again : storeFindIfaceByindex platform.hash
        (informed onEvent subscribers hndl.iface link world).objects world.store =
        storeFindIfaceByindex platform.hash world.objects world.store := find_congr informed_idx
    have later := folded.calls
    have store : (informed onEvent subscribers hndl.iface link world).store = world.store := rfl
    rw [informed_called, informed_shown, List.append_assoc, store, again] at later
    have spoken : effective (storeFindIfaceByindex platform.hash world.objects world.store)
        (link :: links) (fun address => shown (world.objects address)) =
        hndl.iface :: effective
          (storeFindIfaceByindex platform.hash world.objects world.store) links
          (Function.update (fun address => shown (world.objects address)) hndl.iface
            (carried link)) := by
      rw [effective, found]
      exact if_neg differs
    rw [spoken, List.flatMap_cons]
    exact later

section Queue

variable [DecidableEq NameBucket] [DecidableEq IndexBucket]

theorem changes_skipped {observers : Observers NameBucket IndexBucket
      (Kstate × Obsrv (Addr × Objects) Client)} {notification : Notification}
    (rest : List Notification) (skipped : ¬ Heard notification) :
    gateNotifyChanges platform observers (notification :: rest) world =
      gateNotifyChanges platform observers rest world := by
  rw [gateNotifyChanges, if_pos ((skipped_iff _).mpr skipped)]

theorem changes_heard {observers : Observers NameBucket IndexBucket
      (Kstate × Obsrv (Addr × Objects) Client)} {notification : Notification}
    (rest : List Notification) (reached : Heard notification)
    {middle : WatchedWorld NameBucket IndexBucket Kstate Client}
    (notified : gateNotify platform observers (.change notification.link) world =
      .ok (0, middle)) :
    gateNotifyChanges platform observers (notification :: rest) world =
      gateNotifyChanges platform observers rest middle := by
  rw [gateNotifyChanges, if_neg (mt (skipped_iff _).mp (not_not.mpr reached)), notified]
  rfl

theorem heard_skipped {notification : Notification} (rest : List Notification)
    (skipped : ¬ Heard notification) : heard (notification :: rest) = heard rest := by
  rw [heard, List.filter_cons_of_neg (by simpa using skipped)]
  rfl

theorem heard_reached {notification : Notification} (rest : List Notification)
    (reached : Heard notification) :
    heard (notification :: rest) = notification.link :: heard rest := by
  rw [heard, List.filter_cons_of_pos (by simpa using reached)]
  rfl

/-- Whatever the queue, all of it is consumed and 0 returned; each enrolled interface
shows what the last link heard for it carries, and the subscribers are called once for
each link that changed what its interface shows. -/
theorem notify_changes_folds
    (stays : ∀ subscriber event data client, (onEvent subscriber event data client).1 = false)
    (queue : List Notification) (watched : Watched platform notifier subscribers world) :
    ∃ enough, ∀ fuel ≥ enough, ∃ after,
      gateNotifyChanges platform (notifyStore onEvent notifier fuel) queue world =
        .ok (0, after) ∧
      Folded platform subscribers (heard queue) world after := by
  refine ⟨subscribers.length + 1, fun fuel enough => ?_⟩
  induction queue generalizing world with
  | nil => exact ⟨world, rfl, folded_nil⟩
  | cons notification rest ih =>
      by_cases reached : Heard notification
      · rw [heard_reached rest reached]
        by_cases moved : ∃ hndl ∈ world.store.ifaces,
            (world.objects hndl.iface).idx = notification.link.ifiIndex ∧
              shown (world.objects hndl.iface) ≠ carried notification.link
        · obtain ⟨hndl, member, idx, differs⟩ := moved
          have notified := change_moved watched stays enough member idx differs
          obtain ⟨after, done, folded⟩ := ih (informed_watched watched stays member)
          rw [changes_heard rest reached notified]
          exact ⟨after, done, folded.after_moved watched member idx differs⟩
        · have quiet : ∀ hndl ∈ world.store.ifaces,
              (world.objects hndl.iface).idx = notification.link.ifiIndex →
                shown (world.objects hndl.iface) = carried notification.link := by
            intro hndl member idx
            by_contra differs
            exact moved ⟨hndl, member, idx, differs⟩
          have notified : gateNotify platform (notifyStore onEvent notifier fuel)
              (.change notification.link) world =
                .ok (0, world.record (.notified .change notification.link.ifiIndex 0)) :=
            change_quiet watched quiet
          obtain ⟨after, done, folded⟩ := ih watched.recorded
          rw [changes_heard rest reached notified]
          exact ⟨after, done, folded.after_quiet watched quiet⟩
      · obtain ⟨after, done, folded⟩ := ih watched
        rw [changes_skipped rest reached, heard_skipped rest reached]
        exact ⟨after, done, folded⟩

end Queue

end Notifier

def operatingLink : GetlinkRsp := { LibraryRun.oneLink with operstate := some 6 }

def watchedPlatform : CodePlatform (Unit × Obsrv (Addr × Objects) Nat) where
  hash := djb2Hashing
  kernel :=
    { getlink := fun index state =>
        (if index = 1 then .ok LibraryRun.oneLink else .error noSuchDevice, state)
      setlink := fun _ state => (none, state)
      dump := fun state => (.ok [LibraryRun.oneLink], state) }

def counting (_ : Addr) : OnEvent (Addr × Objects) Nat := fun _ _ calls => (false, calls + 1)

def watchedInit : CodeWorld (Unit × Obsrv (Addr × Objects) Nat) :=
  let loaded := (LibraryRun.machine LibraryRun.oneLinkPlatform).after .load LibraryRun.oneLinkInit
  { objects := loaded.objects
    next := loaded.next
    store := loaded.store
    gate := loaded.gate
    kernel := ((), ⟨nlifObsrvSubscribe 0 1 unlinked, 0, []⟩)
    trace := [] }

theorem watched_init_watched : Watched watchedPlatform 0 [1] watchedInit where
  linked := by
    have begun : LabelledRun.Run (LibraryRun.machine LibraryRun.oneLinkPlatform)
        LibraryRun.oneLinkInit [] LibraryRun.oneLinkInit := .start
    have loaded := begun.extend .load (.code 0) rfl rfl
    exact (LibraryRun.run_kept LibraryRun.one_link_kernel_reports loaded).linked
  subscribed := rfl
  listed := (sole_unlinked 0).nqueue_back (by decide) (by decide)

/-- Two notifications of one state call the subscriber once. -/
theorem operating_link_folds :
    ∃ enough, ∀ fuel ≥ enough, ∃ after,
      gateNotifyChanges watchedPlatform (notifyStore counting 0 fuel)
        [⟨true, operatingLink⟩, ⟨true, operatingLink⟩] watchedInit = .ok (0, after) ∧
      Folded watchedPlatform [1] (heard [⟨true, operatingLink⟩, ⟨true, operatingLink⟩])
        watchedInit after :=
  notify_changes_folds (fun _ _ _ _ => rfl) _ watched_init_watched

example :
    effective (fun index => if index = 1 then some 0 else none) [operatingLink, operatingLink]
      (fun _ => carried LibraryRun.oneLink) = [0] := by
  decide

end Nlif.NotifyFold
