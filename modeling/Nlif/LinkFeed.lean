import Nlif.ChangeFeed
import Nlif.DaemonConfinement
import Nlif.NotifyFold

/-!
# The kernel and the notifications of its links

An rtnetlink kernel whose links change at any moment, and the socket of a member of its link
group: every change of a link is queued there as the link it left. A request meets the links
after whatever happened before it, and may be refused; a dump reads each link at a moment of
its own. A queue that loses nothing is assumed, and that a request is given its own answer.
-/

namespace Nlif.LinkFeed

open LinkModel IfaceModel GateModel RtnetlinkModel StagedRefresh NotifyFold ChangeFeed
  DaemonConfinement
open LibraryRun (KernelReports Reported)
open OperMirror (Heard)

set_option autoImplicit false

def told (notifications : List Notification) : List (UInt32 × Volatile) :=
  (heard notifications).map fun link => (link.ifiIndex, carried link)

theorem told_append (first second : List Notification) :
    told (first ++ second) = told first ++ told second := by
  rw [told, heard, List.filter_append, List.map_append, List.map_append]
  rfl

theorem told_heard {notification : Notification} (rest : List Notification)
    (heard : Heard notification) : told (notification :: rest) =
      (notification.link.ifiIndex, carried notification.link) :: told rest := by
  rw [told, NotifyFold.heard, List.filter_cons_of_pos (by simpa using heard)]
  rfl

theorem told_skipped {notification : Notification} (rest : List Notification)
    (skipped : ¬ Heard notification) : told (notification :: rest) = told rest := by
  rw [told, NotifyFold.heard, List.filter_cons_of_neg (by simpa using skipped)]
  rfl

def accepted (links : UInt32 → Option GetlinkRsp) (index : UInt32) : Option Volatile :=
  ((links index).filter fun link => gateIslinkValid link = 0).map carried

theorem accepted_of_valid {links : UInt32 → Option GetlinkRsp} {index : UInt32}
    {link : GetlinkRsp} (present : links index = some link) (valid : gateIslinkValid link = 0) :
    accepted links index = some (carried link) := by
  rw [accepted, present, Option.filter_some_pos (by simpa using valid), Option.map_some]

theorem accepted_value {links : UInt32 → Option GetlinkRsp} {index : UInt32} {link : GetlinkRsp}
    {value : Volatile} (present : links index = some link)
    (shown : accepted links index = some value) : value = carried link := by
  unfold accepted at shown
  rw [present] at shown
  obtain ⟨found, kept, rfl⟩ := Option.map_eq_some_iff.mp shown
  obtain ⟨same, _⟩ := Option.filter_eq_some_iff.mp kept
  cases same
  rfl

theorem accepted_replaced (links : UInt32 → Option GetlinkRsp) (index : UInt32)
    (link : GetlinkRsp) : accepted (Function.update links index (some link)) =
      Function.update (accepted links) index
        (if gateIslinkValid link = 0 then some (carried link) else none) := by
  funext other
  by_cases same : other = index
  · subst same
    rw [accepted, Function.update_self, Function.update_self]
    by_cases valid : gateIslinkValid link = 0 <;> simp [valid]
  · rw [accepted, Function.update_of_ne same, Function.update_of_ne same]
    rfl

theorem accepted_removed (links : UInt32 → Option GetlinkRsp) (index : UInt32) :
    accepted (Function.update links index none) = Function.update (accepted links) index none := by
  funext other
  by_cases same : other = index
  · subst same
    rw [accepted, Function.update_self, Function.update_self]
    rfl
  · rw [accepted, Function.update_of_ne same, Function.update_of_ne same]
    rfl

/-- What the queue will have shown of an index is what its link carries. -/
abbrev Leading (links : UInt32 → Option GetlinkRsp) (queue : List Notification) (index : UInt32)
    (shown : Volatile) : Prop :=
  Leads (accepted links) (told queue) index shown

section Leading

variable {links : UInt32 → Option GetlinkRsp} {queue : List Notification} {index : UInt32}
  {values : Volatile}

theorem leading_changed (leading : Leading links queue index values) (link : GetlinkRsp) :
    Leading (Function.update links link.ifiIndex (some link)) (queue ++ [⟨true, link⟩]) index
      values := by
  unfold Leading
  rw [accepted_replaced, told_append]
  by_cases valid : gateIslinkValid link = 0
  · have heard : Heard ⟨true, link⟩ := ⟨rfl, valid⟩
    rw [if_pos valid, told_heard [] heard]
    exact Leads.publish leading link.ifiIndex (carried link)
  · have skipped : ¬ Heard ⟨true, link⟩ := fun heard => valid heard.2
    rw [if_neg valid, told_skipped [] skipped]
    simpa [told, heard] using Leads.withdraw leading link.ifiIndex

theorem leading_vanished (leading : Leading links queue index values) (gone : UInt32)
    (link : Option GetlinkRsp) :
    Leading (Function.update links gone none) (queue ++ (link.map (⟨false, ·⟩)).toList) index
      values := by
  have silent : told (queue ++ (link.map (⟨false, ·⟩)).toList) = told queue := by
    rw [told_append]
    cases link with
    | none => exact List.append_nil _
    | some link =>
        have skipped : ¬ Heard ⟨false, link⟩ := fun heard => Bool.false_ne_true heard.1
        rw [Option.map_some, Option.toList_some, told_skipped [] skipped]
        exact List.append_nil _
  unfold Leading
  rw [accepted_removed, silent]
  exact Leads.withdraw leading gone

theorem leading_read (leading : Leading links queue index values) {link : GetlinkRsp}
    (present : links index = some link) : Leading links queue index (carried link) := by
  intro value shown
  have same := accepted_value present shown
  exact Leads.read leading (shown.trans (congrArg some same)) value shown

theorem leading_heard {notification : Notification} (heard : Heard notification)
    (leading : Leading links (notification :: queue) index values) :
    Leading links queue index
      (if notification.link.ifiIndex = index then carried notification.link else values) := by
  unfold Leading at leading
  rw [told_heard queue heard] at leading
  exact Leads.deliver leading

theorem leading_skipped {notification : Notification} (skipped : ¬ Heard notification)
    (leading : Leading links (notification :: queue) index values) :
    Leading links queue index values := by
  unfold Leading at leading
  rw [told_skipped queue skipped] at leading
  exact leading

/-- No notification of the queue will be heard for this index. -/
def Untold (queue : List Notification) (index : UInt32) : Prop :=
  ∀ notification ∈ queue, Heard notification → notification.link.ifiIndex ≠ index

theorem leading_untold (leading : Leading links queue index values) (untold : Untold queue index)
    {link : GetlinkRsp} (present : links index = some link) (valid : gateIslinkValid link = 0) :
    values = carried link := by
  apply Leads.current leading (accepted_of_valid present valid)
  intro change listed
  obtain ⟨link, told, rfl⟩ := List.mem_map.mp listed
  obtain ⟨notification, kept, rfl⟩ := List.mem_map.mp told
  obtain ⟨queued, heard⟩ := List.mem_filter.mp kept
  exact untold notification queued (by simpa using heard)

end Leading

inductive Happening where
  | changes (link : { link : GetlinkRsp // Reported link })
  | vanishes (index : UInt32)

/-- What precedes a request, and how the kernel meets it. -/
structure Interlude where
  happenings : List Happening
  refusal : Option YnlError

/-- The kernel and the queue of a member of its link group. -/
structure Host where
  links : UInt32 → Option GetlinkRsp
  known : List UInt32
  pending : List Notification
  interludes : Nat → Interlude
  wellFormed : WellFormed links
  announced : ∀ index, ∃ values, Leading links pending index values

namespace Host

def joined (links : UInt32 → Option GetlinkRsp) (known : List UInt32)
    (interludes : Nat → Interlude) (wellFormed : WellFormed links) : Host where
  links := links
  known := known
  pending := []
  interludes := interludes
  wellFormed := wellFormed
  announced index := by
    refine ⟨(accepted links index).getD ⟨0, 0, 0⟩, fun value present => ?_⟩
    rw [present]
    rfl

def publish (link : { link : GetlinkRsp // Reported link }) (host : Host) : Host where
  links := Function.update host.links link.val.ifiIndex (some link.val)
  known := host.known
  pending := host.pending ++ [⟨true, link.val⟩]
  interludes := host.interludes
  wellFormed index held present := by
    by_cases same : index = link.val.ifiIndex
    · subst same
      rw [Function.update_self] at present
      cases present
      exact ⟨rfl, link.property⟩
    · rw [Function.update_of_ne same] at present
      exact host.wellFormed index held present
  announced index := by
    obtain ⟨values, leading⟩ := host.announced index
    exact ⟨values, leading_changed leading link.val⟩

def vanish (index : UInt32) (host : Host) : Host where
  links := Function.update host.links index none
  known := host.known
  pending := host.pending ++ ((host.links index).map (⟨false, ·⟩)).toList
  interludes := host.interludes
  wellFormed other held present := by
    by_cases same : other = index
    · subst same
      rw [Function.update_self] at present
      cases present
    · rw [Function.update_of_ne same] at present
      exact host.wellFormed other held present
  announced other := by
    obtain ⟨values, leading⟩ := host.announced other
    exact ⟨values, leading_vanished leading index _⟩

def happen (host : Host) : Happening → Host
  | .changes link => host.publish link
  | .vanishes index => host.vanish index

def elapse (host : Host) : Host :=
  let met := (host.interludes 0).happenings.foldl happen host
  { met with interludes := fun later => host.interludes (later + 1) }

def take (count : Nat) (host : Host) : Host where
  links := host.links
  known := host.known
  pending := host.pending.drop count
  interludes := host.interludes
  wellFormed := host.wellFormed
  announced index := by
    obtain ⟨values, leading⟩ := host.announced index
    refine ⟨foretold index (told (host.pending.take count)) values, ?_⟩
    intro value present
    rw [← foretold_append, ← told_append, List.take_append_drop]
    exact leading value present

end Host

def feedGetlink (index : UInt32) (host : Host) : Except YnlError GetlinkRsp × Host :=
  match (host.interludes 0).refusal, host.elapse.links index with
  | some error, _ => (.error error, host.elapse)
  | none, none => (.error noSuchDevice, host.elapse)
  | none, some link => (.ok link, host.elapse)

def feedSetlink (request : SetlinkReq) (host : Host) : Option YnlError × Host :=
  match (host.interludes 0).refusal, host.elapse.links request.ifiIndex with
  | some error, _ => (some error, host.elapse)
  | none, none => (some noSuchDevice, host.elapse)
  | none, some link =>
      if settable : Reported (setLink request link) then
        (none, host.elapse.publish ⟨setLink request link, settable⟩)
      else (some invalidArgument, host.elapse)

def dumpEach : List UInt32 → Host → List GetlinkRsp × Host
  | [], host => ([], host)
  | index :: rest, host =>
      let (links, last) := dumpEach rest host.elapse
      ((host.elapse.links index).toList ++ links, last)

def feedDump (host : Host) : Except YnlError (List GetlinkRsp) × Host :=
  match (host.interludes 0).refusal with
  | some error => (.error error, host.elapse)
  | none => (.ok (dumpEach host.known host).1, (dumpEach host.known host).2)

def feedKernel : Kernel Host where
  getlink := feedGetlink
  setlink := feedSetlink
  dump := feedDump

/-- The notifications already taken precede those still queued. -/
def Host.Leading (host : Host) (taken : List Notification) (index : UInt32)
    (values : Volatile) : Prop :=
  LinkFeed.Leading host.links (taken ++ host.pending) index values

section Host

variable {host next : Host} {taken : List Notification} {index : UInt32} {values : Volatile}

theorem Host.Leading.happen (leading : host.Leading taken index values) (happening : Happening) :
    (host.happen happening).Leading taken index values := by
  unfold Host.Leading at leading ⊢
  cases happening with
  | changes link =>
      have changed := leading_changed leading link.val
      rwa [List.append_assoc] at changed
  | vanishes gone =>
      have vanished := leading_vanished leading gone (host.links gone)
      rwa [List.append_assoc] at vanished

theorem Host.Leading.elapse (leading : host.Leading taken index values) :
    host.elapse.Leading taken index values := by
  have each : ∀ (happenings : List Happening) (state : Host),
      state.Leading taken index values →
      (happenings.foldl Host.happen state).Leading taken index values := by
    intro happenings
    induction happenings with
    | nil => exact fun _ same => same
    | cons happening rest ih => exact fun state before => ih _ (before.happen happening)
  exact each (host.interludes 0).happenings host leading

theorem Host.Leading.take (leading : host.Leading [] index values) (count : Nat) :
    (host.take count).Leading (host.pending.take count) index values := by
  unfold Host.Leading at leading ⊢
  change LinkFeed.Leading host.links (host.pending.take count ++ host.pending.drop count) index _
  rw [List.take_append_drop]
  exact leading

theorem feed_getlink_cases {answer : Except YnlError GetlinkRsp}
    (asked : feedGetlink index host = (answer, next)) :
    next = host.elapse ∧ ∀ link, answer = .ok link → host.elapse.links index = some link := by
  unfold feedGetlink at asked
  split at asked
  · obtain ⟨refused, same⟩ := Prod.mk.inj asked
    refine ⟨same.symm, fun link given => ?_⟩
    simp [← refused] at given
  · obtain ⟨refused, same⟩ := Prod.mk.inj asked
    refine ⟨same.symm, fun link given => ?_⟩
    simp [← refused] at given
  · rename_i link _ present
    obtain ⟨answered, same⟩ := Prod.mk.inj asked
    refine ⟨same.symm, fun other given => ?_⟩
    cases answered.trans given
    exact present

theorem Host.Leading.getlink (leading : host.Leading taken index values) {about : UInt32}
    {answer : Except YnlError GetlinkRsp} (asked : feedGetlink about host = (answer, next)) :
    next.Leading taken index values := by
  rw [(feed_getlink_cases asked).1]
  exact leading.elapse

theorem Host.Leading.answered (leading : host.Leading taken index values) {link : GetlinkRsp}
    (asked : feedGetlink index host = (.ok link, next)) :
    next.Leading taken index (carried link) := by
  obtain ⟨same, present⟩ := feed_getlink_cases asked
  rw [same]
  exact leading_read leading.elapse (present link rfl)

theorem Host.Leading.setlink (leading : host.Leading taken index values) {request : SetlinkReq}
    {answer : Option YnlError} (asked : feedSetlink request host = (answer, next)) :
    next.Leading taken index values := by
  unfold feedSetlink at asked
  split at asked
  · rw [← (Prod.mk.inj asked).2]
    exact leading.elapse
  · rw [← (Prod.mk.inj asked).2]
    exact leading.elapse
  · split at asked
    · rename_i settable
      rw [← (Prod.mk.inj asked).2]
      exact leading.elapse.happen (.changes ⟨_, settable⟩)
    · rw [← (Prod.mk.inj asked).2]
      exact leading.elapse

theorem Host.Leading.dump_each (leading : host.Leading taken index values)
    (indexes : List UInt32) : (dumpEach indexes host).2.Leading taken index values := by
  induction indexes generalizing host with
  | nil => exact leading
  | cons first rest ih => exact ih leading.elapse

theorem Host.Leading.dump (leading : host.Leading taken index values)
    {answer : Except YnlError (List GetlinkRsp)} (asked : feedDump host = (answer, next)) :
    next.Leading taken index values := by
  unfold feedDump at asked
  split at asked
  · cases asked
    exact leading.elapse
  · cases asked
    exact leading.dump_each host.known

/-- Every link of a dump is one the queue leads from, however long ago it was read. -/
theorem dump_each_leads (indexes : List UInt32) (host : Host) :
    ∀ link ∈ (dumpEach indexes host).1, Reported link ∧
      (dumpEach indexes host).2.Leading [] link.ifiIndex (carried link) := by
  induction indexes generalizing host with
  | nil => exact fun link listed => nomatch listed
  | cons first rest ih =>
      intro link listed
      cases List.mem_append.mp listed with
      | inl here =>
          have present := Option.mem_toList.mp here
          obtain ⟨same, reported⟩ := host.elapse.wellFormed first link present
          obtain ⟨values, leading⟩ := host.elapse.announced first
          have read : host.elapse.Leading [] first (carried link) := leading_read leading present
          subst same
          exact ⟨reported, read.dump_each rest⟩
      | inr later => exact ih host.elapse link later

theorem feed_dump_leads {links : List GetlinkRsp} (asked : feedDump host = (.ok links, next)) :
    ∀ link ∈ links, Reported link ∧ next.Leading [] link.ifiIndex (carried link) := by
  unfold feedDump at asked
  split at asked
  · cases asked
  · cases asked
    exact dump_each_leads host.known host

end Host

theorem feed_kernel_reports : KernelReports feedKernel where
  getlink index host link _ asked :=
    host.elapse.wellFormed index link ((feed_getlink_cases asked).2 link rfl)
  dump _ _ _ asked link listed := (feed_dump_leads asked link listed).1

end Nlif.LinkFeed
