import Nlif.DroppingWalk
import Nlif.ObsrvModel

/-!
# Callbacks that unsubscribe others

The notifier of `lib/obsrv.c` again, with callbacks that may call
`nlif_obsrv_unsubscribe()` for any subscribers. Both loops keep their place in a list that
changes under them; the theorems say for which callbacks they come to an end, and what they
have done then.
-/

namespace Nlif.ObsrvTurns

open LinkModel LabelledRun LinkRing DroppingWalk
open ObsrvModel (Op machine register run_registers nlifObsrvUnsubscribe)

set_option autoImplicit false

/-- `nlif_obsrv_on_event_fn`: the subscribers it unsubscribes, and the client's state after
it. -/
abbrev OnEvent (Data Client : Type) := Nat → Data → Client → List Addr × Client

structure Call (Data : Type) where
  subscriber : Addr
  event : Nat
  data : Data
deriving DecidableEq

structure Obsrv (Data Client : Type) where
  links : Links Addr
  client : Client
  calls : List (Call Data)

section Notify

variable {Data Client : Type} (onEvent : Addr → OnEvent Data Client) (event : Nat) (data : Data)

def unsubscribed (subscriber : Addr) (client : Client) : List Addr :=
  (onEvent subscriber event data client).1

def nlifObsrvNotifySubscriber (subscriber : Addr) (state : Obsrv Data Client) :
    Obsrv Data Client where
  links := (unsubscribed onEvent event data subscriber state.client).foldl
    (fun links other => nlifObsrvUnsubscribe other links) state.links
  client := (onEvent subscriber event data state.client).2
  calls := state.calls ++ [{ subscriber, event, data }]

/-- `nlif_obsrv_notify()`, with a bound on the turns of its loop. -/
def nlifObsrvNotify (notifier : Addr) (fuel : Nat) (state : Obsrv Data Client) :
    Option (Obsrv Data Client) :=
  foreach Obsrv.links (nlifObsrvNotifySubscriber onEvent event data) notifier fuel
    (state.links.next notifier) state

/-- `nlif_obsrv_notify_safe()`. -/
def nlifObsrvNotifySafe (notifier : Addr) (fuel : Nat) (state : Obsrv Data Client) :
    Option (Obsrv Data Client) :=
  foreachSafe Obsrv.links (nlifObsrvNotifySubscriber onEvent event data) notifier fuel
    (state.links.next notifier) (state.links.next (state.links.next notifier)) state

/-- Who is called, with the subscriber that followed in the list and those the callback
unsubscribed: the subscribers in order, but for those unsubscribed before their turn. -/
def callTurns (subscribers : List Addr) (client : Client) : List (Turn Addr) :=
  turns (fun subscriber client => (onEvent subscriber event data client).2)
    (unsubscribed onEvent event data) [] subscribers client

variable {onEvent event data} {notifier : Addr}

theorem notify_dropping
    (apart : ∀ subscriber client, notifier ∉ unsubscribed onEvent event data subscriber client) :
    Dropping Obsrv.links (nlifObsrvNotifySubscriber onEvent event data)
      (fun subscriber state => unsubscribed onEvent event data subscriber state.client)
      notifier where
  unlinks _ _ := rfl
  apart subscriber state := apart subscriber state.client

theorem notify_turns (subscribers : List Addr) (state : Obsrv Data Client) :
    turns (nlifObsrvNotifySubscriber onEvent event data)
        (fun subscriber state => unsubscribed onEvent event data subscriber state.client) []
        subscribers state =
      callTurns onEvent event data subscribers state.client :=
  turns_project (fun _ _ => rfl) (fun _ _ => rfl)

theorem walked_calls {gone subscribers : List Addr} (state : Obsrv Data Client) :
    (walked (nlifObsrvNotifySubscriber onEvent event data)
        (fun subscriber state => unsubscribed onEvent event data subscriber state.client) gone
        subscribers state).calls =
      state.calls ++ (turns (nlifObsrvNotifySubscriber onEvent event data)
        (fun subscriber state => unsubscribed onEvent event data subscriber state.client) gone
        subscribers state).map fun turn => ⟨turn.node, event, data⟩ := by
  induction subscribers generalizing gone state with
  | nil => exact (List.append_nil _).symm
  | cons subscriber rest ih =>
      by_cases there : subscriber ∈ gone
      · rw [walked_gone there, turns_gone there]
        exact ih state
      · rw [walked_stays there, turns_stays there, ih, List.map_cons]
        exact List.append_assoc ..

/-- What a notification leaves: its turns are called, and the list is what they left. -/
structure Delivered (onEvent : Addr → OnEvent Data Client) (event : Nat) (data : Data)
    (notifier : Addr) (subscribers : List Addr) (before after : Obsrv Data Client) : Prop where
  calls : after.calls = before.calls ++
    (callTurns onEvent event data subscribers before.client).map fun turn =>
      ⟨turn.node, event, data⟩
  listed : Sole after.links notifier
    (without (droppedBy (callTurns onEvent event data subscribers before.client)) subscribers)

theorem walked_delivered
    (apart : ∀ subscriber client, notifier ∉ unsubscribed onEvent event data subscriber client)
    {subscribers : List Addr} {state : Obsrv Data Client}
    (listed : Sole state.links notifier subscribers) :
    Delivered onEvent event data notifier subscribers state
      (walked (nlifObsrvNotifySubscriber onEvent event data)
        (fun subscriber state => unsubscribed onEvent event data subscriber state.client) []
        subscribers state) where
  calls := by rw [walked_calls, notify_turns]
  listed := by
    rw [← notify_turns]
    exact (notify_dropping apart).walked_sole listed

/-- On a notifier built by any run, a notification returns exactly where no callback
unsubscribes the subscriber it is called for. -/
theorem notify_returns_iff
    (apart : ∀ subscriber client, notifier ∉ unsubscribed onEvent event data subscriber client)
    {log : List (Op × Unit)} {links : Links Addr} (run : Run (machine notifier) unlinked log links)
    (client : Client) :
    ∃ subscribers, Run register [] log subscribers ∧
      ((∃ fuel after, nlifObsrvNotify onEvent event data notifier fuel ⟨links, client, []⟩ =
          some after) ↔
        ∀ turn ∈ callTurns onEvent event data subscribers client, turn.node ∉ turn.dropped) ∧
      ∀ fuel after, nlifObsrvNotify onEvent event data notifier fuel ⟨links, client, []⟩ =
        some after →
          Delivered onEvent event data notifier subscribers ⟨links, client, []⟩ after := by
  obtain ⟨subscribers, registered, listed⟩ := run_registers run
  let start : Obsrv Data Client := ⟨links, client, []⟩
  have sole : Sole start.links notifier subscribers := listed
  have first := listed.ring.linked.next_first
  have walk := foreach_returns_iff (notify_dropping apart) sole
  rw [notify_turns] at walk
  unfold nlifObsrvNotify
  rw [first]
  refine ⟨subscribers, registered, walk.1, fun fuel after returned => ?_⟩
  rw [walk.2 fuel after returned]
  exact walked_delivered apart sole

/-- A safe notification returns exactly where no callback unsubscribes the subscriber that
follows the one it is called for. -/
theorem notify_safe_returns_iff
    (apart : ∀ subscriber client, notifier ∉ unsubscribed onEvent event data subscriber client)
    {log : List (Op × Unit)} {links : Links Addr} (run : Run (machine notifier) unlinked log links)
    (client : Client) :
    ∃ subscribers, Run register [] log subscribers ∧
      ((∃ fuel after, nlifObsrvNotifySafe onEvent event data notifier fuel ⟨links, client, []⟩ =
          some after) ↔
        ∀ turn ∈ callTurns onEvent event data subscribers client,
          ∀ next ∈ turn.next, next ∉ turn.dropped) ∧
      ∀ fuel after, nlifObsrvNotifySafe onEvent event data notifier fuel ⟨links, client, []⟩ =
        some after →
          Delivered onEvent event data notifier subscribers ⟨links, client, []⟩ after := by
  obtain ⟨subscribers, registered, listed⟩ := run_registers run
  let start : Obsrv Data Client := ⟨links, client, []⟩
  have sole : Sole start.links notifier subscribers := listed
  have first := listed.ring.linked.next_first
  have walk := foreach_safe_returns_iff (notify_dropping apart) sole
  rw [notify_turns] at walk
  unfold nlifObsrvNotifySafe
  rw [first]
  refine ⟨subscribers, registered, walk.1, fun fuel after returned => ?_⟩
  rw [walk.2 fuel after returned]
  exact walked_delivered apart sole

end Notify

/-- The callback of subscriber 1 unsubscribes subscriber 2. -/
def evicting (subscriber : Addr) : OnEvent Unit Unit := fun _ _ _ =>
  (if subscriber = 1 then [2] else [], ())

/-- The callback of subscriber 1 unsubscribes itself. -/
def leaving (subscriber : Addr) : OnEvent Unit Unit := fun _ _ _ =>
  (if subscriber = 1 then [1] else [], ())

theorem two_subscribed :
    ∃ links, Run (machine 0) unlinked [(.subscribe 1, ()), (.subscribe 2, ())] links := by
  have one := (Run.start : Run (machine 0) unlinked [] unlinked).extend (.subscribe 1) ()
    ⟨by decide, rfl⟩ rfl
  exact ⟨_, one.extend (.subscribe 2) () ⟨by decide, rfl⟩ rfl⟩

theorem two_registered {subscribers : List Addr}
    (run : Run register [] [(.subscribe 1, ()), (.subscribe 2, ())] subscribers) :
    subscribers = [1, 2] := by
  have one := (Run.start : Run register [] [] []).extend (.subscribe 1) () (by simp [register]) rfl
  exact run.deterministic (one.extend (.subscribe 2) () (show (2 : Addr) ∉ [1] by decide) rfl)

theorem evicting_apart (subscriber : Addr) (client : Unit) :
    0 ∉ unsubscribed evicting 0 () subscriber client := by
  unfold unsubscribed evicting
  split <;> simp

theorem leaving_apart (subscriber : Addr) (client : Unit) :
    0 ∉ unsubscribed leaving 0 () subscriber client := by
  unfold unsubscribed leaving
  split <;> simp

/-- Evicted before its turn, subscriber 2 is not called. A callback that leaves strands the loop. -/
theorem evicting_returns :
    ∃ links, Run (machine 0) unlinked [(.subscribe 1, ()), (.subscribe 2, ())] links ∧
      (∃ fuel after, nlifObsrvNotify evicting 0 () 0 fuel ⟨links, (), []⟩ = some after ∧
        after.calls = [⟨1, 0, ()⟩] ∧ Sole after.links 0 [1]) ∧
      ¬ ∃ fuel after, nlifObsrvNotify leaving 0 () 0 fuel ⟨links, (), []⟩ = some after := by
  obtain ⟨links, run⟩ := two_subscribed
  obtain ⟨_, registered, returns, delivers⟩ := notify_returns_iff evicting_apart run ()
  cases two_registered registered
  obtain ⟨fuel, after, returned⟩ := returns.mpr (by decide)
  have delivered := delivers fuel after returned
  obtain ⟨_, registered, strands, _⟩ := notify_returns_iff leaving_apart run ()
  cases two_registered registered
  exact ⟨links, run, ⟨fuel, after, returned, delivered.calls, delivered.listed⟩,
    mt strands.mp (by decide)⟩

/-- A callback may leave the list of a safe notification, but not evict the next one. -/
theorem leaving_safe_returns :
    ∃ links, Run (machine 0) unlinked [(.subscribe 1, ()), (.subscribe 2, ())] links ∧
      (∃ fuel after, nlifObsrvNotifySafe leaving 0 () 0 fuel ⟨links, (), []⟩ = some after ∧
        after.calls = [⟨1, 0, ()⟩, ⟨2, 0, ()⟩] ∧ Sole after.links 0 [2]) ∧
      ¬ ∃ fuel after, nlifObsrvNotifySafe evicting 0 () 0 fuel ⟨links, (), []⟩ = some after := by
  obtain ⟨links, run⟩ := two_subscribed
  obtain ⟨_, registered, returns, delivers⟩ := notify_safe_returns_iff leaving_apart run ()
  cases two_registered registered
  obtain ⟨fuel, after, returned⟩ := returns.mpr (by decide)
  have delivered := delivers fuel after returned
  obtain ⟨_, registered, strands, _⟩ := notify_safe_returns_iff evicting_apart run ()
  cases two_registered registered
  exact ⟨links, run, ⟨fuel, after, returned, delivered.calls, delivered.listed⟩,
    mt strands.mp (by decide)⟩

end Nlif.ObsrvTurns
