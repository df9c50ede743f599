import Nlif.LabelledRun
import Nlif.LinkModel
import Nlif.LinkRing

/-!
# Notifiers and subscribers

Transcription of `lib/obsrv.h` and `lib/obsrv.c`. A subscriber is the address of
its node, a notifier that of the head of its list; `stroll_dlist` is the
doubly linked list of `LinkRing`. A callback may unsubscribe its own subscriber and
work on a state of the client, and the calls are recorded in order. The `run` mark of
a debug build, which only assertions read, is left out.
-/

namespace Nlif.ObsrvModel

open LinkModel LabelledRun LinkRing

set_option autoImplicit false

/-- `nlif_obsrv_on_event_fn`: whether it unsubscribes its subscriber, and the
client's state after it. -/
abbrev OnEvent (Data Client : Type) := Nat → Data → Client → Bool × Client

structure Call (Data : Type) where
  subscriber : Addr
  event : Nat
  data : Data
  unsubscribes : Bool

structure Obsrv (Data Client : Type) where
  links : Links Addr
  client : Client
  calls : List (Call Data)

/-- `nlif_obsrv_subscribed()`: `!stroll_dlist_empty(&subscriber->node)`. -/
def nlifObsrvSubscribed (links : Links Addr) (subscriber : Addr) : Bool :=
  links.next subscriber ≠ subscriber

def nlifObsrvSubscribe (notifier subscriber : Addr) (links : Links Addr) : Links Addr :=
  nqueueBack notifier subscriber links

def nlifObsrvUnsubscribe (subscriber : Addr) (links : Links Addr) : Links Addr :=
  removeInit subscriber links

section Notify

variable {Data Client : Type} (onEvent : Addr → OnEvent Data Client) (event : Nat) (data : Data)

def nlifObsrvNotifySubscriber (subscriber : Addr) (state : Obsrv Data Client) :
    Obsrv Data Client :=
  let (unsubscribes, client) := onEvent subscriber event data state.client
  { links := if unsubscribes then nlifObsrvUnsubscribe subscriber state.links else state.links
    client
    calls := state.calls ++ [{ subscriber, event, data, unsubscribes }] }

/-- `nlif_obsrv_notify()`, with a bound on the turns of its loop. -/
def nlifObsrvNotify (notifier : Addr) (fuel : Nat) (state : Obsrv Data Client) :
    Option (Obsrv Data Client) :=
  foreach Obsrv.links (nlifObsrvNotifySubscriber onEvent event data) notifier fuel
    (state.links.next notifier) state

/-- `nlif_obsrv_notify_safe()`. -/
def nlifObsrvNotifySafe (notifier : Addr) (fuel : Nat) (state : Obsrv Data Client) :
    Option (Obsrv Data Client) :=
  foreachSafe Obsrv.links (nlifObsrvNotifySubscriber onEvent event data) notifier fuel
    (state.links.next notifier) (state.links.next (state.links.next notifier)) state

def deliveries : List Addr → Client → List (Call Data)
  | [], _ => []
  | subscriber :: rest, client =>
      let (unsubscribes, client) := onEvent subscriber event data client
      { subscriber, event, data, unsubscribes } :: deliveries rest client

def staying (calls : List (Call Data)) : List Addr :=
  (calls.filter fun call => !call.unsubscribes).map Call.subscriber

variable {onEvent event data} {notifier : Addr} {subscribers : List Addr}

theorem deliveries_subscribers (client : Client) :
    (deliveries onEvent event data subscribers client).map Call.subscriber = subscribers := by
  induction subscribers generalizing client with
  | nil => rfl
  | cons subscriber rest ih => exact congrArg (List.cons subscriber) (ih _)

theorem deliveries_carry (client : Client) :
    ∀ call ∈ deliveries onEvent event data subscribers client,
      call.event = event ∧ call.data = data := by
  induction subscribers generalizing client with
  | nil => exact fun _ member => nomatch member
  | cons subscriber rest ih =>
      intro call member
      cases List.mem_cons.mp member with
      | inl same =>
          rw [same]
          exact ⟨rfl, rfl⟩
      | inr later => exact ih _ call later

theorem visit_all_calls (state : Obsrv Data Client) :
    (visitAll (nlifObsrvNotifySubscriber onEvent event data) subscribers state).calls =
      state.calls ++ deliveries onEvent event data subscribers state.client := by
  induction subscribers generalizing state with
  | nil => exact (List.append_nil _).symm
  | cons subscriber rest ih =>
      unfold visitAll at ih ⊢
      rw [List.foldl_cons, ih, deliveries]
      exact List.append_assoc ..

/-- The callback unsubscribes its subscriber. -/
def unsubscribing (onEvent : Addr → OnEvent Data Client) (event : Nat) (data : Data)
    (subscriber : Addr) (state : Obsrv Data Client) : Bool :=
  (onEvent subscriber event data state.client).1

theorem remaining_staying (state : Obsrv Data Client) :
    remaining (nlifObsrvNotifySubscriber onEvent event data) (unsubscribing onEvent event data)
        subscribers state =
      staying (deliveries onEvent event data subscribers state.client) := by
  induction subscribers generalizing state with
  | nil => rfl
  | cons subscriber rest ih =>
      have later := ih (nlifObsrvNotifySubscriber onEvent event data subscriber state)
      unfold remaining deliveries staying
      rw [later, List.filter_cons]
      unfold unsubscribing
      cases (onEvent subscriber event data state.client).1 with
      | true => rfl
      | false => rfl

theorem notify_subscriber_links (subscriber : Addr) (state : Obsrv Data Client) :
    (nlifObsrvNotifySubscriber onEvent event data subscriber state).links =
      if unsubscribing onEvent event data subscriber state then removeInit subscriber state.links
      else state.links := rfl

theorem notify_safe_delivers {state : Obsrv Data Client}
    (listed : Sole state.links notifier subscribers) {fuel : Nat}
    (enough : subscribers.length < fuel) :
    nlifObsrvNotifySafe onEvent event data notifier fuel state =
        some (visitAll (nlifObsrvNotifySubscriber onEvent event data) subscribers state) ∧
      Sole (visitAll (nlifObsrvNotifySubscriber onEvent event data) subscribers state).links
        notifier (staying (deliveries onEvent event data subscribers state.client)) := by
  have start := listed.ring.linked.next_first
  have unlinks := @notify_subscriber_links Data Client onEvent event data
  have whole : Sole state.links notifier ([] ++ subscribers) := listed
  have walked := foreach_safe_visits unlinks whole enough
  rw [remaining_staying] at walked
  unfold nlifObsrvNotifySafe
  rw [start]
  exact walked

theorem notify_delivers
    (stays : ∀ subscriber client, (onEvent subscriber event data client).1 = false)
    {state : Obsrv Data Client} (listed : Sole state.links notifier subscribers) {fuel : Nat}
    (enough : subscribers.length < fuel) :
    nlifObsrvNotify onEvent event data notifier fuel state =
      some (visitAll (nlifObsrvNotifySubscriber onEvent event data) subscribers state) := by
  have kept : ∀ subscriber (state : Obsrv Data Client),
      (nlifObsrvNotifySubscriber onEvent event data subscriber state).links = state.links := by
    intro subscriber state
    rw [notify_subscriber_links, unsubscribing, stays, if_neg Bool.false_ne_true]
  have start := listed.ring.linked.next_first
  have whole : Ring state.links notifier ([] ++ subscribers) := listed.ring
  unfold nlifObsrvNotify
  rw [start]
  exact foreach_visits kept whole enough

theorem visit_all_links
    (stays : ∀ subscriber client, (onEvent subscriber event data client).1 = false)
    (state : Obsrv Data Client) :
    (visitAll (nlifObsrvNotifySubscriber onEvent event data) subscribers state).links =
      state.links := by
  induction subscribers generalizing state with
  | nil => rfl
  | cons subscriber rest ih =>
      unfold visitAll at ih ⊢
      rw [List.foldl_cons, ih, notify_subscriber_links, unsubscribing, stays,
        if_neg Bool.false_ne_true]

end Notify

inductive Op where
  | subscribe (subscriber : Addr)
  | unsubscribe (subscriber : Addr)

/-- `nlif_obsrv_subscribe()` asserts that the subscriber is not subscribed yet. -/
def admits (notifier : Addr) (links : Links Addr) : Op → Prop
  | .subscribe subscriber =>
      subscriber ≠ notifier ∧ nlifObsrvSubscribed links subscriber = false
  | .unsubscribe subscriber => subscriber ≠ notifier

def machine (notifier : Addr) : Machine (Links Addr) Op Unit Fault where
  admits := admits notifier
  step
    | .subscribe subscriber, links => .ok ((), nlifObsrvSubscribe notifier subscriber links)
    | .unsubscribe subscriber, links => .ok ((), nlifObsrvUnsubscribe subscriber links)

/-- What subscribing is for: a register without repetition, in the order of subscription. -/
def register : Machine (List Addr) Op Unit Fault where
  admits
    | subscribers, .subscribe subscriber => subscriber ∉ subscribers
    | _, .unsubscribe _ => True
  step
    | .subscribe subscriber, subscribers => .ok ((), subscribers ++ [subscriber])
    | .unsubscribe subscriber, subscribers => .ok ((), subscribers.erase subscriber)

variable {notifier : Addr}

theorem register_step {links next : Links Addr} {subscribers : List Addr} {op : Op} {ret : Unit}
    (listed : Sole links notifier subscribers) (admitted : admits notifier links op)
    (stepped : (machine notifier).step op links = .ok (ret, next)) :
    ∃ after, register.admits subscribers op ∧ register.step op subscribers = .ok (ret, after) ∧
      Sole next notifier after := by
  cases op with
  | subscribe subscriber =>
      cases stepped
      obtain ⟨other, unsubscribed⟩ := admitted
      have fresh : subscriber ∉ subscribers := by
        apply (listed.next_self_iff other).mp
        simpa [nlifObsrvSubscribed] using unsubscribed
      exact ⟨_, fresh, rfl, listed.nqueue_back other fresh⟩
  | unsubscribe subscriber =>
      cases stepped
      exact ⟨_, trivial, rfl, listed.remove_any admitted⟩

theorem run_registers {log : List (Op × Unit)} {links : Links Addr}
    (run : Run (machine notifier) unlinked log links) :
    ∃ subscribers, Run register [] log subscribers ∧ Sole links notifier subscribers :=
  run_simulation (fun links => Sole links notifier) (sole_unlinked notifier)
    (fun _ _ _ _ _ => register_step) run

/-- On a notifier built by any run, a safe notification ends, calls every subscriber
once in the order of subscription and keeps those that did not unsubscribe, in their
order. Where no callback unsubscribes, the plain notification does the same. -/
theorem notify_safe_reaches_subscribers {log : List (Op × Unit)} {links : Links Addr}
    (run : Run (machine notifier) unlinked log links) :
    ∃ subscribers, Run register [] log subscribers ∧ subscribers.Nodup ∧
      ∀ (Data Client : Type) (onEvent : Addr → OnEvent Data Client) (event : Nat) (data : Data)
        (client : Client), ∃ enough, ∀ fuel ≥ enough, ∃ after,
          nlifObsrvNotifySafe onEvent event data notifier fuel ⟨links, client, []⟩ = some after ∧
          after.calls.map Call.subscriber = subscribers ∧
          (∀ call ∈ after.calls, call.event = event ∧ call.data = data) ∧
          Ring after.links notifier (staying after.calls) ∧
          (∀ subscriber, subscriber ≠ notifier →
            (nlifObsrvSubscribed after.links subscriber ↔ subscriber ∈ staying after.calls)) ∧
          ((∀ subscriber client, (onEvent subscriber event data client).1 = false) →
            nlifObsrvNotify onEvent event data notifier fuel ⟨links, client, []⟩ = some after) := by
  obtain ⟨subscribers, registered, listed⟩ := run_registers run
  refine ⟨subscribers, registered, (List.nodup_cons.mp listed.ring.distinct).2, ?_⟩
  intro Data Client onEvent event data client
  refine ⟨subscribers.length + 1, fun fuel enough => ?_⟩
  let start : Obsrv Data Client := ⟨links, client, []⟩
  let after := visitAll (nlifObsrvNotifySubscriber onEvent event data) subscribers start
  have safe : nlifObsrvNotifySafe onEvent event data notifier fuel start = some after ∧
      Sole after.links notifier (staying (deliveries onEvent event data subscribers client)) :=
    notify_safe_delivers listed enough
  have calls : after.calls = deliveries onEvent event data subscribers client :=
    visit_all_calls start
  refine ⟨after, safe.1, ?_, ?_, ?_, ?_, ?_⟩
  · rw [calls]
    exact deliveries_subscribers client
  · rw [calls]
    exact deliveries_carry client
  · rw [calls]
    exact safe.2.ring
  · intro subscriber other
    rw [calls]
    have member := safe.2.next_self_iff other
    unfold nlifObsrvSubscribed
    rw [decide_eq_true_iff]
    exact (not_congr member).trans not_not
  · intro stays
    exact notify_delivers stays listed enough

def leaving (subscriber : Addr) : OnEvent Unit Unit := fun _ _ _ => (subscriber == 1, ())

example :
    (nlifObsrvNotifySafe leaving 0 () 0 3
      ⟨nlifObsrvSubscribe 0 2 (nlifObsrvSubscribe 0 1 unlinked), (), []⟩).map
        (fun after => (after.calls.map Call.subscriber, staying after.calls)) =
      some ([1, 2], [2]) := by
  decide

theorem leaving_reaches_subscribers :
    ∃ links subscribers, Run (machine 0) unlinked [(.subscribe 1, ()), (.subscribe 2, ())] links ∧
      subscribers.Nodup ∧ ∃ fuel after,
        nlifObsrvNotifySafe leaving 0 () 0 fuel ⟨links, (), []⟩ = some after ∧
        after.calls.map Call.subscriber = subscribers := by
  have one := (Run.start : Run (machine 0) unlinked [] unlinked).extend (.subscribe 1) ()
    ⟨by decide, rfl⟩ rfl
  have two := one.extend (.subscribe 2) () ⟨by decide, rfl⟩ rfl
  obtain ⟨subscribers, _, distinct, delivers⟩ := notify_safe_reaches_subscribers two
  obtain ⟨enough, ends⟩ := delivers Unit Unit leaving 0 () ()
  obtain ⟨after, done, calls, _⟩ := ends enough (Nat.le_refl enough)
  exact ⟨_, subscribers, two, distinct, enough, after, done, calls⟩

end Nlif.ObsrvModel
