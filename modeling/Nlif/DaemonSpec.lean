import Nlif.DaemonModel
import Nlif.StoreLookup

/-!
# What the daemon does to one interface

Every call of the daemon works on one interface of its store and leaves the
others alone. Each handler is a re-synchronisation, a setter or nothing; later
modules argue over these effects and do not unfold the handlers again.
-/

namespace Nlif.DaemonSpec

open LinkModel IfaceModel FaultWalk StoreModel StoreRehash GateModel GateSpec StoreLookup
  LibraryRun DaemonModel FaultLoop

set_option autoImplicit false

variable {NameBucket IndexBucket Kstate : Type}

/-- Only this object and the two string indices may differ, and the trace grows. -/
structure Local (interface : Addr) (world next : World NameBucket IndexBucket Kstate) : Prop where
  elsewhere : ∀ other, other ≠ interface → next.objects other = world.objects other
  ifaces : next.store.ifaces = world.store.ifaces
  gate : next.gate = world.gate
  trace : world.trace <:+ next.trace

section Local

variable {interface : Addr} {first world next : World NameBucket IndexBucket Kstate}

theorem local_refl (interface : Addr) (world : World NameBucket IndexBucket Kstate) :
    Local interface world world :=
  ⟨fun _ _ => rfl, rfl, rfl, List.suffix_rfl⟩

theorem Local.trans (before : Local interface first world) (after : Local interface world next) :
    Local interface first next where
  elsewhere other different := by
    rw [after.elsewhere other different, before.elsewhere other different]
  ifaces := by rw [after.ifaces, before.ifaces]
  gate := by rw [after.gate, before.gate]
  trace := before.trace.trans after.trace

theorem local_set_object (interface : Addr) (object : Iface)
    (world : World NameBucket IndexBucket Kstate) :
    Local interface world (world.setObject interface object) :=
  ⟨fun _ different => Function.update_of_ne different _ _, rfl, rfl, List.suffix_rfl⟩

theorem Local.record (touched : Local interface world next) (event : Event) :
    Local interface world (next.record event) :=
  ⟨touched.elsewhere, touched.ifaces, touched.gate, touched.trace.trans (List.suffix_cons ..)⟩

end Local

theorem from_node_some {platform : Platform NameBucket IndexBucket Kstate} {change : LeafChange}
    {interface : Addr} {world : World NameBucket IndexBucket Kstate}
    (found : nlifdIfaceFromNode platform change world = some interface) :
    ∃ name, change.key = some name ∧
      storeFindIfaceByname platform.hash world.objects world.store name = some interface := by
  unfold nlifdIfaceFromNode at found
  rcases key : change.key with _ | name
  · rw [key] at found
    cases found
  · rw [key] at found
    simp only at found
    split at found
    · exact ⟨name, rfl, found⟩
    · cases found

/-- The asserting functions `nlifd_iface_refresh_oper()` calls. -/
theorem refresh_oper_calls (sysrepo : Sysrepo) (name : CString) (interface : Addr)
    (world : World NameBucket IndexBucket Kstate) :
    (nlifdIfaceRefreshOper sysrepo name interface world).2 =
      callAsserting .operstate interface world ∨
    (nlifdIfaceRefreshOper sysrepo name interface world).2 =
      callAsserting .admstate interface world ∨
    (nlifdIfaceRefreshOper sysrepo name interface world).2 =
      callAsserting .operstate interface (callAsserting .admstate interface world) := by
  unfold nlifdIfaceRefreshOper
  split
  · rcases filled : nlifdIfaceFillAdmstate sysrepo name interface world with ⟨err, middle⟩
    have read : middle = callAsserting .admstate interface world := by
      cases filled
      rfl
    subst read
    simp only
    split
    · exact .inr (.inl rfl)
    · exact .inr (.inr rfl)
  · exact .inl rfl

section Calls

variable [DecidableEq NameBucket] {platform : Platform NameBucket IndexBucket Kstate}
  {interface : Addr} {world next : World NameBucket IndexBucket Kstate} {ret : Int}

theorem reload_local (reload : Reload platform interface world ret next) :
    Local interface world next := by
  cases reload with
  | unanswered =>
      exact ⟨fun _ different => Function.update_of_ne different _ _, rfl, rfl,
        List.suffix_cons ..⟩
  | accepted _ _ _ rehashed =>
      exact ⟨fun _ different => Function.update_of_ne different _ _,
        (store_rehash_frame _ _ rehashed).1, rfl,
        (List.suffix_cons ..).trans (List.suffix_cons ..)⟩
  | clashed _ _ _ rehashed =>
      refine ⟨fun other different => ?_, (store_rehash_frame _ _ rehashed).1, rfl,
        (List.suffix_cons ..).trans (List.suffix_cons ..)⟩
      simp [World.invalidate, World.setObject, reloaded, answered, different]

variable [DecidableEq IndexBucket]

theorem sync_local (subscribed : world.gate.notif = true)
    (sync : ifaceSync platform interface world = .ok (ret, next)) :
    Local interface world next := by
  rcases (iface_sync_ok_iff _ _ _ subscribed _ _).mp sync with ⟨_, _, rfl⟩ | ⟨_, reload⟩
  · exact local_refl ..
  · exact reload_local reload

theorem set_local {setter : Setter} (subscribed : world.gate.notif = true)
    (done : ifaceSet platform setter interface world = .ok (ret, next)) :
    Local interface world next := by
  obtain ⟨_, middle, sync, ⟨_, _, rfl⟩ | ⟨_, object, _, rfl⟩⟩ :=
    iface_set_ok platform interface world done
  · exact sync_local subscribed sync
  · exact (sync_local subscribed sync).trans (local_set_object ..)

theorem modify_local
    (notified : gateNotify platform noObservers (.modify interface) world = .ok (ret, next)) :
    Local interface world next := by
  rcases (gate_notify_modify_ok_iff ..).mp notified with ⟨_, store, rehashed, rfl⟩ | ⟨_, _, rfl⟩
  · exact ⟨fun _ _ => rfl, (store_rehash_frame _ _ rehashed).1, rfl, List.suffix_cons ..⟩
  · exact local_refl ..

theorem apply_local (done : ifaceApply platform interface world = .ok (ret, next)) :
    Local interface world next := by
  have sentLocal : ∀ request kernel code,
      Local interface world (sent interface world request kernel code) := fun _ _ _ =>
    ⟨fun _ _ => rfl, rfl, rfl, (List.suffix_cons ..).trans (List.suffix_cons ..)⟩
  cases (iface_apply_ok_iff ..).mp done with
  | idle => exact (local_refl ..).record _
  | refused => exact (sentLocal _ _ _).trans (local_set_object ..)
  | applied _ _ _ notified | clashed _ _ _ notified =>
      exact ((sentLocal _ _ _).trans (modify_local notified)).trans (local_set_object ..)

/-- After an apply that fails the interface is `INVALID`, after any other it is
`CLEAN` if it was `DIRTY` and as it was otherwise. -/
theorem apply_state (done : ifaceApply platform interface world = .ok (ret, next)) :
    ((next.objects interface).state = .invalid ∧ ret < 0 ∧
        (world.objects interface).state = .dirty) ∨
      ((next.objects interface).state = .clean ∧ ret = 1 ∧
        (world.objects interface).state = .dirty) ∨
      (next.objects interface = world.objects interface ∧ ret = 0 ∧
        (world.objects interface).state ≠ .dirty) := by
  cases (iface_apply_ok_iff ..).mp done with
  | idle settledAlready => exact .inr (.inr ⟨rfl, rfl, settledAlready⟩)
  | refused dirty =>
      exact .inl ⟨by simp [World.invalidate, World.setObject], ynl_err_negative _, dirty⟩
  | applied dirty => exact .inr (.inl ⟨by simp [World.setObject, settled], rfl, dirty⟩)
  | clashed dirty _ _ notified failed =>
      have negative := gate_notify_modify_ret _ _ _ notified failed
      exact .inl ⟨by simp [World.invalidate, World.setObject], negative, dirty⟩

/-- The daemon's `nlif_iface_apply()`, with the message of an applied change. -/
theorem apply_iface_ok {hndl : Hndl} (done : applyIface platform hndl world = .ok (ret, next)) :
    ∃ middle, ifaceApply platform hndl.iface world = .ok (ret, middle) ∧
      (ret = 1 ∧ next = callAsserting .name hndl.iface middle ∨ ret ≤ 0 ∧ next = middle) := by
  obtain ⟨⟨answer, middle⟩, applied, done⟩ := (bind_ok_iff ..).mp done
  have codes : answer < 0 ∨ answer = 1 ∨ answer = 0 := by
    rcases apply_state applied with ⟨_, negative, _⟩ | ⟨_, one, _⟩ | ⟨_, zero, _⟩
    · exact .inl negative
    · exact .inr (.inl one)
    · exact .inr (.inr zero)
  simp only at done
  split at done
  · cases done
    exact ⟨middle, applied, .inl ⟨by omega, rfl⟩⟩
  · cases done
    exact ⟨_, applied, .inr ⟨by omega, rfl⟩⟩

theorem abort_iface_ok {hndl : Hndl} {before after : SrError × World NameBucket IndexBucket Kstate}
    (done : abortIface platform hndl before = .ok (ret, after)) :
    ifaceApply platform hndl.iface before.2 = .ok (ret, after.2) := by
  obtain ⟨⟨_, _⟩, applied, same⟩ := (bind_ok_iff ..).mp done
  cases same
  exact applied

inductive Reads (platform : Platform NameBucket IndexBucket Kstate) (change : LeafChange)
    (world : World NameBucket IndexBucket Kstate) : World NameBucket IndexBucket Kstate → Prop
  | nothing : Reads platform change world world
  | unread {interface : Addr} {code : Int} {next : World NameBucket IndexBucket Kstate}
      (found : nlifdIfaceFromNode platform change world = some interface)
      (sync : ifaceSync platform interface world = .ok (code, next)) :
      Reads platform change world next
  | read {interface : Addr} {next : World NameBucket IndexBucket Kstate}
      (found : nlifdIfaceFromNode platform change world = some interface)
      (sync : ifaceSync platform interface world = .ok (0, next)) :
      Reads platform change world (callAsserting .kind interface next)

inductive Effect (platform : Platform NameBucket IndexBucket Kstate) (change : LeafChange)
    (world : World NameBucket IndexBucket Kstate) : World NameBucket IndexBucket Kstate → Prop
  | reads {next : World NameBucket IndexBucket Kstate} (reads : Reads platform change world next) :
      Effect platform change world next
  | set {interface : Addr} {value : Bool} {code : Int}
      {next : World NameBucket IndexBucket Kstate}
      (found : nlifdIfaceFromNode platform change world = some interface)
      (done : ifaceSetAdmstate platform value interface world = .ok (code, next)) :
      Effect platform change world next

/-- The value a changed 'enabled' leaf asks for. -/
def changedValue (value : Bool) (dflt : Option Bool) : ChangeOper → Option Bool
  | .created | .modified => some value
  | .deleted => some (dflt.getD false)
  | .moved => none

/-- The change handler of the leaf re-synchronises its interface. -/
def Resynchronises (change : LeafChange) : Prop :=
  match change.node with
  | .enabled _ _ => change.oper ≠ .moved
  | .type _ => change.oper = .created ∨ change.oper = .modified

theorem change_enabled_ok_iff {value : Bool} {dflt : Option Bool} {change : LeafChange}
    {answer : SrError} :
    nlifdIfaceChangeEnabled platform value dflt change world = .ok (answer, next) ↔
      (nlifdIfaceFromNode platform change world = none ∧ answer = .notFound ∧ next = world) ∨
      ∃ interface, nlifdIfaceFromNode platform change world = some interface ∧
        ((changedValue value dflt change.oper = none ∧ answer = .unsupported ∧ next = world) ∨
          ∃ asked code, changedValue value dflt change.oper = some asked ∧
            ifaceSetAdmstate platform asked interface world = .ok (code, next) ∧
            answer = nlifdIfaceError code) := by
  have set : ∀ (interface : Addr) (asked : Bool),
      (ifaceSetAdmstate platform asked interface world >>= fun done =>
        if done.1 ≠ 0 then .ok (nlifdIfaceError done.1, done.2) else .ok (.ok, done.2)) =
          .ok (answer, next) ↔
        ∃ code, ifaceSetAdmstate platform asked interface world = .ok (code, next) ∧
          answer = nlifdIfaceError code := by
    intro interface asked
    rw [bind_ok_iff]
    constructor
    · rintro ⟨⟨code, after⟩, done, same⟩
      by_cases zero : code = 0
      · subst zero
        cases same
        exact ⟨0, done, rfl⟩
      · simp only [zero, ne_eq, not_false_eq_true, if_true] at same
        cases same
        exact ⟨code, done, rfl⟩
    · rintro ⟨code, done, rfl⟩
      refine ⟨(code, next), done, ?_⟩
      by_cases zero : code = 0
      · subst zero
        rfl
      · simp [zero]
  unfold nlifdIfaceChangeEnabled
  rcases nlifdIfaceFromNode platform change world with _ | interface
  · simp [eq_comm (a := answer), eq_comm (a := next)]
  · rcases change.oper with _ | _ | _ | _
    · simpa [changedValue] using set interface value
    · simpa [changedValue] using set interface value
    · simpa [changedValue] using set interface (dflt.getD false)
    · simp [changedValue, eq_comm (a := answer), eq_comm (a := next)]

theorem change_type_reads {value : CString} {change : LeafChange} {answer : SrError}
    (done : nlifdIfaceChangeType platform value change world = .ok (answer, next)) :
    Reads platform change world next := by
  unfold nlifdIfaceChangeType at done
  rcases found : nlifdIfaceFromNode platform change world with _ | interface
  · simp only [found] at done
    cases done
    exact .nothing
  · have compared : ∀ {type : Except Int CString × World NameBucket IndexBucket Kstate},
        nlifdIfaceCoherentTypeStr platform interface world = .ok type →
          Reads platform change world type.2 := by
      intro type asked
      obtain ⟨⟨outcome, middle⟩, coherent, asked⟩ := (bind_ok_iff ..).mp asked
      obtain ⟨synced, sync, ⟨_, rfl⟩ | ⟨rfl, rfl⟩⟩ := iface_coherent_ok _ _ _ coherent
      · cases asked
        exact .unread found sync
      · obtain ⟨str, _, asked⟩ := (bind_ok_iff ..).mp asked
        rcases str with _ | str <;> cases asked
        · exact .read found sync
        · exact .read found sync
    cases oper : change.oper with
    | created | modified =>
        simp only [found, oper] at done
        obtain ⟨⟨type, middle⟩, coherent, done⟩ := (bind_ok_iff ..).mp done
        have effect := compared coherent
        rcases type with ret | text
        · cases done
          exact effect
        · simp only at done
          split at done <;> cases done
          · exact effect
          · exact effect
    | deleted | moved =>
        simp only [found, oper] at done
        cases done
        exact .nothing

theorem change_hndlr_effect {change : LeafChange} {answer : SrError}
    (done : nlifdIfaceChangeHndlr platform change world = .ok (answer, next)) :
    Effect platform change world next := by
  unfold nlifdIfaceChangeHndlr at done
  split at done
  · rcases change_enabled_ok_iff.mp done with
      ⟨_, _, rfl⟩ | ⟨interface, found, ⟨_, _, rfl⟩ | ⟨asked, code, _, set, _⟩⟩
    · exact .reads .nothing
    · exact .reads .nothing
    · exact .set found set
  · exact .reads (change_type_reads done)

/-- A completed restore handler reports no error. -/
theorem restore_hndlr_effect {sysrepo : Sysrepo} {change : LeafChange} {answer : SrError}
    (done : nlifdIfaceRestoreHndlr sysrepo platform change world = .ok (answer, next)) :
    answer = .ok ∧ Effect platform change world next := by
  unfold nlifdIfaceRestoreHndlr at done
  split at done
  · unfold nlifdIfaceRestoreEnabled at done
    rcases found : nlifdIfaceFromNode platform change world with _ | interface
    · simp only [found] at done
      cases done
      exact ⟨rfl, .reads .nothing⟩
    · simp only [found] at done
      obtain ⟨value, _, done⟩ := (bind_ok_iff ..).mp done
      rcases value with _ | value
      · cases done
        exact ⟨rfl, .reads .nothing⟩
      · obtain ⟨⟨code, after⟩, set, done⟩ := (bind_ok_iff ..).mp done
        cases done
        exact ⟨rfl, .set found set⟩
  · cases done
    exact ⟨rfl, .reads .nothing⟩

theorem Effect.local {change : LeafChange} (effect : Effect platform change world next)
    (subscribed : world.gate.notif = true) :
    next = world ∨ ∃ interface, nlifdIfaceFromNode platform change world = some interface ∧
      Local interface world next := by
  cases effect with
  | reads reads =>
      cases reads with
      | nothing => exact .inl rfl
      | unread found sync => exact .inr ⟨_, found, sync_local subscribed sync⟩
      | read found sync => exact .inr ⟨_, found, (sync_local subscribed sync).record _⟩
  | set found done => exact .inr ⟨_, found, set_local subscribed done⟩

/-- The outcomes of `nlifd_iface_process_aborts()`. -/
theorem process_aborts_ok_iff {sysrepo : Sysrepo} {changes : List LeafChange} {answer : SrError} :
    nlifdIfaceProcessAborts sysrepo platform changes world = .ok (answer, next) ↔
      ∃ restored,
        srplugProcessChildChanges (nlifdIfaceRestoreHndlr sysrepo platform) changes world =
          .ok (.ok, restored) ∧
        Passes (abortIface platform) (fun _ => false) restored.store.ifaces (.ok, restored)
          (answer, next) := by
  have restores : ∀ {ret : SrError} {restored : World NameBucket IndexBucket Kstate},
      srplugProcessChildChanges (nlifdIfaceRestoreHndlr sysrepo platform) changes world =
        .ok (ret, restored) → ret = .ok := by
    intro ret restored done
    rcases stopping_ok_iff.mp done with ⟨same, _⟩ | ⟨_, _, item, _, middle, _, _, visited⟩
    · exact same
    · exact (restore_hndlr_effect visited).1
  unfold nlifdIfaceProcessAborts
  simp only [bind_ok_iff]
  constructor
  · rintro ⟨⟨ret, restored⟩, done, ⟨code, state⟩, swept, same⟩
    cases same
    cases restores done
    rcases stopping_ok_iff.mp swept with ⟨_, passes⟩ | ⟨stopped, _⟩
    · exact ⟨restored, done, passes⟩
    · cases stopped
  · rintro ⟨restored, done, passes⟩
    exact ⟨_, done, _, stopping_ok_iff.mpr (.inl ⟨rfl, passes⟩), rfl⟩

/-- The outcomes of `nlifd_iface_process_changes()`. -/
inductive Transaction (sysrepo : Sysrepo) (platform : Platform NameBucket IndexBucket Kstate)
    (changes : List LeafChange) (world : World NameBucket IndexBucket Kstate) :
    SrError → World NameBucket IndexBucket Kstate → Prop
  | rejected {answer : SrError} {next : World NameBucket IndexBucket Kstate}
      (handled : srplugProcessChildChanges (nlifdIfaceChangeHndlr platform) changes world =
        .ok (answer, next))
      (failed : answer ≠ .ok) : Transaction sysrepo platform changes world answer next
  | applied {staged next : World NameBucket IndexBucket Kstate} {code : Int}
      (handled : srplugProcessChildChanges (nlifdIfaceChangeHndlr platform) changes world =
        .ok (.ok, staged))
      (applied : applyIfaces platform staged = .ok (code, next)) (accepted : ¬ code < 0) :
      Transaction sysrepo platform changes world .ok next
  | rolledBack {staged walked next : World NameBucket IndexBucket Kstate} {err : Int}
      {answer : SrError}
      (handled : srplugProcessChildChanges (nlifdIfaceChangeHndlr platform) changes world =
        .ok (.ok, staged))
      (refused : applyIfaces platform staged = .ok (err, walked)) (failed : err < 0)
      (aborted : nlifdIfaceProcessAborts sysrepo platform changes walked = .ok (answer, next)) :
      Transaction sysrepo platform changes world (nlifdIfaceError err) next

theorem process_changes_ok_iff {sysrepo : Sysrepo} {changes : List LeafChange}
    {answer : SrError} :
    nlifdIfaceProcessChanges sysrepo platform changes world = .ok (answer, next) ↔
      Transaction sysrepo platform changes world answer next := by
  unfold nlifdIfaceProcessChanges
  constructor
  · intro done
    obtain ⟨⟨ret, staged⟩, handled, done⟩ := (bind_ok_iff ..).mp done
    by_cases succeeded : ret = .ok
    · subst succeeded
      simp only [if_true] at done
      obtain ⟨⟨err, walked⟩, walk, done⟩ := (bind_ok_iff ..).mp done
      by_cases failed : err < 0
      · simp only [failed, if_true] at done
        obtain ⟨⟨_, _⟩, aborted, done⟩ := (bind_ok_iff ..).mp done
        cases done
        exact .rolledBack handled walk failed aborted
      · simp only [failed, if_false] at done
        cases done
        exact .applied handled walk failed
    · simp only [succeeded, if_false] at done
      cases done
      exact .rejected handled succeeded
  · intro outcome
    cases outcome with
    | rejected handled failed => simp [handled, failed]
    | applied handled walk accepted => simp [handled, walk, accepted]
    | rolledBack handled walk failed aborted => simp [handled, walk, failed, aborted]

theorem push_oper_ok {sysrepo : Sysrepo}
    (done : nlifdPushOper sysrepo platform interface world = .ok next) :
    ∃ synced middle, ifaceSync platform interface world = .ok (synced, middle) ∧
      (next = middle ∨ synced = 0 ∧ (next = callAsserting .operstate interface middle ∨
        next = callAsserting .admstate interface middle ∨
        next = callAsserting .operstate interface (callAsserting .admstate interface middle))) := by
  obtain ⟨⟨outcome, middle⟩, coherent, done⟩ := (bind_ok_iff ..).mp done
  obtain ⟨synced, sync, failed | ⟨zero, rfl⟩⟩ := iface_coherent_ok _ _ _ coherent
  · obtain ⟨_, rfl⟩ := failed
    cases done
    exact ⟨synced, _, sync, .inl rfl⟩
  · simp only at done
    split at done
    · cases done
      exact ⟨synced, _, sync, .inl rfl⟩
    · cases done
      exact ⟨synced, middle, sync, .inr ⟨zero, refresh_oper_calls ..⟩⟩

end Calls

end Nlif.DaemonSpec
