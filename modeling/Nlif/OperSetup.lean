import Nlif.OperMirror

/-!
# The initial operational datastore

`nlifd_iface_setup_oper_dstore()` fills the leaves of every enrolled interface in
and applies them at once. It succeeds where each of its edits is accepted, and
leaves the status of every interface behind.
-/

namespace Nlif.OperSetup

open LinkModel IfaceModel FaultWalk FaultLoop StoreModel OperModel OperMirror
open DaemonModel (SrError nlifd_iface_error_ok_iff)

set_option autoImplicit false

variable {datastore : Datastore} {objects : Objects} {hndl : Hndl} {ifaces : List Hndl}
  {session next : Session}

def freshSession : Session := ⟨[], [], []⟩

def setupEdits (datastore : Datastore) (interface : Iface) (value : CString) : List Edit :=
  ⟨interface.name, .physAddress, nlifLinkHwaddrStr interface.hwadr⟩ ::
    ((if datastore.ifMib then [⟨interface.name, .ifIndex, indexStr interface.idx⟩] else []) ++
      statusEdits datastore interface.name interface value)

section Iface

variable {interface : Iface} {name value : CString}

theorem setup_edits_name : ∀ edit ∈ setupEdits datastore interface value,
    edit.name = interface.name := by
  intro edit listed
  cases listed with
  | head => rfl
  | tail _ more =>
      cases List.mem_append.mp more with
      | inl index =>
          split at index
          · rw [List.mem_singleton.mp index]
          · cases index
      | inr status => exact status_edits_name edit status

theorem setup_edits_status {node : OperNode} {shown : CString}
    (status : lastValue (statusEdits datastore interface.name interface value)
      interface.name node = some shown) (apart : node ≠ .ifIndex ∧ node ≠ .physAddress) :
    lastValue (setupEdits datastore interface value) interface.name node = some shown := by
  have parts : setupEdits datastore interface value =
      (⟨interface.name, .physAddress, nlifLinkHwaddrStr interface.hwadr⟩ ::
        if datastore.ifMib then [⟨interface.name, .ifIndex, indexStr interface.idx⟩] else []) ++
      statusEdits datastore interface.name interface value := rfl
  rw [parts, last_value_append, status, lastValue, List.find?_eq_none.mpr]
  · rfl
  intro edit listed
  have others : edit.node = .ifIndex ∨ edit.node = .physAddress := by
    cases listed with
    | head => exact .inr rfl
    | tail _ index =>
        split at index
        · rw [List.mem_singleton.mp index]
          exact .inl rfl
        · cases index
  intro chosen
  have same : edit.node = node := (of_decide_eq_true chosen).2
  cases others with
  | inl index => exact apart.1 (same ▸ index)
  | inr hwaddr => exact apart.2 (same ▸ hwaddr)

theorem change_bypath_ok {edit : Edit}
    (done : srepoDatChangeBypath datastore edit session = (.ok, next)) :
    datastore.accepts edit = true ∧ next = { session with pending := edit :: session.pending } := by
  unfold srepoDatChangeBypath at done
  split at done
  · rename_i accepted
    cases done
    exact ⟨accepted, rfl⟩
  · cases done

theorem fill_operstate_ok
    (done : nlifdIfaceFillOperstate datastore name interface session = .ok (.ok, next)) :
    ∃ value, nlifLinkOperstateStr interface.opstat = .ok value ∧
      datastore.accepts ⟨name, .operStatus, value⟩ = true ∧
      next = { session with pending := ⟨name, .operStatus, value⟩ :: session.pending } := by
  obtain ⟨value, formatted, changed⟩ := (bind_ok_iff ..).mp done
  exact ⟨value, formatted, change_bypath_ok (Except.ok.inj changed)⟩

theorem went_on {ret : SrError} {middle : Session} {rest : Except Fault (SrError × Session)}
    (done : (if ret ≠ .ok then .ok (ret, middle) else rest) = .ok (.ok, next)) :
    ret = .ok ∧ rest = .ok (.ok, next) := by
  by_cases refused : ret ≠ .ok
  · rw [if_pos refused] at done
    cases done
    exact absurd rfl refused
  · rw [if_neg refused] at done
    exact ⟨not_not.mp refused, done⟩

theorem refresh_oper_ok
    (done : nlifdIfaceRefreshOper datastore name interface session = .ok (.ok, next)) :
    ∃ value, nlifLinkOperstateStr interface.opstat = .ok value ∧
      (∀ edit ∈ statusEdits datastore name interface value, datastore.accepts edit = true) ∧
      next = { session with
        pending := statusEdits datastore name interface value ++ session.pending } := by
  unfold nlifdIfaceRefreshOper at done
  split at done
  · rename_i mib
    cases filled : nlifdIfaceFillAdmstate datastore name interface session with
    | mk err middle =>
        rw [filled] at done
        obtain ⟨rfl, done⟩ := went_on done
        obtain ⟨admin, rfl⟩ := change_bypath_ok filled
        obtain ⟨value, formatted, oper, rfl⟩ := fill_operstate_ok done
        refine ⟨value, formatted, ?_, by simp [statusEdits, mib]⟩
        intro edit listed
        simp only [statusEdits, mib, if_true, List.mem_cons, List.not_mem_nil, or_false] at listed
        cases listed with
        | inl same => exact same ▸ oper
        | inr same => exact same ▸ admin
  · rename_i mib
    obtain ⟨value, formatted, oper, rfl⟩ := fill_operstate_ok done
    refine ⟨value, formatted, ?_, by simp [statusEdits, mib]⟩
    intro edit listed
    simp only [statusEdits, mib, Bool.false_eq_true, if_false, List.mem_singleton] at listed
    exact listed ▸ oper

theorem index_ok (filled : (if datastore.ifMib then
      nlifdIfaceFillIndex datastore name interface session else (.ok, session)) = (.ok, next)) :
    (datastore.ifMib = true →
        datastore.accepts ⟨name, .ifIndex, indexStr interface.idx⟩ = true) ∧
      next = { session with
        pending := (if datastore.ifMib then [⟨name, .ifIndex, indexStr interface.idx⟩] else []) ++
          session.pending } := by
  cases mib : datastore.ifMib with
  | false =>
      simp only [mib, Bool.false_eq_true, if_false] at filled
      cases filled
      exact ⟨nofun, rfl⟩
  | true =>
      simp only [mib, if_true] at filled
      obtain ⟨accepted, rfl⟩ := change_bypath_ok filled
      exact ⟨fun _ => accepted, rfl⟩

theorem setup_iface_ok (done : setupIface datastore objects hndl session = .ok (.ok, next)) :
    ∃ value, nlifLinkOperstateStr (objects hndl.iface).opstat = .ok value ∧
      (∀ edit ∈ setupEdits datastore (objects hndl.iface) value,
        datastore.accepts edit = true) ∧
      next = { session with
        pending := setupEdits datastore (objects hndl.iface) value ++ session.pending } := by
  unfold setupIface at done
  simp only at done
  split at done
  · rename_i unreachable
    have answered := (nlifd_iface_error_ok_iff _).mp (congrArg Prod.fst (Except.ok.inj done))
    omega
  · obtain ⟨⟨ret, middle⟩, refreshed, done⟩ := (bind_ok_iff ..).mp done
    obtain ⟨rfl, done⟩ := went_on done
    obtain ⟨value, formatted, status, rfl⟩ := refresh_oper_ok refreshed
    obtain ⟨went, done⟩ := went_on done
    obtain ⟨index, indexed⟩ := index_ok (Prod.ext went rfl)
    obtain ⟨hwaddr, same⟩ := change_bypath_ok (Except.ok.inj done)
    refine ⟨value, formatted, ?_, ?_⟩
    · intro edit listed
      cases listed with
      | head => exact hwaddr
      | tail _ more =>
          cases List.mem_append.mp more with
          | inl indexEdit =>
              split at indexEdit
              · rename_i mib
                rw [List.mem_singleton.mp indexEdit]
                exact index mib
              · cases indexEdit
          | inr later => exact status edit later
    · have assembled := congrArg (fun later : Session => { later with
        pending := ⟨(objects hndl.iface).name, .physAddress,
          nlifLinkHwaddrStr (objects hndl.iface).hwadr⟩ :: later.pending }) indexed
      rw [setupEdits, List.cons_append, List.append_assoc]
      exact same.trans assembled

theorem setup_iface_eq (session : Session)
    (formatted : nlifLinkOperstateStr (objects hndl.iface).opstat = .ok value)
    (accepted : ∀ edit ∈ setupEdits datastore (objects hndl.iface) value,
      datastore.accepts edit = true)
    (reachable : 0 ≤ datastore.xpath (objects hndl.iface).name) :
    setupIface datastore objects hndl session = .ok (.ok, { session with
      pending := setupEdits datastore (objects hndl.iface) value ++ session.pending }) := by
  have status : ∀ edit ∈ statusEdits datastore (objects hndl.iface).name (objects hndl.iface)
      value, datastore.accepts edit = true := by
    intro edit listed
    apply accepted
    simp [setupEdits, listed]
  have hwaddr := accepted _ (List.mem_cons_self ..)
  have path : ¬ datastore.xpath (objects hndl.iface).name < 0 := not_lt.mpr reachable
  unfold setupIface
  simp only [refresh_oper_eq session formatted status]
  cases mib : datastore.ifMib with
  | false =>
      simp [path, nlifdIfaceFillHwaddr, srepoDatChangeBypath, hwaddr, setupEdits, mib]
  | true =>
      have index : datastore.accepts
          ⟨(objects hndl.iface).name, .ifIndex, indexStr (objects hndl.iface).idx⟩ = true := by
        apply accepted
        simp [setupEdits, mib]
      simp [path, nlifdIfaceFillHwaddr, nlifdIfaceFillIndex, srepoDatChangeBypath, hwaddr, index,
        setupEdits, mib]

end Iface

theorem setup_session_ok (done : setupSession datastore objects ifaces session = .ok (.ok, next)) :
    ∃ last, Passes (setupIface datastore objects) (fun ret => ret ≠ .ok) ifaces session last ∧
      next = { last with pending := [], written := last.pending ++ last.written } := by
  obtain ⟨⟨ret, last⟩, looped, done⟩ := (bind_ok_iff ..).mp done
  obtain ⟨went, applied⟩ := went_on done
  refine ⟨last, ?_, ?_⟩
  · cases stopping_ok_iff.mp looped with
    | inl finished => exact finished.2
    | inr stopped => simp [went] at stopped
  · have applied := Except.ok.inj applied
    unfold srepoApplyChanges at applied
    split at applied
    · cases applied
      rfl
    · cases applied

/-- Every edit of the interface can be formatted and is accepted. -/
def Fillable (datastore : Datastore) (interface : Iface) : Prop :=
  ∃ value, nlifLinkOperstateStr interface.opstat = .ok value ∧
    ∀ edit ∈ setupEdits datastore interface value, datastore.accepts edit = true

/-- The set-up succeeds exactly where every interface can be filled in. -/
theorem setup_session_ok_iff (reachable : ∀ name, 0 ≤ datastore.xpath name)
    (applies : ∀ session, datastore.applies session = true) (session : Session) :
    (∃ next, setupSession datastore objects ifaces session = .ok (.ok, next)) ↔
      ∀ hndl ∈ ifaces, Fillable datastore (objects hndl.iface) := by
  constructor
  · intro succeeded
    cases succeeded with
    | intro next done =>
        obtain ⟨last, passes, _⟩ := setup_session_ok done
        refine passes.marked (fun hndl _ => Fillable datastore (objects hndl.iface)) ?_ ?_
        · intro hndl _ state code after visited goes
          have went : code = .ok := by simpa using goes
          subst went
          obtain ⟨value, formatted, accepted, _⟩ := setup_iface_ok visited
          exact ⟨value, formatted, accepted⟩
        · exact fun _ _ _ _ _ _ _ fillable _ _ => fillable
  · intro fillable
    have passed : ∃ last, Passes (setupIface datastore objects) (fun ret => ret ≠ .ok) ifaces
        session last ∧ ∀ hndl ∈ ([] : List Hndl), Fillable datastore (objects hndl.iface) := by
      refine passes_exist (fun (rest : List Hndl) _ =>
        ∀ hndl ∈ rest, Fillable datastore (objects hndl.iface)) ?_ fillable
      intro hndl rest state holds
      obtain ⟨value, formatted, accepted⟩ := holds hndl (List.mem_cons_self ..)
      exact ⟨.ok, _, setup_iface_eq state formatted accepted (reachable _), rfl,
        fun other there => holds other (List.mem_cons_of_mem _ there)⟩
    obtain ⟨last, passes, _⟩ := passed
    have looped : stopping (setupIface datastore objects) (fun ret => ret ≠ .ok) .ok ifaces
        session = .ok (.ok, last) := stopping_ok_iff.mpr (.inl ⟨rfl, passes⟩)
    refine ⟨{ last with pending := [], written := last.pending ++ last.written }, ?_⟩
    unfold setupSession
    simp only [looped, ok_bind, ne_eq, not_true_eq_false, if_false, srepoApplyChanges, applies,
      if_true]

structure Shown (datastore : Datastore) (interface : Iface) (edits : List Edit) : Prop where
  oper : ∃ value, nlifLinkOperstateStr interface.opstat = .ok value ∧
    lastValue edits interface.name .operStatus = some value
  admin : datastore.ifMib = true →
    lastValue edits interface.name .adminStatus =
      some (admstateStr (ifaceAdmstateOf interface))

section Shown

variable {interface : Iface} {newer older : List Edit}

theorem Shown.append (shown : Shown datastore interface newer) (older : List Edit) :
    Shown datastore interface (newer ++ older) where
  oper := by
    obtain ⟨value, formatted, last⟩ := shown.oper
    refine ⟨value, formatted, ?_⟩
    rw [last_value_append, last, Option.some_or]
  admin mib := by
    rw [last_value_append, shown.admin mib, Option.some_or]

theorem Shown.stays (shown : Shown datastore interface older)
    (others : ∀ edit ∈ newer, edit.name ≠ interface.name) :
    Shown datastore interface (newer ++ older) where
  oper := by
    obtain ⟨value, formatted, last⟩ := shown.oper
    refine ⟨value, formatted, ?_⟩
    rw [last_value_append, last_value_other _ others, Option.none_or, last]
  admin mib := by
    rw [last_value_append, last_value_other _ others, Option.none_or, shown.admin mib]

theorem setup_edits_shown {value : CString}
    (formatted : nlifLinkOperstateStr interface.opstat = .ok value) :
    Shown datastore interface (setupEdits datastore interface value) where
  oper := ⟨value, formatted, setup_edits_status status_edits_oper (by decide)⟩
  admin mib := setup_edits_status (status_edits_admin mib) (by decide)

end Shown

theorem setup_session_shown
    (distinct : ∀ left ∈ ifaces, ∀ right ∈ ifaces,
      (objects left.iface).name = (objects right.iface).name → left = right)
    (done : setupSession datastore objects ifaces session = .ok (.ok, next)) :
    next.pending = [] ∧
      ∀ hndl ∈ ifaces, Shown datastore (objects hndl.iface) next.written := by
  obtain ⟨last, passes, rfl⟩ := setup_session_ok done
  refine ⟨rfl, ?_⟩
  have pending : ∀ hndl ∈ ifaces, Shown datastore (objects hndl.iface) last.pending := by
    refine passes.marked (fun hndl state => Shown datastore (objects hndl.iface) state.pending)
      ?_ ?_
    · intro hndl _ state code after visited goes
      have went : code = .ok := by simpa using goes
      subst went
      obtain ⟨value, formatted, _, rfl⟩ := setup_iface_ok visited
      exact (setup_edits_shown formatted).append _
    · intro hndl member other there state code after shown visited goes
      have went : code = .ok := by simpa using goes
      subst went
      obtain ⟨value, formatted, _, rfl⟩ := setup_iface_ok visited
      by_cases self : hndl = other
      · subst self
        exact (setup_edits_shown formatted).append _
      · apply shown.stays
        intro edit listed same
        rw [setup_edits_name edit listed] at same
        exact self (distinct hndl member other there same)
  intro hndl member
  exact (pending hndl member).append _

end Nlif.OperSetup
