import Nlif.FlagWord
import Nlif.GateSpec

/-!
# What rtnetlink does with the requests

A kernel as the library relies on it. A set-link request replaces the attributes
it carries, an alias attribute without text removes the alias, and the flags are
combined under the change mask, a zero mask next to nonzero flags standing for
all bits. Between requests only the operational attributes of a link move: each
request meets them as its moment has them, and may be refused, without effect.
-/

namespace Nlif.RtnetlinkModel

open LinkModel IfaceModel StoreModel GateModel FlagWord

set_option autoImplicit false

/-- The attributes that move without any request. -/
structure Operational where
  flags : BitVec 32
  operstate : UInt8
  linkmode : UInt8

/-- How one request is met. -/
structure Moment where
  operational : Operational
  refusal : Option YnlError

structure Rtnetlink where
  links : UInt32 → Option GetlinkRsp
  known : List UInt32
  moments : Nat → Moment

def drifted (index : UInt32) (operational : Operational) (link : GetlinkRsp) : GetlinkRsp :=
  { link with
    ifiIndex := index
    ifiFlags := merge IFF_VOLATILE link.ifiFlags operational.flags
    operstate := some operational.operstate
    linkmode := some operational.linkmode }

/-- The link as the next request meets it. -/
def current (state : Rtnetlink) (index : UInt32) : Option GetlinkRsp :=
  (state.links index).map (drifted index (state.moments 0).operational)

def elapsed (state : Rtnetlink) (index : UInt32) : Rtnetlink :=
  { state with
    links := Function.update state.links index (current state index)
    moments := fun later => state.moments (later + 1) }

def combineFlags (old flags change : BitVec 32) : BitVec 32 :=
  merge (if change = 0 ∧ flags ≠ 0 then ~~~0 else change) old flags

def setLink (request : SetlinkReq) (link : GetlinkRsp) : GetlinkRsp :=
  { link with
    ifiFlags := combineFlags link.ifiFlags request.ifiFlags request.ifiChange
    group := request.group <|> link.group
    ifname := request.ifname.getD link.ifname
    ifalias := request.ifalias.getD link.ifalias
    mtu := request.mtu <|> link.mtu
    address := (request.address.map Vector.toList).getD link.address }

def rtnlGetlink (index : UInt32) (state : Rtnetlink) :
    Except YnlError GetlinkRsp × Rtnetlink :=
  match (state.moments 0).refusal, current state index with
  | some error, _ => (.error error, elapsed state index)
  | none, none => (.error noSuchDevice, elapsed state index)
  | none, some link => (.ok link, elapsed state index)

def rtnlSetlink (request : SetlinkReq) (state : Rtnetlink) : Option YnlError × Rtnetlink :=
  let met := elapsed state request.ifiIndex
  match (state.moments 0).refusal, current state request.ifiIndex with
  | some error, _ => (some error, met)
  | none, none => (some noSuchDevice, met)
  | none, some link =>
      (none, { met with
        links := Function.update met.links request.ifiIndex (some (setLink request link)) })

def rtnlDump (state : Rtnetlink) : Except YnlError (List GetlinkRsp) × Rtnetlink :=
  let met := { state with moments := fun later => state.moments (later + 1) }
  match (state.moments 0).refusal with
  | some error => (.error error, met)
  | none => (.ok (state.known.filterMap (current state)), met)

def rtnetlink : Kernel Rtnetlink where
  getlink := rtnlGetlink
  setlink := rtnlSetlink
  dump := rtnlDump

theorem drifted_flags (index : UInt32) (operational : Operational) (link : GetlinkRsp) :
    AgreeOn (~~~IFF_VOLATILE) (drifted index operational link).ifiFlags link.ifiFlags :=
  merge_keeps ..

/-- Where the sender's word already agrees with the link's outside the mask, the
outcome agrees with the sender's word, whichever mask the kernel takes. -/
theorem combine_flags_agree {domain old flags change : BitVec 32}
    (outside : AgreeOn (domain &&& ~~~change) old flags) :
    AgreeOn domain (combineFlags old flags change) flags := by
  unfold combineFlags
  split
  · rw [merge_all]
    exact agree_on_refl domain flags
  · exact merge_agree outside (agree_on_refl _ flags)

/-- The bits outside a set of touched bits stay exactly where the mask is not
widened to all bits or the words are equal there anyway. -/
theorem combine_flags_spares_iff (old flags change : BitVec 32) :
    AgreeOn (~~~change) (combineFlags old flags change) old ↔
      change ≠ 0 ∨ flags = 0 ∨ flags = old := by
  unfold combineFlags
  split
  · rename_i widened
    obtain ⟨rfl, nonzero⟩ := widened
    rw [merge_all, agree_on_all_iff]
    constructor
    · exact fun same => .inr (.inr same)
    · rintro (changed | empty | same)
      · exact absurd rfl changed
      · exact absurd empty nonzero
      · exact same
  · rename_i kept
    constructor
    · intro _
      by_cases unmasked : change = 0
      · by_cases empty : flags = 0
        · exact .inr (.inl empty)
        · exact absurd ⟨unmasked, empty⟩ kept
      · exact .inl unmasked
    · intro _
      exact merge_keeps ..

@[simp] theorem setlink_elapsed_links (state : Rtnetlink) (index : UInt32) :
    (elapsed state index).links index = current state index := by
  simp [elapsed]

theorem elapsed_other (state : Rtnetlink) {index other : UInt32} (different : other ≠ index) :
    (elapsed state index).links other = state.links other := by
  simp [elapsed, different]

theorem rtnl_setlink_cases {request : SetlinkReq} {state next : Rtnetlink}
    {answer : Option YnlError} (asked : rtnlSetlink request state = (answer, next)) :
    (∃ error, answer = some error ∧ next = elapsed state request.ifiIndex) ∨
    (∃ link, answer = none ∧ current state request.ifiIndex = some link ∧
      next.links request.ifiIndex = some (setLink request link) ∧
      ∀ other, other ≠ request.ifiIndex → next.links other = state.links other) := by
  simp only [rtnlSetlink] at asked
  split at asked
  · cases asked
    exact .inl ⟨_, rfl, rfl⟩
  · cases asked
    exact .inl ⟨_, rfl, rfl⟩
  · rename_i link _ met
    cases asked
    refine .inr ⟨link, rfl, met, by simp, fun other different => ?_⟩
    simp [different, elapsed_other]

theorem rtnl_setlink_accepts {request : SetlinkReq} {state : Rtnetlink} {link : GetlinkRsp}
    (accepting : (state.moments 0).refusal = none)
    (met : current state request.ifiIndex = some link) :
    (rtnlSetlink request state).2.links request.ifiIndex = some (setLink request link) := by
  simp only [rtnlSetlink, accepting, met, Function.update_self]

theorem rtnl_getlink_cases {index : UInt32} {state next : Rtnetlink}
    {answer : Except YnlError GetlinkRsp} (asked : rtnlGetlink index state = (answer, next)) :
    next = elapsed state index ∧
      ((∃ error, answer = .error error) ∨
        ∃ link, answer = .ok link ∧ current state index = some link) := by
  simp only [rtnlGetlink] at asked
  split at asked
  · cases asked
    exact ⟨rfl, .inl ⟨_, rfl⟩⟩
  · cases asked
    exact ⟨rfl, .inl ⟨_, rfl⟩⟩
  · rename_i link _ met
    cases asked
    exact ⟨rfl, .inr ⟨link, rfl, met⟩⟩

theorem rtnl_setlink_other {request : SetlinkReq} {state next : Rtnetlink}
    {answer : Option YnlError} (asked : rtnlSetlink request state = (answer, next))
    {other : UInt32} (different : other ≠ request.ifiIndex) :
    next.links other = state.links other := by
  rcases rtnl_setlink_cases asked with ⟨_, _, rfl⟩ | ⟨_, _, _, _, same⟩
  · exact elapsed_other state different
  · exact same other different

theorem rtnl_getlink_other {index : UInt32} {state next : Rtnetlink}
    {answer : Except YnlError GetlinkRsp} (asked : rtnlGetlink index state = (answer, next))
    {other : UInt32} (different : other ≠ index) : next.links other = state.links other := by
  rw [(rtnl_getlink_cases asked).1]
  exact elapsed_other state different

theorem drifted_up (index : UInt32) (operational : Operational) (link : GetlinkRsp) :
    adminUp (drifted index operational link).ifiFlags = adminUp link.ifiFlags := by
  have stable : (~~~IFF_VOLATILE)[0] = true := by decide
  rw [admin_up_eq, admin_up_eq]
  exact (agree_on_iff ..).mp (drifted_flags index operational link) 0 (by decide) stable

theorem combine_up (old flags : BitVec 32) :
    adminUp (combineFlags old flags IFF_UP) = adminUp flags := by
  have narrow : ¬ (IFF_UP = 0 ∧ flags ≠ 0) := fun widened => absurd widened.1 (by decide)
  rw [combineFlags, if_neg narrow, admin_up_eq, admin_up_eq, merge_bit, iff_up_bit]
  rfl

def servingOnly (link : GetlinkRsp) : Rtnetlink where
  links index := if index = link.ifiIndex then some link else none
  known := [link.ifiIndex]
  moments _ :=
    { operational := ⟨link.ifiFlags, link.operstate.getD 0, link.linkmode.getD 0⟩
      refusal := none }

def rtnetlinkPlatform : CodePlatform Rtnetlink where
  hash := djb2Hashing
  kernel := rtnetlink

def loadedWorld (link : GetlinkRsp) : CodeWorld Rtnetlink where
  objects _ := ifaceFill link
  next := 1
  store := storeReinit
  gate := { notif := true, member := false }
  kernel := servingOnly link
  trace := []

end Nlif.RtnetlinkModel
