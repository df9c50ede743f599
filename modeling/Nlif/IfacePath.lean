import Nlif.DaemonModel
import Nlif.FaultWalk
import Nlif.GateSpec
import Nlif.XpathGrammar

/-!
# Paths of the interfaces in the datastore

Transcription of `nlifd_iface_fill_path_name`, `nlifd_iface_create_path` and the key
extraction of `nlifd_iface_from_node` of `src/nlifd.c`, with the functions of the srepo
library as parameters. A path selects the list entry of its interface, and no other, unless
the name holds an apostrophe.
-/

namespace Nlif.IfacePath

open LinkModel FaultWalk GateModel GateSpec DaemonModel XpathGrammar

set_option autoImplicit false

def NLIFD_IETF_IFACE_YANG_LIST_PATH : Bytes :=
  (cstring "/ietf-interfaces:interfaces/interface").bytes

def NLIFD_IETF_IFACE_YANG_LIST_PATH_LEN : Nat := NLIFD_IETF_IFACE_YANG_LIST_PATH.length

def interfaceNode : Bytes := (cstring "interface").bytes

def nameKey : Bytes := (cstring "name").bytes

/-- What the srepo library does with paths, the arguments of a format printed. -/
structure Srepo where
  /-- `srepo_xpath_printf()`: the path after the text is written at an offset, or an error. -/
  xpathPrintf : Bytes → Nat → Bytes → Except Int Bytes
  /-- `srepo_xpath_createf()`: a new path of this text, or an error. -/
  xpathCreatef : Bytes → Except Int Bytes
  /-- `srepo_xpath_key_value()`: the value of a key of a node of the path. -/
  xpathKeyValue : Bytes → Bytes → Bytes → Option Bytes

/-- `"[name='%s']"` -/
def pathName (name : CString) : Bytes :=
  (cstring "[name='").bytes ++ (name.bytes ++ (cstring "']").bytes)

section Paths

def nlifdIfaceFillPathName (srepo : Srepo) (path : Bytes) (name : CString) : Except Int Bytes :=
  srepo.xpathPrintf path NLIFD_IETF_IFACE_YANG_LIST_PATH_LEN (pathName name)

variable {NameBucket IndexBucket Kstate : Type} [DecidableEq NameBucket]
  [DecidableEq IndexBucket]

def nlifdIfaceCreatePath (srepo : Srepo) (platform : Platform NameBucket IndexBucket Kstate)
    (interface : Addr) (world : World NameBucket IndexBucket Kstate) :
    Except Fault (Except Int Bytes × World NameBucket IndexBucket Kstate) := do
  let (outcome, world) ← ifaceCoherentName platform interface world
  match outcome with
  | .error ret => .ok (.error ret, world)
  | .ok name =>
      .ok (srepo.xpathCreatef (NLIFD_IETF_IFACE_YANG_LIST_PATH ++ pathName name), world)

/-- The name `nlifd_iface_from_node()` finds in a path. -/
def pathKey (srepo : Srepo) (path : Bytes) : Option Bytes :=
  srepo.xpathKeyValue path interfaceNode nameKey

/-- What is relied on: a path that is made holds the text asked for, and the value of the
key is the one the path selects. -/
structure Documented (srepo : Srepo) : Prop where
  printf : ∀ path offset text next, srepo.xpathPrintf path offset text = .ok next →
    next = path.take offset ++ text
  createf : ∀ text path, srepo.xpathCreatef text = .ok path → path = text
  keyValue : ∀ path value, Selects NLIFD_IETF_IFACE_YANG_LIST_PATH nameKey path value →
    srepo.xpathKeyValue path interfaceNode nameKey = some value

structure Designates (srepo : Srepo) (path : Bytes) (name : CString) : Prop where
  selects : Selects NLIFD_IETF_IFACE_YANG_LIST_PATH nameKey path name.bytes
  only : ∀ entry, Selects NLIFD_IETF_IFACE_YANG_LIST_PATH nameKey path entry →
    entry = name.bytes
  key : pathKey srepo path = some name.bytes

/-- A path that one of the two functions made for this name. The first keeps what stands
before the predicate, which is the path of the list. -/
inductive Made (srepo : Srepo) : Bytes → CString → Prop where
  | filled {before path : Bytes} {name : CString}
      (base : before.take NLIFD_IETF_IFACE_YANG_LIST_PATH_LEN = NLIFD_IETF_IFACE_YANG_LIST_PATH)
      (filled : nlifdIfaceFillPathName srepo before name = .ok path) : Made srepo path name
  | created {NameBucket IndexBucket Kstate : Type} [DecidableEq NameBucket]
      [DecidableEq IndexBucket] {platform : Platform NameBucket IndexBucket Kstate}
      {interface : Addr} {world next : World NameBucket IndexBucket Kstate} {path : Bytes}
      (created : nlifdIfaceCreatePath srepo platform interface world = .ok (.ok path, next)) :
      Made srepo path (next.objects interface).name

variable {srepo : Srepo} {name other : CString}

theorem path_name_written (name : CString) : pathName name = writeKey nameKey name.bytes := by
  have opening : (cstring "[name='").bytes = openKey nameKey ++ [apostrophe] := by
    decide +kernel
  have closing : (cstring "']").bytes = [apostrophe, closeKey] := by
    decide +kernel
  rw [pathName, opening, closing, writeKey]
  simp only [List.append_assoc, List.cons_append, List.nil_append]

def namedPath (name : CString) : Bytes :=
  NLIFD_IETF_IFACE_YANG_LIST_PATH ++ writeKey nameKey name.bytes

theorem named_path_designates_iff (documented : Documented srepo) :
    Designates srepo (namedPath name) name ↔ apostrophe ∉ name.bytes := by
  constructor
  · intro designates
    obtain ⟨predicate, written, same⟩ := designates.selects
    obtain rfl := List.append_cancel_left same
    exact written_iff.mp written
  · intro free
    have selects : Selects NLIFD_IETF_IFACE_YANG_LIST_PATH nameKey (namedPath name) name.bytes :=
      ⟨_, written_iff.mpr free, rfl⟩
    exact ⟨selects, fun entry also => also.unique selects, documented.keyValue _ _ selects⟩

theorem created_path (documented : Documented srepo)
    {platform : Platform NameBucket IndexBucket Kstate} {interface : Addr} {path : Bytes}
    {world next : World NameBucket IndexBucket Kstate}
    (created : nlifdIfaceCreatePath srepo platform interface world = .ok (.ok path, next)) :
    path = namedPath (next.objects interface).name := by
  obtain ⟨⟨outcome, middle⟩, coherent, created⟩ := (bind_ok_iff ..).mp created
  obtain ⟨_, _, failed | succeeded⟩ := iface_coherent_ok platform interface world coherent
  · rw [failed.2] at created
    cases created
  · rw [succeeded.2] at created
    obtain ⟨made, rfl⟩ := Prod.mk.inj (Except.ok.inj created)
    rw [documented.createf _ _ made, path_name_written, namedPath]

theorem Made.path (documented : Documented srepo) {path : Bytes} (made : Made srepo path name) :
    path = namedPath name := by
  cases made with
  | filled base filled => rw [documented.printf _ _ _ _ filled, base, path_name_written, namedPath]
  | created created => exact created_path documented created

/-- A path made for a name designates its interface exactly when the name holds no
apostrophe, and shares no entry with the path made for another name. -/
theorem made_designates_iff (documented : Documented srepo) {path : Bytes}
    (made : Made srepo path name) :
    (Designates srepo path name ↔ apostrophe ∉ name.bytes) ∧
      ∀ otherPath, Made srepo otherPath other → other ≠ name → otherPath ≠ path ∧
        ∀ entry, Selects NLIFD_IETF_IFACE_YANG_LIST_PATH nameKey path entry →
          ¬ Selects NLIFD_IETF_IFACE_YANG_LIST_PATH nameKey otherPath entry := by
  obtain rfl := made.path documented
  refine ⟨named_path_designates_iff documented, fun otherPath madeToo different => ?_⟩
  obtain rfl := madeToo.path documented
  replace different : other.bytes ≠ name.bytes := fun same =>
    different ((CString.mk.injEq ..).mpr same)
  constructor
  · intro same
    exact different (write_key_injective (List.append_cancel_left same))
  · rintro entry ⟨predicate, written, same⟩ ⟨predicateToo, writtenToo, sameToo⟩
    obtain rfl := List.append_cancel_left same
    obtain rfl := List.append_cancel_left sameToo
    exact different ((written_value writtenToo).symm.trans (written_value written))

end Paths

def readingSrepo : Srepo where
  xpathPrintf path offset text := .ok (path.take offset ++ text)
  xpathCreatef text := .ok text
  xpathKeyValue path node key :=
    if node = interfaceNode ∧
        path.take NLIFD_IETF_IFACE_YANG_LIST_PATH_LEN = NLIFD_IETF_IFACE_YANG_LIST_PATH then
      readKey key (path.drop NLIFD_IETF_IFACE_YANG_LIST_PATH_LEN)
    else none

theorem reading_srepo_documented : Documented readingSrepo where
  printf _ _ _ _ done := (Except.ok.inj done).symm
  createf _ _ done := (Except.ok.inj done).symm
  keyValue path value selects := by
    obtain ⟨predicate, written, rfl⟩ := selects
    have front : (NLIFD_IETF_IFACE_YANG_LIST_PATH ++ predicate).take
        NLIFD_IETF_IFACE_YANG_LIST_PATH_LEN = NLIFD_IETF_IFACE_YANG_LIST_PATH := List.take_left
    have back : (NLIFD_IETF_IFACE_YANG_LIST_PATH ++ predicate).drop
        NLIFD_IETF_IFACE_YANG_LIST_PATH_LEN = predicate := List.drop_left
    change (if _ then readKey nameKey ((_ ++ predicate).drop _) else none) = some value
    rw [if_pos ⟨rfl, front⟩, back]
    exact read_key_iff.mpr written

theorem list_path_filled (name : CString) : Made readingSrepo (namedPath name) name := by
  have base : NLIFD_IETF_IFACE_YANG_LIST_PATH.take NLIFD_IETF_IFACE_YANG_LIST_PATH_LEN =
      NLIFD_IETF_IFACE_YANG_LIST_PATH := List.take_length
  apply Made.filled base
  rw [nlifdIfaceFillPathName, path_name_written]
  change Except.ok (_ ++ _) = _
  rw [base, namedPath]

/-- The paths of "eth0" and "eth1" select them. -/
theorem eth_paths_designate :
    Designates readingSrepo (namedPath (cstring "eth0")) (cstring "eth0") ∧
      namedPath (cstring "eth1") ≠ namedPath (cstring "eth0") := by
  have designates := @made_designates_iff _ _ (cstring "eth1") reading_srepo_documented _
    (list_path_filled (cstring "eth0"))
  have distinct := designates.2 _ (list_path_filled (cstring "eth1")) (by decide +kernel)
  exact ⟨designates.1.mpr (by decide +kernel), distinct.1⟩

def apostropheName : CString := cstring "a'b"

/-- The name is valid, but its path selects nothing. -/
theorem apostrophe_path_selects_nothing :
    linkValidateName apostropheName = 3 ∧
      nlifdIfaceFillPathName readingSrepo NLIFD_IETF_IFACE_YANG_LIST_PATH apostropheName =
        .ok (cstring "/ietf-interfaces:interfaces/interface[name='a'b']").bytes ∧
      (∀ entry, ¬ Selects NLIFD_IETF_IFACE_YANG_LIST_PATH nameKey
        (cstring "/ietf-interfaces:interfaces/interface[name='a'b']").bytes entry) ∧
      ¬ Designates readingSrepo
        (cstring "/ietf-interfaces:interfaces/interface[name='a'b']").bytes apostropheName := by
  have path : (cstring "/ietf-interfaces:interfaces/interface[name='a'b']").bytes =
      namedPath apostropheName := by
    decide +kernel
  have nothing : ∀ entry, ¬ Selects NLIFD_IETF_IFACE_YANG_LIST_PATH nameKey
      (namedPath apostropheName) entry := by
    rintro entry ⟨predicate, written, same⟩
    obtain rfl := List.append_cancel_left same
    obtain rfl := written_value written
    exact absurd (written_iff.mp written) (by decide +kernel)
  rw [path]
  exact ⟨by decide +kernel, by decide +kernel, nothing, fun designates =>
    nothing _ designates.selects⟩

end Nlif.IfacePath
