import Nlif.StoreModel

/-!
# What one re-hash does

Specification lemmas of `nlif_store_rehash_name()`, `nlif_store_rehash_alias()`
and of the two event handlers built on them. A re-hash unlinks the handle first
and looks for a conflict afterwards, so a refusal leaves the handle unlinked;
the last section says exactly when that loses an index entry.
-/

namespace Nlif.StoreRehash

open LinkModel IfaceModel FaultWalk BucketTable StoreModel

set_option autoImplicit false

variable {NameBucket IndexBucket : Type}

variable [DecidableEq NameBucket]

section Conflicts

variable (hash : Hashing NameBucket IndexBucket) (objects : Objects) (hndl : Hndl)

/-- The answer of the conflict walk once the handle is off the name index. -/
def nameClash (name : CString) (store : Store NameBucket IndexBucket) : Except Fault Bool :=
  answersIn objects name (del hndl store.nameh (hash.str name))

def aliasClash (text : CString) (store : Store NameBucket IndexBucket) : Except Fault Bool :=
  answersIn objects text (del hndl store.aliash (hash.str text))

/-- The alias re-hash finds this answer; without alias nothing is walked. -/
def AliasAnswer (ifalias : Option HeapStr) (store : Store NameBucket IndexBucket)
    (clash : Bool) : Prop :=
  match ifalias with
  | none => clash = false
  | some pointer =>
      pointer.live = true ∧ aliasClash hash objects hndl pointer.text store = .ok clash

def dropName (store : Store NameBucket IndexBucket) : Store NameBucket IndexBucket :=
  { store with nameh := del hndl store.nameh }

def dropAlias (store : Store NameBucket IndexBucket) : Store NameBucket IndexBucket :=
  { store with aliash := del hndl store.aliash }

def moveName (name : CString) (store : Store NameBucket IndexBucket) :
    Store NameBucket IndexBucket :=
  { store with nameh := add (hash.str name) hndl (del hndl store.nameh) }

def moveAlias (ifalias : Option HeapStr) (store : Store NameBucket IndexBucket) :
    Store NameBucket IndexBucket :=
  match ifalias with
  | none => dropAlias hndl store
  | some pointer =>
      { store with aliash := add (hash.str pointer.text) hndl (del hndl store.aliash) }

/-- A name re-hash is decided by one conflict walk. -/
theorem store_rehash_name_ok_iff (name : CString) (store after : Store NameBucket IndexBucket)
    (ret : Int) :
    storeRehashName hash objects hndl name store = .ok (ret, after) ↔
      (nameClash hash objects hndl name store = .ok false ∧ ret = 0 ∧
        after = moveName hash hndl name store) ∨
      (nameClash hash objects hndl name store = .ok true ∧ ret = -EEXIST ∧
        after = dropName hndl store) := by
  have walked : storeRehashName hash objects hndl name store =
      (fun clash => if clash then (-EEXIST, dropName hndl store)
        else (0, moveName hash hndl name store)) <$> nameClash hash objects hndl name store := by
    change ((not <$> nameClash hash objects hndl name store) >>= _) = _
    rcases nameClash hash objects hndl name store with fault | _ | _ <;> rfl
  rw [walked]
  rcases nameClash hash objects hndl name store with fault | _ | _
  · simp
  · simp [eq_comm (a := ret), eq_comm (a := after)]
  · simp [eq_comm (a := ret), eq_comm (a := after)]

theorem store_rehash_alias_ok_iff (ifalias : Option HeapStr)
    (store after : Store NameBucket IndexBucket) (ret : Int) :
    storeRehashAlias hash objects hndl ifalias store = .ok (ret, after) ↔
      (AliasAnswer hash objects hndl ifalias store false ∧ ret = 0 ∧
        after = moveAlias hash hndl ifalias store) ∨
      (AliasAnswer hash objects hndl ifalias store true ∧ ret = -EEXIST ∧
        after = dropAlias hndl store) := by
  cases ifalias with
  | none => simp [storeRehashAlias, AliasAnswer, moveAlias, dropAlias, eq_comm]
  | some pointer =>
      have walked : storeRehashAlias hash objects hndl (some pointer) store =
          pointer.read >>= fun text => (not <$> aliasClash hash objects hndl text store) >>=
            fun may => if !may then .ok (-EEXIST, dropAlias hndl store)
              else .ok (0, { store with
                aliash := add (hash.str text) hndl (del hndl store.aliash) }) := rfl
      rw [walked]
      rcases pointer with ⟨text, live⟩
      cases live with
      | false => simp [HeapStr.read, AliasAnswer]
      | true =>
          simp only [HeapStr.read, if_true, ok_bind, AliasAnswer, moveAlias, true_and]
          rcases aliasClash hash objects hndl text store with fault | _ | _
          · simp
          · simp [eq_comm (a := ret), eq_comm (a := after)]
          · simp [eq_comm (a := ret), eq_comm (a := after)]

def renamed (rename : Bool) (name : CString) (store : Store NameBucket IndexBucket) :
    Store NameBucket IndexBucket :=
  if rename then moveName hash hndl name store else store

def realiased (realias : Bool) (ifalias : Option HeapStr) (store : Store NameBucket IndexBucket) :
    Store NameBucket IndexBucket :=
  if realias then moveAlias hash hndl ifalias store else store

theorem realiased_nameh (realias : Bool) (ifalias : Option HeapStr)
    (store : Store NameBucket IndexBucket) :
    (realiased hash hndl realias ifalias store).nameh = store.nameh := by
  cases realias <;> cases ifalias <;> rfl

theorem renamed_aliash (rename : Bool) (name : CString) (store : Store NameBucket IndexBucket) :
    (renamed hash hndl rename name store).aliash = store.aliash := by
  cases rename <;> rfl

/-- What the handlers of the MODIFY and RELOAD events do once the handle is found. -/
inductive Rehash (rename realias : Bool) (name : CString) (ifalias : Option HeapStr)
    (store : Store NameBucket IndexBucket) : Int → Store NameBucket IndexBucket → Prop
  | moved (nameFree : rename = true → nameClash hash objects hndl name store = .ok false)
      (aliasFree : realias = true → AliasAnswer hash objects hndl ifalias store false) :
      Rehash rename realias name ifalias store 0
        (realiased hash hndl realias ifalias (renamed hash hndl rename name store))
  | nameTaken (wanted : rename = true)
      (taken : nameClash hash objects hndl name store = .ok true) :
      Rehash rename realias name ifalias store (-EEXIST) (dropName hndl store)
  | aliasTaken (nameFree : rename = true → nameClash hash objects hndl name store = .ok false)
      (wanted : realias = true) (taken : AliasAnswer hash objects hndl ifalias store true) :
      Rehash rename realias name ifalias store (-EEXIST)
        (dropAlias hndl (renamed hash hndl rename name store))

theorem alias_answer_renamed (rename : Bool) (name : CString) (ifalias : Option HeapStr)
    (store : Store NameBucket IndexBucket) (clash : Bool) :
    AliasAnswer hash objects hndl ifalias (renamed hash hndl rename name store) clash ↔
      AliasAnswer hash objects hndl ifalias store clash := by
  cases rename <;> rfl

end Conflicts

section Handlers

variable (hash : Hashing NameBucket IndexBucket) (objects : Objects) {hndl : Hndl}

theorem store_rehash_unfound (rename realias : Bool) (interface : Addr)
    (store : Store NameBucket IndexBucket)
    (unfound : storeSearchIfaceHndlByindex hash objects store (objects interface).idx = none) :
    storeRehash hash objects rename realias interface store =
      if rename || realias then .error .nullDereference else .ok (0, store) := by
  simp only [storeRehash, rehashWhen, unfound]
  cases rename <;> cases realias <;> rfl

theorem rehash_when_name_ok_iff (rename : Bool) (name : CString)
    (store middle : Store NameBucket IndexBucket) (ret : Int) :
    rehashWhen rename (some hndl) (fun hndl => storeRehashName hash objects hndl name) store =
        .ok (ret, middle) ↔
      ((rename = true → nameClash hash objects hndl name store = .ok false) ∧ ret = 0 ∧
        middle = renamed hash hndl rename name store) ∨
      (rename = true ∧ nameClash hash objects hndl name store = .ok true ∧ ret = -EEXIST ∧
        middle = dropName hndl store) := by
  cases rename with
  | false => simp [rehashWhen, renamed, eq_comm]
  | true =>
      have rehashed := store_rehash_name_ok_iff hash objects hndl name store middle ret
      simpa [rehashWhen, renamed] using rehashed

theorem rehash_when_alias_ok_iff (realias : Bool) (ifalias : Option HeapStr)
    (store after : Store NameBucket IndexBucket) (ret : Int) :
    rehashWhen realias (some hndl) (fun hndl => storeRehashAlias hash objects hndl ifalias) store =
        .ok (ret, after) ↔
      ((realias = true → AliasAnswer hash objects hndl ifalias store false) ∧ ret = 0 ∧
        after = realiased hash hndl realias ifalias store) ∨
      (realias = true ∧ AliasAnswer hash objects hndl ifalias store true ∧ ret = -EEXIST ∧
        after = dropAlias hndl store) := by
  cases realias with
  | false => simp [rehashWhen, realiased, eq_comm]
  | true =>
      have rehashed := store_rehash_alias_ok_iff hash objects hndl ifalias store after ret
      simpa [rehashWhen, realiased] using rehashed

theorem store_rehash_ok_iff {rename realias : Bool} {interface : Addr}
    {store after : Store NameBucket IndexBucket} {ret : Int}
    (found : storeSearchIfaceHndlByindex hash objects store (objects interface).idx = some hndl) :
    storeRehash hash objects rename realias interface store = .ok (ret, after) ↔
      Rehash hash objects hndl rename realias (objects interface).name
        (objects interface).ifalias store ret after := by
  simp only [storeRehash, found, bind_ok_iff]
  constructor
  · intro done
    obtain ⟨⟨nameRet, middle⟩, first, done⟩ := done
    cases (rehash_when_name_ok_iff ..).mp first with
    | inl moved =>
        obtain ⟨nameFree, rfl, rfl⟩ := moved
        simp only [ne_eq, not_true_eq_false, if_false] at done
        cases (rehash_when_alias_ok_iff ..).mp done with
        | inl moved =>
            obtain ⟨aliasFree, rfl, rfl⟩ := moved
            exact .moved nameFree fun wanted => (alias_answer_renamed ..).mp (aliasFree wanted)
        | inr refused =>
            obtain ⟨wanted, taken, rfl, rfl⟩ := refused
            exact .aliasTaken nameFree wanted ((alias_answer_renamed ..).mp taken)
    | inr refused =>
        obtain ⟨wanted, taken, rfl, rfl⟩ := refused
        cases done
        exact .nameTaken wanted taken
  · intro outcome
    cases outcome with
    | moved nameFree aliasFree =>
        refine ⟨_, (rehash_when_name_ok_iff ..).mpr (.inl ⟨nameFree, rfl, rfl⟩), ?_⟩
        exact (rehash_when_alias_ok_iff ..).mpr
          (.inl ⟨fun wanted => (alias_answer_renamed ..).mpr (aliasFree wanted), rfl, rfl⟩)
    | nameTaken wanted taken =>
        exact ⟨_, (rehash_when_name_ok_iff ..).mpr (.inr ⟨wanted, taken, rfl, rfl⟩), rfl⟩
    | aliasTaken nameFree wanted taken =>
        refine ⟨_, (rehash_when_name_ok_iff ..).mpr (.inl ⟨nameFree, rfl, rfl⟩), ?_⟩
        exact (rehash_when_alias_ok_iff ..).mpr
          (.inr ⟨wanted, (alias_answer_renamed ..).mpr taken, rfl, rfl⟩)

theorem store_rehash_frame {rename realias : Bool} {interface : Addr}
    {store after : Store NameBucket IndexBucket} {ret : Int}
    (done : storeRehash hash objects rename realias interface store = .ok (ret, after)) :
    after.ifaces = store.ifaces ∧ after.count = store.count ∧ after.indxh = store.indxh := by
  rcases found : storeSearchIfaceHndlByindex hash objects store (objects interface).idx with
    _ | hndl
  · rw [store_rehash_unfound hash objects rename realias interface store found] at done
    split at done <;> cases done
    exact ⟨rfl, rfl, rfl⟩
  · have frame : ∀ ifalias, (realiased hash hndl realias ifalias
        (renamed hash hndl rename (objects interface).name store)).ifaces = store.ifaces ∧
        (realiased hash hndl realias ifalias
          (renamed hash hndl rename (objects interface).name store)).count = store.count ∧
        (realiased hash hndl realias ifalias
          (renamed hash hndl rename (objects interface).name store)).indxh = store.indxh := by
      intro ifalias
      cases rename <;> cases realias <;> cases ifalias <;> exact ⟨rfl, rfl, rfl⟩
    cases (store_rehash_ok_iff hash objects found).mp done with
    | moved => exact frame _
    | nameTaken => exact ⟨rfl, rfl, rfl⟩
    | aliasTaken => cases rename <;> exact ⟨rfl, rfl, rfl⟩

theorem store_rehash_ret {rename realias : Bool} {interface : Addr}
    {store after : Store NameBucket IndexBucket} {ret : Int}
    (done : storeRehash hash objects rename realias interface store = .ok (ret, after)) :
    ret = 0 ∨ ret = -EEXIST := by
  rcases found : storeSearchIfaceHndlByindex hash objects store (objects interface).idx with
    _ | hndl
  · rw [store_rehash_unfound hash objects rename realias interface store found] at done
    split at done <;> cases done
    exact .inl rfl
  · cases (store_rehash_ok_iff hash objects found).mp done with
    | moved => exact .inl rfl
    | nameTaken => exact .inr rfl
    | aliasTaken => exact .inr rfl

structure SameIndices (before after : Store NameBucket IndexBucket) : Prop where
  nameh : ∀ bucket hndl, hndl ∈ after.nameh bucket ↔ hndl ∈ before.nameh bucket
  aliash : ∀ bucket hndl, hndl ∈ after.aliash bucket ↔ hndl ∈ before.aliash bucket

/-- An event handler that leaves the string indices as they were whenever it
returns an error. -/
def RefusesAtomically (store : Store NameBucket IndexBucket)
    (outcome : Except Fault (Int × Store NameBucket IndexBucket)) : Prop :=
  ∀ ret after, outcome = .ok (ret, after) → ret ≠ 0 → SameIndices store after

/-- Before the event: a handle whose name is taken is on no name chain, and one
whose alias only is taken is on no alias chain and, where it is renamed too,
already where its name belongs. -/
structure NothingToLose (hash : Hashing NameBucket IndexBucket) (objects : Objects)
    (hndl : Hndl) (rename realias : Bool) (name : CString) (ifalias : Option HeapStr)
    (store : Store NameBucket IndexBucket) : Prop where
  onName : rename = true →
    nameClash hash objects hndl name store = .ok true → Off hndl store.nameh
  onAlias : (rename = true → nameClash hash objects hndl name store = .ok false) →
    realias = true → AliasAnswer hash objects hndl ifalias store true →
      Off hndl store.aliash ∧ (rename = true → On hndl (hash.str name) store.nameh)

omit [DecidableEq NameBucket] in
theorem same_indices_drop_name_iff (store : Store NameBucket IndexBucket) :
    SameIndices store (dropName hndl store) ↔ Off hndl store.nameh := by
  constructor
  · intro same bucket member
    exact off_del hndl store.nameh bucket ((same.nameh bucket hndl).mpr member)
  · intro off
    refine ⟨fun bucket other => ?_, fun _ _ => Iff.rfl⟩
    rw [dropName, del_unlinked hndl store.nameh off]

theorem same_indices_drop_alias_iff (rename : Bool) (name : CString)
    (store : Store NameBucket IndexBucket) :
    SameIndices store (dropAlias hndl (renamed hash hndl rename name store)) ↔
      Off hndl store.aliash ∧ (rename = true → On hndl (hash.str name) store.nameh) := by
  have unlinked : Off hndl store.aliash ↔ ∀ bucket other,
      other ∈ del hndl store.aliash bucket ↔ other ∈ store.aliash bucket := by
    constructor
    · intro off bucket other
      rw [del_unlinked hndl store.aliash off]
    · intro same bucket member
      exact off_del hndl store.aliash bucket ((same bucket hndl).mpr member)
  have moved : On hndl (hash.str name) store.nameh ↔ ∀ bucket other,
      other ∈ add (hash.str name) hndl (del hndl store.nameh) bucket ↔
        other ∈ store.nameh bucket := by
    constructor
    · intro home bucket other
      by_cases same : other = hndl
      · subst same
        simp [home bucket]
      · simp [same]
    · intro same bucket
      rw [← same bucket hndl]
      simp
  cases rename with
  | false => exact ⟨fun same => ⟨unlinked.mpr same.aliash, by simp⟩,
      fun home => ⟨fun _ _ => Iff.rfl, unlinked.mp home.1⟩⟩
  | true => exact ⟨fun same => ⟨unlinked.mpr same.aliash, fun _ => moved.mpr same.nameh⟩,
      fun home => ⟨moved.mp (home.2 rfl), unlinked.mp home.1⟩⟩

theorem store_rehash_atomic_iff (rename realias : Bool) (interface : Addr)
    (store : Store NameBucket IndexBucket) :
    RefusesAtomically store (storeRehash hash objects rename realias interface store) ↔
      ∀ hndl, storeSearchIfaceHndlByindex hash objects store (objects interface).idx = some hndl →
        NothingToLose hash objects hndl rename realias (objects interface).name
          (objects interface).ifalias store := by
  constructor
  · intro atomic hndl found
    refine ⟨fun wanted taken => ?_, fun free wanted taken => ?_⟩
    · have refused : storeRehash hash objects rename realias interface store =
          .ok (-EEXIST, dropName hndl store) :=
        (store_rehash_ok_iff hash objects found).mpr (.nameTaken wanted taken)
      exact (same_indices_drop_name_iff store).mp (atomic _ _ refused (by simp [EEXIST]))
    · have refused := (store_rehash_ok_iff hash objects found).mpr
        (.aliasTaken free wanted taken)
      exact (same_indices_drop_alias_iff hash rename _ store).mp
        (atomic _ _ refused (by simp [EEXIST]))
  · intro harmless ret after done failed
    rcases found : storeSearchIfaceHndlByindex hash objects store (objects interface).idx with
      _ | hndl
    · rw [store_rehash_unfound hash objects rename realias interface store found] at done
      split at done <;> cases done
      exact absurd rfl failed
    · have safe := harmless hndl found
      cases (store_rehash_ok_iff hash objects found).mp done with
      | moved => exact absurd rfl failed
      | nameTaken wanted taken =>
          exact (same_indices_drop_name_iff store).mpr (safe.onName wanted taken)
      | aliasTaken free wanted taken =>
          exact (same_indices_drop_alias_iff hash rename _ store).mpr
            (safe.onAlias free wanted taken)

/-- The MODIFY and the RELOAD handler refuse without touching the string
indices exactly where the refused handle has nothing to lose. -/
theorem event_refusal_keeps_indices_iff (interface : Addr)
    (store : Store NameBucket IndexBucket) :
    (RefusesAtomically store (storeOnIfaceModify hash objects interface store) ↔
      ∀ hndl, storeSearchIfaceHndlByindex hash objects store (objects interface).idx = some hndl →
        NothingToLose hash objects hndl (.name ∈ (objects interface).dirtyFields)
          (.ifalias ∈ (objects interface).dirtyFields) (objects interface).name
          (objects interface).ifalias store) ∧
    (RefusesAtomically store (storeOnIfaceReload hash objects interface store) ↔
      ∀ hndl, storeSearchIfaceHndlByindex hash objects store (objects interface).idx = some hndl →
        NothingToLose hash objects hndl true true (objects interface).name
          (objects interface).ifalias store) :=
  ⟨store_rehash_atomic_iff hash objects _ _ interface store,
    store_rehash_atomic_iff hash objects true true interface store⟩

end Handlers

/-- Two interfaces, "a" and one that was "b" with alias "c" until its rename to "a" was staged. -/
def renamedOntoFirst : Objects := fun interface =>
  if interface = 0 then ifaceFill (bareLink 1 nameA none)
  else
    { ifaceFill (bareLink 2 nameA (some nameC)) with
      state := .dirty
      dirtyFields := {.name} }

def firstAndSecond : Store (Fin (2 ^ NLIF_STORE_NAMEH_BITS)) (Fin (2 ^ NLIF_STORE_INDXH_BITS)) :=
  let enrolled (hndl : Hndl) (index : UInt32) (name : CString) (ifalias : Option CString)
      (store : Store (Fin (2 ^ NLIF_STORE_NAMEH_BITS)) (Fin (2 ^ NLIF_STORE_INDXH_BITS))) :=
    storeCreatenEnrollIfaceHndl store hndl (djb2Hashing.index index) (djb2Hashing.str name)
      (ifalias.map djb2Hashing.str)
  enrolled ⟨3, 1⟩ 2 nameB (some nameC) (enrolled ⟨2, 0⟩ 1 nameA none storeReinit)

/-- The rename the setter staged on the second interface is refused, and its handle is on no
name chain any more. -/
theorem refused_rename_drops_out :
    stageName ⟨nameA, IFNAMSIZ, by decide⟩ (ifaceFill (bareLink 2 nameB (some nameC))) =
      .ok (0, renamedOntoFirst 1) ∧
    ¬ RefusesAtomically firstAndSecond
      (storeOnIfaceModify djb2Hashing renamedOntoFirst 1 firstAndSecond) := by
  refine ⟨by decide, fun atomic => ?_⟩
  have found : storeSearchIfaceHndlByindex djb2Hashing renamedOntoFirst firstAndSecond
      (renamedOntoFirst 1).idx = some ⟨3, 1⟩ := by decide
  have refused : storeOnIfaceModify djb2Hashing renamedOntoFirst 1 firstAndSecond =
      .ok (-EEXIST, dropName ⟨3, 1⟩ firstAndSecond) :=
    (store_rehash_ok_iff djb2Hashing renamedOntoFirst found).mpr (.nameTaken rfl (by decide))
  have kept := (same_indices_drop_name_iff firstAndSecond).mp
    (atomic _ _ refused (by simp [EEXIST]))
  exact kept (djb2Hashing.str nameB) (by decide)

end Nlif.StoreRehash
