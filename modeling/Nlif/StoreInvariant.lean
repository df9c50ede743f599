import Nlif.GateSpec
import Nlif.StoreRehash

/-!
# What the store keeps

`Linked` is the part of the representation every completed call keeps: the
list, the counter and the index table agree, and the chains of the two string
indices hold enrolled handles once. `Indexed` ties the string indices to the
strings themselves; it speaks of settled strings only, since an interface is
edited before it is re-hashed, and a failed re-hash breaks it.
-/

namespace Nlif.StoreInvariant

open LinkModel IfaceModel FaultWalk BucketTable StoreModel StoreRehash GateSpec

set_option autoImplicit false

/-- An object a client may hold: its strings passed validation and, unless it is
`INVALID`, none of them was released. -/
structure Sound (interface : Iface) : Prop where
  idx : linkValidateIndex interface.idx = 0
  name : linkValidateName interface.name > 0
  ifalias : ∀ pointer, interface.ifalias = some pointer →
    linkValidateAlias (some pointer.text) > 0
  held : interface.state ≠ .invalid → Held interface

def NameSettled (interface : Iface) : Prop :=
  interface.state ≠ .invalid ∧ .name ∉ interface.dirtyFields

def AliasSettled (interface : Iface) : Prop :=
  interface.state ≠ .invalid ∧ .ifalias ∉ interface.dirtyFields

instance (interface : Iface) : Decidable (NameSettled interface) := by
  unfold NameSettled
  infer_instance

instance (interface : Iface) : Decidable (AliasSettled interface) := by
  unfold AliasSettled
  infer_instance

/-- The name a handle must be found under, once it is settled. -/
def nameKey (objects : Objects) (hndl : Hndl) : Option (Option CString) :=
  if NameSettled (objects hndl.iface) then some (some (objects hndl.iface).name) else none

def aliasKey (objects : Objects) (hndl : Hndl) : Option (Option CString) :=
  if AliasSettled (objects hndl.iface) then
    some ((objects hndl.iface).ifalias.map HeapStr.text)
  else none

theorem store_match_false_iff (interface : Iface) (strid : CString) :
    storeMatchIfaceBystrid interface strid = .ok false ↔
      strid ≠ interface.name ∧ ∀ pointer, interface.ifalias = some pointer →
        pointer.live = true ∧ strid ≠ pointer.text := by
  unfold storeMatchIfaceBystrid
  by_cases named : strid = interface.name
  · simp [named]
  · rcases interface.ifalias with _ | ⟨text, live⟩
    · simp [named]
    · cases live <;> simp [named, HeapStr.read]

theorem answers_in_false_iff (objects : Objects) (strid : CString) (chain : List Hndl) :
    answersIn objects strid chain = .ok false ↔
      ∀ hndl ∈ chain, storeMatchIfaceBystrid (objects hndl.iface) strid = .ok false :=
  any_hit_false_iff ..

theorem name_key_free {objects : Objects} {strid : CString} {chain : List Hndl}
    (free : answersIn objects strid chain = .ok false) (hndl : Hndl) (member : hndl ∈ chain) :
    nameKey objects hndl ≠ some (some strid) := by
  intro taken
  have silent := (answers_in_false_iff ..).mp free hndl member
  unfold nameKey at taken
  split at taken
  · cases taken
    exact ((store_match_false_iff ..).mp silent).1 rfl
  · cases taken

theorem alias_key_free {objects : Objects} {strid : CString} {chain : List Hndl}
    (free : answersIn objects strid chain = .ok false) (hndl : Hndl) (member : hndl ∈ chain) :
    aliasKey objects hndl ≠ some (some strid) := by
  intro taken
  have silent := (answers_in_false_iff ..).mp free hndl member
  unfold aliasKey at taken
  split at taken
  · obtain ⟨pointer, held, rfl⟩ := Option.map_eq_some_iff.mp (Option.some.inj taken)
    exact (((store_match_false_iff ..).mp silent).2 pointer held).2 rfl
  · cases taken

theorem answers_in_congr {objects later : Objects} {chain : List Hndl} (strid : CString)
    (agree : ∀ hndl ∈ chain, later hndl.iface = objects hndl.iface) :
    answersIn later strid chain = answersIn objects strid chain :=
  any_hit_congr _ _ _ fun hndl member => by rw [agree hndl member]

variable {NameBucket IndexBucket : Type}

structure Linked (hash : Hashing NameBucket IndexBucket) (objects : Objects) (next : Addr)
    (store : Store NameBucket IndexBucket) : Prop where
  nodup : store.ifaces.Nodup
  count : store.count = store.ifaces.length
  allocated : ∀ hndl ∈ store.ifaces, hndl.addr < next ∧ hndl.iface < next
  indxh : Chained store.ifaces store.indxh
  indexed : ∀ hndl ∈ store.ifaces, hndl ∈ store.indxh (hash.index (objects hndl.iface).idx)
  injective : ∀ left ∈ store.ifaces, ∀ right ∈ store.ifaces,
    (objects left.iface).idx = (objects right.iface).idx → left = right
  nameh : Chained store.ifaces store.nameh
  aliash : Chained store.ifaces store.aliash
  sound : ∀ hndl ∈ store.ifaces, Sound (objects hndl.iface)

section Linked

variable {hash : Hashing NameBucket IndexBucket} {objects : Objects} {next : Addr}
  {store : Store NameBucket IndexBucket}

theorem linked_reinit (hash : Hashing NameBucket IndexBucket) (objects : Objects) (next : Addr) :
    Linked hash objects next storeReinit where
  nodup := List.nodup_nil
  count := rfl
  allocated := by simp [storeReinit]
  indxh := chained_empty _
  indexed := by simp [storeReinit]
  injective := by simp [storeReinit]
  nameh := chained_empty _
  aliash := chained_empty _
  sound := by simp [storeReinit]

theorem Linked.grow (linked : Linked hash objects next store) {later : Addr}
    (grown : next ≤ later) : Linked hash objects later store where
  nodup := linked.nodup
  count := linked.count
  allocated hndl member :=
    ⟨Nat.lt_of_lt_of_le (linked.allocated hndl member).1 grown,
      Nat.lt_of_lt_of_le (linked.allocated hndl member).2 grown⟩
  indxh := linked.indxh
  indexed := linked.indexed
  injective := linked.injective
  nameh := linked.nameh
  aliash := linked.aliash
  sound := linked.sound

theorem Linked.touch (linked : Linked hash objects next store) {later : Objects}
    (kept : ∀ hndl ∈ store.ifaces,
      (later hndl.iface).idx = (objects hndl.iface).idx ∧ Sound (later hndl.iface)) :
    Linked hash later next store where
  nodup := linked.nodup
  count := linked.count
  allocated := linked.allocated
  indxh := linked.indxh
  indexed hndl member := by
    rw [(kept hndl member).1]
    exact linked.indexed hndl member
  injective left leftMember right rightMember same := by
    rw [(kept left leftMember).1, (kept right rightMember).1] at same
    exact linked.injective left leftMember right rightMember same
  nameh := linked.nameh
  aliash := linked.aliash
  sound hndl member := (kept hndl member).2

theorem Linked.fresh (linked : Linked hash objects next store) (object : Iface) :
    ∀ hndl ∈ store.ifaces, Function.update objects next object hndl.iface = objects hndl.iface :=
  fun hndl member =>
    Function.update_of_ne (Nat.ne_of_lt (linked.allocated hndl member).2) _ _

theorem Linked.create (linked : Linked hash objects next store) (object : Iface) :
    Linked hash (Function.update objects next object) (next + 1) store :=
  (linked.touch fun hndl member => by
    rw [linked.fresh object hndl member]
    exact ⟨rfl, linked.sound hndl member⟩).grow (Nat.le_succ next)

theorem Linked.same_iface (linked : Linked hash objects next store) {left right : Hndl}
    (leftMember : left ∈ store.ifaces) (rightMember : right ∈ store.ifaces)
    (same : left.iface = right.iface) : left = right :=
  linked.injective left leftMember right rightMember (by rw [same])

theorem Linked.search (linked : Linked hash objects next store) {hndl : Hndl}
    (member : hndl ∈ store.ifaces) :
    storeSearchIfaceHndlByindex hash objects store (objects hndl.iface).idx = some hndl := by
  have present := linked.indexed hndl member
  unfold storeSearchIfaceHndlByindex
  rcases found : List.find?
    (fun other : Hndl => decide ((objects hndl.iface).idx = (objects other.iface).idx))
    (store.indxh (hash.index (objects hndl.iface).idx)) with _ | other
  · have missed := List.find?_eq_none.mp found hndl present
    simp at missed
  · have hit := List.find?_some found
    have chained := List.mem_of_find?_eq_some found
    have enrolled := linked.indxh.registered _ other chained
    rw [linked.injective hndl member other enrolled (by simpa using hit)]

theorem Linked.search_some (linked : Linked hash objects next store) {index : UInt32}
    {hndl : Hndl} (found : storeSearchIfaceHndlByindex hash objects store index = some hndl) :
    hndl ∈ store.ifaces ∧ (objects hndl.iface).idx = index := by
  unfold storeSearchIfaceHndlByindex at found
  have hit := List.find?_some found
  exact ⟨linked.indxh.registered _ hndl (List.mem_of_find?_eq_some found),
    (by simpa using hit : index = (objects hndl.iface).idx).symm⟩

theorem Linked.search_none_iff (linked : Linked hash objects next store) (index : UInt32) :
    storeSearchIfaceHndlByindex hash objects store index = none ↔
      ∀ hndl ∈ store.ifaces, (objects hndl.iface).idx ≠ index := by
  constructor
  · rintro unfound hndl member rfl
    rw [linked.search member] at unfound
    cases unfound
  · intro absent
    rcases found : storeSearchIfaceHndlByindex hash objects store index with _ | hndl
    · rfl
    · obtain ⟨member, same⟩ := linked.search_some found
      exact absurd same (absent hndl member)

theorem Linked.replace (linked : Linked hash objects next store) {interface : Addr}
    {object : Iface} (idx : object.idx = (objects interface).idx) (sound : Sound object) :
    Linked hash (Function.update objects interface object) next store := by
  refine linked.touch fun hndl member => ?_
  by_cases same : hndl.iface = interface
  · rw [same, Function.update_self]
    exact ⟨idx, sound⟩
  · rw [Function.update_of_ne same]
    exact ⟨rfl, linked.sound hndl member⟩

theorem Linked.agree_replaced (linked : Linked hash objects next store) {hndl : Hndl}
    (member : hndl ∈ store.ifaces) (object : Iface) :
    ∀ other ∈ store.ifaces, other ≠ hndl →
      Function.update objects hndl.iface object other.iface = objects other.iface :=
  fun _ there different =>
    Function.update_of_ne (fun alike => different (linked.same_iface there member alike)) _ _

theorem Linked.search_replaced (linked : Linked hash objects next store) {hndl : Hndl}
    (member : hndl ∈ store.ifaces) {object : Iface}
    (idx : object.idx = (objects hndl.iface).idx) (sound : Sound object) :
    storeSearchIfaceHndlByindex hash (Function.update objects hndl.iface object) store
      (Function.update objects hndl.iface object hndl.iface).idx = some hndl :=
  (linked.replace idx sound).search member

theorem Linked.name_clash_congr (linked : Linked hash objects next store) {hndl : Hndl}
    {later : Objects}
    (agree : ∀ other ∈ store.ifaces, other ≠ hndl → later other.iface = objects other.iface)
    (name : CString) :
    nameClash hash later hndl name store = nameClash hash objects hndl name store :=
  answers_in_congr name fun other chained => by
    obtain ⟨there, different⟩ := (mem_del ..).mp chained
    exact agree other (linked.nameh.registered _ other there) different

theorem Linked.alias_answer_congr (linked : Linked hash objects next store) {hndl : Hndl}
    {later : Objects}
    (agree : ∀ other ∈ store.ifaces, other ≠ hndl → later other.iface = objects other.iface)
    (ifalias : Option HeapStr) (clash : Bool) :
    AliasAnswer hash later hndl ifalias store clash ↔
      AliasAnswer hash objects hndl ifalias store clash := by
  cases ifalias with
  | none => exact Iff.rfl
  | some pointer =>
      have same : aliasClash hash later hndl pointer.text store =
          aliasClash hash objects hndl pointer.text store :=
        answers_in_congr pointer.text fun other chained => by
          obtain ⟨there, different⟩ := (mem_del ..).mp chained
          exact agree other (linked.aliash.registered _ other there) different
      simp only [AliasAnswer, same]

section Moves

variable [DecidableEq NameBucket]

structure Relisted (hndl : Hndl) (before after : Store NameBucket IndexBucket) : Prop where
  ifaces : after.ifaces = before.ifaces
  count : after.count = before.count
  indxh : after.indxh = before.indxh
  nameh : Relinked hndl before.nameh after.nameh
  aliash : Relinked hndl before.aliash after.aliash

theorem relisted_refl (hndl : Hndl) (store : Store NameBucket IndexBucket) :
    Relisted hndl store store :=
  ⟨rfl, rfl, rfl, relinked_refl hndl _, relinked_refl hndl _⟩

theorem relisted_renamed (hash : Hashing NameBucket IndexBucket) (hndl : Hndl) (rename : Bool)
    (name : CString) (store : Store NameBucket IndexBucket) :
    Relisted hndl store (renamed hash hndl rename name store) := by
  cases rename with
  | false => exact relisted_refl hndl store
  | true => exact ⟨rfl, rfl, rfl, .inr (.inr ⟨_, rfl⟩), relinked_refl hndl _⟩

theorem Relisted.realiased {hndl : Hndl} {before after : Store NameBucket IndexBucket}
    (relisted : Relisted hndl before after) (realias : Bool) (ifalias : Option HeapStr) :
    Relisted hndl before (realiased hash hndl realias ifalias after) := by
  cases realias with
  | false => exact relisted
  | true =>
      cases ifalias with
      | none => exact ⟨relisted.ifaces, relisted.count, relisted.indxh, relisted.nameh,
          relisted.aliash.trans (.inr (.inl rfl))⟩
      | some pointer => exact ⟨relisted.ifaces, relisted.count, relisted.indxh, relisted.nameh,
          relisted.aliash.trans (.inr (.inr ⟨_, rfl⟩))⟩

theorem rehash_relisted {hndl : Hndl} {rename realias : Bool} {name : CString}
    {ifalias : Option HeapStr} {before after : Store NameBucket IndexBucket} {ret : Int}
    (outcome : Rehash hash objects hndl rename realias name ifalias before ret after) :
    Relisted hndl before after := by
  cases outcome with
  | moved => exact (relisted_renamed hash hndl rename name before).realiased realias ifalias
  | nameTaken => exact ⟨rfl, rfl, rfl, .inr (.inl rfl), relinked_refl hndl _⟩
  | aliasTaken =>
      have first := relisted_renamed hash hndl rename name before
      exact ⟨first.ifaces, first.count, first.indxh, first.nameh,
        first.aliash.trans (.inr (.inl rfl))⟩

theorem Linked.relisted (linked : Linked hash objects next store) {hndl : Hndl}
    (member : hndl ∈ store.ifaces) {after : Store NameBucket IndexBucket}
    (relisted : Relisted hndl store after) : Linked hash objects next after where
  nodup := relisted.ifaces ▸ linked.nodup
  count := by rw [relisted.count, relisted.ifaces, linked.count]
  allocated := relisted.ifaces ▸ linked.allocated
  indxh := by
    rw [relisted.ifaces, relisted.indxh]
    exact linked.indxh
  indexed := by
    rw [relisted.ifaces, relisted.indxh]
    exact linked.indexed
  injective := relisted.ifaces ▸ linked.injective
  nameh := by
    rw [relisted.ifaces]
    exact linked.nameh.relinked member relisted.nameh
  aliash := by
    rw [relisted.ifaces]
    exact linked.aliash.relinked member relisted.aliash
  sound := relisted.ifaces ▸ linked.sound

theorem Linked.rehashed (linked : Linked hash objects next store) {hndl : Hndl} {object : Iface}
    {after : Store NameBucket IndexBucket} {rename realias : Bool} {walked : Objects} {ret : Int}
    (member : hndl ∈ store.ifaces)
    (idx : object.idx = (objects hndl.iface).idx) (sound : Sound object)
    (found : storeSearchIfaceHndlByindex hash walked store (walked hndl.iface).idx = some hndl)
    (rehashed : storeRehash hash walked rename realias hndl.iface store = .ok (ret, after)) :
    Linked hash (Function.update objects hndl.iface object) next after :=
  (linked.replace idx sound).relisted member
    (rehash_relisted ((store_rehash_ok_iff hash walked found).mp rehashed))

theorem Linked.enroll [DecidableEq IndexBucket] (linked : Linked hash objects next store)
    {interface : Addr} (known : interface < next) (sound : Sound (objects interface))
    (free : ∀ hndl ∈ store.ifaces, (objects hndl.iface).idx ≠ (objects interface).idx)
    (nameBucket : NameBucket) (aliasBucket : Option NameBucket) :
    Linked hash objects (next + 1) (storeCreatenEnrollIfaceHndl store ⟨next, interface⟩
      (hash.index (objects interface).idx) nameBucket aliasBucket) := by
  have fresh : (⟨next, interface⟩ : Hndl) ∉ store.ifaces := by
    intro member
    have bounds := linked.allocated _ member
    simp at bounds
  have included : ∀ hndl ∈ store.ifaces, hndl ∈ store.ifaces ++ [⟨next, interface⟩] := by
    intro hndl member
    simp [member]
  have self : (⟨next, interface⟩ : Hndl) ∈ store.ifaces ++ [⟨next, interface⟩] := by simp
  have split : ∀ hndl ∈ store.ifaces ++ [⟨next, interface⟩],
      hndl ∈ store.ifaces ∨ hndl = ⟨next, interface⟩ := by
    intro hndl member
    simpa using member
  refine ⟨?_, ?_, ?_, ?_, ?_, ?_, ?_, ?_, ?_⟩
  · exact List.nodup_append.mpr ⟨linked.nodup, List.nodup_singleton _,
      fun left member right same => by
        cases List.mem_singleton.mp same
        rintro rfl
        exact fresh member⟩
  · simp [storeCreatenEnrollIfaceHndl, linked.count]
  · intro hndl member
    rcases split hndl member with old | rfl
    · exact ⟨Nat.lt_succ_of_lt (linked.allocated hndl old).1,
        Nat.lt_succ_of_lt (linked.allocated hndl old).2⟩
    · exact ⟨Nat.lt_succ_self next, Nat.lt_succ_of_lt known⟩
  · exact (linked.indxh.mono included).add _ _ self (linked.indxh.off_of_not_mem fresh)
  · intro hndl member
    rcases split hndl member with old | rfl
    · exact (mem_add ..).mpr (.inr (linked.indexed hndl old))
    · exact (mem_add ..).mpr (.inl ⟨rfl, rfl⟩)
  · intro left leftMember right rightMember same
    rcases split left leftMember with oldLeft | rfl
    · rcases split right rightMember with oldRight | rfl
      · exact linked.injective left oldLeft right oldRight same
      · exact absurd same (free left oldLeft)
    · rcases split right rightMember with oldRight | rfl
      · exact absurd same.symm (free right oldRight)
      · rfl
  · exact (linked.nameh.mono included).add _ _ self (linked.nameh.off_of_not_mem fresh)
  · cases aliasBucket with
    | none => exact linked.aliash.mono included
    | some bucket =>
        exact (linked.aliash.mono included).add _ _ self (linked.aliash.off_of_not_mem fresh)
  · intro hndl member
    rcases split hndl member with old | rfl
    · exact linked.sound hndl old
    · exact sound

end Moves

theorem Linked.unlink (linked : Linked hash objects next store) {hndl : Hndl}
    (member : hndl ∈ store.ifaces) : Linked hash objects next (storeUnlinkHndl hndl store) := by
  have subset : ∀ other ∈ (storeUnlinkHndl hndl store).ifaces,
      other ∈ store.ifaces ∧ other ≠ hndl := by
    intro other remaining
    simpa [storeUnlinkHndl] using remaining
  refine ⟨linked.nodup.filter _, ?_, ?_, ?_, ?_, ?_, ?_, ?_, ?_⟩
  · have erased : store.ifaces.filter (fun other => other ≠ hndl) = store.ifaces.erase hndl := by
      rw [linked.nodup.erase_eq_filter]
      apply List.filter_congr
      intro other _
      simp [bne, BEq.beq]
    simp only [storeUnlinkHndl, linked.count]
    rw [erased, List.length_erase_of_mem member]
  · exact fun other remaining => linked.allocated other (subset other remaining).1
  · exact (linked.indxh.del hndl).forget hndl (off_del hndl _)
  · intro other remaining
    obtain ⟨old, different⟩ := subset other remaining
    exact (mem_del ..).mpr ⟨linked.indexed other old, different⟩
  · exact fun left leftRemaining right rightRemaining =>
      linked.injective left (subset left leftRemaining).1 right (subset right rightRemaining).1
  · exact (linked.nameh.del hndl).forget hndl (off_del hndl _)
  · exact (linked.aliash.del hndl).forget hndl (off_del hndl _)
  · exact fun other remaining => linked.sound other (subset other remaining).1

end Linked

structure Indexed (hash : Hashing NameBucket IndexBucket) (objects : Objects)
    (store : Store NameBucket IndexBucket) : Prop where
  named : ∀ hndl ∈ store.ifaces, ∃ bucket, hndl ∈ store.nameh bucket
  names : Keyed hash.str (nameKey objects) store.ifaces store.nameh
  aliases : Keyed hash.str (aliasKey objects) store.ifaces store.aliash

structure Filed (hash : Hashing NameBucket IndexBucket) (objects : Objects)
    (store : Store NameBucket IndexBucket) : Prop where
  names : Keyed hash.str (nameKey objects) store.ifaces store.nameh
  aliases : Keyed hash.str (aliasKey objects) store.ifaces store.aliash

section Indexed

variable {hash : Hashing NameBucket IndexBucket} {objects later : Objects}
  {store : Store NameBucket IndexBucket}

theorem Indexed.filed (indexed : Indexed hash objects store) : Filed hash objects store :=
  ⟨indexed.names, indexed.aliases⟩

theorem Filed.indexed (filed : Filed hash objects store)
    (named : ∀ hndl ∈ store.ifaces, ∃ bucket, hndl ∈ store.nameh bucket) :
    Indexed hash objects store :=
  ⟨named, filed.names, filed.aliases⟩

theorem filed_reinit (hash : Hashing NameBucket IndexBucket) (objects : Objects) :
    Filed hash objects storeReinit :=
  ⟨keyed_nil _ _ _, keyed_nil _ _ _⟩

theorem indexed_reinit (hash : Hashing NameBucket IndexBucket) (objects : Objects) :
    Indexed hash objects storeReinit :=
  (filed_reinit hash objects).indexed (by simp [storeReinit])

theorem Filed.ease (filed : Filed hash objects store)
    (names : ∀ hndl ∈ store.ifaces,
      nameKey later hndl = none ∨ nameKey later hndl = nameKey objects hndl)
    (aliases : ∀ hndl ∈ store.ifaces,
      aliasKey later hndl = none ∨ aliasKey later hndl = aliasKey objects hndl) :
    Filed hash later store :=
  ⟨filed.names.ease names, filed.aliases.ease aliases⟩

theorem name_key_congr {hndl : Hndl} (same : later hndl.iface = objects hndl.iface) :
    nameKey later hndl = nameKey objects hndl := by
  simp only [nameKey, same]

theorem alias_key_congr {hndl : Hndl} (same : later hndl.iface = objects hndl.iface) :
    aliasKey later hndl = aliasKey objects hndl := by
  simp only [aliasKey, same]

theorem name_key_cases (objects : Objects) (hndl : Hndl) :
    nameKey objects hndl = none ∨
      nameKey objects hndl = some (some (objects hndl.iface).name) := by
  unfold nameKey
  split <;> simp

theorem alias_key_cases (objects : Objects) (hndl : Hndl) :
    aliasKey objects hndl = none ∨
      aliasKey objects hndl = some ((objects hndl.iface).ifalias.map HeapStr.text) := by
  unfold aliasKey
  split <;> simp

theorem keyed_name_free {nodes : List Hndl} {table : Table NameBucket Hndl} {hndl : Hndl}
    {strid : CString} (keyed : Keyed hash.str (nameKey objects) nodes table)
    (agree : ∀ other ∈ nodes, other ≠ hndl → later other.iface = objects other.iface)
    (free : answersIn later strid (del hndl table (hash.str strid)) = .ok false) :
    ∀ other ∈ nodes, other ≠ hndl → nameKey objects other ≠ some (some strid) := by
  intro other member different taken
  have there := (mem_del ..).mpr ⟨keyed.home other member strid taken, different⟩
  exact name_key_free free other there (name_key_congr (agree other member different) ▸ taken)

theorem keyed_alias_free {nodes : List Hndl} {table : Table NameBucket Hndl} {hndl : Hndl}
    {strid : CString} (keyed : Keyed hash.str (aliasKey objects) nodes table)
    (agree : ∀ other ∈ nodes, other ≠ hndl → later other.iface = objects other.iface)
    (free : answersIn later strid (del hndl table (hash.str strid)) = .ok false) :
    ∀ other ∈ nodes, other ≠ hndl → aliasKey objects other ≠ some (some strid) := by
  intro other member different taken
  have there := (mem_del ..).mpr ⟨keyed.home other member strid taken, different⟩
  exact alias_key_free free other there (alias_key_congr (agree other member different) ▸ taken)

theorem Filed.congr (filed : Filed hash objects store)
    (agree : ∀ hndl ∈ store.ifaces, later hndl.iface = objects hndl.iface) :
    Filed hash later store :=
  filed.ease (fun hndl member => .inr (name_key_congr (agree hndl member)))
    fun hndl member => .inr (alias_key_congr (agree hndl member))

theorem Indexed.congr (indexed : Indexed hash objects store)
    (agree : ∀ hndl ∈ store.ifaces, later hndl.iface = objects hndl.iface) :
    Indexed hash later store :=
  (indexed.filed.congr agree).indexed indexed.named

section Moves

variable [DecidableEq NameBucket]

theorem Filed.name_table (filed : Filed hash objects store) {hndl : Hndl} {rename : Bool}
    (agree : ∀ other ∈ store.ifaces, other ≠ hndl → later other.iface = objects other.iface)
    (nameFree : rename = true →
      nameClash hash later hndl (later hndl.iface).name store = .ok false)
    (nameKept : rename = false →
      nameKey later hndl = none ∨ nameKey later hndl = nameKey objects hndl) :
    ∃ table, renamed hash hndl rename (later hndl.iface).name store =
        { store with nameh := table } ∧
      Keyed hash.str (nameKey later) store.ifaces table := by
  cases rename with
  | false =>
      refine ⟨store.nameh, rfl, filed.names.ease fun other there => ?_⟩
      by_cases self : other = hndl
      · exact self ▸ nameKept rfl
      · exact .inr (name_key_congr (agree other there self))
  | true =>
      refine ⟨_, rfl, ?_⟩
      exact filed.names.place hndl _ (fun _ there => .inr there)
        (fun other there self => name_key_congr (agree other there self))
        (name_key_cases later hndl) (keyed_name_free filed.names agree (nameFree rfl))

/-- Replacing one enrolled object and re-hashing its handle: what is not
re-hashed must have become unsettled or kept its key. -/
theorem Filed.moved (filed : Filed hash objects store) {hndl : Hndl}
    {rename realias : Bool}
    (agree : ∀ other ∈ store.ifaces, other ≠ hndl → later other.iface = objects other.iface)
    (nameFree : rename = true →
      nameClash hash later hndl (later hndl.iface).name store = .ok false)
    (nameKept : rename = false →
      nameKey later hndl = none ∨ nameKey later hndl = nameKey objects hndl)
    (aliasFree : realias = true →
      AliasAnswer hash later hndl (later hndl.iface).ifalias store false)
    (aliasKept : realias = false →
      aliasKey later hndl = none ∨ aliasKey later hndl = aliasKey objects hndl) :
    Filed hash later (realiased hash hndl realias (later hndl.iface).ifalias
      (renamed hash hndl rename (later hndl.iface).name store)) := by
  have known : ∀ other ∈ store.ifaces, other = hndl ∨ other ∈ store.ifaces :=
    fun _ there => .inr there
  obtain ⟨table, renamedTo, names⟩ := filed.name_table agree nameFree nameKept
  rw [renamedTo]
  cases realias with
  | false =>
      refine ⟨names, filed.aliases.ease fun other there => ?_⟩
      by_cases self : other = hndl
      · exact self ▸ aliasKept rfl
      · exact .inr (alias_key_congr (agree other there self))
  | true =>
      have answer := aliasFree rfl
      have settledOr := alias_key_cases later hndl
      rcases text : (later hndl.iface).ifalias with _ | pointer
      · rw [text] at settledOr
        exact ⟨names, filed.aliases.drop hndl known
          (fun other there self => alias_key_congr (agree other there self)) fun _ => settledOr⟩
      · rw [text] at answer settledOr
        exact ⟨names, filed.aliases.place hndl _ known
          (fun other there self => alias_key_congr (agree other there self)) settledOr
          (keyed_alias_free filed.aliases agree answer.2)⟩

theorem moved_named {hndl : Hndl} (rename realias : Bool) (name : CString)
    (ifalias : Option HeapStr)
    (named : ∀ other ∈ store.ifaces, ∃ bucket, other ∈ store.nameh bucket) :
    ∀ other ∈ (realiased hash hndl realias ifalias (renamed hash hndl rename name store)).ifaces,
      ∃ bucket, other ∈
        (realiased hash hndl realias ifalias (renamed hash hndl rename name store)).nameh
          bucket := by
  have relisted : Relisted hndl store
      (realiased hash hndl realias ifalias (renamed hash hndl rename name store)) :=
    (relisted_renamed hash hndl rename name store).realiased realias ifalias
  rw [realiased_nameh, relisted.ifaces]
  intro other there
  obtain ⟨bucket, chained⟩ := named other there
  cases rename with
  | false => exact ⟨bucket, chained⟩
  | true =>
      by_cases self : other = hndl
      · exact ⟨_, (mem_add ..).mpr (.inl ⟨self, rfl⟩)⟩
      · exact ⟨bucket, (mem_add ..).mpr (.inr ((mem_del ..).mpr ⟨chained, self⟩))⟩

theorem Indexed.moved (indexed : Indexed hash objects store) {hndl : Hndl}
    {rename realias : Bool}
    (agree : ∀ other ∈ store.ifaces, other ≠ hndl → later other.iface = objects other.iface)
    (nameFree : rename = true →
      nameClash hash later hndl (later hndl.iface).name store = .ok false)
    (nameKept : rename = false →
      nameKey later hndl = none ∨ nameKey later hndl = nameKey objects hndl)
    (aliasFree : realias = true →
      AliasAnswer hash later hndl (later hndl.iface).ifalias store false)
    (aliasKept : realias = false →
      aliasKey later hndl = none ∨ aliasKey later hndl = aliasKey objects hndl) :
    Indexed hash later (realiased hash hndl realias (later hndl.iface).ifalias
      (renamed hash hndl rename (later hndl.iface).name store)) :=
  (indexed.filed.moved agree nameFree nameKept aliasFree aliasKept).indexed
    (moved_named rename realias _ _ indexed.named)

theorem Filed.refused (filed : Filed hash objects store) {hndl : Hndl}
    {after : Store NameBucket IndexBucket} (relisted : Relisted hndl store after)
    (agree : ∀ other ∈ store.ifaces, other ≠ hndl → later other.iface = objects other.iface)
    (invalid : (later hndl.iface).state = .invalid) : Filed hash later after where
  names := by
    rw [relisted.ifaces]
    exact filed.names.relinked relisted.nameh
      (fun other there self => name_key_congr (agree other there self))
      (if_neg fun settledName => settledName.1 invalid)
  aliases := by
    rw [relisted.ifaces]
    exact filed.aliases.relinked relisted.aliash
      (fun other there self => alias_key_congr (agree other there self))
      (if_neg fun settledAlias => settledAlias.1 invalid)

theorem Filed.modified {next : Addr} (linked : Linked hash objects next store)
    (filed : Filed hash objects store) {hndl : Hndl} (member : hndl ∈ store.ifaces)
    (valid : (objects hndl.iface).state ≠ .invalid) (object : Iface)
    (name : object.name = (objects hndl.iface).name)
    (ifalias : object.ifalias = (objects hndl.iface).ifalias) {rename realias : Bool}
    (rename_iff : rename = true ↔ .name ∈ (objects hndl.iface).dirtyFields)
    (realias_iff : realias = true ↔ .ifalias ∈ (objects hndl.iface).dirtyFields)
    (nameFree : rename = true →
      nameClash hash objects hndl (objects hndl.iface).name store = .ok false)
    (aliasFree : realias = true →
      AliasAnswer hash objects hndl (objects hndl.iface).ifalias store false) :
    Filed hash (Function.update objects hndl.iface object)
      (realiased hash hndl realias (objects hndl.iface).ifalias
        (renamed hash hndl rename (objects hndl.iface).name store)) := by
  have agree := linked.agree_replaced member object
  have self : Function.update objects hndl.iface object hndl.iface = object :=
    Function.update_self ..
  have sameName : (Function.update objects hndl.iface object hndl.iface).name =
      (objects hndl.iface).name := by rw [self, name]
  have sameAlias : (Function.update objects hndl.iface object hndl.iface).ifalias =
      (objects hndl.iface).ifalias := by rw [self, ifalias]
  rw [← sameName, ← sameAlias]
  refine filed.moved agree (fun wanted => ?_) (fun kept => ?_) (fun wanted => ?_)
    fun kept => ?_
  · rw [linked.name_clash_congr agree, sameName]
    exact nameFree wanted
  · have settledBefore : NameSettled (objects hndl.iface) :=
      ⟨valid, fun dirty => by simp [rename_iff.mpr dirty] at kept⟩
    rcases name_key_cases (Function.update objects hndl.iface object) hndl with unsettled | same
    · exact .inl unsettled
    · refine .inr (same.trans ?_)
      rw [nameKey, if_pos settledBefore, sameName]
  · rw [linked.alias_answer_congr agree, sameAlias]
    exact aliasFree wanted
  · have settledBefore : AliasSettled (objects hndl.iface) :=
      ⟨valid, fun dirty => by simp [realias_iff.mpr dirty] at kept⟩
    rcases alias_key_cases (Function.update objects hndl.iface object) hndl with unsettled | same
    · exact .inl unsettled
    · refine .inr (same.trans ?_)
      rw [aliasKey, if_pos settledBefore, sameAlias]

theorem Indexed.modified {next : Addr} (linked : Linked hash objects next store)
    (indexed : Indexed hash objects store) {hndl : Hndl} (member : hndl ∈ store.ifaces)
    (valid : (objects hndl.iface).state ≠ .invalid) (object : Iface)
    (name : object.name = (objects hndl.iface).name)
    (ifalias : object.ifalias = (objects hndl.iface).ifalias) {rename realias : Bool}
    (rename_iff : rename = true ↔ .name ∈ (objects hndl.iface).dirtyFields)
    (realias_iff : realias = true ↔ .ifalias ∈ (objects hndl.iface).dirtyFields)
    (nameFree : rename = true →
      nameClash hash objects hndl (objects hndl.iface).name store = .ok false)
    (aliasFree : realias = true →
      AliasAnswer hash objects hndl (objects hndl.iface).ifalias store false) :
    Indexed hash (Function.update objects hndl.iface object)
      (realiased hash hndl realias (objects hndl.iface).ifalias
        (renamed hash hndl rename (objects hndl.iface).name store)) :=
  (indexed.filed.modified linked member valid object name ifalias rename_iff realias_iff nameFree
    aliasFree).indexed (moved_named rename realias _ _ indexed.named)

theorem Filed.enroll [DecidableEq IndexBucket] (filed : Filed hash objects store)
    {hndl : Hndl} (nameOff : Off hndl store.nameh) (aliasOff : Off hndl store.aliash)
    (indexBucket : IndexBucket)
    (nameFree : answersIn objects (objects hndl.iface).name
      (store.nameh (hash.str (objects hndl.iface).name)) = .ok false)
    (aliasFree : ∀ pointer, (objects hndl.iface).ifalias = some pointer →
      answersIn objects pointer.text (store.aliash (hash.str pointer.text)) = .ok false) :
    Filed hash objects (storeCreatenEnrollIfaceHndl store hndl indexBucket
      (hash.str (objects hndl.iface).name)
      ((objects hndl.iface).ifalias.map fun pointer => hash.str pointer.text)) := by
  have included : ∀ other ∈ store.ifaces ++ [hndl], other = hndl ∨ other ∈ store.ifaces := by
    intro other there
    simpa [or_comm] using there
  have nameUnlinked := del_unlinked hndl store.nameh nameOff
  have aliasUnlinked := del_unlinked hndl store.aliash aliasOff
  refine ⟨?_, ?_⟩
  · have free := keyed_name_free filed.names (fun _ _ _ => rfl)
      (nameUnlinked.symm ▸ nameFree)
    have placed := filed.names.place hndl _ included (fun _ _ _ => rfl)
      (name_key_cases objects hndl) free
    rw [nameUnlinked] at placed
    exact placed
  · have settledOr := alias_key_cases objects hndl
    rcases text : (objects hndl.iface).ifalias with _ | pointer
    · rw [text] at settledOr
      have dropped := filed.aliases.drop hndl included (fun _ _ _ => rfl) fun _ => settledOr
      exact aliasUnlinked ▸ dropped
    · rw [text] at settledOr
      have free := keyed_alias_free filed.aliases (fun _ _ _ => rfl)
        (aliasUnlinked.symm ▸ aliasFree pointer text)
      have placed := filed.aliases.place hndl _ included (fun _ _ _ => rfl) settledOr free
      rw [aliasUnlinked] at placed
      exact placed

theorem Indexed.enroll [DecidableEq IndexBucket] (indexed : Indexed hash objects store)
    {hndl : Hndl} (nameOff : Off hndl store.nameh) (aliasOff : Off hndl store.aliash)
    (indexBucket : IndexBucket)
    (nameFree : answersIn objects (objects hndl.iface).name
      (store.nameh (hash.str (objects hndl.iface).name)) = .ok false)
    (aliasFree : ∀ pointer, (objects hndl.iface).ifalias = some pointer →
      answersIn objects pointer.text (store.aliash (hash.str pointer.text)) = .ok false) :
    Indexed hash objects (storeCreatenEnrollIfaceHndl store hndl indexBucket
      (hash.str (objects hndl.iface).name)
      ((objects hndl.iface).ifalias.map fun pointer => hash.str pointer.text)) := by
  apply (indexed.filed.enroll nameOff aliasOff indexBucket nameFree aliasFree).indexed
  intro other there
  have included : other = hndl ∨ other ∈ store.ifaces := by
    simpa [storeCreatenEnrollIfaceHndl, or_comm] using there
  rcases included with rfl | old
  · exact ⟨_, (mem_add ..).mpr (.inl ⟨rfl, rfl⟩)⟩
  · obtain ⟨bucket, chained⟩ := indexed.named other old
    exact ⟨bucket, (mem_add ..).mpr (.inr chained)⟩

end Moves

theorem Filed.unlink (filed : Filed hash objects store) (hndl : Hndl) :
    Filed hash objects (storeUnlinkHndl hndl store) := by
  have subset : ∀ other ∈ (storeUnlinkHndl hndl store).ifaces,
      other ∈ store.ifaces ∧ other ≠ hndl := by
    intro other remaining
    simpa [storeUnlinkHndl] using remaining
  have included : ∀ other ∈ (storeUnlinkHndl hndl store).ifaces,
      other = hndl ∨ other ∈ store.ifaces :=
    fun other remaining => .inr (subset other remaining).1
  have gone : hndl ∉ (storeUnlinkHndl hndl store).ifaces :=
    fun remaining => (subset hndl remaining).2 rfl
  refine ⟨?_, ?_⟩
  · exact filed.names.drop hndl included (fun _ _ _ => rfl) fun member => absurd member gone
  · exact filed.aliases.drop hndl included (fun _ _ _ => rfl) fun member => absurd member gone

theorem Indexed.unlink (indexed : Indexed hash objects store) (hndl : Hndl) :
    Indexed hash objects (storeUnlinkHndl hndl store) := by
  apply (indexed.filed.unlink hndl).indexed
  intro other remaining
  have old : other ∈ store.ifaces ∧ other ≠ hndl := by
    simpa [storeUnlinkHndl] using remaining
  obtain ⟨bucket, chained⟩ := indexed.named other old.1
  exact ⟨bucket, (mem_del ..).mpr ⟨chained, old.2⟩⟩

end Indexed

end Nlif.StoreInvariant
