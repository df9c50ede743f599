import Mathlib.Data.List.Find
import Nlif.StoreIdentity

/-!
# Withdrawing interfaces

`nlif_store_withdraw_iface` undoes `nlif_store_enroll_iface`, and takes one interface out
of a store of settled interfaces without disturbing what is found of the others.
-/

namespace Nlif.StoreWithdraw

open LinkModel IfaceModel FaultWalk BucketTable StoreModel GateSpec StoreInvariant StoreLookup
  StoreIdentity LabelledRun LibraryRun

set_option autoImplicit false

inductive Lookup where
  | byname (name : CString)
  | byalias (ifalias : CString)
  | bystrid (strid : CString)
  | byindex (index : UInt32)
deriving DecidableEq

section Answers

variable {NameBucket IndexBucket : Type}

/-- What the four find functions return. -/
def answer (hash : Hashing NameBucket IndexBucket) (objects : Objects)
    (store : Store NameBucket IndexBucket) : Lookup → Except Fault (Option Addr)
  | .byname name => .ok (storeFindIfaceByname hash objects store name)
  | .byalias ifalias => storeFindIfaceByalias hash objects store ifalias
  | .bystrid strid => storeFindIfaceBystrid hash objects store strid
  | .byindex index => .ok (storeFindIfaceByindex hash objects store index)

theorem find_bystrid_eq (hash : Hashing NameBucket IndexBucket) (objects : Objects)
    (store : Store NameBucket IndexBucket) (strid : CString) :
    storeFindIfaceBystrid hash objects store strid =
      (storeFindIfaceByname hash objects store strid).elim
        (storeFindIfaceByalias hash objects store strid)
        (fun interface => .ok (some interface)) := by
  have byname : (if linkValidateName strid > 0 then
      storeSearchIfaceByname objects store (hash.str strid) strid else none) =
      storeFindIfaceByname hash objects store strid := rfl
  have byalias : (if linkValidateAlias (some strid) > 0 then
      storeSearchIfaceByalias objects store (hash.str strid) strid else .ok none) =
      storeFindIfaceByalias hash objects store strid := rfl
  unfold storeFindIfaceBystrid
  simp only [byname, byalias]
  cases storeFindIfaceByname hash objects store strid <;> rfl

theorem answer_congr {hash : Hashing NameBucket IndexBucket} {objects later : Objects}
    {bound : Addr} {store : Store NameBucket IndexBucket}
    (linked : Linked hash objects bound store)
    (agree : ∀ hndl ∈ store.ifaces, later hndl.iface = objects hndl.iface) (lookup : Lookup) :
    answer hash later store lookup = answer hash objects store lookup := by
  have byname : ∀ name, storeFindIfaceByname hash later store name =
      storeFindIfaceByname hash objects store name := by
    intro name
    unfold storeFindIfaceByname storeSearchIfaceByname
    rw [List.find?_congr]
    intro hndl chained
    rw [agree hndl (linked.nameh.registered _ hndl chained)]
  have byalias : ∀ text, storeFindIfaceByalias hash later store text =
      storeFindIfaceByalias hash objects store text := by
    intro text
    unfold storeFindIfaceByalias storeSearchIfaceByalias
    rw [first_hit_congr]
    intro hndl chained
    unfold visitAlias
    rw [agree hndl (linked.aliash.registered _ hndl chained)]
  cases lookup with
  | byname name => exact congrArg Except.ok (byname name)
  | byalias text => exact byalias text
  | bystrid strid =>
      unfold answer
      change storeFindIfaceBystrid .. = storeFindIfaceBystrid ..
      rw [find_bystrid_eq, find_bystrid_eq, byname, byalias]
  | byindex index =>
      apply congrArg Except.ok
      unfold storeFindIfaceByindex storeSearchIfaceHndlByindex
      rw [List.find?_congr]
      intro hndl chained
      rw [agree hndl (linked.indxh.registered _ hndl chained)]

structure AllSettled (hash : Hashing NameBucket IndexBucket) (objects : Objects) (bound : Addr)
    (store : Store NameBucket IndexBucket) : Prop where
  linked : Linked hash objects bound store
  indexed : Indexed hash objects store
  settled : ∀ hndl ∈ store.ifaces, Settled (objects hndl.iface)

variable {hash : Hashing NameBucket IndexBucket} {objects : Objects} {bound : Addr}
  {store : Store NameBucket IndexBucket} {hndl : Hndl}

theorem find_byname_iff (all : AllSettled hash objects bound store) (name : CString)
    (interface : Addr) :
    storeFindIfaceByname hash objects store name = some interface ↔
      ∃ hndl ∈ store.ifaces, hndl.iface = interface ∧ (objects interface).name = name := by
  constructor
  · exact find_byname_some all.linked
  · rintro ⟨hndl, member, rfl, rfl⟩
    obtain ⟨found, there, answered, _, same⟩ :=
      find_byname_settled all.linked all.indexed member (all.settled hndl member)
    rw [answered, same.resolve_right (not_not.mpr (all.settled found there))]

/-- Every handle on an alias chain has an alias that can be read, so the search ends. -/
theorem find_byalias_total (all : AllSettled hash objects bound store) (text : CString) :
    ∃ found, storeFindIfaceByalias hash objects store text = .ok found := by
  unfold storeFindIfaceByalias storeSearchIfaceByalias
  split
  · cases first_hit_cases (visitAlias objects text) (store.aliash (hash.str text)) with
    | inl passed => exact ⟨none, (first_hit_none_iff ..).mpr passed⟩
    | inr ended =>
        obtain ⟨_, stop, _, split, _, _, same⟩ := ended
        have chained : stop ∈ store.aliash (hash.str text) := by simp [split]
        have enrolled := all.linked.aliash.registered _ stop chained
        have settled := all.settled stop enrolled
        rw [same]
        cases visit_alias_cases objects text stop with
        | inl readable =>
            obtain ⟨pointer, _, _, visited⟩ := readable
            exact ⟨_, visited⟩
        | inr unreadable =>
            cases held : (objects stop.iface).ifalias with
            | none =>
                have absent : aliasKey objects stop = some none := by
                  rw [settled_alias_key settled, held]
                  rfl
                exact absurd chained (all.indexed.aliases.absent stop enrolled absent _)
            | some pointer =>
                have live := ((all.linked.sound stop enrolled).held settled.1).ifalias pointer held
                rw [unreadable.1 pointer held] at live
                cases live
  · exact ⟨none, rfl⟩

theorem find_byalias_iff (all : AllSettled hash objects bound store) (text : CString)
    (interface : Addr) :
    storeFindIfaceByalias hash objects store text = .ok (some interface) ↔
      ∃ hndl ∈ store.ifaces, hndl.iface = interface ∧
        (objects interface).ifalias.map HeapStr.text = some text := by
  constructor
  · exact find_byalias_some all.linked
  · rintro ⟨hndl, member, rfl, aliased⟩
    obtain ⟨pointer, held, rfl⟩ := Option.map_eq_some_iff.mp aliased
    cases find_byalias_settled all.linked all.indexed member (all.settled hndl member) held with
    | inl answered =>
        obtain ⟨found, there, answered, _, same⟩ := answered
        rw [answered, same.resolve_right (not_not.mpr (all.settled found there))]
    | inr broken =>
        obtain ⟨other, there, unsettled, _⟩ := broken
        exact absurd (all.settled other there) unsettled

theorem find_byname_none (all : AllSettled hash objects bound store) {name : CString}
    (nobody : ∀ hndl ∈ store.ifaces, (objects hndl.iface).name ≠ name) :
    storeFindIfaceByname hash objects store name = none := by
  apply Option.eq_none_iff_forall_ne_some.mpr
  intro interface found
  obtain ⟨hndl, member, rfl, same⟩ := (find_byname_iff all name interface).mp found
  exact nobody hndl member same

theorem find_byalias_none (all : AllSettled hash objects bound store) {text : CString}
    (nobody : ∀ hndl ∈ store.ifaces, (objects hndl.iface).ifalias.map HeapStr.text ≠ some text) :
    storeFindIfaceByalias hash objects store text = .ok none := by
  obtain ⟨found, answered⟩ := find_byalias_total all text
  cases found with
  | none => exact answered
  | some interface =>
      obtain ⟨hndl, member, rfl, same⟩ := (find_byalias_iff all text interface).mp answered
      exact absurd same (nobody hndl member)

section Unlink

theorem unlinked_mem {other : Hndl} :
    other ∈ (storeUnlinkHndl hndl store).ifaces ↔ other ∈ store.ifaces ∧ other ≠ hndl := by
  simp [storeUnlinkHndl]

theorem AllSettled.unlink (all : AllSettled hash objects bound store)
    (member : hndl ∈ store.ifaces) :
    AllSettled hash objects bound (storeUnlinkHndl hndl store) where
  linked := all.linked.unlink member
  indexed := all.indexed.unlink hndl
  settled other there := all.settled other (unlinked_mem.mp there).1

theorem withdraw_enrolled (linked : Linked hash objects bound store)
    (member : hndl ∈ store.ifaces) :
    storeWithdrawIface hash objects hndl.iface store = (0, storeUnlinkHndl hndl store) := by
  rw [storeWithdrawIface, linked.search member]

theorem remains {other : Hndl} {interface : Addr} (there : other ∈ store.ifaces)
    (same : other.iface = interface) (different : interface ≠ hndl.iface) :
    other ∈ (storeUnlinkHndl hndl store).ifaces := by
  apply unlinked_mem.mpr ⟨there, _⟩
  rintro rfl
  exact different same.symm

variable {other : Addr}

theorem byname_kept (all : AllSettled hash objects bound store) (member : hndl ∈ store.ifaces)
    {name : CString} (different : other ≠ hndl.iface)
    (found : storeFindIfaceByname hash objects store name = some other) :
    storeFindIfaceByname hash objects (storeUnlinkHndl hndl store) name = some other := by
  obtain ⟨bearer, there, same, named⟩ := (find_byname_iff all name other).mp found
  exact (find_byname_iff (all.unlink member) name other).mpr
    ⟨bearer, remains there same different, same, named⟩

theorem byalias_kept (all : AllSettled hash objects bound store) (member : hndl ∈ store.ifaces)
    {text : CString} (different : other ≠ hndl.iface)
    (found : storeFindIfaceByalias hash objects store text = .ok (some other)) :
    storeFindIfaceByalias hash objects (storeUnlinkHndl hndl store) text = .ok (some other) := by
  obtain ⟨bearer, there, same, aliased⟩ := (find_byalias_iff all text other).mp found
  exact (find_byalias_iff (all.unlink member) text other).mpr
    ⟨bearer, remains there same different, same, aliased⟩

theorem byname_none_kept (all : AllSettled hash objects bound store)
    (member : hndl ∈ store.ifaces) {name : CString}
    (missed : storeFindIfaceByname hash objects store name = none) :
    storeFindIfaceByname hash objects (storeUnlinkHndl hndl store) name = none := by
  apply find_byname_none (all.unlink member)
  intro bearer there named
  have found := (find_byname_iff all name bearer.iface).mpr
    ⟨bearer, (unlinked_mem.mp there).1, rfl, named⟩
  rw [missed] at found
  cases found

theorem bystrid_kept (all : AllSettled hash objects bound store) (member : hndl ∈ store.ifaces)
    {strid : CString} (different : other ≠ hndl.iface)
    (found : storeFindIfaceBystrid hash objects store strid = .ok (some other)) :
    storeFindIfaceBystrid hash objects (storeUnlinkHndl hndl store) strid = .ok (some other) := by
  rw [find_bystrid_eq] at found ⊢
  cases named : storeFindIfaceByname hash objects store strid with
  | some interface =>
      rw [named] at found
      cases found
      rw [byname_kept all member different named]
      rfl
  | none =>
      rw [named] at found
      rw [byname_none_kept all member named]
      exact byalias_kept all member different found

theorem lookup_kept (all : AllSettled hash objects bound store) (member : hndl ∈ store.ifaces)
    {lookup : Lookup} (different : other ≠ hndl.iface)
    (found : answer hash objects store lookup = .ok (some other)) :
    answer hash objects (storeUnlinkHndl hndl store) lookup = .ok (some other) := by
  cases lookup with
  | byname name =>
      exact congrArg Except.ok (byname_kept all member different (Except.ok.inj found))
  | byalias text => exact byalias_kept all member different found
  | bystrid strid => exact bystrid_kept all member different found
  | byindex index =>
      obtain ⟨bearer, there, same, idx⟩ :=
        (find_byindex_iff all.linked index other).mp (Except.ok.inj found)
      exact congrArg Except.ok ((find_byindex_iff (all.linked.unlink member) index other).mpr
        ⟨bearer, remains there same different, same, idx⟩)

/-- What withdrawing an enrolled interface does. -/
structure Withdrawn (hash : Hashing NameBucket IndexBucket) (objects : Objects) (hndl : Hndl)
    (before after : Store NameBucket IndexBucket) : Prop where
  count : after.count + 1 = before.count
  others : after.ifaces = before.ifaces.filter fun other => other ≠ hndl
  unknownIndex : answer hash objects after (.byindex (objects hndl.iface).idx) = .ok none
  unknownString : ∀ strid, AnswersTo (objects hndl.iface) strid →
    (∀ other ∈ before.ifaces, other ≠ hndl → ¬ AnswersTo (objects other.iface) strid) →
    ∀ lookup ∈ [Lookup.byname strid, .byalias strid, .bystrid strid],
      answer hash objects after lookup = .ok none
  kept : ∀ lookup other, answer hash objects before lookup = .ok (some other) →
    other ≠ hndl.iface → answer hash objects after lookup = .ok (some other)

theorem unlink_withdrawn (all : AllSettled hash objects bound store)
    (member : hndl ∈ store.ifaces) :
    Withdrawn hash objects hndl store (storeUnlinkHndl hndl store) where
  count := by
    have counted := all.linked.count
    have nonempty := List.length_pos_of_mem member
    change store.count - 1 + 1 = store.count
    omega
  others := rfl
  unknownIndex := by
    apply congrArg Except.ok
    apply Option.eq_none_iff_forall_ne_some.mpr
    intro interface found
    obtain ⟨other, there, rfl, same⟩ :=
      (find_byindex_iff (all.linked.unlink member) _ interface).mp found
    obtain ⟨old, different⟩ := unlinked_mem.mp there
    exact different (all.linked.injective other old hndl member same)
  unknownString strid _ nobody lookup listed := by
    have remaining := all.unlink member
    have silent : ∀ other ∈ (storeUnlinkHndl hndl store).ifaces,
        ¬ AnswersTo (objects other.iface) strid :=
      fun other there => nobody other (unlinked_mem.mp there).1 (unlinked_mem.mp there).2
    have byname : storeFindIfaceByname hash objects (storeUnlinkHndl hndl store) strid = none :=
      find_byname_none remaining fun other there named => silent other there (.inl named)
    have byalias : storeFindIfaceByalias hash objects (storeUnlinkHndl hndl store) strid =
        .ok none :=
      find_byalias_none remaining fun other there aliased => silent other there (.inr aliased)
    simp only [List.mem_cons, List.not_mem_nil, or_false] at listed
    rcases listed with rfl | rfl | rfl
    · exact congrArg Except.ok byname
    · exact byalias
    · change storeFindIfaceBystrid hash objects (storeUnlinkHndl hndl store) strid = .ok none
      rw [find_bystrid_eq, byname]
      exact byalias
  kept _ _ found different := lookup_kept all member different found

end Unlink

section Undo

variable [DecidableEq NameBucket] [DecidableEq IndexBucket] {interface : Addr} {ret : Int}
  {after : Store NameBucket IndexBucket}

theorem unlink_linked (fresh : hndl ∉ store.ifaces) (linked : Linked hash objects bound store)
    (indexBucket : IndexBucket) (nameBucket : NameBucket) (aliasBucket : Option NameBucket) :
    storeUnlinkHndl hndl
      (storeCreatenEnrollIfaceHndl store hndl indexBucket nameBucket aliasBucket) = store := by
  have names : del hndl (add nameBucket hndl store.nameh) = store.nameh := by
    rw [del_add, del_unlinked _ _ (linked.nameh.off_of_not_mem fresh)]
  have indices : del hndl (add indexBucket hndl store.indxh) = store.indxh := by
    rw [del_add, del_unlinked _ _ (linked.indxh.off_of_not_mem fresh)]
  have listed : (store.ifaces ++ [hndl]).filter (fun other => other ≠ hndl) = store.ifaces := by
    rw [List.filter_append, List.filter_cons_of_neg (by simp), List.filter_nil,
      List.append_nil, List.filter_eq_self]
    intro other member
    have different : other ≠ hndl := fun same => fresh (same ▸ member)
    simpa using different
  have aliases : del hndl (storeCreatenEnrollIfaceHndl store hndl indexBucket nameBucket
      aliasBucket).aliash = store.aliash := by
    have off := linked.aliash.off_of_not_mem fresh
    cases aliasBucket with
    | none => exact del_unlinked _ _ off
    | some bucket =>
        change del hndl (add bucket hndl store.aliash) = store.aliash
        rw [del_add, del_unlinked _ _ off]
  unfold storeUnlinkHndl
  rw [aliases]
  simp only [storeCreatenEnrollIfaceHndl, names, indices, listed, Nat.add_sub_cancel]

variable (hash objects store hndl) in
theorem search_linked (nameBucket : NameBucket) (aliasBucket : Option NameBucket) :
    storeSearchIfaceHndlByindex hash objects
      (storeCreatenEnrollIfaceHndl store hndl (hash.index (objects hndl.iface).idx) nameBucket
        aliasBucket) (objects hndl.iface).idx = some hndl := by
  unfold storeSearchIfaceHndlByindex storeCreatenEnrollIfaceHndl
  simp

theorem withdraw_undoes (linked : Linked hash objects bound store)
    (accepted : storeEnrollIface hash objects ⟨bound, interface⟩ store = .ok (0, after)) :
    storeWithdrawIface hash objects interface after = (0, store) := by
  have fresh : (⟨bound, interface⟩ : Hndl) ∉ store.ifaces := fun member =>
    Nat.lt_irrefl _ (linked.allocated _ member).1
  cases store_enroll_iface_ok accepted with
  | inl refused => cases refused.1
  | inr enrolled =>
      obtain ⟨_, _, _, rfl⟩ := enrolled
      unfold storeWithdrawIface
      have found := search_linked hash objects store ⟨bound, interface⟩
        (hash.str (objects interface).name)
        ((objects interface).ifalias.map fun pointer => hash.str pointer.text)
      rw [found]
      exact congrArg (Prod.mk 0) (unlink_linked fresh linked ..)

theorem refused_unchanged (done : storeEnrollIface hash objects hndl store = .ok (ret, after))
    (refused : ret ≠ 0) : after = store := by
  cases store_enroll_iface_ok done with
  | inl kept => exact kept.2
  | inr enrolled => exact absurd enrolled.1 refused

/-- Withdrawing undoes an enrolment the store accepted, a refused one changed nothing, and
withdrawing any interface of a store of settled ones disturbs none of the others. -/
theorem withdraw_inverts_enroll (linked : Linked hash objects bound store)
    (indexed : Indexed hash objects store) :
    (∀ interface after,
      storeEnrollIface hash objects ⟨bound, interface⟩ store = .ok (0, after) →
      storeWithdrawIface hash objects interface after = (0, store)) ∧
    (∀ hndl ret after, storeEnrollIface hash objects hndl store = .ok (ret, after) →
      ret ≠ 0 → after = store) ∧
    ((∀ hndl ∈ store.ifaces, Settled (objects hndl.iface)) → ∀ hndl ∈ store.ifaces, ∃ after,
      storeWithdrawIface hash objects hndl.iface store = (0, after) ∧
      Withdrawn hash objects hndl store after) := by
  refine ⟨fun interface after => withdraw_undoes linked,
    fun hndl ret after => refused_unchanged, fun settled hndl member => ?_⟩
  have all : AllSettled hash objects bound store := ⟨linked, indexed, settled⟩
  exact ⟨_, withdraw_enrolled linked member, unlink_withdrawn all member⟩

end Undo

end Answers

/-- Of two interfaces whose aliases share a bucket, one is withdrawn and the other still
found. -/
theorem first_link_withdrawn :
    ∃ world after, Run (machine oneLinkPlatform) oneLinkInit
        [(.newLink firstLink, .code 0), (.newLink collidingLink, .code 0)] world ∧
      storeWithdrawIface djb2Hashing world.objects 0 world.store = (0, after) ∧
      Withdrawn djb2Hashing world.objects ⟨1, 0⟩ world.store after ∧
      storeFindIfaceByalias djb2Hashing world.objects after nameBA = .ok (some 2) := by
  have first := (Run.start : Run (machine oneLinkPlatform) oneLinkInit [] oneLinkInit).extend
    (.newLink firstLink) (.code 0) ⟨first_link_reported, by decide⟩ rfl
  have both := first.extend (.newLink collidingLink) (.code 0)
    ⟨colliding_link_reported, by decide⟩ rfl
  have kept := run_kept one_link_kernel_reports both
  have inverse := withdraw_inverts_enroll kept.linked (kept.indexed (by decide))
  obtain ⟨after, done, withdrawn⟩ := inverse.2.2
    (fun hndl member => by
      rcases List.mem_cons.mp member with rfl | member
      · exact ⟨by decide, by decide, by decide⟩
      · rw [List.mem_singleton.mp member]
        exact ⟨by decide, by decide, by decide⟩)
    ⟨1, 0⟩ (by decide)
  exact ⟨_, after, both, done, withdrawn, withdrawn.kept (.byalias nameBA) 2 rfl (by decide)⟩

end Nlif.StoreWithdraw
