import Nlif.LibraryRun

/-!
# What lookups find

The representation of the store and the answers of its lookups, after any run
in which no MODIFY or RELOAD event was refused. An interface whose name or alias
is staged, or that is `INVALID`, stays under the strings it was last hashed
with; a lookup meets it there with the strings it bears now, and faults on the
alias it has lost.
-/

namespace Nlif.StoreLookup

open LinkModel IfaceModel FaultWalk BucketTable StoreModel GateModel GateSpec StoreInvariant
  LabelledRun LibraryRun

set_option autoImplicit false

def Settled (interface : Iface) : Prop :=
  interface.state ≠ .invalid ∧ .name ∉ interface.dirtyFields ∧ .ifalias ∉ interface.dirtyFields

theorem settled_name_key {objects : Objects} {hndl : Hndl}
    (settled : Settled (objects hndl.iface)) :
    nameKey objects hndl = some (some (objects hndl.iface).name) :=
  if_pos ⟨settled.1, settled.2.1⟩

theorem settled_alias_key {objects : Objects} {hndl : Hndl}
    (settled : Settled (objects hndl.iface)) :
    aliasKey objects hndl = some ((objects hndl.iface).ifalias.map HeapStr.text) :=
  if_pos ⟨settled.1, settled.2.2⟩

/-- `strcmp()` on the alias of the interface does not return. -/
def Unreadable (interface : Iface) : Prop :=
  ∀ pointer, interface.ifalias = some pointer → pointer.live = false

section Lookups

variable {NameBucket IndexBucket : Type} {hash : Hashing NameBucket IndexBucket}
  {objects : Objects} {bound : Addr} {store : Store NameBucket IndexBucket} {hndl : Hndl}

theorem find_byname_some {name : CString} {interface : Addr}
    (linked : Linked hash objects bound store)
    (found : storeFindIfaceByname hash objects store name = some interface) :
    ∃ hndl ∈ store.ifaces, hndl.iface = interface ∧ (objects interface).name = name := by
  unfold storeFindIfaceByname at found
  split at found
  · obtain ⟨hndl, searched, rfl⟩ := Option.map_eq_some_iff.mp found
    have same : name = (objects hndl.iface).name := by simpa using List.find?_some searched
    have chained := List.mem_of_find?_eq_some searched
    exact ⟨hndl, linked.nameh.registered _ hndl chained, rfl, same.symm⟩
  · cases found

theorem search_byname_hits (objects : Objects) {bucket : NameBucket}
    (home : hndl ∈ store.nameh bucket) :
    ∃ found ∈ store.nameh bucket,
      storeSearchIfaceByname objects store bucket (objects hndl.iface).name =
        some found.iface ∧
      (objects found.iface).name = (objects hndl.iface).name := by
  unfold storeSearchIfaceByname
  cases searched : List.find?
      (fun other : Hndl => decide ((objects hndl.iface).name = (objects other.iface).name))
      (store.nameh bucket) with
  | none =>
      have missed := List.find?_eq_none.mp searched hndl home
      simp at missed
  | some found =>
      have same : (objects hndl.iface).name = (objects found.iface).name := by
        simpa using List.find?_some searched
      exact ⟨found, List.mem_of_find?_eq_some searched, rfl, same.symm⟩

theorem find_byname_settled (linked : Linked hash objects bound store)
    (indexed : Indexed hash objects store) (member : hndl ∈ store.ifaces)
    (settled : Settled (objects hndl.iface)) :
    ∃ found ∈ store.ifaces,
      storeFindIfaceByname hash objects store (objects hndl.iface).name = some found.iface ∧
      (objects found.iface).name = (objects hndl.iface).name ∧
      (found = hndl ∨ ¬ Settled (objects found.iface)) := by
  have home := indexed.names.home hndl member _ (settled_name_key settled)
  have valid := (linked.sound hndl member).name
  obtain ⟨found, chained, searched, same⟩ := search_byname_hits objects home
  have enrolled := linked.nameh.registered _ found chained
  refine ⟨found, enrolled, (if_pos valid).trans searched, same, ?_⟩
  by_cases alsoSettled : Settled (objects found.iface)
  · exact .inl (indexed.names.once found enrolled hndl member _
      (settled_name_key alsoSettled) (same ▸ settled_name_key settled))
  · exact .inr alsoSettled

theorem visit_alias_cases (objects : Objects) (text : CString) (hndl : Hndl) :
    (∃ pointer, (objects hndl.iface).ifalias = some pointer ∧ pointer.live = true ∧
      visitAlias objects text hndl =
        .ok (if text = pointer.text then some hndl.iface else none)) ∨
    (Unreadable (objects hndl.iface) ∧ ∃ fault, visitAlias objects text hndl = .error fault) := by
  unfold visitAlias
  rcases held : (objects hndl.iface).ifalias with _ | ⟨text, live⟩
  · exact .inr ⟨by simp [Unreadable, held], _, rfl⟩
  · cases live with
    | true => exact .inl ⟨_, rfl, rfl, rfl⟩
    | false => exact .inr ⟨by simp [Unreadable, held], _, rfl⟩

theorem visit_alias_some_iff (objects : Objects) (text : CString) (hndl : Hndl)
    (interface : Addr) :
    visitAlias objects text hndl = .ok (some interface) ↔
      hndl.iface = interface ∧ (objects hndl.iface).ifalias = some (dupStr text) := by
  cases visit_alias_cases objects text hndl with
  | inl readable =>
      obtain ⟨⟨held, live⟩, there, rfl, answer⟩ := readable
      rw [answer, there]
      by_cases same : text = held
      · simp [same, dupStr]
      · simp [same, dupStr, eq_comm (a := held)]
  | inr unreadable =>
      obtain ⟨gone, fault, answer⟩ := unreadable
      have absent : (objects hndl.iface).ifalias ≠ some (dupStr text) := fun there => by
        cases gone _ there
      simp [answer, absent]

theorem visit_alias_none_iff (objects : Objects) (text : CString) (hndl : Hndl) :
    visitAlias objects text hndl = .ok none ↔
      ∃ held, (objects hndl.iface).ifalias = some (dupStr held) ∧ text ≠ held := by
  cases visit_alias_cases objects text hndl with
  | inl readable =>
      obtain ⟨⟨held, live⟩, there, rfl, answer⟩ := readable
      rw [answer, there]
      by_cases same : text = held
      · simp [same, dupStr]
      · simp [same, dupStr]
  | inr unreadable =>
      obtain ⟨gone, fault, answer⟩ := unreadable
      have absent : ∀ held, (objects hndl.iface).ifalias ≠ some (dupStr held) := by
        intro held there
        cases gone _ there
      simp [answer, absent]

theorem visit_alias_error_iff (objects : Objects) (text : CString) (hndl : Hndl) :
    (∃ fault, visitAlias objects text hndl = .error fault) ↔
      Unreadable (objects hndl.iface) := by
  cases visit_alias_cases objects text hndl with
  | inl readable =>
      obtain ⟨pointer, held, live, answer⟩ := readable
      refine iff_of_false (by simp [answer]) fun unreadable => ?_
      cases live.symm.trans (unreadable pointer held)
  | inr unreadable => exact iff_of_true unreadable.2 unreadable.1

/-- On the chain of this alias, interfaces whose own alias cannot be read stand behind one
that bears it. -/
def Unobstructed (hash : Hashing NameBucket IndexBucket) (objects : Objects)
    (store : Store NameBucket IndexBucket) (text : CString) : Prop :=
  linkValidateAlias (some text) > 0 →
    ∀ front broken rest, store.aliash (hash.str text) = front ++ broken :: rest →
      Unreadable (objects broken.iface) →
      ∃ bearer ∈ front, (objects bearer.iface).ifalias = some (dupStr text)

theorem find_byalias_returns_iff (hash : Hashing NameBucket IndexBucket) (objects : Objects)
    (store : Store NameBucket IndexBucket) (text : CString) :
    (∃ found, storeFindIfaceByalias hash objects store text = .ok found) ↔
      Unobstructed hash objects store text := by
  unfold storeFindIfaceByalias storeSearchIfaceByalias Unobstructed
  by_cases valid : linkValidateAlias (some text) > 0
  · rw [if_pos valid, first_hit_returns_iff]
    simp only [visit_alias_error_iff, visit_alias_some_iff, exists_eq_left', valid,
      forall_true_left]
  · simp [valid]

theorem find_byalias_held {text : CString} {interface : Addr}
    (linked : Linked hash objects bound store)
    (found : storeFindIfaceByalias hash objects store text = .ok (some interface)) :
    ∃ hndl ∈ store.ifaces, hndl.iface = interface ∧
      (objects interface).ifalias = some (dupStr text) := by
  unfold storeFindIfaceByalias at found
  split at found
  · obtain ⟨hndl, chained, visited⟩ := first_hit_some _ _ _ found
    obtain ⟨rfl, held⟩ := (visit_alias_some_iff ..).mp visited
    exact ⟨hndl, linked.aliash.registered _ hndl chained, rfl, held⟩
  · cases found

theorem find_byalias_some {text : CString} {interface : Addr}
    (linked : Linked hash objects bound store)
    (found : storeFindIfaceByalias hash objects store text = .ok (some interface)) :
    ∃ hndl ∈ store.ifaces, hndl.iface = interface ∧
      (objects interface).ifalias.map HeapStr.text = some text := by
  obtain ⟨hndl, member, same, held⟩ := find_byalias_held linked found
  exact ⟨hndl, member, same, by rw [held]; rfl⟩

/-- The search for an alias that is on its chain stops at a handle that has it, or at one
whose alias cannot be read. -/
theorem search_byalias_stops {bucket : NameBucket} {pointer : HeapStr}
    (home : hndl ∈ store.aliash bucket) (held : (objects hndl.iface).ifalias = some pointer)
    (live : pointer.live = true) :
    ∃ stop ∈ store.aliash bucket,
      ((objects stop.iface).ifalias.map HeapStr.text = some pointer.text ∧
        storeSearchIfaceByalias objects store bucket pointer.text = .ok (some stop.iface)) ∨
      (Unreadable (objects stop.iface) ∧
        ∃ fault, storeSearchIfaceByalias objects store bucket pointer.text = .error fault) := by
  unfold storeSearchIfaceByalias
  cases first_hit_cases (visitAlias objects pointer.text) (store.aliash bucket) with
  | inl passed =>
      have visited := passed hndl home
      cases visit_alias_cases objects pointer.text hndl with
      | inl readable =>
          obtain ⟨other, there, _, answer⟩ := readable
          cases held.symm.trans there
          rw [answer, if_pos rfl] at visited
          cases visited
      | inr gone =>
          rw [gone.1 pointer held] at live
          cases live
  | inr ended =>
      obtain ⟨_, stop, rest, split, _, stopped, same⟩ := ended
      refine ⟨stop, by simp [split], ?_⟩
      cases visit_alias_cases objects pointer.text stop with
      | inl readable =>
          obtain ⟨other, there, _, answer⟩ := readable
          have equal : pointer.text = other.text := by
            by_contra different
            exact stopped (by rw [answer, if_neg different])
          rw [same, answer, if_pos equal, there, equal]
          exact .inl ⟨rfl, rfl⟩
      | inr unreadable =>
          obtain ⟨gone, fault, answer⟩ := unreadable
          rw [same, answer]
          exact .inr ⟨gone, fault, rfl⟩

/-- The alias of a settled interface leads to it, or to a pending one that bears
this alias; the walk faults where a pending one lost its alias. -/
theorem find_byalias_settled (linked : Linked hash objects bound store)
    (indexed : Indexed hash objects store) (member : hndl ∈ store.ifaces)
    (settled : Settled (objects hndl.iface)) {pointer : HeapStr}
    (held : (objects hndl.iface).ifalias = some pointer) :
    (∃ found ∈ store.ifaces,
      storeFindIfaceByalias hash objects store pointer.text = .ok (some found.iface) ∧
      (objects found.iface).ifalias.map HeapStr.text = some pointer.text ∧
      (found = hndl ∨ ¬ Settled (objects found.iface))) ∨
    (∃ broken ∈ store.ifaces, ¬ Settled (objects broken.iface) ∧
      Unreadable (objects broken.iface) ∧
      ∃ fault, storeFindIfaceByalias hash objects store pointer.text = .error fault) := by
  have key : aliasKey objects hndl = some (some pointer.text) := by
    rw [settled_alias_key settled, held]
    rfl
  have home := indexed.aliases.home hndl member _ key
  have valid := (linked.sound hndl member).ifalias pointer held
  have live := ((linked.sound hndl member).held settled.1).ifalias pointer held
  unfold storeFindIfaceByalias
  rw [if_pos valid]
  obtain ⟨stop, chained, outcome⟩ := search_byalias_stops home held live
  have enrolled := linked.aliash.registered _ stop chained
  cases outcome with
  | inl answered =>
      refine .inl ⟨stop, enrolled, answered.2, answered.1, ?_⟩
      by_cases alsoSettled : Settled (objects stop.iface)
      · refine .inl (indexed.aliases.once stop enrolled hndl member pointer.text ?_ key)
        rw [settled_alias_key alsoSettled, answered.1]
      · exact .inr alsoSettled
  | inr unreadable =>
      refine .inr ⟨stop, enrolled, fun alsoSettled => ?_, unreadable.1, unreadable.2⟩
      -- a settled handle without readable alias is on no alias chain
      cases there : (objects stop.iface).ifalias with
      | none =>
          have absent : aliasKey objects stop = some none := by
            rw [settled_alias_key alsoSettled, there]
            rfl
          exact indexed.aliases.absent stop enrolled absent _ chained
      | some string =>
          have stopLive := ((linked.sound stop enrolled).held alsoSettled.1).ifalias string there
          rw [unreadable.1 string there] at stopLive
          cases stopLive

theorem find_byindex_iff (linked : Linked hash objects bound store) (index : UInt32)
    (interface : Addr) :
    storeFindIfaceByindex hash objects store index = some interface ↔
      ∃ hndl ∈ store.ifaces, hndl.iface = interface ∧ (objects interface).idx = index := by
  unfold storeFindIfaceByindex
  constructor
  · intro found
    split at found
    · obtain ⟨hndl, searched, rfl⟩ := Option.map_eq_some_iff.mp found
      obtain ⟨member, same⟩ := linked.search_some searched
      exact ⟨hndl, member, rfl, same⟩
    · cases found
  · rintro ⟨hndl, member, rfl, rfl⟩
    rw [if_pos (linked.sound hndl member).idx, linked.search member]
    rfl

end Lookups

section Runs

variable {NameBucket IndexBucket Kstate : Type}

/-- The shape of the store and what its lookups return. -/
structure Represented (hash : Hashing NameBucket IndexBucket)
    (world : World NameBucket IndexBucket Kstate) : Prop where
  count : world.store.count = world.store.ifaces.length
  listed : world.store.ifaces.Nodup
  chains : (∀ bucket, (world.store.indxh bucket).Nodup) ∧
    (∀ bucket, (world.store.nameh bucket).Nodup) ∧ ∀ bucket, (world.store.aliash bucket).Nodup
  enrolledOnly : ∀ hndl, (∀ bucket, hndl ∈ world.store.indxh bucket → hndl ∈ world.store.ifaces) ∧
    (∀ bucket, hndl ∈ world.store.nameh bucket → hndl ∈ world.store.ifaces) ∧
    ∀ bucket, hndl ∈ world.store.aliash bucket → hndl ∈ world.store.ifaces
  index : ∀ hndl ∈ world.store.ifaces,
    On hndl (hash.index (world.objects hndl.iface).idx) world.store.indxh
  indices : ∀ left ∈ world.store.ifaces, ∀ right ∈ world.store.ifaces,
    (world.objects left.iface).idx = (world.objects right.iface).idx → left = right
  name : ∀ hndl ∈ world.store.ifaces, ∃ bucket, On hndl bucket world.store.nameh
  settledName : ∀ hndl ∈ world.store.ifaces, Settled (world.objects hndl.iface) →
    On hndl (hash.str (world.objects hndl.iface).name) world.store.nameh
  settledAlias : ∀ hndl ∈ world.store.ifaces, Settled (world.objects hndl.iface) →
    match (world.objects hndl.iface).ifalias with
    | some pointer => On hndl (hash.str pointer.text) world.store.aliash
    | none => Off hndl world.store.aliash
  distinctNames : ∀ left ∈ world.store.ifaces, ∀ right ∈ world.store.ifaces,
    Settled (world.objects left.iface) → Settled (world.objects right.iface) →
    (world.objects left.iface).name = (world.objects right.iface).name → left = right
  distinctAliases : ∀ left ∈ world.store.ifaces, ∀ right ∈ world.store.ifaces,
    Settled (world.objects left.iface) → Settled (world.objects right.iface) →
    (world.objects left.iface).ifalias.map HeapStr.text =
      (world.objects right.iface).ifalias.map HeapStr.text →
    (world.objects left.iface).ifalias ≠ none → left = right
  byindex : ∀ index interface,
    storeFindIfaceByindex hash world.objects world.store index = some interface ↔
      Enrolled interface world ∧ (world.objects interface).idx = index
  byname : ∀ hndl ∈ world.store.ifaces, Settled (world.objects hndl.iface) →
    ∃ found ∈ world.store.ifaces,
      storeFindIfaceByname hash world.objects world.store (world.objects hndl.iface).name =
        some found.iface ∧
      (world.objects found.iface).name = (world.objects hndl.iface).name ∧
      (found = hndl ∨ ¬ Settled (world.objects found.iface))
  bynameOnly : ∀ name interface,
    storeFindIfaceByname hash world.objects world.store name = some interface →
      Enrolled interface world ∧ (world.objects interface).name = name
  byalias : ∀ hndl ∈ world.store.ifaces, Settled (world.objects hndl.iface) →
    ∀ pointer, (world.objects hndl.iface).ifalias = some pointer →
    ∃ found ∈ world.store.ifaces,
      storeFindIfaceByalias hash world.objects world.store pointer.text =
        .ok (some found.iface) ∧
      (world.objects found.iface).ifalias.map HeapStr.text = some pointer.text ∧
      (found = hndl ∨ ¬ Settled (world.objects found.iface))
  byaliasOnly : ∀ text interface,
    storeFindIfaceByalias hash world.objects world.store text = .ok (some interface) →
      Enrolled interface world ∧
        (world.objects interface).ifalias.map HeapStr.text = some text

/-- No settled interface stands on its alias chain behind one whose alias cannot be read,
unless another bearer of its alias comes first. -/
def AliasesUnobstructed (hash : Hashing NameBucket IndexBucket)
    (world : World NameBucket IndexBucket Kstate) : Prop :=
  ∀ hndl ∈ world.store.ifaces, Settled (world.objects hndl.iface) →
    ∀ pointer, (world.objects hndl.iface).ifalias = some pointer →
      Unobstructed hash world.objects world.store pointer.text

theorem kept_represented {platform : Platform NameBucket IndexBucket Kstate}
    {world : World NameBucket IndexBucket Kstate} (kept : Kept platform world)
    (quiet : Quiet world.trace) (unobstructed : AliasesUnobstructed platform.hash world) :
    Represented platform.hash world := by
  have linked := kept.linked
  have indexed := kept.indexed quiet
  refine
    { count := linked.count
      listed := linked.nodup
      chains := ⟨linked.indxh.nodup, linked.nameh.nodup, linked.aliash.nodup⟩
      enrolledOnly := fun hndl => ⟨fun bucket => linked.indxh.registered bucket hndl,
        fun bucket => linked.nameh.registered bucket hndl,
        fun bucket => linked.aliash.registered bucket hndl⟩
      index := fun hndl member => linked.indxh.on_of_mem (linked.indexed hndl member)
      indices := linked.injective
      name := fun hndl member => ?_
      settledName := fun hndl member settled => linked.nameh.on_of_mem
        (indexed.names.home hndl member _ (settled_name_key settled))
      settledAlias := fun hndl member settled => ?_
      distinctNames := fun left leftMember right rightMember leftSettled rightSettled same => ?_
      distinctAliases :=
        fun left leftMember right rightMember leftSettled rightSettled same some_ => ?_
      byindex := fun index interface => ?_
      byname := fun hndl member settled => find_byname_settled linked indexed member settled
      bynameOnly := fun name interface found => ?_
      byalias := fun hndl member settled pointer held => ?_
      byaliasOnly := fun text interface found => ?_ }
  · obtain ⟨bucket, chained⟩ := indexed.named hndl member
    exact ⟨bucket, linked.nameh.on_of_mem chained⟩
  · have key := settled_alias_key settled
    split
    · rename_i pointer held
      rw [held] at key
      exact linked.aliash.on_of_mem (indexed.aliases.home hndl member _ key)
    · rename_i absent
      rw [absent] at key
      exact indexed.aliases.absent hndl member key
  · exact indexed.names.once left leftMember right rightMember _ (settled_name_key leftSettled)
      (same ▸ settled_name_key rightSettled)
  · obtain ⟨pointer, held⟩ := Option.ne_none_iff_exists'.mp some_
    refine indexed.aliases.once left leftMember right rightMember pointer.text ?_ ?_
    · rw [settled_alias_key leftSettled, held]
      rfl
    · rw [settled_alias_key rightSettled, ← same, held]
      rfl
  · rw [find_byindex_iff linked]
    constructor
    · rintro ⟨hndl, member, rfl, same⟩
      exact ⟨⟨hndl, member, rfl⟩, same⟩
    · rintro ⟨⟨hndl, member, rfl⟩, same⟩
      exact ⟨hndl, member, rfl, same⟩
  · obtain ⟨hndl, member, rfl, same⟩ := find_byname_some linked found
    exact ⟨⟨hndl, member, rfl⟩, same⟩
  · cases find_byalias_settled linked indexed member settled held with
    | inl answered => exact answered
    | inr broken =>
        obtain ⟨_, _, _, _, fault, failed⟩ := broken
        obtain ⟨found, returned⟩ := (find_byalias_returns_iff ..).mpr
          (unobstructed hndl member settled pointer held)
        cases failed.symm.trans returned
  · obtain ⟨hndl, member, rfl, same⟩ := find_byalias_some linked found
    exact ⟨⟨hndl, member, rfl⟩, same⟩

theorem Represented.unobstructed {hash : Hashing NameBucket IndexBucket}
    {world : World NameBucket IndexBucket Kstate} (represented : Represented hash world) :
    AliasesUnobstructed hash world := by
  intro hndl member settled pointer held
  obtain ⟨found, _, answered, _⟩ := represented.byalias hndl member settled pointer held
  exact (find_byalias_returns_iff ..).mp ⟨_, answered⟩

variable [DecidableEq NameBucket] [DecidableEq IndexBucket]

/-- Over whole runs: as long as no MODIFY or RELOAD event is refused, the store keeps its
representation, and its lookups are exact where nothing obstructs the alias of a settled
interface. Any other alias can be asked for under the same condition. -/
theorem run_represented_iff {platform : Platform NameBucket IndexBucket Kstate}
    (reports : KernelReports platform.kernel) {objects : Objects} {kernel : Kstate}
    {log : List (Op × Ret)} {world : World NameBucket IndexBucket Kstate}
    (run : Run (machine platform) (storeInit objects kernel) log world)
    (quiet : Quiet world.trace) :
    (Represented platform.hash world ↔ AliasesUnobstructed platform.hash world) ∧
    ∀ text, (∃ found,
        storeFindIfaceByalias platform.hash world.objects world.store text = .ok found) ↔
      Unobstructed platform.hash world.objects world.store text :=
  ⟨⟨Represented.unobstructed, kept_represented (run_kept reports run) quiet⟩,
    find_byalias_returns_iff platform.hash world.objects world.store⟩

def firstLink : GetlinkRsp := bareLink 1 nameA (some nameAB)

/-- The link "b" of index 2, whose alias hashes like that of the first one. -/
def collidingLink : GetlinkRsp := bareLink 2 nameB (some nameBA)

theorem first_link_reported : Reported firstLink where
  index := by decide
  asserted := by
    constructor <;> decide

theorem colliding_link_reported : Reported collidingLink where
  index := by decide
  asserted := by
    constructor <;> decide

/-- The interface enrolled first waits on the chain of its alias for the removal of it; the
other one, ahead of it on this chain, was renamed and is found. -/
theorem renamed_and_applied_represented :
    ∃ world, Run (machine oneLinkPlatform) oneLinkInit
      [(.newLink collidingLink, .code 0), (.newLink firstLink, .code 0),
        (.set (.name ⟨nameC, IFNAMSIZ, by decide⟩) 2, .code 0), (.apply 2, .code 1),
        (.set (.ifalias none) 0, .code 0)] world ∧
      Represented djb2Hashing world ∧
      storeFindIfaceByname djb2Hashing world.objects world.store nameC = some 2 ∧
      storeFindIfaceByalias djb2Hashing world.objects world.store nameAB = .ok (some 2) := by
  have second := (Run.start : Run (machine oneLinkPlatform) oneLinkInit [] oneLinkInit).extend
    (.newLink collidingLink) (.code 0) ⟨colliding_link_reported, by decide⟩ rfl
  have both := second.extend (.newLink firstLink) (.code 0) ⟨first_link_reported, by decide⟩ rfl
  have renamed := both.extend (.set (.name ⟨nameC, IFNAMSIZ, by decide⟩) 2) (.code 0)
    ⟨(by decide : linkValidateName nameC > 0), ⟨3, 2⟩, by decide, rfl⟩ rfl
  have applied := renamed.extend (.apply 2) (.code 1) ⟨⟨3, 2⟩, by decide, rfl⟩ rfl
  have removed := applied.extend (.set (.ifalias none) 0) (.code 0)
    ⟨(by decide : linkValidateAlias none ≥ 0), ⟨1, 0⟩, by decide, rfl⟩ rfl
  have iff := run_represented_iff one_link_kernel_reports removed (by decide)
  refine ⟨_, removed, iff.1.mpr fun hndl member settled pointer held => ?_, rfl, rfl⟩
  rcases List.mem_cons.mp member with rfl | member
  · cases held
  · rcases List.mem_cons.mp member with rfl | member
    · cases held
      exact (iff.2 nameAB).mp ⟨_, rfl⟩
    · cases member

/-- Enrolled in the other order, the interface that waits for the removal of its alias
stands ahead of the settled one. -/
theorem removed_alias_obstructs :
    ∃ world, Run (machine oneLinkPlatform) oneLinkInit
      [(.newLink firstLink, .code 0), (.newLink collidingLink, .code 0),
        (.set (.ifalias none) 2, .code 0)] world ∧
      Quiet world.trace ∧ Settled (world.objects 0) ∧
      storeFindIfaceByalias djb2Hashing world.objects world.store nameAB =
        .error .nullDereference ∧
      ¬ Represented djb2Hashing world := by
  have first := (Run.start : Run (machine oneLinkPlatform) oneLinkInit [] oneLinkInit).extend
    (.newLink firstLink) (.code 0) ⟨first_link_reported, by decide⟩ rfl
  have both := first.extend (.newLink collidingLink) (.code 0)
    ⟨colliding_link_reported, by decide⟩ rfl
  have removed := both.extend (.set (.ifalias none) 2) (.code 0)
    ⟨(by decide : linkValidateAlias none ≥ 0), ⟨3, 2⟩, by decide, rfl⟩ rfl
  refine ⟨_, removed, by decide, ⟨by decide, by decide, by decide⟩, rfl, fun represented => ?_⟩
  obtain ⟨_, _, answered, _⟩ := represented.byalias ⟨1, 0⟩ (by decide)
    ⟨by decide, by decide, by decide⟩ _ rfl
  cases answered

end Runs

end Nlif.StoreLookup
