import Nlif.FiledRun
import Nlif.Recovery
import Nlif.StoreWithdraw

/-!
# Lookups while strings are staged

A lookup hashes the string it is given and compares it with the strings interfaces bear
now. Until a staged rename is applied, the interface stands on the chain of the name it
was filed under and answers to the name it is about to have.
-/

namespace Nlif.StagedLookup

open LinkModel IfaceModel FaultWalk BucketTable StoreModel StoreRehash GateModel GateSpec
  StoreInvariant StoreLookup Recovery StoreWithdraw LabelledRun LibraryRun FiledRun

set_option autoImplicit false

structure Strings where
  name : CString
  ifalias : Option CString

def stringsOf (interface : Iface) : Strings where
  name := interface.name
  ifalias := interface.ifalias.map HeapStr.text

def Strings.Has (strings : Strings) (text : CString) : Prop :=
  strings.name = text ∨ strings.ifalias = some text

/-- What a completed setter call stages; a refused one stages nothing. -/
def stagedBy (strings : Strings) : Op × Ret → Strings
  | (.set (.name name) _, ret) =>
      if ret = .code 0 then { strings with name := name.text } else strings
  | (.set (.ifalias ifalias) _, ret) =>
      if ret = .code 0 then { strings with ifalias } else strings
  | _ => strings

def stagedStrings (applied : Strings) (edits : List (Op × Ret)) : Strings :=
  edits.foldl stagedBy applied

theorem stage_name_strings {name : StrArg} {before after : Iface} {ret : Int}
    (staged : stageName name before = .ok (ret, after)) (interface : Addr) :
    stringsOf after = stagedBy (stringsOf before) (.set (.name name) interface, .code ret) := by
  unfold stageName at staged
  split at staged
  · rename_i same
    cases staged
    simp [stagedBy, stringsOf, same]
  · obtain ⟨current, _, staged⟩ := (bind_ok_iff ..).mp staged
    split at staged
    · cases staged
      simp [stagedBy, EEXIST]
    · split at staged <;> cases staged
      simp [stagedBy, stringsOf]

theorem alias_is_true {text : CString} {ifalias : Option HeapStr}
    (same : aliasIs text ifalias = .ok true) : ifalias.map HeapStr.text = some text := by
  cases ifalias with
  | none => cases same
  | some pointer =>
      obtain ⟨current, read, equal⟩ := (map_ok_iff ..).mp same
      obtain ⟨_, rfl⟩ := (HeapStr.read_ok_iff ..).mp read
      simpa using equal

theorem stage_alias_strings {ifalias : Option CString} {before after : Iface} {ret : Int}
    (staged : stageAlias ifalias before = .ok (ret, after)) (interface : Addr) :
    stringsOf after =
      stagedBy (stringsOf before) (.set (.ifalias ifalias) interface, .code ret) := by
  unfold stageAlias at staged
  cases ifalias with
  | some text =>
      obtain ⟨same, compared, staged⟩ := (bind_ok_iff ..).mp staged
      cases same with
      | true =>
          cases staged
          simp [stagedBy, stringsOf, alias_is_true compared]
      | false =>
          simp only [Bool.false_eq_true, if_false] at staged
          split at staged
          · cases staged
            simp [stagedBy, EEXIST]
          · obtain ⟨_, _, staged⟩ := (bind_ok_iff ..).mp staged
            cases staged
            simp [stagedBy, stringsOf, dupStr]
  | none =>
      simp only at staged
      split at staged
      · rename_i absent
        cases staged
        simp [stagedBy, stringsOf, absent]
      · obtain ⟨_, _, staged⟩ := (bind_ok_iff ..).mp staged
        cases staged
        simp [stagedBy, stringsOf]

/-- Exactly one of the two strings is accepted by the lookup, which returns the interface; for
the other one it returns `NULL`. -/
structure OneAccepted (answers : Lookup → Except Fault (Option Addr))
    (lookup : CString → Lookup) (interface : Addr) (applied staged : CString) : Prop where
  one : ∃! text, (text = applied ∨ text = staged) ∧
    ∃ found, answers (lookup text) = .ok (some found)
  itself : ∀ text found, text = applied ∨ text = staged →
    answers (lookup text) = .ok (some found) → found = interface
  returns : ∀ text, text = applied ∨ text = staged → ∃ found, answers (lookup text) = .ok found

/-- Where the lookup accepts nothing but the staged string of the interface. -/
theorem one_accepted_iff {answers : Lookup → Except Fault (Option Addr)}
    {lookup : CString → Lookup} {interface : Addr} {applied staged : CString}
    (itself : ∀ text found, text = applied ∨ text = staged →
      answers (lookup text) = .ok (some found) → found = interface ∧ text = staged) :
    OneAccepted answers lookup interface applied staged ↔
      answers (lookup staged) = .ok (some interface) ∧
        ∃ found, answers (lookup applied) = .ok found := by
  constructor
  · intro accepted
    obtain ⟨text, ⟨which, found, answered⟩, _⟩ := accepted.one
    obtain ⟨rfl, rfl⟩ := itself text found which answered
    exact ⟨answered, accepted.returns applied (.inl rfl)⟩
  · rintro ⟨answered, returned⟩
    constructor
    · apply ExistsUnique.intro staged ⟨.inr rfl, interface, answered⟩
      intro text accepted
      obtain ⟨which, found, other⟩ := accepted
      exact (itself text found which other).2
    · intro text found which other
      exact (itself text found which other).1
    · rintro text (rfl | rfl)
      · exact returned
      · exact ⟨_, answered⟩

section Lookups

variable {NameBucket IndexBucket Kstate : Type}

def answers (platform : Platform NameBucket IndexBucket Kstate)
    (world : World NameBucket IndexBucket Kstate) : Lookup → Except Fault (Option Addr) :=
  answer platform.hash world.objects world.store

def Unused (world : World NameBucket IndexBucket Kstate) (hndl : Hndl) (text : CString) : Prop :=
  ∀ other ∈ world.store.ifaces, other ≠ hndl →
    storeMatchIfaceBystrid (world.objects other.iface) text ≠ .ok true

/-- `strcmp()` on the alias of the interface returns. -/
def Readable (interface : Iface) : Prop :=
  ∃ held, interface.ifalias = some (dupStr held)

/-- The search of the chain reaches the handle: every interface ahead of it has an alias that
can be read. -/
def Reached (objects : Objects) (hndl : Hndl) (chain : List Hndl) : Prop :=
  ∃ ahead behind, chain = ahead ++ hndl :: behind ∧
    ∀ other ∈ ahead, Readable (objects other.iface)

/-- The search that does not end at the handle gets to the end of the chain. -/
def OthersReadable (objects : Objects) (hndl : Hndl) (chain : List Hndl) : Prop :=
  ∀ other ∈ chain, other ≠ hndl → Readable (objects other.iface)

/-- A later world where only this interface may bear other strings. -/
structure Bearing (platform : Platform NameBucket IndexBucket Kstate)
    (before : World NameBucket IndexBucket Kstate) (hndl : Hndl) (strings : Strings)
    (world : World NameBucket IndexBucket Kstate) : Prop where
  linked : Linked platform.hash world.objects world.next world.store
  ifaces : world.store.ifaces = before.store.ifaces
  enrolled : hndl ∈ before.store.ifaces
  others : ∀ other ∈ before.store.ifaces, other ≠ hndl →
    world.objects other.iface = before.objects other.iface
  strings : stringsOf (world.objects hndl.iface) = strings

variable {platform : Platform NameBucket IndexBucket Kstate}
  {before world : World NameBucket IndexBucket Kstate} {hndl : Hndl} {strings : Strings}
  {text : CString} {found : Addr}

theorem match_name (interface : Iface) :
    storeMatchIfaceBystrid interface interface.name = .ok true := by
  simp [storeMatchIfaceBystrid]

theorem match_alias {interface : Iface} (held : interface.ifalias = some (dupStr text)) :
    storeMatchIfaceBystrid interface text = .ok true := by
  by_cases named : text = interface.name
  · simp [storeMatchIfaceBystrid, named]
  · simp [storeMatchIfaceBystrid, named, held, HeapStr.read, dupStr]

theorem Bearing.member (bearing : Bearing platform before hndl strings world) :
    hndl ∈ world.store.ifaces := by
  rw [bearing.ifaces]
  exact bearing.enrolled

theorem Bearing.name (bearing : Bearing platform before hndl strings world) :
    (world.objects hndl.iface).name = strings.name :=
  congrArg Strings.name bearing.strings

theorem Bearing.ifalias (bearing : Bearing platform before hndl strings world) :
    (world.objects hndl.iface).ifalias.map HeapStr.text = strings.ifalias :=
  congrArg Strings.ifalias bearing.strings

theorem byname_itself (bearing : Bearing platform before hndl strings world)
    (unused : Unused before hndl text)
    (accepted : answers platform world (.byname text) = .ok (some found)) :
    found = hndl.iface ∧ text = strings.name := by
  obtain ⟨bearer, there, rfl, rfl⟩ := find_byname_some bearing.linked (Except.ok.inj accepted)
  by_cases self : bearer = hndl
  · rw [self]
    exact ⟨rfl, bearing.name⟩
  · rw [bearing.ifaces] at there
    rw [bearing.others bearer there self] at unused
    exact absurd (match_name _) (unused bearer there self)

theorem byalias_itself (bearing : Bearing platform before hndl strings world)
    (unused : Unused before hndl text)
    (accepted : answers platform world (.byalias text) = .ok (some found)) :
    found = hndl.iface ∧ strings.ifalias = some text := by
  obtain ⟨bearer, there, rfl, held⟩ := find_byalias_held bearing.linked accepted
  by_cases self : bearer = hndl
  · rw [self] at held ⊢
    exact ⟨rfl, by rw [← bearing.ifalias, held]; rfl⟩
  · rw [bearing.ifaces] at there
    rw [bearing.others bearer there self] at held
    exact absurd (match_alias held) (unused bearer there self)

theorem byname_found_iff (bearing : Bearing platform before hndl strings world)
    (unused : Unused before hndl strings.name) {bucket : NameBucket}
    (home : hndl ∈ world.store.nameh bucket) :
    answers platform world (.byname strings.name) = .ok (some hndl.iface) ↔
      platform.hash.str strings.name = bucket := by
  constructor
  · intro answered
    have found := Except.ok.inj answered
    unfold storeFindIfaceByname at found
    split at found
    · obtain ⟨bearer, searched, same⟩ := Option.map_eq_some_iff.mp found
      have chained := List.mem_of_find?_eq_some searched
      have enrolled := bearing.linked.nameh.registered _ bearer chained
      rw [bearing.linked.same_iface enrolled bearing.member same] at chained
      exact bearing.linked.nameh.once hndl _ _ chained home
    · cases found
  · rintro rfl
    have valid := (bearing.linked.sound hndl bearing.member).name
    obtain ⟨other, _, searched, _⟩ := search_byname_hits world.objects home
    rw [bearing.name] at valid searched
    have accepted : answers platform world (.byname strings.name) = .ok (some other.iface) :=
      congrArg Except.ok ((if_pos valid).trans searched)
    rw [accepted, (byname_itself bearing unused accepted).1]

theorem Bearing.chained_enrolled (bearing : Bearing platform before hndl strings world)
    {bucket : NameBucket} {other : Hndl} (chained : other ∈ world.store.aliash bucket) :
    other ∈ before.store.ifaces := by
  rw [← bearing.ifaces]
  exact bearing.linked.aliash.registered bucket other chained

theorem search_reached (bearing : Bearing platform before hndl strings world)
    {bucket : NameBucket}
    (found : firstHit (visitAlias world.objects text) (world.store.aliash bucket) =
      .ok (some hndl.iface)) : Reached before.objects hndl (world.store.aliash bucket) := by
  cases first_hit_cases (visitAlias world.objects text) (world.store.aliash bucket) with
  | inl passed =>
      rw [(first_hit_none_iff ..).mpr passed] at found
      cases found
  | inr ended =>
      obtain ⟨ahead, stop, behind, split, passed, stops, same⟩ := ended
      rw [same] at found
      have chained : stop ∈ world.store.aliash bucket := by simp [split]
      have stopped := ((visit_alias_some_iff ..).mp found).1
      have itself : stop = hndl := bearing.linked.same_iface
        (bearing.linked.aliash.registered _ stop chained) bearing.member stopped
      subst itself
      refine ⟨ahead, behind, split, ?_⟩
      intro other there
      have different : other ≠ stop := by
        rintro rfl
        exact stops (passed other there)
      have known : other ∈ before.store.ifaces :=
        bearing.chained_enrolled (split ▸ List.mem_append_left _ there)
      obtain ⟨string, readable, _⟩ := (visit_alias_none_iff ..).mp (passed other there)
      rw [bearing.others other known different] at readable
      exact ⟨string, readable⟩

theorem reached_search (bearing : Bearing platform before hndl strings world)
    (unused : Unused before hndl text)
    (visited : visitAlias world.objects text hndl = .ok (some hndl.iface)) {bucket : NameBucket}
    (reached : Reached before.objects hndl (world.store.aliash bucket)) :
    firstHit (visitAlias world.objects text) (world.store.aliash bucket) =
      .ok (some hndl.iface) := by
  obtain ⟨ahead, behind, split, readable⟩ := reached
  have apart : hndl ∉ ahead := by
    have nodup := bearing.linked.aliash.nodup bucket
    rw [split] at nodup
    intro there
    exact List.disjoint_of_nodup_append nodup there (by simp)
  have passed : ∀ other ∈ ahead, visitAlias world.objects text other = .ok none := by
    intro other there
    have different : other ≠ hndl := fun same => apart (same ▸ there)
    have known : other ∈ before.store.ifaces :=
      bearing.chained_enrolled (split ▸ List.mem_append_left _ there)
    obtain ⟨string, has⟩ := readable other there
    have another : text ≠ string := by
      rintro rfl
      exact unused other known different (match_alias has)
    rw [← bearing.others other known different] at has
    exact (visit_alias_none_iff ..).mpr ⟨string, has, another⟩
  rw [split, first_hit_append _ _ _ passed, first_hit_cons_stop _ _ _ (by simp [Stops, visited]),
    visited]

/-- The present alias leads to the interface where it stands on the chain of this alias and
the search gets there. -/
theorem byalias_found_iff (bearing : Bearing platform before hndl strings world)
    (unused : Unused before hndl text)
    (held : (world.objects hndl.iface).ifalias = some (dupStr text)) {bucket : NameBucket}
    (home : hndl ∈ world.store.aliash bucket) :
    answers platform world (.byalias text) = .ok (some hndl.iface) ↔
      platform.hash.str text = bucket ∧
        Reached before.objects hndl (world.store.aliash bucket) := by
  have valid := (bearing.linked.sound hndl bearing.member).ifalias _ held
  have visited : visitAlias world.objects text hndl = .ok (some hndl.iface) :=
    (visit_alias_some_iff ..).mpr ⟨rfl, held⟩
  have searched : answers platform world (.byalias text) =
      firstHit (visitAlias world.objects text) (world.store.aliash (platform.hash.str text)) :=
    if_pos valid
  rw [searched]
  constructor
  · intro found
    have reached := search_reached bearing found
    have chained : hndl ∈ world.store.aliash (platform.hash.str text) := by
      obtain ⟨ahead, behind, split, _⟩ := reached
      simp [split]
    have bucketed := bearing.linked.aliash.once hndl _ _ chained home
    rw [bucketed] at reached
    exact ⟨bucketed, reached⟩
  · rintro ⟨rfl, reached⟩
    exact reached_search bearing unused visited reached

theorem byalias_missed_iff (bearing : Bearing platform before hndl strings world)
    (unused : Unused before hndl text) (unborne : strings.ifalias ≠ some text)
    (valid : linkValidateAlias (some text) > 0)
    (self : hndl ∈ world.store.aliash (platform.hash.str text) →
      Readable (world.objects hndl.iface)) :
    answers platform world (.byalias text) = .ok none ↔
      OthersReadable before.objects hndl (world.store.aliash (platform.hash.str text)) := by
  have searched : answers platform world (.byalias text) =
      firstHit (visitAlias world.objects text) (world.store.aliash (platform.hash.str text)) :=
    if_pos valid
  rw [searched, first_hit_none_iff]
  constructor
  · intro passed other chained different
    obtain ⟨held, has, _⟩ := (visit_alias_none_iff ..).mp (passed other chained)
    rw [bearing.others other (bearing.chained_enrolled chained) different] at has
    exact ⟨held, has⟩
  · intro readable other chained
    refine (visit_alias_none_iff ..).mpr ?_
    by_cases itself : other = hndl
    · subst itself
      obtain ⟨held, has⟩ := self chained
      refine ⟨held, has, ?_⟩
      rintro rfl
      rw [← bearing.ifalias, has] at unborne
      exact unborne rfl
    · have known := bearing.chained_enrolled chained
      obtain ⟨held, has⟩ := readable other chained itself
      refine ⟨held, (bearing.others other known itself).symm ▸ has, ?_⟩
      rintro rfl
      exact unused other known itself (match_alias has)

theorem byalias_returns_iff (bearing : Bearing platform before hndl strings world)
    (unused : Unused before hndl text) (unborne : strings.ifalias ≠ some text) :
    (∃ found, answers platform world (.byalias text) = .ok found) ↔
      answers platform world (.byalias text) = .ok none := by
  constructor
  · rintro ⟨found, answered⟩
    cases found with
    | none => exact answered
    | some other => exact absurd (byalias_itself bearing unused answered).2 unborne
  · exact fun answered => ⟨none, answered⟩

end Lookups

section Runs

variable {NameBucket IndexBucket Kstate : Type} {platform : Platform NameBucket IndexBucket Kstate}
  {before world next : World NameBucket IndexBucket Kstate} {hndl : Hndl} {strings : Strings}
  {text : CString} {ret : Int}

def stringEdit (interface : Addr) (_ : World NameBucket IndexBucket Kstate) : Op → Prop
  | .set (.name _) other | .set (.ifalias _) other => other = interface
  | _ => False

structure Staging (platform : Platform NameBucket IndexBucket Kstate)
    (before : World NameBucket IndexBucket Kstate) (hndl : Hndl) (strings : Strings)
    (world : World NameBucket IndexBucket Kstate) : Prop where
  kept : Kept platform world
  filed : WorldFiled platform world
  store : world.store = before.store
  others : ∀ address, address ≠ hndl.iface → world.objects address = before.objects address
  staged : Staged (before.objects hndl.iface) (world.objects hndl.iface)
  strings : stringsOf (world.objects hndl.iface) = strings

theorem staging_start (kept : Kept platform before) (filed : WorldFiled platform before) :
    Staging platform before hndl (stringsOf (before.objects hndl.iface)) before where
  kept := kept
  filed := filed
  store := rfl
  others _ _ := rfl
  staged := ⟨rfl, rfl, .inl rfl, subset_rfl, .inl rfl, .inl rfl⟩
  strings := rfl

theorem Staging.bearing (staging : Staging platform before hndl strings world)
    (linked : Linked platform.hash before.objects before.next before.store)
    (enrolled : hndl ∈ before.store.ifaces) : Bearing platform before hndl strings world where
  linked := staging.kept.linked
  ifaces := congrArg Store.ifaces staging.store
  enrolled := enrolled
  others other there different :=
    staging.others other.iface fun same => different (linked.same_iface there enrolled same)
  strings := staging.strings

theorem Staging.held_alias (staging : Staging platform before hndl strings world)
    (member : hndl ∈ world.store.ifaces) (valid : (before.objects hndl.iface).state ≠ .invalid)
    (aliased : strings.ifalias = some text) :
    (world.objects hndl.iface).ifalias = some (dupStr text) := by
  rw [← staging.strings] at aliased
  obtain ⟨⟨held, live⟩, there, rfl⟩ := Option.map_eq_some_iff.mp aliased
  have owned := (staging.kept.linked.sound hndl member).held (staging.staged.valid valid)
  have readable : live = true := owned.ifalias _ there
  rw [there, readable]
  rfl

def Free (before : World NameBucket IndexBucket Kstate) (hndl : Hndl) (strings : Strings) : Prop :=
  ∀ text, strings.Has text → Unused before hndl text

theorem name_accepted_iff (filed : WorldFiled platform before)
    (staging : Staging platform before hndl strings world)
    (bearing : Bearing platform before hndl strings world)
    (settled : Settled (before.objects hndl.iface))
    (oldFree : Free before hndl (stringsOf (before.objects hndl.iface)))
    (newFree : Free before hndl strings) :
    OneAccepted (answers platform world) .byname hndl.iface
        (stringsOf (before.objects hndl.iface)).name strings.name ↔
      platform.hash.str strings.name =
        platform.hash.str (stringsOf (before.objects hndl.iface)).name := by
  have home : hndl ∈
      world.store.nameh (platform.hash.str (before.objects hndl.iface).name) := by
    rw [staging.store]
    exact filed.names.home hndl bearing.enrolled _ (settled_name_key settled)
  apply Iff.trans (one_accepted_iff _)
  · rw [byname_found_iff bearing (newFree _ (.inl rfl)) home]
    exact and_iff_left ⟨_, rfl⟩
  · intro text found which accepted
    apply byname_itself bearing _ accepted
    exact which.elim (fun old => oldFree text (.inl old.symm))
      fun new => newFree text (.inl new.symm)

theorem applied_alias_valid (linked : Linked platform.hash before.objects before.next before.store)
    (enrolled : hndl ∈ before.store.ifaces)
    (was : (stringsOf (before.objects hndl.iface)).ifalias = some text) :
    linkValidateAlias (some text) > 0 := by
  obtain ⟨pointer, held, rfl⟩ := Option.map_eq_some_iff.mp was
  exact (linked.sound hndl enrolled).ifalias pointer held

theorem alias_home (filed : WorldFiled platform before) (enrolled : hndl ∈ before.store.ifaces)
    (settled : Settled (before.objects hndl.iface))
    (was : (stringsOf (before.objects hndl.iface)).ifalias = some text) :
    hndl ∈ before.store.aliash (platform.hash.str text) := by
  have key : aliasKey before.objects hndl = some (some text) := by
    rw [settled_alias_key settled]
    exact congrArg some was
  exact filed.aliases.home hndl enrolled text key

theorem alias_accepted_iff
    (linked : Linked platform.hash before.objects before.next before.store)
    (filed : WorldFiled platform before)
    (staging : Staging platform before hndl strings world)
    (bearing : Bearing platform before hndl strings world)
    (settled : Settled (before.objects hndl.iface))
    (oldFree : Free before hndl (stringsOf (before.objects hndl.iface)))
    (newFree : Free before hndl strings) {old new : CString}
    (was : (stringsOf (before.objects hndl.iface)).ifalias = some old)
    (is : strings.ifalias = some new) :
    OneAccepted (answers platform world) .byalias hndl.iface old new ↔
      platform.hash.str new = platform.hash.str old ∧
        Reached before.objects hndl (before.store.aliash (platform.hash.str old)) ∧
        (new ≠ old →
          OthersReadable before.objects hndl (before.store.aliash (platform.hash.str old))) := by
  have home := alias_home filed bearing.enrolled settled was
  have held := staging.held_alias bearing.member settled.1 is
  rw [← staging.store] at home ⊢
  have found := byalias_found_iff bearing (newFree new (.inr is)) held home
  apply Iff.trans (one_accepted_iff _)
  · rw [found, and_assoc]
    refine and_congr_right fun hashed => and_congr_right fun reached => ?_
    by_cases same : new = old
    · rw [← same]
      exact iff_of_true ⟨_, found.mpr ⟨same ▸ rfl, reached⟩⟩ fun different => absurd rfl different
    · have unborne : strings.ifalias ≠ some old := by
        rw [is]
        exact fun equal => same (Option.some.inj equal)
      rw [byalias_returns_iff bearing (oldFree old (.inr was)) unborne,
        byalias_missed_iff bearing (oldFree old (.inr was)) unborne
          (applied_alias_valid linked bearing.enrolled was) fun _ => ⟨new, held⟩]
      exact ⟨fun readable _ => readable, fun readable => readable same⟩
  · intro text found which accepted
    have unused : Unused before hndl text := by
      rcases which with rfl | rfl
      · exact oldFree _ (.inr was)
      · exact newFree _ (.inr is)
    have itself := byalias_itself bearing unused accepted
    exact ⟨itself.1, Option.some.inj (itself.2.symm.trans is)⟩

variable [DecidableEq NameBucket] [DecidableEq IndexBucket]

theorem staging_set (reports : KernelReports platform.kernel)
    (valid : (before.objects hndl.iface).state ≠ .invalid)
    (staging : Staging platform before hndl strings world) {setter : Setter}
    (argument : setter.Valid) (enrolled : Enrolled hndl.iface world)
    (strung : ∀ object, stage setter (world.objects hndl.iface) = .ok (ret, object) →
      stringsOf object = stagedBy (stringsOf (world.objects hndl.iface))
        (.set setter hndl.iface, .code ret))
    (done : ifaceSet platform setter hndl.iface world = .ok (ret, next)) :
    Staging platform before hndl (stagedBy strings (.set setter hndl.iface, .code ret)) next := by
  have kept := set_kept reports staging.kept enrolled argument done
  have filed := set_filed reports staging.kept staging.filed enrolled argument done
  obtain ⟨object, staged, rfl⟩ :=
    iface_set_valid_ok platform hndl.iface world (staging.staged.valid valid) done
  have self := World.set_object_self hndl.iface object world
  constructor
  · exact kept
  · exact filed
  · exact staging.store
  · intro address different
    rw [← staging.others address different]
    exact Function.update_of_ne different _ _
  · rw [self]
    exact staging.staged.trans (stage_staged staged)
  · rw [self, ← staging.strings]
    exact strung object staged

theorem staging_step (reports : KernelReports platform.kernel)
    (valid : (before.objects hndl.iface).state ≠ .invalid)
    (staging : Staging platform before hndl strings world) {op : Op} {answer : Ret}
    (admitted : admits world op) (edit : stringEdit hndl.iface world op)
    (stepped : step platform op world = .ok (answer, next)) :
    Staging platform before hndl (stagedBy strings (op, answer)) next := by
  cases op with
  | set setter interface =>
      obtain ⟨⟨ret, after⟩, done, same⟩ := (map_ok_iff ..).mp stepped
      cases same
      cases setter with
      | name name =>
          cases (show interface = hndl.iface from edit)
          apply staging_set reports valid staging admitted.1 admitted.2 _ done
          intro object staged
          exact stage_name_strings staged hndl.iface
      | ifalias ifalias =>
          cases (show interface = hndl.iface from edit)
          apply staging_set reports valid staging admitted.1 admitted.2 _ done
          intro object staged
          exact stage_alias_strings staged hndl.iface
      | group _ | admstate _ | mtu _ | hwaddr _ => exact edit.elim
  | create _ | enroll _ | withdraw _ | clear | load | reload | newLink _ | coherent _ | apply _
  | ifaceReload _ | notify _ | findByname _ | findByalias _ | findBystrid _ | findByindex _ =>
      exact edit.elim

theorem staging_run (reports : KernelReports platform.kernel)
    (kept : Kept platform before) (filed : WorldFiled platform before)
    (valid : (before.objects hndl.iface).state ≠ .invalid) {edits : List (Op × Ret)}
    (run : Run ((machine platform).given (stringEdit hndl.iface)) before edits world) :
    Staging platform before hndl
      (stagedStrings (stringsOf (before.objects hndl.iface)) edits) world := by
  apply run_tracks stagedBy (Staging platform before hndl) (staging_start kept filed) _ run
  intro strings state op answer later staging admitted stepped
  exact staging_step reports valid staging admitted.1 admitted.2 stepped

theorem apply_succeeded (kept : Kept platform world) (member : hndl ∈ world.store.ifaces)
    (done : ifaceApply platform hndl.iface world = .ok (ret, next)) (succeeded : 0 ≤ ret) :
    ((world.objects hndl.iface).state ≠ .dirty ∧ next.objects = world.objects ∧
      next.store = world.store) ∨
    (next.objects =
        Function.update world.objects hndl.iface (settled (world.objects hndl.iface)) ∧
      next.store = realiased platform.hash hndl
        (.ifalias ∈ (world.objects hndl.iface).dirtyFields) (world.objects hndl.iface).ifalias
        (renamed platform.hash hndl (.name ∈ (world.objects hndl.iface).dirtyFields)
          (world.objects hndl.iface).name world.store)) := by
  have found := kept.linked.search member
  cases (iface_apply_ok_iff ..).mp done with
  | idle undirtied => exact .inl ⟨undirtied, rfl, rfl⟩
  | @refused _ _ error =>
      have negative := ynl_err_negative error
      omega
  | applied _ _ _ notified =>
      obtain ⟨store, rehashed, rfl⟩ := gate_notify_modify_heard _ _ _ notified kept.subscribed
      cases (store_rehash_ok_iff _ _ found).mp rehashed with
      | moved => exact .inr ⟨rfl, rfl⟩
  | clashed _ _ _ notified failed =>
      have negative := gate_notify_modify_ret _ _ _ notified failed
      omega

structure Left (hndl : Hndl) (strings : Strings)
    (world next : World NameBucket IndexBucket Kstate) : Prop where
  ifaces : next.store.ifaces = world.store.ifaces
  others : ∀ address, address ≠ hndl.iface → next.objects address = world.objects address
  strings : stringsOf (next.objects hndl.iface) = strings
  settled : NameSettled (next.objects hndl.iface)

theorem apply_leaves (staging : Staging platform before hndl strings world)
    (member : hndl ∈ world.store.ifaces) (settled : Settled (before.objects hndl.iface))
    (done : ifaceApply platform hndl.iface world = .ok (ret, next)) (succeeded : 0 ≤ ret) :
    Left hndl strings world next := by
  cases apply_succeeded staging.kept member done succeeded with
  | inl idle =>
      obtain ⟨undirtied, objects, store⟩ := idle
      have same := staging.staged.state.resolve_right undirtied
      constructor
      · rw [store]
      · intro address _
        rw [objects]
      · rw [objects]
        exact staging.strings
      · rw [objects, same]
        exact ⟨settled.1, settled.2.1⟩
  | inr refiled =>
      obtain ⟨objects, store⟩ := refiled
      have relisted := relisted_renamed platform.hash hndl
        (.name ∈ (world.objects hndl.iface).dirtyFields) (world.objects hndl.iface).name
        world.store
      constructor
      · rw [store]
        exact (relisted.realiased _ _).ifaces
      · intro address different
        rw [objects]
        exact Function.update_of_ne different _ _
      · rw [objects, Function.update_self]
        exact staging.strings
      · rw [objects, Function.update_self]
        simp [NameSettled, GateModel.settled]

theorem apply_bearing (staging : Staging platform before hndl strings world)
    (bearing : Bearing platform before hndl strings world)
    (settled : Settled (before.objects hndl.iface))
    (done : ifaceApply platform hndl.iface world = .ok (ret, next)) (succeeded : 0 ≤ ret) :
    Bearing platform before hndl strings next ∧
      hndl ∈ next.store.nameh (platform.hash.str strings.name) := by
  have enrolled : Enrolled hndl.iface world := ⟨hndl, bearing.member, rfl⟩
  have apply := (iface_apply_ok_iff ..).mp done
  have kept := apply_kept staging.kept enrolled apply
  have filed := apply_filed staging.kept staging.filed enrolled apply
  have left := apply_leaves staging bearing.member settled done succeeded
  have after : Bearing platform before hndl strings next :=
    { linked := kept.linked
      ifaces := left.ifaces.trans bearing.ifaces
      enrolled := bearing.enrolled
      others := fun other there different => by
        have apart : other.iface ≠ hndl.iface := fun same =>
          different (bearing.linked.same_iface (bearing.ifaces ▸ there) bearing.member same)
        rw [left.others other.iface apart]
        exact bearing.others other there different
      strings := left.strings }
  refine ⟨after, filed.names.home hndl after.member strings.name ?_⟩
  rw [nameKey, if_pos left.settled, after.name]

theorem apply_aliases (staging : Staging platform before hndl strings world)
    (member : hndl ∈ world.store.ifaces) (settled : Settled (before.objects hndl.iface))
    (done : ifaceApply platform hndl.iface world = .ok (ret, next)) (succeeded : 0 ≤ ret) :
    next.store.aliash =
        (realiased platform.hash hndl (.ifalias ∈ (world.objects hndl.iface).dirtyFields)
          (world.objects hndl.iface).ifalias world.store).aliash ∧
      ∀ address, (next.objects address).ifalias = (world.objects address).ifalias := by
  cases apply_succeeded staging.kept member done succeeded with
  | inl idle =>
      obtain ⟨undirtied, objects, store⟩ := idle
      have same := staging.staged.state.resolve_right undirtied
      have clean : .ifalias ∉ (world.objects hndl.iface).dirtyFields := by
        rw [same]
        exact settled.2.2
      rw [store, realiased, if_neg (by simpa using clean), objects]
      exact ⟨rfl, fun _ => rfl⟩
  | inr refiled =>
      obtain ⟨objects, store⟩ := refiled
      constructor
      · rw [store]
        unfold realiased
        split
        · rcases (world.objects hndl.iface).ifalias with _ | pointer
          · exact congrArg (del hndl) (renamed_aliash ..)
          · exact congrArg (fun table => add (platform.hash.str pointer.text) hndl (del hndl table))
              (renamed_aliash ..)
        · exact renamed_aliash ..
      · intro address
        rw [objects]
        have kept : (GateModel.settled (world.objects hndl.iface)).ifalias =
            (world.objects hndl.iface).ifalias := rfl
        exact replaced_field kept address

theorem apply_unaliased (staging : Staging platform before hndl strings world)
    (member : hndl ∈ world.store.ifaces) (settled : Settled (before.objects hndl.iface))
    (clean : .ifalias ∉ (world.objects hndl.iface).dirtyFields)
    (done : ifaceApply platform hndl.iface world = .ok (ret, next)) (succeeded : 0 ≤ ret)
    (text : CString) :
    answers platform next (.byalias text) = answers platform world (.byalias text) := by
  obtain ⟨table, aliases⟩ := apply_aliases staging member settled done succeeded
  rw [realiased, if_neg (by simpa using clean)] at table
  change storeFindIfaceByalias .. = storeFindIfaceByalias ..
  unfold storeFindIfaceByalias storeSearchIfaceByalias
  rw [table]
  congr 1
  apply first_hit_congr
  intro other _
  unfold visitAlias
  rw [aliases]

theorem apply_realiased (staging : Staging platform before hndl strings world)
    (member : hndl ∈ world.store.ifaces) (settled : Settled (before.objects hndl.iface))
    (dirty : .ifalias ∈ (world.objects hndl.iface).dirtyFields)
    (aliased : strings.ifalias = some text)
    (done : ifaceApply platform hndl.iface world = .ok (ret, next)) (succeeded : 0 ≤ ret) :
    answers platform next (.byalias text) = .ok (some hndl.iface) := by
  obtain ⟨table, aliases⟩ := apply_aliases staging member settled done succeeded
  have held := staging.held_alias member settled.1 aliased
  rw [realiased, if_pos (decide_eq_true dirty), held] at table
  apply find_byalias_head
  · rw [table]
    exact congrArg List.head? (add_self ..)
  · exact (staging.kept.linked.sound hndl member).ifalias _ held
  · rw [aliases]
    exact held

/-- The walk of any chain passes over the interface that a successful apply moved there, and
meets the other interfaces it met before. -/
theorem apply_chain (staging : Staging platform before hndl strings world)
    (member : hndl ∈ world.store.ifaces) (settled : Settled (before.objects hndl.iface))
    (dirty : .ifalias ∈ (world.objects hndl.iface).dirtyFields)
    (done : ifaceApply platform hndl.iface world = .ok (ret, next)) (succeeded : 0 ≤ ret)
    (bucket : NameBucket) :
    (hndl ∈ next.store.aliash bucket → Readable (next.objects hndl.iface)) ∧
      (OthersReadable before.objects hndl (next.store.aliash bucket) ↔
        OthersReadable before.objects hndl (before.store.aliash bucket)) := by
  obtain ⟨table, aliases⟩ := apply_aliases staging member settled done succeeded
  rw [realiased, if_pos (decide_eq_true dirty), staging.store] at table
  unfold OthersReadable Readable
  rw [aliases]
  rcases held : (world.objects hndl.iface).ifalias with _ | ⟨text, live⟩
  · have unlinked : next.store.aliash = del hndl before.store.aliash := by
      rw [table, held]
      rfl
    simp only [unlinked, mem_del]
    grind
  · have moved : next.store.aliash =
        add (platform.hash.str text) hndl (del hndl before.store.aliash) := by
      rw [table, held]
      rfl
    have owned := (staging.kept.linked.sound hndl member).held (staging.staged.valid settled.1)
    cases owned.ifalias _ held
    simp only [moved, mem_add, mem_del]
    refine ⟨fun _ => ⟨text, rfl⟩, ?_⟩
    grind

/-- What the lookups owe to the strings once they were applied: the staged ones find the
interface, and for the former ones they return `NULL`. -/
structure Refiled (answers : Lookup → Except Fault (Option Addr)) (interface : Addr)
    (applied staged : Strings) : Prop where
  name : answers (.byname staged.name) = .ok (some interface)
  formerName : staged.name ≠ applied.name → answers (.byname applied.name) = .ok none
  ifalias : ∀ text, staged.ifalias = some text → answers (.byalias text) = .ok (some interface)
  formerAlias : ∀ text, applied.ifalias = some text → staged.ifalias ≠ some text →
    answers (.byalias text) = .ok none

/-- What the lookups owe to the strings while they are staged. -/
structure NeverHidden (answers : Lookup → Except Fault (Option Addr)) (interface : Addr)
    (applied staged : Strings) : Prop where
  name : OneAccepted answers .byname interface applied.name staged.name
  ifalias : ∀ old new, applied.ifalias = some old → staged.ifalias = some new →
    OneAccepted answers .byalias interface old new

/-- The staged strings hash like the applied ones, and the searches for the alias get to the
interface, or to the end where they are to miss it. -/
structure SameBuckets (platform : Platform NameBucket IndexBucket Kstate)
    (before : World NameBucket IndexBucket Kstate) (hndl : Hndl) (applied staged : Strings) :
    Prop where
  name : platform.hash.str staged.name = platform.hash.str applied.name
  ifalias : ∀ old new, applied.ifalias = some old → staged.ifalias = some new →
    platform.hash.str new = platform.hash.str old ∧
      Reached before.objects hndl (before.store.aliash (platform.hash.str old)) ∧
      (new ≠ old →
        OthersReadable before.objects hndl (before.store.aliash (platform.hash.str old)))

/-- The searches for an alias no set touched get to the interface, those for a former alias to
the end of its chain. -/
structure WalksComplete (platform : Platform NameBucket IndexBucket Kstate)
    (before : World NameBucket IndexBucket Kstate) (hndl : Hndl) (applied staged : Strings)
    (dirtyFields : Finset IfaceField) : Prop where
  untouched : .ifalias ∉ dirtyFields → ∀ text, applied.ifalias = some text →
    Reached before.objects hndl (before.store.aliash (platform.hash.str text))
  former : ∀ text, applied.ifalias = some text → staged.ifalias ≠ some text →
    OthersReadable before.objects hndl (before.store.aliash (platform.hash.str text))

omit [DecidableEq NameBucket] [DecidableEq IndexBucket] in
theorem Staging.alias_kept (staging : Staging platform before hndl strings world)
    (clean : .ifalias ∉ (world.objects hndl.iface).dirtyFields) :
    strings.ifalias = (stringsOf (before.objects hndl.iface)).ifalias := by
  have same := staging.staged.ifalias.resolve_right fun dirty => clean dirty.1
  rw [← staging.strings]
  exact congrArg (Option.map HeapStr.text) same

/-- An alias no set touched is looked up as before the apply. -/
theorem untouched_found_iff (filed : WorldFiled platform before)
    (staging : Staging platform before hndl strings world)
    (bearing : Bearing platform before hndl strings world)
    (settled : Settled (before.objects hndl.iface)) (newFree : Free before hndl strings)
    (done : ifaceApply platform hndl.iface world = .ok (ret, next)) (succeeded : 0 ≤ ret)
    (clean : .ifalias ∉ (world.objects hndl.iface).dirtyFields) {text : CString}
    (was : (stringsOf (before.objects hndl.iface)).ifalias = some text) :
    answers platform next (.byalias text) = .ok (some hndl.iface) ↔
      Reached before.objects hndl (before.store.aliash (platform.hash.str text)) := by
  have is := (staging.alias_kept clean).trans was
  have home := alias_home filed bearing.enrolled settled was
  have held := staging.held_alias bearing.member settled.1 is
  rw [← staging.store] at home ⊢
  rw [apply_unaliased staging bearing.member settled clean done succeeded,
    byalias_found_iff bearing (newFree text (.inr is)) held home]
  exact and_iff_right rfl

theorem former_missed_iff (linked : Linked platform.hash before.objects before.next before.store)
    (staging : Staging platform before hndl strings world)
    (bearing : Bearing platform before hndl strings world)
    (settled : Settled (before.objects hndl.iface))
    (oldFree : Free before hndl (stringsOf (before.objects hndl.iface)))
    (done : ifaceApply platform hndl.iface world = .ok (ret, next)) (succeeded : 0 ≤ ret)
    (after : Bearing platform before hndl strings next) {text : CString}
    (was : (stringsOf (before.objects hndl.iface)).ifalias = some text)
    (unborne : strings.ifalias ≠ some text) :
    answers platform next (.byalias text) = .ok none ↔
      OthersReadable before.objects hndl (before.store.aliash (platform.hash.str text)) := by
  have dirty : .ifalias ∈ (world.objects hndl.iface).dirtyFields := by
    by_contra clean
    exact unborne ((staging.alias_kept clean).trans was)
  have chain := apply_chain staging bearing.member settled dirty done succeeded
    (platform.hash.str text)
  rw [byalias_missed_iff after (oldFree text (.inr was)) unborne
    (applied_alias_valid linked bearing.enrolled was) chain.1, chain.2]

theorem refiled_iff (linked : Linked platform.hash before.objects before.next before.store)
    (filed : WorldFiled platform before)
    (staging : Staging platform before hndl strings world)
    (bearing : Bearing platform before hndl strings world)
    (settled : Settled (before.objects hndl.iface))
    (oldFree : Free before hndl (stringsOf (before.objects hndl.iface)))
    (newFree : Free before hndl strings)
    (done : ifaceApply platform hndl.iface world = .ok (ret, next)) (succeeded : 0 ≤ ret) :
    Refiled (answers platform next) hndl.iface (stringsOf (before.objects hndl.iface)) strings ↔
      WalksComplete platform before hndl (stringsOf (before.objects hndl.iface)) strings
        (world.objects hndl.iface).dirtyFields := by
  obtain ⟨after, home⟩ := apply_bearing staging bearing settled done succeeded
  have name := (byname_found_iff after (newFree _ (.inl rfl)) home).mpr rfl
  constructor
  · intro refiled
    constructor
    · intro clean text was
      exact (untouched_found_iff filed staging bearing settled newFree done succeeded clean was).mp
        (refiled.ifalias text ((staging.alias_kept clean).trans was))
    · intro text was unborne
      exact (former_missed_iff linked staging bearing settled oldFree done succeeded after was
        unborne).mp (refiled.formerAlias text was unborne)
  · intro complete
    constructor
    · exact name
    · intro different
      rcases searched : storeFindIfaceByname platform.hash next.objects next.store
          (stringsOf (before.objects hndl.iface)).name with _ | found
      · exact congrArg Except.ok searched
      · exact absurd (byname_itself after (oldFree _ (.inl rfl))
          (congrArg Except.ok searched)).2.symm different
    · intro text is
      by_cases dirty : .ifalias ∈ (world.objects hndl.iface).dirtyFields
      · exact apply_realiased staging bearing.member settled dirty is done succeeded
      · have was := (staging.alias_kept dirty).symm.trans is
        exact (untouched_found_iff filed staging bearing settled newFree done succeeded dirty
          was).mpr (complete.untouched dirty text was)
    · intro text was unborne
      exact (former_missed_iff linked staging bearing settled oldFree done succeeded after was
        unborne).mpr (complete.former text was unborne)

omit [DecidableEq NameBucket] [DecidableEq IndexBucket] in
theorem never_hidden_iff
    (linked : Linked platform.hash before.objects before.next before.store)
    (filed : WorldFiled platform before)
    (staging : Staging platform before hndl strings world)
    (bearing : Bearing platform before hndl strings world)
    (settled : Settled (before.objects hndl.iface))
    (oldFree : Free before hndl (stringsOf (before.objects hndl.iface)))
    (newFree : Free before hndl strings) :
    NeverHidden (answers platform world) hndl.iface (stringsOf (before.objects hndl.iface))
        strings ↔
      SameBuckets platform before hndl (stringsOf (before.objects hndl.iface)) strings := by
  have name := name_accepted_iff filed staging bearing settled oldFree newFree
  constructor
  · intro never
    constructor
    · exact name.mp never.name
    · intro old new was is
      exact (alias_accepted_iff linked filed staging bearing settled oldFree newFree was is).mp
        (never.ifalias old new was is)
  · intro same
    constructor
    · exact name.mpr same.name
    · intro old new was is
      exact (alias_accepted_iff linked filed staging bearing settled oldFree newFree was is).mpr
        (same.ifalias old new was is)

/-- In every reachable store, sets of the name and alias of a settled interface hide it from
no lookup exactly where the strings they stage share the buckets of the applied ones and the
walks meet no alias that cannot be read; after a successful apply, exactly where the walks
meet none. -/
theorem staging_hides_nothing_iff (reports : KernelReports platform.kernel) {objects : Objects}
    {kernel : Kstate} {log edits : List (Op × Ret)}
    (run : Run (machine platform) (storeInit objects kernel) log before)
    (enrolled : hndl ∈ before.store.ifaces) (settled : Settled (before.objects hndl.iface))
    (staging : Run ((machine platform).given (stringEdit hndl.iface)) before edits world)
    (oldFree : Free before hndl (stringsOf (before.objects hndl.iface)))
    (newFree : Free before hndl (stagedStrings (stringsOf (before.objects hndl.iface)) edits)) :
    (NeverHidden (answers platform world) hndl.iface (stringsOf (before.objects hndl.iface))
        (stagedStrings (stringsOf (before.objects hndl.iface)) edits) ↔
      SameBuckets platform before hndl (stringsOf (before.objects hndl.iface))
        (stagedStrings (stringsOf (before.objects hndl.iface)) edits)) ∧
    ∀ ret next, ifaceApply platform hndl.iface world = .ok (ret, next) → 0 ≤ ret →
      (Refiled (answers platform next) hndl.iface (stringsOf (before.objects hndl.iface))
          (stagedStrings (stringsOf (before.objects hndl.iface)) edits) ↔
        WalksComplete platform before hndl (stringsOf (before.objects hndl.iface))
          (stagedStrings (stringsOf (before.objects hndl.iface)) edits)
          (world.objects hndl.iface).dirtyFields) := by
  obtain ⟨kept, filed⟩ := run_filed reports run
  have staged := staging_run reports kept filed settled.1 staging
  have bearing := staged.bearing kept.linked enrolled
  refine ⟨never_hidden_iff kept.linked filed staged bearing settled oldFree newFree, ?_⟩
  intro ret next done succeeded
  exact refiled_iff kept.linked filed staged bearing settled oldFree newFree done succeeded

end Runs

def nameOr : CString := ⟨[0x6f, 0x72], by decide⟩

def argOr : StrArg := ⟨nameOr, IFNAMSIZ, by decide⟩

def realiasOr : Op := .set (.ifalias (some nameOr)) 0

theorem free_alone {Kstate : Type} {before : CodeWorld Kstate} {hndl : Hndl}
    (alone : before.store.ifaces = [hndl]) (strings : Strings) : Free before hndl strings := by
  intro text _ other there different
  rw [alone] at there
  exact absurd (List.mem_singleton.mp there) different

/-- Behind the interface "a", on the chain of its alias, "b" waits for the removal of its own. -/
def removalBehind : CodeWorld Unit :=
  [Op.newLink collidingLink, .newLink firstLink, .set (.ifalias none) 0].foldl
    (fun world op => (machine oneLinkPlatform).after op world) oneLinkInit

def renamedBefore : CodeWorld Unit :=
  (machine oneLinkPlatform).after (.set (.name argOr) 2) removalBehind

/-- A rename within the bucket of the old name hides nothing, staged or applied. -/
theorem kept_bucket_never_hidden :
    Run (machine oneLinkPlatform) oneLinkInit
      [(.newLink collidingLink, .code 0), (.newLink firstLink, .code 0),
        (.set (.ifalias none) 0, .code 0)] removalBehind ∧
    Run ((machine oneLinkPlatform).given (stringEdit 2)) removalBehind
      [(.set (.name argOr) 2, .code 0)] renamedBefore ∧
    NeverHidden (answers oneLinkPlatform renamedBefore) 2 ⟨nameA, some nameAB⟩
      ⟨nameOr, some nameAB⟩ ∧
    ∃ next, ifaceApply oneLinkPlatform 2 renamedBefore = .ok (1, next) ∧
      Refiled (answers oneLinkPlatform next) 2 ⟨nameA, some nameAB⟩ ⟨nameOr, some nameAB⟩ := by
  have second := (Run.start : Run (machine oneLinkPlatform) oneLinkInit [] oneLinkInit).extend
    (.newLink collidingLink) (.code 0) ⟨colliding_link_reported, by decide⟩ rfl
  have both := second.extend (.newLink firstLink) (.code 0) ⟨first_link_reported, by decide⟩ rfl
  have removed : Run (machine oneLinkPlatform) oneLinkInit _ removalBehind :=
    both.extend (.set (.ifalias none) 0) (.code 0)
      ⟨(by decide : linkValidateAlias none ≥ 0), ⟨1, 0⟩, by decide, rfl⟩ rfl
  have staged : Run ((machine oneLinkPlatform).given (stringEdit 2)) removalBehind _
      renamedBefore :=
    (Run.start : Run ((machine oneLinkPlatform).given (stringEdit 2)) removalBehind []
      removalBehind).extend (.set (.name argOr) 2) (.code 0)
      ⟨⟨(by decide : linkValidateName nameOr > 0), ⟨3, 2⟩, by decide, rfl⟩, rfl⟩ rfl
  have ifaces : removalBehind.store.ifaces = [⟨1, 0⟩, ⟨3, 2⟩] := rfl
  -- "b" is the only other interface and bears no alias
  have free : ∀ strings : Strings, strings.name ≠ nameB → strings.ifalias ≠ some nameB →
      Free removalBehind ⟨3, 2⟩ strings := by
    intro strings unnamed unaliased text has other there different
    rw [ifaces] at there
    rcases List.mem_cons.mp there with rfl | there
    · have bears : storeMatchIfaceBystrid (removalBehind.objects 0) text =
          if text = nameB then .ok true else .ok false := rfl
      rw [bears, if_neg]
      · simp
      · rintro rfl
        exact has.elim unnamed unaliased
    · exact absurd (List.mem_singleton.mp there) different
  have iff := staging_hides_nothing_iff one_link_kernel_reports removed
    (by decide : (⟨3, 2⟩ : Hndl) ∈ _) ⟨by decide, by decide, by decide⟩ staged
    (free _ (by decide) (by decide)) (free _ (by decide) (by decide))
  have reached : Reached removalBehind.objects ⟨3, 2⟩
      (removalBehind.store.aliash (djb2Hashing.str nameAB)) :=
    ⟨[], [⟨1, 0⟩], rfl, fun other there => nomatch there⟩
  refine ⟨removed, staged, iff.1.mpr ⟨by decide, ?_⟩, _, rfl, (iff.2 1 _ rfl (by decide)).mpr ?_⟩
  · intro old new was is
    cases was
    cases is
    exact ⟨rfl, reached, fun different => absurd rfl different⟩
  · constructor
    · intro _ text was
      cases was
      exact reached
    · intro text was unborne
      exact absurd was unborne

theorem staged_alias_hides :
    ∃ before world, Run (machine (flakyPlatform aliasedLink)) flakyInit
        [(.load, .code 0)] before ∧
      before.store.ifaces = [⟨1, 0⟩] ∧ Settled (before.objects 0) ∧
      stringsOf (before.objects 0) = ⟨nameA, some nameB⟩ ∧
      Run ((machine (flakyPlatform aliasedLink)).given (stringEdit 0)) before
        [(realiasOr, .code 0)] world ∧
      stagedStrings ⟨nameA, some nameB⟩ [(realiasOr, .code 0)] = ⟨nameA, some nameOr⟩ ∧
      (∀ strings, Free before ⟨1, 0⟩ strings) ∧
      ¬ NeverHidden (answers (flakyPlatform aliasedLink) world) 0 ⟨nameA, some nameB⟩
        ⟨nameA, some nameOr⟩ := by
  have loaded :=
    (Run.start : Run (machine (flakyPlatform aliasedLink)) flakyInit [] flakyInit).extend
      .load (.code 0) rfl rfl
  have staged := (Run.start : Run ((machine (flakyPlatform aliasedLink)).given (stringEdit 0))
    _ [] ((machine (flakyPlatform aliasedLink)).after .load flakyInit)).extend realiasOr (.code 0)
      ⟨⟨(by decide : linkValidateAlias (some nameOr) ≥ 0), ⟨1, 0⟩, by decide, rfl⟩, rfl⟩
      rfl
  refine ⟨_, _, loaded, rfl, ⟨by decide, by decide, by decide⟩, rfl, staged, rfl,
    free_alone rfl, ?_⟩
  intro never
  obtain ⟨text, ⟨which, found, accepted⟩, _⟩ := (never.ifalias nameB nameOr rfl rfl).one
  rcases which with rfl | rfl
  · cases accepted
  · cases accepted

end Nlif.StagedLookup
