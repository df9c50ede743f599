import Nlif.StoreLookup

/-!
# One interface to a string

Registration compares a candidate's name with the names and aliases of the
interfaces on one chain of the name index, and its alias with those on one chain
of the alias index. A name that is another interface's alias, or an alias that is
another one's name, is seen only where that interface happens to be on the
walked chain. Runs of enrolments whose conflicts are all seen give every string
to one interface at most.
-/

namespace Nlif.StoreIdentity

open LinkModel IfaceModel FaultWalk BucketTable StoreModel GateModel GateSpec StoreInvariant
  LabelledRun LibraryRun StoreLookup

set_option autoImplicit false

variable {NameBucket IndexBucket Kstate : Type}

def AnswersTo (interface : Iface) (strid : CString) : Prop :=
  interface.name = strid ∨ interface.ifalias.map HeapStr.text = some strid

def OwnDiffer (interface : Iface) : Prop :=
  interface.ifalias.map HeapStr.text ≠ some interface.name

theorem match_false_silent {interface : Iface} {strid : CString}
    (silent : storeMatchIfaceBystrid interface strid = .ok false) :
    ¬ AnswersTo interface strid := by
  obtain ⟨notName, notAlias⟩ := (store_match_false_iff ..).mp silent
  rintro (named | aliased)
  · exact notName named.symm
  · obtain ⟨pointer, held, same⟩ := Option.map_eq_some_iff.mp aliased
    exact (notAlias pointer held).2 same.symm

/-- Every enrolled interface is on the chains of its own name and alias, reads
safely and does not answer to one string twice. -/
structure Rooted (hash : Hashing NameBucket IndexBucket) (objects : Objects)
    (store : Store NameBucket IndexBucket) : Prop where
  names : Keyed hash.str (fun hndl => some (some (objects hndl.iface).name)) store.ifaces
    store.nameh
  aliases : Keyed hash.str
    (fun hndl => some ((objects hndl.iface).ifalias.map HeapStr.text)) store.ifaces store.aliash
  live : ∀ hndl ∈ store.ifaces, ∀ pointer, (objects hndl.iface).ifalias = some pointer →
    pointer.live = true
  own : ∀ hndl ∈ store.ifaces, OwnDiffer (objects hndl.iface)

instance (interface : Iface) (strid : CString) : Decidable (AnswersTo interface strid) :=
  inferInstanceAs (Decidable (_ ∨ _))

/-- At most one enrolled interface answers to a string. -/
def Unique (objects : Objects) (store : Store NameBucket IndexBucket) : Prop :=
  ∀ strid, ∀ left ∈ store.ifaces, ∀ right ∈ store.ifaces,
    AnswersTo (objects left.iface) strid → AnswersTo (objects right.iface) strid → left = right

/-- Some enrolled interface answers to one of the candidate's strings. -/
def Clash (objects : Objects) (store : Store NameBucket IndexBucket) (name : CString)
    (ifalias : Option CString) : Prop :=
  ∃ hndl ∈ store.ifaces, AnswersTo (objects hndl.iface) name ∨
    ∃ text, ifalias = some text ∧ AnswersTo (objects hndl.iface) text

/-- The interface has the candidate's index, answers to its name under a name of the same
hash, or answers to its alias under an alias of the same hash. -/
def Visible (hash : Hashing NameBucket IndexBucket) (interface : Iface) (index : UInt32)
    (name : CString) (ifalias : Option CString) : Prop :=
  interface.idx = index ∨
  (hash.str interface.name = hash.str name ∧ AnswersTo interface name) ∨
  ∃ text held, ifalias = some text ∧ interface.ifalias.map HeapStr.text = some held ∧
    hash.str held = hash.str text ∧ AnswersTo interface text

/-- Some enrolled interface is a visible reason to refuse the candidate. -/
def Barred (hash : Hashing NameBucket IndexBucket) (objects : Objects)
    (store : Store NameBucket IndexBucket) (index : UInt32) (name : CString)
    (ifalias : Option CString) : Prop :=
  ∃ hndl ∈ store.ifaces, Visible hash (objects hndl.iface) index name ifalias

/-- A candidate that clashes with an enrolled interface is barred by one. -/
def Seen (hash : Hashing NameBucket IndexBucket) (objects : Objects)
    (store : Store NameBucket IndexBucket) (index : UInt32) (name : CString)
    (ifalias : Option CString) : Prop :=
  Clash objects store name ifalias → Barred hash objects store index name ifalias

section Objects

variable {hash : Hashing NameBucket IndexBucket} {objects later : Objects} {bound : Addr}
  {store : Store NameBucket IndexBucket}

theorem rooted_reinit (hash : Hashing NameBucket IndexBucket) (objects : Objects) :
    Rooted hash objects storeReinit :=
  ⟨keyed_nil _ _ _, keyed_nil _ _ _, by simp [storeReinit], by simp [storeReinit]⟩

theorem Rooted.congr (rooted : Rooted hash objects store)
    (agree : ∀ hndl ∈ store.ifaces, later hndl.iface = objects hndl.iface) :
    Rooted hash later store where
  names := rooted.names.ease fun hndl member => .inr (by rw [agree hndl member])
  aliases := rooted.aliases.ease fun hndl member => .inr (by rw [agree hndl member])
  live hndl member := by
    rw [agree hndl member]
    exact rooted.live hndl member
  own hndl member := by
    rw [agree hndl member]
    exact rooted.own hndl member

theorem Unique.congr (unique : Unique objects store)
    (agree : ∀ hndl ∈ store.ifaces, later hndl.iface = objects hndl.iface) :
    Unique later store := by
  intro strid left leftMember right rightMember
  rw [agree left leftMember, agree right rightMember]
  exact unique strid left leftMember right rightMember

theorem match_live {interface : Iface}
    (live : ∀ pointer, interface.ifalias = some pointer → pointer.live = true) (strid : CString) :
    storeMatchIfaceBystrid interface strid = .ok (decide (AnswersTo interface strid)) := by
  unfold storeMatchIfaceBystrid AnswersTo
  by_cases named : strid = interface.name
  · simp [named]
  · rw [if_neg named]
    obtain held | ⟨⟨text, readable⟩, held⟩ := Option.eq_none_or_eq_some interface.ifalias
    · simp [named, held, eq_comm]
    · cases live _ held
      simp [named, held, HeapStr.read, eq_comm]

theorem walk_live {chain : List Hndl}
    (live : ∀ hndl ∈ chain, ∀ pointer, (objects hndl.iface).ifalias = some pointer →
      pointer.live = true) (strid : CString) :
    answersIn objects strid chain =
      .ok (decide (∃ hndl ∈ chain, AnswersTo (objects hndl.iface) strid)) := by
  have walked := any_hit_total (fun hndl => storeMatchIfaceBystrid (objects hndl.iface) strid)
    (fun hndl => decide (AnswersTo (objects hndl.iface) strid)) chain
    fun hndl chained => match_live (live hndl chained) strid
  rw [answersIn, walked, List.decide_exists_mem]

theorem Rooted.named_iff (rooted : Rooted hash objects store)
    (linked : Linked hash objects bound store) (hndl : Hndl) (bucket : NameBucket) :
    hndl ∈ store.nameh bucket ↔
      hndl ∈ store.ifaces ∧ hash.str (objects hndl.iface).name = bucket := by
  constructor
  · intro chained
    have enrolled := linked.nameh.registered _ hndl chained
    exact ⟨enrolled, linked.nameh.once hndl _ _ (rooted.names.home hndl enrolled _ rfl) chained⟩
  · rintro ⟨enrolled, rfl⟩
    exact rooted.names.home hndl enrolled _ rfl

theorem Rooted.aliased_iff (rooted : Rooted hash objects store)
    (linked : Linked hash objects bound store) (hndl : Hndl) (bucket : NameBucket) :
    hndl ∈ store.aliash bucket ↔ hndl ∈ store.ifaces ∧
      ∃ held, (objects hndl.iface).ifalias.map HeapStr.text = some held ∧
        hash.str held = bucket := by
  constructor
  · intro chained
    have enrolled := linked.aliash.registered _ hndl chained
    cases there : (objects hndl.iface).ifalias.map HeapStr.text with
    | none => exact absurd chained (rooted.aliases.absent hndl enrolled (by rw [there]) _)
    | some held =>
        have home := rooted.aliases.home hndl enrolled held (by rw [there])
        exact ⟨enrolled, held, rfl, linked.aliash.once hndl _ _ home chained⟩
  · rintro ⟨enrolled, held, there, rfl⟩
    exact rooted.aliases.home hndl enrolled held (by rw [there])

/-- What bars a candidate is what the three walks of its registration meet. -/
theorem Rooted.barred_iff (rooted : Rooted hash objects store)
    (linked : Linked hash objects bound store) (index : UInt32) (name : CString)
    (ifalias : Option CString) :
    Barred hash objects store index name ifalias ↔
      (∃ hndl ∈ store.nameh (hash.str name), AnswersTo (objects hndl.iface) name) ∨
      (∃ hndl ∈ store.ifaces, (objects hndl.iface).idx = index) ∨
      ∃ text, ifalias = some text ∧
        ∃ hndl ∈ store.aliash (hash.str text), AnswersTo (objects hndl.iface) text := by
  simp only [rooted.named_iff linked, rooted.aliased_iff linked]
  constructor
  · rintro ⟨hndl, member, same | ⟨hashed, answers⟩ | ⟨text, held, given, there, hashed, answers⟩⟩
    · exact .inr (.inl ⟨hndl, member, same⟩)
    · exact .inl ⟨hndl, ⟨member, hashed⟩, answers⟩
    · exact .inr (.inr ⟨text, given, hndl, ⟨member, held, there, hashed⟩, answers⟩)
  · rintro (⟨hndl, ⟨member, hashed⟩, answers⟩ | ⟨hndl, member, same⟩ |
      ⟨text, given, hndl, ⟨member, held, there, hashed⟩, answers⟩)
    · exact ⟨hndl, member, .inr (.inl ⟨hashed, answers⟩)⟩
    · exact ⟨hndl, member, .inl same⟩
    · exact ⟨hndl, member, .inr (.inr ⟨text, held, given, there, hashed, answers⟩)⟩

theorem Rooted.free_unbarred (rooted : Rooted hash objects store)
    (linked : Linked hash objects bound store) {index : UInt32} {name : CString}
    {ifalias : Option CString} (free : MayEnroll hash objects store index name ifalias) :
    ¬ Barred hash objects store index name ifalias := by
  rw [rooted.barred_iff linked]
  rintro (⟨hndl, chained, answers⟩ | ⟨hndl, member, same⟩ | ⟨text, given, hndl, chained, answers⟩)
  · exact match_false_silent ((answers_in_false_iff ..).mp free.name hndl chained) answers
  · exact (linked.search_none_iff index).mp free.index hndl member same
  · exact match_false_silent ((answers_in_false_iff ..).mp (free.ifalias text given) hndl chained)
      answers

section Enrol

variable [DecidableEq NameBucket] [DecidableEq IndexBucket]

theorem Rooted.enroll (rooted : Rooted hash objects store) (unique : Unique objects store)
    {hndl : Hndl} (nameOff : Off hndl store.nameh) (aliasOff : Off hndl store.aliash)
    (fresh : hndl ∉ store.ifaces) (own : OwnDiffer (objects hndl.iface))
    (live : ∀ pointer, (objects hndl.iface).ifalias = some pointer → pointer.live = true)
    (clear : ¬ Clash objects store (objects hndl.iface).name
      ((objects hndl.iface).ifalias.map HeapStr.text)) (indexBucket : IndexBucket) :
    let after := storeCreatenEnrollIfaceHndl store hndl indexBucket
      (hash.str (objects hndl.iface).name)
      ((objects hndl.iface).ifalias.map fun pointer => hash.str pointer.text)
    Rooted hash objects after ∧ Unique objects after := by
  intro after
  have included : ∀ other ∈ after.ifaces, other = hndl ∨ other ∈ store.ifaces := by
    intro other there
    simpa [after, storeCreatenEnrollIfaceHndl, or_comm] using there
  have nameUnlinked := del_unlinked hndl store.nameh nameOff
  have aliasUnlinked := del_unlinked hndl store.aliash aliasOff
  have apart : ∀ other ∈ store.ifaces, ∀ strid, AnswersTo (objects hndl.iface) strid →
      ¬ AnswersTo (objects other.iface) strid := by
    rintro other member strid (rfl | aliased) answers
    · exact clear ⟨other, member, .inl answers⟩
    · exact clear ⟨other, member, .inr ⟨strid, aliased, answers⟩⟩
  refine ⟨⟨?_, ?_, fun other there => ?_, fun other there => ?_⟩, ?_⟩
  · have free : ∀ other ∈ store.ifaces, other ≠ hndl →
        some (some (objects other.iface).name) ≠ some (some (objects hndl.iface).name) :=
      fun other member _ same => apart other member _ (.inl rfl)
        (.inl (Option.some.inj (Option.some.inj same)))
    have placed := rooted.names.place hndl _ included (fun _ _ _ => rfl) (.inr rfl) free
    rw [nameUnlinked] at placed
    exact placed
  · rcases text : (objects hndl.iface).ifalias with _ | pointer
    · have dropped := rooted.aliases.drop hndl included (fun _ _ _ => rfl) fun _ => .inr
        (by rw [text]; rfl)
      rw [aliasUnlinked] at dropped
      simpa only [after, storeCreatenEnrollIfaceHndl, text, Option.map_none] using dropped
    · have free : ∀ other ∈ store.ifaces, other ≠ hndl →
          some ((objects other.iface).ifalias.map HeapStr.text) ≠ some (some pointer.text) :=
        fun other member _ same => apart other member pointer.text (.inr (by rw [text]; rfl))
          (.inr (Option.some.inj same))
      have placed := rooted.aliases.place hndl pointer.text included (fun _ _ _ => rfl)
        (.inr (by rw [text]; rfl)) free
      rw [aliasUnlinked] at placed
      simpa only [after, storeCreatenEnrollIfaceHndl, text, Option.map_some] using placed
  · rcases included other there with rfl | old
    · exact live
    · exact rooted.live other old
  · rcases included other there with rfl | old
    · exact own
    · exact rooted.own other old
  · intro strid left leftThere right rightThere leftAnswers rightAnswers
    rcases included left leftThere with rfl | oldLeft
    · rcases included right rightThere with rfl | oldRight
      · rfl
      · exact absurd rightAnswers (apart right oldRight strid leftAnswers)
    · rcases included right rightThere with rfl | oldRight
      · exact absurd leftAnswers (apart left oldLeft strid rightAnswers)
      · exact unique strid left oldLeft right oldRight leftAnswers rightAnswers

end Enrol

theorem Unique.alias_free (unique : Unique objects store) (rooted : Rooted hash objects store)
    {hndl : Hndl} (member : hndl ∈ store.ifaces) {strid : CString}
    (aliased : (objects hndl.iface).ifalias.map HeapStr.text = some strid) :
    ∀ other ∈ store.ifaces, (objects other.iface).name ≠ strid := by
  rintro other there rfl
  obtain rfl := unique _ other there hndl member (.inl rfl) (.inr aliased)
  exact rooted.own other there aliased

theorem find_byname_rooted (linked : Linked hash objects bound store)
    (rooted : Rooted hash objects store) {hndl : Hndl} (member : hndl ∈ store.ifaces) :
    storeSearchIfaceByname objects store (hash.str (objects hndl.iface).name)
      (objects hndl.iface).name = some hndl.iface := by
  have home := rooted.names.home hndl member _ rfl
  obtain ⟨found, chained, searched, same⟩ := search_byname_hits objects home
  have enrolled := linked.nameh.registered _ found chained
  rw [searched, rooted.names.once found enrolled hndl member _ rfl (by rw [same])]

theorem find_byalias_rooted (linked : Linked hash objects bound store)
    (rooted : Rooted hash objects store) {hndl : Hndl} (member : hndl ∈ store.ifaces)
    {pointer : HeapStr} (held : (objects hndl.iface).ifalias = some pointer) :
    storeSearchIfaceByalias objects store (hash.str pointer.text) pointer.text =
      .ok (some hndl.iface) := by
  have key : some ((objects hndl.iface).ifalias.map HeapStr.text) = some (some pointer.text) := by
    rw [held]
    rfl
  have home := rooted.aliases.home hndl member _ key
  obtain ⟨stop, chained, outcome⟩ :=
    search_byalias_stops home held (rooted.live hndl member pointer held)
  have enrolled := linked.aliash.registered _ stop chained
  cases outcome with
  | inl answered =>
      have stopKey : some ((objects stop.iface).ifalias.map HeapStr.text) =
          some (some pointer.text) := congrArg some answered.1
      rw [answered.2, rooted.aliases.once stop enrolled hndl member _ stopKey key]
  | inr unreadable =>
      -- every handle of the chain has a live alias, so the walk cannot fault
      cases there : (objects stop.iface).ifalias with
      | none => exact absurd chained (rooted.aliases.absent stop enrolled (by rw [there]; rfl) _)
      | some string =>
          have live := rooted.live stop enrolled string there
          rw [unreadable.1 string there] at live
          cases live

/-- What the string lookup owes to a string: the one interface that answers to it. -/
structure Identified (hash : Hashing NameBucket IndexBucket) (objects : Objects)
    (store : Store NameBucket IndexBucket) : Prop where
  unique : Unique objects store
  found : ∀ strid, ∀ hndl ∈ store.ifaces, AnswersTo (objects hndl.iface) strid →
    storeFindIfaceBystrid hash objects store strid = .ok (some hndl.iface)
  only : ∀ strid interface,
    storeFindIfaceBystrid hash objects store strid = .ok (some interface) →
      ∃ hndl ∈ store.ifaces, hndl.iface = interface ∧ AnswersTo (objects interface) strid

theorem rooted_identified (linked : Linked hash objects bound store)
    (rooted : Rooted hash objects store) (unique : Unique objects store) :
    Identified hash objects store where
  unique := unique
  found strid hndl member answers := by
    unfold storeFindIfaceBystrid
    rcases answers with rfl | aliased
    · simp only [(linked.sound hndl member).name, if_true, find_byname_rooted linked rooted member]
    · obtain ⟨pointer, held, rfl⟩ := Option.map_eq_some_iff.mp aliased
      have missed : storeSearchIfaceByname objects store (hash.str pointer.text) pointer.text =
          none := by
        unfold storeSearchIfaceByname
        rw [Option.map_eq_none_iff, List.find?_eq_none]
        intro other chained
        have enrolled := linked.nameh.registered _ other chained
        simpa using (unique.alias_free rooted member aliased other enrolled).symm
      have byname : (if linkValidateName pointer.text > 0 then
          storeSearchIfaceByname objects store (hash.str pointer.text) pointer.text else none) =
          none := by
        rw [missed]
        exact ite_self none
      simp only [byname, (linked.sound hndl member).ifalias pointer held, if_true,
        find_byalias_rooted linked rooted member held]
  only strid interface found := by
    unfold storeFindIfaceBystrid at found
    simp only at found
    split at found
    · rename_i other named
      cases found
      obtain ⟨hndl, member, same, answers⟩ := find_byname_some linked named
      exact ⟨hndl, member, same, .inl answers⟩
    · obtain ⟨hndl, member, same, answers⟩ := find_byalias_some linked found
      exact ⟨hndl, member, same, .inr answers⟩

end Objects

section Runs

variable [DecidableEq NameBucket] [DecidableEq IndexBucket]
  {platform : Platform NameBucket IndexBucket Kstate}
  {world next : World NameBucket IndexBucket Kstate}

/-- Enrolments of interfaces whose own name and alias differ and loads of links,
each with a clash that is seen or none, and lookups. -/
def clashSeen (platform : Platform NameBucket IndexBucket Kstate)
    (world : World NameBucket IndexBucket Kstate) : Op → Prop
  | .enroll interface =>
      OwnDiffer (world.objects interface) ∧
      Seen platform.hash world.objects world.store (world.objects interface).idx
        (world.objects interface).name ((world.objects interface).ifalias.map HeapStr.text)
  | .newLink link =>
      Seen platform.hash world.objects world.store link.ifiIndex link.ifname link.heldAlias
  | .create _ | .findByname _ | .findByalias _ | .findBystrid _ | .findByindex _ => True
  | .withdraw _ | .clear | .load | .reload | .set _ _ | .coherent _ | .apply _ | .ifaceReload _
  | .notify _ => False

structure OneToOne (platform : Platform NameBucket IndexBucket Kstate)
    (world : World NameBucket IndexBucket Kstate) : Prop where
  kept : Kept platform world
  rooted : Rooted platform.hash world.objects world.store
  unique : Unique world.objects world.store

theorem enroll_one_to_one (oneToOne : OneToOne platform world) {interface : Addr} {ret : Int}
    (known : interface < world.next) (sound : Sound (world.objects interface))
    (own : OwnDiffer (world.objects interface))
    (seen : Seen platform.hash world.objects world.store (world.objects interface).idx
      (world.objects interface).name ((world.objects interface).ifalias.map HeapStr.text))
    (done : storeEnroll platform interface world = .ok (ret, next)) :
    OneToOne platform next := by
  have kept := enroll_kept oneToOne.kept known sound done
  have linked := oneToOne.kept.linked
  have absent : (⟨world.next, interface⟩ : Hndl) ∉ world.store.ifaces :=
    fun member => Nat.lt_irrefl _ (linked.allocated _ member).1
  unfold storeEnroll at done
  obtain ⟨⟨enrollRet, store⟩, enrolled, done⟩ := (bind_ok_iff ..).mp done
  rcases store_enroll_iface_ok enrolled with ⟨rfl, rfl⟩ | ⟨rfl, live, free, rfl⟩
  · simp only [EEXIST, ne_eq, Int.reduceNeg, Int.reduceEq, not_false_eq_true, if_true] at done
    cases done
    exact oneToOne
  · simp only [ne_eq, not_true_eq_false, if_false] at done
    cases done
    have after := oneToOne.rooted.enroll oneToOne.unique (linked.nameh.off_of_not_mem absent)
      (linked.aliash.off_of_not_mem absent) absent own live
      (fun clash => oneToOne.rooted.free_unbarred linked free (seen clash))
      (platform.hash.index (world.objects interface).idx)
    exact ⟨kept, after.1, after.2⟩

theorem new_link_one_to_one (oneToOne : OneToOne platform world) {link : GetlinkRsp} {ret : Int}
    (reported : Reported link) (accepted : gateIslinkValid link = 0)
    (seen : Seen platform.hash world.objects world.store link.ifiIndex link.ifname link.heldAlias)
    (done : gateNotify platform noObservers (.new link) world = .ok (ret, next)) :
    OneToOne platform next := by
  have kept := new_link_kept oneToOne.kept reported done
  have linked := oneToOne.kept.linked
  simp only [gateNotify, oneToOne.kept.subscribed, if_true, storeOnEvent, bind_ok_iff] at done
  obtain ⟨_, ⟨after, new, same⟩, done⟩ := done
  cases same
  cases done
  rcases store_on_new_iface_ok new with rfl | ⟨free, rfl⟩
  · exact ⟨kept, oneToOne.rooted, oneToOne.unique⟩
  · have agree := linked.fresh (ifaceFill link)
    have created := linked.create (ifaceFill link)
    have self : Function.update world.objects world.next (ifaceFill link) world.next =
        ifaceFill link := Function.update_self ..
    have absent : (⟨world.next + 1, world.next⟩ : Hndl) ∉ world.store.ifaces :=
      fun member => Nat.lt_irrefl _ (created.allocated _ member).1
    have own : OwnDiffer (ifaceFill link) := by
      unfold OwnDiffer
      rw [fill_alias_text]
      intro same
      exact (gate_islink_valid_iff link).mp accepted (Option.filter_eq_some_iff.mp same).1
    have clear : ¬ Clash (Function.update world.objects world.next (ifaceFill link)) world.store
        (ifaceFill link).name ((ifaceFill link).ifalias.map HeapStr.text) := by
      rintro ⟨hndl, member, answers⟩
      rw [agree hndl member, fill_alias_text] at answers
      exact oneToOne.rooted.free_unbarred linked free (seen ⟨hndl, member, answers⟩)
    have after := (oneToOne.rooted.congr agree).enroll (oneToOne.unique.congr agree)
      (created.nameh.off_of_not_mem absent) (created.aliash.off_of_not_mem absent) absent
      (by rw [self]; exact own) (by rw [self]; exact (held_fill link).ifalias)
      (by rw [self]; exact clear)
      (platform.hash.index (Function.update world.objects world.next (ifaceFill link)
        world.next).idx)
    rw [store_enroll_link_eq] at kept ⊢
    exact ⟨kept, after.1, after.2⟩

theorem step_one_to_one (oneToOne : OneToOne platform world) {op : Op} {answer : Ret}
    (admitted : admits world op) (seen : clashSeen platform world op)
    (stepped : step platform op world = .ok (answer, next)) : OneToOne platform next := by
  cases op with
  | create object =>
      cases stepped
      have agree := oneToOne.kept.linked.fresh object
      exact ⟨create_kept oneToOne.kept object, oneToOne.rooted.congr agree,
        oneToOne.unique.congr agree⟩
  | enroll interface =>
      obtain ⟨⟨ret, after⟩, done, same⟩ := (map_ok_iff ..).mp stepped
      cases same
      exact enroll_one_to_one oneToOne admitted.1 admitted.2 seen.1 seen.2 done
  | newLink link =>
      obtain ⟨⟨ret, after⟩, done, same⟩ := (map_ok_iff ..).mp stepped
      cases same
      exact new_link_one_to_one oneToOne admitted.1 admitted.2 seen done
  | findByname name | findByindex index =>
      cases stepped
      exact oneToOne
  | findByalias ifalias | findBystrid strid =>
      obtain ⟨_, _, same⟩ := (map_ok_iff ..).mp stepped
      cases same
      exact oneToOne
  | withdraw _ | clear | load | reload | set _ _ | coherent _ | apply _ | ifaceReload _
  | notify _ => exact seen.elim

/-- A candidate whose alias can be read is refused where an enrolled interface bars it, and
nowhere else. -/
theorem enroll_refused_iff (oneToOne : OneToOne platform world) {interface : Addr}
    (live : ∀ pointer, (world.objects interface).ifalias = some pointer → pointer.live = true) :
    storeEnroll platform interface world = .ok (-EEXIST, world) ↔
      Barred platform.hash world.objects world.store (world.objects interface).idx
        (world.objects interface).name
        ((world.objects interface).ifalias.map HeapStr.text) := by
  have linked := oneToOne.kept.linked
  have rooted := oneToOne.rooted
  have nameWalk := walk_live
    (fun hndl (chained : hndl ∈ world.store.nameh (platform.hash.str
        (world.objects interface).name)) =>
      rooted.live hndl (linked.nameh.registered _ hndl chained)) (world.objects interface).name
  rw [rooted.barred_iff linked]
  unfold storeEnroll storeEnrollIface storeMayRegisterIfaceName storeMayRegisterIfaceIndex
  simp only [nameWalk, map_ok, ok_bind]
  by_cases named : ∃ hndl ∈ world.store.nameh (platform.hash.str (world.objects interface).name),
      AnswersTo (world.objects hndl.iface) (world.objects interface).name
  · simp [named, EEXIST]
  cases searched : storeSearchIfaceHndlByindex platform.hash world.objects world.store
      (world.objects interface).idx with
  | some hndl =>
      obtain ⟨member, same⟩ := linked.search_some searched
      have indexed : ∃ hndl ∈ world.store.ifaces,
          (world.objects hndl.iface).idx = (world.objects interface).idx := ⟨hndl, member, same⟩
      simp [named, indexed, EEXIST]
  | none =>
      have unindexed : ¬ ∃ hndl ∈ world.store.ifaces,
          (world.objects hndl.iface).idx = (world.objects interface).idx := by
        rintro ⟨hndl, member, same⟩
        exact (linked.search_none_iff _).mp searched hndl member same
      obtain held | ⟨⟨text, readable⟩, held⟩ :=
        Option.eq_none_or_eq_some (world.objects interface).ifalias
      · simp [named, unindexed, held, EEXIST]
      · cases live _ held
        have aliasWalk := walk_live
          (fun hndl (chained : hndl ∈ world.store.aliash (platform.hash.str text)) =>
            rooted.live hndl (linked.aliash.registered _ hndl chained)) text
        by_cases aliased : ∃ hndl ∈ world.store.aliash (platform.hash.str text),
            AnswersTo (world.objects hndl.iface) text
        · simp [named, unindexed, held, HeapStr.read, storeMayRegisterIfaceAlias, aliasWalk,
            aliased, EEXIST]
        · simp [named, unindexed, held, HeapStr.read, storeMayRegisterIfaceAlias, aliasWalk,
            aliased, EEXIST]

/-- In every run of enrolments and link loads whose clashes are all seen, a string
designates one interface at most and the string lookup returns it. A further enrolment is
refused exactly where an enrolled interface bars it. -/
theorem seen_runs_identify {objects : Objects} {kernel : Kstate} {log : List (Op × Ret)}
    (run : Run ((machine platform).given (clashSeen platform)) (storeInit objects kernel) log
      world) :
    Identified platform.hash world.objects world.store ∧
    ∀ interface, (∀ pointer, (world.objects interface).ifalias = some pointer →
        pointer.live = true) →
      (storeEnroll platform interface world = .ok (-EEXIST, world) ↔
        Barred platform.hash world.objects world.store (world.objects interface).idx
          (world.objects interface).name
          ((world.objects interface).ifalias.map HeapStr.text)) := by
  have initial : OneToOne platform (storeInit objects kernel) :=
    ⟨kept_init platform objects kernel, rooted_reinit _ _, by simp [Unique, storeInit, storeReinit]⟩
  have oneToOne : OneToOne platform world := by
    refine run_invariant (OneToOne platform) initial ?_ run
    intro state op answer after oneToOne admitted stepped
    exact step_one_to_one oneToOne admitted.1 admitted.2 stepped
  exact ⟨rooted_identified oneToOne.kept.linked oneToOne.rooted oneToOne.unique,
    fun interface live => enroll_refused_iff oneToOne live⟩

def likenessLink : GetlinkRsp := bareLink 1 nameAB (some nameBA)

/-- The second link is named as the alias of the first one and refused, the third one clashes
with nobody; a fourth one would be refused too. -/
theorem seen_clashes_identified :
    ∃ world, Run ((machine oneLinkPlatform).given (clashSeen oneLinkPlatform)) oneLinkInit
      [(.newLink likenessLink, .code 0), (.newLink (bareLink 2 nameBA none), .code 0),
        (.newLink (bareLink 3 nameC none), .code 0),
        (.create (ifaceFill (bareLink 4 nameBA none)), .object 4)] world ∧
      world.store.ifaces = [⟨1, 0⟩, ⟨3, 2⟩] ∧
      storeFindIfaceBystrid djb2Hashing world.objects world.store nameBA = .ok (some 0) ∧
      storeFindIfaceBystrid djb2Hashing world.objects world.store nameC = .ok (some 2) ∧
      storeEnroll oneLinkPlatform 4 world = .ok (-EEXIST, world) := by
  have first := (Run.start : Run ((machine oneLinkPlatform).given (clashSeen oneLinkPlatform))
    oneLinkInit [] oneLinkInit).extend (.newLink likenessLink) (.code 0)
    ⟨⟨⟨by constructor <;> decide, by decide⟩, by decide⟩, fun clash => by
      obtain ⟨hndl, member, _⟩ := clash
      cases member⟩ rfl
  have second := first.extend (.newLink (bareLink 2 nameBA none)) (.code 0)
    ⟨⟨⟨by constructor <;> decide, by decide⟩, by decide⟩, fun _ =>
      ⟨⟨1, 0⟩, by decide, .inr (.inl ⟨by decide, .inr (by decide)⟩)⟩⟩ rfl
  have third := second.extend (.newLink (bareLink 3 nameC none)) (.code 0)
    ⟨⟨⟨by constructor <;> decide, by decide⟩, by decide⟩, fun clash => by
      obtain ⟨hndl, member, answers | ⟨text, given, _⟩⟩ := clash
      · cases List.mem_singleton.mp member
        exact absurd answers (by decide)
      · cases given⟩ rfl
  have created := third.extend (.create (ifaceFill (bareLink 4 nameBA none))) (.object 4)
    ⟨sound_fill ⟨by constructor <;> decide, by decide⟩, trivial⟩ rfl
  have identified := seen_runs_identify created
  refine ⟨_, created, rfl, identified.1.found _ ⟨1, 0⟩ (by decide) (.inr (by decide)),
    identified.1.found _ ⟨3, 2⟩ (by decide) (.inl (by decide)), ?_⟩
  exact (identified.2 4 (by decide)).mpr
    ⟨⟨1, 0⟩, by decide, .inr (.inl ⟨by decide, .inr (by decide)⟩)⟩

def namesakeLink : GetlinkRsp := bareLink 2 nameB none

theorem unseen_clash_enrolled :
    ∃ world, Run (machine oneLinkPlatform) oneLinkInit
      [(.newLink aliasedLink, .code 0), (.newLink namesakeLink, .code 0)] world ∧
      ¬ Unique world.objects world.store := by
  have first := (Run.start : Run (machine oneLinkPlatform) oneLinkInit [] oneLinkInit).extend
    (.newLink aliasedLink) (.code 0) ⟨aliased_link_reported, by decide⟩ rfl
  have both := first.extend (.newLink namesakeLink) (.code 0)
    ⟨⟨by constructor <;> decide, by decide⟩, by decide⟩ rfl
  refine ⟨_, both, fun unique => ?_⟩
  have same := unique nameB ⟨1, 0⟩ (by decide) ⟨3, 2⟩ (by decide)
    (.inr (by decide)) (.inl (by decide))
  cases same

end Runs

end Nlif.StoreIdentity
