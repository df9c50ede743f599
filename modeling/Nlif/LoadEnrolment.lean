import Nlif.LibraryRun

/-!
# What a load enrolls

A load announces the dumped links one by one and the store enrolls each that
conflicts with none enrolled before. The conflict tests of the announcement and
those of `nlif_store_enroll_iface()` run in different orders, one on the link and
one on an interface object; on a store of freshly filled interfaces both decide
the same, `taken`.
-/

namespace Nlif.LoadEnrolment

open LinkModel IfaceModel FaultWalk BucketTable StoreModel GateModel GateSpec
open LibraryRun (store_enroll_link_eq fill_alias_text oneLink oneLinkPlatform oneLinkInit
  oneLinkKernel)

set_option autoImplicit false

def answers (link : GetlinkRsp) (strid : CString) : Bool :=
  strid = link.ifname || link.heldAlias = some strid

/-- The two links have a string in common, as name or alias. -/
def Conflicts (earlier link : GetlinkRsp) : Prop :=
  earlier.ifiIndex = link.ifiIndex ∨ answers earlier link.ifname = true ∨
    ∃ text, link.heldAlias = some text ∧ answers earlier text = true

def Shares (earlier link : GetlinkRsp) : Prop :=
  earlier.ifiIndex = link.ifiIndex ∨ earlier.ifname = link.ifname ∨
    ∃ text, earlier.heldAlias = some text ∧ link.heldAlias = some text

/-- The links of a dump that are enrolled: those the gate refuses are skipped, the
others are enrolled unless they conflict with one enrolled earlier. -/
inductive Selection : List GetlinkRsp → List GetlinkRsp → List GetlinkRsp → Prop
  | done (kept : List GetlinkRsp) : Selection kept [] kept
  | skipped {kept links final : List GetlinkRsp} {link : GetlinkRsp}
      (invalid : gateIslinkValid link ≠ 0) (rest : Selection kept links final) :
      Selection kept (link :: links) final
  | enrolled {kept links final : List GetlinkRsp} {link : GetlinkRsp}
      (valid : gateIslinkValid link = 0) (free : ∀ earlier ∈ kept, ¬ Shares earlier link)
      (rest : Selection (kept ++ [link]) links final) : Selection kept (link :: links) final
  | refused {kept links final : List GetlinkRsp} {link : GetlinkRsp}
      (valid : gateIslinkValid link = 0) (taken : ∃ earlier ∈ kept, Conflicts earlier link)
      (rest : Selection kept links final) : Selection kept (link :: links) final

theorem Selection.chosen {kept links final : List GetlinkRsp}
    (selection : Selection kept links final) :
    ∃ chosen, final = kept ++ chosen ∧
      chosen.Sublist (links.filter fun link => gateIslinkValid link = 0) := by
  induction selection with
  | done kept => exact ⟨[], by simp, List.Sublist.refl _⟩
  | skipped invalid _ ih =>
      obtain ⟨chosen, same, sublist⟩ := ih
      exact ⟨chosen, same, by simpa [invalid] using sublist⟩
  | @enrolled kept links final link valid _ _ ih =>
      obtain ⟨chosen, same, sublist⟩ := ih
      refine ⟨link :: chosen, by simpa using same, ?_⟩
      simpa [valid] using sublist
  | @refused kept links final link valid _ _ ih =>
      obtain ⟨chosen, same, sublist⟩ := ih
      refine ⟨chosen, same, ?_⟩
      simp only [valid, decide_true, List.filter_cons_of_pos]
      exact sublist.trans (List.sublist_cons_self _ _)

theorem Selection.pairwise {kept links final : List GetlinkRsp}
    (selection : Selection kept links final)
    (distinct : kept.Pairwise fun earlier link => ¬ Shares earlier link) :
    final.Pairwise fun earlier link => ¬ Shares earlier link := by
  induction selection with
  | done => exact distinct
  | skipped _ _ ih | refused _ _ _ ih => exact ih distinct
  | enrolled _ free _ ih =>
      apply ih
      rw [List.pairwise_append]
      refine ⟨distinct, List.pairwise_singleton .., fun earlier member link only => ?_⟩
      rw [List.mem_singleton.mp only]
      exact free earlier member

def links (register : List (GetlinkRsp × Hndl)) : List GetlinkRsp :=
  (register.map Prod.fst).reverse

section Tests

variable {NameBucket IndexBucket : Type} [DecidableEq NameBucket]

def indexTaken (register : List (GetlinkRsp × Hndl)) (index : UInt32) : Bool :=
  register.any fun entry => entry.1.ifiIndex = index

def nameTaken (hash : Hashing NameBucket IndexBucket) (register : List (GetlinkRsp × Hndl))
    (name : CString) : Bool :=
  register.any fun entry =>
    decide (hash.str entry.1.ifname = hash.str name) && answers entry.1 name

def aliasTaken (hash : Hashing NameBucket IndexBucket) (register : List (GetlinkRsp × Hndl))
    (text : CString) : Bool :=
  register.any fun entry =>
    decide (entry.1.heldAlias.map hash.str = some (hash.str text)) && answers entry.1 text

/-- What both ways of enrolling a link test. -/
def taken (hash : Hashing NameBucket IndexBucket) (register : List (GetlinkRsp × Hndl))
    (link : GetlinkRsp) : Bool :=
  indexTaken register link.ifiIndex || nameTaken hash register link.ifname ||
    link.heldAlias.any (aliasTaken hash register)

theorem taken_conflicts {hash : Hashing NameBucket IndexBucket}
    {register : List (GetlinkRsp × Hndl)} {link : GetlinkRsp}
    (conflict : taken hash register link = true) :
    ∃ earlier ∈ links register, Conflicts earlier link := by
  have enrolled : ∀ entry ∈ register, entry.1 ∈ links register := by
    intro entry there
    rw [links, List.mem_reverse]
    exact List.mem_map_of_mem there
  rw [taken, Bool.or_eq_true, Bool.or_eq_true] at conflict
  cases conflict with
  | inl byIndexOrName =>
      cases byIndexOrName with
      | inl byIndex =>
          obtain ⟨entry, there, same⟩ := List.any_eq_true.mp byIndex
          exact ⟨entry.1, enrolled entry there, .inl (by simpa using same)⟩
      | inr byName =>
          obtain ⟨entry, there, both⟩ := List.any_eq_true.mp byName
          have answered := (Bool.and_eq_true_iff.mp both).2
          exact ⟨entry.1, enrolled entry there, .inr (.inl answered)⟩
  | inr byAlias =>
      cases held : link.heldAlias with
      | none =>
          rw [held] at byAlias
          cases byAlias
      | some text =>
          rw [held] at byAlias
          obtain ⟨entry, there, both⟩ := List.any_eq_true.mp byAlias
          have answered := (Bool.and_eq_true_iff.mp both).2
          exact ⟨entry.1, enrolled entry there, .inr (.inr ⟨text, held, answered⟩)⟩

theorem untaken_shares {hash : Hashing NameBucket IndexBucket}
    {register : List (GetlinkRsp × Hndl)} {link : GetlinkRsp}
    (free : taken hash register link = false) :
    ∀ earlier ∈ links register, ¬ Shares earlier link := by
  intro earlier member shares
  rw [links, List.mem_reverse] at member
  obtain ⟨entry, there, same⟩ := List.mem_map.mp member
  subst same
  simp only [taken, Bool.or_eq_false_iff] at free
  cases shares with
  | inl index =>
      have silent := List.any_eq_false.mp free.1.1 entry there
      simp [index] at silent
  | inr strings =>
      cases strings with
      | inl name =>
          have silent := List.any_eq_false.mp free.1.2 entry there
          simp [name, answers] at silent
      | inr shared =>
          obtain ⟨text, held, given⟩ := shared
          have silent := free.2
          rw [given] at silent
          have quiet := List.any_eq_false.mp silent entry there
          simp [held, answers] at quiet

end Tests

variable {NameBucket IndexBucket Kstate : Type} [DecidableEq NameBucket] [DecidableEq IndexBucket]

/-- The store holds the interfaces filled from these links, newest first. -/
structure Filled (hash : Hashing NameBucket IndexBucket) (objects : Objects) (bound : Addr)
    (register : List (GetlinkRsp × Hndl)) (store : Store NameBucket IndexBucket) : Prop where
  ifaces : store.ifaces = (register.map Prod.snd).reverse
  count : store.count = register.length
  object : ∀ entry ∈ register, objects entry.2.iface = ifaceFill entry.1
  allocated : ∀ entry ∈ register, entry.2.iface < bound
  indxh : Fibred hash.index (register.map fun entry => (entry.1.ifiIndex, entry.2)) store.indxh
  nameh : Fibred hash.str (register.map fun entry => (entry.1.ifname, entry.2)) store.nameh
  aliash : Fibred hash.str
    (register.filterMap fun entry => entry.1.heldAlias.map fun text => (text, entry.2))
    store.aliash

section Filled

variable {hash : Hashing NameBucket IndexBucket} {objects : Objects} {bound : Addr}
  {register : List (GetlinkRsp × Hndl)} {store : Store NameBucket IndexBucket}

theorem filled_reinit (hash : Hashing NameBucket IndexBucket) (objects : Objects) (bound : Addr) :
    Filled hash objects bound [] storeReinit where
  ifaces := rfl
  count := rfl
  object := by simp
  allocated := by simp
  indxh := fibred_empty _
  nameh := fibred_empty _
  aliash := fibred_empty _

theorem Filled.congr (filled : Filled hash objects bound register store) {later : Objects}
    (agree : ∀ address, address < bound → later address = objects address) :
    Filled hash later bound register store :=
  { filled with
    object := fun entry member => by
      rw [agree _ (filled.allocated entry member)]
      exact filled.object entry member }

theorem Filled.images (filled : Filled hash objects bound register store) :
    store.ifaces.map (fun hndl => objects hndl.iface) = (links register).map ifaceFill := by
  rw [filled.ifaces, links, List.map_reverse, List.map_reverse, List.map_map, List.map_map]
  congr 1
  apply List.map_congr_left
  intro entry member
  exact filled.object entry member

def ifaceAnswers (interface : Iface) (strid : CString) : Bool :=
  strid = interface.name || interface.ifalias.map HeapStr.text = some strid

theorem answers_filled (link : GetlinkRsp) (strid : CString) :
    ifaceAnswers (ifaceFill link) strid = answers link strid := by
  rw [ifaceAnswers, fill_alias_text, answers]
  rfl

theorem match_held {interface : Iface} (held : Held interface) (strid : CString) :
    storeMatchIfaceBystrid interface strid = .ok (ifaceAnswers interface strid) := by
  unfold storeMatchIfaceBystrid ifaceAnswers
  by_cases named : strid = interface.name
  · simp [named]
  · cases present : interface.ifalias with
    | none => simp [named]
    | some pointer =>
        have live := held.ifalias pointer present
        simp [named, HeapStr.read, live, eq_comm]

theorem Filled.walk (filled : Filled hash objects bound register store) (select : GetlinkRsp → Bool)
    (strid : CString) (chain : List Hndl)
    (chained : ∀ hndl, hndl ∈ chain ↔ ∃ entry ∈ register, entry.2 = hndl ∧ select entry.1 = true) :
    answersIn objects strid chain =
      .ok (register.any fun entry => select entry.1 && answers entry.1 strid) := by
  have read : ∀ hndl ∈ chain, storeMatchIfaceBystrid (objects hndl.iface) strid =
      .ok (ifaceAnswers (objects hndl.iface) strid) := by
    intro hndl member
    obtain ⟨entry, there, same, _⟩ := (chained hndl).mp member
    subst same
    apply match_held
    rw [filled.object entry there]
    exact held_fill entry.1
  have total := any_hit_total (fun hndl : Hndl => storeMatchIfaceBystrid (objects hndl.iface) strid)
    (fun hndl => ifaceAnswers (objects hndl.iface) strid) chain read
  rw [answersIn, total]
  congr 1
  rw [Bool.eq_iff_iff]
  simp only [List.any_eq_true, Bool.and_eq_true]
  constructor
  · intro hit
    obtain ⟨hndl, member, yes⟩ := hit
    obtain ⟨entry, there, same, selected⟩ := (chained hndl).mp member
    subst same
    rw [filled.object entry there, answers_filled] at yes
    exact ⟨entry, there, selected, yes⟩
  · intro hit
    obtain ⟨entry, there, selected, yes⟩ := hit
    refine ⟨entry.2, (chained entry.2).mpr ⟨entry, there, rfl, selected⟩, ?_⟩
    rw [filled.object entry there, answers_filled]
    exact yes

theorem Filled.may_name (filled : Filled hash objects bound register store) (name : CString) :
    storeMayRegisterIfaceName hash objects store name = .ok (!nameTaken hash register name) := by
  have walk := filled.walk (fun link => decide (hash.str link.ifname = hash.str name)) name
    (store.nameh (hash.str name)) fun hndl => by
      rw [filled.nameh.mem]
      simp only [List.mem_map, Prod.mk.injEq, decide_eq_true_eq]
      constructor
      · intro chained
        obtain ⟨_, ⟨entry, there, rfl, same⟩, bucket⟩ := chained
        exact ⟨entry, there, same, bucket⟩
      · intro chained
        obtain ⟨entry, there, same, bucket⟩ := chained
        exact ⟨_, ⟨entry, there, rfl, same⟩, bucket⟩
  rw [storeMayRegisterIfaceName, walk]
  rfl

theorem Filled.may_alias (filled : Filled hash objects bound register store) (text : CString) :
    storeMayRegisterIfaceAlias hash objects store text = .ok (!aliasTaken hash register text) := by
  have walk := filled.walk (fun link => decide (link.heldAlias.map hash.str = some (hash.str text)))
    text (store.aliash (hash.str text)) fun hndl => by
      rw [filled.aliash.mem]
      simp only [List.mem_filterMap, Option.map_eq_some_iff, Prod.mk.injEq, decide_eq_true_eq]
      constructor
      · intro chained
        obtain ⟨_, ⟨entry, there, held, present, rfl, same⟩, bucket⟩ := chained
        exact ⟨entry, there, same, held, present, bucket⟩
      · intro chained
        obtain ⟨entry, there, same, held, present, bucket⟩ := chained
        exact ⟨held, ⟨entry, there, held, present, rfl, same⟩, bucket⟩
  rw [storeMayRegisterIfaceAlias, walk]
  rfl

theorem Filled.may_index (filled : Filled hash objects bound register store) (index : UInt32) :
    storeMayRegisterIfaceIndex hash objects store index = !indexTaken register index := by
  rw [Bool.eq_iff_iff]
  simp only [storeMayRegisterIfaceIndex, storeSearchIfaceHndlByindex, Option.isNone_iff_eq_none,
    List.find?_eq_none, decide_eq_true_eq, Bool.not_eq_true', indexTaken, List.any_eq_false]
  constructor
  · intro free entry there same
    have chained : entry.2 ∈ store.indxh (hash.index index) := by
      rw [filled.indxh.mem]
      exact ⟨entry.1.ifiIndex, List.mem_map.mpr ⟨entry, there, rfl⟩, by rw [same]⟩
    apply free entry.2 chained
    rw [filled.object entry there]
    exact same.symm
  · intro free hndl chained same
    obtain ⟨key, member, _⟩ := (filled.indxh.mem hndl _).mp chained
    obtain ⟨entry, there, both⟩ := List.mem_map.mp member
    cases both
    apply free entry there
    rw [filled.object entry there] at same
    exact same.symm

end Filled

section Enrolment

variable {platform : Platform NameBucket IndexBucket Kstate}
  {world loaded given : World NameBucket IndexBucket Kstate} {register : List (GetlinkRsp × Hndl)}

abbrev Enrols (platform : Platform NameBucket IndexBucket Kstate)
    (register : List (GetlinkRsp × Hndl)) (world : World NameBucket IndexBucket Kstate) : Prop :=
  Filled platform.hash world.objects world.next register world.store

def enrolled (platform : Platform NameBucket IndexBucket Kstate) (link : GetlinkRsp)
    (world : World NameBucket IndexBucket Kstate) : World NameBucket IndexBucket Kstate :=
  storeEnrollLink platform link (link.heldAlias.map platform.hash.str) world

def registered (link : GetlinkRsp) (world : World NameBucket IndexBucket Kstate)
    (register : List (GetlinkRsp × Hndl)) : List (GetlinkRsp × Hndl) :=
  (link, ⟨world.next + 1, world.next⟩) :: register

theorem enrolled_enrols (filled : Enrols platform register world) (link : GetlinkRsp) :
    Enrols platform (registered link world register) (enrolled platform link world) where
  ifaces := by
    have before := filled.ifaces
    simp [enrolled, storeEnrollLink, ifaceCreateBylink, storeCreatenEnrollIfaceHndl, registered,
      World.setObject, before]
  count := by
    have before := filled.count
    simp [enrolled, storeEnrollLink, ifaceCreateBylink, storeCreatenEnrollIfaceHndl, registered,
      World.setObject, before]
  object entry member := by
    have objects : (enrolled platform link world).objects =
        Function.update world.objects world.next (ifaceFill link) := rfl
    rw [objects]
    cases member with
    | head => exact Function.update_self ..
    | tail _ there =>
        rw [Function.update_of_ne (Nat.ne_of_lt (filled.allocated entry there))]
        exact filled.object entry there
  allocated entry member := by
    have bound : (enrolled platform link world).next = world.next + 1 + 1 := rfl
    rw [bound]
    cases member with
    | head => exact Nat.lt_succ_of_lt (Nat.lt_succ_self _)
    | tail _ there =>
        exact Nat.lt_succ_of_lt (Nat.lt_succ_of_lt (filled.allocated entry there))
  indxh := filled.indxh.add link.ifiIndex ⟨world.next + 1, world.next⟩
  nameh := filled.nameh.add link.ifname ⟨world.next + 1, world.next⟩
  aliash := by
    cases held : link.heldAlias with
    | none =>
        have table : (enrolled platform link world).store.aliash = world.store.aliash := by
          rw [enrolled, held]
          rfl
        rw [table, registered, List.filterMap_cons]
        simp only [held, Option.map_none]
        exact filled.aliash
    | some text =>
        have table : (enrolled platform link world).store.aliash =
            add (platform.hash.str text) ⟨world.next + 1, world.next⟩ world.store.aliash := by
          rw [enrolled, held]
          rfl
        rw [table, registered, List.filterMap_cons]
        simp only [held, Option.map_some]
        exact filled.aliash.add text _

theorem on_new_iface_eq (filled : Enrols platform register world) (link : GetlinkRsp) :
    storeOnNewIface platform link world =
      .ok (if taken platform.hash register link then world else enrolled platform link world) := by
  unfold storeOnNewIface
  rw [filled.may_index, filled.may_name, Bool.not_not]
  cases index : indexTaken register link.ifiIndex with
  | true => simp [taken, index]
  | false =>
      cases name : nameTaken platform.hash register link.ifname with
      | true =>
          simp [taken, name]
      | false =>
          cases held : link.heldAlias with
          | none => simp [taken, index, name, held, enrolled]
          | some text =>
              simp only [filled.may_alias]
              cases ifalias : aliasTaken platform.hash register text <;>
                simp [taken, index, name, held, ifalias, enrolled]

/-- `nlif_store_enroll_iface()` on the created interface enrolls it unless it is taken. -/
theorem enroll_created_eq (filled : Enrols platform register world) (link : GetlinkRsp) :
    storeEnroll platform world.next (ifaceCreateBylink link world).2 =
      .ok (if taken platform.hash register link then (-EEXIST, (ifaceCreateBylink link world).2)
        else (0, enrolled platform link world)) := by
  have created : Filled platform.hash (Function.update world.objects world.next (ifaceFill link))
      world.next register world.store :=
    filled.congr fun address below => Function.update_of_ne (Nat.ne_of_lt below) _ _
  have self : Function.update world.objects world.next (ifaceFill link) world.next =
      ifaceFill link := Function.update_self ..
  have enrolls : storeEnrollIface platform.hash
      (Function.update world.objects world.next (ifaceFill link)) ⟨world.next + 1, world.next⟩
      world.store =
      .ok (if taken platform.hash register link then (-EEXIST, world.store)
        else (0, (enrolled platform link world).store)) := by
    unfold storeEnrollIface
    simp only [self]
    rw [created.may_index, created.may_name]
    have name_eq : (ifaceFill link).name = link.ifname := rfl
    have idx_eq : (ifaceFill link).idx = link.ifiIndex := rfl
    rw [name_eq, idx_eq, Bool.not_not]
    cases name : nameTaken platform.hash register link.ifname with
    | true => simp [taken, name]
    | false =>
        cases index : indexTaken register link.ifiIndex with
        | true => simp [taken, index]
        | false =>
            cases held : link.heldAlias with
            | none =>
                have ifalias_eq : (ifaceFill link).ifalias = none := by
                  simp [ifaceFill, held]
                simp only [ifalias_eq]
                simp [taken, index, name, held]
                rw [enrolled, held]
                rfl
            | some text =>
                have ifalias_eq : (ifaceFill link).ifalias = some (dupStr text) := by
                  simp [ifaceFill, held]
                simp only [ifalias_eq, dupStr, HeapStr.read]
                cases ifalias : aliasTaken platform.hash register text <;>
                  simp [created.may_alias, taken, index, name, held, ifalias]
                rw [enrolled, held]
                rfl
  have objects : (ifaceCreateBylink link world).2.objects =
      Function.update world.objects world.next (ifaceFill link) := rfl
  have store : (ifaceCreateBylink link world).2.store = world.store := rfl
  have bound : (ifaceCreateBylink link world).2.next = world.next + 1 := rfl
  rw [storeEnroll, objects, store, bound, enrolls]
  cases taken platform.hash register link with
  | true => rfl
  | false => rfl

/-- `nlif_iface_destroy()` of the last interface allocated: its strings are
released and its memory is given back. -/
def ifaceDestroyLast (interface : Addr) (world : World NameBucket IndexBucket Kstate) :
    Except Fault (World NameBucket IndexBucket Kstate) := do
  let released ← ifaceFini (world.objects interface)
  .ok { world.setObject interface released with next := interface }

/-- `nlif_iface_create_bylink()` then `nlif_store_enroll_iface()` on each valid link;
an interface refused with `-EEXIST` is destroyed. -/
def enrollEach (platform : Platform NameBucket IndexBucket Kstate) :
    List GetlinkRsp → World NameBucket IndexBucket Kstate →
      Except Fault (Int × World NameBucket IndexBucket Kstate)
  | [], world => .ok (0, world)
  | link :: rest, world =>
      if gateIslinkValid link ≠ 0 then enrollEach platform rest world
      else do
        let (interface, world) := ifaceCreateBylink link world
        let (ret, world) ← storeEnroll platform interface world
        if ret = 0 then enrollEach platform rest world
        else if ret = -EEXIST then do
          let world ← ifaceDestroyLast interface world
          enrollEach platform rest world
        else .ok (ret, world)

structure Matches (platform : Platform NameBucket IndexBucket Kstate)
    (register : List (GetlinkRsp × Hndl)) (left right : World NameBucket IndexBucket Kstate) :
    Prop where
  loaded : Enrols platform register left
  given : Enrols platform register right
  store : left.store = right.store
  next : left.next = right.next
  subscribed : left.gate.notif = true

theorem destroy_created (filled : Enrols platform register given) (link : GetlinkRsp) :
    ∃ after, ifaceDestroyLast given.next (ifaceCreateBylink link given).2 = .ok after ∧
      Enrols platform register after ∧ after.store = given.store ∧ after.next = given.next := by
  have self : (ifaceCreateBylink link given).2.objects given.next = ifaceFill link :=
    Function.update_self ..
  have fini := (iface_fini_ok_iff (ifaceFill link) _).mpr ⟨held_fill link, rfl⟩
  let after : World NameBucket IndexBucket Kstate :=
    { (ifaceCreateBylink link given).2.setObject given.next (released (ifaceFill link)) with
      next := given.next }
  have destroyed : ifaceDestroyLast given.next (ifaceCreateBylink link given).2 = .ok after := by
    rw [ifaceDestroyLast, self, fini]
    rfl
  refine ⟨after, destroyed, ?_, rfl, rfl⟩
  apply filled.congr
  intro address below
  have different : address ≠ given.next := Nat.ne_of_lt below
  simp [after, World.setObject, ifaceCreateBylink, different]

theorem notify_new_eq (filled : Enrols platform register loaded)
    (subscribed : loaded.gate.notif = true) (link : GetlinkRsp) :
    gateNotify platform noObservers (.new link) loaded =
      .ok (0, (if taken platform.hash register link then loaded
        else enrolled platform link loaded).record (.notified .new link.ifiIndex 0)) := by
  rw [gateNotify, if_pos subscribed, storeOnEvent, on_new_iface_eq filled]
  rfl

theorem Matches.refused (alike : Matches platform register loaded given) {link : GetlinkRsp}
    (valid : gateIslinkValid link = 0) (conflict : taken platform.hash register link = true)
    (rest : List GetlinkRsp) :
    ∃ loaded' given', Matches platform register loaded' given' ∧
      gateLoadEach platform (link :: rest) loaded = gateLoadEach platform rest loaded' ∧
      enrollEach platform (link :: rest) given = enrollEach platform rest given' := by
  obtain ⟨after, destroyed, filled, store, next⟩ := destroy_created alike.given link
  have announced := notify_new_eq alike.loaded alike.subscribed link
  have attempted := enroll_created_eq alike.given link
  rw [if_pos conflict] at announced attempted
  refine ⟨loaded.record (.notified .new link.ifiIndex 0), after,
    ⟨alike.loaded, filled, alike.store.trans store.symm, alike.next.trans next.symm,
      alike.subscribed⟩, ?_, ?_⟩
  · rw [gateLoadEach, if_neg (not_not.mpr valid), announced]
    rfl
  · rw [enrollEach, if_neg (not_not.mpr valid)]
    have refusal : (-EEXIST : Int) ≠ 0 := by decide
    have address : (ifaceCreateBylink link given).1 = given.next := rfl
    simp only [address, attempted, ok_bind, if_neg refusal, if_true, destroyed]

theorem Matches.enrolled (alike : Matches platform register loaded given) {link : GetlinkRsp}
    (valid : gateIslinkValid link = 0) (free : taken platform.hash register link = false)
    (rest : List GetlinkRsp) :
    ∃ loaded' given', Matches platform (registered link loaded register) loaded' given' ∧
      gateLoadEach platform (link :: rest) loaded = gateLoadEach platform rest loaded' ∧
      enrollEach platform (link :: rest) given = enrollEach platform rest given' := by
  have announced := notify_new_eq alike.loaded alike.subscribed link
  have attempted := enroll_created_eq alike.given link
  rw [if_neg (by rw [free]; exact Bool.false_ne_true)] at announced attempted
  have same : registered link given register = registered link loaded register := by
    rw [registered, registered, alike.next]
  have store : (LoadEnrolment.enrolled platform link loaded).store =
      (LoadEnrolment.enrolled platform link given).store := by
    simp only [LoadEnrolment.enrolled, storeEnrollLink, ifaceCreateBylink, World.setObject,
      alike.store, alike.next]
  have next : (LoadEnrolment.enrolled platform link loaded).next =
      (LoadEnrolment.enrolled platform link given).next := by
    simp only [LoadEnrolment.enrolled, storeEnrollLink, ifaceCreateBylink, World.setObject,
      alike.next]
  refine ⟨(LoadEnrolment.enrolled platform link loaded).record (.notified .new link.ifiIndex 0),
    LoadEnrolment.enrolled platform link given,
    ⟨enrolled_enrols alike.loaded link, same ▸ enrolled_enrols alike.given link, store, next,
      alike.subscribed⟩, ?_, ?_⟩
  · rw [gateLoadEach, if_neg (not_not.mpr valid), announced]
    rfl
  · rw [enrollEach, if_neg (not_not.mpr valid)]
    have address : (ifaceCreateBylink link given).1 = given.next := rfl
    simp only [address, attempted, ok_bind, if_true]

/-- Both loops select the same links of a dump. -/
theorem loops_select (dump : List GetlinkRsp) (alike : Matches platform register loaded given) :
    ∃ register' loaded' given', gateLoadEach platform dump loaded = .ok (0, loaded') ∧
      enrollEach platform dump given = .ok (0, given') ∧
      Matches platform register' loaded' given' ∧
      Selection (links register) dump (links register') := by
  induction dump generalizing register loaded given with
  | nil => exact ⟨register, loaded, given, rfl, rfl, alike, .done _⟩
  | cons link rest ih =>
      by_cases valid : gateIslinkValid link = 0
      · cases decision : taken platform.hash register link with
        | true =>
            obtain ⟨middle, other, alike, loads, enrolls⟩ := alike.refused valid decision rest
            obtain ⟨register', last, final, loads', enrolls', alike, selection⟩ := ih alike
            exact ⟨register', last, final, loads.trans loads', enrolls.trans enrolls', alike,
              .refused valid (taken_conflicts decision) selection⟩
        | false =>
            obtain ⟨middle, other, alike', loads, enrolls⟩ := alike.enrolled valid decision rest
            obtain ⟨register', last, final, loads', enrolls', alike', selection⟩ := ih alike'
            have grown : links (registered link loaded register) = links register ++ [link] := by
              rw [links, registered, List.map_cons, List.reverse_cons]
              rfl
            rw [grown] at selection
            exact ⟨register', last, final, loads.trans loads', enrolls.trans enrolls', alike',
              .enrolled valid (untaken_shares decision) selection⟩
      · obtain ⟨register', last, final, loads, enrolls, alike, selection⟩ := ih alike
        refine ⟨register', last, final, ?_, ?_, alike, .skipped valid selection⟩
        · rw [gateLoadEach, if_pos valid]
          exact loads
        · rw [enrollEach, if_pos valid]
          exact enrolls

/-- On an empty store a load of a non-empty dump enrolls a selection of its links,
as creating and enrolling an interface for each valid link does. -/
theorem store_load_enrolls {dump : List GetlinkRsp} {kernel : Kstate}
    (empty : world.store = storeReinit) (subscribed : world.gate.notif = true)
    (dumped : platform.kernel.dump world.kernel = (.ok dump, kernel)) (nonempty : dump ≠ []) :
    ∃ next, storeLoad platform world = .ok (0, next) ∧
      ∃ kept, Selection [] dump kept ∧
        next.store.ifaces.map (fun hndl => next.objects hndl.iface) = kept.map ifaceFill ∧
        next.store.count = kept.length ∧
        kept.Sublist (dump.filter fun link => gateIslinkValid link = 0) ∧
        kept.Pairwise (fun earlier link => ¬ Shares earlier link) ∧
        ∃ other, enrollEach platform dump world = .ok (0, other) ∧ other.store = next.store ∧
          ∀ hndl ∈ next.store.ifaces, other.objects hndl.iface = next.objects hndl.iface := by
  have none_yet : Filled platform.hash world.objects world.next [] world.store := by
    rw [empty]
    exact filled_reinit _ _ _
  have alike : Matches platform [] { world with kernel } world :=
    ⟨none_yet, none_yet, rfl, rfl, subscribed⟩
  obtain ⟨register, next, other, loads, enrolls, alike, selection⟩ := loops_select dump alike
  have loading : storeLoad platform world = .ok (0, next) := by
    unfold storeLoad gateLoadLinks
    simp only [dumped]
    cases dump with
    | nil => exact absurd rfl nonempty
    | cons link rest => exact loads
  have selected : Selection [] dump (links register) := selection
  have sublist : (links register).Sublist (dump.filter fun link => gateIslinkValid link = 0) := by
    obtain ⟨chosen, same, sublist⟩ := selected.chosen
    rw [same]
    exact sublist
  have count : next.store.count = (links register).length := by
    rw [alike.loaded.count, links, List.length_reverse, List.length_map]
  have objects : ∀ hndl ∈ next.store.ifaces,
      other.objects hndl.iface = next.objects hndl.iface := by
    intro hndl member
    rw [alike.loaded.ifaces, List.mem_reverse] at member
    obtain ⟨entry, there, same⟩ := List.mem_map.mp member
    rw [← same, alike.loaded.object entry there, alike.given.object entry there]
  exact ⟨next, loading, links register, selected, alike.loaded.images, count, sublist,
    selected.pairwise List.Pairwise.nil, other, enrolls, alike.store.symm, objects⟩

/-- The link "a", one whose alias is its name, one named as the first, and "c". -/
def mixedDump : List GetlinkRsp :=
  [oneLink, bareLink 2 nameB (some nameB), bareLink 3 nameA none, bareLink 4 nameC none]

def mixedPlatform : CodePlatform Unit where
  hash := djb2Hashing
  kernel := { oneLinkKernel with dump := fun _ => (.ok mixedDump, ()) }

/-- The second link of the dump is skipped and the third one refused. -/
theorem mixed_dump_enrolls :
    ∃ next, storeLoad mixedPlatform oneLinkInit = .ok (0, next) ∧
      next.store.ifaces.map (fun hndl => (next.objects hndl.iface).idx) = [1, 4] ∧
      ∃ kept, Selection [] mixedDump kept ∧
        next.store.ifaces.map (fun hndl => next.objects hndl.iface) = kept.map ifaceFill ∧
        kept.Pairwise (fun earlier link => ¬ Shares earlier link) := by
  have empty : oneLinkInit.store = storeReinit := rfl
  have dumped : mixedPlatform.kernel.dump oneLinkInit.kernel = (.ok mixedDump, ()) := rfl
  have result :
      (fun done => done.2.store.ifaces.map fun hndl => (done.2.objects hndl.iface).idx) <$>
        storeLoad mixedPlatform oneLinkInit = .ok [1, 4] := by
    decide +kernel
  obtain ⟨next, loads, kept, selection, images, _, _, apart, _⟩ :=
    store_load_enrolls empty rfl dumped (List.cons_ne_nil _ _)
  obtain ⟨done, loaded, indexes⟩ := (map_ok_iff ..).mp result
  cases loads.symm.trans loaded
  exact ⟨next, loads, indexes, kept, selection, images, apart⟩

end Enrolment

end Nlif.LoadEnrolment
