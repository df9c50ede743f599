import Mathlib.Data.List.Pairwise
import Nlif.LoadEnrolment
import Nlif.StoreLookup

/-!
# What a reload leaves of the past

`nlif_store_reload()` throws the interfaces of the store away and loads those the kernel
dumps. The store is then a function of that dump alone: which of its links are enrolled, and
what the three lookups find, is decided by the links, whatever happened to the store before.
-/

namespace Nlif.StoreReload

open LinkModel IfaceModel FaultWalk BucketTable StoreModel StoreInvariant StoreLookup GateModel
  GateSpec LibraryRun LabelledRun LoadEnrolment

set_option autoImplicit false

section Dump

variable {NameBucket IndexBucket : Type} [DecidableEq NameBucket]

def clashes (hash : Hashing NameBucket IndexBucket) (kept : List GetlinkRsp)
    (link : GetlinkRsp) : Bool :=
  (kept.any fun earlier => earlier.ifiIndex = link.ifiIndex) ||
    (kept.any fun earlier => decide (hash.str earlier.ifname = hash.str link.ifname) &&
      answers earlier link.ifname) ||
    link.heldAlias.any fun text => kept.any fun earlier =>
      decide (earlier.heldAlias.map hash.str = some (hash.str text)) && answers earlier text

/-- The links enrolled once a dump was announced on top of these. -/
def enrollable (hash : Hashing NameBucket IndexBucket) :
    List GetlinkRsp → List GetlinkRsp → List GetlinkRsp
  | kept, [] => kept
  | kept, link :: rest =>
      if gateIslinkValid link ≠ 0 ∨ clashes hash kept link = true then enrollable hash kept rest
      else enrollable hash (kept ++ [link]) rest

/-- What a reload returns and enrolls, from the answer to the dump. -/
def reloadAnswer (hash : Hashing NameBucket IndexBucket) :
    Except YnlError (List GetlinkRsp) → Int × List GetlinkRsp
  | .error error => (ynlErr error, [])
  | .ok [] => (-ENODEV, [])
  | .ok links => (0, enrollable hash [] links)

variable {hash : Hashing NameBucket IndexBucket}

theorem taken_eq (register : List (GetlinkRsp × Hndl)) (link : GetlinkRsp) :
    taken hash register link = clashes hash (links register) link := by
  have byalias : aliasTaken hash register = fun text => (links register).any fun earlier =>
      decide (earlier.heldAlias.map hash.str = some (hash.str text)) && answers earlier text := by
    funext text
    simp only [aliasTaken, links, List.any_reverse, List.any_map, Function.comp_def]
  rw [taken, byalias]
  simp only [indexTaken, nameTaken, clashes, links, List.any_reverse, List.any_map,
    Function.comp_def]

theorem clashes_conflicts {kept : List GetlinkRsp} {link : GetlinkRsp}
    (clash : clashes hash kept link = true) : ∃ earlier ∈ kept, Conflicts earlier link := by
  let register : List (GetlinkRsp × Hndl) := (kept.map fun link => (link, ⟨0, 0⟩)).reverse
  have same : links register = kept := by
    simp [register, links, List.map_reverse, Function.comp_def]
  have conflicts := @taken_conflicts _ _ _ hash register link
  rw [taken_eq, same] at conflicts
  exact conflicts clash

theorem enrollable_all {kept dump : List GetlinkRsp}
    (apart : (kept ++ dump.filter fun link => gateIslinkValid link = 0).Pairwise
      fun earlier link => ¬ Conflicts earlier link) :
    enrollable hash kept dump = kept ++ dump.filter fun link => gateIslinkValid link = 0 := by
  induction dump generalizing kept with
  | nil => rw [enrollable, List.filter_nil, List.append_nil]
  | cons link rest ih =>
      by_cases valid : gateIslinkValid link = 0
      · rw [List.filter_cons_of_pos (by simpa using valid)] at apart ⊢
        have free : ¬ clashes hash kept link = true := by
          intro clash
          obtain ⟨earlier, member, conflict⟩ := clashes_conflicts clash
          exact (List.pairwise_append.mp apart).2.2 earlier member link (List.mem_cons_self ..)
            conflict
        have moved : kept ++ link :: rest.filter (fun link => gateIslinkValid link = 0) =
            (kept ++ [link]) ++ rest.filter (fun link => gateIslinkValid link = 0) := by
          rw [List.append_assoc, List.cons_append, List.nil_append]
        rw [enrollable, if_neg (not_or.mpr ⟨not_not.mpr valid, free⟩), moved]
        exact ih (moved ▸ apart)
      · rw [List.filter_cons_of_neg (by simpa using valid)] at apart ⊢
        rw [enrollable, if_pos (.inl valid)]
        exact ih apart

end Dump

theorem shares_symm {left right : GetlinkRsp} (shares : Shares left right) :
    Shares right left := by
  cases shares with
  | inl index => exact .inl index.symm
  | inr strings =>
      cases strings with
      | inl name => exact .inr (.inl name.symm)
      | inr ifalias =>
          obtain ⟨text, held, given⟩ := ifalias
          exact .inr (.inr ⟨text, given, held⟩)

section Mirror

variable {NameBucket IndexBucket Kstate : Type}

/-- The store holds the interfaces of these links, in order, and finds each under the strings
and the index of its link. -/
structure Mirrors (hash : Hashing NameBucket IndexBucket) (links : List GetlinkRsp)
    (world : World NameBucket IndexBucket Kstate) : Prop where
  ifaces : world.store.ifaces.map (fun hndl => world.objects hndl.iface) = links.map ifaceFill
  count : world.store.count = links.length
  byname : ∀ name, (storeFindIfaceByname hash world.objects world.store name).map world.objects =
    (links.find? fun link => link.ifname = name).map ifaceFill
  byalias : ∀ text, Option.map world.objects <$>
      storeFindIfaceByalias hash world.objects world.store text =
    .ok ((links.find? fun link => link.heldAlias = some text).map ifaceFill)
  byindex : ∀ index,
    (storeFindIfaceByindex hash world.objects world.store index).map world.objects =
      (links.find? fun link => link.ifiIndex = index).map ifaceFill

variable [DecidableEq NameBucket] [DecidableEq IndexBucket]
  {hash : Hashing NameBucket IndexBucket} {objects : Objects} {bound : Addr}
  {register : List (GetlinkRsp × Hndl)} {store : Store NameBucket IndexBucket}

theorem Filled.search (filled : Filled hash objects bound register store)
    (apart : (links register).Pairwise fun earlier link => ¬ Shares earlier link)
    (test : GetlinkRsp → Bool)
    (shares : ∀ left right, test left = true → test right = true → Shares left right) :
    (register.find? fun entry => test entry.1).map (fun entry => objects entry.2.iface) =
      ((links register).find? test).map ifaceFill := by
  have sole : Set.Subsingleton {link | link ∈ links register ∧ test link = true} := by
    intro left leftHere right rightHere
    by_contra different
    have symmetric : Std.Symm fun earlier link : GetlinkRsp => ¬ Shares earlier link :=
      ⟨fun _ _ free shared => free (shares_symm shared)⟩
    exact apart.forall leftHere.1 rightHere.1 different
      (shares left right leftHere.2 rightHere.2)
  have flipped : (links register).Perm (register.map Prod.fst) := List.reverse_perm _
  rw [List.find?_eq_find?_of_perm flipped sole, List.find?_map, Option.map_map]
  change _ = (register.find? fun entry => test entry.1).map (ifaceFill ∘ Prod.fst)
  cases found : register.find? fun entry => test entry.1 with
  | none => rfl
  | some entry => exact congrArg some (filled.object entry (List.mem_of_find?_eq_some found))

theorem Filled.chain_byname (filled : Filled hash objects bound register store) (name : CString) :
    ((store.nameh (hash.str name)).find? fun hndl => name = (objects hndl.iface).name) =
      (register.find? fun entry => entry.1.ifname = name).map Prod.snd := by
  have sole : ∀ other, decide (other = name) = true → other = name :=
    fun other same => of_decide_eq_true same
  have keyed : ∀ entry ∈ register.map fun entry => (entry.1.ifname, entry.2),
      decide (name = (objects entry.2.iface).name) = decide (entry.1 = name) := by
    intro entry member
    obtain ⟨original, there, rfl⟩ := List.mem_map.mp member
    rw [filled.object original there]
    exact decide_eq_decide.mpr eq_comm
  have chain : ((store.nameh (hash.str name)).find?
      fun hndl => decide (name = (objects hndl.iface).name)) = _ := filled.nameh.find sole keyed
  rw [chain, List.find?_map, Option.map_map]
  rfl

theorem Filled.chain_byindex (filled : Filled hash objects bound register store)
    (index : UInt32) :
    ((store.indxh (hash.index index)).find? fun hndl => index = (objects hndl.iface).idx) =
      (register.find? fun entry => entry.1.ifiIndex = index).map Prod.snd := by
  have sole : ∀ other, decide (other = index) = true → other = index :=
    fun other same => of_decide_eq_true same
  have keyed : ∀ entry ∈ register.map fun entry => (entry.1.ifiIndex, entry.2),
      decide (index = (objects entry.2.iface).idx) = decide (entry.1 = index) := by
    intro entry member
    obtain ⟨original, there, rfl⟩ := List.mem_map.mp member
    rw [filled.object original there]
    exact decide_eq_decide.mpr eq_comm
  have chain : ((store.indxh (hash.index index)).find?
      fun hndl => decide (index = (objects hndl.iface).idx)) = _ := filled.indxh.find sole keyed
  rw [chain, List.find?_map, Option.map_map]
  rfl

def aliasText (interface : Iface) : Option CString := interface.ifalias.map HeapStr.text

theorem Filled.chain_byalias (filled : Filled hash objects bound register store)
    (text : CString) :
    ((store.aliash (hash.str text)).find?
        fun hndl => aliasText (objects hndl.iface) = some text) =
      (register.find? fun entry => entry.1.heldAlias = some text).map Prod.snd := by
  have sole : ∀ other, decide (other = text) = true → other = text :=
    fun other same => of_decide_eq_true same
  have keyed : ∀ entry ∈ register.filterMap
      fun entry => entry.1.heldAlias.map fun text => (text, entry.2),
      decide (aliasText (objects entry.2.iface) = some text) = decide (entry.1 = text) := by
    intro entry member
    obtain ⟨original, there, held⟩ := List.mem_filterMap.mp member
    obtain ⟨own, given, rfl⟩ := Option.map_eq_some_iff.mp held
    rw [filled.object original there, aliasText, fill_alias_text, given]
    exact decide_eq_decide.mpr Option.some_inj
  have chain : ((store.aliash (hash.str text)).find?
      fun hndl => decide (aliasText (objects hndl.iface) = some text)) = _ :=
    filled.aliash.find sole keyed
  have tests : (fun entry : GetlinkRsp × Hndl => (entry.1.heldAlias.map
        fun text => (text, entry.2)).any fun entry => decide (entry.1 = text)) =
      fun entry => decide (entry.1.heldAlias = some text) := by
    funext entry
    cases entry.1.heldAlias with
    | none => rfl
    | some own => simp
  rw [chain, List.find?_filterMap, tests]
  cases found : register.find? fun entry => decide (entry.1.heldAlias = some text) with
  | none => rfl
  | some entry =>
      have held : entry.1.heldAlias = some text := by simpa using List.find?_some found
      rw [Option.bind_some, held]
      rfl

theorem none_invalid {valid : Prop} [Decidable valid] {kept : List GetlinkRsp}
    {test : GetlinkRsp → Bool} (validates : ∀ link ∈ kept, test link = true → valid)
    {found : Option Iface} (searched : found = (kept.find? test).map ifaceFill) :
    (if valid then found else none) = (kept.find? test).map ifaceFill := by
  split
  · exact searched
  · rename_i invalid
    rw [List.find?_eq_none.mpr fun link member hit => invalid (validates link member hit)]
    rfl

theorem Filled.mirrors {world : World NameBucket IndexBucket Kstate}
    (filled : Filled hash world.objects world.next register world.store)
    (apart : (links register).Pairwise fun earlier link => ¬ Shares earlier link)
    (reported : ∀ link ∈ links register, Reported link) :
    Mirrors hash (links register) world where
  ifaces := filled.images
  count := by rw [filled.count, links, List.length_reverse, List.length_map]
  byname name := by
    have searched := Filled.search filled apart (fun link => decide (link.ifname = name))
      fun left right here there =>
        .inr (.inl ((of_decide_eq_true here).trans (of_decide_eq_true there).symm))
    have validates : ∀ link ∈ links register, decide (link.ifname = name) = true →
        linkValidateName name > 0 := by
      intro link member same
      rw [← of_decide_eq_true same]
      exact (reported link member).asserted.name_valid
    rw [← none_invalid validates searched, storeFindIfaceByname, storeSearchIfaceByname,
      Filled.chain_byname filled, Option.map_map, apply_ite (Option.map world.objects),
      Option.map_map]
    rfl
  byalias text := by
    have searched := Filled.search filled apart (fun link => decide (link.heldAlias = some text))
      fun left right here there =>
        .inr (.inr ⟨text, of_decide_eq_true here, of_decide_eq_true there⟩)
    have validates : ∀ link ∈ links register, decide (link.heldAlias = some text) = true →
        linkValidateAlias (some text) > 0 :=
      fun link member held => (reported link member).asserted.alias_valid (of_decide_eq_true held)
    have visits : ∀ hndl ∈ world.store.aliash (hash.str text),
        visitAlias world.objects text hndl =
          .ok (if decide (aliasText (world.objects hndl.iface) = some text) = true then
            some hndl.iface else none) := by
      intro hndl member
      obtain ⟨own, there, _⟩ := (filled.aliash.mem hndl _).mp member
      obtain ⟨entry, listed, given⟩ := List.mem_filterMap.mp there
      obtain ⟨_, held, same⟩ := Option.map_eq_some_iff.mp given
      cases same
      have ifalias : (ifaceFill entry.1).ifalias = some (dupStr own) := by
        simp [ifaceFill, held]
      rw [visitAlias, filled.object entry listed, aliasText, ifalias]
      simp [derefStr, HeapStr.read, dupStr, eq_comm]
    rw [← none_invalid validates searched, storeFindIfaceByalias, storeSearchIfaceByalias,
      first_hit_total visits, Filled.chain_byalias filled, Option.map_map]
    split
    · rw [map_ok, Option.map_map]
      rfl
    · rfl
  byindex index := by
    have searched := Filled.search filled apart (fun link => decide (link.ifiIndex = index))
      fun left right here there =>
        .inl ((of_decide_eq_true here).trans (of_decide_eq_true there).symm)
    have validates : ∀ link ∈ links register, decide (link.ifiIndex = index) = true →
        linkValidateIndex index = 0 := by
      intro link member same
      rw [← of_decide_eq_true same]
      exact (reported link member).index
    rw [← none_invalid validates searched, storeFindIfaceByindex, storeSearchIfaceHndlByindex,
      Filled.chain_byindex filled, Option.map_map, apply_ite (Option.map world.objects),
      Option.map_map]
    rfl

end Mirror

section Release

variable {NameBucket IndexBucket Kstate : Type}
  {platform : Platform NameBucket IndexBucket Kstate}
  {world : World NameBucket IndexBucket Kstate}

theorem store_release_ok_iff {ifaces : List Hndl} {objects : Objects}
    (distinct : (ifaces.map Hndl.iface).Nodup) (after : Objects) :
    storeRelease ifaces objects = .ok after ↔
      (∀ hndl ∈ ifaces, Held (objects hndl.iface)) ∧
        after = fun interface =>
          if interface ∈ ifaces.map Hndl.iface then released (objects interface)
          else objects interface := by
  induction ifaces generalizing objects with
  | nil => simp [storeRelease, eq_comm (a := after)]
  | cons hndl rest ih =>
      obtain ⟨apart, distinct⟩ := List.nodup_cons.mp distinct
      have others : ∀ other ∈ rest, other.iface ≠ hndl.iface := by
        intro other member same
        exact apart (List.mem_map.mpr ⟨other, member, same⟩)
      unfold storeRelease
      simp only [bind_ok_iff, iface_fini_ok_iff, ih distinct]
      constructor
      · rintro ⟨_, ⟨held, rfl⟩, rest_held, rfl⟩
        constructor
        · intro other member
          cases List.mem_cons.mp member with
          | inl same => exact same ▸ held
          | inr later =>
              have untouched := rest_held other later
              rwa [Function.update_of_ne (others other later)] at untouched
        · funext interface
          by_cases self : interface = hndl.iface
          · subst self
            simp [apart]
          · simp [self]
      · rintro ⟨held, rfl⟩
        refine ⟨_, ⟨held hndl List.mem_cons_self, rfl⟩, ?_, ?_⟩
        · intro other member
          rw [Function.update_of_ne (others other member)]
          exact held other (List.mem_cons_of_mem hndl member)
        · funext interface
          by_cases self : interface = hndl.iface
          · subst self
            simp [apart]
          · simp [self]

theorem kept_distinct (kept : Kept platform world) :
    (world.store.ifaces.map Hndl.iface).Nodup := by
  refine List.Nodup.map_on ?_ kept.linked.nodup
  intro left leftThere right rightThere same
  exact kept.linked.same_iface leftThere rightThere same

end Release

section Reload

variable {NameBucket IndexBucket Kstate : Type} [DecidableEq NameBucket] [DecidableEq IndexBucket]
  {platform : Platform NameBucket IndexBucket Kstate}
  {world next : World NameBucket IndexBucket Kstate} {register : List (GetlinkRsp × Hndl)}

theorem load_each_enrolls (dump : List GetlinkRsp) (filled : Enrols platform register world)
    (subscribed : world.gate.notif = true)
    (apart : (links register).Pairwise fun earlier link => ¬ Shares earlier link) :
    ∃ register' next, gateLoadEach platform dump world = .ok (0, next) ∧
      Enrols platform register' next ∧
      links register' = enrollable platform.hash (links register) dump ∧
      (links register').Pairwise (fun earlier link => ¬ Shares earlier link) ∧
      ∀ link ∈ links register', link ∈ links register ∨ link ∈ dump := by
  induction dump generalizing register world with
  | nil => exact ⟨register, world, rfl, filled, rfl, apart, fun link here => .inl here⟩
  | cons link rest ih =>
      have later : ∀ link', link' ∈ links register ∨ link' ∈ rest →
          link' ∈ links register ∨ link' ∈ link :: rest :=
        fun _ either => either.imp_right (List.mem_cons_of_mem link)
      by_cases valid : gateIslinkValid link = 0
      · have announced := notify_new_eq filled subscribed link
        cases decision : taken platform.hash register link with
        | true =>
            have clash : clashes platform.hash (links register) link = true :=
              (taken_eq register link).symm.trans decision
            rw [if_pos decision] at announced
            have still : Enrols platform register
                (world.record (.notified .new link.ifiIndex 0)) := filled
            obtain ⟨register', last, loads, enrols, same, distinct, drawn⟩ :=
              ih still subscribed apart
            refine ⟨register', last, ?_, enrols, ?_, distinct, fun link' here =>
              later link' (drawn link' here)⟩
            · rw [gateLoadEach, if_neg (not_not.mpr valid), announced]
              exact loads
            · rw [enrollable, if_pos (.inr clash)]
              exact same
        | false =>
            have untaken : ¬ taken platform.hash register link = true := by
              rw [decision]
              exact Bool.false_ne_true
            have free : ¬ clashes platform.hash (links register) link = true :=
              fun clash => untaken ((taken_eq register link).trans clash)
            rw [if_neg untaken] at announced
            have grown : links (registered link world register) = links register ++ [link] := by
              rw [links, registered, List.map_cons, List.reverse_cons]
              rfl
            have more : Enrols platform (registered link world register)
                ((enrolled platform link world).record (.notified .new link.ifiIndex 0)) :=
              enrolled_enrols filled link
            have distinctNow : (links (registered link world register)).Pairwise
                fun earlier link => ¬ Shares earlier link := by
              rw [grown, List.pairwise_append]
              refine ⟨apart, List.pairwise_singleton .., fun earlier here other only => ?_⟩
              rw [List.mem_singleton.mp only]
              exact untaken_shares decision earlier here
            obtain ⟨register', last, loads, enrols, same, distinct, drawn⟩ :=
              ih more subscribed distinctNow
            refine ⟨register', last, ?_, enrols, ?_, distinct, ?_⟩
            · rw [gateLoadEach, if_neg (not_not.mpr valid), announced]
              exact loads
            · rw [enrollable, if_neg (not_or.mpr ⟨not_not.mpr valid, free⟩), ← grown]
              exact same
            · intro link' here
              cases drawn link' here with
              | inl before =>
                  rw [grown, List.mem_append, List.mem_singleton] at before
                  cases before with
                  | inl before => exact .inl before
                  | inr same => exact .inr (same ▸ List.mem_cons_self ..)
              | inr there => exact .inr (List.mem_cons_of_mem link there)
      · obtain ⟨register', last, loads, enrols, same, distinct, drawn⟩ :=
          ih filled subscribed apart
        refine ⟨register', last, ?_, enrols, ?_, distinct, fun link' here =>
          later link' (drawn link' here)⟩
        · rw [gateLoadEach, if_pos valid]
          exact loads
        · rw [enrollable, if_pos (.inl valid)]
          exact same

theorem load_mirrors (reports : KernelReports platform.kernel)
    (empty : world.store = storeReinit) (subscribed : world.gate.notif = true) :
    ∃ next, storeLoad platform world =
        .ok ((reloadAnswer platform.hash (platform.kernel.dump world.kernel).1).1, next) ∧
      Mirrors platform.hash
        (reloadAnswer platform.hash (platform.kernel.dump world.kernel).1).2 next := by
  have filled : ∀ kernel : Kstate, Enrols platform [] { world with kernel } := by
    intro kernel
    change Filled platform.hash world.objects world.next [] world.store
    rw [empty]
    exact filled_reinit platform.hash world.objects world.next
  have bare : ∀ kernel : Kstate, Mirrors platform.hash [] { world with kernel } :=
    fun kernel => Filled.mirrors (filled kernel) List.Pairwise.nil
      fun link none => absurd none List.not_mem_nil
  unfold storeLoad gateLoadLinks
  cases dumped : platform.kernel.dump world.kernel with
  | mk answer kernel =>
      cases answer with
      | error error => exact ⟨_, rfl, bare kernel⟩
      | ok dump =>
          cases dump with
          | nil => exact ⟨_, rfl, bare kernel⟩
          | cons link rest =>
              obtain ⟨register, last, loads, enrols, same, apart, drawn⟩ :=
                load_each_enrolls (link :: rest) (filled kernel) subscribed List.Pairwise.nil
              have reported : ∀ other ∈ links register, Reported other := by
                intro other here
                cases drawn other here with
                | inl none => cases none
                | inr there => exact reports.dump _ _ _ dumped other there
              refine ⟨last, loads, ?_⟩
              have enrolls : (reloadAnswer platform.hash (.ok (link :: rest))).2 =
                  links register := same.symm
              rw [enrolls]
              exact Filled.mirrors enrols apart reported

/-- A reload completes exactly where every enrolled interface holds its strings. It then
answers as the dump does and leaves a mirror of the links the dump made enrollable, whatever
run led to it; where no two valid links of the dump conflict these are all the valid ones. -/
theorem reload_forgets (reports : KernelReports platform.kernel) {objects : Objects}
    {kernel : Kstate} {log : List (Op × Ret)}
    (run : Run (machine platform) (storeInit objects kernel) log world) :
    ((∃ done, storeReload platform world = .ok done) ↔
        ∀ hndl ∈ world.store.ifaces, Held (world.objects hndl.iface)) ∧
      (∀ ret next, storeReload platform world = .ok (ret, next) →
        ret = (reloadAnswer platform.hash (platform.kernel.dump world.kernel).1).1 ∧
        Mirrors platform.hash
          (reloadAnswer platform.hash (platform.kernel.dump world.kernel).1).2 next) ∧
      ∀ dump, (platform.kernel.dump world.kernel).1 = .ok dump →
        ((dump.filter fun link => gateIslinkValid link = 0).Pairwise
          fun earlier link => ¬ Conflicts earlier link) →
        (reloadAnswer platform.hash (.ok dump)).2 =
          dump.filter fun link => gateIslinkValid link = 0 := by
  have kept := run_kept reports run
  have loads := fun cleared : Objects =>
    @load_mirrors _ _ _ _ _ platform { world with objects := cleared, store := storeReinit } reports
      rfl kept.subscribed
  have released : ∀ objects, storeRelease world.store.ifaces world.objects = .ok objects ↔ _ :=
    store_release_ok_iff (kept_distinct kept)
  refine ⟨⟨?_, ?_⟩, ?_, ?_⟩
  · rintro ⟨done, reloaded⟩
    obtain ⟨middle, clear, _⟩ := (bind_ok_iff ..).mp reloaded
    obtain ⟨objects, release, _⟩ := (bind_ok_iff ..).mp clear
    exact ((released objects).mp release).1
  · intro held
    obtain ⟨objects, release⟩ : ∃ objects,
        storeRelease world.store.ifaces world.objects = .ok objects :=
      ⟨_, (released _).mpr ⟨held, rfl⟩⟩
    obtain ⟨next, load, _⟩ := loads objects
    refine ⟨((reloadAnswer platform.hash (platform.kernel.dump world.kernel).1).1, next), ?_⟩
    rw [storeReload, storeClear, release]
    exact load
  · intro ret next reloaded
    obtain ⟨middle, clear, load⟩ := (bind_ok_iff ..).mp reloaded
    obtain ⟨objects, _, same⟩ := (bind_ok_iff ..).mp clear
    cases same
    obtain ⟨last, answered, mirrors⟩ := loads objects
    cases answered.symm.trans load
    exact ⟨rfl, mirrors⟩
  · intro dump _ apart
    cases dump with
    | nil => rfl
    | cons link rest => exact enrollable_all apart

end Reload

/-- A staged change of the one link does not survive the reload. -/
theorem staged_link_reloaded :
    ∃ world, Run (machine oneLinkPlatform) oneLinkInit
        [(.load, .code 0), (.set (.mtu 1400) 0, .code 0)] world ∧
      ∃ next, storeReload oneLinkPlatform world = .ok (0, next) ∧
        Mirrors djb2Hashing [oneLink] next := by
  have loaded := (Run.start : Run (machine oneLinkPlatform) oneLinkInit [] oneLinkInit).extend
    .load (.code 0) rfl rfl
  have staged := loaded.extend (.set (.mtu 1400) 0) (.code 0)
    ⟨trivial, ⟨1, 0⟩, by decide, rfl⟩ rfl
  refine ⟨_, staged, ?_⟩
  have valid : ∀ hndl ∈ ((machine oneLinkPlatform).after (.set (.mtu 1400) 0)
      ((machine oneLinkPlatform).after .load oneLinkInit)).store.ifaces,
      (((machine oneLinkPlatform).after (.set (.mtu 1400) 0)
        ((machine oneLinkPlatform).after .load oneLinkInit)).objects hndl.iface).state ≠
        .invalid := by
    decide
  obtain ⟨completes, answers, _⟩ := reload_forgets one_link_kernel_reports staged
  obtain ⟨⟨ret, next⟩, reloaded⟩ := completes.mpr fun hndl member =>
    ((run_kept one_link_kernel_reports staged).linked.sound hndl member).held
      (valid hndl member)
  obtain ⟨same, mirrors⟩ := answers ret next reloaded
  cases same
  exact ⟨next, reloaded, mirrors⟩

end Nlif.StoreReload
