import Nlif.DaemonFrame
import Nlif.Recovery
import Nlif.StoreIdentity

/-!
The daemon applies no `INVALID` interface where the leaves of each event name the ones it
has to re-synchronise, and the kernel answers. A re-synchronised interface may take another
name, so what it leaves of the lookups by name decides whether later leaves get to theirs.
-/

namespace Nlif.DaemonRevalidation

open LinkModel IfaceModel FaultWalk FaultLoop BucketTable StoreModel StoreRehash GateModel GateSpec
  StoreInvariant StoreLookup StoreIdentity LibraryRun LabelledRun DaemonModel DaemonSpec DaemonRun
  DaemonFrame

set_option autoImplicit false

section Lookups

variable {NameBucket IndexBucket : Type} {hash : Hashing NameBucket IndexBucket}
  {objects later : Objects} {bound : Addr} {store : Store NameBucket IndexBucket} {hndl : Hndl}
  {name : CString} {found : Addr}

/-- The first bearer of a name is the first one still when another handle is taken off the
chain, whatever that one is named now. -/
theorem find_without {chain : List Hndl} {bears later : Hndl → Bool} {first : Hndl}
    (located : chain.find? bears = some first) (other : first ≠ hndl)
    (agree : ∀ node ∈ chain, node ≠ hndl → later node = bears node) :
    (chain.filter fun node => node ≠ hndl).find? later = some first := by
  obtain ⟨hit, front, rest, rfl, missed⟩ := List.find?_eq_some_iff_append.mp located
  rw [List.find?_filter, List.find?_eq_some_iff_append]
  refine ⟨by simp [other, agree first (by simp) other, hit], front, rest, rfl, ?_⟩
  intro node ahead
  by_cases self : node = hndl
  · simp [self]
  · have same := agree node (by simp [ahead]) self
    simpa [same, self] using missed node ahead

variable [DecidableEq NameBucket]

theorem find_byname_moved (linked : Linked hash objects bound store)
    (member : hndl ∈ store.ifaces)
    (agree : ∀ address, address ≠ hndl.iface → later address = objects address)
    (free : nameClash hash later hndl (later hndl.iface).name store = .ok false)
    (located : storeFindIfaceByname hash objects store name = some found)
    (same : found = hndl.iface → (later hndl.iface).name = name) :
    storeFindIfaceByname hash later (moveName hash hndl (later hndl.iface).name store) name =
      some found := by
  unfold storeFindIfaceByname at located
  split at located
  · rename_i valid
    obtain ⟨first, searched, rfl⟩ := Option.map_eq_some_iff.mp located
    have chained := List.mem_of_find?_eq_some searched
    have bears : name = (objects first.iface).name := by simpa using List.find?_some searched
    have apart : ∀ other ∈ store.nameh (hash.str name), other ≠ hndl →
        other.iface ≠ hndl.iface := fun other there different alike =>
      different (linked.same_iface (linked.nameh.registered _ other there) member alike)
    by_cases self : first = hndl
    · subst self
      rw [same rfl]
      exact Recovery.find_byname_head (congrArg List.head? (add_self ..)) valid (same rfl)
    · have renamed : (later hndl.iface).name ≠ name := by
        intro taken
        rw [taken] at free
        have silent := (answers_in_false_iff ..).mp free first ((mem_del ..).mpr ⟨chained, self⟩)
        rw [agree _ (apart first chained self)] at silent
        exact ((store_match_false_iff ..).mp silent).1 bears
      have left : ((store.nameh (hash.str name)).filter fun node => node ≠ hndl).find?
          (fun other => decide (name = (later other.iface).name)) = some first :=
        find_without searched self fun other there different => by
          rw [agree _ (apart other there different)]
      rw [storeFindIfaceByname, if_pos valid, storeSearchIfaceByname, Option.map_eq_some_iff]
      refine ⟨first, ?_, rfl⟩
      simp only [moveName]
      by_cases here : hash.str name = hash.str (later hndl.iface).name
      · rw [here, add_self, List.find?_cons_of_neg (by simpa using Ne.symm renamed), ← here]
        exact left
      · rw [add_other _ _ _ _ here]
        exact left
  · cases located

omit [DecidableEq NameBucket] in
theorem find_byname_same {after : Store NameBucket IndexBucket}
    (names : ∀ address, (later address).name = (objects address).name)
    (nameh : after.nameh = store.nameh) (name : CString) :
    storeFindIfaceByname hash later after name = storeFindIfaceByname hash objects store name := by
  simp only [storeFindIfaceByname, storeSearchIfaceByname, names, nameh]

end Lookups

variable {NameBucket IndexBucket Kstate : Type}

/-- The requests of an event and what they were answered, newest first: what the event adds
to the trace. -/
def since (world next : World NameBucket IndexBucket Kstate) : List Event :=
  next.trace.take (next.trace.length - world.trace.length)

def getlinkRefused : Event → Bool
  | .getlink _ ret => ret ≠ 0
  | _ => false

def setlinkRefused : Event → Option UInt32
  | .setlink request ret => if ret ≠ 0 then some request.ifiIndex else none
  | _ => none

/-- No get-link request is refused. -/
def Answered (answers : List Event) : Prop := ∀ event ∈ answers, getlinkRefused event = false

instance (answers : List Event) : Decidable (Answered answers) :=
  inferInstanceAs (Decidable (∀ event ∈ answers, getlinkRefused event = false))

def Grows (world next : World NameBucket IndexBucket Kstate) : Prop :=
  ∃ added, next.trace = added ++ world.trace ∧ ∀ event ∈ added, setlinkRefused event = none

theorem grows_refl (world : World NameBucket IndexBucket Kstate) : Grows world world :=
  ⟨[], rfl, by simp⟩

theorem Grows.trans {first second third : World NameBucket IndexBucket Kstate}
    (left : Grows first second) (right : Grows second third) : Grows first third := by
  obtain ⟨front, same, clear⟩ := left
  obtain ⟨more, again, alsoClear⟩ := right
  refine ⟨more ++ front, by rw [again, same, List.append_assoc], fun event there => ?_⟩
  exact (List.mem_append.mp there).elim (alsoClear event) (clear event)

def Refused (world next : World NameBucket IndexBucket Kstate) : Prop :=
  ∃ added, next.trace = added ++ world.trace ∧ ∃ event ∈ added, getlinkRefused event = true

theorem Refused.grown {first world next : World NameBucket IndexBucket Kstate}
    (refused : Refused first world) (grown : world.trace <:+ next.trace) : Refused first next := by
  obtain ⟨added, same, event, there, bad⟩ := refused
  obtain ⟨more, again⟩ := grown
  refine ⟨more ++ added, by rw [← again, same, List.append_assoc], event, by simp [there], bad⟩

theorem Refused.from_later {first world next : World NameBucket IndexBucket Kstate}
    (grown : first.trace <:+ world.trace) (refused : Refused world next) : Refused first next := by
  obtain ⟨front, before⟩ := grown
  obtain ⟨added, same, event, there, bad⟩ := refused
  refine ⟨added ++ front, by rw [same, ← before, List.append_assoc], event, by simp [there], bad⟩

/-- A string the interface answers to, or may come to answer to where it is `INVALID`. -/
def Answers (platform : Platform NameBucket IndexBucket Kstate)
    (world : World NameBucket IndexBucket Kstate) (interface : Addr) (strid : CString) : Prop :=
  AnswersTo (world.objects interface) strid ∨
    (world.objects interface).state = .invalid ∧ ∃ state link after,
      platform.kernel.getlink (world.objects interface).idx state = (.ok link, after) ∧
      AnswersTo (ifaceFill link) strid

/-- The kernel gives the interface no string of another one. -/
def Apart (platform : Platform NameBucket IndexBucket Kstate)
    (world : World NameBucket IndexBucket Kstate) (interface : Addr) : Prop :=
  ∀ state link after,
    platform.kernel.getlink (world.objects interface).idx state = (.ok link, after) →
    ∀ strid, AnswersTo (ifaceFill link) strid →
    ∀ other, Enrolled other world → other ≠ interface → ¬ Answers platform world other strid

/-- A link the kernel may give bears a string of another interface. -/
def Clashes (platform : Platform NameBucket IndexBucket Kstate)
    (world : World NameBucket IndexBucket Kstate) (interface : Addr) : Prop :=
  (world.objects interface).state = .invalid ∧ ∃ state link after,
    platform.kernel.getlink (world.objects interface).idx state = (.ok link, after) ∧
    ∃ strid, AnswersTo (ifaceFill link) strid ∧
      ∃ other, Enrolled other world ∧ other ≠ interface ∧ AnswersTo (world.objects other) strid

section Calls

variable [DecidableEq NameBucket] {platform : Platform NameBucket IndexBucket Kstate}
  {interface : Addr} {world next : World NameBucket IndexBucket Kstate} {ret : Int}
  {name : CString} {found : Addr}

omit [DecidableEq NameBucket] in
theorem from_node_iff {change : LeafChange} :
    nlifdIfaceFromNode platform change world = some found ↔
      ∃ name, change.key = some name ∧
        storeFindIfaceByname platform.hash world.objects world.store name = some found := by
  constructor
  · exact from_node_some
  · rintro ⟨name, key, located⟩
    have valid : linkValidateName name > 0 := by
      unfold storeFindIfaceByname at located
      split at located
      · assumption
      · cases located
    simp only [nlifdIfaceFromNode, key, if_pos valid, located]

/-- After an accepted reload every name leads where it led, if the kernel kept the name of the
interface it leads to. -/
theorem reload_finds (kept : Kept platform world) (reports : KernelReports platform.kernel)
    (enrolled : Enrolled interface world) (reload : Reload platform interface world 0 next)
    (located : storeFindIfaceByname platform.hash world.objects world.store name = some found)
    (named : found = interface → ∀ state link after,
      platform.kernel.getlink (world.objects interface).idx state = (.ok link, after) →
      link.ifname = name) :
    storeFindIfaceByname platform.hash next.objects next.store name = some found := by
  obtain ⟨hndl, member, rfl⟩ := enrolled
  cases reload with
  | unanswered _ _ refused => exact absurd rfl (gate_getlink_error refused)
  | clashed _ _ _ _ failed => exact absurd rfl failed
  | @accepted _ _ link _ held asked given rehashed =>
      obtain ⟨rfl, _⟩ := gate_getlink_ok given
      obtain ⟨same, reported⟩ := reports.getlink _ _ _ _ asked
      have idx : (ifaceFill link).idx = (world.objects hndl.iface).idx := same
      have searched := kept.linked.search_replaced member idx (sound_fill reported)
      cases (store_rehash_ok_iff _ _ searched).mp rehashed with
      | moved nameFree aliasFree =>
          have agree : ∀ address, address ≠ hndl.iface →
              Function.update world.objects hndl.iface (ifaceFill link) address =
                world.objects address :=
            fun address different => Function.update_of_ne different _ _
          have moved := find_byname_moved kept.linked member agree (nameFree rfl) located
            fun self => by
              rw [Function.update_self]
              exact named self _ _ _ asked
          refine (find_byname_same (fun _ => rfl) ?_ name).trans moved
          simp only [reloaded, realiased_nameh]
          rfl

variable [DecidableEq IndexBucket]

theorem sync_finds (kept : Kept platform world) (reports : KernelReports platform.kernel)
    (enrolled : Enrolled interface world)
    (sync : ifaceSync platform interface world = .ok (0, next))
    (located : storeFindIfaceByname platform.hash world.objects world.store name = some found)
    (named : found = interface → (world.objects interface).state = .invalid →
      ∀ state link after,
        platform.kernel.getlink (world.objects interface).idx state = (.ok link, after) →
        link.ifname = name) :
    storeFindIfaceByname platform.hash next.objects next.store name = some found := by
  cases (iface_sync_ok_iff _ _ _ kept.subscribed _ _).mp sync with
  | inl passed =>
      obtain ⟨_, _, rfl⟩ := passed
      exact located
  | inr loaded =>
      obtain ⟨invalid, reload⟩ := loaded
      exact reload_finds kept reports enrolled reload located fun self => named self invalid

omit [DecidableEq NameBucket] [DecidableEq IndexBucket] in
theorem store_match_true {object : Iface} {strid : CString}
    (matched : storeMatchIfaceBystrid object strid = .ok true) : AnswersTo object strid := by
  unfold storeMatchIfaceBystrid at matched
  split at matched
  · rename_i named
    exact .inl named.symm
  · split at matched
    · cases matched
    · rename_i pointer held
      obtain ⟨text, read, same⟩ := (map_ok_iff ..).mp matched
      obtain ⟨_, rfl⟩ := (HeapStr.read_ok_iff ..).mp read
      refine .inr ?_
      rw [held, Option.map_some, of_decide_eq_true same]

omit [DecidableEq NameBucket] [DecidableEq IndexBucket] in
theorem answers_in_true {objects : Objects} {strid : CString} {chain : List Hndl}
    (hit : answersIn objects strid chain = .ok true) :
    ∃ hndl ∈ chain, AnswersTo (objects hndl.iface) strid := by
  obtain ⟨answer, walked, found⟩ := (map_ok_iff ..).mp hit
  obtain ⟨_, rfl⟩ := Option.isSome_iff_exists.mp found
  obtain ⟨hndl, chained, visited⟩ := first_hit_some _ _ _ walked
  obtain ⟨yes, matched, given⟩ := (map_ok_iff ..).mp visited
  refine ⟨hndl, chained, ?_⟩
  cases yes with
  | false => cases given
  | true => exact store_match_true matched

omit [DecidableEq IndexBucket] in
theorem clashes_of_rehash (kept : Kept platform world) (reports : KernelReports platform.kernel)
    (enrolled : Enrolled interface world) (invalid : (world.objects interface).state = .invalid)
    {link : GetlinkRsp} {state after : Kstate}
    (asked : platform.kernel.getlink (world.objects interface).idx state = (.ok link, after))
    {store : Store NameBucket IndexBucket}
    (rehashed : storeOnIfaceReload platform.hash
      (Function.update world.objects interface (ifaceFill link)) interface world.store =
      .ok (ret, store))
    (failed : ret ≠ 0) : Clashes platform world interface := by
  obtain ⟨hndl, member, rfl⟩ := enrolled
  obtain ⟨same, reported⟩ := reports.getlink _ _ _ _ asked
  have idx : (ifaceFill link).idx = (world.objects hndl.iface).idx := same
  have searched := kept.linked.search_replaced member idx (sound_fill reported)
  have taken : ∀ {strid : CString} {chain : List Hndl}, AnswersTo (ifaceFill link) strid →
      (∀ other ∈ chain, other ∈ world.store.ifaces ∧ other ≠ hndl) →
      answersIn (Function.update world.objects hndl.iface (ifaceFill link)) strid chain =
        .ok true → Clashes platform world hndl.iface := by
    intro strid chain given listed hit
    obtain ⟨other, chained, answers⟩ := answers_in_true hit
    obtain ⟨there, different⟩ := listed other chained
    have apart : other.iface ≠ hndl.iface := fun alike =>
      different (kept.linked.same_iface there member alike)
    rw [Function.update_of_ne apart] at answers
    exact ⟨invalid, state, link, after, asked, strid, given, other.iface, ⟨other, there, rfl⟩,
      apart, answers⟩
  cases (store_rehash_ok_iff _ _ searched).mp rehashed with
  | moved => exact absurd rfl failed
  | nameTaken _ hit =>
      rw [Function.update_self] at hit
      refine taken (.inl rfl) (fun other chained => ?_) hit
      obtain ⟨there, different⟩ := (mem_del ..).mp chained
      exact ⟨kept.linked.nameh.registered _ other there, different⟩
  | aliasTaken _ _ answer =>
      rw [Function.update_self] at answer
      cases text : (ifaceFill link).ifalias with
      | none =>
          rw [text] at answer
          cases answer
      | some pointer =>
          rw [text] at answer
          refine taken (.inr (by rw [text]; rfl)) (fun other chained => ?_) answer.2
          obtain ⟨there, different⟩ := (mem_del ..).mp chained
          exact ⟨kept.linked.aliash.registered _ other there, different⟩

theorem sync_grows (kept : Kept platform world) (reports : KernelReports platform.kernel)
    (enrolled : Enrolled interface world)
    (sync : ifaceSync platform interface world = .ok (ret, next)) :
    Grows world next ∧ (ret = 0 ∨ Refused world next ∨ Clashes platform world interface) := by
  cases (iface_sync_ok_iff _ _ _ kept.subscribed _ _).mp sync with
  | inl passed =>
      obtain ⟨_, rfl, rfl⟩ := passed
      exact ⟨grows_refl _, .inl rfl⟩
  | inr loaded =>
      obtain ⟨invalid, reload⟩ := loaded
      cases reload with
      | unanswered _ _ refused =>
          have failed := gate_getlink_error refused
          exact ⟨⟨[_], rfl, by simp [setlinkRefused]⟩, .inr (.inl
            ⟨[_], rfl, _, List.mem_singleton_self _, by simp [getlinkRefused, failed]⟩)⟩
      | accepted => exact ⟨⟨[_, _], rfl, by simp [setlinkRefused]⟩, .inl rfl⟩
      | clashed _ asked given rehashed failed =>
          obtain ⟨rfl, _⟩ := gate_getlink_ok given
          exact ⟨⟨[_, _], rfl, by simp [setlinkRefused]⟩,
            .inr (.inr (clashes_of_rehash kept reports enrolled invalid asked rehashed failed))⟩

structure Idle (world next : World NameBucket IndexBucket Kstate) : Prop where
  names : ∀ address, (next.objects address).name = (world.objects address).name
  aliases : ∀ address, (next.objects address).ifalias = (world.objects address).ifalias
  nameh : next.store.nameh = world.store.nameh
  valid : ∀ address, (world.objects address).state ≠ .invalid →
    (next.objects address).state ≠ .invalid
  grows : Grows world next

omit [DecidableEq NameBucket] [DecidableEq IndexBucket] in
theorem idle_refl (world : World NameBucket IndexBucket Kstate) : Idle world world :=
  ⟨fun _ => rfl, fun _ => rfl, rfl, fun _ valid => valid, grows_refl world⟩

omit [DecidableEq NameBucket] [DecidableEq IndexBucket] in
theorem idle_call (callee : Asserting) (interface : Addr)
    (world : World NameBucket IndexBucket Kstate) :
    Idle world (callAsserting callee interface world) :=
  ⟨fun _ => rfl, fun _ => rfl, rfl, fun _ valid => valid, [_], rfl, by simp [setlinkRefused]⟩

omit [DecidableEq NameBucket] [DecidableEq IndexBucket] in
theorem stage_admstate_strings {up : Bool} {before after : Iface}
    (staged : stage (.admstate up) before = .ok (ret, after)) :
    after.name = before.name ∧ after.ifalias = before.ifalias := by
  cases stage_cases staged with
  | inl same => exact same ▸ ⟨rfl, rfl⟩
  | inr edits =>
      obtain ⟨_, rfl, _⟩ := edits
      exact ⟨rfl, rfl⟩

omit [DecidableEq NameBucket] [DecidableEq IndexBucket] in
theorem idle_set {up : Bool} {object : Iface}
    (staged : stage (.admstate up) (world.objects interface) = .ok (ret, object)) :
    Idle world (world.setObject interface object) where
  names := replaced_field (stage_admstate_strings staged).1
  aliases := replaced_field (stage_admstate_strings staged).2
  nameh := rfl
  valid address valid := by
    by_cases self : address = interface
    · subst self
      rw [World.set_object_self]
      exact (stage_staged staged).valid valid
    · rwa [show (world.setObject interface object).objects address = world.objects address from
        Function.update_of_ne self _ _]
  grows := grows_refl world

/-- What a handler may do to the interface its leaf names: re-synchronise it and, where that
succeeds, read it or stage its admin state. -/
def Turn (platform : Platform NameBucket IndexBucket Kstate) (interface : Addr)
    (world : World NameBucket IndexBucket Kstate) (code : Int)
    (next : World NameBucket IndexBucket Kstate) : Prop :=
  ∃ middle, ifaceSync platform interface world = .ok (code, middle) ∧
    (code ≠ 0 ∧ next = middle ∨ code = 0 ∧ Idle middle next)

theorem set_turn {up : Bool}
    (done : ifaceSetAdmstate platform up interface world = .ok (ret, next)) :
    ∃ code, Turn platform interface world code next ∧ (ret = 0 → code = 0) := by
  obtain ⟨synced, middle, sync, outcome⟩ := iface_set_ok platform interface world done
  refine ⟨synced, ⟨middle, sync, ?_⟩, ?_⟩
  · rcases outcome with ⟨failed, _, same⟩ | ⟨zero, object, staged, same⟩
    · exact .inl ⟨failed, same⟩
    · rw [same]
      exact .inr ⟨zero, idle_set staged⟩
  · rcases outcome with ⟨_, same, _⟩ | ⟨zero, _⟩
    · exact fun succeeded => same ▸ succeeded
    · exact fun _ => zero

def Restores (sysrepo : Sysrepo) (change : LeafChange) : Prop :=
  match change.node with
  | .enabled _ dflt => ∃ value, restoredValue sysrepo dflt change = .ok (some value)
  | .type _ => False

theorem change_type_turn {value : CString} {change : LeafChange}
    (done : nlifdIfaceChangeType platform value change world = .ok (.ok, next)) :
    (next = world ∧ change.oper = .deleted) ∨
      ∃ interface, nlifdIfaceFromNode platform change world = some interface ∧
        Turn platform interface world 0 next := by
  unfold nlifdIfaceChangeType at done
  rcases located : nlifdIfaceFromNode platform change world with _ | interface
  · simp only [located] at done
    cases done
  · have compared : ∀ {type : Except Int CString} {after : World NameBucket IndexBucket Kstate},
        nlifdIfaceCoherentTypeStr platform interface world = .ok (type, after) →
          (∃ code, type = .error code ∧ code ≠ 0) ∨ Turn platform interface world 0 after := by
      intro type after asked
      obtain ⟨⟨outcome, middle⟩, coherent, asked⟩ := (bind_ok_iff ..).mp asked
      obtain ⟨synced, sync, ⟨failed, rfl⟩ | ⟨rfl, rfl⟩⟩ := iface_coherent_ok _ _ _ coherent
      · cases asked
        exact .inl ⟨synced, rfl, failed⟩
      · obtain ⟨str, _, asked⟩ := (bind_ok_iff ..).mp asked
        have turn : Turn platform interface world 0 (callAsserting .kind interface middle) :=
          ⟨middle, sync, .inr ⟨rfl, idle_call _ _ _⟩⟩
        rcases str with _ | str <;> cases asked
        · exact .inr turn
        · exact .inr turn
    cases oper : change.oper with
    | created | modified =>
        simp only [located, oper] at done
        obtain ⟨⟨type, middle⟩, coherent, done⟩ := (bind_ok_iff ..).mp done
        refine .inr ⟨interface, rfl, ?_⟩
        rcases compared coherent with ⟨code, rfl, failed⟩ | turn
        · have accepted : nlifdIfaceError code = .ok := congrArg Prod.fst (Except.ok.inj done)
          exact absurd ((nlifd_iface_error_ok_iff code).mp accepted) failed
        · rcases type with code | text
          · cases congrArg Prod.snd (Except.ok.inj done)
            exact turn
          · simp only at done
            split at done <;> cases done
            exact turn
    | deleted =>
        simp only [located, oper] at done
        cases done
        exact .inl ⟨rfl, rfl⟩
    | moved =>
        simp only [located, oper] at done
        cases done

theorem change_hndlr_turn {change : LeafChange}
    (done : nlifdIfaceChangeHndlr platform change world = .ok (.ok, next)) :
    (next = world ∧ ¬ Resynchronises change) ∨
      ∃ interface, nlifdIfaceFromNode platform change world = some interface ∧
        Turn platform interface world 0 next := by
  unfold nlifdIfaceChangeHndlr at done
  unfold Resynchronises
  split at done
  · obtain ⟨_, refused, _⟩ | ⟨interface, located, outcome⟩ := change_enabled_ok_iff.mp done
    · cases refused
    · obtain ⟨_, refused, _⟩ | ⟨asked, code, _, set, accepted⟩ := outcome
      · cases refused
      · obtain ⟨synced, turn, zero⟩ := set_turn set
        cases zero ((nlifd_iface_error_ok_iff code).mp accepted.symm)
        exact .inr ⟨interface, located, turn⟩
  · rename_i value node
    rcases change_type_turn done with ⟨same, deleted⟩ | turn
    · exact .inl ⟨same, by simp [node, deleted]⟩
    · exact .inr turn

theorem restore_hndlr_turn {sysrepo : Sysrepo} {change : LeafChange} {answer : SrError}
    (done : nlifdIfaceRestoreHndlr sysrepo platform change world = .ok (answer, next)) :
    (next = world ∧ ∀ interface, nlifdIfaceFromNode platform change world = some interface →
        ¬ Restores sysrepo change) ∨
      ∃ interface code, nlifdIfaceFromNode platform change world = some interface ∧
        Turn platform interface world code next := by
  unfold nlifdIfaceRestoreHndlr at done
  unfold Restores
  split at done
  · rename_i value dflt node
    unfold nlifdIfaceRestoreEnabled at done
    rcases located : nlifdIfaceFromNode platform change world with _ | interface
    · simp only [located] at done
      cases done
      exact .inl ⟨rfl, by simp⟩
    · simp only [located] at done
      obtain ⟨restored, read, done⟩ := (bind_ok_iff ..).mp done
      rcases restored with _ | restored
      · cases done
        exact .inl ⟨rfl, by simp [node, read]⟩
      · obtain ⟨⟨code, after⟩, set, done⟩ := (bind_ok_iff ..).mp done
        cases done
        obtain ⟨synced, turn, _⟩ := set_turn set
        exact .inr ⟨interface, synced, rfl, turn⟩
  · rename_i node
    cases done
    exact .inl ⟨rfl, by simp [node]⟩

/-- The kernel gives an `INVALID` interface, whenever asked for it, the name it has. -/
def NameKept (platform : Platform NameBucket IndexBucket Kstate)
    (world : World NameBucket IndexBucket Kstate) (interface : Addr) : Prop :=
  (world.objects interface).state = .invalid → ∀ state link after,
    platform.kernel.getlink (world.objects interface).idx state = (.ok link, after) →
    link.ifname = (world.objects interface).name

structure Tracks (platform : Platform NameBucket IndexBucket Kstate)
    (first world : World NameBucket IndexBucket Kstate) : Prop where
  found : ∀ change interface, nlifdIfaceFromNode platform change first = some interface →
    nlifdIfaceFromNode platform change world = some interface ∨
      (world.objects interface).state ≠ .invalid
  named : ∀ change interface, nlifdIfaceFromNode platform change first = some interface →
    NameKept platform first interface →
    nlifdIfaceFromNode platform change world = some interface

structure Within (platform : Platform NameBucket IndexBucket Kstate)
    (first world : World NameBucket IndexBucket Kstate) : Prop where
  sane : Sane platform world
  framed : Framed (fun _ _ => True) first world

structure Handled (platform : Platform NameBucket IndexBucket Kstate)
    (first world : World NameBucket IndexBucket Kstate) : Prop
    extends Within platform first world where
  valid : ∀ address, (first.objects address).state ≠ .invalid →
    (world.objects address).state ≠ .invalid
  answers : ∀ other, Enrolled other first → ∀ strid, AnswersTo (world.objects other) strid →
    Answers platform first other strid

variable {first : World NameBucket IndexBucket Kstate}

theorem sync_valid_kept (subscribed : world.gate.notif = true)
    (sync : ifaceSync platform interface world = .ok (ret, next)) {address : Addr}
    (valid : (world.objects address).state ≠ .invalid) :
    (next.objects address).state ≠ .invalid := by
  cases (iface_sync_ok_iff _ _ _ subscribed _ _).mp sync with
  | inl passed =>
      obtain ⟨_, _, rfl⟩ := passed
      exact valid
  | inr loaded =>
      have other : address ≠ interface := by
        rintro rfl
        exact valid loaded.1
      rw [(sync_local subscribed sync).elsewhere address other]
      exact valid

theorem Turn.valid {code : Int} (turn : Turn platform interface world code next)
    (subscribed : world.gate.notif = true) {address : Addr}
    (valid : (world.objects address).state ≠ .invalid) :
    (next.objects address).state ≠ .invalid := by
  obtain ⟨middle, sync, ⟨_, rfl⟩ | ⟨_, idle⟩⟩ := turn
  · exact sync_valid_kept subscribed sync valid
  · exact idle.valid address (sync_valid_kept subscribed sync valid)

theorem Turn.resynced (turn : Turn platform interface world 0 next)
    (subscribed : world.gate.notif = true) : (next.objects interface).state ≠ .invalid := by
  obtain ⟨middle, sync, ⟨failed, _⟩ | ⟨_, idle⟩⟩ := turn
  · exact absurd rfl failed
  · exact idle.valid interface (sync_valid subscribed sync)

theorem Turn.grows {code : Int} (turn : Turn platform interface world code next)
    (kept : Kept platform world) (reports : KernelReports platform.kernel)
    (enrolled : Enrolled interface world) :
    Grows world next ∧ (code = 0 ∨ Refused world next ∨ Clashes platform world interface) := by
  obtain ⟨middle, sync, ⟨_, rfl⟩ | ⟨rfl, idle⟩⟩ := turn
  · exact sync_grows kept reports enrolled sync
  · exact ⟨(sync_grows kept reports enrolled sync).1.trans idle.grows, .inl rfl⟩

omit [DecidableEq NameBucket] [DecidableEq IndexBucket] in
theorem answers_to_released {object : Iface} {strid : CString} :
    AnswersTo (released object) strid ↔ AnswersTo object strid := by
  simp [AnswersTo, released, dangling, Option.map_map, Function.comp_def]

theorem sync_answers (subscribed : world.gate.notif = true)
    (sync : ifaceSync platform interface world = .ok (ret, next)) {other : Addr} {strid : CString}
    (answers : AnswersTo (next.objects other) strid) : Answers platform world other strid := by
  cases (iface_sync_ok_iff _ _ _ subscribed _ _).mp sync with
  | inl passed =>
      obtain ⟨_, _, rfl⟩ := passed
      exact .inl answers
  | inr loaded =>
      by_cases self : other = interface
      · subst self
        obtain ⟨invalid, reload⟩ := loaded
        have given : ∀ {answer : Except YnlError GetlinkRsp} {link : GetlinkRsp} {kernel : Kstate},
            platform.kernel.getlink (world.objects other).idx world.kernel = (answer, kernel) →
            gateGetlink answer = .ok link → AnswersTo (ifaceFill link) strid →
            Answers platform world other strid := by
          intro answer link kernel asked given filled
          obtain ⟨rfl, _⟩ := gate_getlink_ok given
          exact .inr ⟨invalid, _, link, kernel, asked, filled⟩
        cases reload with
        | unanswered =>
            rw [show ((answered other world _ _ _).objects other) = _ from
              Function.update_self ..] at answers
            exact .inl (answers_to_released.mp answers)
        | accepted _ asked linked =>
            refine given asked linked ?_
            rwa [show ((reloaded other world _ _ _ _).objects other) = _ from
              Function.update_self ..] at answers
        | clashed _ asked linked =>
            refine given asked linked ?_
            rw [show ((World.invalidate other (reloaded other world _ _ _ _)).objects other) =
                { (reloaded other world _ _ _ _).objects other with state := .invalid } from
                Function.update_self ..,
              show ((reloaded other world _ _ _ _).objects other) = _ from
                Function.update_self ..] at answers
            exact answers
      · rw [(sync_local subscribed sync).elsewhere other self] at answers
        exact .inl answers

theorem Turn.answers {code : Int} (turn : Turn platform interface world code next)
    (subscribed : world.gate.notif = true) {other : Addr} {strid : CString}
    (answers : AnswersTo (next.objects other) strid) : Answers platform world other strid := by
  obtain ⟨middle, sync, ⟨_, rfl⟩ | ⟨_, idle⟩⟩ := turn
  · exact sync_answers subscribed sync answers
  · rw [AnswersTo, idle.names, idle.aliases] at answers
    exact sync_answers subscribed sync answers

/-- A re-synchronised interface does not hide another one from the leaf that names it. -/
theorem Turn.finds (turn : Turn platform interface world 0 next) (kept : Kept platform world)
    (reports : KernelReports platform.kernel) (enrolled : Enrolled interface world)
    {change : LeafChange} (located : nlifdIfaceFromNode platform change world = some found)
    (named : found = interface → (world.objects interface).state = .invalid →
      ∀ state link after,
        platform.kernel.getlink (world.objects interface).idx state = (.ok link, after) →
        change.key = some link.ifname) :
    nlifdIfaceFromNode platform change next = some found := by
  obtain ⟨name, key, located⟩ := from_node_iff.mp located
  obtain ⟨middle, sync, ⟨failed, _⟩ | ⟨_, idle⟩⟩ := turn
  · exact absurd rfl failed
  · refine from_node_iff.mpr ⟨name, key, ?_⟩
    rw [find_byname_same idle.names idle.nameh]
    refine sync_finds kept reports enrolled sync located
      fun self invalid state link after asked => ?_
    exact Option.some.inj ((named self invalid state link after asked).symm.trans key)

theorem Tracks.turn (tracks : Tracks platform first world) (kept : Kept platform first)
    (handled : Handled platform first world) (reports : KernelReports platform.kernel)
    (enrolled : Enrolled interface world) (turn : Turn platform interface world 0 next) :
    Tracks platform first next where
  found change other located := by
    have subscribed := handled.sane.kept.subscribed
    rcases tracks.found change other located with there | valid
    · by_cases self : other = interface
      · subst self
        exact .inr (turn.resynced subscribed)
      · exact .inl (turn.finds handled.sane.kept reports enrolled there
          fun same => absurd same self)
    · exact .inr (turn.valid subscribed valid)
  named change other located nameKept := by
    have there := tracks.named change other located nameKept
    refine turn.finds handled.sane.kept reports enrolled there fun self invalid state link after
      asked => ?_
    subst self
    obtain ⟨name, key, byname⟩ := from_node_iff.mp located
    obtain ⟨_, _, _, same⟩ := find_byname_some kept.linked byname
    have wasInvalid : (first.objects other).state = .invalid := by
      by_contra valid
      exact handled.valid other valid invalid
    rw [handled.framed.idx other (handled.framed.enrolled_first enrolled)] at asked
    rw [nameKept wasInvalid state link after asked, same, key]

theorem Handled.turn {code : Int} (handled : Handled platform first world)
    (turn : Turn platform interface world code next) (within : Within platform first next) :
    Handled platform first next where
  toWithin := within
  valid address valid := turn.valid handled.sane.kept.subscribed (handled.valid address valid)
  answers other known strid answers := by
    rcases turn.answers handled.sane.kept.subscribed answers with
      same | ⟨invalid, state, link, after, asked, given⟩
    · exact handled.answers other known strid same
    · rw [handled.framed.idx other known] at asked
      refine .inr ⟨?_, state, link, after, asked, given⟩
      by_contra valid
      exact handled.valid other valid invalid

omit [DecidableEq NameBucket] [DecidableEq IndexBucket] in
theorem Handled.unclashed (handled : Handled platform first world)
    (enrolled : Enrolled interface world)
    (apart : (first.objects interface).state = .invalid → Apart platform first interface) :
    ¬ Clashes platform world interface := by
  rintro ⟨invalid, state, link, after, asked, strid, given, other, there, different, answers⟩
  have wasInvalid : (first.objects interface).state = .invalid := by
    by_contra valid
    exact handled.valid interface valid invalid
  have known := handled.framed.enrolled_first there
  rw [handled.framed.idx interface (handled.framed.enrolled_first enrolled)] at asked
  exact apart wasInvalid state link after asked strid given other known different
    (handled.answers other known strid answers)

structure Accepting (platform : Platform NameBucket IndexBucket Kstate)
    (first world : World NameBucket IndexBucket Kstate) : Prop
    extends Handled platform first world where
  tracks : Tracks platform first world
  grows : Grows first world

omit [DecidableEq NameBucket] [DecidableEq IndexBucket] in
theorem trivial_history (kernel : Kernel Kstate) (member : UInt32 → Prop) :
    History kernel member fun _ _ => True :=
  ⟨fun _ _ => trivial, fun _ _ _ => trivial⟩

theorem effect_within (reports : KernelReports platform.kernel)
    (within : Within platform first world) {change : LeafChange}
    (effect : Effect platform change world next) :
    Within platform first next := by
  have subscribed := within.sane.kept.subscribed
  refine ⟨effect_sane reports within.sane effect, ?_⟩
  cases effect with
  | reads reads =>
      cases reads with
      | nothing => exact within.framed
      | unread located sync =>
          exact sync_framed reports (trivial_history _ _) within.framed subscribed
            (from_node_enrolled within.sane.kept located) sync
      | read located sync =>
          have synced := sync_framed reports (trivial_history _ _) within.framed subscribed
            (from_node_enrolled within.sane.kept located) sync
          exact ⟨synced.ifaces, synced.idx, synced.staged, trivial⟩
  | set located done =>
      exact set_framed reports (trivial_history _ _) within.framed subscribed
        (from_node_enrolled within.sane.kept located) done

theorem Accepting.visit (accepting : Accepting platform first world) (kept : Kept platform first)
    (reports : KernelReports platform.kernel) {change : LeafChange}
    (visited : nlifdIfaceChangeHndlr platform change world = .ok (.ok, next)) :
    Accepting platform first next := by
  have within := effect_within reports accepting.toWithin (change_hndlr_effect visited)
  rcases change_hndlr_turn visited with ⟨rfl, _⟩ | ⟨interface, located, turn⟩
  · exact accepting
  · have enrolled := from_node_enrolled accepting.sane.kept located
    exact ⟨accepting.toHandled.turn turn within,
      accepting.tracks.turn kept accepting.toHandled reports enrolled turn,
      accepting.grows.trans (turn.grows accepting.sane.kept reports enrolled).1⟩

theorem Accepting.marks (accepting : Accepting platform first world) {change : LeafChange}
    (visited : nlifdIfaceChangeHndlr platform change world = .ok (.ok, next))
    (resyncs : Resynchronises change)
    (located : nlifdIfaceFromNode platform change first = some interface) :
    (next.objects interface).state ≠ .invalid := by
  have subscribed := accepting.sane.kept.subscribed
  rcases change_hndlr_turn visited with ⟨_, idle⟩ | ⟨other, there, turn⟩
  · exact absurd resyncs idle
  · rcases accepting.tracks.found change interface located with same | valid
    · cases same.symm.trans there
      exact turn.resynced subscribed
    · exact turn.valid subscribed valid

structure Restoring (platform : Platform NameBucket IndexBucket Kstate)
    (first world : World NameBucket IndexBucket Kstate) : Prop
    extends Handled platform first world where
  grown : first.trace <:+ world.trace
  tracks : Refused first world ∨ Tracks platform first world

section Restoring

variable {sysrepo : Sysrepo} {change : LeafChange} {answer : SrError}

theorem Restoring.outcome {code : Int} (restoring : Restoring platform first world)
    (reports : KernelReports platform.kernel)
    (apart : ∀ interface, Enrolled interface first →
      (first.objects interface).state = .invalid → Apart platform first interface)
    (enrolled : Enrolled interface world) (turn : Turn platform interface world code next) :
    world.trace <:+ next.trace ∧ (code = 0 ∨ Refused first next) := by
  obtain ⟨⟨added, same, _⟩, outcome⟩ := turn.grows restoring.sane.kept reports enrolled
  refine ⟨⟨added, same.symm⟩, ?_⟩
  rcases outcome with zero | refused | clashes
  · exact .inl zero
  · exact .inr (refused.from_later restoring.grown)
  · exact absurd clashes (restoring.unclashed enrolled
      (apart interface (restoring.framed.enrolled_first enrolled)))

theorem Restoring.visit (restoring : Restoring platform first world)
    (kept : Kept platform first) (reports : KernelReports platform.kernel)
    (apart : ∀ interface, Enrolled interface first →
      (first.objects interface).state = .invalid → Apart platform first interface)
    (visited : nlifdIfaceRestoreHndlr sysrepo platform change world = .ok (answer, next)) :
    Restoring platform first next := by
  have within := effect_within reports restoring.toWithin (restore_hndlr_effect visited).2
  rcases restore_hndlr_turn visited with ⟨rfl, _⟩ | ⟨interface, code, located, turn⟩
  · exact restoring
  · have enrolled := from_node_enrolled restoring.sane.kept located
    obtain ⟨grown, outcome⟩ := restoring.outcome reports apart enrolled turn
    refine ⟨restoring.toHandled.turn turn within, restoring.grown.trans grown, ?_⟩
    rcases restoring.tracks with refused | tracks
    · exact .inl (refused.grown grown)
    · rcases outcome with rfl | refused
      · exact .inr (tracks.turn kept restoring.toHandled reports enrolled turn)
      · exact .inl refused

theorem Restoring.marks (restoring : Restoring platform first world)
    (reports : KernelReports platform.kernel)
    (apart : ∀ interface, Enrolled interface first →
      (first.objects interface).state = .invalid → Apart platform first interface)
    (visited : nlifdIfaceRestoreHndlr sysrepo platform change world = .ok (answer, next))
    (restores : Restores sysrepo change)
    (located : nlifdIfaceFromNode platform change first = some interface) :
    Refused first next ∨ (next.objects interface).state ≠ .invalid := by
  have subscribed := restoring.sane.kept.subscribed
  rcases restore_hndlr_turn visited with ⟨rfl, idle⟩ | ⟨other, code, there, turn⟩
  · rcases restoring.tracks with refused | tracks
    · exact .inl refused
    · rcases tracks.found change interface located with same | valid
      · exact absurd restores (idle interface same)
      · exact .inr valid
  · have enrolled := from_node_enrolled restoring.sane.kept there
    obtain ⟨grown, outcome⟩ := restoring.outcome reports apart enrolled turn
    rcases restoring.tracks with refused | tracks
    · exact .inl (refused.grown grown)
    · rcases tracks.found change interface located with same | valid
      · cases same.symm.trans there
        rcases outcome with rfl | refused
        · exact .inr (turn.resynced subscribed)
        · exact .inl refused
      · exact .inr (turn.valid subscribed valid)

end Restoring

omit [DecidableEq IndexBucket] in
/-- Without a staged string the MODIFY event passes by the string indices. -/
theorem modify_plain (hash : Hashing NameBucket IndexBucket) (objects : Objects)
    (interface : Addr) (store : Store NameBucket IndexBucket)
    (plain : (objects interface).dirtyFields = ∅) :
    storeOnIfaceModify hash objects interface store = .ok (0, store) := by
  simp [storeOnIfaceModify, storeRehash, rehashWhen, plain]

structure Applied (interface : Addr) (world : World NameBucket IndexBucket Kstate) (ret : Int)
    (next : World NameBucket IndexBucket Kstate) : Prop where
  names : ∀ address, (next.objects address).name = (world.objects address).name
  aliases : ∀ address, (next.objects address).ifalias = (world.objects address).ifalias
  nameh : next.store.nameh = world.store.nameh
  answer : 0 ≤ ret ∧ Grows world next ∨
    ret < 0 ∧ ∃ event earlier, next.trace = event :: earlier ++ world.trace ∧
      setlinkRefused event = some (world.objects interface).idx ∧
      ∀ other ∈ earlier, setlinkRefused other = none

theorem apply_applied (subscribed : world.gate.notif = true)
    (plain : (world.objects interface).dirtyFields = ∅)
    (done : ifaceApply platform interface world = .ok (ret, next)) :
    Applied interface world ret next := by
  have names : ∀ address, (next.objects address).name = (world.objects address).name :=
    apply_field platform interface world (fun _ => rfl) (fun _ => rfl) done
  have aliases : ∀ address, (next.objects address).ifalias = (world.objects address).ifalias :=
    apply_field platform interface world (fun _ => rfl) (fun _ => rfl) done
  cases (iface_apply_ok_iff ..).mp done with
  | idle => exact ⟨names, aliases, rfl, .inl ⟨le_refl 0, [_], rfl, by simp [setlinkRefused]⟩⟩
  | @refused request _ error dirty built =>
      have negative := ynl_err_negative error
      have index : request.ifiIndex = (world.objects interface).idx := by
        simp only [ifaceSetlinkReq, plain, Finset.notMem_empty, if_false, ok_bind] at built
        cases built
        rfl
      refine ⟨names, aliases, rfl, .inr ⟨negative, _, [_], rfl, ?_, by simp [setlinkRefused]⟩⟩
      simp [setlinkRefused, index, negative.ne]
  | applied _ _ _ notified =>
      obtain ⟨store, rehashed, rfl⟩ := gate_notify_modify_heard _ _ _ notified subscribed
      cases (modify_plain _ _ _ _ plain).symm.trans rehashed
      exact ⟨names, aliases, rfl, .inl ⟨by decide, [_, _, _], rfl, by simp [setlinkRefused]⟩⟩
  | clashed _ _ _ notified failed =>
      obtain ⟨store, rehashed, rfl⟩ := gate_notify_modify_heard _ _ _ notified subscribed
      cases (modify_plain _ _ _ _ plain).symm.trans rehashed
      exact absurd rfl failed

theorem apply_within (within : Within platform first world) {hndl : Hndl}
    (member : hndl ∈ world.store.ifaces) (valid : (world.objects hndl.iface).state ≠ .invalid)
    (done : applyIface platform hndl world = .ok (ret, next)) :
    Within platform first next ∧ Applied hndl.iface world ret next := by
  have enrolled : Enrolled hndl.iface world := ⟨hndl, member, rfl⟩
  have subscribed := within.sane.kept.subscribed
  have plain := (within.framed.staged _ (within.framed.enrolled_first enrolled)).fields
  have sane := apply_visit_sane within.sane member valid done
  obtain ⟨middle, applied, called⟩ := apply_iface_ok done
  have framed := apply_framed (trivial_history _ _) within.framed enrolled applied
  have outcome := apply_applied subscribed plain applied
  rcases called with ⟨rfl, rfl⟩ | ⟨_, rfl⟩
  · refine ⟨⟨sane, framed.ifaces, framed.idx, framed.staged, trivial⟩, outcome.names,
      outcome.aliases, outcome.nameh, .inl ⟨by decide, ?_⟩⟩
    exact (outcome.answer.resolve_right fun refused => absurd refused.1 (by decide)).2.trans
      (idle_call ..).grows
  · exact ⟨⟨sane, framed⟩, outcome⟩

structure Walking (platform : Platform NameBucket IndexBucket Kstate)
    (first world : World NameBucket IndexBucket Kstate) : Prop
    extends Within platform first world where
  valid : AllValid world
  names : ∀ address, (world.objects address).name = (first.objects address).name
  aliases : ∀ address, (world.objects address).ifalias = (first.objects address).ifalias
  nameh : world.store.nameh = first.store.nameh
  grows : Grows first world

/-- The apply loop was refused by this interface, which alone is `INVALID` now. -/
structure WalkRefused (platform : Platform NameBucket IndexBucket Kstate) (hndl : Hndl)
    (first world : World NameBucket IndexBucket Kstate) : Prop
    extends Within platform first world where
  member : hndl ∈ first.store.ifaces
  others : ∀ other ∈ world.store.ifaces, other ≠ hndl →
    (world.objects other.iface).state ≠ .invalid
  names : ∀ address, (world.objects address).name = (first.objects address).name
  aliases : ∀ address, (world.objects address).ifalias = (first.objects address).ifalias
  nameh : world.store.nameh = first.store.nameh
  refusal : ∃ event earlier, world.trace = event :: earlier ++ first.trace ∧
    setlinkRefused event = some (first.objects hndl.iface).idx ∧
    ∀ other ∈ earlier, setlinkRefused other = none

theorem walking_passes {front rest : List Hndl} (within : Within platform world world)
    (valid : AllValid world) (listed : world.store.ifaces = front ++ rest)
    (passes : Passes (applyIface platform) (fun ret => ret < 0) front world next) :
    Walking platform world next := by
  refine passes.invariant (Walking platform world) ?_
    ⟨within, valid, fun _ => rfl, fun _ => rfl, rfl, grows_refl world⟩
  intro other ahead state code after walking visited goes
  have member : other ∈ state.store.ifaces := by
    rw [walking.framed.ifaces, listed]
    exact List.mem_append_left _ ahead
  obtain ⟨inside, applied⟩ := apply_within walking.toWithin member (walking.valid other member)
    visited
  have onward := of_decide_eq_false goes
  exact
    { inside with
      valid := (apply_visit_valid walking.sane walking.valid member visited onward).2.1
      names := fun address => (applied.names address).trans (walking.names address)
      aliases := fun address => (applied.aliases address).trans (walking.aliases address)
      nameh := applied.nameh.trans walking.nameh
      grows := walking.grows.trans
        (applied.answer.resolve_right fun refused => onward refused.1).2 }

theorem walk_refused (within : Within platform world world) (valid : AllValid world)
    (refused : applyIfaces platform world = .ok (ret, next)) (failed : ret < 0) :
    ∃ hndl, WalkRefused platform hndl world next := by
  rcases stopping_ok_iff.mp refused with
    ⟨rfl, _⟩ | ⟨_, front, hndl, rest, middle, listed, passes, visited⟩
  · exact absurd failed (lt_irrefl 0)
  have walking := walking_passes within valid listed passes
  have member : hndl ∈ middle.store.ifaces := by
    rw [walking.framed.ifaces, listed]
    simp
  have known : hndl ∈ world.store.ifaces := walking.framed.ifaces ▸ member
  obtain ⟨inside, applied⟩ := apply_within walking.toWithin member (walking.valid hndl member)
    visited
  obtain ⟨_, event, earlier, same, about, clear⟩ :=
    applied.answer.resolve_left fun answered => absurd failed (not_lt.mpr answered.1)
  obtain ⟨front, before, alsoClear⟩ := walking.grows
  refine ⟨hndl, inside, known, fun other there different => ?_,
    fun address => (applied.names address).trans (walking.names address),
    fun address => (applied.aliases address).trans (walking.aliases address),
    applied.nameh.trans walking.nameh, event, earlier ++ front, ?_, ?_, ?_⟩
  · obtain ⟨last, done, called⟩ := apply_iface_ok visited
    have shape : next = last := by
      rcases called with ⟨rfl, _⟩ | ⟨_, same⟩
      · exact absurd failed (by decide)
      · exact same
    subst shape
    have touched := apply_local done
    have enrolled : other ∈ middle.store.ifaces := touched.ifaces ▸ there
    rw [touched.elsewhere _ fun alike =>
      different (walking.sane.kept.linked.same_iface enrolled member alike)]
    exact walking.valid other enrolled
  · rw [same, before, List.cons_append, List.cons_append, List.append_assoc]
  · rw [about, walking.framed.idx hndl.iface ⟨hndl, known, rfl⟩]
  · exact fun other there => (List.mem_append.mp there).elim (clear other) (alsoClear other)

def NamedBy (kind : LeafChange → Prop) (platform : Platform NameBucket IndexBucket Kstate)
    (changes : List LeafChange) (world : World NameBucket IndexBucket Kstate)
    (interface : Addr) : Prop :=
  ∃ change ∈ changes, kind change ∧ nlifdIfaceFromNode platform change world = some interface

/-- A leaf that is restored names the interface, and the kernel keeps it apart. -/
structure Restorable (sysrepo : Sysrepo) (platform : Platform NameBucket IndexBucket Kstate)
    (changes : List LeafChange) (world : World NameBucket IndexBucket Kstate)
    (interface : Addr) : Prop where
  named : NamedBy (Restores sysrepo) platform changes world interface
  apart : Apart platform world interface

variable {sysrepo : Sysrepo} {changes : List LeafChange} {answer : SrError}

omit [DecidableEq NameBucket] [DecidableEq IndexBucket] in
theorem Within.here (within : Within platform first world) : Within platform world world :=
  ⟨within.sane, rfl, fun _ _ => rfl,
    fun interface enrolled =>
      within.framed.staged interface (within.framed.enrolled_first enrolled),
    trivial⟩

omit [DecidableEq NameBucket] [DecidableEq IndexBucket] in
theorem from_node_same {change : LeafChange}
    (names : ∀ address, (next.objects address).name = (world.objects address).name)
    (nameh : next.store.nameh = world.store.nameh) :
    nlifdIfaceFromNode platform change next = nlifdIfaceFromNode platform change world := by
  unfold nlifdIfaceFromNode
  simp only [find_byname_same names nameh]

omit [DecidableEq NameBucket] [DecidableEq IndexBucket] in
theorem WalkRefused.restorable {staged : World NameBucket IndexBucket Kstate} {hndl : Hndl}
    (refused : WalkRefused platform hndl staged world) (accepting : Accepting platform first staged)
    (nameKept : NameKept platform first hndl.iface)
    (restorable : Restorable sysrepo platform changes first hndl.iface) :
    Restorable sysrepo platform changes world hndl.iface where
  named := by
    obtain ⟨change, listed, restores, located⟩ := restorable.named
    refine ⟨change, listed, restores, ?_⟩
    rw [from_node_same refused.names refused.nameh]
    exact accepting.tracks.named change hndl.iface located nameKept
  apart := by
    intro state link after asked strid given other enrolled different answers
    have known := accepting.framed.enrolled_first (refused.framed.enrolled_first enrolled)
    have member : Enrolled hndl.iface staged := ⟨hndl, refused.member, rfl⟩
    rw [refused.framed.idx _ member,
      accepting.framed.idx _ (accepting.framed.enrolled_first member)] at asked
    refine restorable.apart state link after asked strid given other known different ?_
    rcases answers with same | ⟨invalid, _⟩
    · rw [AnswersTo, refused.names, refused.aliases] at same
      exact accepting.answers other known strid same
    · obtain ⟨node, there, rfl⟩ := enrolled
      exact absurd invalid (refused.others node there fun same => different (same ▸ rfl))

variable {objects : Objects} {kernel : Kstate} {start : World NameBucket IndexBucket Kstate}

end Calls

def raisedLink : GetlinkRsp := { firstLink with ifiFlags := IFF_UP }

end Nlif.DaemonRevalidation
