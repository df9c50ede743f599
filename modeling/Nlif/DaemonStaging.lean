import Nlif.DaemonRun

/-!
# What a failed transaction leaves staged

A change of configuration stages its leaves one by one and applies them at the
end. When the kernel refuses, the abort loop settles every interface; when a
handler fails, nothing is taken back. A failed transaction therefore leaves an
interface `DIRTY` exactly where a handler fails after an earlier one staged.
-/

namespace Nlif.DaemonStaging

open LinkModel IfaceModel FaultWalk FaultLoop BucketTable StoreModel StoreRehash GateModel
  GateSpec StoreInvariant StoreLookup LibraryRun LabelledRun DaemonModel DaemonSpec DaemonRun

set_option autoImplicit false

variable {NameBucket IndexBucket Kstate : Type}

def NoneDirty (world : World NameBucket IndexBucket Kstate) : Prop :=
  ∀ hndl ∈ world.store.ifaces, (world.objects hndl.iface).state ≠ .dirty

theorem NoneDirty.local {interface : Addr} {world next : World NameBucket IndexBucket Kstate}
    (clean : NoneDirty world) (touched : Local interface world next)
    (self : (next.objects interface).state ≠ .dirty) : NoneDirty next := by
  intro hndl member
  by_cases same : hndl.iface = interface
  · rw [same]
    exact self
  · rw [touched.elsewhere _ same]
    exact clean hndl (touched.ifaces ▸ member)

structure Listed (store : Store NameBucket IndexBucket) : Prop where
  nameh : Chained store.ifaces store.nameh
  indxh : Chained store.ifaces store.indxh

theorem from_node_listed {platform : Platform NameBucket IndexBucket Kstate} {interface : Addr}
    {world : World NameBucket IndexBucket Kstate} {change : LeafChange}
    (listed : Listed world.store)
    (found : nlifdIfaceFromNode platform change world = some interface) :
    ∃ hndl ∈ world.store.ifaces, hndl.iface = interface := by
  obtain ⟨name, _, named⟩ := from_node_some found
  unfold storeFindIfaceByname at named
  split at named
  · obtain ⟨hndl, searched, rfl⟩ := Option.map_eq_some_iff.mp named
    exact ⟨hndl, listed.nameh.registered _ hndl (List.mem_of_find?_eq_some searched), rfl⟩
  · cases named

variable [DecidableEq NameBucket]

theorem rehash_listed {hash : Hashing NameBucket IndexBucket} {objects : Objects}
    {interface : Addr} {store after : Store NameBucket IndexBucket} {ret : Int}
    (listed : Listed store)
    (done : storeOnIfaceReload hash objects interface store = .ok (ret, after)) :
    Listed after := by
  rcases found : storeSearchIfaceHndlByindex hash objects store (objects interface).idx with
    _ | hndl
  · rw [storeOnIfaceReload, store_rehash_unfound _ _ _ _ _ _ found] at done
    cases done
  · have member : hndl ∈ store.ifaces :=
      listed.indxh.registered _ hndl (List.mem_of_find?_eq_some found)
    have relisted := rehash_relisted ((store_rehash_ok_iff _ _ found).mp done)
    constructor
    · rw [relisted.ifaces]
      exact listed.nameh.relinked member relisted.nameh
    · rw [relisted.ifaces, relisted.indxh]
      exact listed.indxh

section Calls

variable {platform : Platform NameBucket IndexBucket Kstate} {interface : Addr}
  {world next : World NameBucket IndexBucket Kstate} {ret : Int} {answer : SrError}
  {change : LeafChange}

theorem reload_listed (listed : Listed world.store)
    (reload : Reload platform interface world ret next) : Listed next.store := by
  cases reload with
  | unanswered => exact listed
  | accepted _ _ _ rehashed => exact rehash_listed listed rehashed
  | clashed _ _ _ rehashed => exact rehash_listed listed rehashed

theorem reload_not_dirty (reload : Reload platform interface world ret next) :
    (next.objects interface).state ≠ .dirty := by
  cases reload with
  | unanswered | accepted | clashed =>
      simp [reloaded, answered, World.invalidate, World.setObject, ifaceFill]

variable [DecidableEq IndexBucket]

theorem sync_none_dirty (subscribed : world.gate.notif = true) (clean : NoneDirty world)
    (sync : ifaceSync platform interface world = .ok (ret, next)) : NoneDirty next := by
  rcases (iface_sync_ok_iff _ _ _ subscribed _ _).mp sync with ⟨_, _, rfl⟩ | ⟨_, reload⟩
  · exact clean
  · exact clean.local (reload_local reload) (reload_not_dirty reload)

/-- The leaf asks its interface for an admin state it does not have. -/
def Stages (platform : Platform NameBucket IndexBucket Kstate) (change : LeafChange)
    (world : World NameBucket IndexBucket Kstate) : Prop :=
  ∃ value dflt asked interface synced, change.node = .enabled value dflt ∧
    changedValue value dflt change.oper = some asked ∧
    nlifdIfaceFromNode platform change world = some interface ∧
    ifaceSync platform interface world = .ok (0, synced) ∧
    ifaceAdmstateOf (synced.objects interface) ≠ asked

theorem set_admstate_ok {value : Bool}
    (done : ifaceSetAdmstate platform value interface world = .ok (ret, next)) :
    ∃ synced middle, ifaceSync platform interface world = .ok (synced, middle) ∧
      ((synced ≠ 0 ∧ ret = synced ∧ next = middle) ∨
        (synced = 0 ∧ ret = 0 ∧
          ((ifaceAdmstateOf (middle.objects interface) = value ∧ next = middle) ∨
            (ifaceAdmstateOf (middle.objects interface) ≠ value ∧
              next = middle.setObject interface
                (edited (middle.objects interface) (.admstate value)))))) := by
  obtain ⟨synced, middle, sync, failed | ⟨zero, object, staged, rfl⟩⟩ :=
    iface_set_ok platform interface world done
  · exact ⟨synced, middle, sync, .inl failed⟩
  · refine ⟨synced, middle, sync, .inr ⟨zero, ?_⟩⟩
    simp only [stage, stageAdmstate] at staged
    split at staged
    · rename_i different
      cases staged
      refine ⟨rfl, .inr ⟨fun same => different ?_, rfl⟩⟩
      rwa [masked_up_iff, ← iface_admstate_of_eq]
    · rename_i same
      cases staged
      refine ⟨rfl, .inl ⟨?_, ?_⟩⟩
      · rw [iface_admstate_of_eq, ← masked_up_iff]
        exact not_not.mp same
      · simp [World.setObject, Function.update_eq_self]

theorem change_hndlr_none_dirty (subscribed : world.gate.notif = true) (clean : NoneDirty world)
    (done : nlifdIfaceChangeHndlr platform change world = .ok (answer, next))
    (spared : answer ≠ .ok ∨ ¬ Stages platform change world) : NoneDirty next := by
  unfold nlifdIfaceChangeHndlr at done
  split at done
  · rename_i value dflt node
    rcases change_enabled_ok_iff.mp done with
      ⟨_, _, rfl⟩ | ⟨interface, found, ⟨_, _, rfl⟩ | ⟨asked, code, wanted, set, rfl⟩⟩
    · exact clean
    · exact clean
    · obtain ⟨synced, middle, sync, ⟨_, _, rfl⟩ | ⟨rfl, rfl, ⟨_, rfl⟩ | ⟨different, rfl⟩⟩⟩ :=
        set_admstate_ok set
      · exact sync_none_dirty subscribed clean sync
      · exact sync_none_dirty subscribed clean sync
      · rcases spared with failed | unstaged
        · exact absurd rfl failed
        · exact absurd ⟨value, dflt, asked, interface, middle, node, wanted, found, sync,
            different⟩ unstaged
  · cases change_type_reads done with
    | nothing => exact clean
    | unread _ sync => exact sync_none_dirty subscribed clean sync
    | read _ sync =>
        have synced := sync_none_dirty subscribed clean sync
        exact synced

theorem sync_dirty {other : Addr} (subscribed : world.gate.notif = true)
    (dirty : (world.objects other).state = .dirty)
    (sync : ifaceSync platform interface world = .ok (ret, next)) :
    (next.objects other).state = .dirty := by
  rcases (iface_sync_ok_iff _ _ _ subscribed _ _).mp sync with ⟨_, _, rfl⟩ | ⟨invalid, reload⟩
  · exact dirty
  · have different : other ≠ interface := by
      rintro rfl
      rw [dirty] at invalid
      cases invalid
    rw [(reload_local reload).elsewhere _ different]
    exact dirty

theorem effect_dirty {other : Addr} (subscribed : world.gate.notif = true)
    (dirty : (world.objects other).state = .dirty) (effect : Effect platform change world next) :
    (next.objects other).state = .dirty := by
  cases effect with
  | reads reads =>
      cases reads with
      | nothing => exact dirty
      | unread _ sync => exact sync_dirty subscribed dirty sync
      | read _ sync =>
          have synced := sync_dirty subscribed dirty sync
          exact synced
  | @set interface _ _ _ _ done =>
      obtain ⟨_, middle, sync, ⟨_, _, rfl⟩ | ⟨_, _, ⟨_, rfl⟩ | ⟨_, rfl⟩⟩⟩ := set_admstate_ok done
      · exact sync_dirty subscribed dirty sync
      · exact sync_dirty subscribed dirty sync
      · by_cases same : other = interface
        · subst same
          simp [World.setObject, edited]
        · rw [(local_set_object interface _ middle).elsewhere _ same]
          exact sync_dirty subscribed dirty sync

theorem stages_dirty (stages : Stages platform change world)
    (done : nlifdIfaceChangeHndlr platform change world = .ok (answer, next)) :
    ∃ interface, nlifdIfaceFromNode platform change world = some interface ∧
      (next.objects interface).state = .dirty := by
  obtain ⟨value, dflt, asked, interface, synced, node, wanted, found, sync, different⟩ := stages
  rw [nlifdIfaceChangeHndlr, node] at done
  rcases change_enabled_ok_iff.mp done with
    ⟨unfound, _⟩ | ⟨other, foundToo, ⟨unwanted, _⟩ | ⟨again, code, wantedToo, set, _⟩⟩
  · cases found.symm.trans unfound
  · cases wanted.symm.trans unwanted
  · cases found.symm.trans foundToo
    cases wanted.symm.trans wantedToo
    refine ⟨interface, found, ?_⟩
    obtain ⟨_, middle, syncToo, outcome⟩ := set_admstate_ok set
    cases sync.symm.trans syncToo
    rcases outcome with ⟨failed, _⟩ | ⟨_, _, ⟨same, _⟩ | ⟨_, rfl⟩⟩
    · exact absurd rfl failed
    · exact absurd same different
    · simp [World.setObject, edited]

theorem effect_listed (subscribed : world.gate.notif = true) (listed : Listed world.store)
    (effect : Effect platform change world next) : Listed next.store := by
  have synced : ∀ {interface : Addr} {ret : Int} {next : World NameBucket IndexBucket Kstate},
      ifaceSync platform interface world = .ok (ret, next) → Listed next.store := by
    intro interface ret next sync
    rcases (iface_sync_ok_iff _ _ _ subscribed _ _).mp sync with ⟨_, _, rfl⟩ | ⟨_, reload⟩
    · exact listed
    · exact reload_listed listed reload
  cases effect with
  | reads reads =>
      cases reads with
      | nothing => exact listed
      | unread _ sync | read _ sync =>
          have after := synced sync
          exact after
  | set _ done =>
      obtain ⟨_, middle, sync, ⟨_, _, rfl⟩ | ⟨_, _, _, rfl⟩⟩ := iface_set_ok _ _ _ done
      · exact synced sync
      · have after := synced sync
        exact after

structure Standing (world next : World NameBucket IndexBucket Kstate) : Prop where
  subscribed : next.gate.notif = true
  listed : Listed next.store
  ifaces : next.store.ifaces = world.store.ifaces

theorem standing_effect (standing : Standing world next)
    {after : World NameBucket IndexBucket Kstate} (effect : Effect platform change next after) :
    Standing world after := by
  have listed := effect_listed standing.subscribed standing.listed effect
  rcases effect.local standing.subscribed with rfl | ⟨_, _, touched⟩
  · exact standing
  · exact ⟨touched.gate ▸ standing.subscribed, listed, touched.ifaces.trans standing.ifaces⟩

/-- The leaves and answers a change handler fails on: no interface has the name in the
path, the leaf is moved, the link of an invalid interface is refused, or the 'type' asked
for is not the one of the link. -/
inductive Refused (platform : Platform NameBucket IndexBucket Kstate) (change : LeafChange)
    (world : World NameBucket IndexBucket Kstate) : Prop
  | unknown (missing : nlifdIfaceFromNode platform change world = none)
  | moved {interface : Addr} (found : nlifdIfaceFromNode platform change world = some interface)
      (oper : change.oper = .moved)
  | unsynced {interface : Addr} {err : Int} {synced : World NameBucket IndexBucket Kstate}
      (found : nlifdIfaceFromNode platform change world = some interface)
      (asks : Resynchronises change) (invalid : (world.objects interface).state = .invalid)
      (reload : Reload platform interface world err synced) (refused : err ≠ 0)
  | mistyped {interface : Addr} {value : CString} {text : Option CString}
      {synced : World NameBucket IndexBucket Kstate}
      (found : nlifdIfaceFromNode platform change world = some interface)
      (node : change.node = .type value) (asks : Resynchronises change)
      (sync : ifaceSync platform interface world = .ok (0, synced))
      (told : nlifdIfaceTypeStr (synced.objects interface).type (synced.objects interface).kind =
        .ok text)
      (other : text ≠ some value)

/-- A synchronisation is refused where the reload of an invalid interface is. -/
theorem sync_refused_iff (subscribed : world.gate.notif = true)
    (sync : ifaceSync platform interface world = .ok (ret, next)) :
    ret ≠ 0 ↔ (world.objects interface).state = .invalid ∧
      ∃ err synced, Reload platform interface world err synced ∧ err ≠ 0 := by
  constructor
  · intro failed
    rcases (iface_sync_ok_iff _ _ _ subscribed _ _).mp sync with
      ⟨_, rfl, _⟩ | ⟨invalid, reload⟩
    · exact absurd rfl failed
    · exact ⟨invalid, ret, next, reload, failed⟩
  · rintro ⟨invalid, err, synced, reload, refused⟩
    have again := (iface_sync_ok_iff _ _ _ subscribed _ _).mpr (.inr ⟨invalid, reload⟩)
    cases sync.symm.trans again
    exact refused

theorem change_type_compares {value : CString}
    (found : nlifdIfaceFromNode platform change world = some interface)
    (oper : change.oper = .created ∨ change.oper = .modified)
    (done : nlifdIfaceChangeType platform value change world = .ok (answer, next)) :
    ∃ code synced, ifaceSync platform interface world = .ok (code, synced) ∧
      ((code ≠ 0 ∧ answer ≠ .ok) ∨
        (code = 0 ∧ ∃ text, nlifdIfaceTypeStr (synced.objects interface).type
          (synced.objects interface).kind = .ok text ∧ (answer ≠ .ok ↔ text ≠ some value))) := by
  obtain ⟨type, after, asked, judged⟩ : ∃ type after,
      nlifdIfaceCoherentTypeStr platform interface world = .ok (type, after) ∧
        ((∃ ret, type = .error ret ∧ answer = nlifdIfaceError ret) ∨
          ∃ text, type = .ok text ∧ (answer ≠ .ok ↔ some text ≠ some value)) := by
    unfold nlifdIfaceChangeType at done
    rcases oper with oper | oper <;> simp only [found, oper] at done
    all_goals
      obtain ⟨⟨type, after⟩, asked, judged⟩ := (bind_ok_iff ..).mp done
      refine ⟨type, after, asked, ?_⟩
      rcases type with ret | text
      · cases judged
        exact .inl ⟨_, rfl, rfl⟩
      · refine .inr ⟨text, rfl, ?_⟩
        simp only at judged
        split at judged <;> cases judged
        · exact iff_of_true (by decide) (by simpa)
        · exact iff_of_false (by simp) (by simp_all)
  obtain ⟨⟨outcome, synced⟩, coherent, asked⟩ := (bind_ok_iff ..).mp asked
  obtain ⟨code, sync, ⟨failed, rfl⟩ | ⟨rfl, rfl⟩⟩ := iface_coherent_ok _ _ _ coherent
  · cases asked
    obtain ⟨ret, same, rfl⟩ | ⟨text, other, _⟩ := judged
    · cases same
      exact ⟨code, _, sync, .inl ⟨failed, mt (nlifd_iface_error_ok_iff code).mp failed⟩⟩
    · cases other
  · obtain ⟨text, told, asked⟩ := (bind_ok_iff ..).mp asked
    refine ⟨0, synced, sync, .inr ⟨rfl, text, told, ?_⟩⟩
    rcases text with _ | text <;> cases asked
    · obtain ⟨ret, same, rfl⟩ | ⟨text, other, _⟩ := judged
      · cases same
        exact iff_of_true (by decide) (by simp)
      · cases other
    · obtain ⟨ret, other, _⟩ | ⟨_, same, judged⟩ := judged
      · cases other
      · cases same
        exact judged

theorem change_enabled_fails_iff {value : Bool} {dflt : Option Bool}
    (subscribed : world.gate.notif = true) (node : change.node = .enabled value dflt)
    (done : nlifdIfaceChangeEnabled platform value dflt change world = .ok (answer, next)) :
    answer ≠ .ok ↔ Refused platform change world := by
  rcases change_enabled_ok_iff.mp done with
    ⟨missing, rfl, _⟩ | ⟨interface, found, ⟨unasked, rfl, _⟩ | ⟨asked, code, wanted, set, rfl⟩⟩
  · exact iff_of_true (by decide) (.unknown missing)
  · have oper : change.oper = .moved := by
      cases oper : change.oper <;> simp_all [changedValue]
    exact iff_of_true (by decide) (.moved found oper)
  · have oper : change.oper ≠ .moved := by
      intro oper
      simp [changedValue, oper] at wanted
    have asks : Resynchronises change := by simpa [Resynchronises, node] using oper
    obtain ⟨synced, middle, sync, outcome⟩ := set_admstate_ok set
    have same : code = synced := by
      rcases outcome with ⟨_, rfl, _⟩ | ⟨rfl, rfl, _⟩ <;> rfl
    subst same
    rw [ne_eq, nlifd_iface_error_ok_iff]
    constructor
    · intro failed
      obtain ⟨invalid, _, _, reload, refused⟩ := (sync_refused_iff subscribed sync).mp failed
      exact .unsynced found asks invalid reload refused
    · intro refused
      cases refused with
      | unknown missing => exact absurd (missing.symm.trans found) (by simp)
      | moved _ moved => exact absurd moved oper
      | unsynced again _ invalid reload refused =>
          cases again.symm.trans found
          exact (sync_refused_iff subscribed sync).mpr ⟨invalid, _, _, reload, refused⟩
      | mistyped _ other => exact absurd (other.symm.trans node) (by simp)

theorem change_type_fails_iff {value : CString} (subscribed : world.gate.notif = true)
    (node : change.node = .type value)
    (done : nlifdIfaceChangeType platform value change world = .ok (answer, next)) :
    answer ≠ .ok ↔ Refused platform change world := by
  rcases found : nlifdIfaceFromNode platform change world with _ | interface
  · simp only [nlifdIfaceChangeType, found] at done
    cases done
    exact iff_of_true (by decide) (.unknown found)
  · have unlike : ∀ {oper}, change.oper = oper → (oper = .deleted ∨ oper = .moved) →
        ¬ Resynchronises change := by
      rintro _ oper (rfl | rfl) <;> simp [Resynchronises, node, oper]
    cases oper : change.oper with
    | deleted =>
        simp only [nlifdIfaceChangeType, found, oper] at done
        cases done
        refine iff_of_false (by simp) ?_
        intro refused
        cases refused with
        | unknown missing => exact absurd (missing.symm.trans found) (by simp)
        | moved _ moved => exact absurd (moved.symm.trans oper) (by simp)
        | unsynced _ asks => exact unlike oper (.inl rfl) asks
        | mistyped _ _ asks => exact unlike oper (.inl rfl) asks
    | moved =>
        simp only [nlifdIfaceChangeType, found, oper] at done
        cases done
        exact iff_of_true (by decide) (.moved found oper)
    | created | modified =>
        have asks : Resynchronises change := by simp [Resynchronises, node, oper]
        obtain ⟨code, synced, sync, ⟨failed, answered⟩ | ⟨rfl, text, told, judged⟩⟩ :=
          change_type_compares found (by simp [oper]) done
        · obtain ⟨invalid, _, _, reload, refused⟩ := (sync_refused_iff subscribed sync).mp failed
          exact iff_of_true answered (.unsynced found asks invalid reload refused)
        · refine judged.trans ⟨fun other => .mistyped found node asks sync told other, ?_⟩
          intro refused
          cases refused with
          | unknown missing => exact absurd (missing.symm.trans found) (by simp)
          | moved _ moved => exact absurd (moved.symm.trans oper) (by simp)
          | unsynced again _ invalid reload refused =>
              cases again.symm.trans found
              have failed := (sync_refused_iff subscribed sync).mpr
                ⟨invalid, _, _, reload, refused⟩
              exact absurd rfl failed
          | mistyped again same _ resync retold other =>
              cases again.symm.trans found
              cases same.symm.trans node
              cases sync.symm.trans resync
              cases told.symm.trans retold
              exact other

/-- A change handler that completes fails on these leaves and no others. -/
theorem change_hndlr_fails_iff (subscribed : world.gate.notif = true)
    (done : nlifdIfaceChangeHndlr platform change world = .ok (answer, next)) :
    answer ≠ .ok ↔ Refused platform change world := by
  unfold nlifdIfaceChangeHndlr at done
  split at done
  · exact change_enabled_fails_iff subscribed ‹_› done
  · exact change_type_fails_iff subscribed ‹_› done

abbrev Handled (platform : Platform NameBucket IndexBucket Kstate) :=
  Passes (nlifdIfaceChangeHndlr platform) (fun ret => ret ≠ .ok)

/-- A handler fails after an earlier leaf of the list staged its value. -/
def FailsAfterStaging (platform : Platform NameBucket IndexBucket Kstate)
    (changes : List LeafChange) (world : World NameBucket IndexBucket Kstate) : Prop :=
  ∃ front leaf between failing rest before middle answer next,
    changes = front ++ leaf :: between ++ failing :: rest ∧
    Handled platform front world before ∧ Stages platform leaf before ∧
    Handled platform (front ++ leaf :: between) world middle ∧
    nlifdIfaceChangeHndlr platform failing middle = .ok (answer, next) ∧ answer ≠ .ok

theorem handled_standing {changes : List LeafChange} (standing : Standing world world)
    (handled : Handled platform changes world next) : Standing world next :=
  handled.invariant (Standing world)
    (fun _ _ _ _ _ standing visited _ => standing_effect standing (change_hndlr_effect visited))
    standing

/-- In a transaction that completes, a handler fails after an earlier one staged exactly where
a leaf behind one that stages is refused. -/
theorem fails_after_staging_iff {sysrepo : Sysrepo} {changes : List LeafChange}
    (standing : Standing world world)
    (done : nlifdIfaceProcessChanges sysrepo platform changes world = .ok (answer, next)) :
    FailsAfterStaging platform changes world ↔
      ∃ front leaf between failing rest before middle,
        changes = front ++ leaf :: between ++ failing :: rest ∧
        Handled platform front world before ∧ Stages platform leaf before ∧
        Handled platform (front ++ leaf :: between) world middle ∧
        Refused platform failing middle := by
  constructor
  · rintro ⟨front, leaf, between, failing, rest, before, middle, error, after, split, reached,
      stages, handled, visited, failed⟩
    have subscribed := (handled_standing standing handled).subscribed
    exact ⟨front, leaf, between, failing, rest, before, middle, split, reached, stages, handled,
      (change_hndlr_fails_iff subscribed visited).mp failed⟩
  · rintro ⟨front, leaf, between, failing, rest, before, middle, rfl, reached, stages, handled,
      refused⟩
    have subscribed := (handled_standing standing handled).subscribed
    obtain ⟨ret, staged, handlers⟩ : ∃ ret staged, srplugProcessChildChanges
        (nlifdIfaceChangeHndlr platform) (front ++ leaf :: between ++ failing :: rest) world =
          .ok (ret, staged) := by
      cases process_changes_ok_iff.mp done with
      | rejected handlers | applied handlers | rolledBack handlers => exact ⟨_, _, handlers⟩
    obtain ⟨error, after, visited⟩ := handled.reaches handlers
    exact ⟨front, leaf, between, failing, rest, before, middle, error, after, rfl, reached, stages,
      handled, visited, (change_hndlr_fails_iff subscribed visited).mpr refused⟩

theorem handled_none_dirty {changes : List LeafChange} (standing : Standing world world)
    (clean : NoneDirty world) (handled : Handled platform changes world next)
    (unstaged : ∀ front leaf rest before, changes = front ++ leaf :: rest →
      Handled platform front world before → ¬ Stages platform leaf before) : NoneDirty next := by
  refine handled.along NoneDirty ?_ clean
  intro front leaf rest split middle answer after before clean visited _
  exact change_hndlr_none_dirty (handled_standing standing before).subscribed clean visited
    (.inr (unstaged front leaf rest middle split before))

theorem handled_dirty {front between : List LeafChange} {leaf : LeafChange}
    {before : World NameBucket IndexBucket Kstate} (standing : Standing world world)
    (reached : Handled platform front world before) (stages : Stages platform leaf before)
    (handled : Handled platform (front ++ leaf :: between) world next) :
    ∃ hndl ∈ world.store.ifaces, (next.objects hndl.iface).state = .dirty := by
  obtain ⟨start, again, rest⟩ := passes_append_iff.mp handled
  obtain ⟨answer, staged, visited, _, rest⟩ := rest
  have same : start = before := again.deterministic reached
  subst same
  have standingStart := handled_standing standing reached
  obtain ⟨interface, found, dirty⟩ := stages_dirty stages visited
  obtain ⟨hndl, member, rfl⟩ := from_node_listed standingStart.listed found
  have standingStaged := standing_effect standingStart (change_hndlr_effect visited)
  refine ⟨hndl, standingStart.ifaces ▸ member, ?_⟩
  refine (rest.invariant (fun state => Standing world state ∧
    (state.objects hndl.iface).state = .dirty) ?_ ⟨standingStaged, dirty⟩).2
  rintro _ _ state answer after ⟨standing, dirty⟩ visited _
  have effect := change_hndlr_effect visited
  exact ⟨standing_effect standing effect, effect_dirty standing.subscribed dirty effect⟩

theorem aborts_none_dirty {sysrepo : Sysrepo} {changes : List LeafChange}
    (done : nlifdIfaceProcessAborts sysrepo platform changes world = .ok (answer, next)) :
    NoneDirty next := by
  obtain ⟨restored, _, passes⟩ := process_aborts_ok_iff.mp done
  have ifaces := passes.invariant
    (fun state : SrError × World NameBucket IndexBucket Kstate =>
      state.2.store.ifaces = restored.store.ifaces)
    (fun _ _ _ _ _ same visited _ => by
      rw [(apply_local (abort_iface_ok visited)).ifaces, same]) rfl
  have settles : ∀ {hndl : Hndl} {state after : SrError × World NameBucket IndexBucket Kstate}
      {code : Int}, abortIface platform hndl state = .ok (code, after) →
        (after.2.objects hndl.iface).state ≠ .dirty := by
    intro hndl state after code visited
    rcases apply_state (abort_iface_ok visited) with ⟨invalid, _⟩ | ⟨clean, _⟩ | ⟨same, _, idle⟩
    · simp [invalid]
    · simp [clean]
    · rw [same]
      exact idle
  have settled := passes.marked
    (fun (hndl : Hndl) (state : SrError × World NameBucket IndexBucket Kstate) =>
      (state.2.objects hndl.iface).state ≠ .dirty)
    (fun _ _ _ _ _ visited _ => settles visited)
    (fun item _ other _ state code after idle visited _ => by
      by_cases same : other.iface = item.iface
      · rw [same]
        exact settles visited
      · rw [(apply_local (abort_iface_ok visited)).elsewhere _ same]
        exact idle)
  intro hndl member
  rw [ifaces] at member
  exact settled hndl member

/-- A transaction that fails leaves nothing staged exactly where no handler fails
after an earlier leaf staged its value. -/
theorem failed_transaction_unstages_iff {sysrepo : Sysrepo} {changes : List LeafChange}
    (kept : Kept platform world) (clean : NoneDirty world)
    (done : nlifdIfaceProcessChanges sysrepo platform changes world = .ok (answer, next)) :
    (answer ≠ .ok → NoneDirty next) ↔ ¬ FailsAfterStaging platform changes world := by
  have standing : Standing world world :=
    ⟨kept.subscribed, ⟨kept.linked.nameh, kept.linked.indxh⟩, rfl⟩
  constructor
  · rintro unstages ⟨front, leaf, between, failing, rest, before, middle, error, after, rfl,
      reached, stages, handled, failed, nonzero⟩
    have rejected : srplugProcessChildChanges (nlifdIfaceChangeHndlr platform)
        (front ++ leaf :: between ++ failing :: rest) world = .ok (error, after) :=
      stopping_ok_iff.mpr (.inr ⟨by simpa using nonzero, _, failing, rest, middle, rfl, handled,
        failed⟩)
    cases done.symm.trans (process_changes_ok_iff.mpr (.rejected rejected nonzero))
    obtain ⟨hndl, member, dirty⟩ := handled_dirty standing reached stages handled
    have standingMiddle := handled_standing standing handled
    have effect := change_hndlr_effect failed
    refine unstages nonzero hndl ?_ (effect_dirty standingMiddle.subscribed dirty effect)
    rw [(standing_effect standingMiddle effect).ifaces]
    exact member
  · intro unstaged failed
    cases process_changes_ok_iff.mp done with
    | applied => exact absurd rfl failed
    | rolledBack _ _ _ aborted => exact aborts_none_dirty aborted
    | rejected handled =>
        rcases stopping_ok_iff.mp handled with
          ⟨same, _⟩ | ⟨_, front, failing, rest, middle, rfl, passes, visited⟩
        · exact absurd same failed
        · have cleanMiddle : NoneDirty middle := by
            refine handled_none_dirty standing clean passes ?_
            rintro early leaf between before rfl reached stages
            exact unstaged ⟨early, leaf, between, failing, rest, before, middle, answer, next, rfl,
              reached, stages, passes, visited, failed⟩
          exact change_hndlr_none_dirty (handled_standing standing passes).subscribed cleanMiddle
            visited (.inl failed)

end Calls

def enableMissing : LeafChange := { enableLink with key := some ⟨[0x7a], by decide⟩ }

instance (world : World NameBucket IndexBucket Kstate) : Decidable (NoneDirty world) :=
  inferInstanceAs
    (Decidable (∀ hndl ∈ world.store.ifaces, (world.objects hndl.iface).state ≠ .dirty))

def setsAdmstate : Event → Bool
  | .setlink request ret => request.ifiChange = IFF_UP ∧ ret = 0
  | .getlink _ _ | .notified _ _ _ | .called _ _ _ => false

/-- Where the failing leaf comes first, nothing is staged. -/
theorem missing_first_unstages :
    ∃ world, nlifdIfaceProcessChanges agreeingSysrepo oneLinkPlatform [enableMissing, enableLink]
        (started oneLinkPlatform) = .ok (.notFound, world) ∧ NoneDirty world ∧
      ((SrError.notFound ≠ .ok → NoneDirty world) ↔
        ¬ FailsAfterStaging oneLinkPlatform [enableMissing, enableLink]
          (started oneLinkPlatform)) := by
  have opened : nlifdOpen oneLinkPlatform (fun _ => ifaceFill oneLink) () =
      .ok (0, started oneLinkPlatform) := rfl
  have kept := (open_sane (one_link_kernel_reports.dump ()) opened).kept
  have done : nlifdIfaceProcessChanges agreeingSysrepo oneLinkPlatform [enableMissing, enableLink]
      (started oneLinkPlatform) = .ok (.notFound, started oneLinkPlatform) := rfl
  exact ⟨_, done, by decide, failed_transaction_unstages_iff kept (by decide) done⟩

/-- Where it comes second, the first leaf stays staged, and the next transaction,
which changes nothing, sends it. -/
theorem missing_second_leaks :
    ∃ world later, NoneDirty (started oneLinkPlatform) ∧
      nlifdIfaceProcessChanges agreeingSysrepo oneLinkPlatform [enableLink, enableMissing]
        (started oneLinkPlatform) = .ok (.notFound, world) ∧ ¬ NoneDirty world ∧
      (∀ event ∈ world.trace, setsAdmstate event = false) ∧
      nlifdIfaceProcessChanges agreeingSysrepo oneLinkPlatform [] world = .ok (.ok, later) ∧
      ∃ event ∈ later.trace, setsAdmstate event = true :=
  ⟨_, _, by decide, rfl, by decide, by decide, rfl, by decide⟩

end Nlif.DaemonStaging
