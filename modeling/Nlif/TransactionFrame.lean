import Nlif.ApplyAgreement
import Nlif.DaemonStaging

/-!
# What a transaction over admin states leaves alone

Between the handlers, the apply loop and the abort loop of one transaction only
admin states move: every enrolled interface keeps its index and its strings,
stays under its name, and the kernel's link keeps bearing these strings. `Intact`
is that invariant, kept by each call on any interface.
-/

namespace Nlif.TransactionFrame

open LinkModel IfaceModel FaultWalk FaultLoop BucketTable StoreModel StoreRehash GateModel
  GateSpec StoreInvariant StoreLookup LibraryRun RtnetlinkModel ApplyAgreement DaemonModel
  DaemonSpec DaemonStaging

set_option autoImplicit false

/-- The same index and strings, with no field staged. -/
structure Alike (before after : Iface) : Prop where
  idx : after.idx = before.idx
  name : after.name = before.name
  ifalias : after.ifalias.map HeapStr.text = before.ifalias.map HeapStr.text
  fields : after.dirtyFields = ∅

theorem Alike.trans {first second third : Iface} (left : Alike first second)
    (right : Alike second third) : Alike first third :=
  ⟨right.idx.trans left.idx, right.name.trans left.name, right.ifalias.trans left.ifalias,
    right.fields⟩

theorem Alike.sound {before after : Iface} (alike : Alike before after) (sound : Sound before)
    (held : after.state ≠ .invalid → Held after) : Sound after where
  idx := by
    rw [alike.idx]
    exact sound.idx
  name := by
    rw [alike.name]
    exact sound.name
  ifalias pointer present := by
    have text : before.ifalias.map HeapStr.text = some pointer.text := by
      rw [← alike.ifalias, present]
      rfl
    obtain ⟨old, was, same⟩ := Option.map_eq_some_iff.mp text
    rw [← same]
    exact sound.ifalias old was
  held := held

theorem alike_released {interface : Iface} (fields : interface.dirtyFields = ∅) :
    Alike interface { released interface with state := .invalid } where
  idx := rfl
  name := rfl
  ifalias := by simp [released, dangling, Option.map_map, Function.comp_def]
  fields := fields

def Bears (interface : Iface) (link : GetlinkRsp) : Prop :=
  link.ifname = interface.name ∧ link.heldAlias = interface.ifalias.map HeapStr.text

theorem Bears.drift {interface : Iface} {link : GetlinkRsp} (bears : Bears interface link)
    (index : UInt32) (operational : Operational) :
    Bears interface (drifted index operational link) := bears

theorem alike_fill {interface : Iface} {link : GetlinkRsp} (bears : Bears interface link)
    (idx : link.ifiIndex = interface.idx) : Alike interface (ifaceFill link) where
  idx := idx
  name := bears.1
  ifalias := by
    rw [fill_alias_text]
    exact bears.2
  fields := rfl

theorem Bears.set {interface : Iface} {link : GetlinkRsp} (bears : Bears interface link)
    {request : SetlinkReq} (name : request.ifname = none) (ifalias : request.ifalias = none) :
    Bears interface (setLink request link) := by
  constructor
  · simpa only [setLink, name, Option.getD_none] using bears.1
  · have held : (setLink request link).heldAlias = link.heldAlias := by
      simp only [GetlinkRsp.heldAlias, setLink, ifalias, Option.getD_none]
    rw [held]
    exact bears.2

theorem alike_edited {interface : Iface} (fields : interface.dirtyFields = ∅) (value : Bool) :
    Alike interface (edited interface (.admstate value)) :=
  ⟨rfl, rfl, rfl, fields⟩

variable {NameBucket IndexBucket : Type}

structure DistinctStrings (world : World NameBucket IndexBucket Rtnetlink) : Prop where
  names : ∀ left ∈ world.store.ifaces, ∀ right ∈ world.store.ifaces, left ≠ right →
    (world.objects left.iface).name ≠ (world.objects right.iface).name
  aliases : ∀ left ∈ world.store.ifaces, ∀ right ∈ world.store.ifaces, left ≠ right →
    ∀ text, (world.objects left.iface).ifalias.map HeapStr.text = some text →
      (world.objects right.iface).ifalias.map HeapStr.text ≠ some text
  cross : ∀ left ∈ world.store.ifaces, ∀ right ∈ world.store.ifaces, left ≠ right →
    (world.objects left.iface).ifalias.map HeapStr.text ≠ some (world.objects right.iface).name

structure Intact (hash : Hashing NameBucket IndexBucket)
    (origin world : World NameBucket IndexBucket Rtnetlink) : Prop where
  linked : Linked hash world.objects world.next world.store
  subscribed : world.gate.notif = true
  ifaces : world.store.ifaces = origin.store.ifaces
  alike : ∀ hndl ∈ origin.store.ifaces,
    Alike (origin.objects hndl.iface) (world.objects hndl.iface)
  home : ∀ hndl ∈ origin.store.ifaces,
    hndl ∈ world.store.nameh (hash.str (origin.objects hndl.iface).name)
  bears : ∀ hndl ∈ origin.store.ifaces, ∃ link,
    world.kernel.links (origin.objects hndl.iface).idx = some link ∧
      Bears (origin.objects hndl.iface) link

section Intact

variable {hash : Hashing NameBucket IndexBucket}
  {origin world next : World NameBucket IndexBucket Rtnetlink} {hndl : Hndl}

theorem Intact.alike_replaced (intact : Intact hash origin world)
    (member : hndl ∈ origin.store.ifaces) {object : Iface}
    (alike : Alike (world.objects hndl.iface) object) {other : Hndl}
    (there : other ∈ origin.store.ifaces) :
    Alike (origin.objects other.iface)
      (Function.update world.objects hndl.iface object other.iface) := by
  by_cases same : other.iface = hndl.iface
  · have self : other = hndl := intact.linked.same_iface (intact.ifaces ▸ there)
      (intact.ifaces ▸ member) same
    subst self
    rw [Function.update_self]
    exact (intact.alike other there).trans alike
  · rw [Function.update_of_ne same]
    exact intact.alike other there

theorem Intact.replace (intact : Intact hash origin world) (member : hndl ∈ origin.store.ifaces)
    {object : Iface} (alike : Alike (world.objects hndl.iface) object)
    (held : object.state ≠ .invalid → Held object)
    (objects : next.objects = Function.update world.objects hndl.iface object)
    (store : next.store = world.store) (allocated : next.next = world.next)
    (gate : next.gate = world.gate)
    (bears : ∀ other ∈ origin.store.ifaces, ∃ link,
      next.kernel.links (origin.objects other.iface).idx = some link ∧
        Bears (origin.objects other.iface) link) : Intact hash origin next where
  linked := by
    rw [objects, store, allocated]
    have there : hndl ∈ world.store.ifaces := intact.ifaces ▸ member
    exact intact.linked.replace alike.idx (alike.sound (intact.linked.sound hndl there) held)
  subscribed := gate ▸ intact.subscribed
  ifaces := by rw [store, intact.ifaces]
  alike other there := by
    rw [objects]
    exact intact.alike_replaced member alike there
  home := by
    rw [store]
    exact intact.home
  bears := bears

theorem Intact.same (intact : Intact hash origin world) (objects : next.objects = world.objects)
    (store : next.store = world.store) (allocated : next.next = world.next)
    (gate : next.gate = world.gate) (kernel : next.kernel = world.kernel) :
    Intact hash origin next where
  linked := by
    rw [objects, store, allocated]
    exact intact.linked
  subscribed := gate ▸ intact.subscribed
  ifaces := by rw [store, intact.ifaces]
  alike := objects ▸ intact.alike
  home := store ▸ intact.home
  bears := kernel ▸ intact.bears

theorem Intact.held (intact : Intact hash origin world) (member : hndl ∈ origin.store.ifaces)
    (valid : (world.objects hndl.iface).state ≠ .invalid) : Held (world.objects hndl.iface) :=
  (intact.linked.sound hndl (intact.ifaces ▸ member)).held valid

theorem Intact.distinct (intact : Intact hash origin world) (distinct : DistinctStrings origin) :
    DistinctStrings world where
  names left leftThere right rightThere different := by
    rw [intact.ifaces] at leftThere rightThere
    rw [(intact.alike left leftThere).name, (intact.alike right rightThere).name]
    exact distinct.names left leftThere right rightThere different
  aliases left leftThere right rightThere different := by
    rw [intact.ifaces] at leftThere rightThere
    rw [(intact.alike left leftThere).ifalias, (intact.alike right rightThere).ifalias]
    exact distinct.aliases left leftThere right rightThere different
  cross left leftThere right rightThere different := by
    rw [intact.ifaces] at leftThere rightThere
    rw [(intact.alike left leftThere).ifalias, (intact.alike right rightThere).name]
    exact distinct.cross left leftThere right rightThere different

theorem Intact.from_node_key {platform : Platform NameBucket IndexBucket Rtnetlink}
    (intact : Intact platform.hash origin world) {change : LeafChange} {interface : Addr}
    (found : nlifdIfaceFromNode platform change world = some interface) :
    ∃ hndl ∈ origin.store.ifaces, hndl.iface = interface ∧
      change.key = some (origin.objects interface).name := by
  obtain ⟨name, key, named⟩ := from_node_some found
  obtain ⟨hndl, member, rfl, same⟩ := find_byname_some intact.linked named
  rw [intact.ifaces] at member
  refine ⟨hndl, member, rfl, ?_⟩
  rw [key, ← (intact.alike hndl member).name, same]

theorem Intact.from_node {platform : Platform NameBucket IndexBucket Rtnetlink}
    (intact : Intact platform.hash origin world) (distinct : DistinctStrings origin)
    (member : hndl ∈ origin.store.ifaces) {change : LeafChange}
    (key : change.key = some (origin.objects hndl.iface).name) :
    nlifdIfaceFromNode platform change world = some hndl.iface := by
  have there : hndl ∈ world.store.ifaces := intact.ifaces ▸ member
  have name := (intact.alike hndl member).name
  have valid := (intact.linked.sound hndl there).name
  rw [name] at valid
  unfold nlifdIfaceFromNode
  rw [key]
  simp only [if_pos valid, storeFindIfaceByname, storeSearchIfaceByname]
  rcases searched : List.find?
    (fun other : Hndl => decide ((origin.objects hndl.iface).name =
      (world.objects other.iface).name))
    (world.store.nameh (platform.hash.str (origin.objects hndl.iface).name)) with _ | found
  · have missed := List.find?_eq_none.mp searched hndl (intact.home hndl member)
    simp [name] at missed
  · have same : (origin.objects hndl.iface).name = (world.objects found.iface).name := by
      simpa using List.find?_some searched
    have enrolled := intact.linked.nameh.registered _ found (List.mem_of_find?_eq_some searched)
    by_cases self : found = hndl
    · subst self
      rfl
    · refine absurd same.symm ?_
      rw [← name]
      exact (intact.distinct distinct).names found enrolled hndl there self

theorem elapsed_keeps {state : Rtnetlink} {key index : UInt32} {property : GetlinkRsp → Prop}
    (stable : ∀ operational link, property link → property (drifted index operational link))
    (held : ∃ link, state.links key = some link ∧ property link) :
    ∃ link, (elapsed state index).links key = some link ∧ property link := by
  obtain ⟨link, there, holds⟩ := held
  by_cases same : key = index
  · subst same
    refine ⟨_, ?_, stable (state.moments 0).operational link holds⟩
    rw [setlink_elapsed_links, current, there]
    rfl
  · exact ⟨link, by rw [elapsed_other state same, there], holds⟩

theorem bears_getlink {interface : Iface} {state after : Rtnetlink} {key index : UInt32}
    {answer : Except YnlError GetlinkRsp} (asked : rtnlGetlink index state = (answer, after))
    (bears : ∃ link, state.links key = some link ∧ Bears interface link) :
    ∃ link, after.links key = some link ∧ Bears interface link := by
  rw [(rtnl_getlink_cases asked).1]
  exact elapsed_keeps (fun operational _ bears => bears.drift index operational) bears

theorem bears_setlink {interface : Iface} {state after : Rtnetlink} {key : UInt32}
    {request : SetlinkReq} {answer : Option YnlError}
    (asked : rtnlSetlink request state = (answer, after)) (name : request.ifname = none)
    (ifalias : request.ifalias = none)
    (bears : ∃ link, state.links key = some link ∧ Bears interface link) :
    ∃ link, after.links key = some link ∧ Bears interface link := by
  rcases rtnl_setlink_cases asked with ⟨_, _, rfl⟩ | ⟨link, _, there, changed, others⟩
  · exact elapsed_keeps (fun operational _ bears => bears.drift _ operational) bears
  · by_cases same : key = request.ifiIndex
    · subst same
      obtain ⟨held, met, bears⟩ := elapsed_keeps
        (fun operational _ bears => bears.drift request.ifiIndex operational) bears
      rw [setlink_elapsed_links, there] at met
      cases met
      exact ⟨_, changed, bears.set name ifalias⟩
    · obtain ⟨held, was, bears⟩ := bears
      exact ⟨held, by rw [others key same, was], bears⟩

/-- The outcomes of `nlif_iface_apply()` where no field is staged: there is
nothing to re-hash. -/
inductive Fieldless (platform : Platform NameBucket IndexBucket Rtnetlink) (interface : Addr)
    (world : World NameBucket IndexBucket Rtnetlink) :
    Int → World NameBucket IndexBucket Rtnetlink → Prop
  | idle (settledAlready : (world.objects interface).state ≠ .dirty) :
      Fieldless platform interface world 0 (world.record
        (.called .apply (world.objects interface).idx (world.objects interface).state))
  | refused {kernel : Rtnetlink} {error : YnlError}
      (dirty : (world.objects interface).state = .dirty)
      (asked : platform.kernel.setlink (requestOf (world.objects interface)) world.kernel =
        (some error, kernel)) :
      Fieldless platform interface world (ynlErr error)
        ((sent interface world (requestOf (world.objects interface)) kernel
          (ynlErr error)).invalidate interface)
  | applied {kernel : Rtnetlink}
      (dirty : (world.objects interface).state = .dirty)
      (asked : platform.kernel.setlink (requestOf (world.objects interface)) world.kernel =
        (none, kernel)) :
      Fieldless platform interface world 1
        (((sent interface world (requestOf (world.objects interface)) kernel 0).record
          (.notified .modify (world.objects interface).idx 0)).setObject interface
            (settled (world.objects interface)))

theorem fieldless_returns (platform : Platform NameBucket IndexBucket Rtnetlink)
    (interface : Addr) (world : World NameBucket IndexBucket Rtnetlink) :
    ∃ ret next, Fieldless platform interface world ret next := by
  by_cases dirty : (world.objects interface).state = .dirty
  · rcases asked : platform.kernel.setlink (requestOf (world.objects interface)) world.kernel with
      ⟨_ | error, kernel⟩
    · exact ⟨_, _, .applied dirty asked⟩
    · exact ⟨_, _, .refused dirty asked⟩
  · exact ⟨_, _, .idle dirty⟩

theorem Intact.apply {platform : Platform NameBucket IndexBucket Rtnetlink} {ret : Int}
    (rtnl : platform.kernel = rtnetlink)
    (intact : Intact platform.hash origin world) (member : hndl ∈ origin.store.ifaces)
    (outcome : Fieldless platform hndl.iface world ret next) :
    Intact platform.hash origin next := by
  have fields := (intact.alike hndl member).fields
  have bears : ∀ {answer : Option YnlError} {kernel : Rtnetlink},
      platform.kernel.setlink (requestOf (world.objects hndl.iface)) world.kernel =
        (answer, kernel) →
      ∀ other ∈ origin.store.ifaces, ∃ link,
        kernel.links (origin.objects other.iface).idx = some link ∧
          Bears (origin.objects other.iface) link := by
    intro answer kernel asked other enrolled
    rw [rtnl] at asked
    exact bears_setlink asked (by simp [requestOf, fields]) (by simp [requestOf, fields])
      (intact.bears other enrolled)
  cases outcome with
  | idle => exact intact.same rfl rfl rfl rfl rfl
  | @refused kernel error dirty asked =>
      have alike : Alike (world.objects hndl.iface)
        { world.objects hndl.iface with state := .invalid } := ⟨rfl, rfl, rfl, fields⟩
      exact intact.replace member alike (fun valid => absurd rfl valid) rfl rfl rfl rfl
        (bears asked)
  | applied dirty asked =>
      have held := intact.held member (by simp [dirty])
      have alike : Alike (world.objects hndl.iface) (settled (world.objects hndl.iface)) :=
        ⟨rfl, rfl, rfl, rfl⟩
      exact intact.replace member alike (fun _ => ⟨held.ifalias, held.kind⟩) rfl rfl rfl rfl
        (bears asked)

theorem Intact.unclaimed (intact : Intact hash origin world) (member : hndl ∈ origin.store.ifaces)
    (valid : ∀ other ∈ origin.store.ifaces, other ≠ hndl →
      (world.objects other.iface).state ≠ .invalid) (object : Iface) {text : CString}
    {chain : List Hndl} (listed : ∀ other ∈ chain, other ∈ world.store.ifaces ∧ other ≠ hndl)
    (free : ∀ other ∈ world.store.ifaces, other ≠ hndl →
      text ≠ (world.objects other.iface).name ∧
        (world.objects other.iface).ifalias.map HeapStr.text ≠ some text) :
    answersIn (Function.update world.objects hndl.iface object) text chain = .ok false := by
  refine (answers_in_false_iff ..).mpr fun other chained => ?_
  obtain ⟨there, different⟩ := listed other chained
  rw [intact.linked.agree_replaced (intact.ifaces ▸ member) object other there different]
  obtain ⟨name, ifalias⟩ := free other there different
  refine (store_match_false_iff ..).mpr ⟨name, fun pointer held => ⟨?_, ?_⟩⟩
  · have readable := (intact.linked.sound other there).held
      (valid other (intact.ifaces ▸ there) different)
    exact readable.ifalias pointer held
  · rintro rfl
    exact ifalias (by rw [held]; rfl)

section Reload

variable {platform : Platform NameBucket IndexBucket Rtnetlink}

theorem Intact.unclashed (intact : Intact platform.hash origin world)
    (distinct : DistinctStrings origin) (member : hndl ∈ origin.store.ifaces)
    (valid : ∀ other ∈ origin.store.ifaces, other ≠ hndl →
      (world.objects other.iface).state ≠ .invalid)
    {object : Iface} (alike : Alike (world.objects hndl.iface) object) (held : Held object) :
    nameClash platform.hash (Function.update world.objects hndl.iface object) hndl
        object.name world.store = .ok false ∧
      AliasAnswer platform.hash (Function.update world.objects hndl.iface object) hndl
        object.ifalias world.store false := by
  have there : hndl ∈ world.store.ifaces := intact.ifaces ▸ member
  have apart := intact.distinct distinct
  constructor
  · refine intact.unclaimed member valid object (fun other chained => ?_)
      fun other enrolled different => ⟨?_, ?_⟩
    · obtain ⟨remains, different⟩ := (mem_del ..).mp chained
      exact ⟨intact.linked.nameh.registered _ other remains, different⟩
    · rw [alike.name]
      exact apart.names hndl there other enrolled different.symm
    · rw [alike.name]
      exact apart.cross other enrolled hndl there different
  · rcases present : object.ifalias with _ | pointer
    · rfl
    · have text : (world.objects hndl.iface).ifalias.map HeapStr.text = some pointer.text := by
        rw [← alike.ifalias, present]
        rfl
      refine ⟨held.ifalias pointer present, ?_⟩
      refine intact.unclaimed member valid object (fun other chained => ?_)
        fun other enrolled different => ⟨fun same => ?_, ?_⟩
      · obtain ⟨remains, different⟩ := (mem_del ..).mp chained
        exact ⟨intact.linked.aliash.registered _ other remains, different⟩
      · exact apart.cross hndl there other enrolled different.symm (by rw [text, same])
      · exact apart.aliases hndl there other enrolled different.symm _ text

theorem Intact.loaded (rtnl : platform.kernel = rtnetlink)
    (intact : Intact platform.hash origin world) (member : hndl ∈ origin.store.ifaces)
    {answer : Except YnlError GetlinkRsp} {kernel : Rtnetlink} {link : GetlinkRsp}
    (asked : platform.kernel.getlink (world.objects hndl.iface).idx world.kernel = (answer, kernel))
    (given : gateGetlink answer = .ok link) :
    current world.kernel (world.objects hndl.iface).idx = some link ∧
      kernel.links (world.objects hndl.iface).idx = some link ∧
      Alike (world.objects hndl.iface) (ifaceFill link) := by
  obtain ⟨rfl, _⟩ := gate_getlink_ok given
  rw [rtnl] at asked
  obtain ⟨rfl, ⟨_, refused⟩ | ⟨met, answered, there⟩⟩ := rtnl_getlink_cases asked
  · cases refused
  · cases answered
    obtain ⟨held, was, bears⟩ := intact.bears hndl member
    have same := intact.alike hndl member
    rw [← same.idx] at was
    have drift : link = drifted (world.objects hndl.iface).idx
        (world.kernel.moments 0).operational held := by
      rw [current, was] at there
      exact (Option.some.inj there).symm
    refine ⟨there, by rw [setlink_elapsed_links, there], alike_fill ?_ ?_⟩
    · rw [drift]
      exact ⟨bears.1.trans same.name.symm, bears.2.trans same.ifalias.symm⟩
    · rw [drift]
      rfl

variable [DecidableEq NameBucket]

theorem Intact.rehash (intact : Intact platform.hash origin world)
    (distinct : DistinctStrings origin) (member : hndl ∈ origin.store.ifaces)
    (valid : ∀ other ∈ origin.store.ifaces, other ≠ hndl →
      (world.objects other.iface).state ≠ .invalid)
    {object : Iface} (alike : Alike (world.objects hndl.iface) object) (held : Held object) :
    ∃ store, storeOnIfaceReload platform.hash
        (Function.update world.objects hndl.iface object) hndl.iface world.store =
          .ok (0, store) ∧
      Linked platform.hash (Function.update world.objects hndl.iface object) world.next store ∧
      store.ifaces = world.store.ifaces ∧
      ∀ other ∈ origin.store.ifaces,
        other ∈ store.nameh (platform.hash.str (origin.objects other.iface).name) := by
  have there : hndl ∈ world.store.ifaces := intact.ifaces ▸ member
  have sound := alike.sound (intact.linked.sound hndl there) fun _ => held
  have found := intact.linked.search_replaced there alike.idx sound
  have self : Function.update world.objects hndl.iface object hndl.iface = object :=
    Function.update_self ..
  obtain ⟨nameFree, aliasFree⟩ := intact.unclashed distinct member valid alike held
  have rehashed : storeOnIfaceReload platform.hash
      (Function.update world.objects hndl.iface object) hndl.iface world.store =
        .ok (0, realiased platform.hash hndl true object.ifalias
          (renamed platform.hash hndl true object.name world.store)) := by
    refine (store_rehash_ok_iff _ _ found).mpr ?_
    rw [self]
    exact .moved (fun _ => nameFree) fun _ => aliasFree
  refine ⟨_, rehashed, intact.linked.rehashed there alike.idx sound found rehashed,
    (store_rehash_frame _ _ rehashed).1, fun other enrolled => ?_⟩
  rw [realiased_nameh]
  by_cases same : other = hndl
  · subst same
    have named : (origin.objects other.iface).name = object.name := by
      rw [alike.name, (intact.alike other member).name]
    simp [renamed, moveName, named]
  · have remains := intact.home other enrolled
    simpa [renamed, moveName, same] using remains

/-- A reload either was refused by the kernel or loaded the link it holds by then. -/
theorem Intact.reload (rtnl : platform.kernel = rtnetlink)
    (intact : Intact platform.hash origin world)
    (distinct : DistinctStrings origin) (member : hndl ∈ origin.store.ifaces)
    (valid : ∀ other ∈ origin.store.ifaces, other ≠ hndl →
      (world.objects other.iface).state ≠ .invalid) {ret : Int}
    (reload : Reload platform hndl.iface world ret next) :
    Intact platform.hash origin next ∧
      ((ret ≠ 0 ∧ (next.objects hndl.iface).state = .invalid ∧
          next.trace = .getlink (world.objects hndl.iface).idx ret :: world.trace) ∨
        (ret = 0 ∧ ∃ link, current world.kernel (world.objects hndl.iface).idx = some link ∧
          next.objects hndl.iface = ifaceFill link ∧
          next.kernel.links (world.objects hndl.iface).idx = some link)) := by
  have bears : ∀ {answer : Except YnlError GetlinkRsp} {kernel : Rtnetlink},
      platform.kernel.getlink (world.objects hndl.iface).idx world.kernel = (answer, kernel) →
      ∀ other ∈ origin.store.ifaces, ∃ link,
        kernel.links (origin.objects other.iface).idx = some link ∧
          Bears (origin.objects other.iface) link := by
    intro answer kernel asked other enrolled
    rw [rtnl] at asked
    exact bears_getlink asked (intact.bears other enrolled)
  cases reload with
  | unanswered held asked refused =>
      have fields := (intact.alike hndl member).fields
      refine ⟨intact.replace member (alike_released fields) (fun valid => absurd rfl valid) rfl rfl
        rfl rfl (bears asked), .inl ⟨gate_getlink_error refused, ?_, rfl⟩⟩
      simp [answered, World.setObject]
  | @accepted answer kernel link store _ asked given rehashed =>
      obtain ⟨met, kept, alike⟩ := intact.loaded rtnl member asked given
      obtain ⟨_, done, linked, ifaces, home⟩ :=
        intact.rehash distinct member valid alike (held_fill link)
      cases rehashed.symm.trans done
      have objects : ∀ other ∈ origin.store.ifaces, Alike (origin.objects other.iface)
          ((reloaded hndl.iface world link kernel 0 store).objects other.iface) :=
        fun other enrolled => intact.alike_replaced member alike enrolled
      refine ⟨⟨linked, intact.subscribed, ifaces.trans intact.ifaces, objects, home, bears asked⟩,
        .inr ⟨rfl, link, met, ?_, kept⟩⟩
      simp [reloaded, answered, World.setObject]
  | @clashed answer kernel link store ret _ asked given rehashed failed =>
      obtain ⟨_, _, alike⟩ := intact.loaded rtnl member asked given
      obtain ⟨_, done, _⟩ := intact.rehash distinct member valid alike (held_fill link)
      cases rehashed.symm.trans done
      exact absurd rfl failed

theorem Intact.reloads (rtnl : platform.kernel = rtnetlink)
    (intact : Intact platform.hash origin world)
    (distinct : DistinctStrings origin) (member : hndl ∈ origin.store.ifaces)
    (valid : ∀ other ∈ origin.store.ifaces, other ≠ hndl →
      (world.objects other.iface).state ≠ .invalid) (held : Held (world.objects hndl.iface)) :
    ∃ ret next, Reload platform hndl.iface world ret next := by
  rcases asked : platform.kernel.getlink (world.objects hndl.iface).idx world.kernel with
    ⟨answer, kernel⟩
  rcases given : gateGetlink answer with err | link
  · exact ⟨_, _, .unanswered held asked given⟩
  · obtain ⟨_, _, alike⟩ := intact.loaded rtnl member asked given
    obtain ⟨store, rehashed, _⟩ := intact.rehash distinct member valid alike (held_fill link)
    exact ⟨_, _, .accepted held asked given rehashed⟩

variable [DecidableEq IndexBucket]

theorem Intact.set_admstate {value : Bool} {ret : Int} (rtnl : platform.kernel = rtnetlink)
    (intact : Intact platform.hash origin world)
    (distinct : DistinctStrings origin) (member : hndl ∈ origin.store.ifaces)
    (valid : (world.objects hndl.iface).state = .invalid → ∀ other ∈ origin.store.ifaces,
      other ≠ hndl → (world.objects other.iface).state ≠ .invalid)
    (done : ifaceSetAdmstate platform value hndl.iface world = .ok (ret, next)) :
    Intact platform.hash origin next := by
  obtain ⟨synced, middle, sync, outcome⟩ := set_admstate_ok done
  have kept : Intact platform.hash origin middle := by
    rcases (iface_sync_ok_iff _ _ _ intact.subscribed _ _).mp sync with
      ⟨_, _, rfl⟩ | ⟨lost, reload⟩
    · exact intact
    · exact (intact.reload rtnl distinct member (valid lost) reload).1
  rcases outcome with ⟨_, _, rfl⟩ | ⟨rfl, _, ⟨_, rfl⟩ | ⟨_, rfl⟩⟩
  · exact kept
  · exact kept
  · have readable : (middle.objects hndl.iface).state ≠ .invalid := by
      rcases (iface_sync_ok_iff _ _ _ intact.subscribed _ _).mp sync with
        ⟨settled, _, rfl⟩ | ⟨lost, reload⟩
      · exact settled
      · rcases (intact.reload rtnl distinct member (valid lost) reload).2 with
          ⟨failed, _⟩ | ⟨_, link, _, filled, _⟩
        · exact absurd rfl failed
        · simp [filled, ifaceFill]
    have held := kept.held member readable
    exact kept.replace member (alike_edited (kept.alike hndl member).fields value)
      (fun _ => ⟨held.ifalias, held.kind⟩) rfl rfl rfl rfl kept.bears

theorem fieldless_ok_iff {interface : Addr} {ret : Int}
    (subscribed : world.gate.notif = true)
    (fields : (world.objects interface).dirtyFields = ∅) :
    ifaceApply platform interface world = .ok (ret, next) ↔
      Fieldless platform interface world ret next := by
  have built : ifaceSetlinkReq (world.objects interface) =
      .ok (requestOf (world.objects interface)) := by
    simp [ifaceSetlinkReq, requestOf, fields]
  have unmoved : ∀ kernel, gateNotify platform noObservers (.modify interface)
      (sent interface world (requestOf (world.objects interface)) kernel 0) =
        .ok (0, (sent interface world (requestOf (world.objects interface)) kernel 0).record
          (.notified .modify (world.objects interface).idx 0)) := by
    intro kernel
    refine (gate_notify_modify_ok_iff ..).mpr (.inl ⟨subscribed, world.store, ?_, rfl⟩)
    simp [storeOnIfaceModify, storeRehash, rehashWhen, sent, fields]
  rw [iface_apply_ok_iff]
  constructor
  · intro apply
    cases apply with
    | idle settledAlready => exact .idle settledAlready
    | refused dirty builtToo asked =>
        cases built.symm.trans builtToo
        exact .refused dirty asked
    | applied dirty builtToo asked notified =>
        cases built.symm.trans builtToo
        cases (unmoved _).symm.trans notified
        exact .applied dirty asked
    | clashed _ builtToo _ notified failed =>
        cases built.symm.trans builtToo
        cases (unmoved _).symm.trans notified
        exact absurd rfl failed
  · intro outcome
    cases outcome with
    | idle settledAlready => exact .idle settledAlready
    | refused dirty asked => exact .refused dirty built asked
    | applied dirty asked => exact .applied dirty built asked (unmoved _)

end Reload

end Intact

end Nlif.TransactionFrame
