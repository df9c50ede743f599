import Nlif.DigitText
import Nlif.OperStatus

/-!
# Hardware addresses and indices as text

What `nlif_link_hwaddr_str` of `lib/link.c` writes, against the pattern of the phys-address
leaf in `notes.txt` and against the text of `ether_ntoa_r()` that its comment rules out, and
the leaves that identify an interface. Once the set-up of the operational datastore
succeeded these leaves read back to the interface over any run of batches.
-/

namespace Nlif.LinkText

open LinkModel IfaceModel FaultWalk FaultLoop StoreModel GateModel LibraryRun LabelledRun
  OperModel OperMirror OperSetup OperStatus DigitText
open DaemonModel (SrError cstring)
open DaemonRun (nlifdOpen)
open ConfigSnapshot (open_fresh)

set_option autoImplicit false

def ETH_ALEN : Nat := 6

def NLIF_LINK_HWADDR_STRSZ : Nat := 2 * ETH_ALEN + (ETH_ALEN - 1) + 1

def octets (hwaddr : EtherAddr) : List Nat := hwaddr.toList.map UInt8.toNat

/-- The typedef of the phys-address leaf. -/
def PhysAddress (text : CString) : Prop := characters text.bytes ∈ (pairsPattern ':').matches'

def readHwaddr (text : CString) : Option EtherAddr := do
  let octets ← readPairs ':' (characters text.bytes)
  if sized : octets.length = 6 then
    some ⟨(octets.map Nat.toUInt8).toArray, by rw [List.size_toArray, List.length_map, sized]⟩
  else none

def readIndex (text : CString) : Option UInt32 :=
  (readDecimal (characters text.bytes)).map Nat.toUInt32

/-- `ether_ntoa_r()`: each octet in hexadecimal without leading zeros. -/
def etherNtoa (hwaddr : EtherAddr) : CString :=
  cstring (String.intercalate ":"
    (hwaddr.toList.map fun octet => String.ofList (Nat.toDigits 16 octet.toNat)))

section Addresses

variable {hwaddr : EtherAddr}

theorem octets_small : ∀ octet ∈ octets hwaddr, octet < 256 := by
  intro octet listed
  obtain ⟨byte, _, rfl⟩ := List.mem_map.mp listed
  exact byte.toNat_lt

theorem octets_length (hwaddr : EtherAddr) : (octets hwaddr).length = 6 := by
  rw [octets, List.length_map, Vector.length_toList]

theorem octets_ne_nil (hwaddr : EtherAddr) : octets hwaddr ≠ [] := by
  intro none
  have sized := octets_length hwaddr
  rw [none] at sized
  cases sized

theorem cstring_characters {text : String}
    (ascii : ∀ character ∈ text.toList, IsAscii character) :
    characters (cstring text).bytes = text.toList := by
  have back : String.ofList text.toList = text := String.ofList_toList
  have read := characters_encode ascii
  rwa [back] at read

theorem joined_ascii {pieces : List (List Char)}
    (ascii : ∀ piece ∈ pieces, ∀ character ∈ piece, IsAscii character) :
    ∀ character ∈ List.intercalate [':'] pieces, IsAscii character := by
  intro character listed
  cases pieces with
  | nil => cases listed
  | cons first rest =>
      rw [flatten_behind, List.mem_append, List.mem_flatten] at listed
      cases listed with
      | inl here => exact ascii first (List.mem_cons_self ..) character here
      | inr later =>
          obtain ⟨piece, member, inside⟩ := later
          obtain ⟨other, there, rfl⟩ := List.mem_map.mp member
          cases inside with
          | head => decide
          | tail _ inside => exact ascii other (List.mem_cons_of_mem _ there) character inside

theorem joined_characters {write : Nat → List Char}
    (ascii : ∀ octet ∈ octets hwaddr, ∀ character ∈ write octet, IsAscii character) :
    characters (cstring (String.intercalate ":"
        (hwaddr.toList.map fun octet => String.ofList (write octet.toNat)))).bytes =
      List.intercalate [':'] ((octets hwaddr).map write) := by
  have pieces : (String.intercalate ":"
      (hwaddr.toList.map fun octet => String.ofList (write octet.toNat))).toList =
        List.intercalate [':'] ((octets hwaddr).map write) := by
    rw [String.toList_intercalate, octets, List.map_map, List.map_map]
    simp only [Function.comp_def, String.toList_ofList]
    rfl
  rw [cstring_characters, pieces]
  rw [pieces]
  apply joined_ascii
  intro piece listed
  obtain ⟨octet, member, rfl⟩ := List.mem_map.mp listed
  exact ascii octet member

theorem hwaddr_characters (hwaddr : EtherAddr) : characters (nlifLinkHwaddrStr hwaddr).bytes =
    List.intercalate [':'] ((octets hwaddr).map hexPair) :=
  @joined_characters hwaddr hexPair fun octet member digit inside =>
    hex_digits_ascii digit (hex_pair_digits (octets_small octet member) digit inside)

theorem hwaddr_str_complies (hwaddr : EtherAddr) : PhysAddress (nlifLinkHwaddrStr hwaddr) := by
  rw [PhysAddress, hwaddr_characters, pairs_pattern_iff]
  refine .inr ⟨_, fun none => octets_ne_nil hwaddr (List.map_eq_nil_iff.mp none), ?_, rfl⟩
  intro pair listed
  obtain ⟨octet, member, rfl⟩ := List.mem_map.mp listed
  exact ⟨rfl, hex_pair_digits (octets_small octet member)⟩

theorem hwaddr_str_read (hwaddr : EtherAddr) :
    readHwaddr (nlifLinkHwaddrStr hwaddr) = some hwaddr := by
  have read := @read_pairs ':' (by decide) _ (@octets_small hwaddr) (octets_ne_nil hwaddr)
  have back : (octets hwaddr).map Nat.toUInt8 = hwaddr.toList := by
    rw [octets, List.map_map]
    exact (List.map_congr_left fun byte _ => UInt8.ofNat_toNat).trans (List.map_id _)
  rw [readHwaddr, hwaddr_characters, read, Option.bind_eq_bind, Option.bind_some,
    dif_pos (octets_length hwaddr)]
  simp only [back]
  rfl

theorem joined_length {pieces : List (List Char)} (pairs : ∀ piece ∈ pieces, piece.length = 2)
    (nonempty : pieces ≠ []) :
    (List.intercalate [':'] pieces).length + 1 = 3 * pieces.length := by
  cases pieces with
  | nil => exact absurd rfl nonempty
  | cons first rest =>
      have tail : (rest.map (':' :: ·)).flatten.length = 3 * rest.length := by
        have others := fun piece there => pairs piece (List.mem_cons_of_mem first there)
        clear pairs nonempty
        induction rest with
        | nil => rfl
        | cons second rest ih =>
            have here := others second (List.mem_cons_self ..)
            have later := ih fun piece there => others piece (List.mem_cons_of_mem _ there)
            rw [List.map_cons, List.flatten_cons, List.length_append, List.length_cons, here, later,
              List.length_cons]
            omega
      rw [flatten_behind, List.length_append, tail, pairs first (List.mem_cons_self ..),
        List.length_cons]
      omega

theorem hwaddr_str_length (hwaddr : EtherAddr) :
    (nlifLinkHwaddrStr hwaddr).length + 1 = NLIF_LINK_HWADDR_STRSZ := by
  have written : (nlifLinkHwaddrStr hwaddr).length =
      (characters (nlifLinkHwaddrStr hwaddr).bytes).length := (List.length_map ..).symm
  rw [written, hwaddr_characters, joined_length, List.length_map, octets_length]
  · rfl
  · intro piece listed
    obtain ⟨octet, _, rfl⟩ := List.mem_map.mp listed
    rfl
  · exact fun none => octets_ne_nil hwaddr (List.map_eq_nil_iff.mp none)

theorem short_digits {octet : Nat} (small : octet < 256) :
    (Nat.toDigits 16 octet ≠ [] ∧ ∀ digit ∈ Nat.toDigits 16 octet, digit ∈ hexDigits) ∧
      ((Nat.toDigits 16 octet).length = 2 ↔ 16 ≤ octet) := by
  have low : octet % 16 < 16 := by omega
  have high : octet / 16 < 16 := by omega
  rw [Nat.toDigits_eq_if (by decide)]
  split
  · rename_i single
    refine ⟨⟨List.cons_ne_nil _ _, ?_⟩, ?_⟩
    · intro digit listed
      rw [List.mem_singleton.mp listed]
      exact (hex_value_digit single).2
    · simp only [List.length_singleton]
      omega
  · rename_i double
    rw [Nat.toDigits_of_lt_base high]
    refine ⟨⟨List.cons_ne_nil _ _, ?_⟩, ?_⟩
    · intro digit listed
      simp only [List.cons_append, List.nil_append, List.mem_cons, List.not_mem_nil,
        or_false] at listed
      cases listed with
      | inl same => exact same ▸ (hex_value_digit high).2
      | inr same => exact same ▸ (hex_value_digit low).2
    · exact iff_of_true rfl (not_lt.mp double)

/-- The text without leading zeros is one of the leaf's values exactly where no octet has
one. -/
theorem ether_ntoa_complies_iff (hwaddr : EtherAddr) :
    PhysAddress (etherNtoa hwaddr) ↔ ∀ octet ∈ octets hwaddr, 16 ≤ octet := by
  have digits : ∀ octet ∈ octets hwaddr, ∀ digit ∈ Nat.toDigits 16 octet, digit ∈ hexDigits :=
    fun octet member => (short_digits (octets_small octet member)).1.2
  have written : characters (etherNtoa hwaddr).bytes =
      List.intercalate [':'] ((octets hwaddr).map (Nat.toDigits 16)) :=
    joined_characters fun octet member digit inside =>
      hex_digits_ascii digit (digits octet member digit inside)
  rw [PhysAddress, written, joined_in_pattern_iff _ (by decide)
    (fun none => octets_ne_nil hwaddr (List.map_eq_nil_iff.mp none))]
  · rw [List.forall_mem_map]
    apply forall₂_congr
    intro octet member
    rw [IsPair, ← (short_digits (octets_small octet member)).2]
    exact and_iff_left (digits octet member)
  · rw [List.forall_mem_map]
    exact fun octet member => (short_digits (octets_small octet member)).1.1
  · rw [List.forall_mem_map]
    intro octet member inside
    have colon := digits octet member _ inside
    revert colon
    decide

/-- The text of every address fits its buffer, is a value of the phys-address leaf and reads
back to the address. The text of `ether_ntoa_r()` would be a value of the leaf exactly where
no octet has a leading zero. -/
theorem hwaddr_text_complies (hwaddr : EtherAddr) :
    (nlifLinkHwaddrStr hwaddr).length + 1 = NLIF_LINK_HWADDR_STRSZ ∧
      PhysAddress (nlifLinkHwaddrStr hwaddr) ∧
      readHwaddr (nlifLinkHwaddrStr hwaddr) = some hwaddr ∧
      (PhysAddress (etherNtoa hwaddr) ↔ ∀ octet ∈ octets hwaddr, 16 ≤ octet) :=
  ⟨hwaddr_str_length hwaddr, hwaddr_str_complies hwaddr, hwaddr_str_read hwaddr,
    ether_ntoa_complies_iff hwaddr⟩

theorem number_characters (number : Nat) :
    characters (cstring (toString number)).bytes = decimal number := by
  have digits : (toString number).toList = decimal number := by
    rw [Nat.toString_eq_ofList_toDigits, String.toList_ofList]
    rfl
  rw [cstring_characters, digits]
  rw [digits]
  exact decimal_ascii number

theorem index_str_read (index : UInt32) : readIndex (indexStr index) = some index := by
  rw [readIndex, indexStr, number_characters, read_decimal, Option.map_some]
  exact congrArg some UInt32.ofNat_toNat

end Addresses

section Leaves

variable {datastore : Datastore} {objects : Objects} {ifaces : List Hndl}
  {session next : Session}

theorem setup_session_leaf {node : OperNode} {filled : Iface → CString}
    (fills : ∀ interface value,
      lastValue (setupEdits datastore interface value) interface.name node =
        some (filled interface))
    (distinct : ∀ left ∈ ifaces, ∀ right ∈ ifaces,
      (objects left.iface).name = (objects right.iface).name → left = right)
    (done : setupSession datastore objects ifaces session = .ok (.ok, next)) :
    ∀ hndl ∈ ifaces,
      next.leaf (objects hndl.iface).name node = some (filled (objects hndl.iface)) := by
  obtain ⟨last, passes, rfl⟩ := setup_session_ok done
  have pending : ∀ hndl ∈ ifaces, lastValue last.pending (objects hndl.iface).name node =
      some (filled (objects hndl.iface)) := by
    refine passes.marked (fun hndl state =>
      lastValue state.pending (objects hndl.iface).name node =
        some (filled (objects hndl.iface))) ?_ ?_
    · intro hndl _ state code after visited goes
      have went : code = .ok := by simpa using goes
      subst went
      obtain ⟨value, _, _, rfl⟩ := setup_iface_ok visited
      rw [last_value_append, fills, Option.some_or]
    · intro hndl member other there state code after shown visited goes
      have went : code = .ok := by simpa using goes
      subst went
      obtain ⟨value, _, _, rfl⟩ := setup_iface_ok visited
      by_cases self : hndl = other
      · subst self
        rw [last_value_append, fills, Option.some_or]
      · have others : ∀ edit ∈ setupEdits datastore (objects hndl.iface) value,
            edit.name ≠ (objects other.iface).name := by
          intro edit listed same
          rw [setup_edits_name edit listed] at same
          exact self (distinct hndl member other there same)
        rw [last_value_append, last_value_other node others, Option.none_or, shown]
  intro hndl member
  rw [leaf_eq, last_value_append, pending hndl member, Option.some_or]

/-- The leaves that identify an interface, which no status push writes. -/
def Identifying (node : OperNode) : Prop := node = .ifIndex ∨ node = .physAddress

theorem pushed_identifying {interface : Iface} {name value : CString}
    (applied : session.pending = []) (other : CString) {node : OperNode}
    (identifying : Identifying node) :
    (pushed datastore name interface value session).leaf other node =
      session.leaf other node := by
  have silent : lastValue (statusEdits datastore name interface value) other node = none := by
    rw [lastValue, List.find?_eq_none.mpr, Option.map_none]
    intro edit listed chosen
    have same : edit.node = node := (of_decide_eq_true chosen).2
    have status : edit.node = .operStatus ∨ edit.node = .adminStatus := by
      cases listed with
      | head => exact .inl rfl
      | tail _ more =>
          split at more
          · rw [List.mem_singleton.mp more]
            exact .inr rfl
          · cases more
    rw [same] at status
    cases identifying with
    | inl index => simp [index] at status
    | inr hwaddr => simp [hwaddr] at status
  rw [leaf_eq, leaf_eq, pushed, applied, List.append_nil, last_value_append, silent,
    Option.none_or]

end Leaves

section Daemon

variable {NameBucket IndexBucket Kstate : Type} {datastore : Datastore}
  {platform : Platform NameBucket IndexBucket Kstate}
  {world next : OperWorld NameBucket IndexBucket Kstate}

def Identified (datastore : Datastore) (world : OperWorld NameBucket IndexBucket Kstate) : Prop :=
  ∀ hndl ∈ world.store.ifaces,
    world.kernel.2.leaf (world.objects hndl.iface).name .physAddress =
        some (nlifLinkHwaddrStr (world.objects hndl.iface).hwadr) ∧
      (datastore.ifMib = true →
        world.kernel.2.leaf (world.objects hndl.iface).name .ifIndex =
          some (indexStr (world.objects hndl.iface).idx))

structure Still (before after : OperWorld NameBucket IndexBucket Kstate) : Prop where
  ifaces : after.store.ifaces = before.store.ifaces
  name : ∀ hndl ∈ before.store.ifaces,
    (after.objects hndl.iface).name = (before.objects hndl.iface).name
  idx : ∀ hndl ∈ before.store.ifaces,
    (after.objects hndl.iface).idx = (before.objects hndl.iface).idx
  hwadr : ∀ hndl ∈ before.store.ifaces,
    (after.objects hndl.iface).hwadr = (before.objects hndl.iface).hwadr
  leaf : ∀ name node, Identifying node →
    after.kernel.2.leaf name node = before.kernel.2.leaf name node

theorem Still.trans {before middle after : OperWorld NameBucket IndexBucket Kstate}
    (first : Still before middle) (second : Still middle after) : Still before after where
  ifaces := second.ifaces.trans first.ifaces
  name hndl member := (second.name hndl (first.ifaces ▸ member)).trans (first.name hndl member)
  idx hndl member := (second.idx hndl (first.ifaces ▸ member)).trans (first.idx hndl member)
  hwadr hndl member := (second.hwadr hndl (first.ifaces ▸ member)).trans (first.hwadr hndl member)
  leaf name node identifying :=
    (second.leaf name node identifying).trans (first.leaf name node identifying)

theorem Identified.still (identified : Identified datastore world) (still : Still world next) :
    Identified datastore next := by
  intro hndl member
  have before : hndl ∈ world.store.ifaces := still.ifaces ▸ member
  rw [still.name hndl before, still.idx hndl before, still.hwadr hndl before,
    still.leaf _ _ (.inr rfl), still.leaf _ _ (.inl rfl)]
  exact identified hndl before

theorem setup_identified (steady : Steady (beside platform) world)
    (done : nlifdIfaceSetupOperDstore datastore world = .ok (.ok, next)) :
    Identified datastore next := by
  obtain ⟨session, filled, rfl⟩ := setup_dstore_ok done
  have hwaddr : ∀ interface value, lastValue (setupEdits datastore interface value) interface.name
      .physAddress = some (nlifLinkHwaddrStr interface.hwadr) := by
    intro interface value
    simp [lastValue, setupEdits]
  have index : datastore.ifMib = true → ∀ interface value,
      lastValue (setupEdits datastore interface value) interface.name .ifIndex =
        some (indexStr interface.idx) := by
    intro mib interface value
    simp [lastValue, setupEdits, mib]
  exact fun hndl member =>
    ⟨setup_session_leaf hwaddr steady.distinct filled hndl member,
      fun mib => setup_session_leaf (index mib) steady.distinct filled hndl member⟩

/-- What the leaves of an interface say of it. -/
structure Readable (datastore : Datastore) (session : Session) (interface : Iface) : Prop where
  hwaddr : ∃ text, session.leaf interface.name .physAddress = some text ∧
    PhysAddress text ∧ readHwaddr text = some interface.hwadr
  index : datastore.ifMib = true → ∃ text, session.leaf interface.name .ifIndex = some text ∧
    readIndex text = some interface.idx

theorem Identified.readable (identified : Identified datastore world) {hndl : Hndl}
    (member : hndl ∈ world.store.ifaces) :
    Readable datastore world.kernel.2 (world.objects hndl.iface) where
  hwaddr := ⟨_, (identified hndl member).1, hwaddr_str_complies _, hwaddr_str_read _⟩
  index mib := ⟨_, (identified hndl member).2 mib, index_str_read _⟩

variable [DecidableEq NameBucket] [DecidableEq IndexBucket]

theorem notify_still (yang : Yang datastore) (steady : Steady (beside platform) world)
    (mirrored : Mirrored world) {link : GetlinkRsp}
    (listed : ∀ hndl ∈ world.store.ifaces, (world.objects hndl.iface).idx = link.ifiIndex →
      Listed (link.operstate.getD 0))
    (done : gateNotify (beside platform) (nlifdPushOper datastore platform) (.change link) world =
      .ok (0, next)) : Still world next := by
  cases notify_cases steady yang.xpath link with
  | inl quiet =>
      cases quiet.2.symm.trans done
      exact ⟨rfl, fun _ _ => rfl, fun _ _ => rfl, fun _ _ => rfl, fun _ _ _ => rfl⟩
  | inr moved =>
      obtain ⟨hndl, ⟨member, idx, _⟩, notified⟩ := moved
      obtain ⟨value, formatted, named, _⟩ := listed_str (listed hndl member idx)
      have formattedNow : nlifLinkOperstateStr
          (ifaceRefreshState (world.objects hndl.iface) link).2.opstat = .ok value := formatted
      rw [push_status_eq _ formattedNow (yang.status_accepted named) yang.applies] at notified
      cases notified.symm.trans done
      refine ⟨rfl, fun other there => (refreshed_frame _ steady member there).name,
        fun other there => (refreshed_frame _ steady member there).idx, ?_,
        fun name node identifying => pushed_identifying mirrored.applied name identifying⟩
      intro other there
      by_cases self : other = hndl
      · subst self
        rw [refreshed_self]
        rfl
      · rw [refreshed_other _ steady member there self]

theorem dispatch_still (yang : Yang datastore) (notifications : List Notification)
    (steady : Steady (beside platform) world) (mirrored : Mirrored world)
    (listed : BatchListed world notifications) {ret : Int}
    (done : nlifdDispatchNotif datastore platform notifications world = .ok (ret, next)) :
    Still world next := by
  induction notifications generalizing world with
  | nil =>
      cases done
      exact ⟨rfl, fun _ _ => rfl, fun _ _ => rfl, fun _ _ => rfl, fun _ _ _ => rfl⟩
  | cons notification rest ih =>
      have restListed : BatchListed world rest :=
        fun other there => listed other (List.mem_cons_of_mem _ there)
      by_cases heard : Heard notification
      · have listedHere := listed notification (List.mem_cons_self ..) heard
        obtain ⟨middle, notified, first⟩ := notify_followed yang steady mirrored listedHere
        have listedNow : BatchListed middle rest := by
          intro other there heard hndl member idx
          have old : hndl ∈ world.store.ifaces := first.lasting.ifaces ▸ member
          rw [first.lasting.idx hndl old] at idx
          exact restListed other there heard hndl old idx
        rw [dispatch_heard rest heard notified] at done
        exact (notify_still yang steady mirrored listedHere notified).trans
          (ih first.steady first.mirrored listedNow done)
      · rw [dispatch_skipped rest heard] at done
        exact ih steady mirrored restListed done

/-- Over any run of listed batches after a set-up, the phys-address leaf of every enrolled
interface matches its typedef and reads back to the address of the interface, and where the
tree has if-index leaves each reads back to the index. -/
theorem leaves_identify (yang : Yang datastore) (reports : KernelReports platform.kernel)
    {objects : Objects} {kernel : Kstate × Session}
    {loaded ready : OperWorld NameBucket IndexBucket Kstate}
    (opened : nlifdOpen (beside platform) objects kernel = .ok (0, loaded))
    (setup : nlifdIfaceSetupOperDstore datastore loaded = .ok (.ok, ready))
    {log : List (List Notification × Int)}
    (run : Run ((dispatchMachine datastore platform).given BatchListed) ready log world) :
    ∀ hndl ∈ world.store.ifaces,
      Readable datastore world.kernel.2 (world.objects hndl.iface) := by
  have loadedSteady := fresh_steady (open_fresh (beside_reports reports) opened)
  obtain ⟨steady, mirrored⟩ := setup_dstore_mirrored yang loadedSteady setup
  have identified : Identified datastore ready := setup_identified loadedSteady setup
  have reached : Followed platform ready world ∧ Identified datastore world := by
    have followed : Followed platform ready ready := ⟨steady, mirrored, rfl, rfl, fun _ _ => rfl⟩
    refine run_invariant (fun reached => Followed platform ready reached ∧
      Identified datastore reached) ⟨followed, identified⟩ ?_ run
    rintro state notifications ret after ⟨followed, known⟩ admitted stepped
    obtain ⟨done, dispatched, further⟩ := dispatch_followed yang notifications followed.steady
      followed.mirrored admitted.2
    cases dispatched.symm.trans stepped
    exact ⟨followed.trans further, known.still
      (dispatch_still yang notifications followed.steady followed.mirrored admitted.2 stepped)⟩
  exact fun hndl member => reached.2.readable member

end Daemon

/-- The link "a" once it came up. -/
theorem up_link_identified :
    ∃ loaded ready next : CodeWorld (Unit × Session),
      nlifdOpen (beside oneLinkPlatform) (fun _ => ifaceFill oneLink) ((), freshSession) =
        .ok (0, loaded) ∧
      nlifdIfaceSetupOperDstore yangDatastore loaded = .ok (.ok, ready) ∧
      nlifdDispatchNotif yangDatastore oneLinkPlatform
        [⟨true, { oneLink with operstate := some IF_OPER_UP }⟩] ready = .ok (0, next) ∧
      next.store.ifaces ≠ [] ∧
      ∀ hndl ∈ next.store.ifaces,
        Readable yangDatastore next.kernel.2 (next.objects hndl.iface) := by
  have result : (fun done => (done.1, done.2.2.2.store.ifaces.length)) <$>
      notifiedOnce IF_OPER_UP = .ok ((0, .ok, 0), 1) := by decide +kernel
  obtain ⟨⟨_, loaded, ready, next⟩, done, same⟩ := (map_ok_iff ..).mp result
  simp only [Prod.mk.injEq] at same
  obtain ⟨rfl, enrolled⟩ := same
  obtain ⟨opened, setup, dispatched⟩ := notified_once_ok done
  have listed : BatchListed ready [⟨true, { oneLink with operstate := some IF_OPER_UP }⟩] := by
    intro notification member _ _ _ _
    rw [List.mem_singleton.mp member]
    exact .inl rfl
  have run : Run ((dispatchMachine yangDatastore oneLinkPlatform).given BatchListed) ready
      ([] ++ [([⟨true, { oneLink with operstate := some IF_OPER_UP }⟩], 0)]) next :=
    .step .start ⟨trivial, listed⟩ dispatched
  refine ⟨loaded, ready, next, opened, setup, dispatched, ?_,
    leaves_identify yang_datastore_yang one_link_kernel_reports opened setup run⟩
  intro none
  rw [none] at enrolled
  cases enrolled

end Nlif.LinkText
