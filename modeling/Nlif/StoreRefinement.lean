import Nlif.FaultRelation
import Nlif.LibraryRun
import Nlif.RefiledTable

/-!
# The store against a plain collection

The plain store is the same store with a bucket for each string and each index. A
hashed store refines it as long as no handle that is filed under another string
answers to a string that is looked up.
-/

namespace Nlif.StoreRefinement

open LinkModel IfaceModel FaultWalk FaultRelation BucketTable RefiledTable StoreModel StoreRehash
  StoreInvariant

set_option autoImplicit false

def plainHashing : Hashing CString UInt32 := ⟨id, id⟩

abbrev PlainStore := Store CString UInt32

variable {NameBucket IndexBucket : Type}

def visitMatch (objects : Objects) (strid : CString) (hndl : Hndl) : Except Fault (Option Unit) :=
  (fun yes => if yes then some () else none) <$> storeMatchIfaceBystrid (objects hndl.iface) strid

/-- Handles filed under other strings answer to this one only as its own do. -/
def Clear (objects : Objects) (strid : CString) (table : Table CString Hndl) : Prop :=
  ∀ other, other ≠ strid → ∀ hndl ∈ table other,
    storeMatchIfaceBystrid (objects hndl.iface) strid = .ok false ∨
      storeMatchIfaceBystrid (objects hndl.iface) strid = answersIn objects strid (table strid)

theorem clear_empty (objects : Objects) (strid : CString) : Clear objects strid empty := by
  simp [Clear]

theorem first_hit_visit_match (objects : Objects) (strid : CString) (chain : List Hndl) :
    firstHit (visitMatch objects strid) chain =
      (fun yes => if yes then some () else none) <$> answersIn objects strid chain := by
  have walk : answersIn objects strid chain =
      Option.isSome <$> firstHit (visitMatch objects strid) chain := rfl
  rw [walk]
  rcases firstHit (visitMatch objects strid) chain with fault | _ | _ <;> rfl

theorem Clear.decided {objects : Objects} {strid : CString} {table : Table CString Hndl}
    (clear : Clear objects strid table) : Decided (visitMatch objects strid) strid table := by
  intro other different hndl member
  rcases clear other different hndl member with silent | same
  · exact .inl (by rw [visitMatch, silent]; rfl)
  · exact .inr (by rw [visitMatch, same, first_hit_visit_match])

section Lookups

variable [DecidableEq NameBucket] {hash : Hashing NameBucket IndexBucket} {objects : Objects}
  {plain : Table CString Hndl} {table : Table NameBucket Hndl}

theorem answers_in_refiled (refiled : Refiled hash.str plain table) {strid : CString}
    (clear : Clear objects strid plain) :
    answersIn objects strid (table (hash.str strid)) = answersIn objects strid (plain strid) := by
  have same := refiled.first_hit strid clear.decided
  have walk : ∀ chain, answersIn objects strid chain =
      Option.isSome <$> firstHit (visitMatch objects strid) chain := fun _ => rfl
  rw [walk, walk, same]

def NameClear (objects : Objects) (name : CString) (table : Table CString Hndl) : Prop :=
  ∀ other, other ≠ name → ∀ hndl ∈ table other, (objects hndl.iface).name ≠ name

theorem find_name_refiled (refiled : Refiled hash.str plain table) {name : CString}
    (clear : NameClear objects name plain) :
    (table (hash.str name)).find? (fun hndl => name = (objects hndl.iface).name) =
      (plain name).find? (fun hndl => name = (objects hndl.iface).name) := by
  have walk : ∀ chain : List Hndl,
      firstHit (fun hndl => (.ok (if name = (objects hndl.iface).name then some hndl else none) :
        Except Fault (Option Hndl))) chain =
          .ok (chain.find? fun hndl => name = (objects hndl.iface).name) := by
    intro chain
    induction chain with
    | nil => rfl
    | cons hndl rest ih =>
        by_cases named : name = (objects hndl.iface).name
        · simp [firstHit, ← named]
        · simp [firstHit, named, ih]
  have decided : Decided (fun hndl => (.ok (if name = (objects hndl.iface).name then some hndl
      else none) : Except Fault (Option Hndl))) name plain := by
    intro other different hndl member
    have named : ¬ name = (objects hndl.iface).name :=
      fun same => clear other different hndl member same.symm
    exact .inl (by simp only [if_neg named])
  have same := refiled.first_hit name decided
  rw [walk, walk] at same
  exact Except.ok.inj same

def AliasClear (objects : Objects) (ifalias : CString) (table : Table CString Hndl) : Prop :=
  Decided (visitAlias objects ifalias) ifalias table

end Lookups

structure Refined [DecidableEq NameBucket] [DecidableEq IndexBucket]
    (hash : Hashing NameBucket IndexBucket) (plain : PlainStore)
    (store : Store NameBucket IndexBucket) : Prop where
  nameh : Refiled hash.str plain.nameh store.nameh
  indxh : Refiled hash.index plain.indxh store.indxh
  aliash : Refiled hash.str plain.aliash store.aliash
  ifaces : store.ifaces = plain.ifaces
  count : store.count = plain.count

section Stores

variable [DecidableEq NameBucket] [DecidableEq IndexBucket]
  {hash : Hashing NameBucket IndexBucket} {objects : Objects} {bound : Addr}
  {plain : PlainStore} {store : Store NameBucket IndexBucket} {hndl : Hndl}

theorem refined_reinit (hash : Hashing NameBucket IndexBucket) :
    Refined hash storeReinit storeReinit :=
  ⟨refiled_empty hash.str, refiled_empty hash.index, refiled_empty hash.str, rfl, rfl⟩

theorem Refined.linked (refined : Refined hash plain store)
    (linked : Linked plainHashing objects bound plain) : Linked hash objects bound store where
  nodup := refined.ifaces ▸ linked.nodup
  count := by rw [refined.count, refined.ifaces, linked.count]
  allocated := refined.ifaces ▸ linked.allocated
  indxh := refined.ifaces ▸ refined.indxh.chained linked.indxh
  indexed hndl member :=
    (refined.indxh.mem_iff ..).mpr ⟨_, linked.indexed hndl (refined.ifaces ▸ member), rfl⟩
  injective := refined.ifaces ▸ linked.injective
  nameh := refined.ifaces ▸ refined.nameh.chained linked.nameh
  aliash := refined.ifaces ▸ refined.aliash.chained linked.aliash
  sound := refined.ifaces ▸ linked.sound

theorem Refined.search (refined : Refined hash plain store)
    (linked : Linked plainHashing objects bound plain) (index : UInt32) :
    storeSearchIfaceHndlByindex hash objects store index =
      storeSearchIfaceHndlByindex plainHashing objects plain index := by
  have hashed := refined.linked linked
  rcases found : storeSearchIfaceHndlByindex plainHashing objects plain index with _ | hndl
  · refine (hashed.search_none_iff index).mpr fun other member => ?_
    rw [refined.ifaces] at member
    exact (linked.search_none_iff index).mp found other member
  · obtain ⟨member, rfl⟩ := linked.search_some found
    exact hashed.search (refined.ifaces ▸ member)

theorem Refined.may_register_name (refined : Refined hash plain store) {name : CString}
    (clear : Clear objects name plain.nameh) :
    storeMayRegisterIfaceName hash objects store name =
      storeMayRegisterIfaceName plainHashing objects plain name := by
  unfold storeMayRegisterIfaceName
  rw [answers_in_refiled refined.nameh clear]
  rfl

theorem Refined.may_register_alias (refined : Refined hash plain store) {text : CString}
    (clear : Clear objects text plain.aliash) :
    storeMayRegisterIfaceAlias hash objects store text =
      storeMayRegisterIfaceAlias plainHashing objects plain text := by
  unfold storeMayRegisterIfaceAlias
  rw [answers_in_refiled refined.aliash clear]
  rfl

theorem Refined.may_register_index (refined : Refined hash plain store)
    (linked : Linked plainHashing objects bound plain) (index : UInt32) :
    storeMayRegisterIfaceIndex hash objects store index =
      storeMayRegisterIfaceIndex plainHashing objects plain index := by
  unfold storeMayRegisterIfaceIndex
  rw [refined.search linked]

theorem Refined.unlink (refined : Refined hash plain store) (hndl : Hndl) :
    Refined hash (storeUnlinkHndl hndl plain) (storeUnlinkHndl hndl store) where
  nameh := refined.nameh.del hndl
  indxh := refined.indxh.del hndl
  aliash := refined.aliash.del hndl
  ifaces := by simp only [storeUnlinkHndl, refined.ifaces]
  count := by simp only [storeUnlinkHndl, refined.count]

theorem Refined.link (refined : Refined hash plain store) (hndl : Hndl) (index : UInt32)
    (name : CString) (ifalias : Option CString) :
    Refined hash
      (storeCreatenEnrollIfaceHndl plain hndl (plainHashing.index index) (plainHashing.str name)
        (ifalias.map plainHashing.str))
      (storeCreatenEnrollIfaceHndl store hndl (hash.index index) (hash.str name)
        (ifalias.map hash.str)) where
  nameh := refined.nameh.add name hndl
  indxh := refined.indxh.add index hndl
  aliash := by
    cases ifalias with
    | none => exact refined.aliash
    | some text => exact refined.aliash.add text hndl
  ifaces := by simp only [storeCreatenEnrollIfaceHndl, refined.ifaces]
  count := by simp only [storeCreatenEnrollIfaceHndl, refined.count]

theorem Refined.search_byname (refined : Refined hash plain store) {name : CString}
    (clear : NameClear objects name plain.nameh) :
    storeSearchIfaceByname objects store (hash.str name) name =
      storeSearchIfaceByname objects plain name name := by
  unfold storeSearchIfaceByname
  rw [find_name_refiled refined.nameh clear]

theorem Refined.search_byalias (refined : Refined hash plain store) {ifalias : CString}
    (clear : AliasClear objects ifalias plain.aliash) :
    storeSearchIfaceByalias objects store (hash.str ifalias) ifalias =
      storeSearchIfaceByalias objects plain ifalias ifalias :=
  refined.aliash.first_hit ifalias clear

theorem Refined.find_byname (refined : Refined hash plain store) {name : CString}
    (clear : linkValidateName name > 0 → NameClear objects name plain.nameh) :
    storeFindIfaceByname hash objects store name =
      storeFindIfaceByname plainHashing objects plain name := by
  unfold storeFindIfaceByname
  by_cases valid : linkValidateName name > 0
  · rw [if_pos valid, if_pos valid, refined.search_byname (clear valid)]
    rfl
  · rw [if_neg valid, if_neg valid]

theorem Refined.find_byalias (refined : Refined hash plain store) {ifalias : CString}
    (clear : linkValidateAlias (some ifalias) > 0 → AliasClear objects ifalias plain.aliash) :
    storeFindIfaceByalias hash objects store ifalias =
      storeFindIfaceByalias plainHashing objects plain ifalias := by
  unfold storeFindIfaceByalias
  by_cases valid : linkValidateAlias (some ifalias) > 0
  · rw [if_pos valid, if_pos valid, refined.search_byalias (clear valid)]
    rfl
  · rw [if_neg valid, if_neg valid]

theorem Refined.find_bystrid (refined : Refined hash plain store) {strid : CString}
    (nameClear : linkValidateName strid > 0 → NameClear objects strid plain.nameh)
    (aliasClear : storeFindIfaceByname plainHashing objects plain strid = none →
      linkValidateAlias (some strid) > 0 → AliasClear objects strid plain.aliash) :
    storeFindIfaceBystrid hash objects store strid =
      storeFindIfaceBystrid plainHashing objects plain strid := by
  have byname := refined.find_byname nameClear
  have byalias := fun unnamed => refined.find_byalias (aliasClear unnamed)
  rcases found : storeFindIfaceByname plainHashing objects plain strid with _ | interface
  · have foundHashed := byname.trans found
    have missed := byalias found
    unfold storeFindIfaceByname at found foundHashed
    unfold storeFindIfaceBystrid
    simp only [found, foundHashed]
    exact missed
  · have foundHashed := byname.trans found
    unfold storeFindIfaceByname at found foundHashed
    unfold storeFindIfaceBystrid
    simp only [found, foundHashed]

theorem Refined.find_byindex (refined : Refined hash plain store)
    (linked : Linked plainHashing objects bound plain) (index : UInt32) :
    storeFindIfaceByindex hash objects store index =
      storeFindIfaceByindex plainHashing objects plain index := by
  unfold storeFindIfaceByindex
  rw [refined.search linked]

def Paired (hash : Hashing NameBucket IndexBucket) (result : Int × PlainStore)
    (other : Int × Store NameBucket IndexBucket) : Prop :=
  other.1 = result.1 ∧ Refined hash result.2 other.2

/-- The strings a candidate is registered with are clear where they are looked up:
the alias only once name and index were found free. -/
structure RegisterClear (objects : Objects) (plain : PlainStore) (index : UInt32)
    (name : CString) (ifalias : Option CString) : Prop where
  onName : Clear objects name plain.nameh
  onAlias : storeMayRegisterIfaceName plainHashing objects plain name = .ok true →
    storeMayRegisterIfaceIndex plainHashing objects plain index = true →
    ∀ text, ifalias = some text → Clear objects text plain.aliash

theorem store_enroll_iface_paired (hndl : Hndl) (linked : Linked plainHashing objects bound plain)
    (refined : Refined hash plain store)
    (clear : RegisterClear objects plain (objects hndl.iface).idx (objects hndl.iface).name
      ((objects hndl.iface).ifalias.map HeapStr.text)) :
    Together (Paired hash) (storeEnrollIface plainHashing objects hndl plain)
      (storeEnrollIface hash objects hndl store) := by
  unfold storeEnrollIface
  simp only [refined.may_register_name clear.onName, refined.may_register_index linked]
  apply together_bind_same
  intro mayName named
  cases mayName with
  | false => exact .done ⟨rfl, refined⟩
  | true =>
      rcases free : storeMayRegisterIfaceIndex plainHashing objects plain
        (objects hndl.iface).idx with _ | _
      · exact .done ⟨rfl, refined⟩
      · have aliasClear := clear.onAlias named free
        rcases held : (objects hndl.iface).ifalias with _ | ⟨text, live⟩
        · exact .done ⟨rfl, refined.link hndl _ _ none⟩
        · rw [held] at aliasClear
          cases live with
          | false => exact .fault _
          | true =>
              simp only [HeapStr.read, if_true, ok_bind, Bool.not_true, Bool.false_eq_true,
                if_false, refined.may_register_alias (aliasClear text rfl)]
              apply together_bind_same
              intro mayAlias _
              cases mayAlias with
              | false => exact .done ⟨rfl, refined⟩
              | true => exact .done ⟨rfl, refined.link hndl _ _ (some text)⟩

theorem store_withdraw_iface_paired (linked : Linked plainHashing objects bound plain)
    (refined : Refined hash plain store) (interface : Addr) :
    Paired hash (storeWithdrawIface plainHashing objects interface plain)
      (storeWithdrawIface hash objects interface store) := by
  unfold storeWithdrawIface
  rw [refined.search linked]
  cases storeSearchIfaceHndlByindex plainHashing objects plain (objects interface).idx with
  | none => exact ⟨rfl, refined⟩
  | some hndl => exact ⟨rfl, refined.unlink hndl⟩

theorem store_rehash_name_paired (refined : Refined hash plain store) {name : CString}
    (clear : Clear objects name (del hndl plain.nameh)) :
    Together (Paired hash) (storeRehashName plainHashing objects hndl name plain)
      (storeRehashName hash objects hndl name store) := by
  have unlinked : Refined hash { plain with nameh := del hndl plain.nameh }
      { store with nameh := del hndl store.nameh } :=
    { refined with nameh := refined.nameh.del hndl }
  unfold storeRehashName
  simp only [unlinked.may_register_name clear]
  apply together_bind_same
  intro may _
  cases may with
  | false => exact .done ⟨rfl, unlinked⟩
  | true => exact .done ⟨rfl, { unlinked with nameh := unlinked.nameh.add name hndl }⟩

theorem store_rehash_alias_paired (refined : Refined hash plain store)
    {ifalias : Option HeapStr}
    (clear : ∀ pointer, ifalias = some pointer →
      Clear objects pointer.text (del hndl plain.aliash)) :
    Together (Paired hash) (storeRehashAlias plainHashing objects hndl ifalias plain)
      (storeRehashAlias hash objects hndl ifalias store) := by
  have unlinked : Refined hash { plain with aliash := del hndl plain.aliash }
      { store with aliash := del hndl store.aliash } :=
    { refined with aliash := refined.aliash.del hndl }
  unfold storeRehashAlias
  rcases ifalias with _ | ⟨text, live⟩
  · exact .done ⟨rfl, unlinked⟩
  · cases live with
    | false => exact .fault _
    | true =>
        simp only [HeapStr.read, if_true, ok_bind, unlinked.may_register_alias (clear _ rfl)]
        apply together_bind_same
        intro may _
        cases may with
        | false => exact .done ⟨rfl, unlinked⟩
        | true => exact .done ⟨rfl, { unlinked with aliash := unlinked.aliash.add text hndl }⟩

/-- The strings a handler re-hashes are clear once the handle is off their chain:
the alias only where the name was not refused. -/
structure RehashClear (objects : Objects) (plain : PlainStore) (rename realias : Bool)
    (interface : Iface) (hndl : Hndl) : Prop where
  onName : rename = true → Clear objects interface.name (del hndl plain.nameh)
  onAlias : realias = true →
    (rename = true → nameClash plainHashing objects hndl interface.name plain = .ok false) →
    ∀ pointer, interface.ifalias = some pointer →
      Clear objects pointer.text (del hndl plain.aliash)

theorem rehash_when_paired (wanted : Bool) (found : Option Hndl)
    {rehashPlain : Hndl → PlainStore → Except Fault (Int × PlainStore)}
    {rehash : Hndl → Store NameBucket IndexBucket →
      Except Fault (Int × Store NameBucket IndexBucket)}
    (refined : Refined hash plain store)
    (rehashes : ∀ hndl, wanted = true → found = some hndl →
      Together (Paired hash) (rehashPlain hndl plain) (rehash hndl store)) :
    Together (Paired hash) (rehashWhen wanted found rehashPlain plain)
      (rehashWhen wanted found rehash store) := by
  cases wanted with
  | false => exact .done ⟨rfl, refined⟩
  | true =>
      cases found with
      | none => exact .fault _
      | some hndl => exact rehashes hndl rfl rfl

theorem store_rehash_paired (linked : Linked plainHashing objects bound plain)
    (refined : Refined hash plain store) (rename realias : Bool) (interface : Addr)
    (clear : ∀ hndl, storeSearchIfaceHndlByindex plainHashing objects plain
        (objects interface).idx = some hndl →
      RehashClear objects plain rename realias (objects interface) hndl) :
    Together (Paired hash) (storeRehash plainHashing objects rename realias interface plain)
      (storeRehash hash objects rename realias interface store) := by
  unfold storeRehash
  simp only [refined.search linked]
  have first := rehash_when_paired rename _ refined fun hndl wanted found =>
    store_rehash_name_paired refined ((clear hndl found).onName wanted)
  apply first.bind
  intro ⟨ret, middle⟩ ⟨other, after⟩ renamedBy _ ⟨same, refinedMiddle⟩
  obtain rfl : other = ret := same
  by_cases accepted : other = 0
  · simp only [accepted, ne_eq, not_true_eq_false, if_false]
    apply rehash_when_paired realias _ refinedMiddle
    intro hndl wanted found
    apply store_rehash_alias_paired refinedMiddle
    -- the name re-hash left the alias index alone and was not refused
    have passed : (rename = true → nameClash plainHashing objects hndl
        (objects interface).name plain = .ok false) ∧ middle.aliash = plain.aliash := by
      cases rename with
      | false =>
          cases renamedBy
          exact ⟨by simp, rfl⟩
      | true =>
          simp only [rehashWhen, if_true, found] at renamedBy
          rcases (store_rehash_name_ok_iff ..).mp renamedBy with ⟨free, _, rfl⟩ | ⟨_, failed, _⟩
          · exact ⟨fun _ => free, rfl⟩
          · rw [accepted] at failed
            cases failed
    rw [passed.2]
    exact (clear hndl found).onAlias wanted passed.1
  · simp only [accepted, ne_eq, not_false_eq_true, if_true]
    exact .done ⟨rfl, refinedMiddle⟩

end Stores

end Nlif.StoreRefinement
