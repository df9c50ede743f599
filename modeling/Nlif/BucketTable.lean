import Mathlib.Data.List.Find
import Mathlib.Data.List.Nodup
import Mathlib.Logic.Function.Basic
import Mathlib.Tactic.Common

/-!
Hash tables of intrusive chains. A table maps each bucket to its chain; a node
is pushed at the head of one chain and unlinked from wherever it is, so that
unlinking a node that is on no chain does nothing. `Chained` is the shape every
such table keeps, `Fibred` relates one table to the list of keys its nodes were
inserted under, newest first, so that tables of two hash functions can be compared.
-/

namespace Nlif.BucketTable

set_option autoImplicit false

variable {Bucket Key Node : Type*}

abbrev Table (Bucket Node : Type*) := Bucket → List Node

def empty : Table Bucket Node := fun _ => []

def add [DecidableEq Bucket] (bucket : Bucket) (node : Node) (table : Table Bucket Node) :
    Table Bucket Node :=
  Function.update table bucket (node :: table bucket)

def del [DecidableEq Node] (node : Node) (table : Table Bucket Node) : Table Bucket Node :=
  fun bucket => (table bucket).filter fun other => other ≠ node

def On (node : Node) (bucket : Bucket) (table : Table Bucket Node) : Prop :=
  ∀ other, node ∈ table other ↔ other = bucket

def Off (node : Node) (table : Table Bucket Node) : Prop :=
  ∀ bucket, node ∉ table bucket

/-- Every node on a chain is a registered one, on that chain only, once. -/
structure Chained (nodes : List Node) (table : Table Bucket Node) : Prop where
  registered : ∀ bucket, ∀ node ∈ table bucket, node ∈ nodes
  once : ∀ node bucket other, node ∈ table bucket → node ∈ table other → bucket = other
  nodup : ∀ bucket, (table bucket).Nodup

@[simp] theorem empty_apply (bucket : Bucket) : (empty : Table Bucket Node) bucket = [] := rfl

theorem chained_empty (nodes : List Node) : Chained nodes (empty : Table Bucket Node) where
  registered := by simp
  once := by simp
  nodup := by simp

theorem Chained.mono {nodes more : List Node} {table : Table Bucket Node}
    (chained : Chained nodes table) (included : ∀ node ∈ nodes, node ∈ more) :
    Chained more table where
  registered bucket node member := included node (chained.registered bucket node member)
  once := chained.once
  nodup := chained.nodup

theorem Chained.off_of_not_mem {nodes : List Node} {table : Table Bucket Node}
    (chained : Chained nodes table) {node : Node} (absent : node ∉ nodes) : Off node table :=
  fun bucket member => absent (chained.registered bucket node member)

theorem Chained.on_of_mem {nodes : List Node} {table : Table Bucket Node}
    (chained : Chained nodes table) {node : Node} {bucket : Bucket}
    (member : node ∈ table bucket) : On node bucket table := by
  intro other
  constructor
  · exact fun there => chained.once node other bucket there member
  · rintro rfl
    exact member

section Push

variable [DecidableEq Bucket]

@[simp] theorem add_self (bucket : Bucket) (node : Node) (table : Table Bucket Node) :
    add bucket node table bucket = node :: table bucket := by
  simp [add]

theorem add_other (bucket other : Bucket) (node : Node) (table : Table Bucket Node)
    (different : other ≠ bucket) : add bucket node table other = table other := by
  simp [add, different]

@[simp] theorem mem_add (bucket other : Bucket) (node candidate : Node)
    (table : Table Bucket Node) :
    candidate ∈ add bucket node table other ↔
      (candidate = node ∧ other = bucket) ∨ candidate ∈ table other := by
  by_cases same : other = bucket
  · subst same
    simp
  · simp [add_other bucket other node table same, same]

theorem on_add_of_off (bucket : Bucket) (node : Node) (table : Table Bucket Node)
    (off : Off node table) : On node bucket (add bucket node table) := by
  intro other
  simp [off other]

theorem off_add_other (bucket : Bucket) (node other : Node) (table : Table Bucket Node)
    (different : other ≠ node) : Off other (add bucket node table) ↔ Off other table := by
  simp [Off, different]

theorem Chained.add {nodes : List Node} {table : Table Bucket Node}
    (chained : Chained nodes table) (bucket : Bucket) (node : Node)
    (member : node ∈ nodes) (off : Off node table) : Chained nodes (add bucket node table) where
  registered other candidate linked := by
    rcases (mem_add ..).mp linked with ⟨rfl, _⟩ | old
    · exact member
    · exact chained.registered other candidate old
  once candidate left right onLeft onRight := by
    rcases (mem_add ..).mp onLeft with ⟨rfl, rfl⟩ | oldLeft
    · exact ((on_add_of_off left candidate table off right).mp onRight).symm
    · rcases (mem_add ..).mp onRight with ⟨rfl, rfl⟩ | oldRight
      · exact absurd oldLeft (off left)
      · exact chained.once candidate left right oldLeft oldRight
  nodup other := by
    by_cases same : other = bucket
    · subst same
      rw [add_self]
      exact (chained.nodup other).cons (off other)
    · rw [add_other bucket other node table same]
      exact chained.nodup other

end Push

section Unlink

variable [DecidableEq Node]

@[simp] theorem mem_del (node candidate : Node) (bucket : Bucket) (table : Table Bucket Node) :
    candidate ∈ del node table bucket ↔ candidate ∈ table bucket ∧ candidate ≠ node := by
  simp [del]

/-- Unlinking a node that is on no chain is a no-op. -/
theorem del_unlinked (node : Node) (table : Table Bucket Node) (off : Off node table) :
    del node table = table := by
  funext bucket
  rw [del, List.filter_eq_self]
  intro other member
  have different : other ≠ node := fun same => off bucket (same ▸ member)
  simpa using different

theorem off_del (node : Node) (table : Table Bucket Node) : Off node (del node table) := by
  intro bucket
  simp

theorem del_del (node : Node) (table : Table Bucket Node) :
    del node (del node table) = del node table :=
  del_unlinked node _ (off_del node table)

theorem off_del_other (node other : Node) (table : Table Bucket Node)
    (different : other ≠ node) : Off other (del node table) ↔ Off other table := by
  simp [Off, different]

theorem Chained.del {nodes : List Node} {table : Table Bucket Node}
    (chained : Chained nodes table) (node : Node) : Chained nodes (del node table) where
  registered bucket other member := chained.registered bucket other ((mem_del ..).mp member).1
  once other bucket second left right :=
    chained.once other bucket second ((mem_del ..).mp left).1 ((mem_del ..).mp right).1
  nodup bucket := (chained.nodup bucket).filter _

theorem Chained.forget {nodes : List Node} {table : Table Bucket Node}
    (chained : Chained nodes table) (node : Node) (off : Off node table) :
    Chained (nodes.filter fun other => other ≠ node) table where
  registered bucket other member := by
    have different : other ≠ node := fun same => off bucket (same ▸ member)
    simpa [different] using chained.registered bucket other member
  once := chained.once
  nodup := chained.nodup

end Unlink

section Relink

variable [DecidableEq Bucket] [DecidableEq Node]

theorem del_add (bucket : Bucket) (node : Node) (table : Table Bucket Node) :
    del node (add bucket node table) = del node table := by
  funext other
  by_cases same : other = bucket
  · subst same
    simp [del]
  · simp [del, add_other bucket other node table same]

/-- What one re-hash can do to a table: nothing, drop the node, or move it. -/
def Relinked (node : Node) (before after : Table Bucket Node) : Prop :=
  after = before ∨ after = del node before ∨ ∃ bucket, after = add bucket node (del node before)

theorem relinked_refl (node : Node) (table : Table Bucket Node) : Relinked node table table :=
  .inl rfl

theorem Relinked.trans {node : Node} {first second third : Table Bucket Node}
    (left : Relinked node first second) (right : Relinked node second third) :
    Relinked node first third := by
  have dropped : del node second = del node first := by
    rcases left with rfl | rfl | ⟨bucket, rfl⟩
    · rfl
    · exact del_del node first
    · rw [del_add, del_del]
  rcases right with rfl | rfl | ⟨bucket, rfl⟩
  · exact left
  · exact .inr (.inl dropped)
  · exact .inr (.inr ⟨bucket, by rw [dropped]⟩)

theorem Relinked.mem {node other : Node} {before after : Table Bucket Node} {bucket : Bucket}
    (relinked : Relinked node before after) (chained : other ∈ after bucket) :
    other = node ∨ other ∈ before bucket := by
  rcases relinked with rfl | rfl | ⟨target, rfl⟩
  · exact .inr chained
  · exact .inr ((mem_del ..).mp chained).1
  · rcases (mem_add ..).mp chained with ⟨same, _⟩ | kept
    · exact .inl same
    · exact .inr ((mem_del ..).mp kept).1

theorem Chained.relinked {nodes : List Node} {before after : Table Bucket Node} {node : Node}
    (chained : Chained nodes before) (member : node ∈ nodes)
    (relinked : Relinked node before after) : Chained nodes after := by
  rcases relinked with rfl | rfl | ⟨bucket, rfl⟩
  · exact chained
  · exact chained.del node
  · exact (chained.del node).add bucket node member (off_del node before)

end Relink

section Keys

/-- What a table owes to the keys of its nodes. `none` is a node whose key is
unsettled and may be registered anywhere, `some none` one without key. -/
structure Keyed (hash : Key → Bucket) (key : Node → Option (Option Key)) (nodes : List Node)
    (table : Table Bucket Node) : Prop where
  home : ∀ node ∈ nodes, ∀ text, key node = some (some text) → node ∈ table (hash text)
  absent : ∀ node ∈ nodes, key node = some none → Off node table
  once : ∀ left ∈ nodes, ∀ right ∈ nodes, ∀ text, key left = some (some text) →
    key right = some (some text) → left = right

variable {hash : Key → Bucket} {key later : Node → Option (Option Key)} {nodes : List Node}
  {table : Table Bucket Node}

theorem keyed_nil (hash : Key → Bucket) (key : Node → Option (Option Key))
    (table : Table Bucket Node) : Keyed hash key [] table :=
  ⟨by simp, by simp, by simp⟩

theorem Keyed.ease (keyed : Keyed hash key nodes table)
    (eased : ∀ node ∈ nodes, later node = none ∨ later node = key node) :
    Keyed hash later nodes table where
  home node member text settled := by
    rcases eased node member with open_ | same
    · rw [open_] at settled
      cases settled
    · exact keyed.home node member text (same ▸ settled)
  absent node member settled := by
    rcases eased node member with open_ | same
    · rw [open_] at settled
      cases settled
    · exact keyed.absent node member (same ▸ settled)
  once left leftMember right rightMember text settledLeft settledRight := by
    rcases eased left leftMember with open_ | sameLeft
    · rw [open_] at settledLeft
      cases settledLeft
    · rcases eased right rightMember with open_ | sameRight
      · rw [open_] at settledRight
        cases settledRight
      · exact keyed.once left leftMember right rightMember text (sameLeft ▸ settledLeft)
          (sameRight ▸ settledRight)

variable [DecidableEq Node]

theorem Keyed.drop {more : List Node} (keyed : Keyed hash key nodes table) (node : Node)
    (included : ∀ other ∈ more, other = node ∨ other ∈ nodes)
    (same : ∀ other ∈ nodes, other ≠ node → later other = key other)
    (gone : node ∈ more → later node = none ∨ later node = some none) :
    Keyed hash later more (del node table) := by
  have other_of_text : ∀ other ∈ more, ∀ text, later other = some (some text) →
      other ≠ node ∧ other ∈ nodes ∧ key other = some (some text) := by
    intro other member text settled
    have different : other ≠ node := by
      rintro rfl
      rcases gone member with unsettled | keyless
      · rw [unsettled] at settled
        cases settled
      · rw [keyless] at settled
        cases settled
    have old := (included other member).resolve_left different
    exact ⟨different, old, same other old different ▸ settled⟩
  refine ⟨fun other member text settled => ?_, fun other member keyless => ?_,
    fun left leftMember right rightMember text settledLeft settledRight => ?_⟩
  · obtain ⟨different, old, was⟩ := other_of_text other member text settled
    exact (mem_del ..).mpr ⟨keyed.home other old text was, different⟩
  · by_cases isNode : other = node
    · exact isNode ▸ off_del node table
    · have old := (included other member).resolve_left isNode
      exact (off_del_other node other table isNode).mpr
        (keyed.absent other old (same other old isNode ▸ keyless))
  · obtain ⟨_, oldLeft, wasLeft⟩ := other_of_text left leftMember text settledLeft
    obtain ⟨_, oldRight, wasRight⟩ := other_of_text right rightMember text settledRight
    exact keyed.once left oldLeft right oldRight text wasLeft wasRight

theorem Keyed.relinked [DecidableEq Bucket] {after : Table Bucket Node}
    (keyed : Keyed hash key nodes table) {node : Node} (relinked : Relinked node table after)
    (same : ∀ other ∈ nodes, other ≠ node → later other = key other)
    (unsettled : later node = none) : Keyed hash later nodes after := by
  have dropped : Keyed hash later nodes (del node table) :=
    keyed.drop node (fun _ there => .inr there) same fun _ => .inl unsettled
  have settled_other : ∀ other, later other ≠ none → other ≠ node := by
    rintro other settled rfl
    exact settled unsettled
  rcases relinked with rfl | rfl | ⟨bucket, rfl⟩
  · apply keyed.ease
    intro other member
    by_cases self : other = node
    · exact .inl (self ▸ unsettled)
    · exact .inr (same other member self)
  · exact dropped
  · refine ⟨fun other member text settled => ?_, fun other member keyless => ?_, dropped.once⟩
    · exact (mem_add ..).mpr (.inr (dropped.home other member text settled))
    · have different := settled_other other (by rw [keyless]; exact Option.some_ne_none _)
      exact (off_add_other bucket node other _ different).mpr (dropped.absent other member keyless)

theorem Keyed.place [DecidableEq Bucket] {more : List Node} (keyed : Keyed hash key nodes table)
    (node : Node) (text : Key)
    (included : ∀ other ∈ more, other = node ∨ other ∈ nodes)
    (same : ∀ other ∈ nodes, other ≠ node → later other = key other)
    (settled : later node = none ∨ later node = some (some text))
    (free : ∀ other ∈ nodes, other ≠ node → key other ≠ some (some text)) :
    Keyed hash later more (add (hash text) node (del node table)) := by
  have other_of_key : ∀ other ∈ more, other ≠ node →
      other ∈ nodes ∧ later other = key other := by
    intro other member different
    have old := (included other member).resolve_left different
    exact ⟨old, same other old different⟩
  have own : ∀ own, later node = some own → own = some text := by
    intro own given
    rcases settled with unsettled | placed
    · rw [unsettled] at given
      cases given
    · rw [placed] at given
      exact (Option.some.inj given).symm
  refine ⟨fun other member found given => ?_, fun other member keyless => ?_,
    fun left leftMember right rightMember found givenLeft givenRight => ?_⟩
  · by_cases isNode : other = node
    · subst isNode
      cases own _ given
      exact (mem_add ..).mpr (.inl ⟨rfl, rfl⟩)
    · obtain ⟨old, unchanged⟩ := other_of_key other member isNode
      refine (mem_add ..).mpr (.inr ((mem_del ..).mpr ⟨?_, isNode⟩))
      exact keyed.home other old found (unchanged ▸ given)
  · have isOther : other ≠ node := by
      rintro rfl
      cases own _ keyless
    obtain ⟨old, unchanged⟩ := other_of_key other member isOther
    rw [off_add_other _ _ _ _ isOther, off_del_other _ _ _ isOther]
    exact keyed.absent other old (unchanged ▸ keyless)
  · by_cases leftNode : left = node
    · subst leftNode
      cases own _ givenLeft
      by_contra different
      obtain ⟨old, unchanged⟩ := other_of_key right rightMember (Ne.symm different)
      exact free right old (Ne.symm different) (unchanged ▸ givenRight)
    · obtain ⟨oldLeft, unchangedLeft⟩ := other_of_key left leftMember leftNode
      by_cases rightNode : right = node
      · subst rightNode
        cases own _ givenRight
        exact absurd (unchangedLeft ▸ givenLeft) (free left oldLeft leftNode)
      · obtain ⟨oldRight, unchangedRight⟩ := other_of_key right rightMember rightNode
        exact keyed.once left oldLeft right oldRight found (unchangedLeft ▸ givenLeft)
          (unchangedRight ▸ givenRight)

end Keys

section Fibres

variable [DecidableEq Bucket]

/-- The chains are the fibres of a hash function over the keys the nodes were
last inserted under, newest first. -/
def Fibred (hash : Key → Bucket) (register : List (Key × Node)) (table : Table Bucket Node) :
    Prop :=
  ∀ bucket, table bucket =
    (register.filter fun entry => hash entry.1 = bucket).map Prod.snd

theorem fibred_empty (hash : Key → Bucket) :
    Fibred hash ([] : List (Key × Node)) (empty : Table Bucket Node) := by
  intro bucket
  rfl

theorem Fibred.mem {hash : Key → Bucket} {register : List (Key × Node)}
    {table : Table Bucket Node} (fibred : Fibred hash register table) (node : Node)
    (bucket : Bucket) :
    node ∈ table bucket ↔ ∃ key, (key, node) ∈ register ∧ hash key = bucket := by
  rw [fibred bucket]
  simp

theorem Fibred.add {hash : Key → Bucket} {register : List (Key × Node)}
    {table : Table Bucket Node} (fibred : Fibred hash register table) (key : Key) (node : Node) :
    Fibred hash ((key, node) :: register) (add (hash key) node table) := by
  intro bucket
  by_cases same : hash key = bucket
  · subst same
    simp [fibred (hash key)]
  · rw [add_other (hash key) bucket node table (Ne.symm same), fibred bucket]
    simp [same]

theorem Fibred.del [DecidableEq Node] {hash : Key → Bucket} {register : List (Key × Node)}
    {table : Table Bucket Node} (fibred : Fibred hash register table) (node : Node) :
    Fibred hash (register.filter fun entry => entry.2 ≠ node) (del node table) := by
  intro bucket
  rw [BucketTable.del, fibred bucket, List.filter_map, List.filter_filter, List.filter_filter]
  congr 1
  apply List.filter_congr
  intro entry _
  exact Bool.and_comm _ _

/-- A search of the chain of a key, by a test of the nodes that tells their keys, is a search
of the register. -/
theorem Fibred.find {hash : Key → Bucket} {register : List (Key × Node)}
    {table : Table Bucket Node} (fibred : Fibred hash register table) {key : Key}
    {matching : Key → Bool} (sole : ∀ other, matching other = true → other = key)
    {test : Node → Bool} (keyed : ∀ entry ∈ register, test entry.2 = matching entry.1) :
    (table (hash key)).find? test =
      (register.find? fun entry => matching entry.1).map Prod.snd := by
  rw [fibred (hash key), List.find?_map, List.find?_filter]
  apply congrArg (Option.map Prod.snd)
  apply List.find?_congr
  intro entry member
  rw [Function.comp_apply, keyed entry member]
  cases matched : matching entry.1 with
  | false => simp
  | true => simp [sole entry.1 matched]

end Fibres

end Nlif.BucketTable
