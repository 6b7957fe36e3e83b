import OperateBench.Foundation.Treap
import OperateBench.Foundation.Utf8
import Mathlib.Data.Finset.Card
import Mathlib.Data.List.Lex
import Mathlib.Data.String.Basic
import Mathlib.Logic.Function.Basic

/-! # The persistent maps of the budget

Maps from texts as treaps, whose priorities are digests of the keys. Such a map is determined by
its contents, and an insertion leaves the older versions as they were.
-/

namespace OperateBench

open Foundation

namespace AuditBudget

def treapDomain : String := "operatebench.audit.treap.v1\x00"

def encoded (w : String) : List Byte := w.toByteArray.data.toList.map UInt8.toFin

variable {α : Type} (sha256 : List Byte → List Byte)

def treapPriority (key : String) : List Byte := sha256 (encoded treapDomain ++ encoded key)

abbrev TreapNode (α : Type) := Treap String α (List Byte)

def treapInsert (root : TreapNode α) (key : String) (value : α) : TreapNode α × Bool :=
  Treap.insert (treapPriority sha256) key value root

structure PersistentMap (α : Type) where
  root : TreapNode α
deriving DecidableEq

namespace PersistentMap

section Operations

def empty : PersistentMap α := ⟨.nil⟩

/-- What `__getitem__` finds, where an absent key is a key error. -/
def get (m : PersistentMap α) (key : String) : Option α := m.root.find? key

def len (m : PersistentMap α) : ℕ := m.root.size

def set (m : PersistentMap α) (key : String) (value : α) : PersistentMap α :=
  ⟨(treapInsert sha256 m.root key value).1⟩

/-- The inner loop of `__iter__`: the nodes down to the first key go on the stack. -/
def descend : TreapNode α → List (String × TreapNode α) → List (String × TreapNode α)
  | .nil, stack => stack
  | .node key _ _ left right _, stack => descend left ((key, right) :: stack)

/-- The keys that a stack has yet to yield. -/
def stacked (stack : List (String × TreapNode α)) : List String :=
  stack.flatMap fun frame => frame.1 :: frame.2.entries.map Prod.fst

theorem stacked_descend (current : TreapNode α) (stack : List (String × TreapNode α)) :
    stacked (descend current stack) = current.entries.map Prod.fst ++ stacked stack := by
  induction current generalizing stack with
  | nil => rfl
  | node key value priority left right size ihl ihr =>
    rw [descend, ihl, Treap.entries, List.map_append, List.append_assoc]
    rfl

def iterFrom (current : TreapNode α) (stack : List (String × TreapNode α)) : List String :=
  match _ : descend current stack with
  | [] => []
  | (key, right) :: rest => key :: iterFrom right rest
termination_by (current.entries.map Prod.fst ++ stacked stack).length
decreasing_by
  rename_i h
  rw [← stacked_descend current stack, h]
  simp [stacked]

def iter (m : PersistentMap α) : List String := iterFrom m.root []

theorem iterFrom_eq (current : TreapNode α) (stack : List (String × TreapNode α)) :
    iterFrom current stack = current.entries.map Prod.fst ++ stacked stack := by
  fun_induction iterFrom current stack with
  | case1 current stack h => rw [← stacked_descend, h]; rfl
  | case2 current stack key right rest h ih =>
    rw [← stacked_descend, h, ih]
    rfl

theorem iter_eq (m : PersistentMap α) : m.iter = m.root.entries.map Prod.fst := by
  rw [iter, iterFrom_eq, stacked, List.flatMap_nil, List.append_nil]

end Operations

section Contents

/-- The finite map of a sequence of insertions and updates. -/
def contents (updates : List (String × α)) : String → Option α :=
  updates.foldl (fun found update => Function.update found update.1 (some update.2)) fun _ => none

def build (updates : List (String × α)) : PersistentMap α :=
  updates.foldl (fun m update => m.set sha256 update.1 update.2) empty

/-- Every version of the map, from the empty one on. -/
def versions (updates : List (String × α)) : List (PersistentMap α) :=
  updates.scanl (fun m update => m.set sha256 update.1 update.2) empty

variable {sha256} {updates : List (String × α)} {update : String × α}

theorem contents_snoc : contents (updates ++ [update]) =
    Function.update (contents updates) update.1 (some update.2) := by
  rw [contents, List.foldl_append]
  rfl

theorem build_snoc :
    build sha256 (updates ++ [update]) = (build sha256 updates).set sha256 update.1 update.2 := by
  rw [build, List.foldl_append]
  rfl

theorem contents_isSome {key : String} :
    (contents updates key).isSome ↔ key ∈ updates.map Prod.fst := by
  induction updates using List.reverseRecOn with
  | nil => simp [contents]
  | append_singleton updates update ih =>
    rw [contents_snoc, List.map_append, List.mem_append, ← ih, Function.update_apply]
    split
    · simp_all
    · simp_all

theorem valid_build (updates : List (String × α)) :
    Treap.Valid (treapPriority sha256) (build sha256 updates).root := by
  induction updates using List.reverseRecOn with
  | nil => trivial
  | append_singleton updates update ih =>
    rw [build_snoc]
    exact (Treap.valid_insert ih).1

theorem get_build (updates : List (String × α)) (key : String) :
    (build sha256 updates).get key = contents updates key := by
  induction updates using List.reverseRecOn with
  | nil => rfl
  | append_singleton updates update ih =>
    have hvalid : Treap.Valid (treapPriority sha256) (build sha256 updates).root :=
      valid_build updates
    rw [contents_snoc, build_snoc, Function.update_apply]
    ext value
    rw [get, set, treapInsert, (Treap.valid_insert hvalid).1.find?_iff, Treap.mem_insert hvalid,
      ← hvalid.find?_iff]
    change _ ∨ _ ∧ (build sha256 updates).get key = some value ↔ _
    rw [ih]
    split
    · rename_i heq
      constructor
      · rintro (h | ⟨hne, -⟩)
        · exact congrArg some (Prod.mk.inj h).2.symm
        · exact absurd heq hne
      · intro h
        exact .inl (Prod.ext heq (Option.some.inj h).symm)
    · rename_i hne
      constructor
      · rintro (h | ⟨-, h⟩)
        · exact absurd (Prod.mk.inj h).1 hne
        · exact h
      · intro h
        exact .inr ⟨hne, h⟩

theorem versions_getElem? (earlier later : List (String × α)) :
    (versions sha256 (earlier ++ later))[earlier.length]? = some (build sha256 earlier) := by
  rw [versions, List.getElem?_scanl, if_pos (by simp), List.take_left]
  rfl

theorem mem_iter {key : String} :
    key ∈ (build sha256 updates).iter ↔ (contents updates key).isSome := by
  have hvalid : Treap.Valid (treapPriority sha256) (build sha256 updates).root :=
    valid_build updates
  rw [iter_eq, List.mem_map, ← get_build updates key, get, Option.isSome_iff_exists]
  constructor
  · rintro ⟨⟨_, value⟩, he, rfl⟩
    exact ⟨value, hvalid.find?_iff.mpr he⟩
  · rintro ⟨value, h⟩
    exact ⟨(key, value), hvalid.find?_iff.mp h, rfl⟩

theorem iter_sorted (updates : List (String × α)) :
    (build sha256 updates).iter.Pairwise (· < ·) := by
  rw [iter_eq, List.pairwise_map]
  exact (valid_build updates).sorted

theorem len_build (updates : List (String × α)) :
    (build sha256 updates).len = (updates.map Prod.fst).toFinset.card := by
  have hnodup : (build sha256 updates).iter.Nodup := (iter_sorted updates).imp ne_of_lt
  have hkeys : (build sha256 updates).iter.toFinset = (updates.map Prod.fst).toFinset := by
    ext key
    rw [List.mem_toFinset, List.mem_toFinset, mem_iter, contents_isSome]
  rw [← hkeys, List.toFinset_card_of_nodup hnodup, len, (valid_build updates).size, iter_eq,
    List.length_map]

theorem build_eq {others : List (String × α)}
    (hdistinct : ∀ j ∈ updates.map Prod.fst, ∀ k ∈ updates.map Prod.fst,
      treapPriority sha256 j = treapPriority sha256 k → j = k)
    (h : ∀ key, contents updates key = contents others key) :
    build sha256 updates = build sha256 others := by
  have hfound (key : String) :
      (build sha256 updates).root.find? key = (build sha256 others).root.find? key := by
    rw [← get, ← get, get_build, get_build, h]
  have hentries := Treap.entries_of_find? (valid_build updates) (valid_build others) hfound
  have hmem {e : String × α} (he : e ∈ (build sha256 updates).root.entries) :
      e.1 ∈ updates.map Prod.fst := by
    have hiter : e.1 ∈ (build sha256 updates).iter := by
      rw [iter_eq]
      exact List.mem_map_of_mem he
    exact contents_isSome.mp (mem_iter.mp hiter)
  apply congrArg PersistentMap.mk
  apply Treap.eq_of_entries (valid_build updates) (valid_build others) _ hentries
  intro d hd e he
  exact hdistinct d.1 (hmem hd) e.1 (hmem he)

/-- The map built by these updates is the finite map of them, in nodes that keep the search order,
the order of the heap and their sizes. -/
structure Holds (sha256 : List Byte → List Byte) (m : PersistentMap α)
    (updates : List (String × α)) : Prop where
  lookups (key : String) : m.get key = contents updates key
  rising : m.iter.Pairwise (· < ·)
  keys (key : String) : key ∈ m.iter ↔ (contents updates key).isSome
  length : m.len = (updates.map Prod.fst).toFinset.card
  nodes : Treap.Valid (treapPriority sha256) m.root
  added (key : String) (value : α) :
    (treapInsert sha256 m.root key value).2 = (contents updates key).isNone

theorem holds_build (updates : List (String × α)) :
    Holds sha256 (build sha256 updates) updates where
  lookups := get_build updates
  rising := iter_sorted updates
  keys _ := mem_iter
  length := len_build updates
  nodes := valid_build updates
  added key value := by
    rw [treapInsert, Treap.added_iff (valid_build updates), ← get, get_build]

/-- Every version holds the updates up to it, whatever is inserted later, and maps with the same
contents have the same nodes if different keys have different priorities. -/
theorem shape_is_content (sha256 : List Byte → List Byte) (updates : List (String × α)) :
    (∀ later, ∃ m, (versions sha256 (updates ++ later))[updates.length]? = some m ∧
      Holds sha256 m updates) ∧
    ∀ others, (∀ j ∈ updates.map Prod.fst, ∀ k ∈ updates.map Prod.fst,
        treapPriority sha256 j = treapPriority sha256 k → j = k) →
      (∀ key, contents updates key = contents others key) →
      build sha256 updates = build sha256 others := by
  constructor
  · intro later
    exact ⟨build sha256 updates, versions_getElem? updates later, holds_build updates⟩
  · intro others hdistinct h
    exact build_eq hdistinct h

/-- The digests of two keys. -/
def twoDigests (message : List Byte) : List Byte :=
  if message = encoded treapDomain ++ encoded "a" then
    [230, 234, 165, 154, 183, 114, 175, 118, 82, 53, 168, 20, 90, 106, 251, 90,
    232, 31, 187, 167, 244, 185, 40, 165, 14, 232, 47, 126, 56, 169, 153, 190]
  else if message = encoded treapDomain ++ encoded "b" then
    [117, 53, 67, 219, 120, 93, 201, 211, 146, 207, 7, 141, 170, 53, 201, 126,
    11, 106, 157, 136, 142, 210, 108, 255, 103, 60, 150, 64, 146, 42, 255, 150]
  else []

theorem two_orders_agree : build twoDigests [("a", 1), ("b", 2), ("a", 3)] =
    build twoDigests [("b", 2), ("a", 3)] := by
  apply (shape_is_content twoDigests [("a", 1), ("b", 2), ("a", 3)]).2
  · decide +kernel
  · intro key
    simp only [contents, List.foldl_cons, List.foldl_nil, Function.update_apply]
    split <;> rfl

end Contents

end PersistentMap

end AuditBudget

end OperateBench
