import Mathlib.Data.List.Sort
import Mathlib.Order.Basic

/-! # Treaps

Search trees on keys that are heaps on the priorities of the keys, with the size of each subtree at
its root. Where different keys have different priorities the entries determine the tree.
-/

namespace Foundation

inductive Treap (κ α π : Type*)
  | nil
  | node (key : κ) (value : α) (priority : π) (left right : Treap κ α π) (size : ℕ)
deriving DecidableEq

namespace Treap

variable {κ α π : Type*}

section Trees

def size : Treap κ α π → ℕ
  | nil => 0
  | node _ _ _ _ _ size => size

/-- A node that counts its subtrees. -/
def mk (key : κ) (value : α) (priority : π) (left right : Treap κ α π) : Treap κ α π :=
  node key value priority left right (1 + left.size + right.size)

/-- What the tree holds, in the order of its keys. -/
def entries : Treap κ α π → List (κ × α)
  | nil => []
  | node key value _ left right _ => left.entries ++ (key, value) :: right.entries

end Trees

section Operations

variable [LinearOrder π]

/-- A node over a new left child, which takes its place if its priority is the smaller one. -/
def raiseLeft (key : κ) (value : α) (priority : π) (left right : Treap κ α π) : Treap κ α π :=
  match left with
  | nil => mk key value priority nil right
  | node k v p l r n =>
    if p < priority then mk k v p l (mk key value priority r right)
    else mk key value priority (node k v p l r n) right

/-- A node over a new right child, which takes its place if its priority is the smaller one. -/
def raiseRight (key : κ) (value : α) (priority : π) (left right : Treap κ α π) : Treap κ α π :=
  match right with
  | nil => mk key value priority left nil
  | node k v p l r n =>
    if p < priority then mk k v p (mk key value priority left l) r
    else mk key value priority left (node k v p l r n)

/-- The root of the tree, if there is one, has no smaller priority than this. -/
def Above (bound : π) : Treap κ α π → Prop
  | nil => True
  | node _ _ p _ _ _ => ¬p < bound

variable [LinearOrder κ] (priorityOf : κ → π)

/-- The tree with an entry, and whether its key is new. -/
def insert (key : κ) (value : α) : Treap κ α π → Treap κ α π × Bool
  | nil => (mk key value (priorityOf key) nil nil, true)
  | node k v p l r _ =>
    if key = k then (mk key value p l r, false)
    else if key < k then
      let (left, added) := insert key value l
      (raiseLeft k v p left r, added)
    else
      let (right, added) := insert key value r
      (raiseRight k v p l right, added)

def find? (key : κ) : Treap κ α π → Option α
  | nil => none
  | node k v _ l r _ =>
    if key = k then some v else if key < k then find? key l else find? key r

/-- Every node keeps the order of the search, the order of the heap and its size. -/
def Valid : Treap κ α π → Prop
  | nil => True
  | node k _ p l r n => Valid l ∧ Valid r ∧
      (∀ e ∈ l.entries, e.1 < k) ∧ (∀ e ∈ r.entries, k < e.1) ∧
      p = priorityOf k ∧ Above p l ∧ Above p r ∧ n = 1 + l.size + r.size

end Operations

variable {key : κ} {value : α} {t u l r : Treap κ α π} {k : κ} {v : α} {p bound : π}

section Nodes

theorem entries_mk : (mk k v p l r).entries = l.entries ++ (k, v) :: r.entries := rfl

theorem mem_node {n : ℕ} {e : κ × α} : e ∈ (node k v p l r n).entries ↔
    e ∈ l.entries ∨ e = (k, v) ∨ e ∈ r.entries := by
  simp [entries]

variable [LinearOrder π]

theorem entries_raiseLeft :
    (raiseLeft k v p l r).entries = l.entries ++ (k, v) :: r.entries := by
  unfold raiseLeft
  split
  · rfl
  · split
    · simp [entries_mk, entries]
    · rfl

theorem entries_raiseRight :
    (raiseRight k v p l r).entries = l.entries ++ (k, v) :: r.entries := by
  unfold raiseRight
  split
  · rfl
  · split
    · simp [entries_mk, entries]
    · rfl

theorem Above.mono {q : π} (h : Above p t) (hq : ¬p < q) : Above q t := by
  cases t with
  | nil => trivial
  | node k v p' l r n => exact not_lt.mpr ((not_lt.mp hq).trans (not_lt.mp h))

end Nodes

variable [LinearOrder κ]

section Filters

theorem filter_left (hleft : ∀ e ∈ l.entries, e.1 < k) (hright : ∀ e ∈ r.entries, k < e.1) :
    (l.entries ++ (k, v) :: r.entries).filter (fun e => decide (e.1 < k)) = l.entries := by
  rw [List.filter_append, List.filter_eq_self.mpr (by simpa using hleft),
    List.filter_eq_nil_iff.mpr, List.append_nil]
  intro e he
  rcases List.mem_cons.mp he with rfl | he
  · simp
  · simpa using (hright e he).le

theorem filter_right (hleft : ∀ e ∈ l.entries, e.1 < k) (hright : ∀ e ∈ r.entries, k < e.1) :
    (l.entries ++ (k, v) :: r.entries).filter (fun e => decide (k < e.1)) = r.entries := by
  rw [List.filter_append, List.filter_cons_of_neg (by simp),
    List.filter_eq_self (l := r.entries) |>.mpr (by simpa using hright), List.filter_eq_nil_iff.mpr,
    List.nil_append]
  intro e he
  simpa using (hleft e he).le

end Filters

variable [LinearOrder π] {priorityOf : κ → π}

section Entries

/-- The keys of a valid tree rise. -/
theorem Valid.sorted (h : Valid priorityOf t) : t.entries.Pairwise fun d e => d.1 < e.1 := by
  induction t with
  | nil => exact List.Pairwise.nil
  | node k v p l r n ihl ihr =>
    obtain ⟨hl, hr, hleft, hright, -⟩ := h
    rw [entries, List.pairwise_append, List.pairwise_cons]
    refine ⟨ihl hl, ⟨hright, ihr hr⟩, ?_⟩
    intro d hd e he
    rcases List.mem_cons.mp he with rfl | he
    · exact hleft d hd
    · exact (hleft d hd).trans (hright e he)

theorem Valid.size (h : Valid priorityOf t) : t.size = t.entries.length := by
  induction t with
  | nil => rfl
  | node k v p l r n ihl ihr =>
    obtain ⟨hl, hr, -, -, -, -, -, hn⟩ := h
    rw [Treap.size, hn, ihl hl, ihr hr, entries, List.length_append, List.length_cons]
    omega

theorem Valid.find?_iff (h : Valid priorityOf t) :
    t.find? key = some value ↔ (key, value) ∈ t.entries := by
  induction t with
  | nil => simp [find?, entries]
  | node k v p l r n ihl ihr =>
    obtain ⟨hl, hr, hleft, hright, -⟩ := h
    rw [find?, mem_node]
    rcases lt_trichotomy key k with hlt | rfl | hgt
    · rw [if_neg hlt.ne, if_pos hlt, ihl hl]
      constructor
      · exact Or.inl
      · rintro (hmem | heq | hmem)
        · exact hmem
        · exact absurd (congrArg Prod.fst heq) hlt.ne
        · exact absurd (hright _ hmem) hlt.not_gt
    · rw [if_pos rfl]
      constructor
      · rintro ⟨⟩
        exact .inr (.inl rfl)
      · rintro (hmem | heq | hmem)
        · exact absurd (hleft _ hmem) (lt_irrefl _)
        · exact congrArg some (congrArg Prod.snd heq).symm
        · exact absurd (hright _ hmem) (lt_irrefl _)
    · rw [if_neg hgt.ne', if_neg hgt.not_gt, ihr hr]
      constructor
      · exact fun hmem => .inr (.inr hmem)
      · rintro (hmem | heq | hmem)
        · exact absurd (hleft _ hmem) hgt.not_gt
        · exact absurd (congrArg Prod.fst heq) hgt.ne'
        · exact hmem

/-- The inserted entry replaces the one under its key. -/
theorem mem_insert (h : Valid priorityOf t) {e : κ × α} :
    e ∈ (insert priorityOf key value t).1.entries ↔
      e = (key, value) ∨ e.1 ≠ key ∧ e ∈ t.entries := by
  induction t with
  | nil => simp [insert, entries_mk, entries]
  | node k v p l r n ihl ihr =>
    obtain ⟨hl, hr, hleft, hright, -⟩ := h
    rw [insert, mem_node]
    rcases lt_trichotomy key k with hlt | rfl | hgt
    · have hroot : (k, v).1 ≠ key := hlt.ne'
      have hafter (hmem : e ∈ r.entries) : e.1 ≠ key := (hlt.trans (hright e hmem)).ne'
      rw [if_neg hlt.ne, if_pos hlt]
      simp only [entries_raiseLeft, List.mem_append, List.mem_cons, ihl hl]
      constructor
      · rintro ((h | ⟨hne, h⟩) | rfl | h)
        · exact .inl h
        · exact .inr ⟨hne, .inl h⟩
        · exact .inr ⟨hroot, .inr (.inl rfl)⟩
        · exact .inr ⟨hafter h, .inr (.inr h)⟩
      · rintro (h | ⟨hne, h | h | h⟩)
        · exact .inl (.inl h)
        · exact .inl (.inr ⟨hne, h⟩)
        · exact .inr (.inl h)
        · exact .inr (.inr h)
    · have hbefore (hmem : e ∈ l.entries) : e.1 ≠ key := (hleft e hmem).ne
      have hafter (hmem : e ∈ r.entries) : e.1 ≠ key := (hright e hmem).ne'
      rw [if_pos rfl]
      simp only [entries_mk, List.mem_append, List.mem_cons]
      constructor
      · rintro (h | h | h)
        · exact .inr ⟨hbefore h, .inl h⟩
        · exact .inl h
        · exact .inr ⟨hafter h, .inr (.inr h)⟩
      · rintro (h | ⟨hne, h | rfl | h⟩)
        · exact .inr (.inl h)
        · exact .inl h
        · exact absurd rfl hne
        · exact .inr (.inr h)
    · have hroot : (k, v).1 ≠ key := hgt.ne
      have hbefore (hmem : e ∈ l.entries) : e.1 ≠ key := ((hleft e hmem).trans hgt).ne
      rw [if_neg hgt.ne', if_neg hgt.not_gt]
      simp only [entries_raiseRight, List.mem_append, List.mem_cons, ihr hr]
      constructor
      · rintro (h | rfl | h | ⟨hne, h⟩)
        · exact .inr ⟨hbefore h, .inl h⟩
        · exact .inr ⟨hroot, .inr (.inl rfl)⟩
        · exact .inl h
        · exact .inr ⟨hne, .inr (.inr h)⟩
      · rintro (h | ⟨hne, h | h | h⟩)
        · exact .inr (.inr (.inl h))
        · exact .inl h
        · exact .inr (.inl h)
        · exact .inr (.inr (.inr ⟨hne, h⟩))

theorem added_iff (h : Valid priorityOf t) :
    (insert priorityOf key value t).2 = (t.find? key).isNone := by
  induction t with
  | nil => rfl
  | node k v p l r n ihl ihr =>
    obtain ⟨hl, hr, -⟩ := h
    rw [insert, find?]
    split
    · rfl
    · split
      · exact ihl hl
      · exact ihr hr

end Entries

section Heap

/-- The roots of the two subtrees have no smaller priorities than this. -/
def ChildrenAbove (bound : π) : Treap κ α π → Prop
  | nil => True
  | node _ _ _ l r _ => Above bound l ∧ Above bound r

/-- In a heap the bound of the root bounds every entry. -/
theorem Valid.above (h : Valid priorityOf t) (hbound : Above bound t) :
    ∀ e ∈ t.entries, ¬priorityOf e.1 < bound := by
  induction t with
  | nil => nofun
  | node k v p l r n ihl ihr =>
    obtain ⟨hl, hr, -, -, hp, hpl, hpr, -⟩ := h
    intro e he
    rcases mem_node.mp he with he | rfl | he
    · exact ihl hl (hpl.mono hbound) e he
    · rw [← hp]
      exact hbound
    · exact ihr hr (hpr.mono hbound) e he

theorem valid_raiseLeft (hl : Valid priorityOf l) (hr : Valid priorityOf r)
    (hleft : ∀ e ∈ l.entries, e.1 < k) (hright : ∀ e ∈ r.entries, k < e.1) (hp : p = priorityOf k)
    (hchildren : ChildrenAbove p l) (hpr : Above p r) :
    Valid priorityOf (raiseLeft k v p l r) ∧ ∀ bound, ¬p < bound →
      ChildrenAbove bound (raiseLeft k v p l r) := by
  unfold raiseLeft
  split
  · exact ⟨⟨trivial, hr, nofun, hright, hp, trivial, hpr, rfl⟩,
      fun bound hbound => ⟨trivial, hpr.mono hbound⟩⟩
  · rename_i k' v' p' l' r' n'
    obtain ⟨hl', hr', hleft', hright', hp', hpl', hpr', hn'⟩ := hl
    obtain ⟨habovel, habover⟩ := hchildren
    have hkey : k' < k := hleft (k', v') (by simp [entries])
    split
    · rename_i hlt
      have hinner : Valid priorityOf (mk k v p r' r) := by
        refine ⟨hr', hr, ?_, hright, hp, habover, hpr, rfl⟩
        intro e he
        exact hleft e (by simp [entries, he])
      refine ⟨⟨hl', hinner, hleft', ?_, hp', hpl', hlt.not_gt, rfl⟩, ?_⟩
      · intro e he
        rw [entries_mk, List.mem_append, List.mem_cons] at he
        rcases he with he | rfl | he
        · exact hright' e he
        · exact hkey
        · exact hkey.trans (hright e he)
      · intro bound hbound
        exact ⟨habovel.mono hbound, hbound⟩
    · rename_i hnot
      refine ⟨⟨⟨hl', hr', hleft', hright', hp', hpl', hpr', hn'⟩, hr, hleft, hright, hp, hnot, hpr,
        rfl⟩, ?_⟩
      intro bound hbound
      exact ⟨Above.mono (t := node k' v' p' l' r' n') hnot hbound, hpr.mono hbound⟩

theorem valid_raiseRight (hl : Valid priorityOf l) (hr : Valid priorityOf r)
    (hleft : ∀ e ∈ l.entries, e.1 < k) (hright : ∀ e ∈ r.entries, k < e.1) (hp : p = priorityOf k)
    (hpl : Above p l) (hchildren : ChildrenAbove p r) :
    Valid priorityOf (raiseRight k v p l r) ∧ ∀ bound, ¬p < bound →
      ChildrenAbove bound (raiseRight k v p l r) := by
  unfold raiseRight
  split
  · exact ⟨⟨hl, trivial, hleft, nofun, hp, hpl, trivial, rfl⟩,
      fun bound hbound => ⟨hpl.mono hbound, trivial⟩⟩
  · rename_i k' v' p' l' r' n'
    obtain ⟨hl', hr', hleft', hright', hp', hpl', hpr', hn'⟩ := hr
    obtain ⟨habovel, habover⟩ := hchildren
    have hkey : k < k' := hright (k', v') (by simp [entries])
    split
    · rename_i hlt
      have hinner : Valid priorityOf (mk k v p l l') := by
        refine ⟨hl, hl', hleft, ?_, hp, hpl, habovel, rfl⟩
        intro e he
        exact hright e (by simp [entries, he])
      refine ⟨⟨hinner, hr', ?_, hright', hp', hlt.not_gt, hpr', rfl⟩, ?_⟩
      · intro e he
        rw [entries_mk, List.mem_append, List.mem_cons] at he
        rcases he with he | rfl | he
        · exact (hleft e he).trans hkey
        · exact hkey
        · exact hleft' e he
      · intro bound hbound
        exact ⟨hbound, habover.mono hbound⟩
    · rename_i hnot
      refine ⟨⟨hl, ⟨hl', hr', hleft', hright', hp', hpl', hpr', hn'⟩, hleft, hright, hp, hpl, hnot,
        rfl⟩, ?_⟩
      intro bound hbound
      exact ⟨hpl.mono hbound, Above.mono (t := node k' v' p' l' r' n') hnot hbound⟩

/-- An insertion keeps the tree valid, and only the inserted entry can rise above the old root. -/
theorem valid_insert (h : Valid priorityOf t) : Valid priorityOf (insert priorityOf key value t).1 ∧
    ∀ bound, Above bound t → ChildrenAbove bound (insert priorityOf key value t).1 := by
  induction t with
  | nil => exact ⟨⟨trivial, trivial, nofun, nofun, rfl, trivial, trivial, rfl⟩,
      fun _ _ => ⟨trivial, trivial⟩⟩
  | node k v p l r n ihl ihr =>
    obtain ⟨hl, hr, hleft, hright, hp, hpl, hpr, -⟩ := h
    rw [insert]
    rcases lt_trichotomy key k with hlt | rfl | hgt
    · rw [if_neg hlt.ne, if_pos hlt]
      obtain ⟨hvalid, habove⟩ := ihl hl
      apply valid_raiseLeft hvalid hr _ hright hp (habove p hpl) hpr
      intro e he
      rcases (mem_insert hl).mp he with rfl | ⟨-, he⟩
      · exact hlt
      · exact hleft e he
    · rw [if_pos rfl]
      refine ⟨⟨hl, hr, hleft, hright, hp, hpl, hpr, rfl⟩, ?_⟩
      intro bound hbound
      exact ⟨hpl.mono hbound, hpr.mono hbound⟩
    · rw [if_neg hgt.ne', if_neg hgt.not_gt]
      obtain ⟨hvalid, habove⟩ := ihr hr
      apply valid_raiseRight hl hvalid hleft _ hp hpl (habove p hpr)
      intro e he
      rcases (mem_insert hr).mp he with rfl | ⟨-, he⟩
      · exact hgt
      · exact hright e he

end Heap

section Uniqueness

/-- Different keys among these entries have different priorities. -/
def Distinct (priorityOf : κ → π) (entries : List (κ × α)) : Prop :=
  ∀ d ∈ entries, ∀ e ∈ entries, priorityOf d.1 = priorityOf e.1 → d.1 = e.1

/-- The entry with the smallest priority is at the root, so that the entries determine the tree. -/
theorem eq_of_entries (ht : Valid priorityOf t) (hu : Valid priorityOf u)
    (hdistinct : Distinct priorityOf t.entries) (h : t.entries = u.entries) : t = u := by
  induction t generalizing u with
  | nil => cases u with
    | nil => rfl
    | node => simp [entries] at h
  | node k v p l r n ihl ihr => cases u with
    | nil => simp [entries] at h
    | node k' v' p' l' r' n' =>
      have hk : (k, v) ∈ (node k v p l r n).entries := mem_node.mpr (.inr (.inl rfl))
      have hk' : (k', v') ∈ (node k v p l r n).entries := by
        rw [h]
        exact mem_node.mpr (.inr (.inl rfl))
      have hroot : ¬priorityOf k' < p := ht.above (lt_irrefl p) (k', v') hk'
      have hroot' : ¬priorityOf k < p' := hu.above (lt_irrefl p') (k, v) (h ▸ hk)
      have hsub : Distinct priorityOf l.entries := by
        intro d hd e he
        exact hdistinct d (mem_node.mpr (.inl hd)) e (mem_node.mpr (.inl he))
      have hsub' : Distinct priorityOf r.entries := by
        intro d hd e he
        exact hdistinct d (mem_node.mpr (.inr (.inr hd))) e (mem_node.mpr (.inr (.inr he)))
      obtain ⟨hl, hr, hleft, hright, rfl, hpl, hpr, rfl⟩ := ht
      obtain ⟨hl', hr', hleft', hright', rfl, hpl', hpr', rfl⟩ := hu
      obtain rfl : k = k' :=
        hdistinct _ hk _ hk' (le_antisymm (not_lt.mp hroot) (not_lt.mp hroot'))
      rw [entries, entries] at h
      have heql : l.entries = l'.entries := by
        rw [← filter_left hleft hright, h, filter_left hleft' hright']
      have heqr : r.entries = r'.entries := by
        rw [← filter_right hleft hright, h, filter_right hleft' hright']
      obtain rfl := ihl hl hl' hsub heql
      obtain rfl := ihr hr hr' hsub' heqr
      have hv : (k, v) = (k, v') := (List.cons.inj (List.append_cancel_left h)).1
      obtain rfl := (Prod.mk.inj hv).2
      rfl

/-- The entries of a valid tree are determined by what it finds. -/
theorem entries_of_find? (ht : Valid priorityOf t) (hu : Valid priorityOf u)
    (h : ∀ key, t.find? key = u.find? key) : t.entries = u.entries := by
  have hirrefl {es : List (κ × α)} (hes : es.Pairwise fun d e => d.1 < e.1) : es.Nodup :=
    hes.imp fun hlt => by
      rintro rfl
      exact lt_irrefl _ hlt
  have hperm : t.entries.Perm u.entries := by
    rw [List.perm_ext_iff_of_nodup (hirrefl ht.sorted) (hirrefl hu.sorted)]
    rintro ⟨key, value⟩
    rw [← ht.find?_iff, ← hu.find?_iff, h]
  apply hperm.eq_of_pairwise _ ht.sorted hu.sorted
  intro d e _ _ hlt hgt
  exact absurd hlt hgt.not_gt

end Uniqueness

end Treap

end Foundation
