import Mathlib.Data.List.Lex
import Mathlib.Data.List.Perm.Subperm
import Mathlib.Data.List.Sort
import Mathlib.Order.Fin.Basic
import OperateBench.Foundation.JsonReadback

/-! # Dictionaries in the order of their names

Sorting the entries makes two dictionaries equal exactly when they hold the same values under the
same names.
-/

namespace Foundation.Json

open JsonValue

section Sorting

variable {α : Type*} {es fs : List (Text × α)}

/-- `sorted(entries)` by their names. -/
def sortEntries (es : List (Text × α)) : List (Text × α) :=
  es.insertionSort fun a b => a.1 ≤ b.1

theorem sortEntries_perm (es : List (Text × α)) : (sortEntries es).Perm es :=
  List.perm_insertionSort _ es

theorem sortEntries_eq_iff (hes : (es.map Prod.fst).Nodup) :
    sortEntries es = sortEntries fs ↔ es.Perm fs := by
  constructor
  · intro h
    exact (sortEntries_perm es).symm.trans (h ▸ sortEntries_perm fs)
  · intro h
    have hperm : (sortEntries es).Perm (sortEntries fs) :=
      (sortEntries_perm es).trans (h.trans (sortEntries_perm fs).symm)
    have htotal : Std.Total fun a b : Text × α => a.1 ≤ b.1 := ⟨fun a b => le_total a.1 b.1⟩
    have htrans : IsTrans (Text × α) fun a b => a.1 ≤ b.1 := ⟨fun a b c => le_trans⟩
    apply hperm.eq_of_pairwise _ (List.pairwise_insertionSort _ es)
      (List.pairwise_insertionSort _ fs)
    intro p q hp hq hle hge
    have hp' : p ∈ es := (sortEntries_perm es).mem_iff.mp hp
    have hq' : q ∈ es := h.mem_iff.mpr ((sortEntries_perm fs).mem_iff.mp hq)
    exact List.inj_on_of_nodup_map hes hp' hq' (le_antisymm hle hge)

end Sorting

section Orders

namespace JsonValue

mutual

/-- The value with the entries of its dictionaries in the order of their names. -/
def sorted : JsonValue → JsonValue
  | .list items => .list (sortedItems items)
  | .dict entries => .dict (sortEntries (sortedEntries entries))
  | .none => .none
  | .bool value => .bool value
  | .int value => .int value
  | .float value => .float value
  | .str value => .str value
  | .other typeName => .other typeName

def sortedItems : List JsonValue → List JsonValue
  | [] => []
  | x :: xs => sorted x :: sortedItems xs

def sortedEntries : List (Text × JsonValue) → List (Text × JsonValue)
  | [] => []
  | (name, x) :: es => (name, sorted x) :: sortedEntries es

end

mutual

/-- The same scalars of the same types, and dictionaries with the same entries in any order. -/
def Same : JsonValue → JsonValue → Prop
  | .none, .none => True
  | .bool a, .bool b => a = b
  | .int a, .int b => a = b
  | .float a, .float b => a = b
  | .str a, .str b => a = b
  | .list xs, .list ys => SameItems xs ys
  | .dict es, .dict fs => es.length = fs.length ∧ SameEntries es fs
  | .other a, .other b => a = b
  | _, _ => False

def SameItems : List JsonValue → List JsonValue → Prop
  | [], [] => True
  | x :: xs, y :: ys => Same x y ∧ SameItems xs ys
  | _, _ => False

def SameEntries : List (Text × JsonValue) → List (Text × JsonValue) → Prop
  | [], _ => True
  | (name, x) :: es, fs => (∃ y, Dict.findEntry name fs = some y ∧ Same x y) ∧ SameEntries es fs

end

theorem sortedItems_eq (xs : List JsonValue) : sortedItems xs = xs.map sorted := by
  induction xs with
  | nil => rfl
  | cons x xs ih => rw [sortedItems, ih, List.map_cons]

theorem sortedEntries_eq (es : List (Text × JsonValue)) :
    sortedEntries es = es.map fun e => (e.1, sorted e.2) := by
  induction es with
  | nil => rfl
  | cons e es ih => rw [sortedEntries, ih, List.map_cons]

theorem sortedEntries_keys (es : List (Text × JsonValue)) :
    (sortedEntries es).map Prod.fst = es.map Prod.fst := by
  rw [sortedEntries_eq, List.map_map]
  rfl

theorem itemsKeyedOnce_iff {xs : List JsonValue} : ItemsKeyedOnce xs ↔ ∀ x ∈ xs, KeyedOnce x := by
  induction xs with
  | nil => simp [ItemsKeyedOnce]
  | cons x xs ih => simp [ItemsKeyedOnce, ih]

theorem entriesKeyedOnce_iff {es : List (Text × JsonValue)} :
    EntriesKeyedOnce es ↔ ∀ e ∈ es, KeyedOnce e.2 := by
  induction es with
  | nil => simp [EntriesKeyedOnce]
  | cons e es ih => simp [EntriesKeyedOnce, ih]

theorem sameEntries_iff {es fs : List (Text × JsonValue)} :
    SameEntries es fs ↔ ∀ e ∈ es, ∃ y, Dict.findEntry e.1 fs = some y ∧ Same e.2 y := by
  induction es with
  | nil => simp [SameEntries]
  | cons e es ih => simp [SameEntries, ih]

/-- Two dictionaries whose entries are sorted to one list, where sorting tells the values apart. -/
theorem sortEntries_sorted_iff {es fs : List (Text × JsonValue)} (hes : (es.map Prod.fst).Nodup)
    (hfs : (fs.map Prod.fst).Nodup)
    (hvalues : ∀ e ∈ es, ∀ f ∈ fs, Same e.2 f.2 ↔ sorted e.2 = sorted f.2) :
    (es.length = fs.length ∧ SameEntries es fs) ↔
      sortEntries (sortedEntries es) = sortEntries (sortedEntries fs) := by
  have hkeys : ((sortedEntries es).map Prod.fst).Nodup := by rwa [sortedEntries_keys]
  rw [sortEntries_eq_iff hkeys, sameEntries_iff]
  constructor
  · rintro ⟨hlength, hsame⟩
    have hsubset : sortedEntries es ⊆ sortedEntries fs := by
      rw [sortedEntries_eq, sortedEntries_eq]
      intro e he
      obtain ⟨⟨name, x⟩, hmem, rfl⟩ := List.mem_map.mp he
      obtain ⟨y, hfind, hxy⟩ := hsame (name, x) hmem
      have hy : (name, y) ∈ fs := (Dict.findEntry_eq_some hfs).mp hfind
      refine List.mem_map.mpr ⟨(name, y), hy, ?_⟩
      rw [(hvalues _ hmem _ hy).mp hxy]
    apply (List.subperm_of_subset hkeys.of_map hsubset).perm_of_length_le
    rw [sortedEntries_eq, sortedEntries_eq, List.length_map, List.length_map, hlength]
  · intro hperm
    constructor
    · have hlength := hperm.length_eq
      rwa [sortedEntries_eq, sortedEntries_eq, List.length_map, List.length_map] at hlength
    · rintro ⟨name, x⟩ hmem
      have he : (name, sorted x) ∈ sortedEntries es := by
        rw [sortedEntries_eq]
        exact List.mem_map.mpr ⟨_, hmem, rfl⟩
      have hf := hperm.mem_iff.mp he
      rw [sortedEntries_eq] at hf
      obtain ⟨⟨name', y⟩, hy, heq⟩ := List.mem_map.mp hf
      obtain ⟨rfl, hsorted⟩ := Prod.mk.inj heq
      exact ⟨y, (Dict.findEntry_eq_some hfs).mpr hy, (hvalues _ hmem _ hy).mpr hsorted.symm⟩

mutual

/-- Values are the same when sorting makes them equal. -/
theorem same_iff (x : JsonValue) (hx : x.KeyedOnce) {y : JsonValue} (hy : y.KeyedOnce) :
    Same x y ↔ x.sorted = y.sorted := by
  cases x with
  | list xs => cases y with
    | list ys => simp only [Same, sorted, list.injEq, sameItems_iff xs hx hy]
    | _ => simp [Same, sorted]
  | dict es => cases y with
    | dict fs =>
      simp only [Same, sorted, dict.injEq]
      exact sortEntries_sorted_iff hx.1 hy.1
        (sameValues_iff es hx.2 (entriesKeyedOnce_iff.mp hy.2))
    | _ => simp [Same, sorted]
  | _ => cases y <;> simp [Same, sorted]
termination_by structural x

theorem sameItems_iff (xs : List JsonValue) (hxs : ItemsKeyedOnce xs) {ys : List JsonValue}
    (hys : ItemsKeyedOnce ys) : SameItems xs ys ↔ sortedItems xs = sortedItems ys := by
  match xs, ys with
  | [], [] => simp [SameItems, sortedItems]
  | [], _ :: _ => simp [SameItems, sortedItems]
  | _ :: _, [] => simp [SameItems, sortedItems]
  | x :: xs, y :: ys =>
    simp only [SameItems, sortedItems, List.cons.injEq, same_iff x hxs.1 hys.1,
      sameItems_iff xs hxs.2 hys.2]
termination_by structural xs

theorem sameValues_iff (es : List (Text × JsonValue)) (hes : EntriesKeyedOnce es)
    {fs : List (Text × JsonValue)} (hfs : ∀ f ∈ fs, KeyedOnce f.2) :
    ∀ e ∈ es, ∀ f ∈ fs, Same e.2 f.2 ↔ sorted e.2 = sorted f.2 := by
  match es with
  | [] => nofun
  | (name, x) :: es =>
    rw [List.forall_mem_cons]
    exact ⟨fun f hf => same_iff x hes.1 (hfs f hf), sameValues_iff es hes.2 hfs⟩
termination_by structural es

end

end JsonValue

end Orders

section Preserved

namespace JsonValue

theorem entriesShort_iff {maxDigits : ℕ} {es : List (Text × JsonValue)} :
    EntriesShort maxDigits es ↔ ∀ e ∈ es, Short maxDigits e.2 := by
  induction es with
  | nil => simp [EntriesShort]
  | cons e es ih => simp [EntriesShort, ih]

/-- What holds of every entry holds of the sorted ones. -/
theorem forall_sortEntries {P : Text × JsonValue → Prop} {es : List (Text × JsonValue)} :
    (∀ e ∈ sortEntries es, P e) ↔ ∀ e ∈ es, P e := by
  simp only [(sortEntries_perm es).mem_iff]

mutual

theorem isJson_sorted (x : JsonValue) : x.sorted.IsJson ↔ x.IsJson := by
  cases x with
  | list items => exact itemsJson_sorted items
  | dict entries =>
    rw [sorted, IsJson, IsJson, entriesJson_iff, forall_sortEntries, ← entriesJson_iff,
      entriesJson_sorted entries]
  | _ => exact Iff.rfl
termination_by structural x

theorem itemsJson_sorted (xs : List JsonValue) : ItemsJson (sortedItems xs) ↔ ItemsJson xs := by
  match xs with
  | [] => exact Iff.rfl
  | x :: xs => exact and_congr (isJson_sorted x) (itemsJson_sorted xs)
termination_by structural xs

theorem entriesJson_sorted (es : List (Text × JsonValue)) :
    EntriesJson (sortedEntries es) ↔ EntriesJson es := by
  match es with
  | [] => exact Iff.rfl
  | (_, x) :: es => exact and_congr (isJson_sorted x) (entriesJson_sorted es)
termination_by structural es

end

mutual

theorem short_sorted {maxDigits : ℕ} (x : JsonValue) :
    x.sorted.Short maxDigits ↔ x.Short maxDigits := by
  cases x with
  | list items => exact itemsShort_sorted items
  | dict entries =>
    rw [sorted, Short, Short, entriesShort_iff, forall_sortEntries, ← entriesShort_iff,
      entriesShort_sorted entries]
  | _ => exact Iff.rfl
termination_by structural x

theorem itemsShort_sorted {maxDigits : ℕ} (xs : List JsonValue) :
    ItemsShort maxDigits (sortedItems xs) ↔ ItemsShort maxDigits xs := by
  match xs with
  | [] => exact Iff.rfl
  | x :: xs => exact and_congr (short_sorted x) (itemsShort_sorted xs)
termination_by structural xs

theorem entriesShort_sorted {maxDigits : ℕ} (es : List (Text × JsonValue)) :
    EntriesShort maxDigits (sortedEntries es) ↔ EntriesShort maxDigits es := by
  match es with
  | [] => exact Iff.rfl
  | (_, x) :: es => exact and_congr (short_sorted x) (entriesShort_sorted es)
termination_by structural es

end

mutual

theorem keyedOnce_sorted (x : JsonValue) : x.sorted.KeyedOnce ↔ x.KeyedOnce := by
  cases x with
  | list items => exact itemsKeyedOnce_sorted items
  | dict entries =>
    have hkeys : ((sortEntries (sortedEntries entries)).map Prod.fst).Nodup ↔
        (entries.map Prod.fst).Nodup := by
      rw [((sortEntries_perm (sortedEntries entries)).map Prod.fst).nodup_iff, sortedEntries_keys]
    rw [sorted, KeyedOnce, KeyedOnce, hkeys, entriesKeyedOnce_iff, forall_sortEntries,
      ← entriesKeyedOnce_iff, entriesKeyedOnce_sorted entries]
  | _ => exact Iff.rfl
termination_by structural x

theorem itemsKeyedOnce_sorted (xs : List JsonValue) :
    ItemsKeyedOnce (sortedItems xs) ↔ ItemsKeyedOnce xs := by
  match xs with
  | [] => exact Iff.rfl
  | x :: xs => exact and_congr (keyedOnce_sorted x) (itemsKeyedOnce_sorted xs)
termination_by structural xs

theorem entriesKeyedOnce_sorted (es : List (Text × JsonValue)) :
    EntriesKeyedOnce (sortedEntries es) ↔ EntriesKeyedOnce es := by
  match es with
  | [] => exact Iff.rfl
  | (_, x) :: es => exact and_congr (keyedOnce_sorted x) (entriesKeyedOnce_sorted es)
termination_by structural es

end

mutual

theorem sorted_sorted (x : JsonValue) (hx : x.KeyedOnce) : x.sorted.sorted = x.sorted := by
  cases x with
  | list items =>
    simp only [sorted, sortedItems_sorted items hx]
  | dict entries =>
    have hkeys : ((sortedEntries entries).map Prod.fst).Nodup := by
      rw [sortedEntries_keys]
      exact hx.1
    have hperm : (sortedEntries (sortEntries (sortedEntries entries))).Perm
        (sortedEntries entries) := by
      have hmap := (sortEntries_perm (sortedEntries entries)).map
        fun e : Text × JsonValue => (e.1, sorted e.2)
      rw [← sortedEntries_eq, ← sortedEntries_eq, sortedEntries_sorted entries hx.2] at hmap
      exact hmap
    simp only [sorted]
    rw [((sortEntries_eq_iff hkeys).mpr hperm.symm).symm]
  | _ => rfl
termination_by structural x

theorem sortedItems_sorted (xs : List JsonValue) (hxs : ItemsKeyedOnce xs) :
    sortedItems (sortedItems xs) = sortedItems xs := by
  match xs with
  | [] => rfl
  | x :: xs => simp only [sortedItems, sorted_sorted x hxs.1, sortedItems_sorted xs hxs.2]
termination_by structural xs

theorem sortedEntries_sorted (es : List (Text × JsonValue)) (hes : EntriesKeyedOnce es) :
    sortedEntries (sortedEntries es) = sortedEntries es := by
  match es with
  | [] => rfl
  | (name, x) :: es =>
    simp only [sortedEntries, sorted_sorted x hes.1, sortedEntries_sorted es hes.2]
termination_by structural es

end

theorem same_sorted {x : JsonValue} (hx : x.KeyedOnce) : Same x.sorted x :=
  (same_iff _ ((keyedOnce_sorted x).mpr hx) hx).mpr (sorted_sorted x hx)

end JsonValue

end Preserved

end Foundation.Json
