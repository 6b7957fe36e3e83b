import Mathlib.Data.List.Nodup
import Mathlib.Order.Defs.Unbundled

/-! # Insertion-ordered dictionaries

A dictionary lists its entries in the order their keys were first written and
holds every key once. Writing under a key that is present replaces its value in
place. `Grows R` relates two versions of a dictionary in which no key was lost
and every value moved along the relation `R`.
-/

namespace Foundation

variable {κ α β : Type*}

structure Dict (κ α : Type*) where
  entries : List (κ × α)
  nodup : (entries.map Prod.fst).Nodup

namespace Dict

section Entries

variable [DecidableEq κ]

def putEntry (k : κ) (a : α) : List (κ × α) → List (κ × α)
  | [] => [(k, a)]
  | (j, b) :: es => if j = k then (j, a) :: es else (j, b) :: putEntry k a es

def findEntry (k : κ) : List (κ × α) → Option α
  | [] => none
  | (j, b) :: es => if j = k then some b else findEntry k es

theorem mem_keys_putEntry {k j : κ} {a : α} {es : List (κ × α)} :
    j ∈ (putEntry k a es).map Prod.fst ↔ j = k ∨ j ∈ es.map Prod.fst := by
  induction es with
  | nil => simp [putEntry]
  | cons e es ih =>
    obtain ⟨i, b⟩ := e
    by_cases h : i = k
    · subst h; simp [putEntry]
    · simp only [putEntry, if_neg h, List.map_cons, List.mem_cons, ih]
      exact or_left_comm

theorem nodup_putEntry {k : κ} {a : α} {es : List (κ × α)}
    (h : (es.map Prod.fst).Nodup) : ((putEntry k a es).map Prod.fst).Nodup := by
  induction es with
  | nil => simp [putEntry]
  | cons e es ih =>
    obtain ⟨i, b⟩ := e
    simp only [List.map_cons, List.nodup_cons] at h
    by_cases hi : i = k
    · subst hi
      simp only [putEntry, if_true, List.map_cons, List.nodup_cons]
      exact h
    · simp only [putEntry, if_neg hi, List.map_cons, List.nodup_cons, mem_keys_putEntry]
      exact ⟨fun hm => hm.elim hi h.1, ih h.2⟩

theorem findEntry_putEntry (k j : κ) (a : α) (es : List (κ × α)) :
    findEntry j (putEntry k a es) = if k = j then some a else findEntry j es := by
  induction es with
  | nil => simp [putEntry, findEntry]
  | cons e es ih =>
    obtain ⟨i, b⟩ := e
    by_cases hi : i = k
    · subst hi
      by_cases hj : i = j <;> simp [putEntry, findEntry, hj]
    · by_cases hj : i = j
      · subst hj; simp [putEntry, findEntry, hi, Ne.symm hi]
      · simp [putEntry, findEntry, hi, hj, ih]

theorem findEntry_isSome {k : κ} {es : List (κ × α)} :
    (findEntry k es).isSome ↔ k ∈ es.map Prod.fst := by
  induction es with
  | nil => simp [findEntry]
  | cons e es ih =>
    obtain ⟨i, b⟩ := e
    by_cases hi : i = k
    · simp [findEntry, hi]
    · simpa [findEntry, hi, Ne.symm hi] using ih

theorem findEntry_eq_some {k : κ} {a : α} {es : List (κ × α)}
    (hn : (es.map Prod.fst).Nodup) : findEntry k es = some a ↔ (k, a) ∈ es := by
  induction es with
  | nil => simp [findEntry]
  | cons e es ih =>
    obtain ⟨i, b⟩ := e
    simp only [List.map_cons, List.nodup_cons] at hn
    by_cases hi : i = k
    · subst hi
      have hne : (i, a) ∉ es := fun h => hn.1 (List.mem_map.mpr ⟨_, h, rfl⟩)
      simp [findEntry, hne, eq_comm]
    · simp [findEntry, hi, Ne.symm hi, ih hn.2]

theorem putEntry_fresh {k : κ} {a : α} {es : List (κ × α)} (h : k ∉ es.map Prod.fst) :
    putEntry k a es = es ++ [(k, a)] := by
  induction es with
  | nil => rfl
  | cons e es ih =>
    obtain ⟨j, b⟩ := e
    rw [List.map_cons, List.mem_cons, not_or] at h
    rw [putEntry, if_neg (Ne.symm h.1), ih h.2, List.cons_append]

theorem length_putEntry (k : κ) (a : α) (es : List (κ × α)) :
    (putEntry k a es).length = if k ∈ es.map Prod.fst then es.length else es.length + 1 := by
  induction es with
  | nil => simp [putEntry]
  | cons e es ih =>
    obtain ⟨i, b⟩ := e
    by_cases hi : i = k
    · simp [putEntry, hi]
    · simp only [putEntry, if_neg hi, List.length_cons, ih, List.map_cons, List.mem_cons,
        Ne.symm hi, false_or]
      split <;> rfl

end Entries

def empty : Dict κ α := ⟨[], List.nodup_nil⟩

instance : Inhabited (Dict κ α) := ⟨empty⟩

def keys (d : Dict κ α) : List κ := d.entries.map Prod.fst

def values (d : Dict κ α) : List α := d.entries.map Prod.snd

def size (d : Dict κ α) : ℕ := d.entries.length

variable [DecidableEq κ]

def get? (d : Dict κ α) (k : κ) : Option α := findEntry k d.entries

def set (d : Dict κ α) (k : κ) (a : α) : Dict κ α :=
  ⟨putEntry k a d.entries, nodup_putEntry d.nodup⟩

def contains (d : Dict κ α) (k : κ) : Bool := (d.get? k).isSome

/-- Write the listed entries one after the other: a repeated key keeps its first place. -/
def ofList (es : List (κ × α)) : Dict κ α :=
  es.foldl (fun d e => d.set e.1 e.2) empty

@[simp] theorem get?_empty (k : κ) : (empty : Dict κ α).get? k = none := rfl

theorem get?_set (d : Dict κ α) (k j : κ) (a : α) :
    (d.set k a).get? j = if k = j then some a else d.get? j :=
  findEntry_putEntry k j a d.entries

@[simp] theorem get?_set_self (d : Dict κ α) (k : κ) (a : α) : (d.set k a).get? k = some a := by
  simp [get?_set]

theorem get?_set_of_ne (d : Dict κ α) {k j : κ} (a : α) (h : k ≠ j) :
    (d.set k a).get? j = d.get? j := by
  simp [get?_set, h]

theorem get?_eq_some_iff {d : Dict κ α} {k : κ} {a : α} :
    d.get? k = some a ↔ (k, a) ∈ d.entries :=
  findEntry_eq_some d.nodup

theorem contains_iff {d : Dict κ α} {k : κ} : d.contains k = true ↔ ∃ a, d.get? k = some a :=
  Option.isSome_iff_exists

theorem get?_foldl_set {es : List (κ × α)} {d : Dict κ α} {k : κ} (h : k ∉ es.map Prod.fst) :
    (es.foldl (fun d e => d.set e.1 e.2) d).get? k = d.get? k := by
  induction es generalizing d with
  | nil => rfl
  | cons e es ih =>
    obtain ⟨hne, hes⟩ : k ≠ e.1 ∧ k ∉ es.map Prod.fst := by simpa using h
    rw [List.foldl_cons, ih hes, get?_set_of_ne _ _ hne.symm]

theorem entries_foldl_set {es : List (κ × α)} {d : Dict κ α}
    (h : (d.entries.map Prod.fst ++ es.map Prod.fst).Nodup) :
    (es.foldl (fun d e => d.set e.1 e.2) d).entries = d.entries ++ es := by
  induction es generalizing d with
  | nil => exact (List.append_nil _).symm
  | cons e es ih =>
    obtain ⟨k, a⟩ := e
    have hfresh : k ∉ d.entries.map Prod.fst := by
      intro hmem
      exact (List.nodup_append.mp h).2.2 _ hmem k List.mem_cons_self rfl
    have hset : (d.set k a).entries = d.entries ++ [(k, a)] := putEntry_fresh hfresh
    rw [List.foldl_cons, ih, hset, List.append_assoc, List.singleton_append]
    rw [hset, List.map_append, List.append_assoc]
    exact h

/-- Entries with different keys are listed as they were written. -/
theorem entries_ofList {es : List (κ × α)} (h : (es.map Prod.fst).Nodup) :
    (ofList es).entries = es := entries_foldl_set h

/-- Among entries with different keys each is found under its own. -/
theorem get?_ofList {es : List (κ × α)} {k : κ} {a : α} (h : (es.map Prod.fst).Nodup)
    (hm : (k, a) ∈ es) : (ofList es).get? k = some a := by
  obtain ⟨before, after, rfl⟩ := List.append_of_mem hm
  have hafter : k ∉ after.map Prod.fst := by
    rw [List.map_append, List.map_cons] at h
    exact (List.nodup_cons.mp (List.nodup_append.mp h).2.1).1
  rw [ofList, List.foldl_append, List.foldl_cons, get?_foldl_set hafter, get?_set_self]

/-- Every entry of the dictionary was listed. -/
theorem mem_of_ofList {es : List (κ × α)} {e : κ × α} (h : e ∈ (ofList es).entries) : e ∈ es := by
  have hfold : ∀ (es : List (κ × α)) (d : Dict κ α),
      e ∈ (es.foldl (fun d e => d.set e.1 e.2) d).entries → e ∈ d.entries ∨ e ∈ es := by
    intro es
    induction es with
    | nil => exact fun d h => .inl h
    | cons f es ih =>
      intro d h
      rcases ih _ h with h | h
      · rw [← get?_eq_some_iff, get?_set] at h
        split at h
        case isTrue hkey =>
          right
          rw [List.mem_cons]
          exact .inl (Prod.ext hkey.symm (Option.some.inj h).symm)
        case isFalse => exact .inl (get?_eq_some_iff.mp h)
      · exact .inr (List.mem_cons_of_mem _ h)
  exact (hfold es empty h).resolve_left nofun

/-- `d.update(other)`: what the other dictionary holds replaces what the first one held. -/
theorem get?_update (d other : Dict κ α) (k : κ) :
    (other.entries.foldl (fun d e => d.set e.1 e.2) d).get? k = (other.get? k).or (d.get? k) := by
  cases h : other.get? k with
  | none =>
    refine get?_foldl_set fun hmem => ?_
    rw [get?, Option.eq_none_iff_forall_ne_some] at h
    obtain ⟨e, he, rfl⟩ := List.mem_map.mp hmem
    exact h e.2 ((findEntry_eq_some other.nodup).mpr he)
  | some a =>
    have hnodup := other.nodup
    obtain ⟨before, after, hsplit⟩ := List.append_of_mem (get?_eq_some_iff.mp h)
    rw [hsplit, List.map_append, List.map_cons] at hnodup
    have hafter : k ∉ after.map Prod.fst :=
      (List.nodup_cons.mp (List.nodup_append.mp hnodup).2.1).1
    rw [hsplit, List.foldl_append, List.foldl_cons, get?_foldl_set hafter, get?_set_self]
    rfl

theorem contains_foldl_set {es : List (κ × α)} {d : Dict κ α} {k : κ} :
    (es.foldl (fun d e => d.set e.1 e.2) d).contains k = true ↔
      k ∈ es.map Prod.fst ∨ d.contains k = true := by
  induction es generalizing d with
  | nil => simp
  | cons e es ih =>
    have hset : (d.set e.1 e.2).contains k = true ↔ k = e.1 ∨ d.contains k = true := by
      rw [contains, get?_set]
      split
      case isTrue h => simp [h]
      case isFalse h => simp [contains, Ne.symm h]
    rw [List.foldl_cons, ih, hset, List.map_cons, List.mem_cons]
    tauto

theorem contains_ofList {es : List (κ × α)} {k : κ} :
    (ofList es).contains k = true ↔ k ∈ es.map Prod.fst := by
  rw [ofList, contains_foldl_set]
  simp [contains]

/-- The names of a dictionary are those that were listed, whatever stands under them. -/
theorem contains_ofList_congr {es : List (κ × α)} {es' : List (κ × β)}
    (h : es.map Prod.fst = es'.map Prod.fst) (k : κ) :
    (ofList es).contains k = (ofList es').contains k := by
  rw [Bool.eq_iff_iff, contains_ofList, contains_ofList, h]

theorem mem_keys_iff {d : Dict κ α} {k : κ} : k ∈ d.keys ↔ ∃ a, d.get? k = some a :=
  findEntry_isSome.symm.trans Option.isSome_iff_exists

theorem mem_values_iff {d : Dict κ α} {a : α} : a ∈ d.values ↔ ∃ k, d.get? k = some a := by
  simp only [values, List.mem_map, get?_eq_some_iff, Prod.exists, exists_eq_right]

theorem size_set (d : Dict κ α) (k : κ) (a : α) :
    (d.set k a).size = if d.contains k then d.size else d.size + 1 := by
  have h : d.contains k = true ↔ k ∈ d.entries.map Prod.fst := findEntry_isSome
  simp only [size, set, length_putEntry, h]

/-- Every key of the first dictionary is a key of the second, and its value moved along `R`. -/
def Grows (R : α → α → Prop) (d d' : Dict κ α) : Prop :=
  ∀ k a, d.get? k = some a → ∃ b, d'.get? k = some b ∧ R a b

section Grows

variable {R : α → α → Prop}

theorem Grows.refl (hR : ∀ a, R a a) (d : Dict κ α) : Grows R d d :=
  fun _ a h => ⟨a, h, hR a⟩

theorem Grows.trans (hR : ∀ a b c, R a b → R b c → R a c) {d₁ d₂ d₃ : Dict κ α}
    (h₁ : Grows R d₁ d₂) (h₂ : Grows R d₂ d₃) : Grows R d₁ d₃ := by
  intro k a ha
  obtain ⟨b, hb, hab⟩ := h₁ k a ha
  obtain ⟨c, hc, hbc⟩ := h₂ k b hb
  exact ⟨c, hc, hR a b c hab hbc⟩

/-- A write grows the dictionary when the value it replaces, if any, moves along `R`. -/
theorem grows_set_iff (hR : ∀ a, R a a) {d : Dict κ α} {k : κ} {b : α} :
    Grows R d (d.set k b) ↔ ∀ a, d.get? k = some a → R a b := by
  constructor
  · intro h a ha
    obtain ⟨b', hb', hab⟩ := h k a ha
    rw [get?_set_self] at hb'
    exact Option.some.inj hb' ▸ hab
  · intro h j a ha
    by_cases hj : k = j
    · subst hj; exact ⟨b, d.get?_set_self k b, h a ha⟩
    · exact ⟨a, by rw [get?_set_of_ne _ _ hj, ha], hR a⟩

theorem grows_set_fresh (hR : ∀ a, R a a) {d : Dict κ α} {k : κ} {b : α}
    (h : d.get? k = none) : Grows R d (d.set k b) :=
  (grows_set_iff hR).mpr fun a ha => by simp [h] at ha

theorem grows_set_of (hR : ∀ a, R a a) {d : Dict κ α} {k : κ} {a b : α}
    (h : d.get? k = some a) (hab : R a b) : Grows R d (d.set k b) :=
  (grows_set_iff hR).mpr fun a' ha' => by
    rw [h] at ha'
    exact Option.some.inj ha' ▸ hab

end Grows

/-- What holds of every value still holds after a write of a value it holds of. -/
theorem forall_set {P : κ → α → Prop} {d : Dict κ α} {k : κ} {a : α}
    (h : ∀ j b, d.get? j = some b → P j b) (ha : P k a) :
    ∀ j b, (d.set k a).get? j = some b → P j b := by
  intro j b hb
  rw [get?_set] at hb
  split at hb
  · rename_i hj
    exact hj ▸ Option.some.inj hb ▸ ha
  · exact h j b hb

end Dict

end Foundation
