import Mathlib.Data.List.Nodup
import Mathlib.Data.List.Dedup
import Mathlib.Data.List.Perm.Subperm

/-! # Numbered names

A decimal numeral determines its number, also behind a stem or behind a mark that
no numeral contains. By counting, a run of numbered names that is longer than a list
has one that the list does not hold.
-/

namespace Foundation

section Numerals

theorem natText_injective {m n : ℕ} (h : toString m = toString n) : m = n := by
  have hd : Nat.toDigits 10 m = Nat.toDigits 10 n := by
    rw [← Nat.toList_repr, ← Nat.toList_repr]
    exact congrArg String.toList h
  rw [← Nat.ofDigitChars_ten_toDigits (n := m), hd, Nat.ofDigitChars_ten_toDigits]

theorem notMem_natText {c : Char} (hc : c.isDigit = false) (n : ℕ) : c ∉ (toString n).toList := by
  intro h
  rw [show (toString n).toList = Nat.toDigits 10 n from Nat.toList_repr] at h
  rw [Nat.isDigit_of_mem_toDigits (by decide) (by decide) h] at hc
  cases hc

theorem toList_intText (n : Int) : (toString n).toList =
    match n with
    | .ofNat m => (toString m).toList
    | .negSucc m => '-' :: (toString (m + 1)).toList := by
  cases n with
  | ofNat m => rfl
  | negSucc m =>
    show ("-" ++ toString (m + 1)).toList = _
    rw [String.toList_append]
    rfl

theorem notMem_intText {c : Char} (hc : c.isDigit = false) (hm : c ≠ '-') (n : Int) :
    c ∉ (toString n).toList := by
  rw [toList_intText]
  cases n with
  | ofNat m => exact notMem_natText hc m
  | negSucc m =>
    rintro (_ | ⟨_, h⟩)
    · exact hm rfl
    · exact notMem_natText hc _ h

theorem intText_chars (n : Int) : ∀ c ∈ (toString n).toList, c.isDigit ∨ c = '-' := by
  intro c hc
  by_contra hnot
  rw [not_or, Bool.not_eq_true] at hnot
  exact notMem_intText hnot.1 hnot.2 n hc

theorem intText_injective {m n : Int} (h : toString m = toString n) : m = n := by
  have hl := congrArg String.toList h
  rw [toList_intText, toList_intText] at hl
  cases m with
  | ofNat m =>
    cases n with
    | ofNat n => rw [natText_injective (String.toList_injective hl)]
    | negSucc n =>
      have hm : '-' ∈ (toString m).toList := by
        rw [show (toString m).toList = _ from hl]
        exact List.mem_cons_self
      exact absurd hm (notMem_natText (by decide) m)
  | negSucc m =>
    cases n with
    | ofNat n =>
      have hn : '-' ∈ (toString n).toList := by
        rw [show (toString n).toList = _ from hl.symm]
        exact List.mem_cons_self
      exact absurd hn (notMem_natText (by decide) n)
    | negSucc n =>
      have ht := natText_injective (String.toList_injective (List.cons.inj hl).2)
      rw [Nat.succ.inj ht]

end Numerals

section Marks

/-- A list is cut in one way only at a mark that does not return. -/
theorem append_mark_inj {α : Type*} {a b x y : List α} {c : α} (hx : c ∉ x) (hy : c ∉ y)
    (h : a ++ c :: x = b ++ c :: y) : a = b ∧ x = y := by
  induction a generalizing b with
  | nil =>
    cases b with
    | nil => exact ⟨rfl, (List.cons.inj h).2⟩
    | cons e b => exact absurd ((List.cons.inj h).2 ▸ List.mem_append_right b List.mem_cons_self) hx
  | cons d a ih =>
    cases b with
    | nil => exact absurd ((List.cons.inj h).2 ▸ List.mem_append_right a List.mem_cons_self) hy
    | cons e b =>
      obtain ⟨rfl, ht⟩ := List.cons.inj h
      obtain ⟨rfl, rfl⟩ := ih (b := b) ht
      exact ⟨rfl, rfl⟩

theorem marked_inj {s t : String} {m n : Int} (h : s ++ ":v" ++ toString m = t ++ ":v" ++ toString n) :
    s = t ∧ m = n := by
  have hl := congrArg String.toList h
  have hv : ∀ n : Int, 'v' ∉ (toString n).toList := notMem_intText (by decide) (by decide)
  have hsplit : ∀ (s : String) (n : Int), (s ++ ":v" ++ toString n).toList =
      (s.toList ++ [':']) ++ 'v' :: (toString n).toList := by
    intro s n
    simp [String.toList_append]
  rw [hsplit, hsplit] at hl
  obtain ⟨hs, hn⟩ := append_mark_inj (hv m) (hv n) hl
  exact ⟨String.toList_injective (List.append_cancel_right hs),
    intText_injective (String.toList_injective hn)⟩

end Marks

section Stems

variable {α : Type*} [DecidableEq α]

/-- Lists that differ where both have an entry cannot be made equal by what follows. -/
theorem append_ne_of_clash {p q a b : List α}
    (h : (p.zip q).any (fun e => e.1 ≠ e.2) = true) : p ++ a ≠ q ++ b := by
  induction p generalizing q with
  | nil => cases h
  | cons x p ih =>
    cases q with
    | nil => cases h
    | cons y q =>
      intro hpq
      obtain ⟨rfl, htail⟩ := List.cons.inj hpq
      exact ih (by simpa using h) htail

/-- Names with stems that clash are different. -/
theorem stem_ne {p q : String} (h : (p.toList.zip q.toList).any (fun e => e.1 ≠ e.2) = true)
    (a b : String) : p ++ a ≠ q ++ b := by
  intro hpq
  have hl := congrArg String.toList hpq
  rw [String.toList_append, String.toList_append] at hl
  exact append_ne_of_clash h hl

end Stems

/-- More names than the list has entries: one of them is not in the list. -/
theorem exists_notMem_of_injective {α : Type*} [DecidableEq α] {f : ℕ → α}
    (hf : Function.Injective f) (used : List α) :
    ∃ k ≤ used.dedup.length, f k ∉ used := by
  by_contra hn
  push Not at hn
  have hsub : (List.range (used.dedup.length + 1)).map f ⊆ used.dedup := by
    intro a ha
    obtain ⟨k, hk, rfl⟩ := List.mem_map.mp ha
    exact List.mem_dedup.mpr (hn k (Nat.lt_succ_iff.mp (List.mem_range.mp hk)))
  have hlen := ((List.nodup_range.map hf).subperm hsub).length_le
  rw [List.length_map, List.length_range] at hlen
  exact Nat.not_succ_le_self _ hlen

section Fresh

variable {α : Type*} [DecidableEq α] {name : ℕ → α} {used : List α}

/-- The first name from the index on that is not used, among the next few. -/
def freshFrom (name : ℕ → α) (used : List α) : ℕ → ℕ → α
  | 0, index => name index
  | fuel + 1, index =>
    if name index ∈ used then freshFrom name used fuel (index + 1) else name index

theorem freshFrom_eq (fuel index : ℕ) : ∃ k, freshFrom name used fuel index = name k := by
  induction fuel generalizing index with
  | zero => exact ⟨index, rfl⟩
  | succ fuel ih =>
    rw [freshFrom]
    split
    · exact ih (index + 1)
    · exact ⟨index, rfl⟩

theorem mem_of_freshFrom_mem {fuel index : ℕ} (h : freshFrom name used fuel index ∈ used) :
    ∀ k ≤ fuel, name (index + k) ∈ used := by
  induction fuel generalizing index with
  | zero =>
    intro k hk
    obtain rfl := Nat.le_zero.mp hk
    exact h
  | succ fuel ih =>
    rw [freshFrom] at h
    split at h
    · rename_i hi
      intro k hk
      cases k with
      | zero => exact hi
      | succ k =>
        rw [show index + (k + 1) = index + 1 + k by omega]
        exact ih h k (Nat.le_of_succ_le_succ hk)
    · contradiction

/-- A free name is met before every used one is passed. -/
theorem freshFrom_notMem (hname : Function.Injective name) {fuel index : ℕ}
    (hfuel : used.length ≤ fuel) : freshFrom name used fuel index ∉ used := by
  intro h
  have hinj : Function.Injective fun k => name (index + k) := by
    intro j k hjk
    have ht := hname hjk
    omega
  obtain ⟨k, hk, hn⟩ := exists_notMem_of_injective hinj used
  have hlength : used.dedup.length ≤ used.length := (List.dedup_sublist used).length_le
  exact hn (mem_of_freshFrom_mem h k (Nat.le_trans hk (Nat.le_trans hlength hfuel)))

end Fresh

end Foundation
