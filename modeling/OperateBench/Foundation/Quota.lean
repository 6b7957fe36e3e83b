import Mathlib.Algebra.Order.BigOperators.Group.List
import Mathlib.Algebra.Order.Group.Nat
import Mathlib.Algebra.Ring.Int.Defs
import Mathlib.Algebra.Ring.Nat
import Mathlib.Data.List.Nodup
import Mathlib.Logic.Function.Basic

/-! # Quotas

A quota allows each key a number of uses and each use a number of units. What is allowed by the
keys one at a time is within the total of them all, however the uses are spread.
-/

namespace Foundation

variable {κ : Type*}

structure Quota (κ : Type*) where
  keys : List κ
  nodup : keys.Nodup
  uses : κ → ℕ
  units : κ → ℕ

/-- The uses that each key has taken, and the units spent in them. -/
structure Usage (κ : Type*) where
  used : κ → ℕ
  spent : κ → ℕ

namespace Quota

variable {q : Quota κ} {u : Usage κ} {c : κ × ℕ}

def total (q : Quota κ) : ℕ := (q.keys.map fun k => q.uses k * q.units k).sum

def spent (q : Quota κ) (u : Usage κ) : ℕ := (q.keys.map u.spent).sum

/-- No key has more uses than it is allowed, and no use more units. -/
structure Within (q : Quota κ) (u : Usage κ) : Prop where
  uses : ∀ k ∈ q.keys, u.used k ≤ q.uses k
  units : ∀ k ∈ q.keys, u.spent k ≤ u.used k * q.units k

/-- The key has a use left, and the charge is within the units of one. -/
structure Allows (q : Quota κ) (u : Usage κ) (c : κ × ℕ) : Prop where
  mem : c.1 ∈ q.keys
  use : u.used c.1 < q.uses c.1
  units : c.2 ≤ q.units c.1

theorem Within.spent_le_total (h : q.Within u) : q.spent u ≤ q.total := by
  refine List.sum_le_sum fun k hk => ?_
  exact Nat.le_trans (h.units k hk) (Nat.mul_le_mul_right _ (h.uses k hk))

end Quota

variable [DecidableEq κ]

namespace Usage

/-- One more use of the key, for a number of units. -/
def charge (u : Usage κ) (c : κ × ℕ) : Usage κ where
  used := Function.update u.used c.1 (u.used c.1 + 1)
  spent := Function.update u.spent c.1 (u.spent c.1 + c.2)

def chargeAll (u : Usage κ) (charges : List (κ × ℕ)) : Usage κ := charges.foldl charge u

@[simp] theorem chargeAll_nil (u : Usage κ) : u.chargeAll [] = u := rfl

@[simp] theorem chargeAll_cons (u : Usage κ) (c : κ × ℕ) (charges : List (κ × ℕ)) :
    u.chargeAll (c :: charges) = (u.charge c).chargeAll charges := rfl

theorem chargeAll_used (u : Usage κ) (charges : List (κ × ℕ)) : (u.chargeAll charges).used =
    charges.foldl (fun f c => Function.update f c.1 (f c.1 + 1)) u.used := by
  induction charges generalizing u with
  | nil => rfl
  | cons c charges ih => exact ih (u.charge c)

theorem chargeAll_spent (u : Usage κ) (charges : List (κ × ℕ)) : (u.chargeAll charges).spent =
    charges.foldl (fun f c => Function.update f c.1 (f c.1 + c.2)) u.spent := by
  induction charges generalizing u with
  | nil => rfl
  | cons c charges ih => exact ih (u.charge c)

end Usage

namespace Quota

variable {q : Quota κ} {u : Usage κ} {c d : κ × ℕ} {charges : List (κ × ℕ)}

theorem Allows.charge (h : q.Allows u d) (hne : d.1 ≠ c.1) : q.Allows (u.charge c) d where
  mem := h.mem
  use := by
    simp only [Usage.charge, Function.update_of_ne hne]
    exact h.use
  units := h.units

theorem Within.charge (h : q.Within u) (ha : q.Allows u c) : q.Within (u.charge c) := by
  constructor
  · intro k hk
    by_cases heq : k = c.1
    · subst heq
      simp only [Usage.charge, Function.update_self]
      exact ha.use
    · simp only [Usage.charge, Function.update_of_ne heq]
      exact h.uses k hk
  · intro k hk
    by_cases heq : k = c.1
    · subst heq
      simp only [Usage.charge, Function.update_self, Nat.succ_mul]
      exact Nat.add_le_add (h.units _ hk) ha.units
    · simp only [Usage.charge, Function.update_of_ne heq]
      exact h.units k hk

/-- A sum changes by what one of its terms changes by. -/
theorem sum_update {keys : List κ} {f : κ → ℕ} {k : κ} {n : ℕ} (hnodup : keys.Nodup)
    (hk : k ∈ keys) : (keys.map (Function.update f k (f k + n))).sum = (keys.map f).sum + n := by
  induction keys with
  | nil => cases hk
  | cons j keys ih =>
    obtain ⟨hj, hnodup⟩ := List.nodup_cons.mp hnodup
    rw [List.map_cons, List.map_cons, List.sum_cons, List.sum_cons]
    rcases List.mem_cons.mp hk with rfl | hk
    · have hrest : keys.map (Function.update f k (f k + n)) = keys.map f := by
        refine List.map_congr_left fun i hi => Function.update_of_ne ?_ _ _
        rintro rfl
        exact hj hi
      rw [hrest, Function.update_self]
      omega
    · have hne : j ≠ k := by
        rintro rfl
        exact hj hk
      rw [ih hnodup hk, Function.update_of_ne hne]
      omega

theorem spent_charge (hk : c.1 ∈ q.keys) : q.spent (u.charge c) = q.spent u + c.2 :=
  sum_update q.nodup hk

/-- Charges of different keys that are each allowed can all be made. -/
theorem Within.chargeAll (h : q.Within u) (hnodup : (charges.map Prod.fst).Nodup)
    (ha : ∀ c ∈ charges, q.Allows u c) : q.Within (u.chargeAll charges) ∧
      q.spent (u.chargeAll charges) = q.spent u + (charges.map Prod.snd).sum := by
  induction charges generalizing u with
  | nil => exact ⟨h, rfl⟩
  | cons c charges ih =>
    rw [List.map_cons, List.nodup_cons] at hnodup
    obtain ⟨hc, hnodup⟩ := hnodup
    obtain ⟨hfirst, hrest⟩ := List.forall_mem_cons.mp ha
    obtain ⟨hwithin, hspent⟩ := ih (h.charge hfirst) hnodup fun d hd => (hrest d hd).charge
      fun heq => hc (heq ▸ List.mem_map_of_mem hd)
    refine ⟨hwithin, ?_⟩
    rw [Usage.chargeAll_cons, hspent, spent_charge hfirst.mem, List.map_cons, List.sum_cons]
    omega

/-- The total has room for charges of different keys that are each allowed. -/
theorem Within.room (h : q.Within u) (hnodup : (charges.map Prod.fst).Nodup)
    (ha : ∀ c ∈ charges, q.Allows u c) : q.spent u + (charges.map Prod.snd).sum ≤ q.total := by
  obtain ⟨hwithin, hspent⟩ := h.chargeAll hnodup ha
  exact hspent ▸ hwithin.spent_le_total

end Quota

end Foundation
