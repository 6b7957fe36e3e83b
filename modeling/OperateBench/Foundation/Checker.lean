import Mathlib.Data.List.Basic
import Mathlib.Data.List.Induction

/-! # One-pass checkers

A checker reads a list once. At each position it moves a state, or raises, and reports what it
finds. A list on which nothing is reported is passed silently, and an invariant that every
silent step keeps holds of every list that is passed.
-/

namespace Foundation

namespace Checker

variable {ε σ α ρ : Type*}

/-- The reports of a checker on a list, and the state it ends in. -/
def run (step : ℕ → σ → α → Except ε (σ × List ρ)) : ℕ → σ → List α → Except ε (σ × List ρ)
  | _, s, [] => .ok (s, [])
  | p, s, a :: as => do
    let (t, found) ← step p s a
    let (u, later) ← run step (p + 1) t as
    return (u, found ++ later)

/-- The checker passes the list from one state to another and reports nothing. -/
def Silent (step : ℕ → σ → α → Except ε (σ × List ρ)) (p : ℕ) (s : σ) (as : List α) (t : σ) :
    Prop := run step p s as = .ok (t, [])

variable {step : ℕ → σ → α → Except ε (σ × List ρ)} {p : ℕ} {s t u : σ} {a : α} {as bs : List α}

@[simp] theorem silent_nil : Silent step p s [] t ↔ s = t := by
  simp [Silent, run]

theorem silent_cons : Silent step p s (a :: as) u ↔
    ∃ t, step p s a = .ok (t, []) ∧ Silent step (p + 1) t as u := by
  constructor
  · intro h
    simp only [Silent, run] at h
    cases hstep : step p s a with
    | error e => rw [hstep] at h; cases h
    | ok first =>
      cases hrest : run step (p + 1) first.1 as with
      | error e => rw [hstep] at h; simp [bind, Except.bind, hrest] at h
      | ok rest =>
        rw [hstep] at h
        simp only [bind, Except.bind, hrest, pure, Except.pure, Except.ok.injEq, Prod.mk.injEq,
          List.append_eq_nil_iff] at h
        obtain ⟨hstate, hfound, hlater⟩ := h
        exact ⟨first.1, by rw [← hfound], by rw [Silent, hrest, ← hstate, ← hlater]⟩
  · rintro ⟨t, hstep, hrest⟩
    rw [Silent] at hrest
    simp [Silent, run, hstep, hrest, bind, Except.bind, pure, Except.pure]

theorem silent_append : Silent step p s (as ++ bs) u ↔
    ∃ t, Silent step p s as t ∧ Silent step (p + as.length) t bs u := by
  induction as generalizing p s with
  | nil => simp
  | cons a as ih =>
    simp only [List.cons_append, silent_cons, ih, List.length_cons]
    constructor
    · rintro ⟨t, hstep, v, has, hbs⟩
      exact ⟨v, ⟨t, hstep, has⟩, by rwa [Nat.add_assoc, Nat.add_comm 1] at hbs⟩
    · rintro ⟨v, ⟨t, hstep, has⟩, hbs⟩
      exact ⟨t, hstep, v, has, by rwa [Nat.add_assoc, Nat.add_comm 1]⟩

theorem silent_singleton : Silent step p s [a] t ↔ step p s a = .ok (t, []) := by
  simp [silent_cons]

/-- What every silent step keeps, for the items read so far, holds where the list ends. -/
theorem Silent.invariant (Inv : List α → σ → Prop) (h : Silent step p s as t) (start : Inv [] s)
    (next : ∀ before a p s t, a ∈ as → Inv before s → step p s a = .ok (t, []) →
      Inv (before ++ [a]) t) : Inv as t := by
  induction as using List.reverseRecOn generalizing t with
  | nil => exact silent_nil.mp h ▸ start
  | append_singleton as a ih =>
    obtain ⟨v, has, hlast⟩ := silent_append.mp h
    have hbefore : Inv as v := ih has fun before b p s t hb =>
      next before b p s t (List.mem_append_left _ hb)
    exact next as a _ v t (by simp) hbefore (silent_singleton.mp hlast)

/-- Each item of a list that is passed is passed from the state that the items before it left. -/
theorem Silent.at (h : Silent step p s (as ++ a :: bs) u) : ∃ v t, Silent step p s as v ∧
    step (p + as.length) v a = .ok (t, []) ∧ Silent step (p + as.length + 1) t bs u := by
  obtain ⟨v, has, hrest⟩ := silent_append.mp h
  obtain ⟨t, hstep, hbs⟩ := silent_cons.mp hrest
  exact ⟨v, t, has, hstep, hbs⟩

end Checker

end Foundation
