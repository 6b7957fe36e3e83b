import Mathlib.Logic.Relation
import Mathlib.Data.List.Basic
import OperateBench.Foundation.Fallible

/-! # Runs and histories

A step relation `step s a s'` takes a state to a state under a label. `Run step P` is reachability
through steps that all meet the condition `P` on their first state and label; with the trivial
condition it is plain reachability. Invariants and preorders that every step respects are carried
along runs here, once. A history is a list in which every entry is allowed by the entries before
it.
-/

namespace Foundation

open Relation

variable {σ ι : Type*} {step : σ → ι → σ → Prop} {P Q : σ → ι → Prop} {s t u : σ}

/-- One step of the system under some label that meets the condition. -/
def StepVia (step : σ → ι → σ → Prop) (P : σ → ι → Prop) (s t : σ) : Prop :=
  ∃ a, P s a ∧ step s a t

def Run (step : σ → ι → σ → Prop) (P : σ → ι → Prop) : σ → σ → Prop :=
  ReflTransGen (StepVia step P)

abbrev Reaches (step : σ → ι → σ → Prop) : σ → σ → Prop := Run step fun _ _ => True

namespace Run

theorem refl (s : σ) : Run step P s s := ReflTransGen.refl

theorem trans (h₁ : Run step P s t) (h₂ : Run step P t u) : Run step P s u :=
  ReflTransGen.trans h₁ h₂

theorem tail {a : ι} (h : Run step P s t) (hP : P t a) (hs : step t a u) : Run step P s u :=
  ReflTransGen.tail h ⟨a, hP, hs⟩

theorem mono (hPQ : ∀ s a, P s a → Q s a) (h : Run step P s t) : Run step Q s t := by
  induction h with
  | refl => exact Run.refl s
  | tail _ hst ih =>
    obtain ⟨a, hP, hs⟩ := hst
    exact ih.tail (hPQ _ a hP) hs

theorem reaches (h : Run step P s t) : Reaches step s t := h.mono fun _ _ _ => trivial

/-- An invariant of every step that meets the condition holds along the run. -/
theorem invariant {I : σ → Prop} (h : Run step P s t) (h₀ : I s)
    (hI : ∀ s a t, I s → P s a → step s a t → I t) : I t := by
  induction h with
  | refl => exact h₀
  | tail _ hst ih =>
    obtain ⟨a, hP, hs⟩ := hst
    exact hI _ a _ ih hP hs

/-- A preorder that every step respects, under an invariant, relates the ends of a run. -/
theorem related {I : σ → Prop} {R : σ → σ → Prop} (h : Run step P s t) (h₀ : I s)
    (hI : ∀ s a t, I s → P s a → step s a t → I t) (hrefl : ∀ s, R s s)
    (htrans : ∀ s t u, R s t → R t u → R s u)
    (hR : ∀ s a t, I s → P s a → step s a t → R s t) : R s t := by
  induction h with
  | refl => exact hrefl s
  | tail h hst ih =>
    obtain ⟨a, hP, hs⟩ := hst
    exact htrans _ _ _ ih (hR _ a _ (invariant h h₀ hI) hP hs)

/-- A run maps to a run of another system when each of its steps does. -/
theorem simulates {τ κ : Type*} {step' : τ → κ → τ → Prop} {P' : τ → κ → Prop} {f : σ → τ}
    {I : σ → Prop} (h : Run step P s t) (h₀ : I s)
    (hI : ∀ s a t, I s → P s a → step s a t → I t)
    (hs : ∀ s a t, I s → P s a → step s a t → Run step' P' (f s) (f t)) :
    Run step' P' (f s) (f t) :=
  related (R := fun s t => Run step' P' (f s) (f t)) h h₀ hI (fun _ => Run.refl _)
    (fun _ _ _ => Run.trans) hs

/-- A program that takes a step for each entry of a list runs along the list. -/
theorem of_foldlM {ε : Type*} {f : σ → ι → Except ε σ} {l : List ι}
    (hf : ∀ s a t, f s a = .ok t → step s a t) (hP : ∀ a ∈ l, ∀ s, P s a)
    (h : l.foldlM f s = .ok t) : Run step P s t :=
  foldlM_related (R := Run step P) Run.refl (fun _ _ _ => Run.trans)
    (fun s a t ha hst => (Run.refl s).tail (hP a ha s) (hf s a t hst)) h

end Run

end Foundation

namespace Foundation

variable {α : Type*} {A : List α → α → Prop} {h : List α} {c : α}

/-- Every entry is allowed by what stands before it. -/
def Throughout (A : List α → α → Prop) (h : List α) : Prop :=
  ∀ before c after, h = before ++ c :: after → A before c

theorem throughout_nil : Throughout A [] := by
  intro before c after h
  cases before <;> cases h

theorem throughout_snoc : Throughout A (h ++ [c]) ↔ Throughout A h ∧ A h c := by
  constructor
  · intro hall
    constructor
    · rintro before d after rfl
      exact hall before d (after ++ [c]) (by simp)
    · exact hall h c [] rfl
  · rintro ⟨hall, hlast⟩ before d after heq
    rcases List.eq_nil_or_concat after with rfl | ⟨after, e, rfl⟩
    · obtain ⟨rfl, hd⟩ := List.append_inj' heq rfl
      obtain rfl := List.singleton_inj.mp hd
      exact hlast
    · rw [List.concat_eq_append, ← List.cons_append, ← List.append_assoc] at heq
      exact hall before d after (List.append_inj' heq rfl).1

theorem Throughout.of_append {l : List α} (hall : Throughout A (h ++ l)) : Throughout A h := by
  rintro before d after rfl
  exact hall before d (after ++ l) (by simp)

section Loops

variable {ε σ : Type*} {done : σ → Bool} {turn : σ → Except ε σ} {s t : σ} {r r' : Except ε σ}

/-- Take turns until it is done, or the limit is reached. -/
def turns (done : σ → Bool) (turn : σ → Except ε σ) : ℕ → σ → Except ε σ
  | 0, s => .ok s
  | n + 1, s => if done s then .ok s else (turn s).bind (turns done turn n)

/-- What the turns come to when there are enough of them. -/
def LeadsTo (done : σ → Bool) (turn : σ → Except ε σ) (s : σ) (r : Except ε σ) : Prop :=
  ∃ n, ∀ m ≥ n, turns done turn m s = r

namespace LeadsTo

theorem ended (h : done s = true) : LeadsTo done turn s (.ok s) := by
  refine ⟨0, fun m _ => ?_⟩
  cases m with
  | zero => rfl
  | succ m => rw [turns, if_pos h]

theorem failed {e : ε} (hopen : done s = false) (h : turn s = .error e) :
    LeadsTo done turn s (.error e) := by
  refine ⟨1, fun m hm => ?_⟩
  obtain ⟨m, rfl⟩ : ∃ k, m = k + 1 := ⟨m - 1, by omega⟩
  rw [turns, if_neg (Bool.eq_false_iff.mp hopen), h]
  rfl

theorem step (hopen : done s = false) (h : turn s = .ok t) (hrest : LeadsTo done turn t r) :
    LeadsTo done turn s r := by
  obtain ⟨n, hn⟩ := hrest
  refine ⟨n + 1, fun m hm => ?_⟩
  obtain ⟨m, rfl⟩ : ∃ k, m = k + 1 := ⟨m - 1, by omega⟩
  rw [turns, if_neg (Bool.eq_false_iff.mp hopen), h]
  exact hn m (by omega)

/-- A run that has ended stays as it is. -/
theorem of_turns {n : ℕ} (h : turns done turn n s = .ok t) (hdone : done t = true) :
    LeadsTo done turn s (.ok t) := by
  induction n generalizing s with
  | zero =>
    obtain rfl := Except.ok.inj h
    exact ended hdone
  | succ n ih =>
    cases hs : done s with
    | true =>
      rw [turns, if_pos hs] at h
      obtain rfl := Except.ok.inj h
      exact ended hs
    | false =>
      rw [turns, if_neg (Bool.eq_false_iff.mp hs)] at h
      obtain ⟨next, hnext, h⟩ := bind_ok h
      exact (ih h).step hs hnext

theorem unique (h : LeadsTo done turn s r) (h' : LeadsTo done turn s r') : r = r' := by
  obtain ⟨n, hn⟩ := h
  obtain ⟨n', hn'⟩ := h'
  exact (hn (max n n') (Nat.le_max_left n n')).symm.trans (hn' (max n n') (Nat.le_max_right n n'))

end LeadsTo

end Loops

end Foundation
