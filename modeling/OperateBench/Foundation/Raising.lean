import Mathlib.Data.List.Basic

/-! # Computations that change a state and may raise

What was changed before an exception was raised stays changed. A postcondition for each of the two
exits, with one rule for each way of building such a computation. An object is called again and
again, whatever the calls come to: a visit is one call, with the object before it and what came of
it.
-/

namespace Foundation

universe u

variable {ε σ α β : Type u}

/-- From the state the computation returns with `Q` or raises with `R`. -/
def Leaves (x : EStateM ε σ α) (s : σ) (Q : α → σ → Prop) (R : ε → σ → Prop) : Prop :=
  match x s with
  | .ok a t => Q a t
  | .error e t => R e t

variable {x : EStateM ε σ α} {f : α → EStateM ε σ β} {s t : σ} {a : α} {e : ε}
  {Q Q' : α → σ → Prop} {R R' : ε → σ → Prop}

theorem Leaves.mono (h : Leaves x s Q R) (hQ : ∀ a t, Q a t → Q' a t)
    (hR : ∀ e t, R e t → R' e t) : Leaves x s Q' R' := by
  unfold Leaves at h ⊢
  split
  · rename_i ht
    rw [ht] at h
    exact hQ _ _ h
  · rename_i ht
    rw [ht] at h
    exact hR _ _ h

theorem leaves_always (hQ : ∀ a t, Q a t) (hR : ∀ e t, R e t) : Leaves x s Q R := by
  unfold Leaves
  split
  · exact hQ _ _
  · exact hR _ _

theorem Leaves.ok (h : Leaves x s Q R) (hx : x s = .ok a t) : Q a t := by
  unfold Leaves at h
  rwa [hx] at h

theorem Leaves.error (h : Leaves x s Q R) (hx : x s = .error e t) : R e t := by
  unfold Leaves at h
  rwa [hx] at h

theorem leaves_iff : Leaves x s Q R ↔
    (∀ a t, x s = .ok a t → Q a t) ∧ ∀ e t, x s = .error e t → R e t := by
  constructor
  · intro h
    exact ⟨fun _ _ => h.ok, fun _ _ => h.error⟩
  · rintro ⟨hok, herror⟩
    unfold Leaves
    split
    · exact hok _ _ ‹_›
    · exact herror _ _ ‹_›

@[simp] theorem leaves_bind {Q : β → σ → Prop} : Leaves (x >>= f) s Q R ↔
    Leaves x s (fun a t => Leaves (f a) t Q R) R := by
  unfold Leaves
  change (match EStateM.bind x f s with | .ok a t => Q a t | .error e t => R e t) ↔ _
  unfold EStateM.bind
  cases x s <;> rfl

@[simp] theorem leaves_pure : Leaves (pure a) s Q R ↔ Q a s := Iff.rfl

@[simp] theorem leaves_throw : Leaves (throw e) s Q R ↔ R e s := Iff.rfl

@[simp] theorem leaves_get {Q : σ → σ → Prop} : Leaves (ε := ε) get s Q R ↔ Q s s := Iff.rfl

@[simp] theorem leaves_modify {g : σ → σ} {Q : PUnit → σ → Prop} :
    Leaves (ε := ε) (modify g) s Q R ↔ Q ⟨⟩ (g s) := Iff.rfl

/-- A computation on no state, raised with its exception translated. -/
def raising {δ : Type u} (translate : δ → ε) : Except δ α → EStateM ε σ α
  | .ok a => pure a
  | .error d => throw (translate d)

@[simp] theorem leaves_raising {δ : Type u} {translate : δ → ε} {y : Except δ α} :
    Leaves (raising translate y) s Q R ↔
      (∀ a, y = .ok a → Q a s) ∧ ∀ d, y = .error d → R (translate d) s := by
  cases y with
  | ok a =>
    constructor
    · intro h
      exact ⟨fun _ ha => Except.ok.inj ha ▸ h, nofun⟩
    · rintro ⟨h, -⟩
      exact h a rfl
  | error d =>
    constructor
    · intro h
      exact ⟨nofun, fun _ hd => Except.error.inj hd ▸ h⟩
    · rintro ⟨-, h⟩
      exact h d rfl

/-- Two continuations that agree on what a computation returns may be exchanged. -/
theorem bind_agrees {g : α → EStateM ε σ β}
    (h : Leaves x s (fun a t => f a t = g a t) fun _ _ => True) : (x >>= f) s = (x >>= g) s := by
  change EStateM.bind x f s = EStateM.bind x g s
  unfold EStateM.bind
  unfold Leaves at h
  split
  · rename_i ht
    rw [ht] at h
    exact h
  · rfl

theorem map_result {g : α → β} : (g <$> x) s = match x s with
      | .ok a t => .ok (g a) t
      | .error e t => .error e t := by
  change EStateM.map g x s = _
  unfold EStateM.map
  cases x s <;> rfl

@[simp] theorem leaves_map {g : α → β} {Q : β → σ → Prop} :
    Leaves (g <$> x) s Q R ↔ Leaves x s (fun a t => Q (g a) t) R := by
  unfold Leaves
  rw [map_result]
  cases x s <;> rfl

end Foundation

namespace Foundation

variable {σ κ ρ ε η : Type}

structure Visit (ε σ κ ρ : Type) where
  before : σ
  call : κ
  result : EStateM.Result ε σ ρ

def Visit.after (v : Visit ε σ κ ρ) : σ :=
  match v.result with
  | .ok _ s => s
  | .error _ s => s

section Sequences

variable (perform : κ → EStateM ε σ ρ) (s : σ)

def visit (call : κ) : Visit ε σ κ ρ := ⟨s, call, perform call s⟩

def visits (s : σ) : List κ → List (Visit ε σ κ ρ)
  | [] => []
  | call :: calls => visit perform s call :: visits (visit perform s call).after calls

def afterAll (calls : List κ) : σ := calls.foldl (fun s call => (visit perform s call).after) s

end Sequences

variable {perform : κ → EStateM ε σ ρ} {s : σ} {calls : List κ}

theorem afterAll_cons {call : κ} :
    afterAll perform s (call :: calls) = afterAll perform (visit perform s call).after calls := rfl

/-- What both exits of a call establish, the visit has. -/
theorem visit_leaves {call : κ} {P : Visit ε σ κ ρ → Prop}
    (h : Leaves (perform call) s (fun a t => P ⟨s, call, .ok a t⟩)
      fun e t => P ⟨s, call, .error e t⟩) : P (visit perform s call) := by
  unfold Leaves at h
  unfold visit
  split at h
  · rename_i ht
    rwa [ht]
  · rename_i ht
    rwa [ht]

/-- What each call keeps of the object and of the entries so far, all of them keep. -/
theorem visits_invariant {entry : Visit ε σ κ ρ → Option η} {I : σ → List η → Prop}
    {P : Visit ε σ κ ρ → Prop} {log : List η} (h : I s log)
    (hstep : ∀ s log call, I s log → P (visit perform s call) →
      I (visit perform s call).after (log ++ (entry (visit perform s call)).toList))
    (hall : ∀ v ∈ visits perform s calls, P v) :
    I (afterAll perform s calls) (log ++ (visits perform s calls).filterMap entry) := by
  induction calls generalizing s log with
  | nil => simpa [visits, afterAll] using h
  | cons call calls ih =>
    have hfirst := hstep s log call h (hall _ List.mem_cons_self)
    have hrest := ih hfirst fun v hv => hall v (List.mem_cons_of_mem _ hv)
    rw [afterAll_cons]
    rw [List.append_assoc] at hrest
    have hlog : (entry (visit perform s call)).toList ++
        (visits perform (visit perform s call).after calls).filterMap entry =
        (visits perform s (call :: calls)).filterMap entry := by
      rw [visits, List.filterMap_cons]
      cases entry (visit perform s call) <;> rfl
    rwa [hlog] at hrest

/-- An invariant of the object holds before every one of the calls. -/
theorem visits_before {I : σ → Prop} {P : Visit ε σ κ ρ → Prop} (h : I s)
    (hstep : ∀ s call, I s → P (visit perform s call) → I (visit perform s call).after)
    (hall : ∀ v ∈ visits perform s calls, P v) {v : Visit ε σ κ ρ}
    (hv : v ∈ visits perform s calls) : I v.before ∧ v = visit perform v.before v.call := by
  induction calls generalizing s with
  | nil => cases hv
  | cons call calls ih =>
    rcases List.mem_cons.mp hv with rfl | hv
    · exact ⟨h, rfl⟩
    · exact ih (hstep s call h (hall _ List.mem_cons_self))
        (fun v hv => hall v (List.mem_cons_of_mem _ hv)) hv

end Foundation
