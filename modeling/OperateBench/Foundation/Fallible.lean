import Mathlib.Data.List.Basic

/-! # Computations that may fail

How a successful `Except` computation comes apart: a sequence that returned ran
each of its parts to a value, and a guarded one passed its guard.
-/

namespace Foundation

universe u v w

variable {ε : Type u} {α β : Type v} {γ : Type w}

theorem bind_ok {x : Except ε α} {f : α → Except ε β} {b : β} (h : x >>= f = .ok b) :
    ∃ a, x = .ok a ∧ f a = .ok b := by
  cases x with
  | error e => cases h
  | ok a => exact ⟨a, rfl, h⟩

theorem pure_ok {a b : α} (h : (pure a : Except ε α) = .ok b) : a = b := Except.ok.inj h

theorem map_ok {f : α → β} {x : Except ε α} {b : β} (h : x.map f = .ok b) :
    ∃ a, x = .ok a ∧ f a = b := by
  cases x with
  | error e => cases h
  | ok a => exact ⟨a, rfl, Except.ok.inj h⟩

theorem mapError_ok {ε' : Type*} {f : ε → ε'} {x : Except ε α} {a : α}
    (h : x.mapError f = .ok a) : x = .ok a := by
  cases x with
  | error e => cases h
  | ok b => exact congrArg Except.ok (Except.ok.inj h)

theorem ok_bind (a : α) (f : α → Except ε β) : (Except.ok a >>= f) = f a := rfl

/-- A check of the result that came out true holds of a result there is. -/
theorem ok_of_any {x : Except ε α} {p : α → Bool} (h : x.toOption.any p = true) :
    ∃ a, x = .ok a ∧ p a = true := by
  cases x with
  | error e => cases h
  | ok a => exact ⟨a, rfl, h⟩

/-- A guard that raises when its condition holds was passed. -/
theorem unless_ok {c : Prop} [Decidable c] {e : ε} {x : Except ε α} {a : α}
    (h : (if c then .error e else x) = .ok a) : ¬c ∧ x = .ok a := by
  split at h
  · cases h
  · exact ⟨‹_›, h⟩

/-- A fold that may fail relates its ends by any preorder that its steps respect. -/
theorem foldlM_related {R : β → β → Prop} (hrefl : ∀ b, R b b)
    (htrans : ∀ a b c, R a b → R b c → R a c) {f : β → γ → Except ε β} {l : List γ}
    (hf : ∀ b a b', a ∈ l → f b a = .ok b' → R b b') {b b' : β} (h : l.foldlM f b = .ok b') :
    R b b' := by
  induction l generalizing b with
  | nil => exact pure_ok h ▸ hrefl b
  | cons a l ih =>
    rw [List.foldlM_cons] at h
    obtain ⟨c, hc, h⟩ := bind_ok h
    exact htrans _ c _ (hf b a c List.mem_cons_self hc)
      (ih (fun b a b' ha => hf b a b' (List.mem_cons_of_mem _ ha)) h)

/-- What a traversal returned was computed from the entries. -/
theorem mem_of_mapM {f : γ → Except ε α} {l : List γ} {as : List α} {a : α}
    (h : l.mapM f = .ok as) (ha : a ∈ as) : ∃ c ∈ l, f c = .ok a := by
  induction l generalizing as with
  | nil =>
    obtain rfl := pure_ok (α := List α) h
    cases ha
  | cons c l ih =>
    rw [List.mapM_cons] at h
    obtain ⟨b, hb, h⟩ := bind_ok h
    obtain ⟨rest, hrest, h⟩ := bind_ok h
    obtain rfl := pure_ok (α := List α) h
    rcases List.mem_cons.mp ha with rfl | ha
    · exact ⟨c, List.mem_cons_self, hb⟩
    · obtain ⟨d, hd, hf⟩ := ih hrest ha
      exact ⟨d, List.mem_cons_of_mem c hd, hf⟩

theorem exists_of_mapM {f : γ → Except ε α} {l : List γ} {as : List α} {c : γ}
    (h : l.mapM f = .ok as) (hc : c ∈ l) : ∃ a ∈ as, f c = .ok a := by
  induction l generalizing as with
  | nil => cases hc
  | cons first l ih =>
    rw [List.mapM_cons] at h
    obtain ⟨a, ha, h⟩ := bind_ok h
    obtain ⟨rest, hrest, h⟩ := bind_ok h
    obtain rfl := pure_ok (α := List α) h
    rcases List.mem_cons.mp hc with rfl | hmem
    · exact ⟨a, List.mem_cons_self, ha⟩
    · obtain ⟨b, hb, hfb⟩ := ih hrest hmem
      exact ⟨b, List.mem_cons_of_mem _ hb, hfb⟩

theorem mapM_eq_map {f : γ → Except ε α} {g : γ → α} {l : List γ}
    (h : ∀ c ∈ l, f c = .ok (g c)) : l.mapM f = .ok (l.map g) := by
  induction l with
  | nil => rfl
  | cons c l ih =>
    rw [List.mapM_cons, h c List.mem_cons_self, ih fun b hb => h b (List.mem_cons_of_mem _ hb)]
    rfl

/-- What is known of each result from its input is known of the list of them. -/
theorem map_of_mapM {β' : Type w} {f : γ → Except ε α} {g : α → β'} {k : γ → β'} {l : List γ}
    {as : List α} (h : l.mapM f = .ok as) (hg : ∀ c a, f c = .ok a → g a = k c) :
    as.map g = l.map k := by
  induction l generalizing as with
  | nil =>
    obtain rfl := pure_ok (α := List α) h
    rfl
  | cons c l ih =>
    rw [List.mapM_cons] at h
    obtain ⟨a, ha, h⟩ := bind_ok h
    obtain ⟨rest, hrest, h⟩ := bind_ok h
    obtain rfl := pure_ok (α := List α) h
    rw [List.map_cons, List.map_cons, hg c a ha, ih hrest]

section Checks

/-- The checks one after the other, up to the first that fails. -/
def inOrder : List (Except ε Unit) → Except ε Unit
  | [] => .ok ()
  | check :: checks =>
    match check with
    | .error e => .error e
    | .ok () => inOrder checks

/-- A check that fails where its condition holds. -/
def refuseIf (c : Prop) [Decidable c] (e : ε) : Except ε Unit := if c then .error e else .ok ()

@[simp] theorem refuseIf_ok {c : Prop} [Decidable c] {e : ε} : refuseIf c e = .ok () ↔ ¬c := by
  unfold refuseIf
  split <;> simp_all

theorem inOrder_ok {checks : List (Except ε Unit)} :
    inOrder checks = .ok () ↔ ∀ check ∈ checks, check = .ok () := by
  induction checks with
  | nil => simp [inOrder]
  | cons check checks ih =>
    cases check with
    | error e => simp [inOrder]
    | ok u => simp [inOrder, ih]

end Checks

section Mirrors

/-- The second computation fails as the first does, or returns its result seen through `f`. -/
def Mirrors (f : α → β) (x : Except ε α) (y : Except ε β) : Prop := y = x.map f

theorem mirrors_ok {f : α → β} (a : α) : Mirrors (ε := ε) f (.ok a) (.ok (f a)) := rfl

theorem mirrors_error {f : α → β} (e : ε) : Mirrors f (.error e) (.error e) := rfl

theorem Mirrors.ite {f : α → β} {c : Prop} [Decidable c] {x x' : Except ε α} {y y' : Except ε β}
    (h : c → Mirrors f x y) (h' : ¬c → Mirrors f x' y') :
    Mirrors f (if c then x else x') (if c then y else y') := by
  by_cases hc : c
  · simpa only [if_pos hc] using h hc
  · simpa only [if_neg hc] using h' hc

theorem Mirrors.bind {α' β' : Type v} {f : α → β} {g : α' → β'} {x : Except ε α} {y : Except ε β}
    {k : α → Except ε α'} {k' : β → Except ε β'} (h : Mirrors f x y)
    (hk : ∀ a, Mirrors g (k a) (k' (f a))) : Mirrors g (x >>= k) (y >>= k') := by
  rw [Mirrors] at h
  subst h
  cases x with
  | error e => rfl
  | ok a => exact hk a

/-- Both sides start with the same computation. -/
theorem Mirrors.bind_same {α' β' : Type v} {g : α' → β'} {x : Except ε α}
    {k : α → Except ε α'} {k' : α → Except ε β'} (hk : ∀ a, Mirrors g (k a) (k' a)) :
    Mirrors g (x >>= k) (x >>= k') := by
  cases x with
  | error e => rfl
  | ok a => exact hk a

end Mirrors

end Foundation
