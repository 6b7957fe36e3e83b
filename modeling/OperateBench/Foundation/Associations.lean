import Mathlib.Algebra.BigOperators.Group.List.Basic
import Mathlib.Algebra.Free
import Mathlib.Data.List.Infix

/-! # Sums in any association

An addition that may round or fail, applied along the ways in which a list of terms can be
bracketed. None of them rounds exactly when the sum of every stretch of the list fits.
-/

namespace Foundation.Association

variable {ε α M : Type*} [AddMonoid M]

section Evaluation

variable (add : α → α → Except ε α) (value : α → M)

/-- The terms, from left to right. -/
def leaves : FreeMagma α → List α
  | .of a => [a]
  | .mul l r => leaves l ++ leaves r

def evaluate : FreeMagma α → Except ε α
  | .of a => .ok a
  | .mul l r => do
    let a ← evaluate l
    let b ← evaluate r
    add a b

/-- No sum on the way is rounded. -/
def Exactly : FreeMagma α → Prop
  | .of _ => True
  | .mul l r => Exactly l ∧ Exactly r ∧ ∀ a b, evaluate add l = .ok a → evaluate add r = .ok b →
      ∃ c, add a b = .ok c ∧ value c = value a + value b

/-- A tree among more terms, those before it and those after it taken one by one. -/
def attach (before after : List α) (t : FreeMagma α) : FreeMagma α :=
  before.foldr (fun a t => .mul (.of a) t) (after.foldl (fun t a => .mul t (.of a)) t)

end Evaluation

variable {add : α → α → Except ε α} {value : α → M} {t : FreeMagma α} {l : List α}

theorem leaves_ne_nil : leaves t ≠ [] := by
  induction t with
  | ih1 a => exact List.cons_ne_nil a []
  | ih2 l r ihl _ => exact List.append_ne_nil_of_left_ne_nil ihl _

theorem leaves_attach (before after : List α) :
    leaves (attach before after t) = before ++ (leaves t ++ after) := by
  induction before with
  | nil =>
    induction after generalizing t with
    | nil => exact (List.append_nil _).symm
    | cons a after ih =>
      have hstep := ih (t := .mul t (.of a))
      rw [leaves, leaves, List.nil_append, List.append_assoc] at hstep
      exact hstep
  | cons a before ih => exact congrArg (a :: ·) ih

theorem exactly_of_attach {before after : List α}
    (h : Exactly add value (attach before after t)) : Exactly add value t := by
  induction before with
  | nil =>
    induction after generalizing t with
    | nil => exact h
    | cons a after ih => exact (ih (t := .mul t (.of a)) h).1
  | cons a before ih => exact ih h.2.1

theorem exists_leaves (hl : l ≠ []) : ∃ t : FreeMagma α, leaves t = l := by
  cases l with
  | nil => exact absurd rfl hl
  | cons a l => exact ⟨attach [] l (.of a), leaves_attach [] l⟩

theorem exactly_evaluate (h : Exactly add value t) :
    ∃ a, evaluate add t = .ok a ∧ value a = ((leaves t).map value).sum := by
  induction t with
  | ih1 a => exact ⟨a, rfl, by simp [leaves]⟩
  | ih2 l r ihl ihr =>
    obtain ⟨hl, hr, hnode⟩ := h
    obtain ⟨a, ha, hav⟩ := ihl hl
    obtain ⟨b, hb, hbv⟩ := ihr hr
    obtain ⟨c, hc, hcv⟩ := hnode a b ha hb
    refine ⟨c, ?_, ?_⟩
    · change (do
        let a ← evaluate add l
        let b ← evaluate add r
        add a b) = _
      rw [ha, hb]
      exact hc
    · change value c = ((leaves l ++ leaves r).map value).sum
      rw [List.map_append, List.sum_append, hcv, hav, hbv]

variable {fits : M → Prop}

theorem two_le_length (l r : FreeMagma α) : 2 ≤ (leaves l ++ leaves r).length := by
  have hl := List.length_pos_iff.mpr (leaves_ne_nil (t := l))
  have hr := List.length_pos_iff.mpr (leaves_ne_nil (t := r))
  rw [List.length_append]
  omega

theorem exactly_of_fits (hadd : ∀ a b, fits (value a + value b) →
      ∃ c, add a b = .ok c ∧ value c = value a + value b)
    (h : ∀ m, m <:+: l → 2 ≤ m.length → fits (m.map value).sum) (ht : leaves t <:+: l) :
    Exactly add value t := by
  induction t with
  | ih1 a => trivial
  | ih2 s r ihs ihr =>
    have hnode : leaves (s * r) = leaves s ++ leaves r := rfl
    rw [hnode] at ht
    have hs := ihs ((List.prefix_append _ _).isInfix.trans ht)
    have hr := ihr ((List.suffix_append _ _).isInfix.trans ht)
    refine ⟨hs, hr, ?_⟩
    intro a b ha hb
    obtain ⟨a', ha', hav⟩ := exactly_evaluate hs
    obtain ⟨b', hb', hbv⟩ := exactly_evaluate hr
    obtain rfl := Except.ok.inj (ha.symm.trans ha')
    obtain rfl := Except.ok.inj (hb.symm.trans hb')
    apply hadd
    rw [hav, hbv, ← List.sum_append, ← List.map_append]
    exact h _ ht (two_le_length s r)

/-- No association rounds exactly when the sum of every stretch of the terms fits. -/
theorem exactly_iff (hadd : ∀ a b, fits (value a + value b) ↔
      ∃ c, add a b = .ok c ∧ value c = value a + value b) :
    (∀ t, leaves t = l → Exactly add value t) ↔
      ∀ m, m <:+: l.map value → 2 ≤ m.length → fits m.sum := by
  constructor
  · rintro h _ hinfix hlength
    obtain ⟨m, ⟨before, after, rfl⟩, rfl⟩ := List.infix_map_iff.mp hinfix
    rcases m with - | ⟨a, - | ⟨b, m⟩⟩
    · simp at hlength
    · simp at hlength
    · obtain ⟨s, hs⟩ := exists_leaves (List.cons_ne_nil b m)
      have hwhole := h (attach before after (.mul (.of a) s)) (by
        rw [leaves_attach, leaves, leaves, hs]
        simp)
      obtain ⟨-, hexact, hnode⟩ := exactly_of_attach hwhole
      obtain ⟨c, hc, hcv⟩ := exactly_evaluate hexact
      have hsum := (hadd a c).mpr (hnode a c rfl hc)
      rwa [hcv, hs, ← List.sum_cons, ← List.map_cons] at hsum
  · intro h t ht
    subst ht
    apply exactly_of_fits (fun a b => (hadd a b).mp) _ List.infix_rfl
    intro m hm hlength
    exact h _ (List.infix_map_iff.mpr ⟨m, hm, rfl⟩) (by rwa [List.length_map])

/-- The terms one after the other. -/
theorem evaluate_attach (start : FreeMagma α) (terms : List α) :
    evaluate add (attach [] terms start) =
      evaluate add start >>= fun a => terms.foldlM add a := by
  induction terms generalizing start with
  | nil => exact (bind_pure (evaluate add start)).symm
  | cons b terms ih =>
    have hstep := ih (.mul start (.of b))
    rw [evaluate, evaluate, bind_assoc] at hstep
    exact hstep

end Foundation.Association
