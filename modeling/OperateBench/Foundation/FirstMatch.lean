import Mathlib.Data.List.Perm.Basic

/-! # First matches

Items wait for occasions, and an item is taken by the first occasion that it awaits. What is taken
along a list of occasions, and what still waits behind it.
-/

namespace Foundation

variable {α β : Type*} (awaits : α → β → Bool)

/-- The items that none of the occasions took. -/
def waiting (items : List α) (os : List β) : List α :=
  items.filter fun a => os.all fun o => !awaits a o

/-- Each item that was taken with the occasion that took it, in the order of the occasions. -/
def firings : List α → List β → List (α × β)
  | _, [] => []
  | items, o :: os =>
    (items.filter (awaits · o)).map (·, o) ++ firings (items.filter fun a => !awaits a o) os

variable {awaits} {items : List α} {os : List β} {a : α} {o : β}

@[simp] theorem waiting_nil : waiting awaits items [] = items := by
  simp [waiting]

theorem waiting_cons :
    waiting awaits items (o :: os) = waiting awaits (items.filter fun a => !awaits a o) os := by
  simp only [waiting, List.filter_filter, List.all_cons]
  exact List.filter_congr fun a _ => Bool.and_comm _ _

theorem waiting_append :
    waiting awaits items (os ++ [o]) = (waiting awaits items os).filter fun a => !awaits a o := by
  simp only [waiting, List.filter_filter, List.all_append, List.all_cons, List.all_nil,
    Bool.and_true]
  exact List.filter_congr fun a _ => Bool.and_comm _ _

/-- One more occasion takes what still waits for it. -/
theorem firings_append : firings awaits items (os ++ [o]) =
    firings awaits items os ++ ((waiting awaits items os).filter (awaits · o)).map (·, o) := by
  induction os generalizing items with
  | nil => simp [firings]
  | cons first os ih =>
    rw [List.cons_append, firings, firings, ih, waiting_cons, List.append_assoc]

/-- An item is taken by the first occasion that it awaits, and by no other. -/
theorem mem_firings : (a, o) ∈ firings awaits items os ↔ a ∈ items ∧
    ∃ before after, os = before ++ o :: after ∧ awaits a o = true ∧
      ∀ earlier ∈ before, awaits a earlier = false := by
  induction os generalizing items with
  | nil =>
    constructor
    · rintro ⟨⟩
    · rintro ⟨-, before, after, hsplit, -⟩
      exact absurd hsplit.symm (by simp)
  | cons first os ih =>
    rw [firings, List.mem_append, ih]
    constructor
    · rintro (htaken | ⟨hm, before, after, rfl, hawaits, hbefore⟩)
      · obtain ⟨b, hb, heq⟩ := List.mem_map.mp htaken
        obtain ⟨rfl, rfl⟩ := Prod.mk.inj heq
        obtain ⟨hm, hawaits⟩ := List.mem_filter.mp hb
        exact ⟨hm, [], os, rfl, hawaits, nofun⟩
      · obtain ⟨hm, hfirst⟩ := List.mem_filter.mp hm
        refine ⟨hm, first :: before, after, rfl, hawaits, ?_⟩
        exact List.forall_mem_cons.mpr ⟨by simpa using hfirst, hbefore⟩
    · rintro ⟨hm, before, after, hsplit, hawaits, hbefore⟩
      cases before with
      | nil =>
        obtain ⟨rfl, rfl⟩ := List.cons.inj hsplit
        exact Or.inl (List.mem_map.mpr ⟨a, List.mem_filter.mpr ⟨hm, hawaits⟩, rfl⟩)
      | cons earlier before =>
        obtain ⟨rfl, rfl⟩ := List.cons.inj hsplit
        obtain ⟨hfirst, hbefore⟩ := List.forall_mem_cons.mp hbefore
        refine Or.inr ⟨List.mem_filter.mpr ⟨hm, by simpa using hfirst⟩, before, after, rfl, hawaits,
          hbefore⟩

/-- Every item is taken once or still waits. -/
theorem firings_perm :
    ((firings awaits items os).map Prod.fst ++ waiting awaits items os).Perm items := by
  induction os generalizing items with
  | nil => simp [firings]
  | cons first os ih =>
    rw [firings, waiting_cons, List.map_append, List.append_assoc, List.map_map]
    have htaken : (items.filter (awaits · first)).map (Prod.fst ∘ (·, first)) =
        items.filter (awaits · first) := List.map_id _
    rw [htaken]
    exact (List.Perm.append_left _ ih).trans (List.filter_append_perm _ _)

end Foundation
