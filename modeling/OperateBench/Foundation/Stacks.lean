import Mathlib.Data.List.Perm.Basic
import Mathlib.Tactic.Common

/-! # Stacks under keys

A dictionary of stacks in which keys that name the same thing share a stack. What it holds is a bag
of named things: a push adds one to it, a pop takes one out.
-/

namespace Foundation

variable {κ α ν : Type*}

abbrev Stacks (κ α : Type*) := List (κ × List α)

namespace Stacks

section Operations

variable (same : κ → κ → Bool) (k : κ)

def push (a : α) : Stacks κ α → Stacks κ α
  | [] => [(k, [a])]
  | (j, as) :: s => if same j k then (j, as ++ [a]) :: s else (j, as) :: push a s

/-- The thing that was pushed last under the key. -/
def top? : Stacks κ α → Option α
  | [] => none
  | (j, as) :: s => if same j k then as.getLast? else top? s

/-- A stack that is empty loses its key. -/
def pop : Stacks κ α → Stacks κ α
  | [] => []
  | (j, as) :: s =>
    if same j k then
      if as.dropLast.isEmpty then s else (j, as.dropLast) :: s
    else (j, as) :: pop s

/-- The names of what is held, one for each thing. -/
def held (name : κ → ν) (s : Stacks κ α) : List ν := s.flatMap fun e => e.2.map fun _ => name e.1

end Operations

variable {same : κ → κ → Bool} {name : κ → ν} {k : κ} {a : α} {s : Stacks κ α}

theorem held_cons {e : κ × List α} :
    held name (e :: s) = e.2.map (fun _ => name e.1) ++ held name s := List.flatMap_cons

theorem held_push (hname : ∀ j k, same j k = true → name j = name k) :
    (held name (push same k a s)).Perm (name k :: held name s) := by
  induction s with
  | nil => exact List.Perm.refl _
  | cons e s ih =>
    obtain ⟨j, as⟩ := e
    rw [push]
    split
    · rename_i hj
      rw [held_cons, held_cons]
      simp only [List.map_append, List.map_cons, List.map_nil, hname j k hj, List.append_assoc]
      exact List.perm_middle
    · rw [held_cons, held_cons]
      exact (ih.append_left _).trans List.perm_middle

theorem held_pop (hname : ∀ j k, same j k = true → name j = name k)
    (h : top? same k s = some a) :
    (held name s).Perm (name k :: held name (pop same k s)) := by
  induction s with
  | nil => cases h
  | cons e s ih =>
    obtain ⟨j, as⟩ := e
    rw [top?] at h
    rw [pop]
    split at h
    · rename_i hj
      have hsplit := List.dropLast_append_getLast? a h
      have hheld : held name ((j, as) :: s) =
          as.dropLast.map (fun _ => name j) ++ name k :: held name s := by
        rw [held_cons]
        conv_lhs => rw [← hsplit]
        simp [hname j k hj]
      rw [if_pos hj, hheld]
      split
      · rename_i hnil
        rw [List.isEmpty_iff.mp hnil]
        exact List.Perm.refl _
      · rw [held_cons]
        exact List.perm_middle
    · rename_i hj
      rw [if_neg hj, held_cons, held_cons]
      exact ((ih h).append_left _).trans List.perm_middle

end Stacks

end Foundation
