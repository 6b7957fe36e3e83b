import OperateBench.Boundary.Cap
import OperateBench.Providers.Executor

/-! # The books of a turn

A turn closes its books when no reservation of its own is left on the guard and what it
published has one record for each dispatch, with the reservation and its one settlement.
A call strays when it raises, or returns, what its call site does not provide for.
-/

namespace OperateBench.Providers

open Foundation Boundary

variable {T ρ α : Type}

/-- The call did what its call site provides for. -/
def Called.Tidy : Called T ρ → Prop
  | .clock result => ∃ t, result = .ok t
  | .cancelled result => ∃ b, result = .ok b
  | .slept result => ∃ u, result = .ok u
  | .authorized result => ∀ e, result = .error e → ∃ c m x r, e = .costCapExceeded c m x r
  | .checkedBeforeDispatch result => ∀ e, result = .error e → e = .providerConfiguration
  | .classified result => ∃ v, result = .ok v ∧ v ≠ .foreign
  | .checkedIdentity result => ∀ e, result = .error e → ∃ f d, e = .adapterProvider f d
  | .usageRead result => result ≠ .ok .foreign
  | _ => True

/-- A dispatch with the reservation it was made under and how that was resolved. -/
structure Dispatch where
  reservation : Option Decimal
  resolutions : List AttemptSettlement

/-- What a history says about dispatches, the newest first. -/
structure Trail where
  reserved : Option Decimal := none
  dispatches : List Dispatch := []

namespace Trail

def resolve (trail : Trail) (settlement : AttemptSettlement) : Trail :=
  match trail.dispatches with
  | [] => trail
  | dispatch :: older =>
    { trail with dispatches :=
        { dispatch with resolutions := dispatch.resolutions ++ [settlement] } :: older }

def note (trail : Trail) : Called T ρ → Trail
  | .authorized (.ok reservation) => { trail with reserved := some reservation }
  | .dispatched _ => { trail with dispatches := ⟨trail.reserved, []⟩ :: trail.dispatches }
  | .forfeited (.ok _) => trail.resolve .forfeited
  | .settled (.ok none) => trail.resolve .forfeited
  | .settled (.ok (some _)) => trail.resolve .measured
  | .settled (.error (.reservationBreached ..)) => trail.resolve .measured
  | _ => trail

end Trail

def trail (history : List (Called T ρ)) : Trail := history.foldl Trail.note {}

theorem trail_append (history : List (Called T ρ)) (c : Called T ρ) :
    trail (history ++ [c]) = (trail history).note c := by
  rw [trail, List.foldl_append]
  rfl

/-- The record carries the reservation of the dispatch and its one settlement. -/
def Describes (attempt : ProviderAttempt T) (dispatch : Dispatch) : Prop :=
  attempt.costReservationUsd = dispatch.reservation.map usdText ∧
    dispatch.resolutions = attempt.costSettlement.toList ∧
    (attempt.costSettlement = none ↔ dispatch.reservation = none)

def pendingOf (guard : Option RunCostGuard) : Option (Option (Decimal × ℕ)) :=
  guard.map RunCostGuard.pending

/-- The turn published its own telemetry, one record for each dispatch, and left the guard
with no reservation that it had made. -/
structure Closed (guard : Option RunCostGuard) (s : TurnState T ρ) : Prop where
  released : pendingOf s.guard = pendingOf guard
  published : ∃ telemetry, s.published = some telemetry ∧
    List.Forall₂ Describes telemetry.attempts.reverse (trail s.history).dispatches

namespace TurnState

def note (s : TurnState T ρ) (c : Called T ρ) : TurnState T ρ :=
  { s with history := s.history ++ [c] }

def Tidy (s : TurnState T ρ) : Prop := ∀ c ∈ s.history, c.Tidy

theorem tidy_note {s : TurnState T ρ} {c : Called T ρ} (h : s.Tidy) (hc : c.Tidy) :
    (s.note c).Tidy := by
  intro d hd
  rcases List.mem_append.mp hd with hd | hd
  · exact h d hd
  · exact List.mem_singleton.mp hd ▸ hc

end TurnState

/-- Where a turn leaves: closed with every call tidy, or unpublished after a stray call. -/
def Left (guard : Option RunCostGuard) (s : TurnState T ρ) : Prop :=
  s.Tidy ∧ Closed guard s ∨ s.published = none ∧ ¬s.Tidy

/-- A state in the middle of a turn: unpublished, every call tidy, and the guard and the
dispatches as described. -/
structure Midway (φ : Option RunCostGuard → Trail → Prop) (s : TurnState T ρ) : Prop where
  quiet : s.published = none
  tidy : s.Tidy
  sound : ∀ g ∈ s.guard, g.Sound
  books : φ s.guard (trail s.history)

section Calls

variable {s : TurnState T ρ} {c : Called T ρ} {guard : Option RunCostGuard}
  {φ ψ : Option RunCostGuard → Trail → Prop} {R : Raised → TurnState T ρ → Prop}

namespace Midway

theorem note_with (h : Midway φ s) (hc : c.Tidy) (hψ : ψ s.guard ((trail s.history).note c)) :
    Midway ψ (s.note c) := by
  refine ⟨h.quiet, TurnState.tidy_note h.tidy hc, h.sound, ?_⟩
  change ψ s.guard (trail (s.history ++ [c]))
  rwa [trail_append]

theorem note (h : Midway φ s) (hn : ∀ t : Trail, t.note c = t) (hc : c.Tidy) :
    Midway φ (s.note c) :=
  h.note_with hc (by rw [hn]; exact h.books)

/-- The guard moved on together with the note about it. -/
theorem bank {after : RunCostGuard} (h : Midway φ s) (hs : after.Sound) (hc : c.Tidy)
    (hψ : ψ (some after) ((trail s.history).note c)) :
    Midway ψ (TurnState.note { s with guard := some after } c) := by
  refine ⟨h.quiet, TurnState.tidy_note h.tidy hc, ?_, ?_⟩
  · rintro g ⟨⟩
    exact hs
  · change ψ (some after) (trail (s.history ++ [c]))
    rwa [trail_append]

theorem mono (h : Midway φ s) (hψ : φ s.guard (trail s.history) → ψ s.guard (trail s.history)) :
    Midway ψ s := ⟨h.quiet, h.tidy, h.sound, hψ h.books⟩

theorem measured {usage : Option (AdapterUsage T)} (h : Midway φ s) :
    Midway φ { s with usage } := ⟨h.quiet, h.tidy, h.sound, h.books⟩

/-- A stray call ends an unpublished turn unpublished. -/
theorem stray (h : Midway φ s) (hc : ¬c.Tidy) : Left guard (s.note c) := by
  right
  refine ⟨h.quiet, ?_⟩
  intro ht
  exact hc (ht c (List.mem_append_right _ List.mem_cons_self))

end Midway

namespace Turn

theorem leaves_consult {function : List (Called T ρ) → Except Raised α}
    {called : Except Raised α → Called T ρ} {Q : Except Raised α → TurnState T ρ → Prop} :
    Leaves (consult function called) s Q R ↔
      Q (function s.history) (s.note (called (function s.history))) := by
  unfold consult
  simp only [leaves_bind, leaves_get, leaves_modify, leaves_pure]
  rfl

/-- A call that has to return, and says nothing about the books. -/
structure Plain (called : Except Raised α → Called T ρ) : Prop where
  aside : ∀ (t : Trail) result, t.note (called result) = t
  tidy : ∀ result, (called result).Tidy ↔ ∃ a, result = .ok a

theorem plain_clock : Plain (T := T) (ρ := ρ) .clock := ⟨fun _ _ => rfl, fun _ => Iff.rfl⟩
theorem plain_cancelled : Plain (T := T) (ρ := ρ) .cancelled := ⟨fun _ _ => rfl, fun _ => Iff.rfl⟩
theorem plain_slept : Plain (T := T) (ρ := ρ) .slept := ⟨fun _ _ => rfl, fun _ => Iff.rfl⟩

/-- A plain call keeps the books, or strays out of the turn. -/
theorem leaves_call {function : List (Called T ρ) → Except Raised α}
    {called : Except Raised α → Called T ρ} (h : Midway φ s) (hp : Plain called) :
    Leaves (call function called) s (fun _ t => Midway φ t) (fun _ t => Left guard t) := by
  unfold call
  simp only [leaves_bind, leaves_consult, leaves_raising]
  constructor
  · intro a hr
    exact h.note (fun t => hp.aside t _) ((hp.tidy _).mpr ⟨a, hr⟩)
  · intro e hr
    apply h.stray
    rw [hp.tidy, hr]
    rintro ⟨a, ⟨⟩⟩

theorem leaves_guarded {g : RunCostGuard} {operation : RunCostGuard.Guarded α}
    {called : Except GuardError α → Called T ρ} {Q : Except GuardError α → TurnState T ρ → Prop} :
    Leaves (guarded g operation called) s Q R ↔ Leaves operation g
      (fun a after => Q (.ok a) (TurnState.note { s with guard := some after } (called (.ok a))))
      (fun e after =>
        Q (.error e) (TurnState.note { s with guard := some after } (called (.error e)))) := by
  unfold guarded Leaves
  cases operation g <;> rfl

end Turn

end Calls

section Books

variable (bound : Count) (guard : Option RunCostGuard) (record : List (ProviderAttempt T))
  (reservation : Option Decimal)

/-- Without a guard nothing is ever reserved. -/
def Unguarded (after : Option RunCostGuard) (t : Trail) : Prop := after = none → t.reserved = none

/-- The record has one entry for each dispatch so far, and no reservation is outstanding. -/
structure Even (after : Option RunCostGuard) (t : Trail) : Prop where
  released : pendingOf after = pendingOf guard
  unguarded : Unguarded after t
  recorded : List.Forall₂ Describes record.reverse t.dispatches

/-- The guard holds the reservation that was taken for the bound, if there is a guard. -/
def Holds (after : Option RunCostGuard) : Prop :=
  match after, reservation with
  | none, none => guard = none
  | some g, some d => pendingOf guard = some none ∧ g.reservationFor bound = .ok d ∧
      g.pending = some (d, g.tokenExposure bound)
  | _, _ => False

/-- A reservation was taken for a request that is not dispatched yet. -/
structure Reserved (after : Option RunCostGuard) (t : Trail) : Prop where
  held : Holds bound guard reservation after
  unguarded : Unguarded after t
  reserved : t.reserved = reservation
  recorded : List.Forall₂ Describes record.reverse t.dispatches

/-- The newest dispatch is under way, with its reservation outstanding. -/
structure Outstanding (after : Option RunCostGuard) (t : Trail) : Prop where
  held : Holds bound guard reservation after
  unguarded : Unguarded after t
  recorded : ∃ older, t.dispatches = ⟨reservation, []⟩ :: older ∧
    List.Forall₂ Describes record.reverse older

/-- The newest dispatch is resolved and waits for its record. -/
structure Resolved (settlement : Option AttemptSettlement) (after : Option RunCostGuard)
    (t : Trail) : Prop where
  released : pendingOf after = pendingOf guard
  unguarded : Unguarded after t
  settled : settlement = none ↔ reservation = none
  recorded : ∃ older, t.dispatches = ⟨reservation, settlement.toList⟩ :: older ∧
    List.Forall₂ Describes record.reverse older

variable {bound guard record reservation}

theorem Resolved.even {settlement : Option AttemptSettlement} {after : Option RunCostGuard}
    {t : Trail} {attempt : ProviderAttempt T} (h : Resolved guard record reservation settlement after t)
    (hr : attempt.costReservationUsd = reservation.map usdText)
    (hs : attempt.costSettlement = settlement) : Even guard (record ++ [attempt]) after t := by
  obtain ⟨older, hd, hf⟩ := h.recorded
  refine ⟨h.released, h.unguarded, ?_⟩
  rw [hd, List.reverse_append, List.reverse_singleton, List.singleton_append]
  refine .cons ⟨hr, ?_, ?_⟩ hf
  · rw [hs]
  · rw [hs]
    exact h.settled

end Books

end OperateBench.Providers
