import Mathlib.Tactic.Linarith
import OperateBench.Providers.Deadlines
import OperateBench.Providers.TurnRecords

/-! # Turns that follow a script

For every sequence of attempts and reason that the reader accepts, a clock, a guard, a deadline,
a provider and a classification under which a turn leaves just that.
-/

namespace OperateBench.Providers

open Foundation Boundary

/-- What an integration requires of its retry policy. -/
structure ProviderRetryPolicy.Checked (policy : ProviderRetryPolicy ℚ) : Prop where
  attempts : 1 ≤ policy.maxAttempts
  backoff : 0 ≤ policy.initialBackoffSeconds
  multiplier : 1 ≤ policy.backoffMultiplier

/-- A guard with so many authorisations to give, and what it raises when they are spent. -/
structure ScriptedGuard where
  allowed : ℕ
  refusal : GuardError

instance : CostGuard ScriptedGuard where
  authorize _ guard :=
    match guard.allowed with
    | 0 => .error guard.refusal guard
    | allowed + 1 => .ok 0 { guard with allowed }
  settle _ _ _ := pure none
  cancel _ _ := pure ()
  forfeit _ := pure ()

/-- What may stop a turn that could have gone on. -/
def turnEndEarly : List (Option TurnEnd) :=
  [some .backoffUnaffordable, some .costCapExhausted, some .deadlineExceeded,
    some .preDispatchRefused]

/-- Attempts to be made, and what is to stop the turn behind them. -/
structure Script where
  policy : ProviderRetryPolicy ℚ
  rows : List AttemptRow
  ending : Option TurnEnd

namespace Script

variable (script : Script)

/-- All attempts of the script were made, and it ends for this reason. -/
def stops (ending : Option TurnEnd) (history : List (Called ℚ Unit)) : Bool :=
  script.ending = ending ∧ dispatches history = script.rows.length

/-- More time than any wait of the script takes. -/
def budget : ℚ :=
  1 + script.policy.initialBackoffSeconds * script.policy.backoffMultiplier ^ script.rows.length

def clock (history : List (Called ℚ Unit)) : ℚ :=
  if script.stops (some .backoffUnaffordable) history then script.budget else 0

def dispatch (history : List (Called ℚ Unit)) : Except Raised Unit :=
  match script.rows[dispatches history]? with
  | some ⟨.response, _⟩ => .ok ()
  | _ => .error (.other "ProviderError")

def classify (history : List (Called ℚ Unit)) : Verdict :=
  match script.rows[dispatches history - 1]? with
  | some ⟨.fault, some fault⟩ => .fault ⟨fault, none, false⟩
  | _ => .unrecognised

def turn : Turn ℚ Unit where
  time := ⟨0, (· - ·), (· * ·), (· ≤ ·)⟩
  retry := script.policy
  deadline := ⟨script.budget, none⟩
  tokenBound := .whole 1
  callbacks :=
    { clock := fun history => .ok (script.clock history)
      sleep := fun _ _ => .ok ()
      cancelled := fun history => .ok (script.stops (some .deadlineExceeded) history)
      dispatch := fun _ history => script.dispatch history
      checkBeforeDispatch := fun history =>
        if script.stops (some .preDispatchRefused) history then .error .providerConfiguration
        else .ok ()
      classify := fun _ history => .ok (script.classify history)
      checkIdentity := fun _ _ => .ok ()
      usageOf := fun _ _ => .ok (.tokens (.whole 1) (.whole 1)) }

def guard : ScriptedGuard :=
  match script.ending with
  | some .costCapExhausted => ⟨script.rows.length, .costCapExceeded 0 0 0 0⟩
  | none => ⟨script.rows.length, .noneOutstanding⟩
  | _ => ⟨script.rows.length + 1, .noneOutstanding⟩

/-- A state that has published nothing after so many dispatches and authorisations. -/
structure At (dispatched authorized : ℕ) (s : GuardedState ScriptedGuard ℚ Unit) : Prop where
  quiet : s.published = none
  dispatched : dispatches s.history = dispatched
  guard : s.guard = some ⟨script.guard.allowed - authorized, script.guard.refusal⟩

/-- What the script asks for. -/
def Followed (s : GuardedState ScriptedGuard ℚ Unit) : Prop :=
  s.evidence = (script.rows, script.ending.map TurnEnd.text)

variable {script} {s : GuardedState ScriptedGuard ℚ Unit} {k a : ℕ} {c : Called ℚ Unit}
  {record : List (ProviderAttempt ℚ)} {α : Type}

theorem At.note (h : script.At k a s) (hc : c.isDispatch = false) :
    script.At k a { s with history := s.history ++ [c] } := by
  constructor
  · exact h.quiet
  · rw [dispatches_snoc, hc]
    exact h.dispatched
  · exact h.guard

theorem leaves_call {function : List (Called ℚ Unit) → Except Raised α}
    {called : Except Raised α → Called ℚ Unit} {value : α} (h : script.At k a s)
    (hvalue : function s.history = .ok value) (hc : ∀ result, (called result).isDispatch = false) :
    Leaves (Turn.call function called) s (fun got t => got = value ∧ script.At k a t)
      (fun _ _ => False) := by
  unfold Turn.call Turn.consult
  simp only [leaves_bind, leaves_get, leaves_modify, leaves_pure, leaves_raising, hvalue]
  constructor
  · rintro got ⟨⟩
    exact ⟨rfl, h.note (hc _)⟩
  · rintro _ ⟨⟩

theorem leaves_clock (h : script.At k a s) :
    Leaves (Turn.call script.turn.callbacks.clock .clock) s
      (fun now t => now = script.clock s.history ∧ script.At k a t) (fun _ _ => False) :=
  leaves_call h rfl fun _ => rfl

theorem leaves_cancelled (h : script.At k a s) :
    Leaves (Turn.call script.turn.callbacks.cancelled .cancelled) s
      (fun seen t => seen = script.stops (some .deadlineExceeded) s.history ∧ script.At k a t)
      (fun _ _ => False) :=
  leaves_call h rfl fun _ => rfl

theorem leaves_slept {pause : ℚ} (h : script.At k a s) :
    Leaves (Turn.call (script.turn.callbacks.sleep pause) .slept) s
      (fun _ t => script.At k a t) (fun _ _ => False) := by
  have hcall : Leaves (Turn.call (script.turn.callbacks.sleep pause) .slept) s
      (fun got t => got = () ∧ script.At k a t) (fun _ _ => False) :=
    leaves_call h rfl fun _ => rfl
  exact hcall.mono (fun _ _ ht => ht.2) fun _ _ => id

theorem At.stops (h : script.At k a s) {ending : Option TurnEnd} :
    script.stops ending s.history = decide (script.ending = ending ∧ k = script.rows.length) := by
  rw [Script.stops, h.dispatched]

theorem At.clock (h : script.At k a s)
    (hk : ¬(script.ending = some .backoffUnaffordable ∧ k = script.rows.length)) :
    script.clock s.history = 0 := by
  rw [Script.clock, h.stops, if_neg (by simpa using hk)]

theorem leaves_leave {β : Type} {reason : TurnEnd} {started now : ℚ} {error : Raised}
    (hrecord : record.map (·.row) = script.rows) (hending : script.ending = some reason) :
    Leaves (script.turn.leave (α := β) started record now reason error) s (fun _ _ => False)
      (fun _ t => script.Followed t) := by
  unfold Turn.leave Turn.commit
  simp only [leaves_bind, leaves_modify, leaves_throw]
  simp only [Followed, GuardedState.evidence, hrecord, hending, Option.map_some]

/-- The guard authorises as often as the script needs. -/
theorem leaves_authorize {started : ℚ} (h : script.At k k s) (hk : k < script.guard.allowed) :
    Leaves (script.turn.authorize started record) s
      (fun reserved t => reserved = some 0 ∧ script.At k (k + 1) t) (fun _ _ => False) := by
  obtain ⟨left, hleft⟩ : ∃ left, script.guard.allowed - k = left + 1 :=
    ⟨script.guard.allowed - k - 1, by omega⟩
  unfold Turn.authorize
  simp only [leaves_bind, leaves_get, h.guard, hleft]
  unfold Turn.guarded
  simp only [CostGuard.authorize, leaves_bind, leaves_modify, leaves_pure]
  refine ⟨trivial, h.quiet, ?_, ?_⟩
  · rw [dispatches_snoc]
    exact h.dispatched
  · simp only [Option.some.injEq, ScriptedGuard.mk.injEq, and_true]
    omega

theorem leaves_forfeit (h : script.At k a s) :
    Leaves (Turn.forfeit (some 0)) s (fun _ t => script.At k a t) (fun _ _ => False) := by
  unfold Turn.forfeit
  simp only [leaves_bind, leaves_get, h.guard]
  refine ⟨h.quiet, ?_, rfl⟩
  change dispatches (s.history ++ [_]) = k
  rw [dispatches_snoc]
  exact h.dispatched

/-- The guard refuses the authorisation behind the last attempt. -/
theorem leaves_refused {started : ℚ} (h : script.At script.rows.length script.rows.length s)
    (hrecord : record.map (·.row) = script.rows)
    (hending : script.ending = some .costCapExhausted ∨ script.ending = none ∧ script.rows = []) :
    Leaves (script.turn.authorize started record) s (fun _ _ => False)
      (fun _ t => script.Followed t) := by
  have hleft : script.guard.allowed - script.rows.length = 0 := by
    rcases hending with hcap | ⟨hnone, -⟩ <;> simp [guard, *]
  unfold Turn.authorize
  simp only [leaves_bind, leaves_get, h.guard, hleft]
  unfold Turn.guarded
  simp only [CostGuard.authorize, leaves_bind, leaves_modify, leaves_pure]
  rcases hending with hcap | ⟨hnone, hrows⟩
  · simp only [guard, hcap, leaves_bind]
    unfold Turn.call Turn.consult
    simp only [leaves_bind, leaves_get, leaves_modify, leaves_pure, leaves_raising]
    constructor
    · intro now _
      exact (leaves_leave hrecord hcap).mono (fun _ _ => False.elim) fun _ _ => id
    · rintro _ ⟨⟩
  · simp only [guard, hnone, leaves_throw]
    simp only [Followed, GuardedState.evidence, h.quiet, hrows, hnone, Option.map_none]

/-- The last admission refuses behind the last attempt. -/
theorem leaves_admission {reservation : Option Decimal} {started : ℚ} (h : script.At k a s) :
    Leaves (script.turn.admission started record reservation) s
      (fun _ t => script.At k a t ∧
        ¬(script.ending = some .preDispatchRefused ∧ k = script.rows.length))
      (fun _ t => k = script.rows.length ∧
        (record.map (·.row) = script.rows → script.Followed t)) := by
  unfold Turn.admission Turn.consult
  simp only [leaves_bind, leaves_get, leaves_modify, leaves_pure]
  have hcheck : script.turn.callbacks.checkBeforeDispatch s.history =
      if script.stops (some .preDispatchRefused) s.history then .error .providerConfiguration
      else .ok () := rfl
  rw [hcheck, h.stops]
  by_cases hstop : script.ending = some .preDispatchRefused ∧ k = script.rows.length
  · rw [if_pos (by simpa using hstop)]
    simp only [leaves_bind]
    have ht : script.At k a { s with
        history := s.history ++ [.checkedBeforeDispatch (.error .providerConfiguration)] } :=
      h.note rfl
    refine (leaves_clock ht).mono ?_ fun _ _ => False.elim
    rintro now u ⟨-, hu⟩
    unfold Turn.commit Turn.cancel
    simp only [leaves_bind, leaves_modify, leaves_get, hu.guard]
    have hfollowed (guard : Option ScriptedGuard) (history : List (Called ℚ Unit)) {latency : ℚ}
        (hrecord : record.map (·.row) = script.rows) : script.Followed
          { guard, history, usage := u.usage,
            published := some ⟨record, latency, .preDispatchRefused⟩ } := by
      simp only [Followed, GuardedState.evidence, hrecord, hstop.1, Option.map_some]
    cases reservation with
    | none => exact ⟨hstop.2, hfollowed _ _⟩
    | some reserved => exact ⟨hstop.2, hfollowed _ _⟩
  · rw [if_neg (by simpa using hstop)]
    exact ⟨h.note rfl, hstop⟩

/-- The next attempt of the script is dispatched, and ends as its row says. -/
theorem leaves_dispatch {budget : ℚ} (h : script.At k a s) :
    Leaves (Turn.consult (script.turn.callbacks.dispatch budget) .dispatched) s
      (fun result t => result = script.dispatch s.history ∧ script.At (k + 1) a t)
      (fun _ _ => False) := by
  unfold Turn.consult
  simp only [leaves_bind, leaves_get, leaves_modify, leaves_pure]
  refine ⟨rfl, h.quiet, ?_, h.guard⟩
  rw [dispatches_snoc, h.dispatched]
  rfl

variable {before rest : List AttemptRow} {row : AttemptRow} {fault : ProviderFault}
  {attempt : ProviderAttempt ℚ}

theorem At.next (h : script.At before.length a s) (hrows : script.rows = before ++ row :: rest) :
    script.rows[dispatches s.history]? = some row := by
  rw [h.dispatched, hrows]
  simp

theorem At.last (h : script.At (before.length + 1) a s)
    (hrows : script.rows = before ++ row :: rest) :
    script.rows[dispatches s.history - 1]? = some row := by
  rw [h.dispatched, hrows]
  simp

/-- A response ends the turn. -/
theorem leaves_onResponse {attempts : ℕ} {started attemptStarted : ℚ} (h : script.At k a s)
    (hrecord : record.map (·.row) ++ [⟨.response, none⟩] = script.rows)
    (hending : script.ending = some .response) :
    Leaves (script.turn.onResponse started attemptStarted attempts record (some 0) ()) s
      (fun _ t => script.Followed t) (fun _ t => script.Followed t) := by
  unfold Turn.onResponse
  simp only [leaves_bind]
  refine (leaves_clock h).mono ?_ fun _ _ => False.elim
  rintro now t ⟨-, ht⟩
  have hidentity : script.turn.callbacks.checkIdentity = fun _ _ => .ok () := rfl
  have husage : script.turn.callbacks.usageOf =
      fun _ _ => .ok (.tokens (.whole 1) (.whole 1)) := rfl
  unfold Turn.consult
  simp only [leaves_bind, leaves_get, leaves_modify, leaves_pure, hidentity, husage]
  unfold Turn.recordUsage Turn.settleUsage Turn.commit
  simp only [leaves_bind, leaves_get, leaves_modify, leaves_pure, ht.guard]
  have hmeasurable : (Usage.tokens (.whole 1) (.whole 1)).measurable = true := by decide
  rw [if_pos hmeasurable]
  simp only [leaves_bind]
  have hfollowed {guard history usage latency} {attempt : ProviderAttempt ℚ}
      (hattempt : attempt.row = ⟨.response, none⟩) : script.Followed
        { guard, history, usage,
          published := some ⟨record ++ [attempt], latency, .response⟩ } := by
    simp only [Followed, GuardedState.evidence, List.map_append, List.map_singleton, hattempt,
      hrecord, hending, Option.map_some]
  exact hfollowed rfl

/-- A failed dispatch is recorded as its row says, before the turn decides how to go on. -/
theorem leaves_onFailure {attempts : ℕ} {started attemptStarted wait : ℚ} {exception : Raised}
    {Q : ℚ × List (ProviderAttempt ℚ) → GuardedState ScriptedGuard ℚ Unit → Prop}
    {R : Raised → GuardedState ScriptedGuard ℚ Unit → Prop}
    (h : script.At (before.length + 1) a s) (hrows : script.rows = before ++ row :: rest)
    (hrow : row = ⟨.fault, some fault⟩)
    (hfault : ∀ attempt now t, attempt.row = row → script.At (before.length + 1) a t →
      Leaves (script.turn.onFault started 0 now wait attempts (record ++ [attempt])
        ⟨fault, none, false⟩) t (fun next u => Q (next, record ++ [attempt]) u) R) :
    Leaves (script.turn.onFailure started 0 attemptStarted wait attempts record (some 0) exception)
      s Q R := by
  unfold Turn.onFailure
  simp only [leaves_bind]
  refine (leaves_clock h).mono ?_ fun _ _ => False.elim
  rintro now t ⟨-, ht⟩
  refine (leaves_forfeit ht).mono ?_ fun _ _ => False.elim
  intro _ u hu
  unfold Turn.consult
  have hclassify : script.turn.callbacks.classify exception u.history =
      .ok (.fault ⟨fault, none, false⟩) := by
    change Except.ok (script.classify u.history) = _
    rw [classify, hu.last hrows, hrow]
  simp only [leaves_bind, leaves_get, leaves_modify, leaves_pure, hclassify]
  exact hfault _ _ _ hrow.symm (hu.note rfl)

/-- The reader accepts the script. -/
def Accepted (script : Script) : Prop :=
  checkTurnSequence script.rows (script.ending.map TurnEnd.text) script.policy.maxAttempts =
    .ok (script.ending.map TurnEnd.text)

theorem leaves_unclassified {attempts : ℕ} {started attemptStarted wait : ℚ} {exception : Raised}
    (h : script.At (before.length + 1) a s)
    (hrows : script.rows = before ++ [⟨.unclassified, none⟩])
    (hrecord : record.map (·.row) = before) (hending : script.ending = some .unclassified) :
    Leaves (script.turn.onFailure started 0 attemptStarted wait attempts record (some 0) exception)
      s (fun _ _ => False) (fun _ t => script.Followed t) := by
  unfold Turn.onFailure
  simp only [leaves_bind]
  refine (leaves_clock h).mono ?_ fun _ _ => False.elim
  rintro now t ⟨-, ht⟩
  refine (leaves_forfeit ht).mono ?_ fun _ _ => False.elim
  intro _ u hu
  unfold Turn.consult
  have hclassify : script.turn.callbacks.classify exception u.history = .ok .unrecognised := by
    change Except.ok (script.classify u.history) = _
    rw [classify, hu.last hrows]
  simp only [leaves_bind, leaves_get, leaves_modify, leaves_pure, hclassify]
  refine (leaves_leave ?_ hending).mono (fun _ _ => False.elim) fun _ _ => id
  rw [List.map_append, hrecord, hrows]
  rfl

/-- Behind a fault that may be retried the turn waits and goes on, unless the script ends there. -/
theorem leaves_onFault {started wait : ℚ} {now : ℚ}
    (h : script.At (before.length + 1) a s) (hrows : script.rows = before ++ row :: rest)
    (hrecord : record.map (·.row) = before ++ [row])
    (hretryable : fault.retryable = true)
    (hmore : ((before.length + 1 : ℕ) : ℤ) < script.policy.maxAttempts)
    (hwait : 0 ≤ wait ∧ wait < script.budget)
    (hending : rest = [] → script.ending ∈ turnEndEarly) :
    Leaves (script.turn.onFault started 0 now wait (before.length + 1) record
        ⟨fault, none, false⟩) s
      (fun next t => next = wait * script.policy.backoffMultiplier ∧
        script.At (before.length + 1) a t ∧
        (rest = [] → script.ending = some .costCapExhausted ∨
          script.ending = some .preDispatchRefused))
      (fun _ t => script.Followed t) := by
  have hlast : before.length + 1 = script.rows.length ↔ rest = [] := by
    rw [hrows, List.length_append, List.length_cons]
    constructor
    · exact fun hlength => List.length_eq_zero_iff.mp (by omega)
    · rintro rfl
      rfl
  have hleave {reason : TurnEnd} {error : Raised} {t : GuardedState ScriptedGuard ℚ Unit} {Q}
      (hreason : script.ending = some reason) (hrest : rest = []) :
      Leaves (script.turn.leave (α := ℚ) started record now reason error) t Q
        (fun _ u => script.Followed u) := by
    refine (leaves_leave ?_ hreason).mono (fun _ _ => False.elim) fun _ _ => id
    rw [hrecord, hrows, hrest]
  have hpolicy : script.turn.retry = script.policy := rfl
  unfold Turn.onFault
  rw [if_neg (by simp [hretryable]), hpolicy, if_neg (not_le.mpr hmore)]
  simp only [leaves_bind]
  refine (leaves_cancelled h).mono ?_ fun _ _ => False.elim
  rintro seen t ⟨hseen, ht⟩
  rw [h.stops] at hseen
  unfold Turn.abandons
  cases seen with
  | true =>
    obtain ⟨hdeadline, hrest⟩ := of_decide_eq_true hseen.symm
    simp only [if_true, leaves_pure]
    exact hleave hdeadline (hlast.mp hrest)
  | false =>
    have hdeadline := of_decide_eq_false hseen.symm
    rw [hlast] at hdeadline
    simp only [Bool.false_eq_true, if_false, leaves_bind]
    refine (leaves_clock ht).mono ?_ fun _ _ => False.elim
    rintro later u ⟨rfl, hu⟩
    rw [leaves_pure]
    by_cases hbackoff : script.ending = some .backoffUnaffordable ∧ rest = []
    · have hclock : script.clock t.history = script.budget := by
        rw [Script.clock, ht.stops, if_pos (by simpa [hlast] using hbackoff)]
      rw [hclock, if_pos (by simpa [turn] using hwait.1)]
      exact hleave hbackoff.1 hbackoff.2
    · have hclock : script.clock t.history = 0 := ht.clock (by rwa [hlast])
      rw [hclock, if_neg (by simpa [turn] using hwait.2)]
      simp only [leaves_bind]
      refine (leaves_slept hu).mono ?_ fun _ _ => False.elim
      intro _ v hv
      refine ⟨rfl, hv, fun hrest => ?_⟩
      have hearly := hending hrest
      simp only [turnEndEarly, List.mem_cons, List.not_mem_nil, or_false] at hearly
      tauto

theorem leaves_expired {left : ℚ} (h : script.At k a s) (hleft : 0 < left) :
    Leaves (script.turn.expired left) s
      (fun expired t => expired = script.stops (some .deadlineExceeded) s.history ∧
        script.At k a t) (fun _ _ => False) := by
  unfold Turn.expired
  rw [if_neg (by simpa [turn] using hleft)]
  exact leaves_cancelled h

/-- Where a turn is in its script, before the next attempt. -/
structure Place (script : Script) (before rest : List AttemptRow)
    (record : List (ProviderAttempt ℚ)) (wait : ℚ) : Prop where
  rows : script.rows = before ++ rest
  record : record.map (·.row) = before
  wait : wait = script.policy.initialBackoffSeconds *
    script.policy.backoffMultiplier ^ before.length
  stops : rest = [] → script.ending = some .costCapExhausted ∨
    script.ending = some .preDispatchRefused ∨
      script.rows = [] ∧ (script.ending = none ∨ script.ending = some .deadlineExceeded)

theorem Place.wait_bounds {wait : ℚ} (hplace : Place script before rest record wait)
    (hpolicy : script.policy.Checked) : 0 ≤ wait ∧ wait < script.budget := by
  have hlength : before.length ≤ script.rows.length := by simp [hplace.rows]
  have hgrows := pow_le_pow_right₀ hpolicy.multiplier hlength
  have hscaled := mul_le_mul_of_nonneg_left hgrows hpolicy.backoff
  rw [hplace.wait]
  constructor
  · exact mul_nonneg hpolicy.backoff (pow_nonneg (zero_le_one.trans hpolicy.multiplier) _)
  · unfold budget
    linarith

/-- Behind its last attempt the turn ends for the reason that the script gives. -/
theorem leaves_end {fuel : ℕ} {wait : ℚ} (h : script.At before.length before.length s)
    (hpolicy : script.policy.Checked) (hplace : Place script before [] record wait) :
    Leaves (script.turn.loop 0 0 (fuel + 1) wait before.length record) s
      (fun _ t => script.Followed t) (fun _ t => script.Followed t) := by
  have hrows : script.rows = before := by rw [hplace.rows, List.append_nil]
  have hrecord : record.map (·.row) = script.rows := hplace.record.trans hrows.symm
  have hstops := hplace.stops rfl
  have hclock : script.clock s.history = 0 := by
    apply h.clock
    rintro ⟨hbackoff, -⟩
    simp [hbackoff] at hstops
  have hbudget : 0 < script.budget := (hplace.wait_bounds hpolicy).1.trans_lt
    (hplace.wait_bounds hpolicy).2
  unfold Turn.loop
  simp only [leaves_bind]
  refine (leaves_clock h).mono ?_ fun _ _ => False.elim
  rintro now t ⟨rfl, ht⟩
  rw [hclock]
  refine (leaves_expired ht (by simpa [turn] using hbudget)).mono ?_ fun _ _ => False.elim
  rintro expired u ⟨hexpired, hu⟩
  rw [ht.stops, hrows] at hexpired
  cases expired with
  | true =>
    have hdeadline := (of_decide_eq_true hexpired.symm).1
    simp only [if_true]
    exact (leaves_leave hrecord hdeadline).mono (fun _ _ => False.elim) fun _ _ => id
  | false =>
    have hdeadline := of_decide_eq_false hexpired.symm
    simp only [Bool.false_eq_true, if_false, leaves_bind]
    by_cases hpre : script.ending = some .preDispatchRefused
    · have hk : before.length < script.guard.allowed := by simp [guard, hpre, hrows]
      refine (leaves_authorize hu hk).mono ?_ fun _ _ => False.elim
      rintro _ v ⟨rfl, hv⟩
      refine (leaves_admission hv).mono ?_ fun _ _ hleft => hleft.2 hrecord
      rintro _ w ⟨-, hw⟩
      exact absurd ⟨hpre, by rw [hrows]⟩ hw
    · rw [← hrows] at hu
      refine (leaves_refused hu hrecord ?_).mono (fun _ _ => False.elim) fun _ _ => id
      simp only [and_true] at hdeadline
      tauto

/-- What the script ends for behind its last attempt. -/
theorem Accepted.ends (haccepted : script.Accepted) (hrows : script.rows = before ++ [row]) :
    script.ending.map TurnEnd.text ∈ permittedTerminalReasons (before ++ [row])
      script.policy.maxAttempts := by
  have hpermitted := (checkTurnSequence_iff.mp haccepted).2.2
  rwa [hrows] at hpermitted

theorem ending_of_text {ending : Option TurnEnd} {reason : TurnEnd}
    (h : ending.map TurnEnd.text = some reason.text) : ending = some reason := by
  cases ending with
  | none => cases h
  | some other => rw [TurnEnd.text_injective (Option.some.inj h)]

theorem early_of_text {ending : Option TurnEnd}
    (h : ending.map TurnEnd.text ∈ turnEndEarlyReasonsV7.map some) : ending ∈ turnEndEarly := by
  cases ending with
  | none => simp [turnEndEarlyReasonsV7] at h
  | some reason => cases reason <;> revert h <;> decide

/-- An attempt that another one follows ended in a fault that may be retried. -/
theorem Accepted.follows (haccepted : script.Accepted) (hrows : script.rows = before ++ row :: rest)
    (hrow : row.repeats = false) : rest = [] := by
  by_contra hrest
  have hrepeats := (checkTurnSequence_iff.mp haccepted).1 row (by
    rw [hrows, List.dropLast_append_of_ne_nil (by simp), List.dropLast_cons_of_ne_nil hrest]
    simp)
  rw [hrow] at hrepeats
  cases hrepeats

/-- Behind a fault the turn is at the next place of the script, or ended as the script does. -/
theorem leaves_fault {now wait : ℚ} (h : script.At (before.length + 1) a s)
    (hpolicy : script.policy.Checked) (haccepted : script.Accepted)
    (hplace : Place script before (⟨.fault, some fault⟩ :: rest) record wait)
    (hattempt : attempt.row = ⟨.fault, some fault⟩) :
    Leaves (script.turn.onFault 0 0 now wait (before.length + 1) (record ++ [attempt])
        ⟨fault, none, false⟩) s
      (fun next t => Place script (before ++ [⟨.fault, some fault⟩]) rest (record ++ [attempt])
        next ∧ script.At (before.length + 1) a t) (fun _ t => script.Followed t) := by
  have hrows := hplace.rows
  have hrecord : (record ++ [attempt]).map (·.row) = before ++ [⟨.fault, some fault⟩] := by
    rw [List.map_append, hplace.record, List.map_singleton, hattempt]
  have hrow : AttemptRow.repeats ⟨.fault, some fault⟩ = fault.retryable := by
    simp [AttemptRow.repeats, faultRetryable_eq]
  have hmax := (checkTurnSequence_iff.mp haccepted).2.1
  rw [hrows, List.length_append, List.length_cons] at hmax
  have hleave {reason : TurnEnd} {error : Raised} {Q} (hrest : rest = [])
      (hreason : script.ending.map TurnEnd.text = some reason.text) :
      Leaves (script.turn.leave (α := ℚ) 0 (record ++ [attempt]) now reason error) s Q
        (fun _ u => script.Followed u) := by
    refine (leaves_leave ?_ (ending_of_text hreason)).mono (fun _ _ => False.elim) fun _ _ => id
    rw [hrecord, hrows, hrest]
  have hends (hrest : rest = []) : script.ending.map TurnEnd.text ∈
      if !fault.retryable then [some "fault_not_retryable"]
      else if (before.length : ℤ) + 1 = script.policy.maxAttempts then [some "retries_exhausted"]
      else turnEndEarlyReasonsV7.map some := by
    have hpermitted := haccepted.ends (hrest ▸ hrows)
    rw [permitted_snoc, if_neg (by simp), if_neg (by simp), faultRetryable_eq,
      List.length_append] at hpermitted
    exact_mod_cast hpermitted
  have hretry : script.turn.retry = script.policy := rfl
  by_cases hretryable : fault.retryable = true
  · by_cases hmore : ((before.length + 1 : ℕ) : ℤ) < script.policy.maxAttempts
    · refine (leaves_onFault h hrows hrecord hretryable hmore (hplace.wait_bounds hpolicy)
        ?_).mono ?_ fun _ _ => id
      · intro hrest
        have hearly := hends hrest
        rw [if_neg (by simp [hretryable]), if_neg (by push_cast at hmore; omega)] at hearly
        exact early_of_text hearly
      · rintro next t ⟨rfl, ht, hstops⟩
        refine ⟨⟨by rw [hrows]; simp, hrecord, ?_, ?_⟩, ht⟩
        · rw [hplace.wait, List.length_append, List.length_singleton, pow_succ, mul_assoc]
        · intro hrest
          exact (hstops hrest).imp_right .inl
    · have hrest : rest = [] := List.length_eq_zero_iff.mp (by push_cast at hmore hmax; omega)
      have hspent := hends hrest
      rw [if_neg (by simp [hretryable]), if_pos (by push_cast at hmore hmax; omega),
        List.mem_singleton] at hspent
      unfold Turn.onFault
      rw [if_neg (by simp [hretryable]), hretry, if_pos (not_lt.mp hmore)]
      exact hleave hrest hspent
  · have hrest := haccepted.follows hrows (by rw [hrow]; simpa using hretryable)
    have hfinal := hends hrest
    rw [if_pos (by simpa using hretryable), List.mem_singleton] at hfinal
    unfold Turn.onFault
    rw [if_pos (by simpa using hretryable)]
    exact hleave hrest hfinal

theorem leaves_loop {fuel : ℕ} {wait : ℚ} (h : script.At before.length before.length s)
    (hpolicy : script.policy.Checked) (hnamed : ∀ row ∈ script.rows, row.Named)
    (haccepted : script.Accepted) (hplace : Place script before rest record wait)
    (hfuel : rest.length < fuel) :
    Leaves (script.turn.loop 0 0 fuel wait before.length record) s
      (fun _ t => script.Followed t) (fun _ t => script.Followed t) := by
  obtain ⟨hrepeats, hmax, -⟩ := checkTurnSequence_iff.mp haccepted
  induction rest generalizing before record s wait fuel with
  | nil =>
    obtain ⟨fuel, rfl⟩ := Nat.exists_eq_add_one.mpr hfuel
    exact leaves_end h hpolicy hplace
  | cons row rest ih =>
    obtain ⟨fuel, rfl⟩ := Nat.exists_eq_add_one.mpr (Nat.zero_lt_of_lt hfuel)
    have hrows := hplace.rows
    have hk : before.length < script.rows.length := by simp [hrows]
    have hbounds := hplace.wait_bounds hpolicy
    unfold Turn.loop
    simp only [leaves_bind]
    refine (leaves_clock h).mono ?_ fun _ _ => False.elim
    rintro now t ⟨rfl, ht⟩
    rw [h.clock fun hstop => hk.ne hstop.2]
    refine (leaves_expired ht (by simpa [turn] using hbounds.1.trans_lt hbounds.2)).mono ?_
      fun _ _ => False.elim
    rintro expired u ⟨rfl, hu⟩
    rw [ht.stops, if_neg (by simpa using fun _ => hk.ne)]
    simp only [leaves_bind]
    have hallowed : script.rows.length ≤ script.guard.allowed := by
      unfold guard
      split <;> simp
    refine (leaves_authorize hu (hk.trans_le hallowed)).mono ?_ fun _ _ => False.elim
    rintro _ v ⟨rfl, hv⟩
    refine (leaves_admission hv).mono ?_ ?_
    · rintro _ w ⟨hw, -⟩
      refine (leaves_dispatch hw).mono ?_ fun _ _ => False.elim
      rintro result x ⟨rfl, hx⟩
      have hrow : row.Named := hnamed row (by simp [hrows])
      obtain ⟨outcome, fault⟩ := row
      unfold dispatch
      rw [hw.next hrows]
      cases outcome with
      | response =>
        obtain rfl := hrow.fault_eq_none (by simp)
        obtain rfl := haccepted.follows hrows rfl
        have hending := haccepted.ends hrows
        rw [permitted_snoc, if_pos rfl, List.mem_singleton] at hending
        have hresponse : script.ending = some .response := ending_of_text hending
        refine leaves_onResponse hx ?_ hresponse
        rw [hplace.record, hrows]
      | unclassified =>
        obtain rfl := hrow.fault_eq_none (by simp)
        obtain rfl := haccepted.follows hrows rfl
        have hending := haccepted.ends hrows
        rw [permitted_snoc, if_neg (by simp), if_pos rfl, List.mem_singleton] at hending
        have hunclassified : script.ending = some .unclassified := ending_of_text hending
        simp only [leaves_bind]
        exact (leaves_unclassified hx hrows hplace.record hunclassified).mono
          (fun _ _ => False.elim) fun _ _ => id
      | fault =>
        obtain ⟨fault, rfl⟩ := Option.isSome_iff_exists.mp hrow
        simp only [leaves_bind]
        refine leaves_onFailure hx hrows rfl ?_
        intro attempt now y hattempt hy
        refine (leaves_fault hy hpolicy haccepted hplace hattempt).mono ?_ fun _ _ => id
        rintro next z ⟨hnext, hz⟩
        have hlength : before.length + 1 =
            (before ++ [(⟨.fault, some fault⟩ : AttemptRow)]).length := by simp
        rw [hlength] at hz ⊢
        exact ih hz hnext (by simpa using hfuel)
    · rintro _ w ⟨hlast, -⟩
      exact absurd hlast hk.ne

/-- The script's turn leaves what the script asks for. -/
theorem leaves_run (hpolicy : script.policy.Checked) (hnamed : ∀ row ∈ script.rows, row.Named)
    (haccepted : script.Accepted) :
    Leaves script.turn.run { guard := some script.guard } (fun _ t => script.Followed t)
      (fun _ t => script.Followed t) := by
  have h : script.At 0 0 { guard := some script.guard } := ⟨rfl, rfl, rfl⟩
  obtain ⟨-, hmax, hreason⟩ := checkTurnSequence_iff.mp haccepted
  have hempty (hrows : script.rows = []) : script.ending = some .costCapExhausted ∨
      script.ending = some .preDispatchRefused ∨ script.ending = none ∨
        script.ending = some .deadlineExceeded := by
    have hpermitted : permittedTerminalReasons [] script.policy.maxAttempts =
      [none, some "deadline_exceeded", some "cost_cap_exhausted",
        some "pre_dispatch_refused"] := rfl
    rw [hrows, hpermitted] at hreason
    revert hreason
    rcases script.ending with _ | (_ | _ | _ | _ | _ | _ | _ | _) <;> decide
  unfold Turn.run
  simp only [leaves_bind]
  refine (leaves_clock h).mono ?_ fun _ _ => False.elim
  rintro started t ⟨rfl, ht⟩
  rw [h.clock]
  · have hplace : Place script [] script.rows [] script.policy.initialBackoffSeconds := by
      refine ⟨rfl, rfl, by simp, ?_⟩
      intro hrows
      have hending := hempty hrows
      tauto
    have hretry : script.turn.retry = script.policy := rfl
    exact leaves_loop ht hpolicy hnamed haccepted hplace (by rw [hretry]; omega)
  · rintro ⟨hbackoff, hrows⟩
    simpa [hbackoff] using hempty (List.length_eq_zero_iff.mp hrows.symm)

end Script

/-- The state in which a turn ends under any guard, by return or by exception. -/
def Turn.final {γ T ρ : Type} [CostGuard γ] (turn : Turn T ρ) (guard : Option γ) :
    GuardedState γ T ρ :=
  match turn.run { guard } with
  | .ok _ s => s
  | .error _ s => s

theorem Turn.final_of_leaves {γ T ρ : Type} [CostGuard γ] {turn : Turn T ρ} {guard : Option γ}
    {P : GuardedState γ T ρ → Prop}
    (h : Leaves turn.run { guard } (fun _ t => P t) (fun _ t => P t)) : P (turn.final guard) := by
  unfold Turn.final
  split
  · rename_i heq
    exact h.ok heq
  · rename_i heq
    exact h.error heq

/-- What a turn leaves is accepted exactly if it misread no usage, and the reader accepts nothing
that no turn leaves. -/
theorem accepted_iff_left (policy : ProviderRetryPolicy ℚ) (hpolicy : policy.Checked) :
    (∀ {γ T ρ : Type} [CostGuard γ] (turn : Turn T ρ) (guard : Option γ),
      turn.retry.maxAttempts = policy.maxAttempts →
      (∀ row ∈ (turn.final guard).evidence.1, row.Named) ∧
        (checkTurnSequence (turn.final guard).evidence.1 (turn.final guard).evidence.2
            policy.maxAttempts = .ok (turn.final guard).evidence.2 ↔
          ¬Misread (turn.final guard).history)) ∧
    ∀ rows reason, (∀ row ∈ rows, row.Named) →
      (checkTurnSequence rows reason policy.maxAttempts = .ok reason ↔
        ∃ (γ ρ : Type) (_ : CostGuard γ) (turn : Turn ℚ ρ) (guard : Option γ),
          turn.retry = policy ∧ ¬Misread (turn.final guard).history ∧
            (turn.final guard).evidence = (rows, reason)) := by
  have hsound {γ T ρ : Type} [CostGuard γ] (turn : Turn T ρ) (guard : Option γ)
      (hmax : turn.retry.maxAttempts = policy.maxAttempts) :
      Fits policy.maxAttempts (turn.final guard) := by
    rw [← hmax]
    exact Turn.final_of_leaves (turn.calm_run (hmax ▸ hpolicy.attempts))
  constructor
  · intro γ T ρ _ turn guard hmax
    exact ⟨(hsound turn guard hmax).named, (hsound turn guard hmax).accepted⟩
  · intro rows reason hnamed
    constructor
    · intro haccepted
      obtain ⟨ending, rfl⟩ := permitted_ending (checkTurnSequence_iff.mp haccepted).2.2
      have hleft : (Turn.final (Script.turn ⟨policy, rows, ending⟩)
          (some (Script.guard ⟨policy, rows, ending⟩))).evidence =
            (rows, ending.map TurnEnd.text) :=
        Turn.final_of_leaves (@Script.leaves_run ⟨policy, rows, ending⟩ hpolicy hnamed haccepted)
      refine ⟨_, _, inferInstance, Script.turn ⟨policy, rows, ending⟩,
        some (Script.guard ⟨policy, rows, ending⟩), rfl, ?_, hleft⟩
      rw [← (hsound _ _ rfl).accepted, hleft]
      exact haccepted
    · rintro ⟨γ, ρ, _, turn, guard, hretry, hread, hleft⟩
      have haccepted := (hsound turn guard (by rw [hretry])).accepted.mpr hread
      rwa [hleft] at haccepted

def ProviderRetryPolicy.standard : ProviderRetryPolicy ℚ := ⟨3, 1 / 2, 2⟩

theorem timeout_then_response_left :
    checkTurnSequence [⟨.fault, some .timeout⟩, ⟨.response, none⟩] (some "response")
        ProviderRetryPolicy.standard.maxAttempts = .ok (some "response") ∧
      ∃ (γ ρ : Type) (_ : CostGuard γ) (turn : Turn ℚ ρ) (guard : Option γ),
        turn.retry = .standard ∧ ¬Misread (turn.final guard).history ∧
          (turn.final guard).evidence =
            ([⟨.fault, some .timeout⟩, ⟨.response, none⟩], some "response") := by
  have hchecked : ProviderRetryPolicy.standard.Checked := by
    constructor <;> norm_num [ProviderRetryPolicy.standard]
  have haccepted : checkTurnSequence [⟨.fault, some .timeout⟩, ⟨.response, none⟩]
      (some "response") ProviderRetryPolicy.standard.maxAttempts = .ok (some "response") := rfl
  refine ⟨haccepted, ((accepted_iff_left .standard hchecked).2 _ _ ?_).mp haccepted⟩
  intro row hrow
  simp only [List.mem_cons, List.not_mem_nil, or_false] at hrow
  rcases hrow with rfl | rfl <;> rfl

/-- A turn whose reader of usage refuses the response as a timeout. -/
def misreadTurn : Turn ℤ Unit where
  time := ⟨0, (· - ·), (· * ·), (· ≤ ·)⟩
  retry := ⟨3, 1, 2⟩
  deadline := ⟨60, none⟩
  tokenBound := .whole 500
  callbacks :=
    { clock := fun _ => .ok 0
      sleep := fun _ _ => .ok ()
      cancelled := fun _ => .ok false
      dispatch := fun _ _ => .ok ()
      checkBeforeDispatch := fun _ => .ok ()
      classify := fun _ _ => .ok .unrecognised
      checkIdentity := fun _ _ => .ok ()
      usageOf := fun _ _ => .error (.adapterProvider .timeout "no usage within the timeout") }

/-- What that turn leaves is refused by the reader. -/
theorem misread_timeout_refused :
    (misreadTurn.final (none : Option RunCostGuard)).evidence =
        ([⟨.fault, some .timeout⟩], some "fault_not_retryable") ∧
      checkTurnSequence [⟨.fault, some .timeout⟩] (some "fault_not_retryable") 3 =
        .error (.notPermitted (some "fault_not_retryable")) := ⟨rfl, rfl⟩

end OperateBench.Providers
