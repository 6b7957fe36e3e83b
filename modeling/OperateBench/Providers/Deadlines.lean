import OperateBench.Foundation.Transition
import OperateBench.Providers.Exits

/-! # Deadlines of a turn

What stands before each dispatch and each wait in the history of a turn: the reading of the clock
that its budget was taken at, no cancellation that was observed, and no authorisation that was
refused.
-/

namespace OperateBench.Providers

open Foundation Boundary

variable {T ρ α : Type}

section Histories

def Called.reading : Called T ρ → Option T
  | .clock (.ok now) => some now
  | _ => none

def readings (history : List (Called T ρ)) : List T := history.filterMap Called.reading

def Called.isDispatch : Called T ρ → Bool
  | .dispatched _ => true
  | _ => false

def dispatches (history : List (Called T ρ)) : ℕ := history.countP Called.isDispatch

/-- The episode was seen to be cancelled, or the guard refused an authorisation. -/
def Called.stops : Called T ρ → Bool
  | .cancelled (.ok seen) => seen
  | .authorized (.error _) => true
  | _ => false

def Quiet (history : List (Called T ρ)) : Prop := ∀ c ∈ history, c.stops = false

theorem readings_snoc {h : List (Called T ρ)} {c : Called T ρ} :
    readings (h ++ [c]) = readings h ++ c.reading.toList := by
  rw [readings, List.filterMap_append]
  cases hc : c.reading <;> simp [hc, readings]

theorem dispatches_snoc {h : List (Called T ρ)} {c : Called T ρ} :
    dispatches (h ++ [c]) = dispatches h + if c.isDispatch then 1 else 0 := by
  rw [dispatches, List.countP_append]
  cases hc : c.isDispatch <;> simp [hc, dispatches]

theorem quiet_snoc {h : List (Called T ρ)} {c : Called T ρ} (hh : Quiet h)
    (hc : c.stops = false) : Quiet (h ++ [c]) := by
  intro d hd
  rcases List.mem_append.mp hd with hd | hd
  · exact hh d hd
  · rwa [List.mem_singleton.mp hd]

end Histories

namespace Turn

variable (turn : Turn T ρ)

/-- Where the budget of a turn is counted from, when the loop was entered at this reading. -/
def originFrom (started : T) : T := turn.deadline.startedAt.getD started

/-- What is left of the budget at a reading. -/
def left (started now : T) : T :=
  turn.time.sub turn.deadline.remainingSeconds (turn.time.sub now (turn.originFrom started))

/-- The waits of the policy are not negative. -/
structure Waits : Prop where
  initial : turn.time.le turn.time.zero turn.retry.initialBackoffSeconds = true
  next : ∀ wait, turn.time.le turn.time.zero wait = true →
    turn.time.le turn.time.zero (turn.time.mul wait turn.retry.backoffMultiplier) = true

/-- A dispatch is given what was left at the last reading, and that is positive; a wait is shorter
than what was left there. -/
def Allowed (before : List (Called T ρ)) : Called T ρ → Prop
  | .clock result => result = turn.callbacks.clock before
  | .dispatched result => Quiet before ∧ ∃ started now, (readings before).head? = some started ∧
      (readings before).getLast? = some now ∧
      turn.time.le (turn.left started now) turn.time.zero = false ∧
      result = turn.callbacks.dispatch (turn.left started now) before
  | .slept result => Quiet before ∧ ∃ started now pause,
      (readings before).head? = some started ∧ (readings before).getLast? = some now ∧
      turn.time.le (turn.left started now) pause = false ∧
      (turn.Waits → turn.time.le turn.time.zero pause = true) ∧
      result = turn.callbacks.sleep pause before
  | _ => True

/-- A history in the middle of a turn, with this many dispatches. -/
structure Steady (started : T) (attempts : ℕ) (h : List (Called T ρ)) : Prop where
  allowed : Throughout turn.Allowed h
  quiet : Quiet h
  started : (readings h).head? = some started
  dispatched : dispatches h = attempts
  bounded : (attempts : ℤ) ≤ max 1 turn.retry.maxAttempts

/-- A history with which a turn may end. -/
structure Ended (h : List (Called T ρ)) : Prop where
  allowed : Throughout turn.Allowed h
  bounded : (dispatches h : ℤ) ≤ max 1 turn.retry.maxAttempts

variable {turn} {started now origin pause wait : T} {attempts : ℕ} {h : List (Called T ρ)}
  {c : Called T ρ} {s : TurnState T ρ} {record : List (ProviderAttempt T)}
  {reservation : Option Decimal} {reason : TurnEnd}

theorem Steady.ended (hs : turn.Steady started attempts h) : turn.Ended h :=
  ⟨hs.allowed, by rw [hs.dispatched]; exact hs.bounded⟩

theorem Ended.note (hs : turn.Ended h) (hc : turn.Allowed h c) (hd : c.isDispatch = false) :
    turn.Ended (h ++ [c]) := by
  constructor
  · exact throughout_snoc.mpr ⟨hs.allowed, hc⟩
  · rw [dispatches_snoc, hd]
    exact hs.bounded

theorem Steady.note (hs : turn.Steady started attempts h) (hc : turn.Allowed h c)
    (hd : c.isDispatch = false) (hstop : c.stops = false) :
    turn.Steady started attempts (h ++ [c]) := by
  constructor
  · exact throughout_snoc.mpr ⟨hs.allowed, hc⟩
  · exact quiet_snoc hs.quiet hstop
  · rw [readings_snoc, List.head?_append, hs.started]
    rfl
  · rw [dispatches_snoc, hd]
    exact hs.dispatched
  · exact hs.bounded

theorem last_snoc {last : Option T} (hlast : (readings h).getLast? = last)
    (hc : c.reading = none) : (readings (h ++ [c])).getLast? = last := by
  rw [readings_snoc, hc]
  simpa using hlast

/-- A call that is not counted either returns, or ends the turn. -/
theorem timely_call {function : List (Called T ρ) → Except Raised α}
    {called : Except Raised α → Called T ρ} (hs : turn.Ended s.history)
    (hc : turn.Allowed s.history (called (function s.history)))
    (hd : ∀ result, (called result).isDispatch = false) :
    Leaves (call function called) s
      (fun a t => function s.history = .ok a ∧ t.history = s.history ++ [called (.ok a)] ∧
        turn.Ended t.history)
      (fun _ t => turn.Ended t.history) := by
  unfold call
  simp only [leaves_bind, leaves_consult, leaves_raising]
  have hended := hs.note hc (hd _)
  constructor
  · intro a ha
    rw [ha] at hended ⊢
    exact ⟨rfl, rfl, hended⟩
  · intro e he
    exact hended

theorem timely_clock (hs : turn.Ended s.history) :
    Leaves (call turn.callbacks.clock .clock) s
      (fun now t => (readings t.history).getLast? = some now ∧ turn.Ended t.history ∧
        ∀ started attempts, turn.Steady started attempts s.history →
          turn.Steady started attempts t.history)
      (fun _ t => turn.Ended t.history) := by
  have hc : turn.Allowed s.history (.clock (turn.callbacks.clock s.history)) := rfl
  refine (timely_call hs hc fun _ => rfl).mono ?_ fun _ _ => id
  rintro now t ⟨hnow, ht, hended⟩
  refine ⟨?_, hended, ?_⟩
  · rw [ht, readings_snoc]
    simp [Called.reading]
  · intro started attempts hs
    rw [ht]
    exact hs.note hnow.symm rfl rfl

theorem timely_cancelled (hs : turn.Steady started attempts s.history)
    (hlast : (readings s.history).getLast? = some now) :
    Leaves (call turn.callbacks.cancelled .cancelled) s
      (fun seen t => turn.Ended t.history ∧ (seen = false →
        turn.Steady started attempts t.history ∧ (readings t.history).getLast? = some now))
      (fun _ t => turn.Ended t.history) := by
  have hc : turn.Allowed s.history (.cancelled (turn.callbacks.cancelled s.history)) := trivial
  refine (timely_call hs.ended hc fun _ => rfl).mono ?_ fun _ _ => id
  rintro seen t ⟨-, ht, hended⟩
  refine ⟨hended, ?_⟩
  rintro rfl
  rw [ht]
  exact ⟨hs.note trivial rfl rfl, last_snoc hlast rfl⟩

theorem timely_leave {error : Raised} (hs : turn.Ended s.history) :
    Leaves (turn.leave (α := α) started record now reason error) s (fun _ _ => False)
      (fun _ t => turn.Ended t.history) := by
  unfold leave commit
  simp only [leaves_bind, leaves_modify, leaves_throw]
  exact hs

theorem timely_guarded {g : RunCostGuard} {operation : RunCostGuard.Guarded α}
    {called : Except GuardError α → Called T ρ} :
    Leaves (guarded g operation called) s
      (fun result t => t.history = s.history ++ [called result]) (fun _ _ => False) := by
  rw [leaves_guarded]
  exact leaves_always (fun _ _ => rfl) fun _ _ => rfl

theorem timely_forfeit (hs : turn.Steady started attempts s.history)
    (hlast : (readings s.history).getLast? = some now) :
    Leaves (forfeit reservation) s
      (fun _ t => turn.Steady started attempts t.history ∧
        (readings t.history).getLast? = some now)
      (fun _ t => turn.Ended t.history) := by
  unfold forfeit
  simp only [leaves_bind, leaves_get]
  split
  · simp only [leaves_bind]
    refine timely_guarded.mono ?_ fun _ _ => False.elim
    intro result t ht
    have hnext : turn.Steady started attempts t.history := by
      rw [ht]
      exact hs.note trivial rfl rfl
    rw [leaves_raising, ht]
    rw [ht] at hnext
    exact ⟨fun _ _ => ⟨hnext, last_snoc hlast rfl⟩, fun _ _ => hnext.ended⟩
  · exact ⟨hs, hlast⟩

theorem timely_authorize (hs : turn.Steady started attempts s.history)
    (hlast : (readings s.history).getLast? = some now) :
    Leaves (turn.authorize origin record) s
      (fun _ t => turn.Steady started attempts t.history ∧
        (readings t.history).getLast? = some now)
      (fun _ t => turn.Ended t.history) := by
  unfold authorize
  simp only [leaves_bind, leaves_get]
  split
  · exact ⟨hs, hlast⟩
  · simp only [leaves_bind]
    refine timely_guarded.mono ?_ fun _ _ => False.elim
    intro result t ht
    have hended : turn.Ended t.history := by
      rw [ht]
      exact hs.ended.note trivial rfl
    split
    · rw [leaves_pure, ht]
      exact ⟨hs.note trivial rfl rfl, last_snoc hlast rfl⟩
    · simp only [leaves_bind]
      refine (timely_clock hended).mono ?_ fun _ _ => id
      rintro _ u ⟨-, hu, -⟩
      exact (timely_leave hu).mono (fun _ _ => False.elim) fun _ _ => id
    · exact hended

theorem timely_cancel (hs : turn.Ended s.history) :
    Leaves (turn.cancel reservation) s (fun _ t => turn.Ended t.history)
      (fun _ t => turn.Ended t.history) := by
  unfold cancel
  simp only [leaves_bind, leaves_get]
  split
  · simp only [leaves_bind]
    refine timely_guarded.mono ?_ fun _ _ => False.elim
    intro result t ht
    have hended : turn.Ended t.history := by
      rw [ht]
      exact hs.note trivial rfl
    rw [leaves_raising]
    exact ⟨fun _ _ => hended, fun _ _ => hended⟩
  · exact hs

theorem timely_admission (hs : turn.Steady started attempts s.history)
    (hlast : (readings s.history).getLast? = some now) :
    Leaves (turn.admission origin record reservation) s
      (fun _ t => turn.Steady started attempts t.history ∧
        (readings t.history).getLast? = some now)
      (fun _ t => turn.Ended t.history) := by
  unfold admission
  simp only [leaves_bind, leaves_consult]
  have hended : turn.Ended
      (s.note (.checkedBeforeDispatch (turn.callbacks.checkBeforeDispatch s.history))).history :=
    hs.ended.note trivial rfl
  split
  · exact ⟨hs.note trivial rfl rfl, last_snoc hlast rfl⟩
  · simp only [leaves_bind]
    refine (timely_clock hended).mono ?_ fun _ _ => id
    rintro _ t ⟨-, ht, -⟩
    unfold commit
    rw [leaves_modify]
    refine Leaves.mono (timely_cancel ?_) ?_ fun _ _ => id
    · exact ht
    · exact fun _ _ hu => leaves_throw.mpr hu
  · exact hended

theorem timely_dispatch (hs : turn.Steady started attempts s.history)
    (hlast : (readings s.history).getLast? = some now)
    (hbudget : turn.time.le (turn.left started now) turn.time.zero = false)
    (hmore : (attempts : ℤ) + 1 ≤ max 1 turn.retry.maxAttempts) :
    turn.Steady started (attempts + 1)
      (s.note (.dispatched (turn.callbacks.dispatch (turn.left started now) s.history))).history := by
  change turn.Steady _ _ (s.history ++ [_])
  constructor
  · exact throughout_snoc.mpr
      ⟨hs.allowed, hs.quiet, started, now, hs.started, hlast, hbudget, rfl⟩
  · exact quiet_snoc hs.quiet rfl
  · rw [readings_snoc, List.head?_append, hs.started]
    rfl
  · rw [dispatches_snoc, hs.dispatched]
    rfl
  · exact_mod_cast hmore

theorem timely_abandons (hs : turn.Steady started attempts s.history)
    {seen : Bool} :
    Leaves (turn.abandons (turn.originFrom started) pause seen) s
      (fun abandoned t => turn.Ended t.history ∧ (abandoned = false →
        turn.Steady started attempts t.history ∧ ∃ now,
          (readings t.history).getLast? = some now ∧
          turn.time.le (turn.left started now) pause = false))
      (fun _ t => turn.Ended t.history) := by
  unfold abandons
  split
  · exact ⟨hs.ended, nofun⟩
  · simp only [leaves_bind]
    refine (timely_clock hs.ended).mono ?_ fun _ _ => id
    rintro now t ⟨hlast, hended, hsteady⟩
    refine ⟨hended, ?_⟩
    intro hfits
    exact ⟨hsteady started attempts hs, now, hlast, hfits⟩

/-- After a fault the turn waits, if the wait fits, and goes on with the next one. -/
theorem timely_onFault {fault : Fault} {failedAt : T} (hs : turn.Steady started attempts s.history)
    (hlast : (readings s.history).getLast? = some now)
    (hpause : turn.Waits → turn.time.le turn.time.zero pause = true) :
    Leaves (turn.onFault started (turn.originFrom started) failedAt pause attempts record fault) s
      (fun wait t => turn.Steady started attempts t.history ∧
        (attempts : ℤ) < turn.retry.maxAttempts ∧
        (turn.Waits → turn.time.le turn.time.zero wait = true))
      (fun _ t => turn.Ended t.history) := by
  have hleave {reason : TurnEnd} {error : Raised} {t : TurnState T ρ} {Q : T → TurnState T ρ → Prop}
      (ht : turn.Ended t.history) :
      Leaves (turn.leave (α := T) started record failedAt reason error) t Q
        (fun _ u => turn.Ended u.history) :=
    (timely_leave ht).mono (fun _ _ => False.elim) fun _ _ => id
  unfold onFault
  split
  · exact hleave hs.ended
  split
  · exact hleave hs.ended
  rename_i hmore
  simp only [leaves_bind]
  refine (timely_cancelled hs hlast).mono ?_ fun _ _ => id
  rintro seen t ⟨hended, hunseen⟩
  cases seen with
  | true =>
    simp only [abandons, if_true, leaves_pure]
    exact hleave hended
  | false =>
    obtain ⟨ht, -⟩ := hunseen rfl
    refine (timely_abandons ht).mono ?_ fun _ _ => id
    rintro abandoned u ⟨hended, hfits⟩
    cases abandoned with
    | true =>
      simp only [if_true]
      exact hleave hended
    | false =>
      obtain ⟨hu, now, hlast, hleft⟩ := hfits rfl
      simp only [Bool.false_eq_true, if_false, leaves_bind]
      have hc : turn.Allowed u.history (.slept (turn.callbacks.sleep pause u.history)) :=
        ⟨hu.quiet, started, now, pause, hu.started, hlast, hleft, hpause, rfl⟩
      refine (timely_call hu.ended hc fun _ => rfl).mono ?_ fun _ _ => id
      rintro _ v ⟨hv, hhistory, -⟩
      rw [hv] at hc
      rw [leaves_pure, hhistory]
      exact ⟨hu.note hc rfl rfl, not_le.mp hmore, fun hwaits => hwaits.next _ (hpause hwaits)⟩

/-- A failed dispatch ends the turn, or leaves it another attempt. -/
theorem timely_onFailure {attemptStarted : T} {exception : Raised}
    (hs : turn.Steady started attempts s.history)
    (hpause : turn.Waits → turn.time.le turn.time.zero pause = true) :
    Leaves (turn.onFailure started (turn.originFrom started) attemptStarted pause attempts record
        reservation exception) s
      (fun next t => turn.Steady started attempts t.history ∧
        (attempts : ℤ) < turn.retry.maxAttempts ∧
        (turn.Waits → turn.time.le turn.time.zero next.1 = true))
      (fun _ t => turn.Ended t.history) := by
  unfold onFailure
  simp only [leaves_bind]
  refine (timely_clock hs.ended).mono ?_ fun _ _ => id
  rintro failedAt t ⟨hlast, -, hsteady⟩
  have ht := hsteady started attempts hs
  refine (timely_forfeit ht hlast).mono ?_ fun _ _ => id
  rintro _ u ⟨hu, hlast⟩
  rw [leaves_consult]
  have hnote : turn.Steady started attempts
      (TurnState.note u (.classified (turn.callbacks.classify exception u.history))).history :=
    hu.note trivial rfl rfl
  split
  · exact hnote.ended
  · exact hnote.ended
  · exact (timely_leave hnote.ended).mono (fun _ _ => False.elim) fun _ _ => id
  · simp only [leaves_bind]
    refine (timely_onFault hnote (last_snoc hlast rfl) hpause).mono ?_ fun _ _ => id
    exact fun _ _ hv => hv

theorem timely_refuse {attemptStarted : T} {fault : Option ProviderFault} {error : Raised}
    (hs : turn.Steady started attempts s.history)
    (hlast : (readings s.history).getLast? = some now) :
    Leaves (turn.refuse (α := α) started attemptStarted origin attempts record reservation fault
        error) s (fun _ _ => False) (fun _ t => turn.Ended t.history) := by
  unfold refuse
  simp only [leaves_bind]
  refine (timely_forfeit hs hlast).mono ?_ fun _ _ => id
  rintro _ t ⟨ht, -⟩
  exact timely_leave ht.ended

theorem timely_settleUsage {usage : Usage} {inputTokens outputTokens : Count}
    (hs : turn.Steady started attempts s.history)
    (hlast : (readings s.history).getLast? = some now) :
    Leaves (settleUsage usage inputTokens outputTokens reservation) s
      (fun _ t => turn.Ended t.history) (fun _ t => turn.Ended t.history) := by
  unfold settleUsage
  simp only [leaves_bind, leaves_get]
  split
  · split
    · simp only [leaves_bind]
      refine timely_guarded.mono ?_ fun _ _ => False.elim
      intro result t ht
      have hended : turn.Ended t.history := by
        rw [ht]
        exact hs.ended.note trivial rfl
      split <;> exact hended
    · simp only [leaves_bind]
      refine (timely_forfeit hs hlast).mono ?_ fun _ _ => id
      rintro _ t ⟨ht, -⟩
      exact ht.ended
  · exact hs.ended

theorem timely_onResponse {attemptStarted : T} {response : ρ}
    (hs : turn.Steady started attempts s.history) :
    Leaves (turn.onResponse started attemptStarted attempts record reservation response) s
      (fun _ t => turn.Ended t.history) (fun _ t => turn.Ended t.history) := by
  have hrefuse {fault : Option ProviderFault} {error : Raised} {answeredAt : T}
      {t : TurnState T ρ} (ht : turn.Steady started attempts t.history)
      (hlast : (readings t.history).getLast? = some answeredAt) :
      Leaves (turn.refuse (α := ρ) started attemptStarted answeredAt attempts record reservation
        fault error) t (fun _ u => turn.Ended u.history) (fun _ u => turn.Ended u.history) :=
    (timely_refuse ht hlast).mono (fun _ _ => False.elim) fun _ _ => id
  unfold onResponse
  simp only [leaves_bind]
  refine (timely_clock hs.ended).mono ?_ fun _ _ => id
  rintro answeredAt t ⟨hlast, -, hsteady⟩
  have ht := hsteady started attempts hs
  rw [leaves_consult]
  have hu : turn.Steady started attempts
      (TurnState.note t (.checkedIdentity (turn.callbacks.checkIdentity response t.history))).history :=
    ht.note trivial rfl rfl
  have hlast' := last_snoc (c := .checkedIdentity (turn.callbacks.checkIdentity response t.history))
    hlast rfl
  split
  · exact hrefuse hu hlast'
  · exact hu.ended
  · simp only [leaves_bind, leaves_consult]
    generalize hw : TurnState.note t _ = w at hu hlast' ⊢
    have hv : turn.Steady started attempts
        (w.note (.usageRead (turn.callbacks.usageOf response w.history))).history :=
      hu.note trivial rfl rfl
    have hlast'' : (readings (w.note
        (.usageRead (turn.callbacks.usageOf response w.history))).history).getLast? =
        some answeredAt := by
      apply last_snoc _ rfl
      rw [← hw]
      exact hlast'
    split
    · exact hrefuse hv hlast''
    · exact hrefuse hv hlast''
    · unfold recordUsage
      split
      · exact hv.ended
      · simp only [leaves_bind, leaves_modify, leaves_pure]
        refine (timely_settleUsage hv hlast'').mono ?_ fun _ _ => id
        rintro ⟨settlement, costUsd, breach⟩ u hu
        unfold commit
        rw [leaves_modify]
        cases breach <;> exact hu

theorem timely_expired (hs : turn.Steady started attempts s.history)
    (hlast : (readings s.history).getLast? = some now) {budget : T} :
    Leaves (turn.expired budget) s
      (fun expired t => turn.Ended t.history ∧ (expired = false →
        turn.Steady started attempts t.history ∧ (readings t.history).getLast? = some now ∧
          turn.time.le budget turn.time.zero = false))
      (fun _ t => turn.Ended t.history) := by
  unfold expired
  split
  · exact ⟨hs.ended, nofun⟩
  · rename_i hpositive
    refine (timely_cancelled hs hlast).mono ?_ fun _ _ => id
    rintro seen t ⟨hended, hunseen⟩
    refine ⟨hended, ?_⟩
    intro hseen
    obtain ⟨ht, hlast⟩ := hunseen hseen
    exact ⟨ht, hlast, Bool.eq_false_iff.mpr hpositive⟩

theorem timely_loop {fuel : ℕ} (hs : turn.Steady started attempts s.history)
    (hwait : turn.Waits → turn.time.le turn.time.zero wait = true)
    (hmore : attempts = 0 ∨ (attempts : ℤ) < turn.retry.maxAttempts) :
    Leaves (turn.loop started (turn.originFrom started) fuel wait attempts record) s
      (fun _ t => turn.Ended t.history) (fun _ t => turn.Ended t.history) := by
  induction fuel generalizing s wait attempts record with
  | zero => exact hs.ended
  | succ fuel ih =>
    unfold loop
    simp only [leaves_bind]
    refine (timely_clock hs.ended).mono ?_ fun _ _ => id
    rintro now t ⟨hlast, -, hsteady⟩
    refine (timely_expired (hsteady started attempts hs) hlast).mono ?_ fun _ _ => id
    rintro expired u ⟨hended, hunspent⟩
    cases expired with
    | true =>
      simp only [if_true]
      exact (timely_leave hended).mono (fun _ _ => False.elim) fun _ _ => id
    | false =>
      obtain ⟨hu, hlast, hbudget⟩ := hunspent rfl
      simp only [Bool.false_eq_true, if_false, leaves_bind]
      refine (timely_authorize hu hlast).mono ?_ fun _ _ => id
      rintro reservation v ⟨hv, hlast⟩
      refine (timely_admission hv hlast).mono ?_ fun _ _ => id
      rintro _ w ⟨hw, hlast⟩
      rw [leaves_consult]
      have hdispatch := timely_dispatch hw hlast hbudget (by omega)
      split
      · simp only [leaves_bind]
        refine (timely_onFailure hdispatch hwait).mono ?_ fun _ _ => id
        rintro next x ⟨hx, hless, hnext⟩
        exact ih hx hnext (.inr hless)
      · exact timely_onResponse hdispatch

theorem timely_run {guard : Option RunCostGuard} :
    Leaves turn.run { guard } (fun _ t => turn.Ended t.history)
      (fun _ t => turn.Ended t.history) := by
  have hstart : turn.Ended (T := T) (ρ := ρ) [] :=
    ⟨throughout_nil, by simp [dispatches]⟩
  unfold run
  simp only [leaves_bind]
  have hc : turn.Allowed [] (.clock (turn.callbacks.clock [])) := rfl
  refine (timely_call (s := { guard }) hstart hc fun _ => rfl).mono ?_ fun _ _ => id
  rintro now t ⟨-, ht, hended⟩
  have hs : turn.Steady now 0 t.history := by
    rw [ht] at hended ⊢
    constructor
    · exact hended.allowed
    · exact quiet_snoc (fun _ h => absurd h List.not_mem_nil) rfl
    · rfl
    · rfl
    · simp
  exact timely_loop hs (fun hwaits => hwaits.initial) (.inl rfl)

/-- The loop goes on after a failure only where the policy allows another attempt. -/
theorem onFailure_more {attemptStarted : T} {exception : Raised} :
    Leaves (turn.onFailure started origin attemptStarted pause attempts record reservation exception)
      s (fun _ _ => (attempts : ℤ) < turn.retry.maxAttempts) (fun _ _ => True) := by
  unfold onFailure
  rw [leaves_bind]
  apply leaves_always _ fun _ _ => trivial
  intro failedAt t
  rw [leaves_bind]
  apply leaves_always _ fun _ _ => trivial
  intro _ u
  rw [leaves_bind, leaves_consult]
  split
  · trivial
  · trivial
  · simp only [leave, leaves_bind, leaves_throw]
    exact leaves_always (fun _ _ => trivial) fun _ _ => trivial
  · simp only [leaves_bind, leaves_pure]
    unfold onFault
    split
    · simp only [leave, leaves_bind, leaves_throw]
      exact leaves_always (fun _ _ => trivial) fun _ _ => trivial
    split
    · simp only [leave, leaves_bind, leaves_throw]
      exact leaves_always (fun _ _ => trivial) fun _ _ => trivial
    rename_i hmore
    exact leaves_always (fun _ _ => not_le.mp hmore) fun _ _ => trivial

/-- Fuel for the attempts that the policy allows is enough: more of it changes nothing. -/
theorem loop_fuel {fuel more : ℕ} (hpos : 0 < fuel)
    (hfuel : turn.retry.maxAttempts ≤ fuel + attempts) :
    turn.loop started origin (fuel + more) wait attempts record s =
      turn.loop started origin fuel wait attempts record s := by
  induction fuel generalizing s wait attempts record with
  | zero => cases hpos
  | succ fuel ih =>
    rw [Nat.succ_add]
    unfold loop
    apply bind_agrees
    apply leaves_always _ fun _ _ => trivial
    intro now t
    apply bind_agrees
    apply leaves_always _ fun _ _ => trivial
    intro expired u
    cases expired with
    | true => rfl
    | false =>
      simp only [Bool.false_eq_true, if_false]
      apply bind_agrees
      apply leaves_always _ fun _ _ => trivial
      intro reservation v
      apply bind_agrees
      apply leaves_always _ fun _ _ => trivial
      intro _ w
      apply bind_agrees
      apply leaves_always _ fun _ _ => trivial
      intro answer x
      cases answer with
      | ok response => rfl
      | error exception =>
        apply bind_agrees
        refine onFailure_more.mono ?_ fun _ _ => id
        intro next y hless
        exact ih (by push_cast at *; omega) (by push_cast at *; omega)

variable (turn)

/-- The provider call of a turn, for this many rounds of its loop. -/
def runFor (fuel : ℕ) : TurnM RunCostGuard T ρ ρ := do
  let started ← call turn.callbacks.clock .clock
  turn.loop started (turn.originFrom started) fuel turn.retry.initialBackoffSeconds 0 []

variable {turn}

theorem runFor_eq {fuel : ℕ} (hfuel : turn.retry.maxAttempts.toNat + 1 ≤ fuel) :
    turn.runFor fuel s = turn.run s := by
  obtain ⟨more, rfl⟩ := Nat.exists_eq_add_of_le hfuel
  apply bind_agrees
  apply leaves_always _ fun _ _ => trivial
  intro now t
  exact loop_fuel (Nat.succ_pos _) (by push_cast; omega)

theorem after_ended (guard : Option RunCostGuard) : turn.Ended (turn.after guard).history := by
  have hrun : Leaves turn.run { guard } (fun _ t => turn.Ended t.history)
      (fun _ t => turn.Ended t.history) := timely_run
  unfold after
  split
  · rename_i heq
    exact hrun.ok heq
  · rename_i heq
    exact hrun.error heq

end Turn

section Ordered

/-- Readings are compared by an order that their differences respect. -/
structure Instants.Ordered (time : Instants T) : Prop where
  trans : ∀ a b c, time.le a b = true → time.le b c = true → time.le a c = true
  sub_mono : ∀ a b c, time.le a b = true → time.le (time.sub a c) (time.sub b c) = true
  sub_anti : ∀ a b c, time.le a b = true → time.le (time.sub c b) (time.sub c a) = true

/-- Each reading is followed by none that is earlier. -/
def NonDecreasing (time : Instants T) (history : List (Called T ρ)) : Prop :=
  (readings history).Pairwise fun t u => time.le t u = true

namespace Turn

variable (turn : Turn T ρ)

/-- A request is made, or a wait begun, only when no reading so far has shown the budget to be
spent, no cancellation was observed and no authorisation was refused. A request is given what was
left at the last reading; a wait is shorter than that. -/
def Timely (before : List (Called T ρ)) : Called T ρ → Prop
  | .dispatched result => Quiet before ∧ ∃ started now, (readings before).head? = some started ∧
      (readings before).getLast? = some now ∧
      (∀ t ∈ readings before, turn.time.le (turn.left started t) turn.time.zero = false) ∧
      result = turn.callbacks.dispatch (turn.left started now) before
  | .slept result => Quiet before ∧ ∃ started now pause,
      (readings before).head? = some started ∧ (readings before).getLast? = some now ∧
      (∀ t ∈ readings before, turn.time.le (turn.left started t) turn.time.zero = false) ∧
      turn.time.le (turn.left started now) pause = false ∧
      result = turn.callbacks.sleep pause before
  | _ => True

variable {turn} {history before later : List (Called T ρ)} {c : Called T ρ} {started now : T}

theorem left_anti (htime : turn.time.Ordered) {t u : T} (h : turn.time.le t u = true) :
    turn.time.le (turn.left started u) (turn.left started t) = true :=
  htime.sub_anti _ _ _ (htime.sub_mono _ _ _ h)

/-- What is left at the last reading was left at every reading. -/
theorem unspent (htime : turn.time.Ordered) (hclock : NonDecreasing turn.time history)
    (hsplit : history = before ++ c :: later) (hlast : (readings before).getLast? = some now)
    (hleft : turn.time.le (turn.left started now) turn.time.zero = false) {t : T}
    (ht : t ∈ readings before) :
    turn.time.le (turn.left started t) turn.time.zero = false := by
  have hreadings := List.dropLast_append_getLast? now hlast
  have hpairs : (readings before).Pairwise fun t u => turn.time.le t u = true := by
    rw [NonDecreasing, hsplit, readings, List.filterMap_append] at hclock
    exact (List.pairwise_append.mp hclock).1
  rw [← hreadings] at ht hpairs
  rcases List.mem_append.mp ht with ht | ht
  · have hle := (List.pairwise_append.mp hpairs).2.2 t ht now (List.mem_singleton_self now)
    rw [Bool.eq_false_iff] at hleft ⊢
    intro hspent
    exact hleft (htime.trans _ _ _ (left_anti htime hle) hspent)
  · rwa [List.mem_singleton.mp ht]

/-- Under a clock that does not run backwards, a turn makes no more requests than its policy
allows, each of them with what is left at the last reading, and it neither asks nor waits once it
has seen that it is out of time, cancelled or out of money. -/
theorem turn_in_time (htime : turn.time.Ordered) (hwaits : turn.Waits) (guard : Option RunCostGuard)
    (hclock : NonDecreasing turn.time (turn.after guard).history) :
    (∀ fuel s, turn.retry.maxAttempts.toNat + 1 ≤ fuel → turn.runFor fuel s = turn.run s) ∧
      (dispatches (turn.after guard).history : ℤ) ≤ max 1 turn.retry.maxAttempts ∧
      Throughout turn.Timely (turn.after guard).history := by
  have hended : turn.Ended (turn.after guard).history := after_ended guard
  refine ⟨fun fuel s hfuel => runFor_eq hfuel, hended.bounded, ?_⟩
  intro before c later hsplit
  have hallowed := hended.allowed before c later hsplit
  cases c with
  | dispatched result =>
    obtain ⟨hquiet, started, now, hfirst, hlast, hleft, hresult⟩ := hallowed
    refine ⟨hquiet, started, now, hfirst, hlast, ?_, hresult⟩
    intro t ht
    exact unspent htime hclock hsplit hlast hleft ht
  | slept result =>
    obtain ⟨hquiet, started, now, pause, hfirst, hlast, hfits, hpause, hresult⟩ := hallowed
    refine ⟨hquiet, started, now, pause, hfirst, hlast, ?_, hfits, hresult⟩
    intro t ht
    apply unspent htime hclock hsplit hlast _ ht
    rw [Bool.eq_false_iff] at hfits ⊢
    intro hspent
    exact hfits (htime.trans _ _ _ hspent (hpause hwaits))
  | _ => trivial

end Turn

end Ordered

section Samples

def wholeSeconds : Instants ℤ := ⟨0, (· - ·), (· * ·), (· ≤ ·)⟩

/-- A turn of a minute whose local check takes a hundred seconds by the clock. -/
def slowCheck : Turn ℤ Unit where
  time := wholeSeconds
  retry := ⟨1, 1, 2⟩
  deadline := ⟨60, none⟩
  tokenBound := .whole 500
  callbacks :=
    { clock := fun history => .ok (if history.any fun c => c matches .checkedBeforeDispatch _
        then 100 else 0)
      sleep := fun _ _ => .ok ()
      cancelled := fun _ => .ok false
      dispatch := fun _ _ => .ok ()
      checkBeforeDispatch := fun _ => .ok ()
      classify := fun _ _ => .ok .unrecognised
      checkIdentity := fun _ _ => .ok ()
      usageOf := fun _ _ => .ok (.tokens (.whole 400) (.whole 300)) }

theorem wholeSeconds_ordered : wholeSeconds.Ordered := by
  constructor
  · intro a b c hab hbc
    simp only [wholeSeconds, decide_eq_true_eq] at *
    omega
  · intro a b c hab
    simp only [wholeSeconds, decide_eq_true_eq] at *
    omega
  · intro a b c hab
    simp only [wholeSeconds, decide_eq_true_eq] at *
    omega

theorem slow_check_in_time :
    (dispatches (slowCheck.after none).history : ℤ) ≤ 1 ∧
      Throughout slowCheck.Timely (slowCheck.after none).history := by
  have hwaits : slowCheck.Waits := by
    constructor
    · rfl
    · intro wait hwait
      simp only [slowCheck, wholeSeconds, decide_eq_true_eq] at *
      omega
  have hclock : NonDecreasing slowCheck.time (slowCheck.after none).history := by
    unfold NonDecreasing
    decide
  exact (Turn.turn_in_time wholeSeconds_ordered hwaits none hclock).2

/-- The request is made with a minute to spend, forty seconds after the turn was out of time. -/
theorem slow_check_out_of_time :
    NonDecreasing slowCheck.time (slowCheck.after none).history ∧
      ∃ before result later, (slowCheck.after none).history = before ++ .dispatched result :: later ∧
        result = slowCheck.callbacks.dispatch 60 before ∧
        slowCheck.callbacks.clock before = .ok 100 ∧ slowCheck.left 0 100 = -40 := by
  constructor
  · unfold NonDecreasing
    decide
  · exact ⟨[.clock (.ok 0), .clock (.ok 0), .cancelled (.ok false),
      .checkedBeforeDispatch (.ok ())], .ok (), _, rfl, rfl, rfl, rfl⟩

end Samples

end OperateBench.Providers
