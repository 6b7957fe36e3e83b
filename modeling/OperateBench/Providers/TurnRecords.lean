import OperateBench.Providers.TurnSequence

/-! # What a turn leaves on record

A turn publishes its attempts and the reason it ended for at most once. What it leaves is
accepted by the reader, unless the usage of a response was refused with a fault that may be
retried: that turn ends as if its fault could not be.
-/

namespace OperateBench.Providers

open Foundation Boundary

variable {γ T ρ α : Type}

def ProviderAttempt.row (attempt : ProviderAttempt T) : AttemptRow :=
  ⟨attempt.outcome, attempt.fault⟩

/-- The attempts and the reason that a turn leaves. Without a publication there are none. -/
def GuardedState.evidence (s : GuardedState γ T ρ) : List AttemptRow × Option String :=
  match s.published with
  | none => ([], none)
  | some telemetry => (telemetry.attempts.map (·.row), some telemetry.terminalReason.text)

/-- The usage of a response was refused with a fault that may be retried. -/
def Called.misreads : Called T ρ → Bool
  | .usageRead (.error (.adapterProvider fault _)) => fault.retryable
  | _ => false

/-- The guard did not take a forfeiture. -/
def Called.declines : Called T ρ → Bool
  | .forfeited (.error _) => true
  | _ => false

/-- A refusal of usage names a fault that may be retried, and the turn went on to record it. -/
def Misread (history : List (Called T ρ)) : Prop :=
  (∃ c ∈ history, c.misreads = true) ∧ ∀ c ∈ history, c.declines = false

/-- The reader accepts what the turn left, exactly if no usage was misread. -/
structure Fits (maxAttempts : ℤ) (s : GuardedState γ T ρ) : Prop where
  named : ∀ row ∈ s.evidence.1, row.Named
  accepted : checkTurnSequence s.evidence.1 s.evidence.2 maxAttempts = .ok s.evidence.2 ↔
    ¬Misread s.history

/-- A turn that has published nothing, with or without a misread usage. -/
structure Calm (doubt : Bool) (s : GuardedState γ T ρ) : Prop where
  quiet : s.published = none
  doubted : (∃ c ∈ s.history, c.misreads = true) ↔ doubt = true
  taken : ∀ c ∈ s.history, c.declines = false

section Reader

variable {rows : List AttemptRow} {row : AttemptRow} {reason : Option String} {maxAttempts : ℤ}

theorem AttemptRow.Named.of_repeats (h : row.repeats = true) : row.Named := by
  obtain ⟨outcome, fault⟩ := row
  cases fault with
  | none => simp [repeats, faultRetryable] at h
  | some fault => simp_all [repeats, Named]

/-- Attempts after which another one may follow. -/
structure Onward (maxAttempts : ℤ) (rows : List AttemptRow) : Prop where
  repeats : ∀ row ∈ rows, row.repeats = true
  more : rows = [] ∨ (rows.length : ℤ) < maxAttempts

/-- A turn that states no ending has no attempts. -/
theorem checkTurnSequence_nil (hmax : 1 ≤ maxAttempts) :
    checkTurnSequence [] none maxAttempts = .ok none := by
  rw [checkTurnSequence_iff]
  refine ⟨nofun, ?_, List.mem_cons_self⟩
  simp only [List.length_nil, Nat.cast_zero]
  omega

theorem onward_nil : Onward maxAttempts [] := ⟨nofun, .inl rfl⟩

theorem Onward.snoc_le (h : Onward maxAttempts rows) (hmax : 1 ≤ maxAttempts) :
    ((rows ++ [row]).length : ℤ) ≤ maxAttempts := by
  rw [List.length_append]
  rcases h.more with rfl | hless
  · exact_mod_cast hmax
  · push_cast
    exact hless

theorem checkTurnSequence_snoc (h : Onward maxAttempts rows) (hmax : 1 ≤ maxAttempts) :
    checkTurnSequence (rows ++ [row]) reason maxAttempts = .ok reason ↔
      reason ∈ permittedTerminalReasons (rows ++ [row]) maxAttempts := by
  rw [checkTurnSequence_iff, List.dropLast_concat]
  constructor
  · rintro ⟨-, -, hreason⟩
    exact hreason
  · exact fun hreason => ⟨h.repeats, h.snoc_le hmax, hreason⟩

theorem permitted_snoc : permittedTerminalReasons (rows ++ [row]) maxAttempts =
    if row.outcome = .response then [some "response"]
    else if row.outcome = .unclassified then [some "unclassified_error"]
    else if !row.faultRetryable then [some "fault_not_retryable"]
    else if ((rows ++ [row]).length : ℤ) = maxAttempts then [some "retries_exhausted"]
    else turnEndEarlyReasonsV7.map some := by
  unfold permittedTerminalReasons
  simp only [List.getLast?_append, List.getLast?_singleton, Option.some_or]

/-- Between two attempts a turn may end for what stops it there. -/
theorem Onward.early (h : Onward maxAttempts rows) (hmax : 1 ≤ maxAttempts)
    (hreason : reason ∈ [some "deadline_exceeded", some "cost_cap_exhausted",
      some "pre_dispatch_refused"]) :
    checkTurnSequence rows reason maxAttempts = .ok reason := by
  rw [checkTurnSequence_iff]
  rcases List.eq_nil_or_concat rows with rfl | ⟨before, last, rfl⟩
  · refine ⟨nofun, ?_, List.mem_cons_of_mem _ hreason⟩
    simp only [List.length_nil, Nat.cast_zero]
    omega
  · rw [List.concat_eq_append] at h ⊢
    have hless := h.more.resolve_left (by simp)
    have hlast := h.repeats last (by simp)
    simp only [AttemptRow.repeats, Bool.and_eq_true, beq_iff_eq] at hlast
    refine ⟨?_, hless.le, ?_⟩
    · intro row hrow
      rw [List.dropLast_concat] at hrow
      exact h.repeats row (List.mem_append_left _ hrow)
    · rw [permitted_snoc, hlast.1, hlast.2, if_neg nofun, if_neg nofun, if_neg (by simp),
        if_neg hless.ne]
      revert hreason
      simp only [turnEndEarlyReasonsV7, List.map_cons, List.map_nil, List.mem_cons]
      tauto

end Reader

section States

variable {s : GuardedState γ T ρ} {c : Called T ρ} {doubt : Bool} {maxAttempts : ℤ} {g : Option γ}

namespace Calm

theorem note (h : Calm doubt s) (hm : c.misreads = false) (hd : c.declines = false) :
    Calm doubt { s with guard := g, history := s.history ++ [c] } := by
  constructor
  · exact h.quiet
  · rw [← h.doubted]
    simp [hm, or_and_right, exists_or]
  · intro d hmem
    rcases List.mem_append.mp hmem with hmem | hmem
    · exact h.taken d hmem
    · rwa [List.mem_singleton.mp hmem]

/-- A call that ends a turn before anything was misread leaves it unpublished. -/
theorem fits (h : Calm false s) (hmax : 1 ≤ maxAttempts) : Fits maxAttempts s := by
  have hevidence : s.evidence = ([], none) := by rw [GuardedState.evidence, h.quiet]
  constructor
  · rw [hevidence]
    nofun
  · rw [hevidence]
    constructor
    · rintro - ⟨hdoubt, -⟩
      exact nomatch h.doubted.mp hdoubt
    · exact fun _ => checkTurnSequence_nil hmax

theorem declined (h : Calm doubt s) (hd : c.declines = true) (hmax : 1 ≤ maxAttempts) :
    Fits maxAttempts { s with guard := g, history := s.history ++ [c] } := by
  have hevidence : GuardedState.evidence { s with guard := g, history := s.history ++ [c] } =
      ([], none) := by
    simp only [GuardedState.evidence, h.quiet]
  constructor
  · rw [hevidence]
    nofun
  · rw [hevidence]
    constructor
    · rintro - ⟨-, htaken⟩
      rw [htaken c (by simp)] at hd
      cases hd
    · exact fun _ => checkTurnSequence_nil hmax

theorem published {telemetry : ProviderTelemetry T} (h : Calm doubt s)
    (hnamed : ∀ row ∈ telemetry.attempts.map (·.row), row.Named)
    (haccepted : checkTurnSequence (telemetry.attempts.map (·.row))
      (some telemetry.terminalReason.text) maxAttempts = .ok (some telemetry.terminalReason.text) ↔
      doubt = false) :
    Fits maxAttempts { s with published := some telemetry } := by
  constructor
  · exact hnamed
  · change checkTurnSequence (telemetry.attempts.map (·.row))
      (some telemetry.terminalReason.text) maxAttempts =
        .ok (some telemetry.terminalReason.text) ↔ ¬Misread s.history
    rw [haccepted, Misread, h.doubted, Bool.eq_false_iff]
    exact not_congr ⟨fun hdoubt => ⟨hdoubt, h.taken⟩, And.left⟩

end Calm

/-- What is published stays on record whatever is called next. -/
theorem Fits.note (h : Fits maxAttempts s) (hm : c.misreads = false) (hd : c.declines = false) :
    Fits maxAttempts { s with guard := g, history := s.history ++ [c] } := by
  refine ⟨h.named, h.accepted.trans (not_congr ?_)⟩
  simp [Misread, hm, hd, or_imp, forall_and, or_and_right, exists_or]

end States

namespace Turn

section Calls

variable {s : GuardedState γ T ρ} {maxAttempts : ℤ} {doubt : Bool} {reservation : Option Decimal}

theorem calm_consult {function : List (Called T ρ) → Except Raised α}
    {called : Except Raised α → Called T ρ} (h : Calm doubt s)
    (hm : ∀ result, (called result).misreads = false)
    (hd : ∀ result, (called result).declines = false) :
    Leaves (consult function called) s (fun _ t => Calm doubt t) (fun _ _ => False) :=
  h.note (g := s.guard) (hm _) (hd _)

/-- A call of the caller's that reads no usage. -/
theorem calm_call {function : List (Called T ρ) → Except Raised α}
    {called : Except Raised α → Called T ρ} (h : Calm false s) (hmax : 1 ≤ maxAttempts)
    (hm : ∀ result, (called result).misreads = false)
    (hd : ∀ result, (called result).declines = false) :
    Leaves (call function called) s (fun _ t => Calm false t) (fun _ t => Fits maxAttempts t) := by
  unfold call
  simp only [leaves_bind, leaves_raising]
  refine (calm_consult h hm hd).mono ?_ fun _ _ => False.elim
  exact fun _ _ ht => ⟨fun _ _ => ht, fun _ _ => ht.fits hmax⟩

theorem calm_guarded {guard : γ} {operation : EStateM GuardError γ α}
    {called : Except GuardError α → Called T ρ} (h : Calm doubt s)
    (hm : ∀ result, (called result).misreads = false)
    (hd : ∀ result, (called result).declines = false) :
    Leaves (guarded guard operation called) s (fun _ t => Calm doubt t) (fun _ _ => False) := by
  unfold guarded
  cases operation guard with
  | ok a after => exact h.note (hm _) (hd _)
  | error e after => exact h.note (hm _) (hd _)

variable [CostGuard γ]

/-- A forfeiture that the guard does not take ends the turn with nothing published. -/
theorem calm_forfeit (h : Calm doubt s) (hmax : 1 ≤ maxAttempts) :
    Leaves (forfeit reservation) s (fun _ t => Calm doubt t) (fun _ t => Fits maxAttempts t) := by
  unfold forfeit
  simp only [leaves_bind, leaves_get]
  split
  · simp only [leaves_bind]
    unfold guarded
    split
    · exact h.note rfl rfl
    · exact h.declined rfl hmax
  · exact h

end Calls

section Loop

variable (turn : Turn T ρ) {s : GuardedState γ T ρ} {doubt : Bool}
  {record : List (ProviderAttempt T)} {reservation : Option Decimal}
  {started origin attemptStarted wait now : T} {attempts : ℕ} {reason : TurnEnd} {error : Raised}

/-- Each attempt so far may be followed by another one. -/
def Ongoing (record : List (ProviderAttempt T)) (attempts : ℕ) : Prop :=
  Onward turn.retry.maxAttempts (record.map (·.row)) ∧ record.length = attempts

variable {turn}

theorem Ongoing.named (h : turn.Ongoing record attempts) :
    ∀ row ∈ record.map (·.row), row.Named :=
  fun row hrow => .of_repeats (h.1.repeats row hrow)

theorem named_snoc {attempt : ProviderAttempt T} (h : turn.Ongoing record attempts)
    (hrow : attempt.row.Named) : ∀ row ∈ (record ++ [attempt]).map (·.row), row.Named := by
  intro row hmem
  rw [List.map_append] at hmem
  rcases List.mem_append.mp hmem with hmem | hmem
  · exact h.named row hmem
  · rwa [List.mem_singleton.mp hmem]

variable (turn)

theorem calm_leave (h : Calm doubt s) (hnamed : ∀ row ∈ record.map (·.row), row.Named)
    (haccepted : checkTurnSequence (record.map (·.row)) (some reason.text)
      turn.retry.maxAttempts = .ok (some reason.text) ↔ doubt = false) :
    Leaves (turn.leave (γ := γ) (α := α) started record now reason error) s (fun _ _ => False)
      (fun _ t => Fits turn.retry.maxAttempts t) := by
  unfold leave commit
  simp only [leaves_bind, leaves_modify, leaves_throw]
  exact h.published hnamed haccepted

variable (hmax : 1 ≤ turn.retry.maxAttempts)
include hmax

theorem calm_leave_early (h : Calm false s) (ho : turn.Ongoing record attempts)
    (hreason : some reason.text ∈ [some "deadline_exceeded", some "cost_cap_exhausted",
      some "pre_dispatch_refused"]) :
    Leaves (turn.leave (γ := γ) (α := α) started record now reason error) s (fun _ _ => False)
      (fun _ t => Fits turn.retry.maxAttempts t) := by
  apply turn.calm_leave h ho.named
  exact ⟨fun _ => rfl, fun _ => ho.1.early hmax hreason⟩

variable [CostGuard γ]

theorem calm_authorize (h : Calm false s) (ho : turn.Ongoing record attempts) :
    Leaves (turn.authorize started record) s (fun _ t => Calm false t)
      (fun _ t => Fits turn.retry.maxAttempts t) := by
  unfold authorize
  simp only [leaves_bind, leaves_get]
  split
  · exact h
  · simp only [leaves_bind]
    refine (calm_guarded h (fun _ => rfl) fun _ => rfl).mono ?_ fun _ _ => False.elim
    intro result t ht
    split
    · exact ht
    · simp only [leaves_bind]
      refine (calm_call ht hmax (fun _ => rfl) fun _ => rfl).mono ?_ fun _ _ => id
      intro now u hu
      exact (turn.calm_leave_early hmax hu ho (by simp [TurnEnd.text])).mono
        (fun _ _ => False.elim) fun _ _ => id
    · exact ht.fits hmax

theorem calm_admission (h : Calm false s) (ho : turn.Ongoing record attempts) :
    Leaves (turn.admission started record reservation) s (fun _ t => Calm false t)
      (fun _ t => Fits turn.retry.maxAttempts t) := by
  unfold admission
  simp only [leaves_bind]
  refine (calm_consult h (fun _ => rfl) fun _ => rfl).mono ?_ fun _ _ => False.elim
  intro result t₀ ht₀
  split
  · exact ht₀
  · simp only [leaves_bind]
    refine (calm_call ht₀ hmax (fun _ => rfl) fun _ => rfl).mono ?_ fun _ _ => id
    intro now t ht
    have hfits : Fits turn.retry.maxAttempts
        { t with published := some ⟨record, turn.time.sub now started, .preDispatchRefused⟩ } := by
      apply ht.published ho.named
      exact ⟨fun _ => rfl, fun _ => ho.1.early hmax (by simp [TurnEnd.text])⟩
    unfold commit cancel
    simp only [leaves_bind, leaves_modify, leaves_get]
    split
    · simp only [leaves_bind, leaves_throw]
      unfold guarded
      split
      · exact hfits.note rfl rfl
      · exact hfits.note rfl rfl
    · exact hfits
  · exact ht₀.fits hmax

omit [CostGuard γ]

omit hmax in
theorem length_snoc {a : ProviderAttempt T} (ho : turn.Ongoing record attempts) :
    (((record ++ [a]).map (·.row)).length : ℤ) = attempts + 1 := by
  rw [List.length_map, List.length_append, ho.2]
  rfl

omit hmax in
/-- What a turn may end for after a fault. -/
theorem permitted_fault {attempt : ProviderAttempt T} {fault : Fault}
    (ho : turn.Ongoing record attempts) (hrow : attempt.row = ⟨.fault, some fault.fault⟩) :
    permittedTerminalReasons ((record ++ [attempt]).map (·.row)) turn.retry.maxAttempts =
      if !fault.fault.retryable then [some "fault_not_retryable"]
      else if (attempts : ℤ) + 1 = turn.retry.maxAttempts then [some "retries_exhausted"]
      else turnEndEarlyReasonsV7.map some := by
  have hlength := turn.length_snoc ho (a := attempt)
  rw [← hlength, List.map_append, List.map_singleton, permitted_snoc, hrow, if_neg nofun,
    if_neg nofun, faultRetryable_eq]
  rfl

omit hmax in
theorem Ongoing.snoc {attempt : ProviderAttempt T} (ho : turn.Ongoing record attempts)
    (hrow : attempt.row.repeats = true) (hmore : (attempts : ℤ) + 1 < turn.retry.maxAttempts) :
    turn.Ongoing (record ++ [attempt]) (attempts + 1) := by
  refine ⟨⟨?_, .inr ?_⟩, by rw [List.length_append, ho.2]; rfl⟩
  · intro row hmem
    rw [List.map_append] at hmem
    rcases List.mem_append.mp hmem with hmem | hmem
    · exact ho.1.repeats row hmem
    · rwa [List.mem_singleton.mp hmem]
  · rwa [length_snoc turn ho]

/-- The attempt that ends a turn is recorded behind those that did not. -/
theorem calm_leave_snoc {attempt : ProviderAttempt T} (h : Calm doubt s)
    (ho : turn.Ongoing record attempts) (hrow : attempt.row.Named)
    (hreason : some reason.text ∈ permittedTerminalReasons
      ((record ++ [attempt]).map (·.row)) turn.retry.maxAttempts ↔ doubt = false) :
    Leaves (turn.leave (γ := γ) (α := α) started (record ++ [attempt]) now reason error) s
      (fun _ _ => False) (fun _ t => Fits turn.retry.maxAttempts t) := by
  apply turn.calm_leave h (named_snoc ho hrow)
  rw [← hreason, List.map_append]
  exact checkTurnSequence_snoc ho.1 hmax

variable [CostGuard γ]

omit [CostGuard γ] in
/-- After a fault the turn goes on only where another attempt is allowed. -/
theorem calm_onFault {attempt : ProviderAttempt T} {fault : Fault} (h : Calm false s)
    (ho : turn.Ongoing record attempts) (hrow : attempt.row = ⟨.fault, some fault.fault⟩) :
    Leaves (turn.onFault started origin now wait (attempts + 1) (record ++ [attempt]) fault) s
      (fun _ t => Calm false t ∧ turn.Ongoing (record ++ [attempt]) (attempts + 1))
      (fun _ t => Fits turn.retry.maxAttempts t) := by
  have hleave {reason : TurnEnd} {error : Raised} {t : GuardedState γ T ρ} (ht : Calm false t)
      (hreason : some reason.text ∈ permittedTerminalReasons
        ((record ++ [attempt]).map (·.row)) turn.retry.maxAttempts) :
      Leaves (turn.leave (α := T) started (record ++ [attempt]) now reason error) t
        (fun _ u => Calm false u ∧ turn.Ongoing (record ++ [attempt]) (attempts + 1))
        (fun _ u => Fits turn.retry.maxAttempts u) :=
    (turn.calm_leave_snoc hmax ht ho (by rw [hrow]; rfl) ⟨fun _ => rfl, fun _ => hreason⟩).mono
      (fun _ _ => False.elim) fun _ _ => id
  rw [turn.permitted_fault ho hrow] at hleave
  have hless : (((record ++ [attempt]).map (·.row)).length : ℤ) ≤ turn.retry.maxAttempts := by
    rw [List.map_append]
    exact ho.1.snoc_le hmax
  rw [turn.length_snoc ho] at hless
  unfold onFault
  split
  · rename_i hfault
    apply hleave h
    rw [if_pos hfault]
    exact List.mem_singleton_self _
  rename_i hfault
  split
  · rename_i hspent
    apply hleave h
    push_cast at hspent
    rw [if_neg hfault, if_pos (le_antisymm hless hspent)]
    exact List.mem_singleton_self _
  rename_i hmore
  push_cast at hmore
  rw [if_neg hfault, if_neg (by omega)] at hleave
  have hongoing : turn.Ongoing (record ++ [attempt]) (attempts + 1) := by
    apply Ongoing.snoc turn ho
    · rw [hrow, AttemptRow.repeats, faultRetryable_eq]
      simpa using hfault
    · omega
  simp only [leaves_bind]
  refine (calm_call h hmax (fun _ => rfl) fun _ => rfl).mono ?_ fun _ _ => id
  intro cancelled t ht
  have habandons : Leaves (turn.abandons origin wait cancelled) t (fun _ u => Calm false u)
      (fun _ u => Fits turn.retry.maxAttempts u) := by
    unfold abandons
    split
    · exact ht
    · simp only [leaves_bind]
      exact (calm_call ht hmax (fun _ => rfl) fun _ => rfl).mono (fun _ _ => id) fun _ _ => id
  refine habandons.mono ?_ fun _ _ => id
  intro abandoned u hu
  split
  · apply hleave hu
    cases cancelled <;> simp [TurnEnd.text, turnEndEarlyReasonsV7]
  · simp only [leaves_bind]
    refine (calm_call hu hmax (fun _ => rfl) fun _ => rfl).mono ?_ fun _ _ => id
    exact fun _ _ hv => ⟨hv, hongoing⟩

/-- A failed dispatch is recorded, and the turn ends or may go on. -/
theorem calm_onFailure {exception : Raised} (h : Calm false s)
    (ho : turn.Ongoing record attempts) :
    Leaves (turn.onFailure started origin attemptStarted wait (attempts + 1) record reservation
        exception) s
      (fun next t => Calm false t ∧ turn.Ongoing next.2 (attempts + 1))
      (fun _ t => Fits turn.retry.maxAttempts t) := by
  unfold onFailure
  simp only [leaves_bind]
  refine (calm_call h hmax (fun _ => rfl) fun _ => rfl).mono ?_ fun _ _ => id
  intro failedAt t ht
  refine (calm_forfeit ht hmax).mono ?_ fun _ _ => id
  intro _ u hu
  refine (calm_consult hu (fun _ => rfl) fun _ => rfl).mono ?_ fun _ _ => False.elim
  intro result v hv
  split
  · exact hv.fits hmax
  · exact hv.fits hmax
  · refine (turn.calm_leave_snoc hmax hv ho (by rfl) ?_).mono (fun _ _ => False.elim)
      fun _ _ => id
    rw [List.map_append]
    simp [permitted_snoc, ProviderAttempt.row, TurnEnd.text]
  · simp only [leaves_bind]
    exact (turn.calm_onFault hmax hv ho rfl).mono (fun _ _ => id) fun _ _ => id

/-- A response that is refused ends the turn. -/
theorem calm_refuse {fault : Option ProviderFault} (h : Calm doubt s)
    (ho : turn.Ongoing record attempts) (hfault : fault.any ProviderFault.retryable = doubt) :
    Leaves (turn.refuse (α := α) started attemptStarted now (attempts + 1) record reservation
        fault error) s
      (fun _ _ => False) (fun _ t => Fits turn.retry.maxAttempts t) := by
  unfold refuse
  simp only [leaves_bind]
  refine (calm_forfeit h hmax).mono ?_ fun _ _ => id
  intro _ t ht
  refine (turn.calm_leave_snoc hmax ht ho ?_ ?_).mono (fun _ _ => False.elim) fun _ _ => id
  · cases fault <;> rfl
  · rw [List.map_append, List.map_singleton, permitted_snoc, faultRetryable_eq]
    cases fault with
    | none =>
      obtain rfl := hfault
      simp [ProviderAttempt.row, TurnEnd.text]
    | some fault =>
      rw [← hfault]
      cases hr : fault.retryable with
      | false => simp [ProviderAttempt.row, TurnEnd.text, hr]
      | true =>
        simp only [ProviderAttempt.row, TurnEnd.text, Option.isSome_some, if_true, Option.any_some,
          hr, Bool.not_true, reduceCtorEq, if_false, Bool.false_eq_true, iff_false]
        split <;> decide

/-- Whatever the guard makes of a response, the turn goes on to record it or ends unpublished. -/
theorem calm_settleUsage {usage : Usage} {inputTokens outputTokens : Count} (h : Calm false s) :
    Leaves (settleUsage usage inputTokens outputTokens reservation) s (fun _ t => Calm false t)
      (fun _ t => Fits turn.retry.maxAttempts t) := by
  unfold settleUsage
  simp only [leaves_bind, leaves_get]
  split
  · split
    · simp only [leaves_bind]
      refine (calm_guarded h (fun _ => rfl) fun _ => rfl).mono ?_ fun _ _ => False.elim
      intro result t ht
      split
      · exact ht
      · exact ht
      · exact ht
      · exact ht.fits hmax
    · simp only [leaves_bind]
      exact (calm_forfeit h hmax).mono (fun _ _ => id) fun _ _ => id
  · exact h

omit hmax [CostGuard γ] in
/-- Reading the usage of a response puts it in doubt, if it is refused with such a fault. -/
theorem leaves_usage {response : ρ} (h : Calm false s) :
    Leaves (consult (turn.callbacks.usageOf response) .usageRead) s
      (fun result t => Calm (Called.usageRead (T := T) (ρ := ρ) result).misreads t)
      (fun _ _ => False) := by
  unfold consult
  simp only [leaves_bind, leaves_get, leaves_modify, leaves_pure]
  generalize turn.callbacks.usageOf response s.history = result
  constructor
  · exact h.quiet
  · have hnone : ¬∃ c ∈ s.history, c.misreads = true := by
      intro hdoubt
      cases h.doubted.mp hdoubt
    simp [or_and_right, exists_or, hnone]
  · intro d hmem
    rcases List.mem_append.mp hmem with hmem | hmem
    · exact h.taken d hmem
    · rw [List.mem_singleton.mp hmem]
      rfl

theorem calm_onResponse {response : ρ} (h : Calm false s) (ho : turn.Ongoing record attempts) :
    Leaves (turn.onResponse started attemptStarted (attempts + 1) record reservation response) s
      (fun _ t => Fits turn.retry.maxAttempts t) (fun _ t => Fits turn.retry.maxAttempts t) := by
  unfold onResponse
  simp only [leaves_bind]
  refine (calm_call h hmax (fun _ => rfl) fun _ => rfl).mono ?_ fun _ _ => id
  intro answeredAt t ht
  have hrefuse {u : GuardedState γ T ρ} {doubt : Bool} {fault : Option ProviderFault}
      {error : Raised} (hu : Calm doubt u) (hfault : fault.any ProviderFault.retryable = doubt) :
      Leaves (turn.refuse (α := ρ) started attemptStarted answeredAt (attempts + 1) record
          reservation fault error) u
        (fun _ v => Fits turn.retry.maxAttempts v) (fun _ v => Fits turn.retry.maxAttempts v) :=
    (turn.calm_refuse hmax hu ho hfault).mono (fun _ _ => False.elim) fun _ _ => id
  refine (calm_consult ht (fun _ => rfl) fun _ => rfl).mono ?_ fun _ _ => False.elim
  intro identity u hu
  split
  · exact hrefuse hu rfl
  · exact hu.fits hmax
  simp only [leaves_bind]
  refine (turn.leaves_usage hu).mono ?_ fun _ _ => False.elim
  intro result v hv
  split
  · exact hrefuse hv rfl
  · rename_i e hforeign
    refine hrefuse (u := v) ?_ rfl
    cases e with
    | adapterProvider fault detail => exact absurd rfl (hforeign fault detail)
    | _ => exact hv
  · rename_i usage
    cases usage with
    | foreign => exact Calm.fits hv hmax
    | tokens inputTokens outputTokens =>
      have hrecord : Leaves (recordUsage (.tokens inputTokens outputTokens)
          (turn.time.sub answeredAt started) reservation) v (fun _ w => Calm false w)
          (fun _ w => Fits turn.retry.maxAttempts w) := by
        unfold recordUsage
        simp only [leaves_bind, leaves_modify, leaves_pure]
        refine (turn.calm_settleUsage hmax hv).mono ?_ fun _ _ => id
        exact fun _ w hw => ⟨hw.quiet, hw.doubted, hw.taken⟩
      simp only [leaves_bind]
      refine hrecord.mono ?_ fun _ _ => id
      rintro ⟨settlement, breach⟩ w hw
      have hfits {attempt : ProviderAttempt T} {latency : T}
          (hrow : attempt.row = ⟨.response, none⟩) :
          Fits turn.retry.maxAttempts
            { w with published := some ⟨record ++ [attempt], latency, .response⟩ } := by
        apply hw.published (named_snoc ho (by rw [hrow]; rfl))
        rw [List.map_append, List.map_singleton, hrow, checkTurnSequence_snoc ho.1 hmax]
        simp [permitted_snoc, TurnEnd.text]
      unfold commit
      rw [leaves_modify]
      cases breach with
      | none => exact hfits rfl
      | some e => exact hfits rfl

theorem calm_loop {fuel : ℕ} (h : Calm false s) (ho : turn.Ongoing record attempts)
    (hfuel : fuel + attempts = turn.retry.maxAttempts.toNat + 1) :
    Leaves (turn.loop started origin fuel wait attempts record) s
      (fun _ t => Fits turn.retry.maxAttempts t) (fun _ t => Fits turn.retry.maxAttempts t) := by
  induction fuel generalizing s wait attempts record with
  | zero => exact h.fits hmax
  | succ fuel ih =>
    unfold loop
    simp only [leaves_bind]
    refine (calm_call h hmax (fun _ => rfl) fun _ => rfl).mono ?_ fun _ _ => id
    intro attemptStarted t ht
    have hexpired {budget : T} : Leaves (turn.expired budget) t (fun _ u => Calm false u)
        (fun _ u => Fits turn.retry.maxAttempts u) := by
      unfold expired
      split
      · exact ht
      · exact calm_call ht hmax (fun _ => rfl) fun _ => rfl
    refine hexpired.mono ?_ fun _ _ => id
    intro expired u hu
    split
    · exact (turn.calm_leave_early hmax hu ho (by simp [TurnEnd.text])).mono
        (fun _ _ => False.elim) fun _ _ => id
    simp only [leaves_bind]
    refine (turn.calm_authorize hmax hu ho).mono ?_ fun _ _ => id
    intro reservation v hv
    refine (turn.calm_admission hmax hv ho).mono ?_ fun _ _ => id
    intro _ w hw
    refine (calm_consult hw (fun _ => rfl) fun _ => rfl).mono ?_ fun _ _ => False.elim
    intro result x hx
    cases result with
    | error exception =>
      simp only [leaves_bind]
      refine (turn.calm_onFailure hmax hx ho).mono ?_ fun _ _ => id
      rintro ⟨next, longer⟩ y ⟨hy, honward⟩
      exact ih hy honward (by omega)
    | ok response => exact turn.calm_onResponse hmax hx ho

theorem calm_run {guard : Option γ} :
    Leaves turn.run { guard } (fun _ t => Fits turn.retry.maxAttempts t)
      (fun _ t => Fits turn.retry.maxAttempts t) := by
  have h : Calm false ({ guard } : GuardedState γ T ρ) := by
    constructor
    · rfl
    · simp
    · exact fun _ hc => absurd hc List.not_mem_nil
  unfold run
  simp only [leaves_bind]
  refine (calm_call h hmax (fun _ => rfl) fun _ => rfl).mono ?_ fun _ _ => id
  intro started t ht
  exact turn.calm_loop hmax ht ⟨onward_nil, rfl⟩ (by omega)

end Loop

end Turn

end OperateBench.Providers
