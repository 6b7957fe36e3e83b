import OperateBench.Providers.Books

/-! # Every exit of a turn

Each step of the loop goes on with the books as they should be, or leaves the turn. A turn
leaves with its books closed, or at the first call that strays.
-/

namespace OperateBench.Providers

open Foundation Boundary

variable {T ρ α : Type}

namespace Turn

variable (turn : Turn T ρ) {s : TurnState T ρ} {guard : Option RunCostGuard}
  {record : List (ProviderAttempt T)} {reservation : Option Decimal}
  {started origin attemptStarted wait now : T} {attempts : ℕ} {reason : TurnEnd}

/-- What is published over even books closes them. -/
theorem closed_commit (h : Midway (Even guard record) s) {telemetry : ProviderTelemetry T}
    (ht : telemetry.attempts = record) : Left guard { s with published := some telemetry } :=
  .inl ⟨h.tidy, h.books.released, telemetry, rfl, ht ▸ h.books.recorded⟩

/-- A turn that leaves over even books closes them. -/
theorem leaves_leave {error : Raised} (h : Midway (Even guard record) s) :
    Leaves (turn.leave (α := α) started record now reason error) s (fun _ _ => False)
      (fun _ t => Left guard t) := by
  unfold leave commit
  simp only [leaves_bind, leaves_modify, leaves_throw]
  exact closed_commit h rfl

/-- The reservation that is outstanding is kept as exposure. -/
theorem leaves_forfeit {bound : Count}
    (h : Midway (Outstanding bound guard record reservation) s) :
    Leaves (forfeit reservation) s
      (fun _ t => Midway (Resolved guard record reservation (forfeitedIf reservation)) t)
      (fun _ _ => False) := by
  obtain ⟨older, hd, hf⟩ := h.books.recorded
  have hheld := h.books.held
  unfold forfeit
  simp only [leaves_bind, leaves_get]
  cases hg : s.guard with
  | none =>
    cases reservation with
    | some d => rw [hg] at hheld; exact hheld.elim
    | none =>
      rw [hg] at hheld
      simp only [leaves_pure]
      refine h.mono fun hb => ⟨?_, hb.unguarded, by simp [forfeitedIf], older, hd, hf⟩
      rw [hg, show guard = none from hheld]
  | some g =>
    cases reservation with
    | none => rw [hg] at hheld; exact hheld.elim
    | some d =>
      rw [hg] at hheld
      obtain ⟨hfree, -, hp⟩ := hheld
      have hs := h.sound g hg
      simp only [leaves_bind, leaves_guarded, leaves_raising]
      refine (RunCostGuard.forfeit_leaves hs (RunCostGuard.release_held hp rfl)).mono ?_ ?_
      · rintro _ after ⟨_, _, hposted⟩
        refine ⟨fun _ _ => ?_, by rintro _ ⟨⟩⟩
        refine h.bank (hposted.sound hs) trivial ⟨?_, by rintro ⟨⟩, ?_, older, ?_, hf⟩
        · rw [hfree, pendingOf, Option.map_some, hposted.freed (by simp)]
        · simp [forfeitedIf]
        · rw [Trail.note, Trail.resolve, hd]
          rfl
      · exact fun _ _ => False.elim

theorem leaves_authorize (h : Midway (Even guard record) s) :
    Leaves (turn.authorize started record) s
      (fun r t => Midway (Reserved turn.tokenBound guard record r) t)
      (fun _ t => Left guard t) := by
  have hb := h.books
  unfold authorize
  simp only [leaves_bind, leaves_get]
  cases hg : s.guard with
  | none =>
    simp only [leaves_pure]
    refine h.mono fun hb => ⟨?_, hb.unguarded, hb.unguarded hg, hb.recorded⟩
    have hnone := hb.released
    rw [hg] at hnone ⊢
    cases guard with
    | none => rfl
    | some g => cases hnone
  | some g =>
    have hs := h.sound g hg
    simp only [leaves_bind, leaves_guarded]
    refine RunCostGuard.authorize_leaves.mono ?_ ?_
    · rintro d after ⟨i, -, hposted, hd, hp⟩
      simp only [leaves_pure]
      refine h.bank (hposted.sound hs) (by rintro _ ⟨⟩) ⟨?_, by rintro ⟨⟩, rfl, hb.recorded⟩
      have hreleased := hb.released
      rw [hg] at hreleased
      refine ⟨?_, (hposted.reservationFor _).trans hd, ?_⟩
      · rw [← hreleased, pendingOf, Option.map_some, hposted.free rfl]
      · rw [hp, hposted.tokenExposure]
    · rintro e t ⟨ht, -⟩
      have hsame : { s with guard := some t } = s := by rw [ht, ← hg]
      rw [hsame]
      cases e with
      | costCapExceeded c m x r =>
        have htidy : (Called.authorized (T := T) (ρ := ρ)
            (.error (.costCapExceeded c m x r))).Tidy := by
          rintro _ ⟨⟩
          exact ⟨c, m, x, r, rfl⟩
        simp only [leaves_bind]
        refine (leaves_call (h.note (fun _ => rfl) htidy) plain_clock).mono ?_ fun _ _ h => h
        intro now t ht
        exact (turn.leaves_leave ht).mono (fun _ _ => False.elim) fun _ _ h => h
      | _ =>
        rw [leaves_throw]
        apply h.stray
        intro htidy
        obtain ⟨_, _, _, _, he⟩ := htidy _ rfl
        cases he

/-- A reservation that was not dispatched is released without a trace. -/
theorem leaves_cancel
    (hheld : Holds turn.tokenBound guard reservation s.guard) :
    Leaves (turn.cancel reservation) s
      (fun _ t => pendingOf t.guard = pendingOf guard ∧ t.published = s.published ∧
        (s.Tidy → TurnState.Tidy t) ∧ trail t.history = trail s.history)
      (fun _ _ => False) := by
  unfold cancel
  simp only [leaves_bind, leaves_get]
  cases hg : s.guard with
  | none =>
    cases reservation with
    | some d => rw [hg] at hheld; exact hheld.elim
    | none =>
      rw [hg] at hheld
      rw [leaves_pure, hg, show guard = none from hheld]
      exact ⟨rfl, rfl, id, rfl⟩
  | some g =>
    cases reservation with
    | none => rw [hg] at hheld; exact hheld.elim
    | some d =>
      rw [hg] at hheld
      obtain ⟨hfree, hd, hp⟩ := hheld
      simp only [leaves_bind, leaves_guarded, leaves_raising]
      refine (RunCostGuard.cancel_held hd hp).mono ?_ fun _ _ => False.elim
      intro _ after hposted
      refine ⟨fun _ _ => ⟨?_, rfl, fun ht => TurnState.tidy_note ht trivial, ?_⟩, by rintro _ ⟨⟩⟩
      · change pendingOf (some after) = pendingOf guard
        rw [hfree, pendingOf, Option.map_some, hposted.freed (by simp)]
      · exact trail_append _ _

theorem leaves_admit (h : Midway (Reserved turn.tokenBound guard record reservation) s) :
    Leaves (turn.admission started record reservation) s
      (fun _ t => Midway (Reserved turn.tokenBound guard record reservation) t)
      (fun _ t => Left guard t) := by
  unfold admission
  simp only [leaves_bind, leaves_consult]
  generalize turn.callbacks.checkBeforeDispatch s.history = result
  cases result with
  | ok u =>
    exact h.note (fun _ => rfl) (by rintro _ ⟨⟩)
  | error e =>
    cases e with
    | providerConfiguration =>
      have htidy : (Called.checkedBeforeDispatch (T := T) (ρ := ρ)
          (.error .providerConfiguration)).Tidy := by
        rintro _ ⟨⟩
        rfl
      simp only [leaves_bind]
      refine (leaves_call (h.note (fun _ => rfl) htidy) plain_clock).mono ?_ fun _ _ h => h
      intro now t ht
      unfold commit
      rw [leaves_modify]
      refine Leaves.mono (turn.leaves_cancel (s := { t with published := _ })
        ht.books.held) ?_ fun _ _ => False.elim
      rintro _ u ⟨hreleased, hpublished, htidy, htrail⟩
      rw [leaves_throw]
      refine .inl ⟨htidy ht.tidy, hreleased, _, hpublished, ?_⟩
      rw [htrail]
      exact ht.books.recorded
    | _ =>
      rw [leaves_throw]
      apply h.stray
      intro htidy
      cases htidy _ rfl

theorem leaves_abandons {cancelled : Bool} {φ : Option RunCostGuard → Trail → Prop}
    (h : Midway φ s) : Leaves (turn.abandons origin wait cancelled) s
      (fun _ t => Midway φ t) (fun _ t => Left guard t) := by
  unfold abandons
  split
  · exact h
  · simp only [leaves_bind]
    refine (leaves_call h plain_clock).mono ?_ fun _ _ h => h
    exact fun _ _ h => h

/-- After a fault the turn goes on only where the policy allows another attempt. -/
theorem leaves_onFault {fault : Fault} (h : Midway (Even guard record) s) :
    Leaves (turn.onFault started origin now wait attempts record fault) s
      (fun _ t => Midway (Even guard record) t ∧ (attempts : ℤ) < turn.retry.maxAttempts)
      (fun _ t => Left guard t) := by
  have hleave : ∀ {reason : TurnEnd} {error : Raised} {t : TurnState T ρ},
      Midway (Even guard record) t →
      Leaves (turn.leave (α := T) started record now reason error) t
        (fun _ u => Midway (Even guard record) u ∧ (attempts : ℤ) < turn.retry.maxAttempts)
        (fun _ u => Left guard u) :=
    fun ht => (turn.leaves_leave ht).mono (fun _ _ => False.elim) fun _ _ h => h
  unfold onFault
  split
  · exact hleave h
  split
  · exact hleave h
  rename_i hmore
  simp only [leaves_bind]
  refine (leaves_call h plain_cancelled).mono ?_ fun _ _ h => h
  intro cancelled t ht
  refine (turn.leaves_abandons ht).mono ?_ fun _ _ h => h
  intro abandoned u hu
  split
  · exact hleave hu
  · simp only [leaves_bind]
    refine (leaves_call hu plain_slept).mono ?_ fun _ _ h => h
    intro _ v hv
    exact ⟨hv, not_le.mp hmore⟩

/-- A failed dispatch is forfeited and recorded. -/
theorem leaves_onFailure {bound : Count} {exception : Raised}
    (h : Midway (Outstanding bound guard record reservation) s) :
    Leaves (turn.onFailure started origin attemptStarted wait attempts record reservation exception)
      s (fun next t => Midway (Even guard next.2) t ∧ (attempts : ℤ) < turn.retry.maxAttempts)
      (fun _ t => Left guard t) := by
  unfold onFailure
  simp only [leaves_bind]
  refine (leaves_call h plain_clock).mono ?_ fun _ _ h => h
  intro failedAt t ht
  refine (leaves_forfeit ht).mono ?_ fun _ _ => False.elim
  intro _ u hu
  rw [leaves_consult]
  generalize turn.callbacks.classify exception u.history = result
  cases result with
  | error e =>
    apply hu.stray
    rintro ⟨v, ⟨⟩, -⟩
  | ok verdict =>
    cases verdict with
    | foreign =>
      apply hu.stray
      rintro ⟨v, ⟨⟩, hv⟩
      exact hv rfl
    | unrecognised =>
      have hn := hu.note (c := .classified (.ok .unrecognised)) (fun _ => rfl) ⟨_, rfl, by rintro ⟨⟩⟩
      refine (turn.leaves_leave (hn.mono fun hb => hb.even rfl rfl)).mono ?_ fun _ _ h => h
      exact fun _ _ => False.elim
    | fault fault =>
      have hn := hu.note (c := .classified (.ok (.fault fault))) (fun _ => rfl) ⟨_, rfl, by rintro ⟨⟩⟩
      simp only [leaves_bind]
      exact (turn.leaves_onFault (hn.mono fun hb => hb.even rfl rfl)).mono
        (fun _ _ h => h) fun _ _ h => h

/-- A response that is refused is forfeited and recorded. -/
theorem leaves_refuse {bound : Count} {fault : Option ProviderFault} {error : Raised}
    (h : Midway (Outstanding bound guard record reservation) s) :
    Leaves (turn.refuse (α := α) started attemptStarted now attempts record reservation fault error)
      s (fun _ _ => False) (fun _ t => Left guard t) := by
  unfold refuse
  simp only [leaves_bind]
  refine (leaves_forfeit h).mono ?_ fun _ _ => False.elim
  intro _ t ht
  exact (turn.leaves_leave (ht.mono fun hb => hb.even rfl rfl)).mono
    (fun _ _ => False.elim) fun _ _ h => h

/-- A response that is measured resolves its reservation, also where it breaches it. -/
theorem leaves_settleUsage {bound : Count} {usage : Usage} {inputTokens outputTokens : Count}
    (h : Midway (Outstanding bound guard record reservation) s) :
    Leaves (settleUsage usage inputTokens outputTokens reservation) s
      (fun result t => Midway (Resolved guard record reservation result.1) t)
      (fun _ _ => False) := by
  obtain ⟨older, hd, hf⟩ := h.books.recorded
  have hheld := h.books.held
  unfold settleUsage
  simp only [leaves_bind, leaves_get]
  cases hg : s.guard with
  | none =>
    cases reservation with
    | some d => rw [hg] at hheld; exact hheld.elim
    | none =>
      rw [hg] at hheld
      rw [leaves_pure]
      refine h.mono fun hb => ⟨?_, hb.unguarded, by simp, older, hd, hf⟩
      rw [hg, show guard = none from hheld]
  | some g =>
    cases reservation with
    | none => rw [hg] at hheld; exact hheld.elim
    | some d =>
      simp only
      split
      · rw [hg] at hheld
        obtain ⟨hfree, -, hp⟩ := hheld
        have hs := h.sound g hg
        have hresolved : ∀ {e : Posting} {after : RunCostGuard} {c : Called T ρ} {settlement},
            g.Posted e after → (∀ q, e ≠ .reserved q) → c.Tidy →
            (trail s.history).note c = (trail s.history).resolve settlement →
            Midway (Resolved guard record (some d) (some settlement))
              (TurnState.note { s with guard := some after } c) := by
          intro e after c settlement hposted he hc hn
          refine h.bank (hposted.sound hs) hc ⟨?_, by rintro ⟨⟩, by simp, older, ?_, hf⟩
          · rw [hfree, pendingOf, Option.map_some, hposted.freed he]
          · rw [hn, Trail.resolve, hd]
            rfl
        simp only [leaves_bind, leaves_guarded]
        refine (RunCostGuard.settle_leaves hs (RunCostGuard.release_held hp rfl)).mono ?_ ?_
        · rintro (_ | cost) after hafter
          · obtain ⟨_, _, hposted⟩ := hafter
            exact hresolved hposted (by simp) trivial rfl
          · obtain ⟨_, _, _, _, hposted, _⟩ := hafter
            exact hresolved hposted (by simp) trivial rfl
        · rintro e after (⟨he, _, _, _, _, hposted, _⟩ | hfalse)
          · cases e with
            | reservationBreached => exact hresolved hposted (by simp) trivial rfl
            | _ => cases he
          · exact hfalse.elim
      · simp only [leaves_bind]
        exact (leaves_forfeit h).mono (fun _ _ h => h) fun _ _ h => h

/-- An answer is recorded with its one settlement, and the turn ends. -/
theorem leaves_onResponse {bound : Count} {response : ρ}
    (h : Midway (Outstanding bound guard record reservation) s) :
    Leaves (turn.onResponse started attemptStarted attempts record reservation response) s
      (fun _ t => Left guard t) (fun _ t => Left guard t) := by
  unfold onResponse
  simp only [leaves_bind]
  refine (leaves_call h plain_clock).mono ?_ fun _ _ h => h
  intro answeredAt t ht
  rw [leaves_consult]
  generalize turn.callbacks.checkIdentity response t.history = identity
  have hrefuse : ∀ {u : TurnState T ρ} {fault : Option ProviderFault} {error : Raised},
      Midway (Outstanding bound guard record reservation) u →
      Leaves (turn.refuse (α := ρ) started attemptStarted answeredAt attempts record reservation
        fault error) u (fun _ v => Left guard v) (fun _ v => Left guard v) :=
    fun hu => (turn.leaves_refuse hu).mono (fun _ _ => False.elim) fun _ _ h => h
  cases identity with
  | error e =>
    cases e with
    | adapterProvider fault detail =>
      exact hrefuse (ht.note (fun _ => rfl) (by rintro _ ⟨⟩; exact ⟨fault, detail, rfl⟩))
    | _ =>
      apply ht.stray
      intro htidy
      obtain ⟨_, _, he⟩ := htidy _ rfl
      cases he
  | ok u =>
    have hu := ht.note (c := .checkedIdentity (.ok u)) (fun _ => rfl) (by rintro _ ⟨⟩)
    simp only [leaves_bind, leaves_consult]
    generalize turn.callbacks.usageOf response _ = answer
    cases answer with
    | error e =>
      have hv := hu.note (c := .usageRead (.error e)) (fun _ => rfl) (by rintro ⟨⟩)
      cases e <;> exact hrefuse hv
    | ok usage =>
      cases usage with
      | foreign =>
        apply hu.stray
        intro htidy
        exact htidy rfl
      | tokens inputTokens outputTokens =>
        have hv := hu.note (c := .usageRead (.ok (.tokens inputTokens outputTokens)))
          (fun _ => rfl) (by rintro ⟨⟩)
        unfold recordUsage
        simp only [leaves_bind, leaves_modify, leaves_pure]
        refine (leaves_settleUsage hv).mono ?_ fun _ _ => False.elim
        rintro ⟨settlement, costUsd, breach⟩ w hw
        unfold commit
        rw [leaves_modify]
        have hleft : ∀ {usage attempt latency reason},
            attempt.costReservationUsd = reservation.map usdText →
            attempt.costSettlement = settlement →
            Left guard
              { w with usage, published := some ⟨record ++ [attempt], latency, reason⟩ } := by
          intro usage attempt latency reason hr hs
          exact closed_commit (s := { w with usage })
            (hw.measured.mono fun hb => hb.even hr hs) rfl
        cases breach <;> exact hleft rfl rfl

theorem leaves_expired {budget : T} {φ : Option RunCostGuard → Trail → Prop} (h : Midway φ s) :
    Leaves (turn.expired budget) s (fun _ t => Midway φ t) (fun _ t => Left guard t) := by
  unfold expired
  split
  · exact h
  · exact leaves_call h plain_cancelled

/-- The fuel outlasts the attempts that the policy allows. -/
theorem leaves_loop {fuel : ℕ} (h : Midway (Even guard record) s)
    (hfuel : fuel + attempts = turn.retry.maxAttempts.toNat + 1)
    (hmore : attempts = 0 ∨ (attempts : ℤ) < turn.retry.maxAttempts) :
    Leaves (turn.loop started origin fuel wait attempts record) s
      (fun _ t => Left guard t) (fun _ t => Left guard t) := by
  induction fuel generalizing s wait attempts record with
  | zero => omega
  | succ fuel ih =>
    unfold loop
    simp only [leaves_bind]
    refine (leaves_call h plain_clock).mono ?_ fun _ _ h => h
    intro attemptStarted t ht
    refine (turn.leaves_expired ht).mono ?_ fun _ _ h => h
    intro expired u hu
    split
    · exact (turn.leaves_leave hu).mono (fun _ _ => False.elim) fun _ _ h => h
    simp only [leaves_bind]
    refine (turn.leaves_authorize hu).mono ?_ fun _ _ h => h
    intro reservation v hv
    refine (turn.leaves_admit hv).mono ?_ fun _ _ h => h
    intro _ w hw
    rw [leaves_consult]
    generalize turn.callbacks.dispatch _ w.history = answer
    have hx : Midway (Outstanding turn.tokenBound guard record reservation)
        (TurnState.note w (.dispatched answer)) := by
      refine hw.note_with trivial ⟨hw.books.held, hw.books.unguarded, _, ?_, hw.books.recorded⟩
      rw [← hw.books.reserved]
      rfl
    cases answer with
    | ok response => exact turn.leaves_onResponse hx
    | error exception =>
      simp only [leaves_bind]
      refine (turn.leaves_onFailure hx).mono ?_ fun _ _ h => h
      rintro ⟨next, longer⟩ x ⟨heven, hless⟩
      exact ih heven (by omega) (.inr hless)

/-- A turn that starts with a guard in order leaves with its books closed, unless a call
strayed: then it leaves without having published anything. -/
theorem leaves_run (hs : ∀ g ∈ guard, g.Sound) :
    Leaves turn.run { guard } (fun _ t => Left guard t) (fun _ t => Left guard t) := by
  have h : Midway (Even (T := T) guard []) ({ guard } : TurnState T ρ) :=
    ⟨rfl, fun _ hc => absurd hc List.not_mem_nil, hs, rfl, fun _ => rfl, .nil⟩
  unfold run
  simp only [leaves_bind]
  refine (leaves_call h plain_clock).mono ?_ fun _ _ h => h
  intro started t ht
  exact turn.leaves_loop ht (by omega) (.inl rfl)

end Turn

theorem Left.closed_iff {guard : Option RunCostGuard} {s : TurnState T ρ} (h : Left guard s) :
    Closed guard s ↔ s.Tidy := by
  rcases h with ⟨htidy, hclosed⟩ | ⟨hnone, hstray⟩
  · exact ⟨fun _ => htidy, fun _ => hclosed⟩
  · constructor
    · rintro ⟨-, _, hsome, -⟩
      rw [hnone] at hsome
      cases hsome
    · exact fun htidy => absurd htidy hstray

/-- The state in which a turn ends, by return or by exception. -/
def Turn.after (turn : Turn T ρ) (guard : Option RunCostGuard) : TurnState T ρ :=
  match turn.run { guard } with
  | .ok _ s => s
  | .error _ s => s

/-- Over any guard that a run can hold, a turn closes its books exactly when none of the calls
that it made strayed. -/
theorem books_close_iff_tidy (turn : Turn T ρ) (guard : Option RunCostGuard)
    (reached : ∀ g ∈ guard, g.Reached) :
    Closed guard (turn.after guard) ↔ (turn.after guard).Tidy := by
  have hrun := turn.leaves_run fun g hg => (reached g hg).sound
  have hleft : Left guard (turn.after guard) := by
    unfold Turn.after
    split
    · rename_i heq
      exact hrun.ok heq
    · rename_i heq
      exact hrun.error heq
  exact hleft.closed_iff

/-- A turn on a clock that stands still, one attempt long. -/
def sampleTurn (checkIdentity : Unit → Except Raised Unit) : Turn ℤ Unit where
  time := ⟨0, (· - ·), (· * ·), (· ≤ ·)⟩
  retry := ⟨1, 1, 2⟩
  deadline := ⟨60, none⟩
  tokenBound := .whole 500
  callbacks :=
    { clock := fun _ => .ok 0
      sleep := fun _ _ => .ok ()
      cancelled := fun _ => .ok false
      dispatch := fun _ _ => .ok ()
      checkBeforeDispatch := fun _ => .ok ()
      classify := fun _ _ => .ok .unrecognised
      checkIdentity := fun response _ => checkIdentity response
      usageOf := fun _ _ => .ok (.tokens (.whole 400) (.whole 300)) }

theorem reached_sampleGuard : RunCostGuard.sampleGuard.Reached := by
  obtain ⟨built, hbuilt, hseeded⟩ : ∃ built,
      RunCostGuard.init RunCostGuard.sampleControls 500 = .ok built ∧
        RunCostGuard.seed (.finite 0) (.finite 0) built = .ok () RunCostGuard.sampleGuard :=
    ⟨_, rfl, rfl⟩
  exact .seeded (.built hbuilt) hseeded

theorem sample_books_close_iff_tidy :
    Closed (some RunCostGuard.sampleGuard)
        ((sampleTurn fun _ => .ok ()).after (some RunCostGuard.sampleGuard)) ↔
      ((sampleTurn fun _ => .ok ()).after (some RunCostGuard.sampleGuard)).Tidy :=
  books_close_iff_tidy _ _ (by rintro _ ⟨⟩; exact reached_sampleGuard)

/-- An identity check that fails in a way of its own leaves the reservation outstanding and
nothing published. -/
theorem stray_identity_check_left_open :
    pendingOf ((sampleTurn fun _ => .error (.other "AttributeError")).after
        (some RunCostGuard.sampleGuard)).guard = some (some (⟨6000, -6⟩, 1000)) ∧
      ((sampleTurn fun _ => .error (.other "AttributeError")).after
        (some RunCostGuard.sampleGuard)).published = none ∧
      ¬Closed (some RunCostGuard.sampleGuard)
        ((sampleTurn fun _ => .error (.other "AttributeError")).after
          (some RunCostGuard.sampleGuard)) := by
  have hpending : pendingOf ((sampleTurn fun _ => .error (.other "AttributeError")).after
      (some RunCostGuard.sampleGuard)).guard = some (some (⟨6000, -6⟩, 1000)) := rfl
  refine ⟨hpending, rfl, ?_⟩
  rintro ⟨hreleased, -⟩
  rw [hpending] at hreleased
  cases hreleased

end OperateBench.Providers
