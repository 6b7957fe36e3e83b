import OperateBench.Core.Scenes
import OperateBench.Core.Waits

/-! # Simulated time

The queue and the declared fallback both move the clock. It never has to go back: nothing
that is pending lies before it, and neither does a fallback that stands. So rows are in the
order of their instants, and a fallback fires at its own.
-/

namespace OperateBench

open Foundation EngineState Relation Calendar

variable {σ : Type} {E : Engine σ} {s s' s'' t : EngineState σ}

/-- The row was not written after the other one. -/
def Record.NotAfter (a b : Record) : Prop :=
  ∃ m n, strptime a.instant = .ok m ∧ strptime b.instant = .ok n ∧ m ≤ n

/-- The instant is one of the calendar, and the moment is not after it. -/
def NotBefore (moment instant : String) : Prop :=
  ∀ m, strptime moment = .ok m → ∃ n, strptime instant = .ok n ∧ m ≤ n

theorem notBefore_of_shift {moment instant context : String} {minutes : Int}
    (h : shiftMinutes moment minutes context = .ok instant) : NotBefore moment instant := by
  intro m hm
  obtain ⟨hpos, n, hn, -, hi⟩ := shiftMinutes_ok h
  obtain rfl := Except.ok.inj (hn.symm.trans hm)
  exact ⟨_, hi, by omega⟩

/-- No event of the plan is authored for an instant before its start. -/
def EpisodePlan.Forward (plan : EpisodePlan) : Prop :=
  ∀ planned ∈ plan.events, ∀ instant, planned.instant = some instant →
    ∀ start n, strptime plan.startsAt = .ok start → strptime instant = .ok n → start ≤ n

namespace Engine

section Standstill

/-- What happened while the clock stood still: rows were stamped with its instant, and nothing
was scheduled before it. -/
structure Still (s s' : EngineState σ) : Prop where
  clock : s'.clock = s.clock
  rows : ∃ rows, s'.ledger.records = s.ledger.records ++ rows ∧
    ∀ row ∈ rows, row.instant = s.clock.now
  pending : ∀ e ∈ s'.queue.pending, e ∈ s.queue.pending ∨ NotBefore s.clock.now e.instant

namespace Still

/-- Nothing was written. -/
theorem unwritten (clock : s'.clock = s.clock) (ledger : s'.ledger = s.ledger)
    (pending : ∀ e ∈ s'.queue.pending, e ∈ s.queue.pending ∨ NotBefore s.clock.now e.instant) :
    Still s s' := by
  refine ⟨clock, ⟨[], ?_, nofun⟩, pending⟩
  rw [ledger, List.append_nil]

theorem refl (s : EngineState σ) : Still s s := unwritten rfl rfl fun _ => Or.inl

theorem trans (h₁ : Still s t) (h₂ : Still t s') : Still s s' := by
  obtain ⟨rows, hr, hstamp⟩ := h₁.rows
  obtain ⟨rows', hr', hstamp'⟩ := h₂.rows
  refine ⟨h₂.clock.trans h₁.clock, ⟨rows ++ rows', ?_, ?_⟩, ?_⟩
  · rw [hr', hr, List.append_assoc]
  · intro row hrow
    rcases List.mem_append.mp hrow with hrow | hrow
    · exact hstamp row hrow
    · rw [hstamp' row hrow, h₁.clock]
  · intro e he
    rcases h₂.pending e he with he | he
    · exact h₁.pending e he
    · exact Or.inr (h₁.clock ▸ he)

theorem write (es : List Entry) : Still s (s.write es) := by
  refine ⟨rfl, ⟨_, records_write s es, ?_⟩, fun _ => Or.inl⟩
  intro row hrow
  exact (mem_numbered hrow).1

/-- An event was scheduled, and not before now. -/
theorem schedule {queue : EventQueue} {event : Event} {timerCounter : ℕ}
    {conditionals : List PlannedEvent} (h : s.queue.schedule event = .ok queue)
    (hn : NotBefore s.clock.now event.instant) :
    Still s { s with queue, timerCounter, conditionals } := by
  refine unwritten rfl rfl ?_
  intro e he
  rw [(EventQueue.schedule_ok h).2.1] at he
  rcases List.mem_append.mp he with he | he
  · exact Or.inl he
  · exact Or.inr (List.mem_singleton.mp he ▸ hn)

end Still

theorem applyEffect_ok {effect : Effect} (h : s.applyEffect effect = .ok s') :
    ∃ queue timerCounter es, EffectEntries s.clock.now [effect] es ∧
      s' = { s with queue, timerCounter }.write es := by
  apply foldlM_applyEffect_ok
  rw [List.foldlM_cons, h]
  rfl

theorem applyEffect_still {effect : Effect} (h : s.applyEffect effect = .ok s') : Still s s' := by
  cases effect with
  | record recordType payload =>
    obtain ⟨ledger, hl, h⟩ := bind_ok h
    obtain rfl := pure_ok h
    obtain rfl := TrajectoryLedger.append_ok hl
    exact Still.write [(recordType, payload)]
  | scheduleTimer eventId eventType actorId delayMinutes payload triggersAgent =>
    obtain ⟨instant, hi, h⟩ := bind_ok h
    obtain ⟨queue, hq, h⟩ := bind_ok h
    obtain rfl := log_write h
    exact (Still.schedule hq (notBefore_of_shift hi)).trans (Still.write _)
  | cancelTimer eventId =>
    have hcancel : Still s { s with queue := (s.queue.cancel eventId).2 } :=
      .unwritten rfl rfl fun _ he => Or.inl (EventQueue.mem_without.mp he).1
    rw [applyEffect, cancelTimer] at h
    split at h
    rename_i hq
    rw [hq] at hcancel
    split at h
    · obtain rfl := log_write h
      exact hcancel.trans (Still.write _)
    · exact Except.ok.inj h ▸ hcancel

/-- Every conditional that fires is due after a delay. -/
theorem fireMatching_notBefore {now typeName : String} {kind : TriggerKind}
    {cycleId : Option String} {bindings : Bindings} {events remaining : List PlannedEvent}
    {queue queue' : EventQueue}
    (h : fireMatching now kind typeName cycleId bindings events queue = .ok (remaining, queue')) :
    ∀ e ∈ queue'.pending, e ∈ queue.pending ∨ NotBefore now e.instant := by
  induction events generalizing queue remaining with
  | nil =>
    obtain ⟨-, rfl⟩ := Prod.mk.inj (Except.ok.inj h)
    exact fun _ => Or.inl
  | cons planned events ih =>
    unfold fireMatching at h
    split at h
    · cases h
    split at h
    · obtain ⟨instant, hi, h⟩ := bind_ok h
      obtain ⟨scheduled, hq, h⟩ := bind_ok h
      intro e he
      rcases ih h e he with he | he
      · rw [(EventQueue.schedule_ok hq).2.1] at he
        rcases List.mem_append.mp he with he | he
        · exact Or.inl he
        · exact Or.inr (List.mem_singleton.mp he ▸ notBefore_of_shift hi)
      · exact Or.inr he
    · obtain ⟨⟨rest, scheduled⟩, hr, h⟩ := bind_ok h
      obtain ⟨-, rfl⟩ := Prod.mk.inj (pure_ok h)
      exact ih hr

theorem Stage.still (h : E.Stage s s') : Still s s' := by
  cases h with
  | inner alike =>
    refine .unwritten alike.clock alike.ledger ?_
    intro e he
    exact Or.inl (alike.queue ▸ he)
  | row _ written => exact log_write written ▸ Still.write _
  | effect _ _ applied => exact applyEffect_still applied
  | fire fired =>
    obtain ⟨⟨conditionals, queue⟩, hf, fired⟩ := bind_ok fired
    obtain rfl := pure_ok fired
    exact .unwritten rfl rfl (fireMatching_notBefore hf)

theorem Stages.still (h : E.Stages s s') : Still s s' := by
  induction h with
  | refl => exact .refl s
  | tail _ hstage ih => exact ih.trans hstage.still

theorem Stages.delivered (h : E.Stages s s') : s'.delivered = s.delivered := by
  induction h with
  | refl => rfl
  | tail _ hstage ih =>
    rw [← ih]
    cases hstage with
    | inner alike => exact alike.delivered
    | row _ written => rw [log_write written]; rfl
    | effect _ _ applied =>
      obtain ⟨_, _, _, _, rfl⟩ := applyEffect_ok applied
      rfl
    | fire fired =>
      obtain ⟨_, _, rfl⟩ := fireConditionals_ok fired
      rfl

end Standstill

section Onward

/-- What a step does to time: all that it writes is stamped with the instant it moved to, and
what it delivers was due then. -/
structure Onward (s s' : EngineState σ) : Prop where
  later : s.clock.seconds ≤ s'.clock.seconds
  rows : ∃ rows, s'.ledger.records = s.ledger.records ++ rows ∧
    ∀ row ∈ rows, row.instant = s'.clock.now
  pending : ∀ e ∈ s'.queue.pending, NotBefore s'.clock.now e.instant ∨
    e ∈ s.queue.pending ∧ (s'.clock = s.clock ∨
      ∀ n, strptime e.instant = .ok n → s'.clock.seconds ≤ n)
  unlapsed : s'.clock = s.clock ∨ ∀ fallbackAt n, s.fallbackAt = some fallbackAt →
    strptime fallbackAt = .ok n → s'.clock.seconds ≤ n
  delivered : s'.delivered = s.delivered ∨ ∃ event disposition code,
    s'.delivered = (s.noteDelivery event disposition code).delivered ∧
      strptime event.instant = .ok s'.clock.seconds

theorem Still.onward (h : Still s s') (hd : s'.delivered = s.delivered) : Onward s s' where
  later := h.clock ▸ le_rfl
  rows := h.clock ▸ h.rows
  pending e he := (h.pending e he).elim (fun he => Or.inr ⟨he, Or.inl h.clock⟩)
    fun he => Or.inl (h.clock ▸ he)
  unlapsed := Or.inl h.clock
  delivered := Or.inl hd

/-- The clock moved on, some of what was pending was taken, and then time stood still. -/
theorem Ticks.onward {queue rest : EventQueue} {clock : SimulatedClock}
    (ht : Ticks s queue clock) (hrest : ∀ e ∈ rest.pending, e ∈ queue.pending)
    (h : Still { s with queue := rest, clock } s')
    (hd : s'.delivered = s.delivered ∨ ∃ event disposition code,
      s'.delivered = (s.noteDelivery event disposition code).delivered ∧
        strptime event.instant = .ok clock.seconds) : Onward s s' := by
  have hclock : s'.clock = clock := h.clock
  refine ⟨hclock ▸ ht.later, hclock ▸ h.rows, ?_, hclock ▸ ht.unlapsed, hclock ▸ hd⟩
  intro e he
  rcases h.pending e he with he | he
  · refine Or.inr ⟨(EventQueue.mem_sort ht.sorted).mp (hrest e he), ?_⟩
    rw [hclock]
    exact ht.clear.imp_right fun hclear => hclear e (hrest e he)
  · rw [hclock]
    exact Or.inl he

theorem step_onward (h : E.step s = .ok s') : Onward s s' := by
  unfold step at h
  split at h
  · rcases headStep_ticks h with rfl | ⟨queue, clock, ht, hstages | hdelivery⟩
    · exact Still.onward (.unwritten rfl rfl fun _ => Or.inl) rfl
    · exact ht.onward (fun _ => id) hstages.still (Or.inl hstages.delivered)
    · obtain ⟨event, t, disposition, code, hn, hm, hbefore, hafter⟩ := hdelivery
      have hnoted : Still t (t.noteDelivery event disposition code) :=
        .unwritten rfl rfl fun _ => Or.inl
      refine ht.onward (fun _ => List.mem_of_mem_tail)
        ((hbefore.still.trans hnoted).trans hafter.still) (Or.inr ⟨event, disposition, code, ?_, hm⟩)
      rw [hafter.delivered]
      change t.delivered ++ _ = s.delivered ++ _
      rw [hbefore.delivered]
  · exact (turnStep_stages h).still.onward (turnStep_stages h).delivered
  · exact Except.ok.inj h ▸ (Still.refl s).onward rfl

end Onward

section Invariant

theorem fallbackInstant_ok {wait : Wait} {fallbackAt : String}
    (h : fallbackInstant s wait = .ok (some fallbackAt)) : NotBefore s.clock.now fallbackAt := by
  unfold fallbackInstant at h
  split at h
  · cases h
  · cases hs : shiftMinutes s.clock.now _ "wait fallback" with
    | error e =>
      rw [hs] at h
      cases h
    | ok instant =>
      rw [hs] at h
      obtain rfl := Option.some.inj (Except.ok.inj h)
      exact notBefore_of_shift hs

/-- Nothing that is still to happen lies before the clock, no row lies after it, and the rows
are in order. -/
structure Timely (E : Engine σ) (s : EngineState σ) : Prop where
  onTime : E.OnTime s.clock
  begun : s.clock.startSeconds ≤ s.clock.seconds
  ahead : ∀ e ∈ s.queue.pending, ∀ n, strptime e.instant = .ok n → s.clock.seconds ≤ n
  fallback : ∀ fallbackAt, s.fallbackAt = some fallbackAt →
    ∃ n, strptime fallbackAt = .ok n ∧ s.clock.seconds ≤ n
  idle : s.control.inTurn = true → s.fallbackAt = none
  past : ∀ row ∈ s.ledger.records, ∃ n, strptime row.instant = .ok n ∧ n ≤ s.clock.seconds
  ordered : s.ledger.records.Pairwise Record.NotAfter

/-- Rows of one instant after rows that are no later are in order. -/
theorem ordered_append {rows rows' : List Record} {n : Int} (ho : rows.Pairwise Record.NotAfter)
    (hp : ∀ row ∈ rows, ∃ m, strptime row.instant = .ok m ∧ m ≤ n)
    (hn : ∀ row ∈ rows', strptime row.instant = .ok n) :
    (rows ++ rows').Pairwise Record.NotAfter := by
  rw [List.pairwise_append]
  refine ⟨ho, List.pairwise_of_forall_mem_list ?_, ?_⟩
  · intro a ha b hb
    exact ⟨n, n, hn a ha, hn b hb, le_rfl⟩
  · intro a ha b hb
    obtain ⟨m, hm, hle⟩ := hp a ha
    exact ⟨m, n, hm, hn b hb, hle⟩

theorem Timely.step (ht : E.Timely s) (h : E.step s = .ok s') : E.Timely s' := by
  have ho := step_onward h
  have htime := ht.onTime.step h
  obtain ⟨rows, hrows, hstamp⟩ := ho.rows
  have hfresh : ∀ row ∈ rows, strptime row.instant = .ok s'.clock.seconds := by
    intro row hrow
    rw [hstamp row hrow]
    exact htime.legible
  have hstart : s'.clock.startSeconds = s.clock.startSeconds :=
    Except.ok.inj (htime.origin.symm.trans ht.onTime.origin)
  refine ⟨htime, ?_, ?_, ?_, ?_, ?_, ?_⟩
  · rw [hstart]
    exact ht.begun.trans ho.later
  · intro e he n hn
    rcases ho.pending e he with hnew | ⟨hold, hclock | hclear⟩
    · obtain ⟨k, hk, hle⟩ := hnew _ htime.legible
      exact Except.ok.inj (hk.symm.trans hn) ▸ hle
    · rw [hclock]
      exact ht.ahead e hold n hn
    · exact hclear n hn
  · intro fallbackAt hf
    cases step_lapse h with
    | stands _ fallback =>
      obtain ⟨n, hn, hle⟩ := ht.fallback fallbackAt (fallback ▸ hf)
      rcases ho.unlapsed with hclock | hunlapsed
      · exact ⟨n, hn, hclock ▸ hle⟩
      · exact ⟨n, hn, hunlapsed fallbackAt n (fallback ▸ hf) hn⟩
    | declared _ _ clock _ _ fallback =>
      obtain ⟨k, hk, hle⟩ := fallbackInstant_ok (fallback.trans (congrArg _ hf)) _
        ht.onTime.legible
      exact ⟨k, hk, clock ▸ hle⟩
    | fired _ _ _ _ _ cleared => cases cleared.symm.trans hf
    | woken _ _ _ cleared => cases cleared.symm.trans hf
  · intro hturn
    cases step_lapse h with
    | stands _ fallback _ control => rw [fallback, ht.idle (control hturn)]
    | declared _ ended => cases ended.symm.trans hturn
    | fired _ _ _ _ _ cleared => exact cleared
    | woken _ _ _ cleared => exact cleared
  · intro row hrow
    rw [hrows] at hrow
    rcases List.mem_append.mp hrow with hold | hnew
    · obtain ⟨n, hn, hle⟩ := ht.past row hold
      exact ⟨n, hn, hle.trans ho.later⟩
    · exact ⟨_, hfresh row hnew, le_rfl⟩
  · rw [hrows]
    refine ordered_append ht.ordered ?_ hfresh
    intro row hrow
    obtain ⟨n, hn, hle⟩ := ht.past row hrow
    exact ⟨n, hn, hle.trans ho.later⟩

theorem scheduled_planned {events : List PlannedEvent} {queue queue' : EventQueue}
    (h : events.foldlM (fun (queue : EventQueue) planned =>
      match planned.instant with
      | none => (.ok queue : Except PyError EventQueue)
      | some instant => queue.schedule (toEvent planned instant none Dict.empty)) queue = .ok queue') :
    ∀ e ∈ queue'.pending, e ∈ queue.pending ∨ ∃ planned ∈ events,
      planned.instant = some e.instant ∧ e = toEvent planned e.instant none Dict.empty := by
  induction events generalizing queue with
  | nil =>
    obtain rfl := pure_ok h
    exact fun _ => Or.inl
  | cons planned events ih =>
    rw [List.foldlM_cons] at h
    obtain ⟨scheduled, hs, h⟩ := bind_ok h
    intro e he
    rcases ih h e he with he | ⟨later, hlater, hi⟩
    · split at hs
      · exact Or.inl (Except.ok.inj hs ▸ he)
      · rename_i instant hi
        rw [(EventQueue.schedule_ok hs).2.1] at he
        rcases List.mem_append.mp he with he | he
        · exact Or.inl he
        · rw [List.mem_singleton.mp he]
          exact Or.inr ⟨planned, List.mem_cons_self, hi, rfl⟩
    · exact Or.inr ⟨later, List.mem_cons_of_mem _ hlater, hi⟩

theorem start_timely (hp : E.plan.Forward) (h : E.start = .ok s) : E.Timely s := by
  obtain ⟨clock, hc, h⟩ := bind_ok h
  obtain ⟨queue, hq, h⟩ := bind_ok h
  obtain rfl := log_write h
  have htime := onTime_start hc
  have hstart : clock.startSeconds = clock.seconds := by
    obtain ⟨n, -, hc⟩ := bind_ok hc
    obtain rfl := pure_ok hc
    rfl
  refine ⟨htime, hstart.le, ?_, nofun, fun _ => rfl, ?_, ?_⟩
  · intro e he n hn
    rcases scheduled_planned hq e he with he | ⟨planned, hplanned, hi, _⟩
    · cases he
    · exact hstart ▸ hp planned hplanned _ hi _ _ htime.origin hn
  · intro row hrow
    obtain rfl := List.mem_singleton.mp hrow
    exact ⟨_, htime.legible, le_rfl⟩
  · exact List.pairwise_singleton _ _

/-- What is pending or conditional at the start was authored. -/
theorem start_brought (h : E.start = .ok s) : (∀ p ∈ s.conditionals, p ∈ E.plan.events) ∧
    ∀ e ∈ s.queue.pending, ∃ planned ∈ E.plan.events, ∃ instant,
      e = toEvent planned instant none Dict.empty := by
  obtain ⟨clock, _, h⟩ := bind_ok h
  obtain ⟨queue, hq, h⟩ := bind_ok h
  obtain rfl := log_ok h
  refine ⟨fun p hp => (List.mem_filter.mp hp).1, fun e he => ?_⟩
  rcases scheduled_planned hq e he with he | ⟨planned, hplanned, _, heq⟩
  · cases he
  · exact ⟨planned, hplanned, _, heq⟩

theorem timely_of_runs {P : EngineState σ → Prop} (hp : E.plan.Forward) (h₀ : E.start = .ok s)
    (h : E.RunsVia P s s') : E.Timely s' :=
  Run.invariant h (start_timely hp h₀) fun _ _ _ ht _ => ht.step

end Invariant

section Advances

/-- The next pass of the loop moves the clock to the instant. -/
inductive Advances (E : Engine σ) (s : EngineState σ) : String → String → Prop
  | fallback {upcoming : Option Event} {queue : EventQueue} {fallbackAt : String}
      (looked : s.queue.peekNext = .ok (upcoming, queue))
      (due : s.fallbackDueBefore upcoming = .ok (some fallbackAt))
      (within : E.beyondHorizon s fallbackAt = .ok false) :
      Advances E s fallbackAt "wait fallback"
  | event {event : Event} (due : E.Due s event) :
      Advances E s event.instant s!"event {event.eventId}"
  | horizon {horizonAt : String} {limit now : Int}
      (horizon : parseTimestamp horizonAt "operational horizon" = .ok limit)
      (read : parseTimestamp s.clock.now "operational horizon" = .ok now) (early : now < limit) :
      Advances E s horizonAt "operational horizon"

theorem advanceTo_of_le {clock : SimulatedClock} {moment context : String} {n : Int}
    (hm : strptime moment = .ok n) (hle : clock.seconds ≤ n) :
    clock.advanceTo moment context = .ok { clock with seconds := n } := by
  unfold SimulatedClock.advanceTo
  rw [parseTimestamp_ok.mpr hm, ok_bind, if_neg (Int.not_lt.mpr hle)]
  rfl

/-- Whatever moves the clock moves it on. -/
theorem Timely.advances (ht : E.Timely s) {moment context : String}
    (h : E.Advances s moment context) : ∃ clock, s.clock.advanceTo moment context = .ok clock := by
  cases h with
  | fallback _ due _ =>
    rcases fallbackDueBefore_ok due with ⟨_, hsome, hf⟩ | hnone
    · obtain rfl := Option.some.inj hsome
      obtain ⟨n, hn, hle⟩ := ht.fallback _ hf
      exact ⟨_, advanceTo_of_le hn hle⟩
    · cases hnone
  | event due =>
    obtain ⟨n, hn, _⟩ := bind_ok due.within
    have hn := parseTimestamp_ok.mp hn
    exact ⟨_, advanceTo_of_le hn (ht.ahead _ due.mem n hn)⟩
  | horizon horizon read early =>
    have hnow := parseTimestamp_ok.mp read
    obtain rfl := Except.ok.inj (hnow.symm.trans ht.onTime.legible)
    exact ⟨_, advanceTo_of_le (parseTimestamp_ok.mp horizon) early.le⟩

end Advances

section Course

/-- The fallback still stands: no invocation was opened, and its instant is not over. -/
structure Standing (s : EngineState σ) (fallbackAt : String) (u : EngineState σ) : Prop where
  fallback : u.fallbackAt = some fallbackAt
  uninvoked : u.invocations = s.invocations
  pending : ∃ n, strptime fallbackAt = .ok n ∧ u.clock.seconds ≤ n

/-- The fallback fired at its instant, and the row says so. -/
structure Fires (s : EngineState σ) (fallbackAt : String) (s' : EngineState σ) : Prop where
  moment : strptime fallbackAt = .ok s'.clock.seconds
  record : ∃ es, s'.ledger = s.ledger.extend s'.clock.now
    (entry "wait_declared" [("fallback_fired", .bool true)] :: es)

/-- The agent was invoked, and not after the instant of the fallback. -/
structure Preempts (s : EngineState σ) (fallbackAt : String) (s' : EngineState σ) : Prop where
  invoked : s'.invocations = s.invocations + 1
  before : ∃ n, strptime fallbackAt = .ok n ∧ s'.clock.seconds ≤ n

theorem Timely.standing (ht : E.Timely s) {fallbackAt : String}
    (hf : s.fallbackAt = some fallbackAt) : Standing s fallbackAt s :=
  ⟨hf, rfl, ht.fallback fallbackAt hf⟩

theorem Timely.fallback_step (ht : E.Timely s) {fallbackAt : String}
    (hf : s.fallbackAt = some fallbackAt) (h : E.step s = .ok s') :
    Standing s fallbackAt s' ∨ Fires s fallbackAt s' ∨ Preempts s fallbackAt s' := by
  have hpending : ∃ n, strptime fallbackAt = .ok n ∧ s'.clock.seconds ≤ n := by
    obtain ⟨n, hn, hle⟩ := ht.fallback fallbackAt hf
    rcases (step_onward h).unlapsed with hclock | hunlapsed
    · exact ⟨n, hn, hclock ▸ hle⟩
    · exact ⟨n, hn, hunlapsed fallbackAt n hf hn⟩
  cases step_lapse h with
  | stands _ fallback invocations =>
    exact Or.inl ⟨fallback.trans hf, invocations, hpending⟩
  | declared turn => cases (ht.idle turn).symm.trans hf
  | fired _ declared moment record =>
    obtain rfl := Option.some.inj (declared.symm.trans hf)
    exact Or.inr (Or.inl ⟨moment, _, record⟩)
  | woken _ invoked => exact Or.inr (Or.inr ⟨invoked, hpending⟩)

/-- Until the agent is invoked or the run ends a declared fallback stands, and then fires. -/
theorem Timely.fallback_run (ht : E.Timely s) {fallbackAt : String}
    (hf : s.fallbackAt = some fallbackAt) {j : ℕ} {u : EngineState σ}
    (h : E.runSteps j s = .ok u) : Standing s fallbackAt u ∨
      ∃ i v w, i < j ∧ E.runSteps i s = .ok v ∧ E.step v = .ok w ∧ Standing s fallbackAt v ∧
        (Fires v fallbackAt w ∨ Preempts v fallbackAt w) := by
  induction j generalizing s with
  | zero =>
    obtain rfl := Except.ok.inj h
    exact Or.inl (ht.standing hf)
  | succ j ih =>
    obtain ⟨s₁, h₁, h⟩ := bind_ok h
    rcases ht.fallback_step hf h₁ with hstanding | hleft
    · have hrest := ih (ht.step h₁) hstanding.fallback h
      have hback : ∀ {v}, Standing s₁ fallbackAt v → Standing s fallbackAt v := fun hv =>
        ⟨hv.fallback, hv.uninvoked.trans hstanding.uninvoked, hv.pending⟩
      rcases hrest with hu | ⟨i, v, w, hi, hv, hw, hstands, hleft⟩
      · exact Or.inl (hback hu)
      · refine Or.inr ⟨i + 1, v, w, by omega, ?_, hw, hback hstands, hleft⟩
        rw [runSteps, h₁]
        exact hv
    · exact Or.inr ⟨0, s, s₁, by omega, rfl, h₁, ht.standing hf, hleft⟩

end Course

section Time

/-- All that an episode does with simulated time, at any point that a run reaches. -/
structure KeepsTime (E : Engine σ) (s : EngineState σ) : Prop where
  /-- The clock never has to go back. -/
  advances : ∀ moment context, E.Advances s moment context →
    ∃ clock, s.clock.advanceTo moment context = .ok clock
  ordered : s.ledger.records.Pairwise Record.NotAfter
  closed : ∀ outcome, E.finish s = .ok outcome → outcome.trajectory.Pairwise Record.NotAfter
  /-- What a step writes is stamped with the clock, and what it delivers is due by it. -/
  stamped : ∀ s', E.step s = .ok s' → ∃ rows, s'.ledger.records = s.ledger.records ++ rows ∧
    ∀ row ∈ rows, row.instant = s'.clock.now
  delivered : ∀ s', E.step s = .ok s' → s'.delivered = s.delivered ∨
    ∃ event disposition code, s'.delivered = (s.noteDelivery event disposition code).delivered ∧
      strptime event.instant = .ok s'.clock.seconds
  fallback : ∀ fallbackAt, s.fallbackAt = some fallbackAt → ∀ j u, E.runSteps j s = .ok u →
    Standing s fallbackAt u ∨ ∃ i v w, i < j ∧ E.runSteps i s = .ok v ∧ E.step v = .ok w ∧
      Standing s fallbackAt v ∧ (Fires v fallbackAt w ∨ Preempts v fallbackAt w)
  begun : s.clock.startSeconds ≤ s.clock.seconds
  within : s.clock.seconds ≤ s.clock.startSeconds + E.plan.horizonMinutes * 60 ∨
    s.clock.seconds = s.clock.startSeconds

/-- Simulated time is monotone and bounded. -/
theorem keepsTime_of_forward (forward : E.plan.Forward) {fuel : ℕ} {s₀ : EngineState σ}
    (started : E.start = .ok s₀) (reached : E.runSteps fuel s₀ = .ok s) : E.KeepsTime s := by
  have ht := timely_of_runs forward started (runSteps_runs reached)
  refine ⟨fun _ _ => ht.advances, ht.ordered, ?_, fun _ h => (step_onward h).rows,
    fun _ h => (step_onward h).delivered, fun _ hf _ _ => ht.fallback_run hf, ht.begun,
    ht.onTime.within⟩
  intro outcome h
  obtain ⟨-, -, -, payload, htrajectory⟩ := finish_written h
  rw [htrajectory, records_write]
  refine ordered_append ht.ordered ht.past ?_
  intro row hrow
  rw [(mem_numbered hrow).1]
  exact ht.onTime.legible

/-- A wait of an hour, well before the horizon. -/
def patientKnock : Engine Bool := knockThenWait 120 (waitMinutes 60 hour_pos)

theorem patientKnock_keepsTime : ∃ s₀ s, patientKnock.start = .ok s₀ ∧
    patientKnock.runSteps 3 s₀ = .ok s ∧ s.clock.now = "2031-03-03T10:00:00Z" ∧
      patientKnock.KeepsTime s := by
  obtain ⟨s₀, h₀, hc⟩ := ok_of_any (x := patientKnock.start)
    (p := fun s₀ => (patientKnock.runSteps 3 s₀).toOption.any fun s =>
      s.clock.now = "2031-03-03T10:00:00Z") (by decide +kernel)
  obtain ⟨s, hs, hc⟩ := ok_of_any hc
  have hforward : patientKnock.plan.Forward := by
    intro planned hplanned instant hi start n hstart hn
    obtain rfl := List.mem_singleton.mp hplanned
    obtain rfl := Option.some.inj hi
    exact (Except.ok.inj (hstart.symm.trans hn)).le
  exact ⟨s₀, s, h₀, hs, of_decide_eq_true hc, keepsTime_of_forward hforward h₀ hs⟩

end Time

end Engine

end OperateBench
