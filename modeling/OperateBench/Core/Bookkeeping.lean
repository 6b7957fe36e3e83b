import OperateBench.Core.Engine

/-! # What bookkeeping leaves alone

Writing rows, serving reads and declaring waits move neither the operation nor the
clock, halt nothing and only let the queue evolve. `Frame` says so for one stretch
of the program, and stretches compose.
-/

namespace OperateBench

open Foundation

variable {σ : Type} {s s' s'' : EngineState σ}

namespace EngineState

/-- The operation and the clock stand still, nothing halts, the queue only evolves. -/
structure Frame (s s' : EngineState σ) : Prop where
  state : s'.state = s.state
  clock : s'.clock = s.clock
  halt : s'.halt = s.halt
  control : s'.control = s.control
  queue : s.queue.Evolves s'.queue

namespace Frame

theorem refl (s : EngineState σ) : Frame s s := ⟨rfl, rfl, rfl, rfl, .refl _⟩

theorem trans (h₁ : Frame s s') (h₂ : Frame s' s'') : Frame s s'' where
  state := h₂.state.trans h₁.state
  clock := h₂.clock.trans h₁.clock
  halt := h₂.halt.trans h₁.halt
  control := h₂.control.trans h₁.control
  queue := h₁.queue.trans h₂.queue

end Frame

section Rows

variable {recordType code detail : String} {payload : List (String × Value)}

theorem log_ok (h : s.log recordType payload = .ok s') :
    s' = { s with ledger := s.ledger.write s.clock.now recordType (.ofList payload) } := by
  obtain ⟨ledger, hl, h⟩ := bind_ok h
  rw [← pure_ok h, TrajectoryLedger.append_ok hl]

theorem log_frame (h : s.log recordType payload = .ok s') : Frame s s' := by
  rw [log_ok h]
  exact ⟨rfl, rfl, rfl, rfl, .refl _⟩

theorem refuseInvocation_ok (h : s.refuseInvocation code detail = .ok s') :
    s' = { s with
      ledger := s.ledger.write s.clock.now "critical_violation"
        (.ofList [("code", .str code), ("detail", .str detail)])
      halt := some .deadlock } := by
  obtain ⟨t, ht, h⟩ := bind_ok h
  rw [← pure_ok h, log_ok ht]

theorem refuseWait_frame (h : s.refuseWait code detail = .ok s') : Frame s s' := by
  obtain ⟨t, ht, h⟩ := bind_ok h
  obtain rfl := pure_ok h
  exact (log_frame ht).trans ⟨rfl, rfl, rfl, rfl, .refl _⟩

theorem refuseOutcome_frame {turn : ℕ} (h : s.refuseOutcome turn detail = .ok s') :
    Frame s s' := by
  obtain ⟨t, ht, h⟩ := bind_ok h
  obtain rfl := pure_ok h
  exact (log_frame ht).trans ⟨rfl, rfl, rfl, rfl, .refl _⟩

theorem invalidateDerivedContext_frame {cause : InvalidationCause} {turnIndex : ℕ}
    {actionType : Option String}
    (h : s.invalidateDerivedContext cause turnIndex actionType = .ok s') : Frame s s' := by
  refine Frame.trans ?_ (log_frame h)
  split <;> exact ⟨rfl, rfl, rfl, rfl, .refl _⟩

theorem checkDeclaredWake_frame {event : Event} (h : s.checkDeclaredWake event = .ok s') :
    Frame s s' := by
  unfold checkDeclaredWake at h
  split at h
  · exact Except.ok.inj h ▸ .refl s
  · split at h
    · exact Except.ok.inj h ▸ .refl s
    · exact log_frame h

theorem noteDelivery_frame (event : Event) (disposition : Disposition) :
    Frame s (s.noteDelivery event disposition code) :=
  ⟨rfl, rfl, rfl, rfl, .refl _⟩

end Rows

section Timers

theorem scheduleTimer_ok {eventId eventType actorId : String} {delayMinutes : Int}
    {payload : Fields} {triggersAgent : Bool}
    (h : s.scheduleTimer eventId eventType actorId delayMinutes payload triggersAgent = .ok s') :
    ∃ event : Event, event.eventId = eventId ∧
      shiftMinutes s.clock.now delayMinutes s!"timer {eventId}" = .ok event.instant ∧
      s.queue.schedule event = .ok s'.queue ∧ Frame s s' := by
  obtain ⟨instant, hi, h⟩ := bind_ok h
  obtain ⟨queue, hq, h⟩ := bind_ok h
  have hs := log_ok h
  subst hs
  exact ⟨_, rfl, hi, hq, rfl, rfl, rfl, rfl, EventQueue.schedule_evolves hq⟩

theorem cancelTimer_frame {eventId : String} (h : s.cancelTimer eventId = .ok s') :
    Frame s s' := by
  have hq : Frame s { s with queue := (s.queue.cancel eventId).2 } :=
    ⟨rfl, rfl, rfl, rfl, EventQueue.cancel_evolves eventId⟩
  unfold cancelTimer at h
  split at h
  · rename_i he
    rw [he] at hq
    split at h
    · exact hq.trans (log_frame h)
    · exact Except.ok.inj h ▸ hq

theorem applyEffect_frame {effect : Effect} (h : s.applyEffect effect = .ok s') : Frame s s' := by
  cases effect with
  | record recordType payload =>
    obtain ⟨ledger, _, h⟩ := bind_ok h
    exact pure_ok h ▸ ⟨rfl, rfl, rfl, rfl, .refl _⟩
  | scheduleTimer =>
    obtain ⟨_, _, _, _, hf⟩ := scheduleTimer_ok h
    exact hf
  | cancelTimer => exact cancelTimer_frame h

theorem commit_frame {reduction : Reduction σ} (h : s.commit reduction = .ok s') :
    Frame { s with state := reduction.state } s' :=
  foldlM_related Frame.refl (fun _ _ _ => Frame.trans) (fun _ _ _ _ => applyEffect_frame) h

/-- A timer among the effects of a reduction is armed when it is committed. -/
theorem commit_arms {reduction : Reduction σ} {eventId eventType actorId : String}
    {delayMinutes : Int} {payload : Fields} {triggersAgent : Bool}
    (h : s.commit reduction = .ok s') (hm : Effect.scheduleTimer eventId eventType actorId
      delayMinutes payload triggersAgent ∈ reduction.effects) :
    ∃ instant, shiftMinutes s.clock.now delayMinutes s!"timer {eventId}" = .ok instant ∧
      s'.queue.Arms eventId instant := by
  obtain ⟨before, after, he⟩ := List.append_of_mem hm
  rw [commit, he, List.foldlM_append] at h
  obtain ⟨t, ht, h⟩ := bind_ok h
  rw [List.foldlM_cons] at h
  obtain ⟨u, hu, hrest⟩ := bind_ok h
  have frame : ∀ {l : List Effect} {a b : EngineState σ}, l.foldlM applyEffect a = .ok b →
      Frame a b :=
    foldlM_related Frame.refl (fun _ _ _ => Frame.trans) (fun _ _ _ _ => applyEffect_frame)
  obtain ⟨event, rfl, hi, hq, _⟩ := scheduleTimer_ok hu
  rw [(frame ht).clock] at hi
  exact ⟨event.instant, hi, (EventQueue.arms_of_schedule hq).evolves (frame hrest).queue⟩

theorem fireMatching_evolves {now typeName : String} {kind : TriggerKind}
    {cycleId : Option String} {bindings : Bindings} {events remaining : List PlannedEvent}
    {queue queue' : EventQueue}
    (h : fireMatching now kind typeName cycleId bindings events queue = .ok (remaining, queue')) :
    queue.Evolves queue' := by
  induction events generalizing queue remaining with
  | nil =>
    obtain ⟨rfl, rfl⟩ := Prod.mk.inj (Except.ok.inj h)
    exact .refl _
  | cons planned events ih =>
    rw [fireMatching] at h
    split at h
    · cases h
    · split at h
      · obtain ⟨instant, _, h⟩ := bind_ok h
        obtain ⟨q, hq, h⟩ := bind_ok h
        exact (EventQueue.schedule_evolves hq).trans (ih h)
      · obtain ⟨⟨rest, q⟩, hr, h⟩ := bind_ok h
        obtain ⟨rfl, rfl⟩ := Prod.mk.inj (pure_ok h)
        exact ih hr

theorem fireConditionals_frame {kind : TriggerKind} {typeName : String}
    {cycleId : Option String} {bindings : Bindings}
    (h : s.fireConditionals kind typeName cycleId bindings = .ok s') : Frame s s' := by
  obtain ⟨⟨conditionals, queue⟩, hq, h⟩ := bind_ok h
  obtain rfl := pure_ok h
  exact ⟨rfl, rfl, rfl, rfl, fireMatching_evolves hq⟩

end Timers

end EngineState

namespace Engine

open EngineState

variable {E : Engine σ}

section Turns

theorem recordResult_frame {turnIndex batchIndex : ℕ} {entry : ToolResult × ℕ}
    (h : recordResult turnIndex batchIndex s entry = .ok s') : Frame s s' := by
  unfold recordResult at h
  obtain ⟨_, h⟩ := unless_ok h
  refine Frame.trans ?_ (log_frame h)
  split <;> exact ⟨rfl, rfl, rfl, rfl, .refl _⟩

theorem serveBatch_frame {batch : RawRequests} {turnIndex : ℕ}
    (h : E.serveBatch s batch turnIndex = .ok s') : Frame s s' := by
  unfold serveBatch at h
  dsimp only at h
  split at h
  · cases h
  · obtain ⟨t, ht, h⟩ := bind_ok h
    obtain rfl := pure_ok h
    exact (log_frame ht).trans ⟨rfl, rfl, rfl, rfl, .refl _⟩
  · obtain ⟨results, _, h⟩ := bind_ok h
    have hf := foldlM_related Frame.refl (fun _ _ _ => Frame.trans)
      (fun _ _ _ _ => recordResult_frame) h
    refine Frame.trans ?_ hf
    exact ⟨rfl, rfl, rfl, rfl, .refl _⟩

theorem declareWait_frame {wait : Wait} {ended : Bool}
    (h : E.declareWait s wait = .ok (ended, s')) : Frame s s' := by
  unfold declareWait at h
  dsimp only at h
  split at h
  · obtain ⟨t, ht, h⟩ := bind_ok h
    obtain ⟨_, rfl⟩ := Prod.mk.inj (pure_ok h)
    exact refuseWait_frame ht
  · split at h
    · obtain ⟨t, ht, h⟩ := bind_ok h
      obtain ⟨_, rfl⟩ := Prod.mk.inj (pure_ok h)
      exact refuseWait_frame ht
    · obtain ⟨fallbackAt, _, h⟩ := bind_ok h
      obtain ⟨t, ht, h⟩ := bind_ok h
      obtain ⟨_, rfl⟩ := Prod.mk.inj (pure_ok h)
      have hf := log_frame ht
      refine Frame.trans ?_ hf
      exact ⟨rfl, rfl, rfl, rfl, .refl _⟩

end Turns

section Invocations

theorem outOfInvocations_ok {spent : Bool} (h : E.outOfInvocations s = .ok (spent, s')) :
    (spent = false ∧ s' = s ∧ s.invocations < E.plan.maxInvocations) ∨
      spent = true ∧ ¬s.invocations < E.plan.maxInvocations ∧
        ∃ detail, s.refuseInvocation "INVOCATION_LIMIT_EXCEEDED" detail = .ok s' := by
  unfold outOfInvocations at h
  split at h
  · obtain ⟨rfl, rfl⟩ := Prod.mk.inj (Except.ok.inj h)
    exact Or.inl ⟨rfl, rfl, ‹_›⟩
  · obtain ⟨t, ht, h⟩ := bind_ok h
    obtain ⟨rfl, rfl⟩ := Prod.mk.inj (pure_ok h)
    exact Or.inr ⟨rfl, ‹_›, _, ht⟩

/-- Opening an invocation moves the program to its first turn and nothing else of the frame. -/
theorem invoke_ok {trigger : Option Event} (h : E.invoke s trigger = .ok s') :
    s'.control = .turn trigger 0 0 ∧ Frame { s with control := s'.control } s' := by
  obtain ⟨t, ht, h⟩ := bind_ok h
  obtain ⟨u, hu, h⟩ := bind_ok h
  obtain rfl := pure_ok h
  have hf := (log_frame ht).trans (invalidateDerivedContext_frame hu)
  exact ⟨rfl, hf.state, hf.clock, hf.halt, rfl, hf.queue⟩

end Invocations

end Engine

end OperateBench
