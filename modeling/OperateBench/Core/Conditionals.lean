import OperateBench.Core.Pending
import OperateBench.Foundation.FirstMatch

/-! # Conditionals fire at their first cause

An authored event with a trigger waits until the domain accepts an event, an action or a terminal
that matches. It is scheduled then, some minutes later, about what that cause established.
-/

namespace OperateBench

open Foundation EngineState

variable {σ : Type} {E : Engine σ} {s s' t u : EngineState σ}

section Occasions

/-- What was accepted, when, and what it established. -/
structure Occasion where
  kind : TriggerKind
  typeName : String
  cycleId : Option String
  bindings : Bindings
  now : String

def PlannedEvent.awaits (planned : PlannedEvent) (o : Occasion) : Bool :=
  planned.trigger.any fun trigger => trigger.matches o.kind o.typeName o.cycleId

/-- The occasion makes this event of the planned one. -/
structure FiredBy (o : Occasion) (planned : PlannedEvent) (event : Event) : Prop where
  due : shiftMinutes o.now planned.delayMinutes s!"authored event {planned.eventId}" =
    .ok event.instant
  made : event = toEvent planned event.instant (some s!"{o.kind.text}:{o.typeName}") o.bindings

/-- The accepted call as an occasion: an event counts for the cycle that the domain named or that
its payload names. -/
def Call.occasion (call : Call) (verdict : Verdict) : Occasion :=
  match call.cause with
  | .event event => ⟨.event, event.eventType,
      if verdict.cycleId.getD "" ≠ "" then verdict.cycleId else cycleOf event, verdict.bindings,
      call.context.now⟩
  | .action actionType _ _ =>
    ⟨.action, actionType, verdict.cycleId, verdict.bindings, call.context.now⟩
  | .terminal _ => ⟨.action, "complete", verdict.cycleId, verdict.bindings, call.context.now⟩

theorem get?_foldl_rebind {entries : List (String × String)} (name : String)
    (hnodup : (entries.map Prod.fst).Nodup) (payload : Fields) :
    (entries.foldl (fun payload e =>
      if payload.contains e.1 then payload.set e.1 (.str e.2) else payload) payload).get? name =
      (payload.get? name).map fun authored =>
        ((Dict.findEntry name entries).map Value.str).getD authored := by
  induction entries generalizing payload with
  | nil => exact Option.map_id'.symm
  | cons e entries ih =>
    obtain ⟨key, id⟩ := e
    obtain ⟨hfirst, hnodup⟩ := List.nodup_cons.mp hnodup
    have hrest : Dict.findEntry key entries = none := by
      rw [← Option.not_isSome_iff_eq_none, Dict.findEntry_isSome]
      exact hfirst
    rw [List.foldl_cons, Dict.findEntry, ih hnodup]
    by_cases hkey : key = name
    · subst hkey
      rw [if_pos rfl, hrest]
      cases hauthored : payload.get? key with
      | none => simp [Dict.contains, hauthored]
      | some authored => simp [Dict.contains, hauthored]
    · rw [if_neg hkey]
      by_cases hcontains : payload.contains key = true
      · rw [if_pos hcontains, Dict.get?_set_of_ne _ _ hkey]
      · rw [if_neg hcontains]

/-- The authored fields that the bindings name are rebound, and nothing else. -/
theorem get?_rebind (payload : Fields) (bindings : Bindings) (name : String) :
    (rebind payload bindings).get? name = (payload.get? name).map fun authored =>
      ((bindings.get? name).map Value.str).getD authored :=
  get?_foldl_rebind name bindings.nodup payload

end Occasions

section Firing

theorem fireMatching_exact {o : Occasion} {events remaining : List PlannedEvent}
    {queue queue' : EventQueue}
    (h : fireMatching o.now o.kind o.typeName o.cycleId o.bindings events queue =
      .ok (remaining, queue')) :
    remaining = events.filter (fun planned => !planned.awaits o) ∧ ∃ puts,
      queue'.pending = queue.pending ++ puts ∧
      (∀ e ∈ puts, e.eventId ∉ queue.seen ∧ e.causedBy = some s!"{o.kind.text}:{o.typeName}") ∧
      List.Forall₂ (FiredBy o) (events.filter fun planned => planned.awaits o) puts := by
  induction events generalizing queue remaining with
  | nil =>
    obtain ⟨rfl, rfl⟩ := Prod.mk.inj (Except.ok.inj h)
    exact ⟨rfl, [], (List.append_nil _).symm, nofun, .nil⟩
  | cons planned events ih =>
    rw [fireMatching] at h
    split at h
    · cases h
    rename_i trigger htrigger
    split at h
    · rename_i hmatches
      have hawaits : planned.awaits o = true := by
        rw [PlannedEvent.awaits, htrigger]
        exact hmatches
      obtain ⟨instant, hinstant, h⟩ := bind_ok h
      obtain ⟨q, hq, h⟩ := bind_ok h
      obtain ⟨hnew, hpending, hseen⟩ := EventQueue.schedule_ok hq
      obtain ⟨hremaining, puts, hputs, hfresh, hfired⟩ := ih h
      have hfirst : FiredBy o planned
          (toEvent planned instant (some s!"{o.kind.text}:{o.typeName}") o.bindings) :=
        ⟨hinstant, rfl⟩
      simp only [List.filter_cons, hawaits, Bool.not_true, Bool.false_eq_true, if_false, if_true]
      refine ⟨hremaining, _ :: puts, ?_, ?_, .cons hfirst hfired⟩
      · rw [hputs, hpending, List.append_assoc, List.singleton_append]
      · refine List.forall_mem_cons.mpr ⟨⟨hnew, rfl⟩, fun e he => ⟨fun hmem => ?_, ?_⟩⟩
        · exact (hfresh e he).1 (hseen ▸ List.mem_cons_of_mem _ hmem)
        · exact (hfresh e he).2
    · rename_i hmatches
      have hawaits : planned.awaits o = false := by
        rw [PlannedEvent.awaits, htrigger]
        exact Bool.eq_false_of_not_eq_true hmatches
      obtain ⟨⟨rest, q⟩, hrest, h⟩ := bind_ok h
      obtain ⟨rfl, rfl⟩ := Prod.mk.inj (pure_ok h)
      obtain ⟨hremaining, hfired⟩ := ih hrest
      simp only [List.filter_cons, hawaits, Bool.not_false, Bool.false_eq_true, if_false, if_true]
      exact ⟨congrArg _ hremaining, hfired⟩

/-- The authored events that became pending between the two states: the domain's own timers
apart. -/
def scheduled (s s' : EngineState σ) : List Event :=
  s'.queue.pending.filter fun e => e.eventId ∉ s.queue.seen ∧ e.causedBy ≠ some "timer"

/-- No authored event was taken up or scheduled. -/
structure Settles (s s' : EngineState σ) : Prop where
  conditionals : s'.conditionals = s.conditionals
  seen : ∀ id ∈ s.queue.seen, id ∈ s'.queue.seen
  brought : ∀ e ∈ s'.queue.pending, e ∈ s.queue.pending ∨ e.causedBy = some "timer"

namespace Settles

theorem of_eq (hq : s'.queue = s.queue) (hc : s'.conditionals = s.conditionals) : Settles s s' := by
  constructor
  · exact hc
  · rw [hq]
    exact fun _ => id
  · rw [hq]
    exact fun _ => Or.inl

theorem trans (h₁ : Settles s t) (h₂ : Settles t u) : Settles s u := by
  constructor
  · exact h₂.conditionals.trans h₁.conditionals
  · exact fun id hid => h₂.seen id (h₁.seen id hid)
  · intro e he
    rcases h₂.brought e he with he | he
    · exact h₁.brought e he
    · exact Or.inr he

theorem scheduled (h : Settles s s') : scheduled s s' = [] := by
  rw [OperateBench.scheduled, List.filter_eq_nil_iff]
  intro e he hnew
  obtain ⟨hfresh, hcause⟩ := of_decide_eq_true hnew
  rcases h.brought e he with hold | htimer
  · exact hfresh (s.queue.consumed e hold)
  · exact hcause htimer

end Settles

/-- What fires after nothing else was scheduled is what the step scheduled. -/
theorem scheduled_of_fire {o : Occasion} (h : Settles s t)
    (hf : t.fireConditionals o.kind o.typeName o.cycleId o.bindings = .ok u)
    (hnow : t.clock.now = o.now) (hq : s'.queue = u.queue) :
    u.conditionals = s.conditionals.filter (fun planned => !planned.awaits o) ∧
      List.Forall₂ (FiredBy o) (s.conditionals.filter fun planned => planned.awaits o)
        (scheduled s s') := by
  obtain ⟨⟨conditionals, queue⟩, hmatching, hu⟩ := bind_ok hf
  obtain rfl := pure_ok hu
  rw [hnow] at hmatching
  obtain ⟨hremaining, puts, hputs, hfresh, hfired⟩ := fireMatching_exact hmatching
  rw [h.conditionals] at hremaining hfired
  have hscheduled : scheduled s s' = puts := by
    rw [scheduled, hq]
    change queue.pending.filter _ = puts
    rw [hputs, List.filter_append]
    have hold : t.queue.pending.filter (fun e => decide (e.eventId ∉ s.queue.seen ∧
        e.causedBy ≠ some "timer")) = [] := h.scheduled
    have hnew : puts.filter (fun e => decide (e.eventId ∉ s.queue.seen ∧
        e.causedBy ≠ some "timer")) = puts := by
      refine List.filter_eq_self.mpr fun e he => decide_eq_true ⟨?_, ?_⟩
      · exact fun hmem => (hfresh e he).1 (h.seen _ hmem)
      · rw [(hfresh e he).2]
        exact fun heq => ne_timer _ _ (Option.some.inj heq)
    rw [hold, hnew, List.nil_append]
  exact ⟨hremaining, hscheduled ▸ hfired⟩

end Firing

namespace Engine

section Causes

/-- The call that the next step puts to the domain: the event that is due, or what the agent's
answer proposes where the read guard lets it pass. -/
inductive Submits (E : Engine σ) (s : EngineState σ) : Call → Prop
  | event {event : Event} {queue : EventQueue} {clock : SimulatedClock} (due : E.Due s event)
      (sorted : s.queue.sort = .ok queue)
      (moved : s.clock.advanceTo event.instant s!"event {event.eventId}" = .ok clock)
      (live : E.domain.isReplayFinal s.state = false) :
      Submits E s ⟨E.context { s with queue := queue.tail, clock }, .event event⟩
  | proposal {trigger : Option Event} {business turn : ℕ} {observation : AgentObservation}
      {answer : Answer} {outcome : AgentOutcome} {cause : Cause}
      (control : s.control = .turn trigger business turn)
      (within : (business : Int) < E.plan.maxTurnsPerInvocation) (allowed : turn < E.callLimit)
      (shown : E.observation s trigger turn = .ok observation)
      (asked : E.agent (asking s observation turn).asked = .ok answer)
      (contract : outcomeContract answer = .ok outcome) (proposes : proposal? outcome = some cause)
      (guard : E.Passable s cause) : Submits E s ⟨E.context s, cause⟩

/-- The next step commits a cause: the domain accepts the call that is put to it. -/
def Commits (E : Engine σ) (s : EngineState σ) (o : Occasion) : Prop :=
  ∃ call reduction, E.Submits s call ∧ E.domain.reduce call s.state = .ok reduction ∧
    reduction.verdict.accepted = true ∧ o = call.occasion reduction.verdict

theorem Submits.unique {call call' : Call} (h : E.Submits s call) (h' : E.Submits s call') :
    call = call' := by
  cases h with
  | event due sorted moved live =>
    cases h' with
    | event due' sorted' moved' live' =>
      obtain ⟨queue, hnext⟩ := due.next
      obtain ⟨queue', hnext'⟩ := due'.next
      obtain ⟨hevent, -⟩ := Prod.mk.inj (Except.ok.inj (hnext.symm.trans hnext'))
      obtain rfl := Option.some.inj hevent
      obtain rfl := Except.ok.inj (sorted.symm.trans sorted')
      obtain rfl := Except.ok.inj (moved.symm.trans moved')
      rfl
    | proposal control => cases due.control.symm.trans control
  | proposal control within allowed shown asked contract proposes guard =>
    cases h' with
    | event due' => cases due'.control.symm.trans control
    | proposal control' within' allowed' shown' asked' contract' proposes' guard' =>
      obtain ⟨rfl, rfl, rfl⟩ := Control.turn.inj (control.symm.trans control')
      obtain rfl := Except.ok.inj (shown.symm.trans shown')
      obtain rfl := Except.ok.inj (asked.symm.trans asked')
      obtain rfl := Except.ok.inj (contract.symm.trans contract')
      obtain rfl := Option.some.inj (proposes.symm.trans proposes')
      rfl

theorem Commits.unique {o o' : Occasion} (h : E.Commits s o) (h' : E.Commits s o') : o = o' := by
  obtain ⟨call, reduction, hput, hreduced, -, rfl⟩ := h
  obtain ⟨call', reduction', hput', hreduced', -, rfl⟩ := h'
  obtain rfl := hput.unique hput'
  obtain rfl := Except.ok.inj (hreduced.symm.trans hreduced')
  rfl

/-- What a step does to the authored events: nothing, or it fires those that await the cause it
commits. -/
inductive Releases (E : Engine σ) (s s' : EngineState σ) : Prop
  | quiet (settles : Settles s s') (silent : ∀ o, ¬E.Commits s o)
  | fired {o : Occasion} {t u : EngineState σ} (commits : E.Commits s o) (settles : Settles s t)
      (now : t.clock.now = o.now)
      (fired : t.fireConditionals o.kind o.typeName o.cycleId o.bindings = .ok u)
      (queue : s'.queue = u.queue) (conditionals : s'.conditionals = u.conditionals)

theorem silent_of_refused {call : Call} {reduction : Reduction σ} (hput : E.Submits s call)
    (hreduced : E.domain.reduce call s.state = .ok reduction)
    (hrefused : reduction.verdict.accepted = false) : ∀ o, ¬E.Commits s o := by
  rintro o ⟨call', reduction', hput', hreduced', haccepted, -⟩
  obtain rfl := hput.unique hput'
  obtain rfl := Except.ok.inj (hreduced.symm.trans hreduced')
  rw [hrefused] at haccepted
  cases haccepted

theorem silent_of_idle (h : ∀ call, ¬E.Submits s call) : ∀ o, ¬E.Commits s o :=
  fun _ ⟨call, _, hput, _⟩ => h call hput

theorem Releases.trans_eq (h : E.Releases s t) (hq : s'.queue = t.queue)
    (hc : s'.conditionals = t.conditionals) : E.Releases s s' := by
  cases h with
  | quiet settles silent => exact .quiet (settles.trans (.of_eq hq hc)) silent
  | fired commits settles now fired queue conditionals =>
    exact .fired commits settles now fired (hq.trans queue) (hc.trans conditionals)

/-- What the domain asks of the environment schedules timers only. -/
theorem commit_settles (s : EngineState σ) {reduction : Reduction σ}
    (h : t.commit reduction = .ok s')
    (hq : t.queue = s.queue) (hc : t.conditionals = s.conditionals) :
    Settles s s' ∧ s'.clock = t.clock := by
  have hframe := commit_frame h
  have hbrings := fun e => foldlM_applyEffect_brings (e := e) h
  obtain ⟨queue, timerCounter, es, -, rfl⟩ := commit_ok h
  refine ⟨⟨hc, hq ▸ hframe.queue.seen, fun e he => ?_⟩, rfl⟩
  rcases hbrings e he with hold | ⟨_, _, _, _, _, _, _, -, harmed⟩
  · exact Or.inl (hq ▸ hold)
  · exact Or.inr harmed.cause

end Causes

end Engine

end OperateBench
