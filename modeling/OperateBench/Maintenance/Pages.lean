import OperateBench.Core.Journal
import OperateBench.Core.Scenes
import OperateBench.Maintenance.Duties

/-! # The pages of a trajectory

Every scene writes one page: entries of the engine around those that an accepted call
left behind. A refused call of this operation leaves nothing behind.
-/

namespace OperateBench.Maintenance

open Foundation Engine EngineState Relation

/-- Entries were written at the instant of the clock, and so many proposals were made. -/
structure Wrote (s s' : EngineState MaintenanceState) (proposals : ℕ) (l : List Entry) : Prop where
  proposalCounter : s'.proposalCounter = s.proposalCounter + proposals
  clock : s'.clock = s.clock
  ledger : s'.ledger = s.ledger.extend s.clock.now l

/-- The call was accepted, and its effects left the entries behind. -/
structure Accepts (op : MaintenanceOperation) (P : MaintenanceState → Call → Prop)
    (s s' : EngineState MaintenanceState) (call : Call) (reduction : Reduction MaintenanceState)
    (l : List Entry) : Prop where
  put : P s.state call
  now : call.context.now = s.clock.now
  responded : op.respond call s.state = .ok reduction
  accepted : reduction.verdict.accepted = true
  state : s'.state = reduction.state
  effects : EffectEntries s.clock.now reduction.effects l

/-- One scene, as the trajectory shows it. -/
inductive Page (op : MaintenanceOperation) (P : MaintenanceState → Call → Prop) (V : Cause → Prop)
    (s s' : EngineState MaintenanceState) : Prop
  | aside {l : List Entry} (aside : Aside s s' l)
  | refused {actionType : String} {payload : Fields} {evidenceRefs : List String}
      {code detail : String} (voiced : V (.action actionType payload evidenceRefs))
      (state : s'.state = s.state)
      (wrote : Wrote s s' 1 [proposedEntry (s.proposalCounter + 1) actionType payload evidenceRefs,
        rejectedEntry (s.proposalCounter + 1) actionType code detail])
  | accepted {actionType : String} {payload : Fields} {evidenceRefs : List String}
      {context : EnvironmentContext} {reduction : Reduction MaintenanceState} {l : List Entry}
      {invalidated : Entry} (voiced : V (.action actionType payload evidenceRefs))
      (accepts : Accepts op P s s' ⟨context, .action actionType payload evidenceRefs⟩ reduction l)
      (aside : invalidated.1 ∈ asideRows)
      (wrote : Wrote s s' 1
        (proposedEntry (s.proposalCounter + 1) actionType payload evidenceRefs :: l ++
          [effectEntry (s.proposalCounter + 1) actionType reduction.verdict, invalidated]))
  | denied {outcome : Complete} {code detail : String} (state : s'.state = s.state)
      (wrote : Wrote s s' 0 [concludedEntry outcome, deniedEntry code detail])
  | concluded {outcome : Complete} {context : EnvironmentContext}
      {reduction : Reduction MaintenanceState} {l : List Entry}
      (accepts : Accepts op P s s' ⟨context, .terminal outcome.evidenceRefs⟩ reduction l)
      (wrote : Wrote s s' 0 (concludedEntry outcome :: l))
  | late {event : Event} (final : s.state.replayFinal = true) (state : s'.state = s.state)
      (wrote : Wrote s s' 0 [lateEntry event])
  | unheeded {event : Event} {verdict : Verdict} (state : s'.state = s.state)
      (wrote : Wrote s s' 0 [unheededEntry event verdict])
  | observed {event : Event} {context : EnvironmentContext}
      {reduction : Reduction MaintenanceState} {l : List Entry}
      (accepts : Accepts op P s s' ⟨context, .event event⟩ reduction l)
      (wrote : Wrote s s' 0 (l ++ [observedEntry event reduction.verdict]))

variable {op : MaintenanceOperation} {P : MaintenanceState → Call → Prop} {V : Cause → Prop}
  {s s' t : EngineState MaintenanceState} {sha256 : Value → String} {agent : OperationAgent}
  {operationId instanceId : String} {faults : List String}

/-- A refused call changed nothing and left nothing behind. -/
theorem commit_of_refused {call : Call} {state : MaintenanceState}
    {reduction : Reduction MaintenanceState} (hr : op.respond call state = .ok reduction)
    (hv : reduction.verdict.accepted = false) (hc : s.commit reduction = .ok t)
    (hs : s.state = state) : t = s := by
  subst hs
  rcases MaintenanceOperation.respond_worked hr with ⟨code, detail, rfl⟩ | ⟨ha, _⟩
  · exact commit_refused hc
  · rw [ha] at hv
    cases hv

theorem accepting_ledger {actionType : String} {verdict : Verdict} {proposal : ℕ} :
    (accepting t proposal actionType verdict).ledger = t.ledger.extend t.clock.now
      [effectEntry proposal actionType verdict,
        invalidatedEntry t .effectAccepted t.turnIndex (some actionType)] := rfl

theorem extend_between {ledger : TrajectoryLedger} {now : String} {first : Entry}
    {l rest : List Entry} : ledger.extend now (first :: l ++ rest) =
      ((ledger.extend now [first]).extend now l).extend now rest := by
  rw [extend_append, show first :: l = [first] ++ l from rfl, extend_append]

/-- Every scene of the operation is a page. -/
theorem page_of_scene (h : (op.engine sha256 agent operationId instanceId faults).Scene P V s s') :
    Page op P V s s' := by
  have hrespond : ∀ {call : Call} {state : MaintenanceState} {reduction},
      (op.domain sha256).reduce call state = .ok reduction → op.respond call state = .ok reduction :=
    fun h => (congrFun (congrFun (op.reduce_domain sha256) _) _).symm.trans h
  cases h with
  | aside aside => exact .aside aside
  | proposal proposed voiced put =>
    rename_i actionType payload evidenceRefs accepted
    cases proposed with
    | stopped => exact .refused voiced rfl ⟨rfl, rfl, rfl⟩
    | refused guard reduced committed verdict =>
      obtain rfl := commit_of_refused (hrespond reduced) verdict committed rfl
      exact .refused voiced rfl ⟨rfl, rfl, rfl⟩
    | accepted guard reduced committed verdict fired =>
      rename_i reduction t
      obtain ⟨queue, timerCounter, l, hl, ht⟩ := commit_ok committed
      obtain ⟨conditionals, queue, rfl⟩ := fireConditionals_ok fired
      have haside : (invalidatedEntry t .effectAccepted t.turnIndex (some actionType)).1 ∈ asideRows := by
        simp [invalidatedEntry, entry, asideRows]
      refine .accepted voiced ⟨put guard, rfl, hrespond reduced, verdict, ?_, hl⟩ haside
        ⟨?_, ?_, ?_⟩
      · rw [ht]; rfl
      · rw [ht]; rfl
      · rw [ht]; rfl
      · show (accepting t (s.proposalCounter + 1) actionType reduction.verdict).ledger = _
        rw [accepting_ledger, ht]
        exact extend_between.symm
  | terminal concluded voiced put =>
    cases concluded with
    | stopped => exact .denied rfl ⟨rfl, rfl, rfl⟩
    | refused guard reduced committed verdict =>
      obtain rfl := commit_of_refused (hrespond reduced) verdict committed rfl
      exact .denied rfl ⟨rfl, rfl, rfl⟩
    | accepted guard reduced committed verdict fired =>
      obtain ⟨queue, timerCounter, l, hl, rfl⟩ := commit_ok committed
      obtain ⟨conditionals, queue, rfl⟩ := fireConditionals_ok fired
      exact .concluded ⟨put guard, rfl, hrespond reduced, verdict, rfl, hl⟩ ⟨rfl, rfl, rfl⟩
  | delivery reported put =>
    cases reported with
    | late final => exact .late final rfl ⟨rfl, rfl, rfl⟩
    | rejected live reduced committed verdict =>
      obtain rfl := commit_of_refused (hrespond reduced) verdict committed rfl
      exact .unheeded rfl ⟨rfl, rfl, rfl⟩
    | accepted live reduced committed verdict fired =>
      obtain ⟨queue, timerCounter, l, hl, rfl⟩ := commit_ok committed
      obtain ⟨conditionals, queue, rfl⟩ := fireConditionals_ok fired
      refine .observed ⟨put live, rfl, hrespond reduced, verdict, rfl, hl⟩ ⟨rfl, rfl, ?_⟩
      rw [extend_append]
      rfl

section Calls

/-- The kinds of rows that stand for no accepted call. -/
def idleRows : List String :=
  asideRows ++ ["action_proposed", "action_rejected", "terminal_proposed", "terminal_rejected",
    "event_after_terminal", "event_rejected"]

/-- The row that tells of an accepted call. -/
inductive Tells (verdict : Verdict) : Call → Entry → Prop
  | effect {context : EnvironmentContext} {actionType : String} {payload : Fields}
      {evidenceRefs : List String} {proposal : ℕ} :
      Tells verdict ⟨context, .action actionType payload evidenceRefs⟩
        (effectEntry proposal actionType verdict)
  | observed {context : EnvironmentContext} {event : Event} :
      Tells verdict ⟨context, .event event⟩ (observedEntry event verdict)

/-- A page on which nothing happened. -/
structure Vacant (s s' : EngineState MaintenanceState) (now : String) (l : List Entry) : Prop where
  state : s'.state = s.state
  grown : Grown s.ledger.records s'.ledger.records now l
  idle : ∀ e ∈ l, e.1 ∈ idleRows

/-- What stands on the page of an accepted call ahead of what it left behind, and after. -/
inductive Frame (proposals : ℕ) (verdict : Verdict) : Call → List Entry → List Entry → Prop
  | action {context : EnvironmentContext} {actionType : String} {payload : Fields}
      {evidenceRefs : List String} {invalidated : Entry} (aside : invalidated.1 ∈ asideRows) :
      Frame proposals verdict ⟨context, .action actionType payload evidenceRefs⟩
        [proposedEntry (proposals + 1) actionType payload evidenceRefs]
        [effectEntry (proposals + 1) actionType verdict, invalidated]
  | terminal {context : EnvironmentContext} {outcome : Complete} :
      Frame proposals verdict ⟨context, .terminal outcome.evidenceRefs⟩ [concludedEntry outcome] []
  | event {context : EnvironmentContext} {event : Event} :
      Frame proposals verdict ⟨context, .event event⟩ [] [observedEntry event verdict]

/-- A page on which a call was accepted. -/
structure Called (op : MaintenanceOperation) (P : MaintenanceState → Call → Prop)
    (s s' : EngineState MaintenanceState) (call : Call) (reduction : Reduction MaintenanceState)
    (ahead l behind : List Entry) : Prop where
  accepts : Accepts op P s s' call reduction l
  grown : Grown s.ledger.records s'.ledger.records s.clock.now (ahead ++ l ++ behind)
  frame : Frame s.proposalCounter reduction.verdict call ahead behind

theorem Frame.still {proposals : ℕ} {verdict : Verdict} {call : Call} {ahead behind : List Entry}
    (h : Frame proposals verdict call ahead behind) : ∀ e ∈ ahead, e.1 ∈ idleRows := by
  cases h with
  | action => simp [proposedEntry, entry, idleRows]
  | terminal => simp [concludedEntry, entry, idleRows]
  | event => simp

theorem Frame.tells {proposals : ℕ} {verdict : Verdict} {call : Call} {ahead behind : List Entry}
    (h : Frame proposals verdict call ahead behind) :
    ∀ e ∈ behind, e.1 ∈ idleRows ∨ Tells verdict call e := by
  cases h with
  | action aside =>
    intro e he
    rcases List.mem_cons.mp he with rfl | he
    · exact Or.inr .effect
    · exact Or.inl (List.mem_append_left _ (List.mem_singleton.mp he ▸ aside))
  | terminal => nofun
  | event => exact fun e he => List.mem_singleton.mp he ▸ Or.inr .observed

theorem Frame.told {proposals : ℕ} {verdict : Verdict} {call : Call} {ahead behind : List Entry}
    (h : Frame proposals verdict call ahead behind) :
    (∃ evidenceRefs, call.cause = .terminal evidenceRefs) ∨ ∃ e ∈ behind, Tells verdict call e := by
  cases h with
  | action => exact Or.inr ⟨_, List.mem_cons_self, .effect⟩
  | terminal => exact Or.inl ⟨_, rfl⟩
  | event => exact Or.inr ⟨_, List.mem_cons_self, .observed⟩

theorem vacant_of_aside {l : List Entry} (h : Aside s s' l) : Vacant s s' s'.clock.now l where
  state := h.state
  grown := h.ledger ▸ grown_extend _ _ _
  idle := fun e he => List.mem_append_left _ (h.aside e he)

theorem vacant_of_wrote {n : ℕ} {l : List Entry} (state : s'.state = s.state) (wrote : Wrote s s' n l)
    (idle : ∀ e ∈ l, e.1 ∈ idleRows) : Vacant s s' s.clock.now l where
  state := state
  grown := wrote.ledger ▸ grown_extend _ _ _
  idle := idle

/-- A page is vacant or tells of one accepted call. -/
theorem Page.vacant_or_called (h : Page op P V s s') :
    (∃ now l, Vacant s s' now l) ∨
      ∃ call reduction ahead l behind, Called op P s s' call reduction ahead l behind := by
  cases h with
  | aside aside => exact Or.inl ⟨_, _, vacant_of_aside aside⟩
  | refused _ state wrote =>
    refine Or.inl ⟨_, _, vacant_of_wrote state wrote ?_⟩
    simp [proposedEntry, rejectedEntry, entry, idleRows]
  | accepted _ accepts aside wrote =>
    rename_i actionType payload evidenceRefs context reduction l invalidated _
    have hgrown : Grown s.ledger.records s'.ledger.records s.clock.now
        ([proposedEntry (s.proposalCounter + 1) actionType payload evidenceRefs] ++ l ++
          [effectEntry (s.proposalCounter + 1) actionType reduction.verdict, invalidated]) :=
      wrote.ledger ▸ grown_extend _ _ _
    exact Or.inr ⟨_, _, _, l, _, accepts, hgrown, .action aside⟩
  | denied state wrote =>
    refine Or.inl ⟨_, _, vacant_of_wrote state wrote ?_⟩
    simp [concludedEntry, deniedEntry, entry, idleRows]
  | concluded accepts wrote =>
    rename_i outcome context reduction l
    have hgrown : Grown s.ledger.records s'.ledger.records s.clock.now
        ([concludedEntry outcome] ++ l ++ []) := by
      rw [List.append_nil]
      exact wrote.ledger ▸ grown_extend _ _ _
    exact Or.inr ⟨_, _, _, l, _, accepts, hgrown, .terminal⟩
  | late _ state wrote =>
    refine Or.inl ⟨_, _, vacant_of_wrote state wrote ?_⟩
    simp [lateEntry, entry, idleRows]
  | unheeded state wrote =>
    refine Or.inl ⟨_, _, vacant_of_wrote state wrote ?_⟩
    simp [unheededEntry, entry, idleRows]
  | observed accepts wrote =>
    rename_i event context reduction l
    have hgrown : Grown s.ledger.records s'.ledger.records s.clock.now
        ([] ++ l ++ [observedEntry event reduction.verdict]) :=
      wrote.ledger ▸ grown_extend _ _ _
    exact Or.inr ⟨_, _, _, l, _, accepts, hgrown, .event⟩

end Calls

end OperateBench.Maintenance
