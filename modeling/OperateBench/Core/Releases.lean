import OperateBench.Core.Conditionals

/-! # What a step does to the conditionals

A step settles what waits, or it commits one cause and fires what awaits that cause: the three
places that fire are taken apart with what is put to the domain before them. Along a run the
conditionals that were scheduled are those that a committed cause matched, each at the first one.
-/

namespace OperateBench

open Foundation EngineState

variable {σ : Type} {E : Engine σ} {s s' v : EngineState σ}

namespace Engine

section Proposals

/-- The domain and the read guard find in the second state what they would find in the first. -/
structure Stands (E : Engine σ) (s v : EngineState σ) : Prop where
  settles : Settles s v
  state : v.state = s.state
  now : v.clock.now = s.clock.now
  context : E.context v = E.context s
  guard : ∀ key evidenceRefs,
    E.readGuardProblem v key evidenceRefs = E.readGuardProblem s key evidenceRefs

theorem Proposed.releases {actionType : String} {payload : Fields} {evidenceRefs : List String}
    {accepted : Bool} (h : E.Proposed v actionType payload evidenceRefs accepted s')
    (hv : E.Stands s v)
    (hput : E.Passable s (.action actionType payload evidenceRefs) →
      E.Submits s ⟨E.context s, .action actionType payload evidenceRefs⟩)
    (honly : ∀ call, E.Submits s call → E.Passable s (.action actionType payload evidenceRefs)) :
    E.Releases s s' := by
  cases h with
  | stopped guard =>
    refine .quiet (hv.settles.trans (.of_eq rfl rfl)) (silent_of_idle fun call hcall => ?_)
    have hpass : E.readGuardProblem s actionType evidenceRefs = .ok none := honly call hcall
    rw [hv.guard, hpass] at guard
    cases guard
  | refused guard reduced committed verdict =>
    rw [hv.context, hv.state] at reduced
    rw [hv.guard] at guard
    obtain ⟨hsettles, -⟩ := commit_settles v committed rfl rfl
    refine .quiet ((hv.settles.trans hsettles).trans ?_) ?_
    · exact .of_eq rfl rfl
    · exact silent_of_refused (hput guard) reduced verdict
  | accepted guard reduced committed verdict fired =>
    rw [hv.context, hv.state] at reduced
    rw [hv.guard] at guard
    obtain ⟨hsettles, hclock⟩ := commit_settles v committed rfl rfl
    refine .fired ⟨_, _, hput guard, reduced, verdict, rfl⟩ ((hv.settles.trans hsettles).trans ?_)
      ?_ fired rfl rfl
    · exact .of_eq rfl rfl
    · exact (congrArg SimulatedClock.now hclock).trans hv.now

theorem Concluded.releases {outcome : Complete} {accepted : Bool}
    (h : E.Concluded v outcome accepted s') (hv : E.Stands s v)
    (hput : E.Passable s (.terminal outcome.evidenceRefs) →
      E.Submits s ⟨E.context s, .terminal outcome.evidenceRefs⟩)
    (honly : ∀ call, E.Submits s call → E.Passable s (.terminal outcome.evidenceRefs)) :
    E.Releases s s' := by
  cases h with
  | stopped guard =>
    refine .quiet (hv.settles.trans (.of_eq rfl rfl)) (silent_of_idle fun call hcall => ?_)
    have hpass : E.readGuardProblem s completeOutcomeKey outcome.evidenceRefs = .ok none :=
      honly call hcall
    rw [hv.guard, hpass] at guard
    cases guard
  | refused guard reduced committed verdict =>
    rw [hv.context, hv.state] at reduced
    rw [hv.guard] at guard
    obtain ⟨hsettles, -⟩ := commit_settles v committed rfl rfl
    refine .quiet ((hv.settles.trans hsettles).trans ?_) ?_
    · exact .of_eq rfl rfl
    · exact silent_of_refused (hput guard) reduced verdict
  | accepted guard reduced committed verdict fired =>
    rw [hv.context, hv.state] at reduced
    rw [hv.guard] at guard
    obtain ⟨hsettles, hclock⟩ := commit_settles v committed rfl rfl
    refine .fired ⟨_, _, hput guard, reduced, verdict, rfl⟩ ((hv.settles.trans hsettles).trans ?_)
      ?_ fired rfl rfl
    · exact .of_eq rfl rfl
    · exact (congrArg SimulatedClock.now hclock).trans hv.now

theorem Waited.unfired {wait : Wait} {ended : Bool} (h : E.Waited s wait ended s') :
    s'.queue = s.queue ∧ s'.conditionals = s.conditionals := by
  cases h with
  | refused => exact ⟨rfl, rfl⟩
  | standing => exact ⟨rfl, rfl⟩

theorem Handled.releases {outcome : AgentOutcome} {ended : Bool}
    (h : E.Handled v outcome ended s') (hv : E.Stands s v)
    (hput : ∀ cause, proposal? outcome = some cause → E.Passable s cause →
      E.Submits s ⟨E.context s, cause⟩)
    (honly : ∀ call, E.Submits s call → ∃ cause, proposal? outcome = some cause ∧
      E.Passable s cause) : E.Releases s s' := by
  have hone : ∀ cause, proposal? outcome = some cause → ∀ call, E.Submits s call →
      E.Passable s cause := by
    intro cause hcause call hcall
    obtain ⟨cause', hcause', hpass⟩ := honly call hcall
    obtain rfl := Option.some.inj (hcause.symm.trans hcause')
    exact hpass
  cases h with
  | wait waited =>
    obtain ⟨hq, hc⟩ := waited.unfired
    refine .quiet (hv.settles.trans (.of_eq hq hc)) (silent_of_idle fun call hcall => ?_)
    obtain ⟨cause, hcause, -⟩ := honly call hcall
    cases hcause
  | complete concluded => exact concluded.releases hv (hput _ rfl) (hone _ rfl)
  | act proposed => exact proposed.releases hv (hput _ rfl) (hone _ rfl)
  | ask proposed waited =>
    obtain ⟨hq, hc⟩ := waited.unfired
    exact (proposed.releases hv (hput _ rfl) (hone _ rfl)).trans_eq hq hc
  | unasked proposed => exact proposed.releases hv (hput _ rfl) (hone _ rfl)
  | escalate proposed waited =>
    obtain ⟨hq, hc⟩ := waited.unfired
    exact (proposed.releases hv (hput _ rfl) (hone _ rfl)).trans_eq hq hc
  | unescalated proposed => exact proposed.releases hv (hput _ rfl) (hone _ rfl)

end Proposals

section Steps

theorem Summoned.unfired {trigger : Option Event} {spent : Bool}
    (h : E.Summoned s trigger spent s') :
    s'.queue = s.queue ∧ s'.conditionals = s.conditionals := by
  cases h with
  | spent => exact ⟨rfl, rfl⟩
  | invoked => exact ⟨rfl, rfl⟩

theorem deliver_releases {event : Event} (h : E.deliver v event = .ok s') (hv : Settles s v)
    (hstate : v.state = s.state)
    (hput : E.domain.isReplayFinal s.state = false → E.Submits s ⟨E.context v, .event event⟩)
    (honly : ∀ call, E.Submits s call → E.domain.isReplayFinal s.state = false) :
    E.Releases s s' := by
  unfold deliver at h
  dsimp only at h
  rw [hstate] at h
  split at h
  · rename_i hfinal
    obtain ⟨t, ht, h⟩ := bind_ok h
    obtain rfl := log_write ht
    obtain rfl := pure_ok h
    refine .quiet (hv.trans (.of_eq rfl rfl)) (silent_of_idle fun call hcall => ?_)
    rw [honly call hcall] at hfinal
    cases hfinal
  rename_i hlive
  have hcall := hput (by simpa using hlive)
  obtain ⟨reduction, hreduced, h⟩ := bind_ok h
  have hreduced : E.domain.reduce ⟨E.context v, .event event⟩ s.state = .ok reduction := hreduced
  obtain ⟨t, hcommitted, h⟩ := bind_ok h
  obtain ⟨hsettles, hclock⟩ := commit_settles v hcommitted rfl rfl
  split at h
  · rename_i hrefused
    obtain ⟨u, hu, h⟩ := bind_ok h
    obtain rfl := log_write hu
    obtain rfl := pure_ok h
    refine .quiet ((hv.trans hsettles).trans ?_) ?_
    · exact .of_eq rfl rfl
    · exact silent_of_refused hcall hreduced (by simpa using hrefused)
  · rename_i haccepted
    obtain ⟨u, hu, h⟩ := bind_ok h
    obtain rfl := log_write hu
    obtain ⟨w, hfired, h⟩ := bind_ok h
    have hw : E.Releases s w := by
      refine .fired ⟨_, _, hcall, hreduced, by simpa using haccepted, rfl⟩
        ((hv.trans hsettles).trans ?_) ?_ hfired rfl rfl
      · exact .of_eq rfl rfl
      · exact congrArg SimulatedClock.now hclock
    split at h
    · exact pure_ok h ▸ hw
    split at h
    · exact pure_ok h ▸ hw
    · obtain ⟨x, hx, h⟩ := bind_ok h
      obtain rfl := checkDeclaredWake_write hx
      obtain ⟨⟨spent, y⟩, hy, h⟩ := bind_ok h
      obtain ⟨hq, hc⟩ := (summoned_of_outOfInvocations hy h).unfired
      exact hw.trans_eq hq hc

/-- The event that is due is what the next pass delivers. -/
theorem Due.delivers {event : Event} (hd : E.Due s event) (h : E.step s = .ok s') :
    ∃ queue clock, s.queue.sort = .ok queue ∧
      s.clock.advanceTo event.instant s!"event {event.eventId}" = .ok clock ∧
      E.deliver { s with queue := queue.tail, clock } event = .ok s' := by
  obtain ⟨queue, hp⟩ := hd.next
  obtain ⟨hs, _⟩ := EventQueue.peekNext_ok hp
  unfold step at h
  simp only [hd.control] at h
  unfold headStep at h
  rw [if_neg (by simp [hd.halt]), hp, ok_bind] at h
  dsimp only at h
  rw [show EngineState.fallbackDueBefore { s with queue } (some event) = .ok none from
    hd.noFallback, ok_bind] at h
  obtain ⟨beyond, hb, h⟩ := bind_ok h
  obtain rfl : beyond = false := Except.ok.inj (hb.symm.trans hd.within)
  obtain ⟨⟨popped, rest⟩, hpop, h⟩ := bind_ok h
  obtain ⟨rfl, rfl⟩ := Prod.mk.inj (Except.ok.inj
    ((EventQueue.popNext_of_peekNext hp).symm.trans hpop))
  obtain ⟨clock, hk, h⟩ := bind_ok h
  exact ⟨queue, clock, hs, hk, h⟩

theorem settles_sort {queue : EventQueue} (hs : s.queue.sort = .ok queue) (hq : v.queue = queue)
    (hc : v.conditionals = s.conditionals) : Settles s v := by
  constructor
  · exact hc
  · rw [hq, (EventQueue.sort_ok hs).2]
    exact fun _ => id
  · rw [hq]
    exact fun _ he => Or.inl ((EventQueue.mem_sort hs).mp he)

theorem settles_tail {queue : EventQueue} (hs : s.queue.sort = .ok queue)
    (clock : SimulatedClock) : Settles s { s with queue := queue.tail, clock } := by
  constructor
  · rfl
  · exact fun id hid => (EventQueue.sort_ok hs).2 ▸ hid
  · exact fun e he => Or.inl ((EventQueue.mem_sort hs).mp (List.mem_of_mem_tail he))

theorem headStep_releases (hc : s.control = .head) (h : E.step s = .ok s') : E.Releases s s' := by
  by_cases hdue : ∃ event, E.Due s event
  · obtain ⟨event, hd⟩ := hdue
    obtain ⟨queue, clock, hs, hmoved, hdelivered⟩ := hd.delivers h
    refine deliver_releases hdelivered (settles_tail hs clock) rfl
      (fun hlive => .event hd hs hmoved hlive) fun call hcall => ?_
    cases hcall with
    | event _ _ _ live => exact live
    | proposal control => cases hc.symm.trans control
  · have hidle : ∀ call, ¬E.Submits s call := by
      intro call hcall
      cases hcall with
      | event due => exact hdue ⟨_, due⟩
      | proposal control => cases hc.symm.trans control
    unfold step at h
    simp only [hc] at h
    refine .quiet ?_ (silent_of_idle hidle)
    cases headStep_passed hc h with
    | stopped => exact .of_eq rfl rfl
    | horizon sorted => exact settles_sort sorted rfl rfl
    | empty sorted => exact settles_sort sorted rfl rfl
    | unresolved sorted => exact settles_sort sorted rfl rfl
    | fallback sorted _ _ summoned =>
      obtain ⟨hq, hc⟩ := summoned.unfired
      exact settles_sort sorted hq hc
    | delivery due => exact absurd ⟨_, due⟩ hdue

theorem Batched.unfired {batch : RawRequests} {turn : ℕ} (h : E.Batched s batch turn s') :
    s'.queue = s.queue ∧ s'.conditionals = s.conditionals := by
  cases h with
  | refused => exact ⟨rfl, rfl⟩
  | served =>
    rename_i results _ _
    have hserving : ∀ (results : List ToolResult) (u : EngineState σ),
        (results.foldl serving u).queue = u.queue ∧
          (results.foldl serving u).conditionals = u.conditionals := by
      intro results
      induction results with
      | nil => exact fun _ => ⟨rfl, rfl⟩
      | cons result results ih =>
        intro u
        obtain ⟨hq, hc⟩ := ih (serving u result)
        rw [List.foldl_cons, hq, hc]
        unfold serving
        split <;> exact ⟨rfl, rfl⟩
    exact hserving results _

theorem turnStep_releases {trigger : Option Event} {business turn : ℕ}
    (hc : s.control = .turn trigger business turn)
    (h : E.turnStep s trigger business turn = .ok s') : E.Releases s s' := by
  have hcall : ∀ call, E.Submits s call → (business : Int) < E.plan.maxTurnsPerInvocation ∧
      turn < E.callLimit ∧ ∃ observation answer outcome cause,
        E.observation s trigger turn = .ok observation ∧
        E.agent (asking s observation turn).asked = .ok answer ∧
        outcomeContract answer = .ok outcome ∧ proposal? outcome = some cause ∧
        E.Passable s cause := by
    intro call hcall
    cases hcall with
    | event due => cases due.control.symm.trans hc
    | proposal control within allowed shown asked contract proposes guard =>
      obtain ⟨rfl, rfl, rfl⟩ := Control.turn.inj (hc.symm.trans control)
      exact ⟨within, allowed, _, _, _, _, shown, asked, contract, proposes, guard⟩
  unfold turnStep at h
  split at h
  · rename_i hspent
    obtain ⟨t, ht, h⟩ := bind_ok h
    obtain rfl := refuseInvocation_write ht
    obtain rfl := pure_ok h
    exact .quiet (.of_eq rfl rfl) (silent_of_idle fun call hput => hspent (hcall call hput).1)
  rename_i hwithin
  split at h
  · rename_i hspent
    obtain ⟨t, ht, h⟩ := bind_ok h
    obtain rfl := refuseInvocation_write ht
    obtain rfl := pure_ok h
    refine .quiet (.of_eq rfl rfl) (silent_of_idle fun call hput => ?_)
    exact absurd (hcall call hput).2.1 (not_lt.mpr hspent)
  rename_i hallowed
  obtain ⟨observation, hshown, h⟩ := bind_ok h
  obtain ⟨answer, hasked, h⟩ := bind_ok h
  have hone : ∀ call, E.Submits s call → ∃ outcome cause, outcomeContract answer = .ok outcome ∧
      proposal? outcome = some cause ∧ E.Passable s cause := by
    intro call hput
    obtain ⟨-, -, observation', answer', outcome, cause, hshown', hasked', hcontract, hproposes,
      hguard⟩ := hcall call hput
    obtain rfl := Except.ok.inj (hshown.symm.trans hshown')
    obtain rfl := Except.ok.inj (hasked.symm.trans hasked')
    exact ⟨outcome, cause, hcontract, hproposes, hguard⟩
  split at h
  · obtain ⟨t, ht, h⟩ := bind_ok h
    obtain rfl := pure_ok h
    obtain ⟨hq, hconditionals⟩ := (serveBatch_batched ht).unfired
    refine .quiet (.of_eq hq hconditionals) (silent_of_idle fun call hput => ?_)
    obtain ⟨outcome, cause, hcontract, -⟩ := hone call hput
    cases hcontract
  split at h
  · cases h
  · rename_i hproblem
    obtain ⟨t, ht, h⟩ := bind_ok h
    obtain ⟨u, hu, ht⟩ := bind_ok ht
    obtain rfl := log_write hu
    obtain rfl := pure_ok ht
    obtain rfl := pure_ok h
    refine .quiet (.of_eq rfl rfl) (silent_of_idle fun call hput => ?_)
    obtain ⟨outcome, cause, hcontract, -⟩ := hone call hput
    cases hproblem.symm.trans hcontract
  · rename_i outcome hcontract
    obtain ⟨u, hu, h⟩ := bind_ok h
    obtain rfl := log_write hu
    obtain ⟨⟨ended, t⟩, ht, h⟩ := bind_ok h
    obtain rfl := pure_ok h
    have hreleases : E.Releases s t := by
      refine (handle_handled ht).releases ⟨.of_eq rfl rfl, rfl, rfl, rfl, fun _ _ => rfl⟩ ?_ ?_
      · intro cause hproposes hguard
        exact .proposal hc (not_not.mp hwithin) (not_le.mp hallowed) hshown hasked hcontract
          hproposes hguard
      · intro call hput
        obtain ⟨outcome', cause, hcontract', hproposes, hguard⟩ := hone call hput
        obtain rfl := Except.ok.inj (hcontract.symm.trans hcontract')
        exact ⟨cause, hproposes, hguard⟩
    exact hreleases.trans_eq rfl rfl

theorem step_releases (h : E.step s = .ok s') : E.Releases s s' := by
  cases hc : s.control with
  | head => exact headStep_releases hc h
  | turn trigger business turn =>
    unfold step at h
    simp only [hc] at h
    exact turnStep_releases hc h
  | done =>
    unfold step at h
    simp only [hc] at h
    obtain rfl := Except.ok.inj h
    refine .quiet (.of_eq rfl rfl) (silent_of_idle fun call hcall => ?_)
    cases hcall with
    | event due => cases due.control.symm.trans hc
    | proposal control => cases control.symm.trans hc

end Steps

end Engine

end OperateBench

namespace OperateBench

open Foundation EngineState

variable {σ : Type} {E : Engine σ} {s s' : EngineState σ}

namespace Engine

section Runs

/-- The authored events that wait for a cause when the run begins. -/
def conditionals (E : Engine σ) : List PlannedEvent :=
  E.plan.events.filter fun planned => planned.trigger.isSome

/-- A run with the causes it committed and the authored events it scheduled for them, both in the
order of the steps. -/
inductive Trace (E : Engine σ) : List Occasion → List Event → EngineState σ → Prop
  | start {s : EngineState σ} (started : E.start = .ok s) : Trace E [] [] s
  | commit {os : List Occasion} {events : List Event} {s s' : EngineState σ} {o : Occasion}
      (before : Trace E os events s) (step : E.step s = .ok s') (commits : E.Commits s o) :
      Trace E (os ++ [o]) (events ++ scheduled s s') s'
  | quiet {os : List Occasion} {events : List Event} {s s' : EngineState σ}
      (before : Trace E os events s) (step : E.step s = .ok s') (silent : ∀ o, ¬E.Commits s o) :
      Trace E os (events ++ scheduled s s') s'

variable {os : List Occasion} {events : List Event} {o : Occasion}

theorem Trace.step (h : E.Trace os events s) (hs : E.step s = .ok s') :
    ∃ os' events', E.Trace os' events' s' := by
  by_cases hcommits : ∃ o, E.Commits s o
  · obtain ⟨o, ho⟩ := hcommits
    exact ⟨_, _, .commit h hs ho⟩
  · exact ⟨_, _, .quiet h hs fun o ho => hcommits ⟨o, ho⟩⟩

/-- Every run is traced. -/
theorem Trace.runSteps {n : ℕ} (h : E.Trace os events s) (hr : E.runSteps n s = .ok s') :
    ∃ os' events', E.Trace os' events' s' := by
  induction n generalizing os events s with
  | zero =>
    obtain rfl := Except.ok.inj hr
    exact ⟨os, events, h⟩
  | succ n ih =>
    obtain ⟨t, ht, hr⟩ := bind_ok hr
    obtain ⟨os', events', htrace⟩ := h.step ht
    exact ih htrace hr

theorem start_conditionals (h : E.start = .ok s) : s.conditionals = E.conditionals := by
  obtain ⟨clock, -, h⟩ := bind_ok h
  obtain ⟨queue, -, h⟩ := bind_ok h
  obtain rfl := log_write h
  rfl

/-- A step fires the authored events that await the cause it commits. -/
theorem scheduled_of_commits (hs : E.step s = .ok s') (ho : E.Commits s o) :
    s'.conditionals = s.conditionals.filter (fun planned => !planned.awaits o) ∧
      List.Forall₂ (FiredBy o) (s.conditionals.filter fun planned => planned.awaits o)
        (scheduled s s') := by
  cases step_releases hs with
  | quiet settles silent => exact absurd ho (silent o)
  | fired commits settles now fired queue conditionals =>
    obtain rfl := ho.unique commits
    obtain ⟨hwaiting, hfired⟩ := scheduled_of_fire settles fired now queue
    exact ⟨conditionals.trans hwaiting, hfired⟩

theorem settles_of_silent (hs : E.step s = .ok s') (h : ∀ o, ¬E.Commits s o) : Settles s s' := by
  cases step_releases hs with
  | quiet settles silent => exact settles
  | fired commits => exact absurd commits (h _)

/-- What waits are the authored events that no cause matched yet, and each of the others was
scheduled by the first cause that matched it. -/
theorem Trace.accounts (h : E.Trace os events s) :
    s.conditionals = waiting PlannedEvent.awaits E.conditionals os ∧
      List.Forall₂ (fun f e => FiredBy f.2 f.1 e)
        (firings PlannedEvent.awaits E.conditionals os) events := by
  induction h with
  | start started => exact ⟨(start_conditionals started).trans waiting_nil.symm, .nil⟩
  | commit before step commits ih =>
    obtain ⟨hwaiting, hfirings⟩ := ih
    obtain ⟨hleft, hfired⟩ := scheduled_of_commits step commits
    rw [hwaiting] at hleft hfired
    refine ⟨hleft.trans waiting_append.symm, ?_⟩
    rw [firings_append]
    exact List.rel_append hfirings (List.forall₂_map_left_iff.mpr hfired)
  | quiet before step silent ih =>
    obtain ⟨hwaiting, hfirings⟩ := ih
    have hsettles := settles_of_silent step silent
    rw [hsettles.scheduled, List.append_nil]
    exact ⟨hsettles.conditionals.trans hwaiting, hfirings⟩

/-- Along every run the authored events with a trigger are scheduled by the first accepted cause
that matches, each once: at its instant and the delay, with the authored fields rebound that the
cause established. A step that commits no cause schedules none of them. -/
theorem conditionals_fire_at_first_cause (E : Engine σ) :
    (∀ n s₀ s, E.start = .ok s₀ → E.runSteps n s₀ = .ok s → ∃ os events, E.Trace os events s) ∧
    (∀ os events s, E.Trace os events s →
      List.Forall₂ (fun f e => FiredBy f.2 f.1 e)
        (firings PlannedEvent.awaits E.conditionals os) events ∧
      ((firings PlannedEvent.awaits E.conditionals os).map Prod.fst ++
        waiting PlannedEvent.awaits E.conditionals os).Perm E.conditionals ∧
      (∀ planned o, (planned, o) ∈ firings PlannedEvent.awaits E.conditionals os ↔
        planned ∈ E.conditionals ∧ ∃ before after, os = before ++ o :: after ∧
          planned.awaits o = true ∧ ∀ earlier ∈ before, planned.awaits earlier = false) ∧
      ∀ s', E.step s = .ok s' →
        (∀ o, E.Commits s o → List.Forall₂ (FiredBy o)
          ((waiting PlannedEvent.awaits E.conditionals os).filter fun planned => planned.awaits o)
          (scheduled s s')) ∧
        ((∀ o, ¬E.Commits s o) → scheduled s s' = []) ∧
        ∀ call reduction, E.Submits s call → E.domain.reduce call s.state = .ok reduction →
          reduction.verdict.accepted = false → scheduled s s' = []) ∧
    ∀ o planned event, FiredBy o planned event → ∀ name,
      event.payload.get? name = (planned.payload.get? name).map fun authored =>
        ((o.bindings.get? name).map Value.str).getD authored := by
  refine ⟨?_, ?_, ?_⟩
  · exact fun n s₀ s hstart hruns => (Trace.start hstart).runSteps hruns
  · intro os events s htrace
    obtain ⟨hwaiting, hfirings⟩ := htrace.accounts
    refine ⟨hfirings, firings_perm, fun planned o => mem_firings, fun s' hs => ⟨?_, ?_, ?_⟩⟩
    · intro o ho
      rw [← hwaiting]
      exact (scheduled_of_commits hs ho).2
    · exact fun hsilent => (settles_of_silent hs hsilent).scheduled
    · intro call reduction hput hreduced hrefused
      exact (settles_of_silent hs (silent_of_refused hput hreduced hrefused)).scheduled
  · intro o planned event hfired name
    rw [hfired.made]
    exact get?_rebind planned.payload o.bindings name

end Runs

end Engine

end OperateBench
