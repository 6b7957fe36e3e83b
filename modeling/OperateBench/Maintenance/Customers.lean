import OperateBench.Maintenance.Standing

/-! # The customer on record

The issue is reported once. When its report triggers the agent, the trajectory names the
actor who reported it, and the grader finds one customer as soon as there is one.
-/

namespace OperateBench.Maintenance

open Foundation Engine EngineState MaintenanceOperation

variable {op : MaintenanceOperation} {P : MaintenanceState → Call → Prop} {V : Cause → Prop}
  {s s' : EngineState MaintenanceState} {call : Call} {reduction : Reduction MaintenanceState}
  {ahead l behind : List Entry} {R R' : List Record} {now : String} {e : Entry}

/-- The event reports the issue. -/
def ReportsIssue (event : Event) : Prop := event.eventType = "customer_issue_reported"

/-- The call leaves the issue and the actor who reported it alone. -/
def SilentOnIssue (call : Call) : Prop :=
  ∀ context event, call = ⟨context, .event event⟩ → ¬ReportsIssue event

/-- The issue was reported by the event, and it was the first report. -/
structure FirstReport (state : MaintenanceState) (event : Event)
    (reduction : Reduction MaintenanceState) : Prop where
  first : state.issueId = none
  reported : reduction.state.issueId.isSome = true
  actor : reduction.state.issueReportingActorId = some event.actorId
  code : reduction.verdict.code = "ACCEPTED"

theorem Admits.named_iff {event : Event} {eventType : EventType} (h : op.Admits event eventType) :
    ReportsIssue event ↔ eventType = .customerIssueReported := by
  rw [ReportsIssue, ← EventType.text_of_ofText? h.named]
  cases eventType <;> simp [EventType.text]

theorem reduceEvent_firstReport {state : MaintenanceState} {context : EnvironmentContext}
    {event : Event} (h : op.reduceEvent state event context = .ok reduction)
    (ha : reduction.verdict.accepted = true) (he : ReportsIssue event) :
    FirstReport state event reduction := by
  have hrefused : ∀ {code detail : String} {P : Prop}, refuse state code detail = .ok reduction → P := by
    intro code detail P hr
    obtain rfl := Except.ok.inj hr
    cases ha
  rcases reduceEvent_cases h with ⟨code, detail, rfl⟩ | ⟨eventType, admitted, _⟩
  · cases ha
  obtain rfl := (Admits.named_iff admitted).mp he
  rw [reduceEvent_admitted admitted] at h
  unfold reducer reduceIssueReported at h
  dsimp only at h
  split at h
  · exact hrefused h
  rename_i hfirst
  split at h
  · exact hrefused h
  · obtain rfl := Except.ok.inj h
    exact ⟨by simpa using hfirst, rfl, rfl, rfl⟩

theorem Commit.issue {state : MaintenanceState} {cause : Cause} {t : Transaction}
    (h : Commit op now state cause t) (hs : ∀ event, cause = .event event → ¬ReportsIssue event) :
    t.state.issueId = state.issueId ∧
      t.state.issueReportingActorId = state.issueReportingActorId := by
  cases h with
  | issueReported admitted =>
    exact absurd ((Admits.named_iff admitted).mpr rfl) (hs _ rfl)
  | _ => exact ⟨rfl, rfl⟩

/-- The rows that report the issue. -/
def issueRows (R : List Record) : List Record :=
  (Evaluator.rows R "event_observed").filter fun row =>
    row.gives "event_type" "customer_issue_reported" && row.gives "code" "ACCEPTED"

/-- The actors whose reports are on record are the one who reported the issue, if any. -/
structure Reported (R : List Record) (state : MaintenanceState) : Prop where
  actors : (issueRows R).map (fun row => row.get "actor_id") =
    state.issueReportingActorId.toList.map Value.str
  unreported : state.issueId = none → state.issueReportingActorId = none

/-- A report of the issue wakes the agent. -/
def Heard (call : Call) : Prop :=
  ∀ context event, call = ⟨context, .event event⟩ → ReportsIssue event →
    event.triggersAgent = true

theorem issueRows_append (R R' : List Record) : issueRows (R ++ R') = issueRows R ++ issueRows R' := by
  simp only [issueRows, Evaluator.rows, List.filter_append]

theorem issueRows_grown (hg : Grown R R' now l) :
    issueRows R' = issueRows R ++ issueRows (numbered R.length now l) :=
  hg ▸ issueRows_append _ _

theorem issueRows_nil (h : ∀ row ∈ R, row.recordType ≠ "event_observed") : issueRows R = [] := by
  have hnone : Evaluator.rows R "event_observed" = [] := by
    refine List.filter_eq_nil_iff.mpr fun row hr ht => h row hr ?_
    simpa [Record.isType] using ht
  rw [issueRows, hnone, List.filter_nil]

theorem issueRows_numbered {start : ℕ} (h : ∀ e ∈ l, e.1 ≠ "event_observed") :
    issueRows (numbered start now l) = [] :=
  issueRows_nil fun _ hr => h _ (mem_numbered hr).2

theorem observed_get {event : Event} {verdict : Verdict} {index : ℕ} {name : String} {v : Value}
    (hm : (name, v) ∈ [("event_id", Value.str event.eventId), ("event_type", .str event.eventType),
      ("actor_id", .str event.actorId), ("code", .str verdict.code),
      ("observational", .bool verdict.observational)]) :
    (Entry.row (observedEntry event verdict) index now).get name = v :=
  Fields.get_ofList (by simp [identityFields]) hm

theorem observed_isType {event : Event} {verdict : Verdict} {index : ℕ}
    (h : event.triggersAgent = true) :
    (Entry.row (observedEntry event verdict) index now).isType "event_observed" = true := by
  simp [Record.isType, Entry.row, observedEntry, acceptedType, entry, h]

/-- The row about a report of the issue. -/
theorem issueRows_report {event : Event} {verdict : Verdict} {start : ℕ}
    (he : ReportsIssue event) (hw : event.triggersAgent = true)
    (hcode : verdict.code = "ACCEPTED") :
    issueRows (numbered start now [observedEntry event verdict]) =
      [Entry.row (observedEntry event verdict) start now] := by
  have htype : (Entry.row (observedEntry event verdict) start now).gives "event_type"
      "customer_issue_reported" = true := gives_of_get ((observed_get (by simp)).trans (congrArg _ he))
  have hgives : (Entry.row (observedEntry event verdict) start now).gives "code" "ACCEPTED" = true :=
    gives_of_get ((observed_get (by simp)).trans (congrArg _ hcode))
  have hkind : (Entry.row (observedEntry event verdict) start now).isType "event_observed" = true :=
    observed_isType hw
  rw [numbered_cons, show numbered (start + 1) now [] = [] from rfl]
  simp only [issueRows, Evaluator.rows, List.filter_cons, hkind, htype, hgives, if_true,
    List.filter_nil, Bool.and_self]

theorem issueRows_other {event : Event} {verdict : Verdict} {start : ℕ}
    (he : ¬ReportsIssue event) :
    issueRows (numbered start now [observedEntry event verdict]) = [] := by
  have htype : (Entry.row (observedEntry event verdict) start now).gives "event_type"
      "customer_issue_reported" = false := by
    rw [Record.gives, observed_get (v := .str event.eventType) (by simp)]
    simpa [ReportsIssue] using he
  rw [numbered_cons, issueRows, List.filter_eq_nil_iff]
  intro row hr
  have : row = Entry.row (observedEntry event verdict) start now :=
    List.mem_singleton.mp (List.mem_filter.mp hr).1
  simp [this, htype]

theorem Reported.vacant (h : Reported s.ledger.records s.state) (hv : Vacant s s' now l) :
    Reported s'.ledger.records s'.state := by
  rw [hv.state]
  refine ⟨?_, h.unreported⟩
  have hquiet : ∀ e ∈ l, e.1 ≠ "event_observed" := fun e he ht =>
    absurd (hv.idle e he) (by rw [ht]; decide)
  rw [issueRows_grown hv.grown, issueRows_numbered hquiet, List.append_nil, h.actors]

theorem Reported.called (h : Reported s.ledger.records s.state)
    (hc : Called op P s s' call reduction ahead l behind) (hheard : Heard call) :
    Reported s'.ledger.records s'.state := by
  have hleft : ∀ e ∈ l, e.1 ≠ "event_observed" := fun e he ht =>
    absurd (hc.accepts.mem_operationRows he) (by rw [ht]; decide)
  have hahead : ∀ e ∈ ahead, e.1 ≠ "event_observed" := fun e he ht =>
    absurd (hc.frame.still e he) (by rw [ht]; decide)
  have hsplit : issueRows s'.ledger.records = issueRows s.ledger.records ++
      issueRows (numbered (s.ledger.records.length + (ahead ++ l).length) s.clock.now behind) := by
    have hquiet : ∀ e ∈ ahead ++ l, e.1 ≠ "event_observed" := fun e he =>
      (List.mem_append.mp he).elim (hahead e) (hleft e)
    rw [issueRows_grown hc.grown, numbered_append, issueRows_append, issueRows_numbered hquiet,
      List.nil_append]
  have hcommit : (∀ event, call.cause = .event event → ¬ReportsIssue event) →
      s'.state.issueId = s.state.issueId ∧
        s'.state.issueReportingActorId = s.state.issueReportingActorId := by
    intro hs
    rw [hc.accepts.state]
    rcases respond_answered hc.accepts.responded with ⟨code, detail, rfl⟩ | ⟨_, commit⟩
    · exact ⟨rfl, rfl⟩
    · exact commit.issue hs
  -- Nothing but a first report adds a row that reports the issue.
  have hsilent : (∀ event, call.cause = .event event → ¬ReportsIssue event) →
      issueRows (numbered (s.ledger.records.length + (ahead ++ l).length) s.clock.now behind) = [] →
      Reported s'.ledger.records s'.state := by
    intro hs hnone
    obtain ⟨hissue, hactor⟩ := hcommit hs
    exact ⟨by rw [hsplit, hnone, List.append_nil, hactor, h.actors], by rw [hissue, hactor]; exact h.unreported⟩
  cases hc.frame with
  | action aside =>
    refine hsilent nofun (issueRows_numbered fun e he ht => ?_)
    rcases List.mem_cons.mp he with rfl | he
    · exact absurd ht (by decide : "effect_accepted" ≠ "event_observed")
    · rw [List.mem_singleton.mp he] at ht
      exact absurd aside (by rw [ht]; decide)
  | terminal => exact hsilent nofun (issueRows_numbered nofun)
  | event =>
    rename_i context event
    by_cases he : ReportsIssue event
    · have hfirst := reduceEvent_firstReport hc.accepts.responded hc.accepts.accepted he
      have hwakes := hheard _ _ rfl he
      have hold : s.state.issueReportingActorId = none := h.unreported hfirst.first
      rw [hc.accepts.state]
      refine ⟨?_, fun hn => ?_⟩
      · rw [hsplit, List.map_append, h.actors, hold, hfirst.actor,
          issueRows_report he hwakes hfirst.code, List.map_singleton,
          observed_get (v := .str event.actorId) (by simp)]
        rfl
      · have := hfirst.reported
        rw [hn] at this
        cases this
    · exact hsilent (fun e hcause => Cause.event.inj hcause ▸ he) (issueRows_other he)

/-- The grader finds the customer. -/
theorem Reported.customers {state : MaintenanceState} (h : Reported R state) :
    Evaluator.customers R = .ok (state.issueReportingActorId.toList.map Value.str) := by
  have hrows : Evaluator.customers R = Value.asSet ((issueRows R).map fun row => row.get "actor_id") :=
    rfl
  rw [hrows, h.actors]
  cases state.issueReportingActorId <;> rfl

end OperateBench.Maintenance
