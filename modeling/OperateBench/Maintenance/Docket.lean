import OperateBench.Core.Journal
import OperateBench.Foundation.Naming
import OperateBench.Maintenance.Evaluator
import OperateBench.Maintenance.Pages
import OperateBench.Core.Budgets

/-! # Proposals and their answers on record

Proposals are numbered in the order in which they are made, and each is answered before the next.
What an accepted message left behind therefore stands between its proposal and the one row that
accepts it. No reduction writes a row about an allowance, so every episode ends within its
budgets.
-/

namespace OperateBench.Maintenance

open Foundation Engine EngineState

section Kinds

/-- The kinds of rows that accepted calls leave behind. -/
def operationRows : List String :=
  ["checkpoint_opened", "checkpoint_resolved", "operation_reopened", "terminal_accepted",
    "provisional_close_entered", "side_effect", "side_effect_failed", "obligation_created",
    "obligation_discharged", "obligation_cancelled", "obligation_breached", "timer_scheduled",
    "timer_cancelled"]

variable {op : MaintenanceOperation} {P : MaintenanceState → Call → Prop}
  {s s' : EngineState MaintenanceState} {call : Call} {reduction : Reduction MaintenanceState}
  {l : List Entry} {e : Entry}

theorem Accepts.ops (h : Accepts op P s s' call reduction l) :
    Transaction.Ops call.context.now (terms op s.state call) (Transaction.begin s.state)
      ⟨reduction.state, reduction.effects⟩ := by
  rcases MaintenanceOperation.respond_worked h.responded with ⟨code, detail, rfl⟩ | ⟨_, ops⟩
  · cases h.accepted
  · exact ops

/-- A row left behind is one that the handler writes, or is about a timer. -/
theorem Accepts.row (h : Accepts op P s s' call reduction l) (he : e ∈ l) :
    RowOf (terms op s.state call).writes e.1 e.2 ∨ e.1 = "timer_scheduled" ∨ e.1 = "timer_cancelled" :=
  (h.effects.source he).imp_left fun hm => Ops.rows h.ops hm

theorem RowOf.mem_operationRows {state : MaintenanceState} {recordType : String} {payload : Fields}
    (h : RowOf (terms op state call).writes recordType payload) : recordType ∈ operationRows := by
  cases h with
  | own own => cases own <;> decide
  | created => decide
  | closed => rename_i duty closure; cases closure <;> decide

theorem Accepts.mem_operationRows (h : Accepts op P s s' call reduction l) (he : e ∈ l) :
    e.1 ∈ operationRows := by
  rcases h.row he with hr | ht | ht
  · exact hr.mem_operationRows
  · rw [ht]; decide
  · rw [ht]; decide

end Kinds

section Labels

variable {R R' : List Record} {now : String} {l : List Entry} {types : List String}

/-- The proposals that rows of the kinds are about. -/
def labels (types : List String) (R : List Record) : List Value :=
  (R.filter fun row => row.recordType ∈ types).map fun row => row.get "proposal_id"

def pageLabels (types : List String) (l : List Entry) : List Value :=
  (l.filter fun e => e.1 ∈ types).map fun e => Fields.get e.2 "proposal_id"

theorem filter_numbered (p : Entry → Bool) (start : ℕ) (now : String) (l : List Entry) :
    ((numbered start now l).filter fun row => p (row.recordType, row.payload)).map
        (fun row => (row.recordType, row.payload)) = l.filter p := by
  induction l generalizing start with
  | nil => rfl
  | cons e l ih =>
    simp only [numbered, List.filter_cons]
    split
    · rw [List.map_cons, ih]
    · exact ih _

theorem labels_grown (h : Grown R R' now l) : labels types R' = labels types R ++ pageLabels types l := by
  rw [Grown] at h
  rw [h, labels, List.filter_append, List.map_append, ← labels, pageLabels,
    ← filter_numbered (fun e => e.1 ∈ types) R.length now l, List.map_map]
  rfl

/-- The first `n` numbers of proposals. -/
def numbers (n : ℕ) : List Value := (List.range n).map fun k => .str (proposalId (k + 1))

theorem numbers_succ (n : ℕ) : numbers (n + 1) = numbers n ++ [.str (proposalId (n + 1))] := by
  simp [numbers, List.range_succ]

theorem proposalId_injective {m n : ℕ} (h : proposalId m = proposalId n) : m = n :=
  natText_injective ((String.append_right_inj _).mp h)

theorem nodup_numbers (n : ℕ) : (numbers n).Nodup := by
  refine List.nodup_range.map fun a b h => ?_
  exact Nat.succ.inj (proposalId_injective (Value.str.inj h))

/-- Rows of the kinds with one label stand at one position. -/
theorem position_unique {i j : ℕ} {a b : Record} (hn : (labels types R).Nodup)
    (ha : R[i]? = some a) (hb : R[j]? = some b) (hta : a.recordType ∈ types)
    (htb : b.recordType ∈ types) (h : a.get "proposal_id" = b.get "proposal_id") : i = j := by
  have hp : R.Pairwise fun a b => a.recordType ∈ types → b.recordType ∈ types →
      a.get "proposal_id" ≠ b.get "proposal_id" := by
    simpa [labels, List.Nodup, List.pairwise_map, List.pairwise_filter] using hn
  obtain ⟨hi, rfl⟩ := List.getElem?_eq_some_iff.mp ha
  obtain ⟨hj, rfl⟩ := List.getElem?_eq_some_iff.mp hb
  rw [List.pairwise_iff_getElem] at hp
  rcases Nat.lt_trichotomy i j with hlt | heq | hgt
  · exact absurd h (hp i j hi hj hlt hta htb)
  · exact heq
  · exact absurd h.symm (hp j i hj hi hgt htb hta)

end Labels

section Docket

variable {op : MaintenanceOperation} {P : MaintenanceState → Call → Prop} {V : Cause → Prop}
  {s s' : EngineState MaintenanceState} {call : Call} {reduction : Reduction MaintenanceState}
  {n : ℕ} {l : List Entry} {types : List String}

theorem Wrote.grown (h : Wrote s s' n l) :
    Grown s.ledger.records s'.ledger.records s.clock.now l := h.ledger ▸ grown_extend _ _ _

theorem aside_grown (h : Aside s s' l) :
    Grown s.ledger.records s'.ledger.records s'.clock.now l := h.ledger ▸ grown_extend _ _ _

theorem pageLabels_append (types : List String) (l l' : List Entry) :
    pageLabels types (l ++ l') = pageLabels types l ++ pageLabels types l' := by
  simp [pageLabels]

theorem pageLabels_nil (h : ∀ e ∈ l, e.1 ∉ types) : pageLabels types l = [] := by
  simpa [pageLabels] using h

theorem Accepts.pageLabels_nil (h : Accepts op P s s' call reduction l)
    (ht : ∀ t ∈ types, t ∉ operationRows) : pageLabels types l = [] :=
  Maintenance.pageLabels_nil fun e he hm => ht e.1 hm (h.mem_operationRows he)

def proposalRows : List String := ["action_proposed"]

def answerRows : List String := ["action_rejected", "effect_accepted"]

/-- Every proposal is numbered and answered once. -/
structure Docketed (s : EngineState MaintenanceState) : Prop where
  proposed : labels proposalRows s.ledger.records = numbers s.proposalCounter
  answered : labels answerRows s.ledger.records = numbers s.proposalCounter

/-- A page without proposals leaves the docket as it is. -/
theorem Docketed.quiet {now : String} (h : Docketed s)
    (hg : Grown s.ledger.records s'.ledger.records now l)
    (hn : s'.proposalCounter = s.proposalCounter)
    (hl : ∀ e ∈ l, e.1 ∉ proposalRows ∧ e.1 ∉ answerRows) : Docketed s' := by
  constructor
  · rw [labels_grown hg, Maintenance.pageLabels_nil fun e he => (hl e he).1, List.append_nil,
      h.proposed, hn]
  · rw [labels_grown hg, Maintenance.pageLabels_nil fun e he => (hl e he).2, List.append_nil,
      h.answered, hn]

/-- The engine's own rows about terminals and deliveries. -/
def deskRows : List String :=
  ["terminal_proposed", "terminal_rejected", "event_after_terminal", "event_rejected",
    "event_observed", "event_audit_only"]

theorem not_docket_of_desk {t : String} (h : t ∈ deskRows) : t ∉ proposalRows ∧ t ∉ answerRows :=
  (by decide : ∀ t ∈ deskRows, t ∉ proposalRows ∧ t ∉ answerRows) t h

theorem concludedEntry_desk (outcome : Complete) : (concludedEntry outcome).1 ∈ deskRows := by
  simp [concludedEntry, entry, deskRows]

theorem deniedEntry_desk (code detail : String) : (deniedEntry code detail).1 ∈ deskRows := by
  simp [deniedEntry, entry, deskRows]

theorem lateEntry_desk (event : Event) : (lateEntry event).1 ∈ deskRows := by
  simp [lateEntry, entry, deskRows]

theorem unheededEntry_desk (event : Event) (verdict : Verdict) :
    (unheededEntry event verdict).1 ∈ deskRows := by
  simp [unheededEntry, entry, deskRows]

theorem observedEntry_desk (event : Event) (verdict : Verdict) :
    (observedEntry event verdict).1 ∈ deskRows := by
  cases h : event.triggersAgent <;> simp [observedEntry, acceptedType, entry, deskRows, h]

theorem not_docket_of_aside {e : Entry} (h : e.1 ∈ asideRows) :
    e.1 ∉ proposalRows ∧ e.1 ∉ answerRows :=
  (by decide : ∀ t ∈ asideRows, t ∉ proposalRows ∧ t ∉ answerRows) e.1 h

theorem Accepts.not_docket (h : Accepts op P s s' call reduction l) {e : Entry} (he : e ∈ l) :
    e.1 ∉ proposalRows ∧ e.1 ∉ answerRows :=
  (by decide : ∀ t ∈ operationRows, t ∉ proposalRows ∧ t ∉ answerRows) e.1
    (h.mem_operationRows he)

theorem pageLabels_between (types : List String) (a : Entry) (l rest : List Entry) :
    pageLabels types (a :: l ++ rest) =
      pageLabels types [a] ++ pageLabels types l ++ pageLabels types rest := by
  rw [show a :: l = [a] ++ l from rfl, pageLabels_append, pageLabels_append]

theorem Docketed.page (h : Docketed s) (hp : Page op P V s s') : Docketed s' := by
  cases hp with
  | aside aside =>
    exact h.quiet (aside_grown aside) aside.proposalCounter fun e he =>
      not_docket_of_aside (aside.aside e he)
  | refused _ _ wrote =>
    constructor
    · rw [labels_grown wrote.grown, wrote.proposalCounter, numbers_succ, h.proposed]
      rfl
    · rw [labels_grown wrote.grown, wrote.proposalCounter, numbers_succ, h.answered]
      rfl
  | accepted _ accepts aside wrote =>
    rename_i actionType payload evidenceRefs context reduction l invalidated _
    obtain ⟨hp, ha⟩ := not_docket_of_aside aside
    have hinvalidated : pageLabels answerRows [invalidated] = [] :=
      Maintenance.pageLabels_nil fun e he => List.mem_singleton.mp he ▸ ha
    constructor
    · rw [labels_grown wrote.grown, wrote.proposalCounter, numbers_succ, h.proposed,
        pageLabels_between, Maintenance.pageLabels_nil fun e he => (accepts.not_docket he).1]
      have hrest : ∀ e ∈ [effectEntry (s.proposalCounter + 1) actionType reduction.verdict,
          invalidated], e.1 ∉ proposalRows := by
        intro e he
        rcases List.mem_cons.mp he with rfl | he
        · exact (by decide : "effect_accepted" ∉ proposalRows)
        · exact List.mem_singleton.mp he ▸ hp
      rw [Maintenance.pageLabels_nil hrest]
      rfl
    · rw [labels_grown wrote.grown, wrote.proposalCounter, numbers_succ, h.answered,
        pageLabels_between, Maintenance.pageLabels_nil fun e he => (accepts.not_docket he).2,
        show ([effectEntry _ _ _, invalidated] : List Entry) = [effectEntry _ _ _] ++ [invalidated]
          from rfl, pageLabels_append, hinvalidated]
      rfl
  | denied _ wrote =>
    refine h.quiet wrote.grown wrote.proposalCounter fun e he => ?_
    rcases List.mem_cons.mp he with rfl | he
    · exact not_docket_of_desk (concludedEntry_desk _)
    · exact List.mem_singleton.mp he ▸ not_docket_of_desk (deniedEntry_desk _ _)
  | concluded accepts wrote =>
    refine h.quiet wrote.grown wrote.proposalCounter fun e he => ?_
    rcases List.mem_cons.mp he with rfl | he
    · exact not_docket_of_desk (concludedEntry_desk _)
    · exact accepts.not_docket he
  | late _ _ wrote =>
    refine h.quiet wrote.grown wrote.proposalCounter fun e he => ?_
    exact List.mem_singleton.mp he ▸ not_docket_of_desk (lateEntry_desk _)
  | unheeded _ wrote =>
    refine h.quiet wrote.grown wrote.proposalCounter fun e he => ?_
    exact List.mem_singleton.mp he ▸ not_docket_of_desk (unheededEntry_desk _ _)
  | observed accepts wrote =>
    refine h.quiet wrote.grown wrote.proposalCounter fun e he => ?_
    rcases List.mem_append.mp he with he | he
    · exact accepts.not_docket he
    · exact List.mem_singleton.mp he ▸ not_docket_of_desk (observedEntry_desk _ _)

end Docket

end OperateBench.Maintenance

namespace OperateBench.Maintenance

open Foundation Engine EngineState

variable (op : MaintenanceOperation) (sha256 : Value → String)

theorem respond_of_reduce {op : MaintenanceOperation} {sha256 : Value → String} {call : Call}
    {state : MaintenanceState} {reduction : Reduction MaintenanceState}
    (h : (op.domain sha256).reduce call state = .ok reduction) :
    op.respond call state = .ok reduction :=
  (congrFun (congrFun (op.reduce_domain sha256) _) _).symm.trans h

/-- An event arms no timers. -/
theorem domain_unarming : (op.domain sha256).Unarming := by
  intro context event state reduction hr eventId eventType actorId delayMinutes payload
    triggersAgent hm
  rcases MaintenanceOperation.respond_worked (respond_of_reduce hr) with ⟨code, detail, rfl⟩ | ⟨_, ops⟩
  · cases hm
  · exact Ops.arms ops hm

/-- The rows of the operation are its own. -/
theorem domain_spares {types : List String} (h : ∀ t ∈ operationRows, t ∉ types) :
    (op.domain sha256).Spares types := by
  intro call state reduction hr recordType payload hm
  rcases MaintenanceOperation.respond_worked (respond_of_reduce hr) with ⟨code, detail, rfl⟩ | ⟨_, ops⟩
  · cases hm
  · exact h _ (Ops.rows ops hm).mem_operationRows

theorem plan_sane : Sane op.buildPlan where
  invocations := Int.natCast_nonneg 200
  turns := op.policy.maxTurnsPerInvocation.2.le
  batches := op.policy.maxRetrievalBatchesPerInvocation.2.le

/-- Every episode of the operation comes to its end within its budgets. -/
theorem ends_within_budgets (agent : OperationAgent) (operationId instanceId : String)
    (faults : List String) :
    (op.engine sha256 agent operationId instanceId faults).EndsWithinBudgets :=
  ends_within (plan_sane op) (domain_unarming op sha256) (domain_spares op sha256 (by decide))

end OperateBench.Maintenance
