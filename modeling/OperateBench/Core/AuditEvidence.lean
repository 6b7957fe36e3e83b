import OperateBench.Core.AuditHistory
import OperateBench.Core.AuditOccurrences

/-! # The terminal evidence of the audit runtime

The committed history only grows. Once the runtime is final or halted nothing is published any more,
so the evidence that it gives then is the evidence that it gives later, unless an attempt after
finality stops it.
-/

namespace OperateBench.AuditBudget

open Foundation

namespace AuditBudgetRuntime

section Evidence

variable (r : AuditBudgetRuntime) (s : RuntimeState)

structure AuditIntegrityFinding where
  integrityCode : String
  refusalClass : RefusalClass
  sourceId : Option String
  requestedCount : ℕ
  operationCommittedBefore : ℕ
  sourceCommittedBefore : Option ℕ
  declaredMaxEvents : ℕ
  transitionId : Option String
  invocationIndex : Option ℕ

structure AuditTerminalSummary where
  declaredMaxEvents : ℕ
  committedCount : ℕ
  result : String
  integrityCode : Option String

inductive EvidenceRow
  | committedIntent (row : CommittedAuditIntent)
  | integrityFinding (finding : AuditIntegrityFinding)
  | terminalSummary (summary : AuditTerminalSummary)

def findingOf (halt : HaltRecord) : AuditIntegrityFinding where
  integrityCode := halt.refusalClass.integrityCode
  refusalClass := halt.refusalClass
  sourceId := halt.sourceId
  requestedCount := halt.requestedCount
  operationCommittedBefore := halt.operationCommittedBefore
  sourceCommittedBefore := halt.sourceCommittedBefore
  declaredMaxEvents := r.declaration.declaredMaxEvents
  transitionId := halt.transitionId
  invocationIndex := halt.invocationIndex

def terminalEvidence : Except AuditError (List EvidenceRow) :=
  if !s.final ∧ s.halt.isNone then
    .error (.runtime "audit terminal evidence is unavailable before finality")
  else
    .ok (s.committed.map .committedIntent ++
      s.halt.toList.map (fun halt => .integrityFinding (r.findingOf halt)) ++
      [.terminalSummary {
        declaredMaxEvents := r.declaration.declaredMaxEvents
        committedCount := s.committedCount
        result := if s.halt.isSome then "ERROR" else "SUCCESS"
        integrityCode := s.halt.map fun halt => halt.refusalClass.integrityCode }])

end Evidence

section Sealed

variable {r : AuditBudgetRuntime} {s s' t : RuntimeState} {a : Account}

/-- Nothing changes but that an attempt after finality may stop the runtime. -/
structure Stands (s s' : RuntimeState) : Prop where
  committed : s'.committed = s.committed
  counted : s'.committedCount = s.committedCount
  final : s'.final = s.final
  halt : s'.halt = s.halt ∨ s.halt = none ∧ ∃ halt, s'.halt = some halt ∧
    halt.refusalClass = .postFinalityAttempt

theorem Stands.refl (s : RuntimeState) : Stands s s := ⟨rfl, rfl, rfl, .inl rfl⟩

theorem Stands.trans (h : Stands s s') (h' : Stands s' t) : Stands s t := by
  refine ⟨h'.committed.trans h.committed, h'.counted.trans h.counted, h'.final.trans h.final, ?_⟩
  rcases h.halt with heq | ⟨hnone, halt, hhalt, hclass⟩
  · rw [← heq]
    exact h'.halt
  · rcases h'.halt with heq | ⟨hother, -⟩
    · exact Or.inr ⟨hnone, halt, heq.trans hhalt, hclass⟩
    · rw [hhalt] at hother
      cases hother

theorem stands_postFinality {α : Type} (h : s.halt = none) :
    Stands s (after s (r.stopPostFinality s : Except Refusal (α × RuntimeState))) := by
  have hstop : ∃ halt, halt.refusalClass = .postFinalityAttempt ∧
      (r.stopPostFinality s : Except Refusal (α × RuntimeState)) = .error (.halted halt) := by
    unfold stopPostFinality stop
    exact ⟨_, rfl, if_pos (by simp [publishesHalt])⟩
  obtain ⟨halt, hclass, hstop⟩ := hstop
  rw [hstop, after, h, if_neg (by simp)]
  exact ⟨rfl, rfl, rfl, .inr ⟨h, halt, rfl, hclass⟩⟩

theorem stands_lift {α β : Type} {x : Except AuditError β}
    {f : β → Except Refusal (α × RuntimeState)} (hf : ∀ b, Stands s (after s (f b))) :
    Stands s (after s (lift x >>= f)) := by
  cases x with
  | ok b => exact hf b
  | error error => exact Stands.refl s

/-- A final or halted runtime stands, whatever it is asked. -/
theorem stands_respond (hk : Kept r s a) (h : s.final = true ∨ s.halt.isSome) (call : AuditCall) :
    Stands s (r.respond s call) := by
  by_cases hhalt : s.halt.isSome
  · rw [halted_respond hhalt]
    exact Stands.refl s
  have hnone := Option.not_isSome_iff_eq_none.mp hhalt
  have hfinal := h.resolve_right hhalt
  have hactive := hk.closed h
  have hraise : raiseIfHalted s = .ok () := by rw [raiseIfHalted, hnone]
  have hscope : ∀ scope, r.requireScope s scope =
      raise (.runtime "audit transition scope is not active") := by
    intro scope
    rw [requireScope, hactive]
  cases call with
  | beginTransition transitionId invocationIndex identity =>
    rw [respond, beginTransition, hraise, ok_bind]
    refine stands_lift fun _ => stands_lift fun _ => ?_
    rw [if_pos hfinal]
    exact stands_postFinality hnone
  | reserve scope sourceId countedKind intentIds nonce =>
    rw [respond, reserve, hraise, ok_bind, hscope]
    exact Stands.refl s
  | consume reservation intentId =>
    rw [respond, consume, hraise, ok_bind, hactive]
    exact Stands.refl s
  | consumeFromScope scope reservation intentId =>
    rw [respond, consumeFromScope, hraise, ok_bind, hscope]
    exact Stands.refl s
  | commit scope =>
    rw [respond, commit, hraise, ok_bind, hscope]
    exact Stands.refl s
  | abort scope =>
    rw [respond, abort, hraise, ok_bind, hscope]
    exact Stands.refl s
  | abortIfActive scope =>
    rw [respond, abortIfActive, hactive, if_neg (by simp)]
    exact Stands.refl s
  | markFinality =>
    rw [respond, markFinality, hraise, ok_bind, if_pos hfinal]
    exact stands_postFinality hnone

theorem stands_follow {calls : List AuditCall} (h : (r.follow calls).1.final = true ∨
    (r.follow calls).1.halt.isSome) (more : List AuditCall) :
    Stands (r.follow calls).1 (r.follow (calls ++ more)).1 := by
  induction more using List.reverseRecOn with
  | nil =>
    rw [List.append_nil]
    exact Stands.refl _
  | append_singleton more call ih =>
    rw [← List.append_assoc, follow_append]
    refine ih.trans (stands_respond (kept_follow _) ?_ call)
    rw [ih.final]
    refine h.imp_right fun hhalt => ?_
    rcases ih.halt with heq | ⟨hnone, -⟩
    · rw [heq]
      exact hhalt
    · rw [hnone] at hhalt
      cases hhalt

/-- The evidence of a halted runtime that an attempt after finality stopped. -/
def stoppedEvidence (r : AuditBudgetRuntime) (s : RuntimeState) (halt : HaltRecord) :
    List EvidenceRow :=
  s.committed.map .committedIntent ++ [.integrityFinding (r.findingOf halt), .terminalSummary {
    declaredMaxEvents := r.declaration.declaredMaxEvents
    committedCount := s.committedCount
    result := "ERROR"
    integrityCode := some halt.refusalClass.integrityCode }]

theorem terminalEvidence_stands {evidence : List EvidenceRow} (h : Stands s s')
    (hok : r.terminalEvidence s = .ok evidence) : r.terminalEvidence s' = .ok evidence ∨
      s.halt = none ∧ ∃ halt, halt.refusalClass = .postFinalityAttempt ∧
        r.terminalEvidence s' = .ok (r.stoppedEvidence s halt) := by
  rcases h.halt with heq | ⟨hnone, halt, hhalt, hclass⟩
  · left
    rw [← hok, terminalEvidence, terminalEvidence, heq, h.final, h.committed, h.counted]
  · right
    refine ⟨hnone, halt, hclass, ?_⟩
    rw [terminalEvidence, hhalt, h.committed, h.counted, if_neg (by simp)]
    simp [stoppedEvidence]

theorem sealed_of_evidence {evidence : List EvidenceRow}
    (hok : r.terminalEvidence s = .ok evidence) : s.final = true ∨ s.halt.isSome := by
  unfold terminalEvidence at hok
  obtain ⟨hopen, -⟩ := unless_ok hok
  by_contra hnot
  obtain ⟨hfinal, hhalt⟩ := not_or.mp hnot
  refine hopen ⟨?_, ?_⟩
  · rw [Bool.eq_false_iff.mpr hfinal]
    rfl
  · rw [Option.not_isSome_iff_eq_none.mp hhalt]
    rfl

end Sealed

section Evidenced

/-- The history only grows, and evidence once given is given again, unless an attempt after finality
stopped the runtime: then the committed rows are the same, behind a finding of that attempt. -/
theorem evidence_given_again (r : AuditBudgetRuntime) {calls : List AuditCall}
    {evidence : List EvidenceRow} (h : r.terminalEvidence (r.follow calls).1 = .ok evidence)
    (more : List AuditCall) :
    (r.follow (calls ++ more)).1.committed = (r.follow calls).1.committed ∧
    (r.terminalEvidence (r.follow (calls ++ more)).1 = .ok evidence ∨
      (r.follow calls).1.halt = none ∧ ∃ halt, halt.refusalClass = .postFinalityAttempt ∧
        r.terminalEvidence (r.follow (calls ++ more)).1 =
          .ok (r.stoppedEvidence (r.follow calls).1 halt)) := by
  have hstands := stands_follow (sealed_of_evidence h) more
  exact ⟨hstands.committed, terminalEvidence_stands hstands h⟩

theorem twoReviews_evidence_given_again :
    (twoReviews.follow [.markFinality, .markFinality]).1.committed =
        (twoReviews.follow [.markFinality]).1.committed ∧
      (twoReviews.terminalEvidence (twoReviews.follow [.markFinality, .markFinality]).1 =
          .ok [.terminalSummary ⟨2, 0, "SUCCESS", none⟩] ∨
        (twoReviews.follow [.markFinality]).1.halt = none ∧
          ∃ halt, halt.refusalClass = .postFinalityAttempt ∧
            twoReviews.terminalEvidence (twoReviews.follow [.markFinality, .markFinality]).1 =
              .ok (twoReviews.stoppedEvidence (twoReviews.follow [.markFinality]).1 halt)) :=
  @evidence_given_again twoReviews [.markFinality] _ rfl [.markFinality]

end Evidenced

end AuditBudgetRuntime

end OperateBench.AuditBudget
