import OperateBench.Core.Journal
import OperateBench.Maintenance.Proposals

/-! # What an accepted message does

The guards that an accepted send has passed, and the row and the duties it leaves
behind.
-/

namespace OperateBench.Maintenance

open Foundation MaintenanceOperation

/-- The row about a message that was sent, with what the dispatch said. -/
def receipt (row : Communication) : List (String × Value) :=
  [("channel", .str "message_dispatch"), ("message_fixture_id", .str row.messageFixtureId),
    ("recipient_actor_id", .str row.recipientActorId)] ++
    (if row.delivered then ("status", .str "DELIVERED")
      else ("committed_decision_preserved", .bool true)) :: row.recoveryFields

/-- The message of the payload, with what the environment says of its dispatch. -/
def message (context : EnvironmentContext) (payload : Fields) (recoveryOf : Option ℕ) :
    Communication where
  recoveryOf
  delivered := !context.dispatchFails (if recoveryOf.isSome then
    "secondary:" ++ payload.text "message_fixture_id" else payload.text "message_fixture_id")
  recipientActorId := payload.text "recipient_actor_id"
  messageFixtureId := payload.text "message_fixture_id"
  correlationId := payload.text? "correlation_id"
  instant := context.now

/-- The work of a send on the record, and the receipt last. -/
def sending (s : MaintenanceState) (now : String) (row : Communication) : Transaction :=
  let t := Transaction.begin { s with communications := s.communications ++ [row] }
  if row.delivered then
    (dischargeNotice t now row.messageFixtureId row.correlationId).record "side_effect"
      (receipt row)
  else t.record "side_effect_failed" (receipt row)

/-- A send that was accepted, the intent it recovers and what came of it. -/
structure Sent (op : MaintenanceOperation) (s : MaintenanceState) (context : EnvironmentContext)
    (payload : Fields) (recoveryOf : Option ℕ) (r : Reduction MaintenanceState) : Prop where
  completion : payload.text "message_fixture_id" = completionNotice →
    some (payload.text "recipient_actor_id") = s.issueReportingActorId
  reminder : payload.text "message_fixture_id" = approvalReminder →
    payload.text "recipient_actor_id" = "approver_1" ∧ s.openApprovals.any (fun approval =>
      some approval.cycleId = payload.text? "correlation_id" && approval.reminderFired) = true
  transfer : payload.text "message_fixture_id" = transferNotice →
    some (payload.text "recipient_actor_id") = s.issueReportingActorId ∧
      payload.text? "correlation_id" = s.currentCycleId ∧ s.ownershipTransferredTo ≠ none
  recovery : op.messageRecovery s payload (payload.text "message_fixture_id")
    (payload.text? "correlation_id") = .ok recoveryOf
  result : (sending s context.now (message context payload recoveryOf)).accept (.ok "ACCEPTED"
    (orElse (payload.text? "correlation_id") s.currentCycleId) Dict.empty) = .ok r

variable {op : MaintenanceOperation} {s : MaintenanceState} {context : EnvironmentContext}
  {r : Reduction MaintenanceState} {payload : Fields}

theorem actSendMessage_sent (h : op.actSendMessage s payload context = .ok r) :
    (∃ code detail, r = .refused s code detail) ∨
      ∃ recoveryOf, Sent op s context payload recoveryOf r := by
  unfold actSendMessage at h
  dsimp only at h
  iterate 2
    split at h
    · exact Or.inl ⟨_, _, (Except.ok.inj h).symm⟩
  split at h
  · exact Or.inl ⟨_, _, (Except.ok.inj h).symm⟩
  rename_i hcompletion
  split at h
  · exact Or.inl ⟨_, _, (Except.ok.inj h).symm⟩
  rename_i hreminder
  split at h
  · exact Or.inl ⟨_, _, (Except.ok.inj h).symm⟩
  rename_i htransfer
  split at h
  · exact Or.inl ⟨_, _, (Except.ok.inj h).symm⟩
  rename_i howned
  split at h
  · exact Or.inl ⟨_, _, (Except.ok.inj h).symm⟩
  rename_i recoveryOf hrecovery
  refine Or.inr ⟨recoveryOf, ?_, ?_, ?_, hrecovery, ?_⟩
  · intro hf
    by_contra hn
    exact hcompletion ⟨hf, hn⟩
  · intro hf
    by_contra hn
    exact hreminder ⟨hf, hn⟩
  · intro hf
    refine ⟨?_, ?_, fun hn => howned ⟨hf, hn⟩⟩
    · by_contra hn
      exact htransfer ⟨hf, Or.inl hn⟩
    · by_contra hn
      exact htransfer ⟨hf, Or.inr hn⟩
  · rw [← h]
    unfold sending message
    generalize (!context.dispatchFails (if recoveryOf.isSome then _ else _)) = delivered
    cases delivered <;> rfl

/-- An accepted action passed the checks made before its handler was asked. -/
theorem applyAction_handled {evidenceRefs : List String} {actionType : String}
    (h : op.applyAction s payload evidenceRefs context actionType = .ok r)
    (ha : r.verdict.accepted = true) :
    ∃ action, ActionType.ofText? actionType = some action ∧
      validatePayload (actionPayloadSchema op.spec.recoveryEnabled action) payload
        s!"action {actionType}" actionType = .ok () ∧
      op.handler s payload evidenceRefs context action = .ok r := by
  have hrefused : ∀ {code detail : String} {P : Prop}, refuse s code detail = .ok r → P := by
    intro code detail P hr
    obtain rfl := Except.ok.inj hr
    cases ha
  unfold applyAction at h
  split at h
  · exact hrefused h
  split at h
  · cases h
  split at h
  · exact hrefused h
  split at h
  · exact hrefused h
  rename_i action hnamed
  split at h
  · exact hrefused h
  rename_i hvalid
  split at h
  · exact hrefused h
  · exact ⟨action, hnamed, hvalid, h⟩

/-- An accepted send passed the check of its payload and the guards of its handler. -/
theorem applyAction_sent {evidenceRefs : List String}
    (h : op.applyAction s payload evidenceRefs context "send_message" = .ok r)
    (ha : r.verdict.accepted = true) :
    ∃ recoveryOf, Sent op s context payload recoveryOf r ∧
      validatePayload (actionPayloadSchema op.spec.recoveryEnabled .sendMessage) payload
        "action send_message" "send_message" = .ok () := by
  obtain ⟨action, hnamed, hvalid, h⟩ := applyAction_handled h ha
  obtain rfl : action = .sendMessage := by
    have hsend : ActionType.ofText? "send_message" = some .sendMessage := by decide
    exact Option.some.inj (hnamed.symm.trans hsend)
  rcases actSendMessage_sent h with ⟨code, detail, rfl⟩ | ⟨recoveryOf, sent⟩
  · cases ha
  · exact ⟨recoveryOf, sent, hvalid⟩

section Effects

def Entry.effect (e : Entry) : Effect := .record e.1 e.2

theorem EffectEntries.of_records {now : String} {l l' : List Entry}
    (h : EngineState.EffectEntries now (l.map Entry.effect) l') : l' = l := by
  induction l generalizing l' with
  | nil => cases h; rfl
  | cons e l ih =>
    cases h with
    | record rest => rw [ih rest]

/-- The notice only wrote that duties were discharged. -/
def Discharging (t t' : Transaction) : Prop :=
  ∃ rows : List Entry, t'.effects = t.effects ++ rows.map Entry.effect ∧
    ∀ e ∈ rows, e.1 = "obligation_discharged"

theorem Discharging.refl (t : Transaction) : Discharging t t := ⟨[], by simp, nofun⟩

theorem Discharging.trans {t₁ t₂ t₃ : Transaction} (h₁ : Discharging t₁ t₂)
    (h₂ : Discharging t₂ t₃) : Discharging t₁ t₃ := by
  obtain ⟨rows, he, hr⟩ := h₁
  obtain ⟨rows', he', hr'⟩ := h₂
  refine ⟨rows ++ rows', by rw [he', he, List.map_append, List.append_assoc], fun e hm => ?_⟩
  exact (List.mem_append.mp hm).elim (hr e) (hr' e)

theorem discharging_closeObligation (t : Transaction) (now obligationId : String) :
    Discharging t (t.closeObligation now obligationId .discharged) := by
  unfold Transaction.closeObligation
  split
  · exact .refl t
  · split
    · exact .refl t
    · rename_i duty _ _
      refine ⟨[(Closure.discharged.recordType, .ofList [("obligation_id", .str obligationId),
        ("kind", .str duty.kind.text)])], rfl, fun e he => ?_⟩
      rw [List.mem_singleton.mp he]
      rfl

theorem discharging_dischargeNotice (t : Transaction) (now fixtureId : String)
    (cycleId : Option String) : Discharging t (dischargeNotice t now fixtureId cycleId) := by
  unfold dischargeNotice
  split
  · split
    · exact .refl t
    · exact discharging_closeObligation _ _ _
  split
  · exact .refl t
  split
  · generalize t.state.openApprovals.filter _ = approvals
    induction approvals generalizing t with
    | nil => exact .refl t
    | cons approval approvals ih =>
      rw [List.foldl_cons]
      exact (discharging_closeObligation t _ _).trans (ih _)
  · exact .refl t

def receiptEntry (row : Communication) : Entry :=
  (if row.delivered then "side_effect" else "side_effect_failed", .ofList (receipt row))

/-- What an accepted send leaves behind: duties discharged, and the receipt last. -/
theorem sending_effects (s : MaintenanceState) (now : String) (row : Communication) :
    ∃ rows : List Entry, (sending s now row).effects =
        (rows ++ [receiptEntry row]).map Entry.effect ∧
      ∀ e ∈ rows, e.1 = "obligation_discharged" := by
  unfold sending
  dsimp only
  split
  · rename_i hd
    obtain ⟨rows, he, hr⟩ := discharging_dischargeNotice
      (Transaction.begin { s with communications := s.communications ++ [row] }) now
      row.messageFixtureId row.correlationId
    refine ⟨rows, ?_, hr⟩
    rw [Transaction.record, he]
    simp [Transaction.begin, receiptEntry, hd, Entry.effect]
  · rename_i hd
    exact ⟨[], by simp [Transaction.record, Transaction.begin, receiptEntry, hd, Entry.effect], nofun⟩

end Effects

/-- Only a transfer notice is ever repeated over the secondary channel. -/
theorem messageRecovery_some {fixtureId : String} {correlationId : Option String} {index : ℕ}
    (h : op.messageRecovery s payload fixtureId correlationId = .ok (some index)) :
    fixtureId = transferNotice := by
  unfold messageRecovery at h
  split at h
  · cases h
  split at h
  · cases h
  · rename_i hn
    by_contra hf
    exact hn (Or.inr hf)

end OperateBench.Maintenance
