import OperateBench.Core.Calendar
import OperateBench.ReturnRefund.Commit

/-! # Every call refuses or commits

Each reducer, each handler and the terminal is taken apart once: what it returned is a
refusal that left the record as it was, or one of the accepted changes. What an accepted
call tells its caller names a record on file.
-/

namespace OperateBench.ReturnRefund

open Foundation Calendar

/-- The field under which the identity of a record on file is passed on. -/
inductive OnFile (s : ReturnRefundState) : String → String → Prop
  | authorisation {id : String} (filed : s.authorisations.contains id = true) :
      OnFile s "authorisation_id" id
  | checkpoint {id : String} (filed : s.checkpoints.contains id = true) :
      OnFile s "checkpoint_id" id
  | refund {id : String} (filed : s.refunds.contains id = true) : OnFile s "refund_request_id" id
  | communication {id : String} (filed : s.communications.contains id = true) :
      OnFile s "communication_id" id

/-- What a verdict binds names records on file. -/
def Bound (s : ReturnRefundState) (bindings : Bindings) : Prop :=
  ∀ e ∈ bindings.entries, OnFile s e.1 e.2

theorem Bound.empty (s : ReturnRefundState) : Bound s Dict.empty := nofun

theorem Bound.single {s : ReturnRefundState} {name id : String} (h : OnFile s name id) :
    Bound s (.ofList [(name, id)]) := by
  intro e he
  obtain rfl := List.mem_singleton.mp he
  exact h

/-- A refusal that left the record as it was, or an accepted change of it. -/
def Answered (op : ReturnRefundOperation) (now : String) (s : ReturnRefundState) (cause : Cause)
    (r : Reduction ReturnRefundState) : Prop :=
  (∃ code detail, r = .refused s code detail) ∨ r.verdict.accepted = true ∧
    Commit op now s cause ⟨r.state, r.effects⟩ ∧ Bound r.state r.verdict.bindings

variable {op : ReturnRefundOperation} {s : ReturnRefundState} {context : EnvironmentContext}
  {now : String} {cause : Cause} {event : Event} {r : Reduction ReturnRefundState}

theorem Answered.refused {code detail : String} (h : refuse s code detail = .ok r) :
    Answered op now s cause r :=
  Or.inl ⟨code, detail, (Except.ok.inj h).symm⟩

theorem Answered.accepted {t : Transaction} {verdict : Verdict} {state : ReturnRefundState}
    (h : t.accept verdict = .ok r) (hv : verdict.accepted = true) (hs : t.state = state)
    (hc : Commit op now s cause ⟨state, t.effects⟩) (hb : Bound state verdict.bindings) :
    Answered op now s cause r := by
  obtain rfl := Except.ok.inj h
  subst hs
  exact Or.inr ⟨hv, hc, hb⟩

section Payload

variable {payload : Fields} {name text : String} {n : Int}

theorem text_of_text? (h : payload.text? name = some text) : payload.text name = text := by
  unfold Fields.text? at h
  unfold Fields.text
  cases hv : payload.get name with
  | str s =>
    rw [hv] at h
    exact Option.some.inj h
  | _ =>
    rw [hv] at h
    cases h

theorem get?_of_int? (h : int? payload name = some n) : payload.get? name = some (.int n) := by
  unfold int? Value.asInt? at h
  split at h
  · rename_i hv
    rw [hv, Option.some.inj h]
  · cases h

theorem number_of_int? (h : int? payload name = some n) : payload.number name = n := by
  rw [Fields.number, Fields.get, get?_of_int? h]
  rfl

theorem names_of_not {cycleId : Option String} {amountMinor : Option Int}
    {currency : Option String}
    (h : ¬(payload.text? "cycle_id" ≠ cycleId ∨ int? payload "amount_minor" ≠ amountMinor ∨
      payload.text? "currency" ≠ currency)) : Names payload cycleId amountMinor currency := by
  push Not at h
  exact ⟨h.1, h.2.1, h.2.2⟩

end Payload

section Citations

/-- What the registry holds under the identity is what its projection says. -/
theorem lookup?_recordsOf {α : Type} {ident : α → String} (registry : Registry ident)
    (asDict : α → Value) (id : String) :
    (ReturnRefundState.recordsOf registry asDict).lookup? id = (registry.get? id).map asDict := by
  have hfind : ∀ entries : List (String × α),
      (((entries.map fun e => (e.1, asDict e.2)).map fun e => (Value.str e.1, e.2)).find?
        fun e => e.1.isStr id).map Prod.snd = (Dict.findEntry id entries).map asDict := by
    intro entries
    induction entries with
    | nil => rfl
    | cons e entries ih =>
      obtain ⟨k, a⟩ := e
      by_cases hk : k = id
      · subst hk
        simp [Dict.findEntry, Value.isStr, Value.asStr?]
      · have hstr : (Value.str k).isStr id = false := by simp [Value.isStr, Value.asStr?, hk]
        simp only [List.map_cons, List.find?_cons, hstr, Dict.findEntry, if_neg hk]
        exact ih
  exact hfind registry.dict.entries

theorem project_inspections (s : ReturnRefundState) : s.project ["inspections"] =
    .ok (.ofList [("inspections", ReturnRefundState.recordsOf s.inspections Inspection.asDict)]) :=
  rfl

/-- What is wrong with the citation of the inspection that the payload names. -/
def inspectionProblem (s : ReturnRefundState) (payload : Fields) (evidenceRefs : List String) :
    Option String :=
  let prelude := "required evidence did not resolve completely: "
  match payload.text? "inspection_id" with
  | none => some (prelude ++ "the payload selector cannot be resolved")
  | some id =>
    if !s.inspections.contains id then
      some (prelude ++ s!"no inspections record {pyRepr id}")
    else if id ∈ evidenceRefs then none
    else some (prelude ++ s!"missing {reprList [id]}")

theorem asText?_get? (payload : Fields) (name : String) :
    Value.asText? (payload.get? name) = payload.text? name := by
  unfold Fields.text? Fields.get
  cases payload.get? name <;> rfl

theorem requiredEvidenceProblem_eq {action : ActionType} (payload : Fields)
    (evidenceRefs : List String)
    (h : actionEvidenceContract.evidenceFor action.text = [inspectionKey]) :
    requiredEvidenceProblem s action payload evidenceRefs =
      .ok (inspectionProblem s payload evidenceRefs) := by
  have hroots : sortedSet ([inspectionKey].filterMap citedRoot?) = ["inspections"] := by decide
  have hasDict : ∀ inspection : Inspection, inspection.asDict.isMapping = true := fun _ => rfl
  have hmapping : Value.asMapping? ((Dict.ofList
      [("inspections", ReturnRefundState.recordsOf s.inspections Inspection.asDict)]).get?
        "inspections") =
      some (ReturnRefundState.recordsOf s.inspections Inspection.asDict) := rfl
  unfold requiredEvidenceProblem
  dsimp only
  rw [h, hroots, project_inspections, ok_bind]
  unfold resolveRequiredEvidence inspectionProblem
  rw [h, List.mapM_cons, List.mapM_nil]
  unfold EvidenceSelector.resolve
  simp only [inspectionKey, EvidenceSelector.root, EvidenceSelector.payloadField, hmapping,
    asText?_get?]
  cases payload.text? "inspection_id" with
  | none => rfl
  | some id =>
    simp only [lookup?_recordsOf]
    cases hg : s.inspections.get? id with
    | none =>
      have hc : s.inspections.contains id = false := Registry.get?_eq_none_iff.mp hg
      simp only [Option.map_none, hc]
      rfl
    | some inspection =>
      have hc : s.inspections.contains id = true := Registry.contains_iff.mpr ⟨_, hg⟩
      simp only [Option.map_some, Value.asMapping?, Option.filter_some, hasDict, hc]
      by_cases hm : id ∈ evidenceRefs
      · simp [hm, sortedSet, sortTexts]
        rfl
      · simp [hm, sortedSet, sortTexts]
        rfl

theorem cited_of_inspectionProblem {payload : Fields} {evidenceRefs : List String}
    (h : inspectionProblem s payload evidenceRefs = none) :
    payload.text "inspection_id" ∈ evidenceRefs := by
  unfold inspectionProblem at h
  dsimp only at h
  split at h
  · cases h
  · rename_i id ht
    split at h
    · cases h
    split at h
    · rw [text_of_text? ht]
      assumption
    · cases h

end Citations

namespace ReturnRefundOperation

section Returns

theorem reduceReturnRequested_answered (ha : op.Admits event .customerReturnRequested)
    (h : op.reduceReturnRequested s event = .ok r) : Answered op now s (.event event) r := by
  unfold reduceReturnRequested at h
  dsimp only at h
  split at h
  · exact .refused h
  rename_i hp
  split at h
  · exact .refused h
  rename_i hn
  push Not at hn
  obtain ⟨hamount, hcurrency, hcycle⟩ := hn
  refine .accepted h rfl ?_ (.returnRequested ha (not_not.mp hp) ⟨hcycle, hamount, hcurrency⟩ ?_) (.empty _)
  · rw [number_of_int? hamount, text_of_text? hcurrency, text_of_text? hcycle]
    rfl
  · simp

theorem reduceHandoverClaimed_answered (ha : op.Admits event .customerHandoverClaimed)
    (h : reduceHandoverClaimed s event context = .ok r) :
    Answered op context.now s (.event event) r := by
  unfold reduceHandoverClaimed at h
  dsimp only at h
  split at h
  · exact .refused h
  split at h
  · exact .refused h
  · rename_i hf
    refine .accepted h rfl rfl (.handoverClaimed ha (Registry.get?_eq_none_iff.mpr ?_) ?_) (.empty _)
    · simpa using hf
    · simp

theorem reduceHandoverVerified_answered (ha : op.Admits event .carrierHandoverVerified)
    (h : reduceHandoverVerified s event context = .ok r) :
    Answered op context.now s (.event event) r := by
  unfold reduceHandoverVerified at h
  dsimp only at h
  split at h
  · exact .refused h
  rename_i authorisation hf
  split at h
  · exact .refused h
  rename_i hb
  push Not at hb
  obtain ⟨hcase, hcycle, hhanded⟩ := hb
  split at h
  · exact .refused h
  rename_i hs
  split at h
  · exact .refused h
  rename_i hc
  obtain ⟨t, ht, h⟩ := bind_ok h
  obtain ⟨u, hu, h⟩ := bind_ok h
  have hd := (Transaction.closeObligation_ok ht).trans (Transaction.closeObligation_ok hu)
  refine .accepted h rfl ?_ (.handoverVerified ha hf (not_not.mp hs) hcase hcycle ?_
    (Registry.get?_eq_none_iff.mpr (by simpa using hc)) hd.duties ?_) (.single ?_)
  · rw [hd.state]
    rfl
  · simpa using hhanded
  · exact hd.timers.trans (by simp)
  · have hid := Registry.ident_of_get? hf
    exact .authorisation (Registry.contains_put_self hid)

theorem reduceInspectionCompleted_answered (ha : op.Admits event .warehouseInspectionCompleted)
    (h : op.reduceInspectionCompleted s event context = .ok r) :
    Answered op context.now s (.event event) r := by
  unfold reduceInspectionCompleted at h
  dsimp only at h
  split at h
  · exact .refused h
  rename_i hp
  split at h
  · exact .refused h
  rename_i hv
  split at h
  · exact .refused h
  rename_i cycleId hcurrent
  split at h
  · exact .refused h
  rename_i hb
  push Not at hb
  obtain ⟨hcase, hcycle, hamount, hcurrency⟩ := hb
  split at h
  · exact .refused h
  rename_i hc
  have hv : hasVerifiedHandover s = true := by simpa using hv
  have hfresh := Registry.get?_eq_none_iff.mpr (by simpa using hc)
  obtain ⟨t, ht, h⟩ := bind_ok h
  unfold afterInspection oweDenialNotice at ht
  split at ht
  · rename_i hdisposition
    have hd := Transaction.openObligation_ok ht
    refine .accepted h rfl ?_ (.inspected ha (not_not.mp hp) hv hcurrent hcase
      ⟨hcycle, hamount, hcurrency⟩ hfresh (Or.inl ⟨hdisposition, rfl, hd.duties⟩) ?_) (.empty _)
    · rw [hd.state]
      rfl
    · rw [hd.timers]
      simp
  · rename_i hdisposition
    have hphase : t.state = { s with
        inspections := s.inspections.put {
          inspectionId := event.payload.text "inspection_id"
          returnId := s.returnId
          cycleId
          disposition := event.payload.text "disposition"
          amountMinor := s.amountMinor
          currency := s.currency
          inspectedAt := context.now }
        phase := if op.policy.approvalThresholdMinor < s.amountMinor.getD 0 then
          .awaitingApproval else .readyToRefund } ∧ t.effects = [] := by
      split at ht
      · rename_i hlt
        obtain rfl := Except.ok.inj ht
        have hlt : op.policy.approvalThresholdMinor.1 < s.amountMinor.getD 0 := hlt
        exact ⟨by rw [if_pos hlt]; rfl, rfl⟩
      · rename_i hle
        obtain rfl := Except.ok.inj ht
        have hle : ¬op.policy.approvalThresholdMinor.1 < s.amountMinor.getD 0 := hle
        exact ⟨by rw [if_neg hle]; rfl, rfl⟩
    refine .accepted h rfl hphase.1 (.inspected ha (not_not.mp hp) hv hcurrent hcase
      ⟨hcycle, hamount, hcurrency⟩ hfresh (Or.inr ⟨not_not.mp hdisposition, rfl, rfl⟩) ?_) (.empty _)
    rw [hphase.2]
    rfl

end Returns

section Money

theorem reduceApprovalReceived_answered (ha : op.Admits event .refundApprovalReceived)
    (h : op.reduceApprovalReceived s event context = .ok r) :
    Answered op context.now s (.event event) r := by
  unfold reduceApprovalReceived oweDenialNotice at h
  dsimp only at h
  split at h
  · exact .refused h
  rename_i checkpoint hf
  split at h
  · exact .refused h
  rename_i ho
  split at h
  · exact .refused h
  rename_i hb
  push Not at hb
  obtain ⟨hinspection, hnamed⟩ := hb
  split at h
  · exact .refused h
  rename_i decision hdecision
  obtain ⟨t, ht, h⟩ := bind_ok h
  have hd := Transaction.closeObligation_ok ht
  cases decision with
  | approved =>
    refine .accepted h rfl ?_ (.decided ha hf (not_not.mp ho) hinspection
      ⟨hnamed.1, hnamed.2.1, hnamed.2.2⟩ hdecision (Or.inl ⟨rfl, rfl, hd.duties⟩) ?_) (.empty _)
    · rw [hd.state]
      rfl
    · exact hd.timers.trans (by simp)
  | rejected =>
    obtain ⟨u, hu, h⟩ := bind_ok h
    have hd' := Transaction.openObligation_ok hu
    have hduties : (closeDuty context.now (approvalObligation (event.payload.text "checkpoint_id"))
        .discharged s.obligations >>= openDuty context.now
          (denialNoticeObligation (textOr checkpoint.cycleId)) .refundDenialNotice
          (some (textOr checkpoint.cycleId)) op.policy.completionNoticeWithinMinutes) =
        .ok u.state.obligations := by
      rw [show closeDuty _ _ _ s.obligations = _ from hd.duties]
      exact hd'.duties
    refine .accepted h rfl ?_ (.decided ha hf (not_not.mp ho) hinspection
      ⟨hnamed.1, hnamed.2.1, hnamed.2.2⟩ hdecision (Or.inr ⟨rfl, rfl, hduties⟩) ?_) (.empty _)
    · rw [hd'.state, hd.state]
      rfl
    · exact hd'.timers.trans (hd.timers.trans (by simp))

theorem reduceSettlementConfirmed_answered (ha : op.Admits event .refundSettlementConfirmed)
    (h : op.reduceSettlementConfirmed s event context = .ok r) :
    Answered op context.now s (.event event) r := by
  unfold reduceSettlementConfirmed at h
  dsimp only at h
  split at h
  · exact .refused h
  rename_i refund hf
  split at h
  · exact .refused h
  rename_i hs
  split at h
  · exact .refused h
  rename_i hb
  push Not at hb
  obtain ⟨hinspection, hcycle, hamount, hcurrency⟩ := hb
  obtain ⟨t, ht, h⟩ := bind_ok h
  obtain ⟨u, hu, h⟩ := bind_ok h
  have hd := (Transaction.closeObligation_ok ht).trans (Transaction.openObligation_ok hu)
  refine .accepted h rfl ?_ (.settled ha hf (not_not.mp hs) hinspection
    ⟨hcycle, hamount, hcurrency⟩ hd.duties ?_) (.empty _)
  · rw [hd.state]
    rfl
  · rw [hd.timers]
    simp

theorem reduceSettlementReversed_answered (ha : op.Admits event .refundSettlementReversed)
    (h : op.reduceSettlementReversed s event context = .ok r) :
    Answered op context.now s (.event event) r := by
  unfold reduceSettlementReversed at h
  dsimp only at h
  split at h
  · exact .refused h
  rename_i refund hf
  split at h
  · exact .refused h
  rename_i provisional hprovisional
  split at h
  · exact .refused h
  rename_i hb
  push Not at hb
  obtain ⟨hs, hcycle, hnamed⟩ := hb
  obtain ⟨t, ht, h⟩ := bind_ok h
  have hd := Transaction.openObligation_ok ht
  refine .accepted h rfl ?_ (.reversed ha hf hs hcycle hprovisional hnamed hd.duties ?_) (.empty _)
  · rw [Transaction.state_record, hd.state]
    rfl
  · rw [Transaction.timers_record, hd.timers]
    simp

end Money

section Timers

theorem timerEventVerdict_none {expectedEventId : String} {notBefore : Option String}
    (h : timerEventVerdict event expectedEventId notBefore = .ok none) :
    IsTimer event expectedEventId ∧ ∀ bound, notBefore = some bound → ∃ fired limit,
      strptime event.instant = .ok fired ∧ strptime bound = .ok limit ∧ limit ≤ fired := by
  unfold timerEventVerdict at h
  split at h
  · cases h
  rename_i ht
  push Not at ht
  refine ⟨⟨ht.1, ht.2.1, ht.2.2⟩, ?_⟩
  rintro bound rfl
  obtain ⟨fired, hf, h⟩ := bind_ok h
  obtain ⟨limit, hl, h⟩ := bind_ok h
  have h := pure_ok h
  split at h
  · cases h
  · rename_i hlate
    exact ⟨fired, limit, parseTimestamp_ok.mp hf, parseTimestamp_ok.mp hl, not_lt.mp hlate⟩

theorem reduceReminderDue_answered (ha : op.Admits event .handoverReminderDue)
    (h : op.reduceReminderDue s event context = .ok r) :
    Answered op context.now s (.event event) r := by
  unfold reduceReminderDue at h
  dsimp only at h
  obtain ⟨verdict, hv, h⟩ := bind_ok h
  split at h
  · exact .refused h
  split at h
  · exact .refused h
  rename_i authorisation hf
  split at h
  · exact .refused h
  rename_i hs
  split at h
  · exact .refused h
  obtain ⟨t, ht, h⟩ := bind_ok h
  have hd := Transaction.openObligation_ok ht
  refine .accepted h rfl ?_ (.reminderFired ha (timerEventVerdict_none hv).1 hf (not_not.mp hs)
    hd.duties ?_) (.empty _)
  · rw [hd.state]
    rfl
  · rw [hd.timers]
    simp

theorem reduceDeadlineDue_answered (ha : op.Admits event .handoverDeadlineDue)
    (h : op.reduceDeadlineDue s event context = .ok r) :
    Answered op context.now s (.event event) r := by
  unfold reduceDeadlineDue at h
  dsimp only at h
  obtain ⟨verdict, hv, h⟩ := bind_ok h
  split at h
  · exact .refused h
  split at h
  · exact .refused h
  rename_i authorisation hf
  split at h
  · exact .refused h
  rename_i hs
  split at h
  · exact .refused h
  obtain ⟨t, ht, h⟩ := bind_ok h
  obtain ⟨u, hu, h⟩ := bind_ok h
  obtain ⟨w, hw, h⟩ := bind_ok h
  have hd := (Transaction.closeObligation_ok ht).trans
    ((Transaction.closeObligation_ok hu).trans (Transaction.openObligation_ok hw))
  refine .accepted h rfl ?_ (.returnExpired ha (timerEventVerdict_none hv).1 hf (not_not.mp hs)
    hd.duties ?_) (.empty _)
  · rw [hd.state]
    rfl
  · rw [hd.timers]
    simp

theorem reduceApprovalDeadlineDue_answered (ha : op.Admits event .approvalDeadlineDue)
    (h : op.reduceApprovalDeadlineDue s event context = .ok r) :
    Answered op context.now s (.event event) r := by
  unfold reduceApprovalDeadlineDue oweDenialNotice at h
  dsimp only at h
  obtain ⟨verdict, hv, h⟩ := bind_ok h
  split at h
  · exact .refused h
  split at h
  · exact .refused h
  rename_i checkpoint hf
  split at h
  · exact .refused h
  rename_i hs
  split at h
  · exact .refused h
  obtain ⟨t, ht, h⟩ := bind_ok h
  obtain ⟨u, hu, h⟩ := bind_ok h
  have hd := (Transaction.closeObligation_ok ht).trans (Transaction.openObligation_ok hu)
  refine .accepted h rfl ?_ (.approvalExpired ha (timerEventVerdict_none hv).1 hf
    (not_not.mp hs) hd.duties ?_) (.empty _)
  · rw [hd.state]
    rfl
  · rw [hd.timers]
    simp

theorem reduceCooldownExpired_answered (ha : op.Admits event .resolutionCooldownExpired)
    (h : reduceCooldownExpired s event context = .ok r) :
    Answered op context.now s (.event event) r := by
  unfold reduceCooldownExpired at h
  dsimp only at h
  split at h
  · exact .refused h
  rename_i hp
  split at h
  · exact .refused h
  rename_i provisional hprovisional
  obtain ⟨verdict, hv, h⟩ := bind_ok h
  split at h
  · exact .refused h
  obtain ⟨htimer, hlate⟩ := timerEventVerdict_none hv
  obtain ⟨fired, limit, hfired, hlimit, hle⟩ := hlate _ rfl
  split at h
  · exact .refused h
  rename_i hb
  push Not at hb
  split at h
  · exact .refused h
  rename_i hsettled
  split at h
  · exact .refused h
  rename_i hopen
  push Not at hopen
  rw [← hb.1] at hsettled
  obtain ⟨refund, hf, hs⟩ : ∃ refund, s.refunds.get? provisional.refundRequestId = some refund ∧
      refund.status = .settled := by
    cases hg : s.refunds.get? provisional.refundRequestId with
    | none => simp [hg] at hsettled
    | some refund => exact ⟨refund, rfl, by simpa [hg] using hsettled⟩
  refine .accepted h rfl ?_ (.finalized ha (not_not.mp hp) hprovisional htimer hfired hlimit hle
    hb.1 hb.2 hf hs hopen.1 hopen.2 ?_) (.single ?_)
  · rw [hb.1, hb.2]
    rfl
  · simp
  · rw [← hb.1]
    exact .refund (Registry.contains_iff.mpr ⟨_, hf⟩)

end Timers

/-- Every event is refused or changes the record in one of the accepted ways. -/
theorem reduceEvent_answered (h : op.reduceEvent s event context = .ok r) :
    Answered op context.now s (.event event) r := by
  unfold reduceEvent at h
  split at h
  · exact .refused h
  rename_i actor hactor
  split at h
  · exact .refused h
  rename_i eventType htype
  split at h
  · exact .refused h
  rename_i hholds
  split at h
  · exact .refused h
  rename_i hvalid
  have ha : op.Admits event eventType := ⟨htype, ⟨actor, hactor, by simpa using hholds⟩, hvalid⟩
  cases eventType with
  | customerReturnRequested => exact reduceReturnRequested_answered ha h
  | customerHandoverClaimed => exact reduceHandoverClaimed_answered ha h
  | carrierHandoverVerified => exact reduceHandoverVerified_answered ha h
  | warehouseInspectionCompleted => exact reduceInspectionCompleted_answered ha h
  | refundApprovalReceived => exact reduceApprovalReceived_answered ha h
  | refundSettlementConfirmed => exact reduceSettlementConfirmed_answered ha h
  | refundSettlementReversed => exact reduceSettlementReversed_answered ha h
  | handoverReminderDue => exact reduceReminderDue_answered ha h
  | handoverDeadlineDue => exact reduceDeadlineDue_answered ha h
  | approvalDeadlineDue => exact reduceApprovalDeadlineDue_answered ha h
  | resolutionCooldownExpired => exact reduceCooldownExpired_answered ha h

end ReturnRefundOperation

end OperateBench.ReturnRefund
