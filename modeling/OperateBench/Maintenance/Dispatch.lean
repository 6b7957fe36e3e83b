import OperateBench.Maintenance.Docket
import OperateBench.Maintenance.Messages

/-! # Messages on record

An accepted message leaves a block of rows: its proposal, what the send left behind with
the receipt last, and its acceptance. From such a block and the message among the
communications the grader establishes delivery.
-/

namespace OperateBench.Maintenance

open Foundation Engine EngineState

section Blocks

variable {R R' : List Record} {now : String} {l : List Entry} {p i : ℕ} {row : Record}

/-- The block of an accepted message that was proposed at a position. -/
structure Dispatched (R : List Record) (p proposal : ℕ) (now : String) (payload : Fields)
    (evidenceRefs : List String) (verdict : Verdict) (l : List Entry) : Prop where
  proposed : R[p]? = some
    (Entry.row (proposedEntry proposal "send_message" payload evidenceRefs) p now)
  inside : interval R p (p + 1 + l.length) = numbered (p + 1) now l
  accepted : R[p + 1 + l.length]? = some
    (Entry.row (effectEntry proposal "send_message" verdict) (p + 1 + l.length) now)

theorem Dispatched.grown {proposal : ℕ} {at' : String} {payload : Fields}
    {evidenceRefs : List String} {verdict : Verdict} {block : List Entry}
    (h : Dispatched R p proposal at' payload evidenceRefs verdict block)
    (hg : Grown R R' now l) : Dispatched R' p proposal at' payload evidenceRefs verdict block where
  proposed := hg.keeps h.proposed
  inside := by
    rw [interval, hg.take (lt_of_getElem? h.accepted).le]
    exact h.inside
  accepted := hg.keeps h.accepted

theorem numbered_cons (start : ℕ) (now : String) (e : Entry) (l : List Entry) :
    numbered start now (e :: l) = Entry.row e start now :: numbered (start + 1) now l := rfl

/-- The block that an accepted message adds. -/
theorem dispatched_of_grown {proposal : ℕ} {payload : Fields} {evidenceRefs : List String}
    {verdict : Verdict} {block rest : List Entry}
    (hg : Grown R R' now (proposedEntry proposal "send_message" payload evidenceRefs :: block ++
      effectEntry proposal "send_message" verdict :: rest)) :
    Dispatched R' R.length proposal now payload evidenceRefs verdict block where
  proposed := hg.adds (j := 0) rfl
  inside := by
    rw [Grown, List.cons_append, numbered_cons, numbered_append, ← List.singleton_append,
      ← List.append_assoc, ← List.append_assoc] at hg
    rw [interval, hg, List.take_left' (by simp [length_numbered]; omega), List.drop_left' (by simp)]
  accepted := by
    have := hg.adds (j := block.length + 1)
      (e := effectEntry proposal "send_message" verdict) (by simp)
    rw [Nat.add_right_comm, Nat.add_assoc]
    exact this

end Blocks

section Delivery

variable {R : List Record}

theorem positions_nodup (R : List Record) (p : ℕ → Record → Bool) : (positions R p).Nodup := by
  have hn : (R.zipIdx.map Prod.snd).Nodup := by
    rw [List.zipIdx_map_snd]
    exact List.nodup_range'
  exact hn.sublist (List.filter_sublist.map _)

/-- The predicate holds at one position only. -/
theorem positions_eq_singleton {p : ℕ → Record → Bool} {q : ℕ} {row : Record}
    (hq : R[q]? = some row) (hp : p q row = true)
    (hu : ∀ i row, R[i]? = some row → p i row = true → i = q) : positions R p = [q] := by
  have hm : q ∈ positions R p := mem_positions.mpr ⟨row, hq, hp⟩
  refine List.perm_singleton.mp ((List.perm_ext_iff_of_nodup (positions_nodup R p)
    (List.nodup_singleton q)).mpr fun i => ?_)
  constructor
  · intro hi
    obtain ⟨row, hr, hp⟩ := mem_positions.mp hi
    exact List.mem_singleton.mpr (hu i row hr hp)
  · intro hi
    exact List.mem_singleton.mp hi ▸ hm

/-- Every answer on record names a proposal by its number. -/
theorem answer_label {n : ℕ} {row : Record} (h : labels answerRows R = numbers n) (hr : row ∈ R)
    (ht : row.recordType ∈ answerRows) : ∃ k, row.get "proposal_id" = .str (proposalId k) := by
  have hm : row.get "proposal_id" ∈ labels answerRows R :=
    List.mem_map_of_mem (List.mem_filter.mpr ⟨hr, by simpa using ht⟩)
  rw [h] at hm
  obtain ⟨k, _, hk⟩ := List.mem_map.mp hm
  exact ⟨k + 1, hk.symm⟩

variable {row : Communication} {index : ℕ} {now : String}

/-- What the receipt of a delivered message says. -/
theorem receipt_get (hd : row.delivered = true) {name : String} {v : Value}
    (hm : (name, v) ∈ [("channel", Value.str "message_dispatch"),
      ("message_fixture_id", .str row.messageFixtureId),
      ("recipient_actor_id", .str row.recipientActorId), ("status", .str "DELIVERED")]) :
    (Entry.row (receiptEntry row) index now).get name = v := by
  refine Fields.get_ofList ?_ ?_
  · cases hr : row.recoveryOf <;> simp [receipt, hd, Communication.recoveryFields, hr]
  · have : (name, v) ∈ receipt row := by
      cases hr : row.recoveryOf <;> simp [receipt, hd, Communication.recoveryFields, hr] <;>
        simp at hm <;> tauto
    exact this

namespace Communication

variable (row : Communication)

@[simp] theorem lookup?_messageFixtureId :
    row.asDict.lookup? "message_fixture_id" = some (.str row.messageFixtureId) := by
  cases hr : row.recoveryOf <;> simp [asDict, Value.lookup?_ofFields, recoveryFields, hr]

@[simp] theorem lookup?_recipientActorId :
    row.asDict.lookup? "recipient_actor_id" = some (.str row.recipientActorId) := by
  cases hr : row.recoveryOf <;> simp [asDict, Value.lookup?_ofFields, recoveryFields, hr]

@[simp] theorem lookup?_correlationId :
    row.asDict.lookup? "correlation_id" = some (.ofText? row.correlationId) := by
  cases hr : row.recoveryOf <;> simp [asDict, Value.lookup?_ofFields, recoveryFields, hr]

@[simp] theorem lookup?_instant : row.asDict.lookup? "at" = some (.str row.instant) := by
  cases hr : row.recoveryOf <;> simp [asDict, Value.lookup?_ofFields, recoveryFields, hr]

@[simp] theorem lookup?_dispatchStatus : row.asDict.lookup? "dispatch_status" =
    some (.str (if row.delivered then "DELIVERED" else "FAILED")) := by
  cases hr : row.recoveryOf <;>
    simp [asDict, Value.lookup?_ofFields, recoveryFields, hr]

@[simp] theorem lookup?_recoveryOf :
    row.asDict.lookup? "recovery_of" = row.recoveryOf.map fun index => .int index := by
  cases hr : row.recoveryOf <;>
    simp [asDict, Value.lookup?_ofFields, recoveryFields, hr]

@[simp] theorem lookup?_dispatchChannel : row.asDict.lookup? "dispatch_channel" =
    row.recoveryOf.map fun _ => .str "secondary" := by
  cases hr : row.recoveryOf <;>
    simp [asDict, Value.lookup?_ofFields, recoveryFields, hr]

end Communication

/-- What the receipt says about a repeated intent. -/
theorem receipt_recovery (index : ℕ) (now : String) (hd : row.delivered = true) :
    Dict.get? (Entry.row (receiptEntry row) index now).payload "recovery_of" =
        row.recoveryOf.map (fun index => Value.int index) ∧
      Dict.get? (Entry.row (receiptEntry row) index now).payload "dispatch_channel" =
        row.recoveryOf.map (fun _ => Value.str "secondary") := by
  cases hr : row.recoveryOf <;>
    simp [Entry.row, receiptEntry, receipt, hd, Communication.recoveryFields, hr, Dict.ofList,
      Dict.get?_set]

/-- A message that was accepted and delivered, as its block shows it. -/
structure Carried (R : List Record) (communications : List Communication) (p proposal : ℕ)
    (payload : Fields) (evidenceRefs : List String) (cycle : String) (rows : List Entry)
    (row : Communication) : Prop where
  block : Dispatched R p proposal row.instant payload evidenceRefs
    (.ok "ACCEPTED" (some cycle) Dict.empty) (rows ++ [receiptEntry row])
  discharges : ∀ e ∈ rows, e.1 = "obligation_discharged"
  delivered : row.delivered = true
  recipient : payload.get "recipient_actor_id" = .str row.recipientActorId
  fixture : payload.get "message_fixture_id" = .str row.messageFixtureId
  correlation : payload.get "correlation_id" = .str cycle
  correlated : row.correlationId = some cycle
  recovery : payload.get? "recovery_of" = row.recoveryOf.map fun index => .int index
  onFile : row ∈ communications

variable {finalState : Fields} {communications : List Communication} {p proposal n : ℕ}
  {payload : Fields} {evidenceRefs : List String} {cycle : String} {rows : List Entry}

theorem proposed_get {actionType name : String} {v : Value}
    (hm : (name, v) ∈ [("proposal_id", Value.str (proposalId proposal)),
      ("action_type", .str actionType), ("payload", payload.asDict),
      ("evidence_refs", .ofTexts evidenceRefs)]) :
    (Entry.row (proposedEntry proposal actionType payload evidenceRefs) index now).get name = v :=
  Fields.get_ofList (by simp) hm

theorem effect_get {actionType name : String} {verdict : Verdict} {v : Value}
    (hm : (name, v) ∈ [("proposal_id", Value.str (proposalId proposal)),
      ("action_type", .str actionType), ("code", .str verdict.code),
      ("cycle_id", .ofText? verdict.cycleId),
      ("bindings", .ofFields (verdict.bindings.entries.map fun (name, id) => (name, .str id)))]) :
    (Entry.row (effectEntry proposal actionType verdict) index now).get name = v :=
  Fields.get_ofList (by simp) hm

theorem gives_of_get {row : Record} {name text : String} (h : row.get name = .str text) :
    row.gives name text = true := by
  simp [Record.gives, h]

/-- The proposal of the block. -/
abbrev proposalRow (p proposal : ℕ) (now : String) (payload : Fields) (evidenceRefs : List String) :
    Record :=
  Entry.row (proposedEntry proposal "send_message" payload evidenceRefs) p now

/-- The position of the acceptance is the only one. -/
theorem Carried.position
    (h : Carried R communications p proposal payload evidenceRefs cycle rows row)
    (hl : labels answerRows R = numbers n) :
    positions R (fun stop answer => p < stop &&
      Evaluator.acceptsSend (proposalRow p proposal row.instant payload evidenceRefs) answer &&
        answer.gives "cycle_id" cycle && answer.instant = row.instant) =
      [p + 1 + (rows ++ [receiptEntry row]).length] := by
  have hself : (proposalRow p proposal row.instant payload evidenceRefs).get "proposal_id" =
      .str (proposalId proposal) := proposed_get (by simp)
  set answer := Entry.row (effectEntry proposal "send_message"
    (.ok "ACCEPTED" (some cycle) Dict.empty)) (p + 1 + (rows ++ [receiptEntry row]).length)
    row.instant with hanswer
  have haccepted : R[p + 1 + (rows ++ [receiptEntry row]).length]? = some answer := h.block.accepted
  refine positions_eq_singleton haccepted ?_ fun i other hi hp => ?_
  · have hid : answer.get "proposal_id" = .str (proposalId proposal) := effect_get (by simp)
    have haction : answer.gives "action_type" "send_message" = true := gives_of_get (effect_get (by simp))
    have hcode : answer.gives "code" "ACCEPTED" = true := gives_of_get (effect_get (by simp [Verdict.ok]))
    have hcycle : answer.gives "cycle_id" cycle = true :=
      gives_of_get (effect_get (by simp [Verdict.ok, Value.ofText?]))
    simp only [Evaluator.acceptsSend, hself, hid, haction, hcode, hcycle, Value.same_str]
    simp [answer, Entry.row, effectEntry, entry, Record.isType]
    omega
  · simp only [Evaluator.acceptsSend, hself, Bool.and_eq_true] at hp
    obtain ⟨⟨⟨_, ⟨⟨ht, hid⟩, _⟩, _⟩, _⟩, _⟩ := hp
    have ht : other.recordType = "effect_accepted" := by simpa [Record.isType] using ht
    have htype : other.recordType ∈ answerRows := by rw [ht]; decide
    obtain ⟨k, hk⟩ := answer_label hl (List.mem_of_getElem? hi) htype
    have hid : proposalId k = proposalId proposal := by simpa [hk] using hid
    refine position_unique (hl ▸ nodup_numbers n) hi haccepted htype (by simp [answer, Entry.row, effectEntry, entry, answerRows]) ?_
    rw [hk, hid]
    exact (effect_get (by simp)).symm

/-- The rows between the proposal and its acceptance. -/
theorem Carried.between
    (h : Carried R communications p proposal payload evidenceRefs cycle rows row) :
    ((interval R p (p + 1 + (rows ++ [receiptEntry row]).length)).any fun row =>
        row.recordType ∈ ["action_proposed", "action_rejected", "side_effect_failed"]) = false ∧
      (interval R p (p + 1 + (rows ++ [receiptEntry row]).length)).filter
          (fun row => row.isType "side_effect") =
        [Entry.row (receiptEntry row) (p + 1 + rows.length) row.instant] := by
  rw [h.block.inside, numbered_append]
  have htype : ∀ r ∈ numbered (p + 1) row.instant rows, r.recordType = "obligation_discharged" :=
    fun r hr => h.discharges _ (mem_numbered hr).2
  have hreceipt : (receiptEntry row).1 = "side_effect" := by simp [receiptEntry, h.delivered]
  constructor
  · rw [List.any_append, List.any_eq_false.mpr fun r hr => by simp [htype r hr]]
    simp [numbered, hreceipt]
  · rw [List.filter_append, List.filter_eq_nil_iff.mpr fun r hr => by simp [Record.isType, htype r hr]]
    simp [numbered, hreceipt, Record.isType, Entry.row]

/-- The grader finds the message delivered. -/
theorem Carried.sendDelivered
    (h : Carried R communications p proposal payload evidenceRefs cycle rows row)
    (hl : labels answerRows R = numbers n)
    (hc : (finalState.get "communications").items = communications.map Communication.asDict)
    (hb : row.recoveryOf.isSome = true → Evaluator.recoveryReceiptBound R finalState p
      payload.asDict (Entry.row (receiptEntry row) (p + 1 + rows.length) row.instant) = true) :
    Evaluator.sendDelivered R finalState row.messageFixtureId row.recipientActorId cycle p
      (proposalRow p proposal row.instant payload evidenceRefs) = true := by
  have hpayload : (proposalRow p proposal row.instant payload evidenceRefs).get "payload" =
      payload.asDict := proposed_get (by simp)
  obtain ⟨hnone, hreceipt⟩ := h.between
  unfold Evaluator.sendDelivered
  simp only [hpayload]
  have hpos := h.position hl
  simp only [show (proposalRow p proposal row.instant payload evidenceRefs).instant = row.instant
    from rfl]
  rw [hpos]
  simp only [hnone, hreceipt]
  obtain ⟨hrecovery, hchannel⟩ := receipt_recovery (p + 1 + rows.length) row.instant h.delivered
  have hlookup : payload.asDict.lookup? "recovery_of" =
      row.recoveryOf.map fun index => .int index := (Value.lookup?_asDict _ _).trans h.recovery
  simp only [Bool.not_false, Bool.true_and, Bool.and_eq_true]
  refine ⟨⟨⟨⟨⟨⟨?_, ?_⟩, ?_⟩, ?_⟩, ?_⟩, ?_⟩, ?_⟩
  · exact gives_of_get (receipt_get h.delivered (by simp))
  · exact gives_of_get (receipt_get h.delivered (by simp))
  · exact gives_of_get (receipt_get h.delivered (by simp))
  · exact gives_of_get (receipt_get h.delivered (by simp))
  · simp [Entry.row]
  · rw [hlookup, hrecovery, hchannel]
    cases hr : row.recoveryOf with
    | none => rfl
    | some index => exact hb (by rw [hr]; rfl)
  · rw [hc, List.any_map, List.any_eq_true]
    refine ⟨row, h.onFile, ?_⟩
    have hsecond : ∀ v : Option ℕ, ((v.map fun _ => Value.str "secondary").getD .none).same
        ((v.map fun _ => Value.str "secondary").getD .none) = true := by
      rintro (_ | index) <;> simp [Value.same]
    simp [Function.comp, Value.field, h.delivered, h.correlated, hlookup, Record.get, Fields.get,
      hchannel, hsecond, Value.ofText?]
    cases row.recoveryOf <;> simp [Value.same]

theorem Carried.messageDelivered
    (h : Carried R communications p proposal payload evidenceRefs cycle rows row)
    (hl : labels answerRows R = numbers n)
    (hc : (finalState.get "communications").items = communications.map Communication.asDict)
    (hb : row.recoveryOf.isSome = true → Evaluator.recoveryReceiptBound R finalState p
      payload.asDict (Entry.row (receiptEntry row) (p + 1 + rows.length) row.instant) = true)
    {after : ℕ} {before : Option ℕ} (ha : after < p)
    (hlimit : ∀ limit, before = some limit → p < limit) :
    Evaluator.messageDelivered R finalState row.messageFixtureId row.recipientActorId cycle after
      before = true := by
  have hpayload : (proposalRow p proposal row.instant payload evidenceRefs).get "payload" =
      payload.asDict := proposed_get (by simp)
  rw [Evaluator.messageDelivered, List.any_eq_true]
  refine ⟨(proposalRow p proposal row.instant payload evidenceRefs, p),
    mem_zipIdx_iff.mpr h.block.proposed, ?_⟩
  have hbefore : before.all (fun limit => p < limit) = true := by
    cases before with
    | none => rfl
    | some limit => simpa using hlimit limit rfl
  have hproposes : Evaluator.proposesSend (proposalRow p proposal row.instant payload evidenceRefs) =
      true := by
    rw [Evaluator.proposesSend, gives_of_get (proposed_get (by simp))]
    rfl
  simp only [hpayload, h.sendDelivered hl hc hb, hbefore, hproposes, Value.field_asDict, h.fixture,
    h.recipient, h.correlation, Value.isStr_str]
  simpa [Fields.asDict, Value.isMapping, Value.ofFields] using ha

theorem Carried.grown {R' : List Record} {communications' : List Communication} {now : String}
    {l : List Entry}
    (h : Carried R communications p proposal payload evidenceRefs cycle rows row)
    (hg : Grown R R' now l) (hc : communications ⊆ communications') :
    Carried R' communications' p proposal payload evidenceRefs cycle rows row :=
  { h with block := h.block.grown hg, onFile := hc h.onFile }

end Delivery

section Sends

open MaintenanceOperation

variable {op : MaintenanceOperation} {P : MaintenanceState → Call → Prop}
  {s s' : EngineState MaintenanceState} {context : EnvironmentContext} {payload : Fields}
  {evidenceRefs : List String} {reduction : Reduction MaintenanceState} {l : List Entry}

/-- What is known of an accepted message. -/
structure Message (op : MaintenanceOperation) (s : MaintenanceState) (context : EnvironmentContext)
    (payload : Fields) (recoveryOf : Option ℕ) (reduction : Reduction MaintenanceState)
    (rows l : List Entry) : Prop where
  sent : Sent op s context payload recoveryOf reduction
  valid : validatePayload (actionPayloadSchema op.spec.recoveryEnabled .sendMessage) payload
    "action send_message" "send_message" = .ok ()
  left : l = rows ++ [receiptEntry (message context payload recoveryOf)]
  discharges : ∀ e ∈ rows, e.1 = "obligation_discharged"
  communications : reduction.state.communications =
    s.communications ++ [message context payload recoveryOf]
  verdict : reduction.verdict = .ok "ACCEPTED"
    (orElse (payload.text? "correlation_id") s.currentCycleId) Dict.empty

theorem sending_communications (s : MaintenanceState) (now : String) (row : Communication) :
    (sending s now row).state.communications = s.communications ++ [row] := by
  unfold sending
  dsimp only
  split
  · obtain ⟨cycles, obligations, sent, hs, _, _⟩ := dischargeNotice_state now
      (Transaction.begin { s with communications := s.communications ++ [row] })
      row.messageFixtureId row.correlationId
    rw [Transaction.state_record, hs]
    rfl
  · rfl

theorem Accepts.message
    (h : Accepts op P s s' ⟨context, .action "send_message" payload evidenceRefs⟩ reduction l) :
    ∃ recoveryOf rows, Message op s.state context payload recoveryOf reduction rows l := by
  obtain ⟨recoveryOf, sent, hvalid⟩ := applyAction_sent h.responded h.accepted
  obtain ⟨rows, heffects, hrows⟩ := sending_effects s.state context.now
    (Maintenance.message context payload recoveryOf)
  have hresult := Except.ok.inj sent.result
  have hleft : l = rows ++ [receiptEntry (Maintenance.message context payload recoveryOf)] := by
    have he : EffectEntries s.clock.now ((rows ++ [receiptEntry
        (Maintenance.message context payload recoveryOf)]).map Entry.effect) l := by
      rw [← heffects, ← show reduction.effects = (sending s.state context.now _).effects from
        (congrArg Reduction.effects hresult).symm]
      exact h.effects
    exact EffectEntries.of_records he
  refine ⟨recoveryOf, rows, sent, hvalid, hleft, hrows, ?_, ?_⟩
  · rw [← hresult]
    exact sending_communications _ _ _
  · rw [← hresult]

end Sends

end OperateBench.Maintenance
