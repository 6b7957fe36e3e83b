import OperateBench.Maintenance.Lifecycle

/-! # Allocated identities

An identity is allocated from what the record holds. What no record holds any more may be
allocated again, and the one record that can disappear is a cycle that another is filed over; so
long as no such cycle holds a visit, an allocated identity was never held before.
-/

namespace OperateBench.Maintenance

open Foundation

section Allocation

/-- The search passes used names only, and stops at the first that is free. -/
theorem allocateFrom_eq (stem : String) (used : List String) (fuel index : ℕ) :
    ∃ k ≤ fuel, allocateFrom stem used fuel index = s!"{stem}_{index + k}" ∧
      ∀ j < k, s!"{stem}_{index + j}" ∈ used := by
  induction fuel generalizing index with
  | zero => exact ⟨0, Nat.le_refl 0, rfl, fun j hj => absurd hj (Nat.not_lt_zero j)⟩
  | succ fuel ih =>
    rw [allocateFrom]
    split
    · rename_i hused
      obtain ⟨k, hk, heq, hbefore⟩ := ih (index + 1)
      refine ⟨k + 1, Nat.succ_le_succ hk, ?_, ?_⟩
      · rw [heq, show index + 1 + k = index + (k + 1) by omega]
      · intro j hj
        cases j with
        | zero => exact hused
        | succ j =>
          rw [show index + (j + 1) = index + 1 + j by omega]
          exact hbefore j (Nat.lt_of_succ_lt_succ hj)
    · exact ⟨0, Nat.zero_le _, rfl, fun j hj => absurd hj (Nat.not_lt_zero j)⟩

/-- The search ends, whatever is in use, and after no more steps than there are names in use. -/
theorem allocate_first (stem : String) (used : List String) :
    ∃ index, used.dedup.length < index ∧ index ≤ 2 * used.dedup.length + 1 ∧
      allocate stem used = s!"{stem}_{index}" ∧ s!"{stem}_{index}" ∉ used ∧
        ∀ earlier, used.dedup.length < earlier → earlier < index → s!"{stem}_{earlier}" ∈ used := by
  obtain ⟨k, hk, heq, hbefore⟩ := allocateFrom_eq stem used used.dedup.length
    (used.dedup.length + 1)
  refine ⟨used.dedup.length + 1 + k, by omega, by omega, heq, ?_, ?_⟩
  · have hfree := allocate_notMem stem used
    rw [allocate, heq] at hfree
    exact hfree
  · intro earlier hlow hhigh
    have hused := hbefore (earlier - (used.dedup.length + 1)) (by omega)
    rwa [show used.dedup.length + 1 + (earlier - (used.dedup.length + 1)) = earlier by omega]
      at hused

/-- The identity is one of the numbered names behind the stem. -/
def Numbered (stem id : String) : Prop := ∃ index : ℕ, id = s!"{stem}_{index}"

theorem numbered_allocate (stem : String) (used : List String) :
    Numbered stem (allocate stem used) := by
  obtain ⟨index, -, -, heq, -⟩ := allocate_first stem used
  exact ⟨index, heq⟩

theorem Numbered.ne {stem stem' id id' : String}
    (hclash : (stem.toList.zip stem'.toList).any (fun e => e.1 ≠ e.2) = true)
    (h : Numbered stem id) (h' : Numbered stem' id') : id ≠ id' := by
  obtain ⟨m, rfl⟩ := h
  obtain ⟨n, rfl⟩ := h'
  have hne := stem_ne hclash ("_" ++ toString m) ("_" ++ toString n)
  rwa [← String.append_assoc, ← String.append_assoc] at hne

end Allocation

variable {op : MaintenanceOperation} {s s' u : MaintenanceState} {call : Call} {cause : Cause}
  {now id : String} {t : Transaction} {cycle before : Cycle}

section Records

/-- A record goes by the identity, or names the visit that does. -/
inductive MaintenanceState.Holds (s : MaintenanceState) : String → Prop
  | visit {cycle : Cycle} {id : String} (onFile : cycle ∈ s.cycles.values)
      (visited : cycle.visitId = some id) : Holds s id
  | approval {approval : Approval} (onFile : approval ∈ s.approvals.values) :
      Holds s approval.checkpointId
  | exception {checkpoint : ExceptionCheckpoint} (onFile : checkpoint ∈ s.exceptions.values) :
      Holds s checkpoint.checkpointId
  | payment {id : String} (requested : s.payment.requestId = some id) : Holds s id

/-- The identity is the one that an action accepted on this record would be given. -/
inductive MaintenanceState.Allocates (s : MaintenanceState) : String → Prop
  | visit : Allocates s (allocateVisitId s)
  | checkpoint : Allocates s (allocateCheckpointId s)
  | payment (unrequested : s.payment.status = .notRequested) :
      Allocates s (allocatePaymentRequestId s)

/-- No two cycles share a visit, and no approval shares its identity with an exception. -/
structure MaintenanceState.Distinguished (s : MaintenanceState) : Prop where
  visits : ∀ a ∈ s.cycles.values, ∀ b ∈ s.cycles.values, ∀ id,
    a.visitId = some id → b.visitId = some id → a = b
  checkpoints : ∀ a ∈ s.approvals.values, ∀ b ∈ s.exceptions.values,
    a.checkpointId ≠ b.checkpointId

/-- What is held was allocated, and what has not begun holds nothing. -/
structure MaintenanceState.Identified (s : MaintenanceState) : Prop extends s.Distinguished where
  blank : ∀ a ∈ s.cycles.values, a.visitStatus = .none → a.visitId = none
  visitNames : ∀ a ∈ s.cycles.values, ∀ id, a.visitId = some id → Numbered "visit" id
  approvalNames : ∀ a ∈ s.approvals.values, Numbered "checkpoint" a.checkpointId
  exceptionNames : ∀ a ∈ s.exceptions.values, Numbered "checkpoint" a.checkpointId
  unrequested : s.payment.status = .notRequested → s.payment.requestId = none
  requestNames : ∀ id, s.payment.requestId = some id → Numbered "payment" id

theorem allocateVisitId_new (onFile : cycle ∈ s.cycles.values) :
    cycle.visitId ≠ some (allocateVisitId s) := by
  intro h
  exact allocate_notMem "visit" _ (List.mem_filterMap.mpr ⟨cycle, onFile, h⟩)

/-- What is allocated is held by no record. -/
theorem MaintenanceState.Identified.not_holds (h : s.Identified) (ha : s.Allocates id) :
    ¬s.Holds id := by
  intro hh
  cases ha with
  | visit =>
    have hname := numbered_allocate "visit" (s.cycles.values.filterMap Cycle.visitId)
    generalize hid : allocateVisitId s = id at hh
    cases hh with
    | visit onFile visited => exact allocateVisitId_new onFile (hid ▸ visited)
    | approval onFile => exact (h.approvalNames _ onFile).ne (by decide) hname hid.symm
    | exception onFile => exact (h.exceptionNames _ onFile).ne (by decide) hname hid.symm
    | payment requested => exact (h.requestNames _ requested).ne (by decide) hname hid.symm
  | checkpoint =>
    have hname := numbered_allocate "checkpoint" (s.approvals.keys ++ s.exceptions.keys)
    generalize hid : allocateCheckpointId s = id at hh
    cases hh with
    | visit onFile visited =>
      exact (h.visitNames _ onFile _ visited).ne (by decide) hname hid.symm
    | approval onFile =>
      have hfree := get?_allocateCheckpointId_approvals s
      rw [hid, Registry.mem_values_iff.mp onFile] at hfree
      cases hfree
    | exception onFile =>
      have hfree := get?_allocateCheckpointId_exceptions s
      rw [hid, Registry.mem_values_iff.mp onFile] at hfree
      cases hfree
    | payment requested => exact (h.requestNames _ requested).ne (by decide) hname hid.symm
  | payment unrequested =>
    have hname := numbered_allocate "payment" s.payment.requestId.toList
    generalize hid : allocatePaymentRequestId s = id at hh
    cases hh with
    | visit onFile visited =>
      exact (h.visitNames _ onFile _ visited).ne (by decide) hname hid.symm
    | approval onFile => exact (h.approvalNames _ onFile).ne (by decide) hname hid.symm
    | exception onFile => exact (h.exceptionNames _ onFile).ne (by decide) hname hid.symm
    | payment requested =>
      rw [h.unrequested unrequested] at requested
      cases requested

end Records

section Steps

/-- The call files a new cycle where there is one with a visit. -/
inductive Displaces (op : MaintenanceOperation) (s : MaintenanceState) : Call → Prop
  | issue {context : EnvironmentContext} {event : Event} {cycle : Cycle}
      (admitted : op.Admits event .customerIssueReported) (first : s.issueId = none)
      (handled : event.payload.text "classification" = op.policy.issueClassification)
      (held : s.cycles.get? (event.payload.text "cycle_id") = some cycle)
      (visited : cycle.visitId ≠ none) : Displaces op s ⟨context, .event event⟩
  | reopening {context : EnvironmentContext} {event : Event} {instant limit : Int} {cycle : Cycle}
      (admitted : op.Admits event .customerResolutionReported)
      (report : event.payload.text "status" = "PERSISTS")
      (phase : s.phase = .provisionallyClosed) (moment : strptime context.now = .ok instant)
      (window : strptime (s.provisionalClose.reopenUntil.getD "None") = .ok limit)
      (inTime : instant ≤ limit) (held : s.cycles.get? (reopenedCycleId s) = some cycle)
      (visited : cycle.visitId ≠ none) : Displaces op s ⟨context, .event event⟩

/-- How a step files a cycle: as a new one, with the visit it had, or with its first visit. -/
inductive Cycle.Filed (op : MaintenanceOperation) (s : MaintenanceState) (call : Call)
    (cycle : Cycle) : Prop
  | opened (unstarted : cycle.visitStatus = .none) (blank : cycle.visitId = none)
      (displaces : ∀ before, s.cycles.get? cycle.cycleId = some before → before.visitId ≠ none →
        Displaces op s call)
  | moved {before : Cycle} (onFile : s.cycles.get? cycle.cycleId = some before)
      (follows : before.Follows cycle) (visit : cycle.visitId = before.visitId)
      (begun : cycle.visitStatus = .none ↔ before.visitStatus = .none)
  | visited {before : Cycle} (onFile : s.cycles.get? cycle.cycleId = some before)
      (follows : before.Follows cycle) (unstarted : before.visitStatus = .none)
      (visit : cycle.visitId = some (allocateVisitId s)) (begun : cycle.visitStatus ≠ .none)

/-- A cycle whose visit goes on keeps its visit. -/
theorem Cycle.Filed.advanced {visitStatus : VisitStatus} (onFile : s.cycles.get? cycle.cycleId = some before)
    (follows : before.Follows cycle) (visit : cycle.visitId = before.visitId)
    (stood : before.visitStatus = visitStatus) (had : visitStatus ≠ .none)
    (has : cycle.visitStatus ≠ .none) : cycle.Filed op s call :=
  .moved onFile follows visit ⟨fun h => absurd h has, fun h => absurd (stood.symm.trans h) had⟩

theorem Commit.filed (hc : Commit op call.context.now s call.cause t) :
    t.state.cycles = s.cycles ∨
      ∃ cycle, t.state.cycles = s.cycles.put cycle ∧ cycle.Filed op s call := by
  obtain ⟨context, cause⟩ := call
  cases hc with
  | issueReported admitted first handled =>
    exact Or.inr ⟨_, rfl, .opened rfl rfl fun _ held visited =>
      .issue admitted first handled held visited⟩
  | reopened admitted report phase moment window inTime =>
    exact Or.inr ⟨_, rfl, .opened rfl rfl fun _ held visited =>
      .reopening admitted report phase moment window inTime held visited⟩
  | visitAnswered onFile awaited answer =>
    refine Or.inr ⟨_, rfl, .advanced onFile ⟨rfl, rfl, rfl, Or.inr ?_⟩ rfl awaited (by simp) ?_⟩
    · rw [awaited]
      rcases answer with rfl | rfl
      · exact .scheduled
      · exact .declined
    · rcases answer with rfl | rfl <;> simp
  | attended admitted found scheduled =>
    refine Or.inr ⟨_, rfl, .advanced (cycleForVisit_some found).1 ⟨rfl, rfl, rfl, Or.inr ?_⟩ rfl
      scheduled (by simp) (by simp)⟩
    rw [scheduled]
    exact .attended
  | workReported onFile attended =>
    refine Or.inr ⟨_, rfl, .advanced onFile ⟨rfl, rfl, rfl, Or.inr ?_⟩ rfl attended (by simp) (by simp)⟩
    rw [attended]
    exact .reported
  | workVerified admitted onFile visit attended =>
    have held := Registry.get?_ident onFile
    rcases attended with h | h
    · refine Or.inr ⟨_, rfl, .advanced held ⟨rfl, rfl, rfl, Or.inr ?_⟩ rfl h (by simp) (by simp)⟩
      rw [h]
      exact .confirmed
    · refine Or.inr ⟨_, rfl, .advanced held ⟨rfl, rfl, rfl, Or.inr ?_⟩ rfl h (by simp) (by simp)⟩
      rw [h]
      exact .verified
  | quoteReceived =>
    dsimp only [Registry.putNew]
    split
    · exact Or.inl rfl
    · rename_i hnew
      refine Or.inr ⟨_, rfl, .opened rfl rfl fun before held => ?_⟩
      exact absurd (Registry.contains_iff.mpr ⟨before, held⟩) hnew
  | visitRequested onFile unstarted =>
    refine Or.inr ⟨_, rfl, .visited onFile ⟨rfl, rfl, rfl, Or.inr ?_⟩ unstarted rfl (by simp)⟩
    rw [unstarted]
    exact .requested
  | workAuthorised onFile unstarted =>
    refine Or.inr ⟨_, rfl, .visited onFile ⟨rfl, rfl, rfl, Or.inr ?_⟩ unstarted rfl (by simp)⟩
    rw [unstarted]
    exact .booked
  | messageSent noticed =>
    rcases noticed with hsame | ⟨cycle, onFile, hput⟩
    · exact Or.inl hsame
    · exact Or.inr ⟨_, hput, .moved onFile ⟨rfl, rfl, rfl, Or.inl rfl⟩ rfl Iff.rfl⟩
  | _ => exact Or.inl rfl

/-- A checkpoint on file was there before, or has the identity that the record would allocate. -/
theorem Commit.checkpoints (hc : Commit op now s cause t) :
    (∀ a ∈ t.state.approvals.values, s.approvals.contains a.checkpointId = true ∨
      a.checkpointId = allocateCheckpointId s ∧ t.state.exceptions = s.exceptions) ∧
    ∀ a ∈ t.state.exceptions.values, s.exceptions.contains a.checkpointId = true ∨
      a.checkpointId = allocateCheckpointId s ∧ t.state.approvals = s.approvals := by
  have hheld : ∀ a ∈ s.approvals.values, s.approvals.contains a.checkpointId = true :=
    fun a ha => Registry.contains_iff.mpr ⟨a, Registry.mem_values_iff.mp ha⟩
  have hheld' : ∀ a ∈ s.exceptions.values, s.exceptions.contains a.checkpointId = true :=
    fun a ha => Registry.contains_iff.mpr ⟨a, Registry.mem_values_iff.mp ha⟩
  cases hc with
  | decided onFile =>
    exact ⟨Registry.forall_put (fun a ha => Or.inl (hheld a ha))
      (Or.inl (Registry.contains_iff.mpr ⟨_, onFile⟩)), fun a ha => Or.inl (hheld' a ha)⟩
  | reminderFired onFile =>
    exact ⟨Registry.forall_put (fun a ha => Or.inl (hheld a ha))
      (Or.inl (Registry.contains_iff.mpr ⟨_, onFile⟩)), fun a ha => Or.inl (hheld' a ha)⟩
  | expired onFile =>
    exact ⟨Registry.forall_put (fun a ha => Or.inl (hheld a ha))
      (Or.inl (Registry.contains_iff.mpr ⟨_, onFile⟩)), fun a ha => Or.inl (hheld' a ha)⟩
  | exceptionResolved onFile =>
    exact ⟨fun a ha => Or.inl (hheld a ha), Registry.forall_put (fun a ha => Or.inl (hheld' a ha))
      (Or.inl (Registry.contains_iff.mpr ⟨_, onFile⟩))⟩
  | approvalRequested =>
    exact ⟨Registry.forall_put (fun a ha => Or.inl (hheld a ha)) (Or.inr ⟨rfl, rfl⟩),
      fun a ha => Or.inl (hheld' a ha)⟩
  | exceptionRequested allocated =>
    exact ⟨fun a ha => Or.inl (hheld a ha),
      Registry.forall_put (fun a ha => Or.inl (hheld' a ha)) (Or.inr ⟨allocated, rfl⟩)⟩
  | _ => exact ⟨fun a ha => Or.inl (hheld a ha), fun a ha => Or.inl (hheld' a ha)⟩

/-- The payment keeps its request, or gets its first. -/
theorem Commit.request (hc : Commit op now s cause t) :
    t.state.payment.requestId = s.payment.requestId ∧
        (t.state.payment.status = .notRequested → s.payment.status = .notRequested) ∨
      s.payment.status = .notRequested ∧ t.state.payment.status ≠ .notRequested ∧
        t.state.payment.requestId = some (allocatePaymentRequestId s) := by
  cases hc with
  | settled => exact Or.inl ⟨rfl, nofun⟩
  | paymentRequested onFile unrequested => exact Or.inr ⟨unrequested, nofun, rfl⟩
  | _ => exact Or.inl ⟨rfl, id⟩

theorem initial_identified : op.initialState.Identified where
  visits _ ha := absurd ha List.not_mem_nil
  checkpoints _ ha := absurd ha List.not_mem_nil
  blank _ ha := absurd ha List.not_mem_nil
  visitNames _ ha := absurd ha List.not_mem_nil
  approvalNames _ ha := absurd ha List.not_mem_nil
  exceptionNames _ ha := absurd ha List.not_mem_nil
  unrequested _ := rfl
  requestNames _ := nofun

/-- The visit of a filed cycle was that of the cycle before it, or is the one allocated. -/
theorem Cycle.Filed.visit (h : cycle.Filed op s call) (visited : cycle.visitId = some id) :
    (∃ before, s.cycles.get? cycle.cycleId = some before ∧ before.visitId = some id) ∨
      id = allocateVisitId s := by
  cases h with
  | opened _ blank =>
    rw [blank] at visited
    cases visited
  | moved onFile _ visit => exact Or.inl ⟨_, onFile, visit ▸ visited⟩
  | visited _ _ _ visit =>
    rw [visit] at visited
    exact Or.inr (Option.some.inj visited).symm

/-- Filing a cycle gives no other cycle's visit to it. -/
theorem visits_put (h : s.Identified) (hf : cycle.Filed op s call) {a : Cycle}
    (ha : a ∈ s.cycles.values) (hother : a.cycleId ≠ cycle.cycleId)
    (hvisit : a.visitId = some id) : cycle.visitId ≠ some id := by
  intro visited
  rcases hf.visit visited with ⟨before, onFile, hbefore⟩ | rfl
  · have hsame := h.visits a ha before (Registry.mem_of_get? onFile) id hvisit hbefore
    exact hother (hsame ▸ Registry.ident_of_get? onFile)
  · exact allocateVisitId_new ha hvisit

theorem Commit.identified (h : s.Identified) (hc : Commit op call.context.now s call.cause t) :
    t.state.Identified := by
  have hcycles := hc.filed
  obtain ⟨happrovals, hexceptions⟩ := hc.checkpoints
  have hpayment := hc.request
  refine ⟨⟨?_, ?_⟩, ?_, ?_, ?_, ?_, ?_, ?_⟩
  · rcases hcycles with heq | ⟨cycle, heq, hf⟩
    · exact heq ▸ h.visits
    rw [heq]
    intro a ha b hb id hva hvb
    rcases Registry.mem_put_iff.mp ha with rfl | ⟨hna, hma⟩
    · rcases Registry.mem_put_iff.mp hb with rfl | ⟨hnb, hmb⟩
      · rfl
      · exact absurd hva (visits_put h hf hmb hnb hvb)
    · rcases Registry.mem_put_iff.mp hb with rfl | ⟨_, hmb⟩
      · exact absurd hvb (visits_put h hf hma hna hva)
      · exact h.visits a hma b hmb id hva hvb
  · intro a ha b hb heq
    rcases happrovals a ha with hold | ⟨hnew, hsame⟩
    · obtain ⟨a₀, honFile⟩ := Registry.contains_iff.mp hold
      rcases hexceptions b hb with hold' | ⟨hnew', -⟩
      · obtain ⟨b₀, honFile'⟩ := Registry.contains_iff.mp hold'
        have hne := h.checkpoints a₀ (Registry.mem_of_get? honFile) b₀ (Registry.mem_of_get? honFile')
        exact hne ((Registry.ident_of_get? honFile).trans
          (heq.trans (Registry.ident_of_get? honFile').symm))
      · rw [heq, hnew', get?_allocateCheckpointId_approvals] at honFile
        cases honFile
    · rw [hsame] at hb
      have honFile := Registry.mem_values_iff.mp hb
      rw [← heq, hnew, get?_allocateCheckpointId_exceptions] at honFile
      cases honFile
  · rcases hcycles with heq | ⟨cycle, heq, hf⟩
    · exact heq ▸ h.blank
    rw [heq]
    refine Registry.forall_put h.blank fun hstatus => ?_
    cases hf with
    | opened _ blank => exact blank
    | moved onFile _ visit begun =>
      exact visit.trans (h.blank _ (Registry.mem_of_get? onFile) (begun.mp hstatus))
    | visited _ _ _ _ begun => exact absurd hstatus begun
  · rcases hcycles with heq | ⟨cycle, heq, hf⟩
    · exact heq ▸ h.visitNames
    rw [heq]
    refine Registry.forall_put h.visitNames fun id visited => ?_
    rcases hf.visit visited with ⟨before, onFile, hbefore⟩ | rfl
    · exact h.visitNames before (Registry.mem_of_get? onFile) id hbefore
    · exact numbered_allocate _ _
  · intro a ha
    rcases happrovals a ha with hold | ⟨hnew, -⟩
    · obtain ⟨a₀, honFile⟩ := Registry.contains_iff.mp hold
      exact Registry.ident_of_get? honFile ▸ h.approvalNames a₀ (Registry.mem_of_get? honFile)
    · exact hnew ▸ numbered_allocate _ _
  · intro a ha
    rcases hexceptions a ha with hold | ⟨hnew, -⟩
    · obtain ⟨a₀, honFile⟩ := Registry.contains_iff.mp hold
      exact Registry.ident_of_get? honFile ▸ h.exceptionNames a₀ (Registry.mem_of_get? honFile)
    · exact hnew ▸ numbered_allocate _ _
  · intro hstatus
    rcases hpayment with ⟨hsame, hback⟩ | ⟨-, hrequested, -⟩
    · exact hsame.trans (h.unrequested (hback hstatus))
    · exact absurd hstatus hrequested
  · intro id hrequest
    rcases hpayment with ⟨hsame, -⟩ | ⟨-, -, hnew⟩
    · exact h.requestNames id (hsame ▸ hrequest)
    · obtain rfl := Option.some.inj (hnew.symm.trans hrequest)
      exact numbered_allocate _ _

theorem run_identified {P : MaintenanceState → Call → Prop}
    (h : Run op.Step P op.initialState s) : s.Identified :=
  MaintenanceOperation.run_invariant h initial_identified fun _ _ _ hs _ hc => hc.identified hs

/-- What a step holds anew, it was allocated. -/
theorem Commit.holds (hc : Commit op call.context.now s call.cause t) (hh : t.state.Holds id) :
    s.Holds id ∨ s.Allocates id := by
  cases hh with
  | visit onFile visited =>
    rcases hc.filed with heq | ⟨cycle, heq, hf⟩
    · exact Or.inl (.visit (heq ▸ onFile) visited)
    rw [heq] at onFile
    rcases Registry.mem_put onFile with rfl | onFile
    · rcases hf.visit visited with ⟨before, honFile, hbefore⟩ | rfl
      · exact Or.inl (.visit (Registry.mem_of_get? honFile) hbefore)
      · exact Or.inr .visit
    · exact Or.inl (.visit onFile visited)
  | approval onFile =>
    rcases hc.checkpoints.1 _ onFile with hold | ⟨hnew, -⟩
    · obtain ⟨a₀, honFile⟩ := Registry.contains_iff.mp hold
      exact Or.inl (Registry.ident_of_get? honFile ▸ .approval (Registry.mem_of_get? honFile))
    · exact Or.inr (hnew ▸ .checkpoint)
  | exception onFile =>
    rcases hc.checkpoints.2 _ onFile with hold | ⟨hnew, -⟩
    · obtain ⟨a₀, honFile⟩ := Registry.contains_iff.mp hold
      exact Or.inl (Registry.ident_of_get? honFile ▸ .exception (Registry.mem_of_get? honFile))
    · exact Or.inr (hnew ▸ .checkpoint)
  | payment requested =>
    rcases hc.request with ⟨hsame, -⟩ | ⟨hunrequested, -, hnew⟩
    · exact Or.inl (.payment (hsame ▸ requested))
    · obtain rfl := Option.some.inj (hnew.symm.trans requested)
      exact Or.inr (.payment hunrequested)

/-- A step that displaces no visit loses no identity. -/
theorem Commit.keeps (hi : s.Identified) (ha : s.Agrees op) (hn : ¬Displaces op s call)
    (hc : Commit op call.context.now s call.cause t) (hh : s.Holds id) : t.state.Holds id := by
  cases hh with
  | visit onFile visited =>
    rename_i cycle
    rcases hc.filed with heq | ⟨filed, heq, hf⟩
    · exact .visit (heq ▸ onFile) visited
    by_cases hid : cycle.cycleId = filed.cycleId
    · have honFile := Registry.mem_values_iff.mp onFile
      rw [hid] at honFile
      refine .visit (heq ▸ Registry.mem_values_iff.mpr (Registry.get?_put_self _ _)) ?_
      cases hf with
      | opened _ _ displaces =>
        refine absurd (displaces cycle honFile ?_) hn
        rw [visited]
        exact nofun
      | moved onFile' _ visit =>
        obtain rfl := Option.some.inj (honFile.symm.trans onFile')
        exact visit.trans visited
      | visited onFile' _ unstarted =>
        obtain rfl := Option.some.inj (honFile.symm.trans onFile')
        rw [hi.blank _ onFile unstarted] at visited
        cases visited
    · exact .visit (heq ▸ Registry.mem_put_iff.mpr (Or.inr ⟨hid, onFile⟩)) visited
  | approval onFile =>
    obtain ⟨a, honFile, -⟩ := (hc.advances ha).approvals _ _ (Registry.mem_values_iff.mp onFile)
    exact Registry.ident_of_get? honFile ▸ .approval (Registry.mem_of_get? honFile)
  | exception onFile =>
    obtain ⟨a, honFile, -⟩ := (hc.advances ha).exceptions _ _ (Registry.mem_values_iff.mp onFile)
    exact Registry.ident_of_get? honFile ▸ .exception (Registry.mem_of_get? honFile)
  | payment requested =>
    rcases hc.request with ⟨hsame, -⟩ | ⟨hunrequested, -, -⟩
    · exact .payment (hsame.trans requested)
    · rw [hi.unrequested hunrequested] at requested
      cases requested

end Steps

section Histories

/-- What was held is still held after steps that displace no visit. -/
theorem run_keeps (hu : Reaches op.Step op.initialState u)
    (h : Run op.Step (fun s call => ¬Displaces op s call) u s) (hh : u.Holds id) :
    s.Identified ∧ s.Holds id := by
  have hall : (s.Identified ∧ s.Agrees op) ∧ s.Holds id := by
    refine MaintenanceOperation.run_invariant (I := fun s => (s.Identified ∧ s.Agrees op) ∧
      s.Holds id) h ⟨⟨run_identified hu, MaintenanceOperation.run_agrees hu⟩, hh⟩ ?_
    rintro s call t ⟨⟨hi, ha⟩, hs⟩ hn hc
    exact ⟨⟨hc.identified hi, hc.agreement ha⟩, hc.keeps hi ha hn hs⟩
  exact ⟨hall.1.1, hall.2⟩

/-- On every run identities are told apart, a step holds anew only what it was allocated, one that
refuses leaves the record as it was, and the search for a free name ends; and along steps that
displace no visit, no identity that was held at any point is allocated again. -/
theorem identities_fresh (op : MaintenanceOperation) :
    (∀ s, Reaches op.Step op.initialState s → s.Distinguished) ∧
    (∀ u s, Reaches op.Step op.initialState u →
      Run op.Step (fun s call => ¬Displaces op s call) u s →
        ∀ id, u.Holds id → ¬s.Allocates id) ∧
    (∀ s call s', Reaches op.Step op.initialState s → op.Step s call s' →
      ∀ id, s'.Holds id → s.Holds id ∨ s.Allocates id) ∧
    (∀ s call r, op.respond call s = .ok r → r.verdict.accepted = false → r.state = s) ∧
    ∀ stem used, ∃ index, used.dedup.length < index ∧ index ≤ 2 * used.dedup.length + 1 ∧
      allocate stem used = s!"{stem}_{index}" ∧ s!"{stem}_{index}" ∉ used ∧
        ∀ earlier, used.dedup.length < earlier → earlier < index →
          s!"{stem}_{earlier}" ∈ used := by
  refine ⟨?_, ?_, ?_, ?_, allocate_first⟩
  · intro s hs
    exact (run_identified hs).toDistinguished
  · intro u s hu h id hh ha
    obtain ⟨hi, hs⟩ := run_keeps hu h hh
    exact hi.not_holds ha hs
  · intro s call s' hs hstep id hh
    rcases MaintenanceOperation.step_cases hstep with rfl | ⟨effects, hc⟩
    · exact Or.inl hh
    · exact hc.holds hh
  · intro s call r hr hrefused
    rcases MaintenanceOperation.respond_answered hr with ⟨code, detail, rfl⟩ | ⟨haccepted, -⟩
    · rfl
    · rw [haccepted] at hrefused
      cases hrefused

/-- Another visit is asked for, to the cycle that took the place of the finished one. -/
def visitedAgain : Fixture.Proposal where
  actionType := .requestSupplierVisit
  payload := [("visit_type", .str "WARRANTY_REVISIT"), ("cycle_id", .str "work_cycle_2")]

/-- The only visit disappears with its cycle, and the next one is given its identity. -/
theorem visit_allocated_again : ¬∀ u s call s' id,
    Reaches (Fixture.operation []).Step (Fixture.operation []).initialState u →
      Reaches (Fixture.operation []).Step u s → (Fixture.operation []).Step s call s' →
        s'.Holds id → ¬s.Holds id → ¬u.Holds id := by
  intro h
  obtain ⟨u, hu, hc⟩ := ok_of_any (x := (Fixture.operation []).respondAll closedAsWarranty
    (Fixture.operation []).initialState) (p := fun u =>
      (u.cycles.values.any fun cycle => cycle.visitId = some "visit_1") &&
        ((Fixture.operation []).respondAll [Fixture.brings (Fixture.persists 5
          "2031-03-04T12:00:00Z")] u).toOption.any fun s =>
            decide (allocateVisitId s = "visit_1") &&
              ((Fixture.operation []).respond (visitedAgain.call "2031-03-04T13:00:00Z")
                s).toOption.any fun r =>
                  r.state.cycles.values.any fun cycle => cycle.visitId = some "visit_1")
    (by decide +kernel)
  obtain ⟨hfirst, hc⟩ := Bool.and_eq_true_iff.mp hc
  obtain ⟨s, hs, hc⟩ := ok_of_any hc
  obtain ⟨hallocates, hc⟩ := Bool.and_eq_true_iff.mp hc
  obtain ⟨r, hr, hagain⟩ := ok_of_any hc
  have hvisit : ∀ s : MaintenanceState, (s.cycles.values.any fun cycle =>
      cycle.visitId = some "visit_1") = true → s.Holds "visit_1" := by
    intro s hany
    obtain ⟨cycle, onFile, hid⟩ := List.any_eq_true.mp hany
    exact .visit onFile (of_decide_eq_true hid)
  have hreaches : Reaches (Fixture.operation []).Step (Fixture.operation []).initialState u :=
    MaintenanceOperation.run_of_respondAll (fun _ _ _ => trivial) hu
  have hcontinues : Reaches (Fixture.operation []).Step u s :=
    MaintenanceOperation.run_of_respondAll (fun _ _ _ => trivial) hs
  have hfree : ¬s.Holds "visit_1" :=
    (run_identified (hreaches.trans hcontinues)).not_holds (of_decide_eq_true hallocates ▸ .visit)
  exact h u s _ r.state "visit_1" hreaches hcontinues ⟨r, hr, rfl⟩ (hvisit _ hagain) hfree
    (hvisit _ hfirst)

end Histories

end OperateBench.Maintenance
