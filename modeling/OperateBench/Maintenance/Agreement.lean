import OperateBench.Foundation.Naming
import OperateBench.Maintenance.Proposals

/-! # Quotes and their approvals

An approval copies the quote it was opened for, holds the only checkpoint of that quote, and moves
together with it: an open approval has a received quote, and a closed one has a quote that was
closed the same way. `Agreement` says so for the two registries, and every accepted change keeps
it. A step of the operation refuses, with the record as it was, or commits. What every accepted
change keeps therefore holds along every run of calls, in whatever order they come.
-/

namespace OperateBench.Maintenance

open Foundation

section Identities

theorem quoteKey_inj {i j : String} {m n : Int} (h : quoteKey i m = quoteKey j n) :
    i = j ∧ m = n := marked_inj h

theorem mem_of_allocateFrom_mem {stem : String} {used : List String} {fuel index : ℕ}
    (h : allocateFrom stem used fuel index ∈ used) :
    ∀ k ≤ fuel, s!"{stem}_{index + k}" ∈ used := by
  induction fuel generalizing index with
  | zero =>
    intro k hk
    obtain rfl := Nat.le_zero.mp hk
    exact h
  | succ fuel ih =>
    rw [allocateFrom] at h
    split at h
    · rename_i hi
      intro k hk
      cases k with
      | zero => exact hi
      | succ k =>
        rw [show index + (k + 1) = index + 1 + k by omega]
        exact ih h k (Nat.le_of_succ_le_succ hk)
    · contradiction

/-- The allocated identity is new. -/
theorem allocate_notMem (stem : String) (used : List String) : allocate stem used ∉ used := by
  intro h
  have hinj : Function.Injective fun k => s!"{stem}_{used.dedup.length + 1 + k}" := by
    intro j k hjk
    have ht := natText_injective (String.append_right_inj _ |>.mp hjk)
    omega
  obtain ⟨k, hk, hn⟩ := exists_notMem_of_injective hinj used
  exact hn (mem_of_allocateFrom_mem h k hk)

variable (s : MaintenanceState)

theorem get?_allocateCheckpointId_approvals : s.approvals.get? (allocateCheckpointId s) = none := by
  by_contra h
  obtain ⟨a, ha⟩ := Option.ne_none_iff_exists'.mp h
  exact allocate_notMem "checkpoint" _ (List.mem_append_left _ (Dict.mem_keys_iff.mpr ⟨a, ha⟩))

theorem get?_allocateCheckpointId_exceptions :
    s.exceptions.get? (allocateCheckpointId s) = none := by
  by_contra h
  obtain ⟨a, ha⟩ := Option.ne_none_iff_exists'.mp h
  exact allocate_notMem "checkpoint" _ (List.mem_append_right _ (Dict.mem_keys_iff.mpr ⟨a, ha⟩))

end Identities

abbrev Quotes := Registry Quote.key

abbrev Approvals := Registry Approval.checkpointId

/-- The status of a quote whose approval has the status. -/
def ApprovalStatus.quoteStatus : ApprovalStatus → QuoteStatus
  | opened => .received
  | approved => .approved
  | rejected => .rejected
  | expired => .expired

/-- The approval copies the quote and stands where the quote does. -/
structure Approval.Binds (approval : Approval) (quote : Quote) : Prop where
  quoteId : approval.quoteId = quote.quoteId
  quoteVersion : approval.quoteVersion = quote.version
  cycleId : approval.cycleId = quote.cycleId
  amountMinor : approval.amountMinor = quote.amountMinor
  currency : approval.currency = quote.currency
  scopeDigest : approval.scopeDigest = quote.scopeDigest
  status : quote.status = approval.status.quoteStatus

/-- The decision came no later than the deadline of the checkpoint. -/
def Approval.Timely (approval : Approval) : Prop :=
  ∃ resolvedAt instant deadline, approval.resolvedAt = some resolvedAt ∧
    strptime resolvedAt = .ok instant ∧ strptime approval.deadlineAt = .ok deadline ∧
    instant ≤ deadline

structure Agreement (threshold : Int) (approvals : Approvals) (quotes : Quotes) : Prop where
  bound : ∀ a ∈ approvals.values, ∃ q,
    quotes.get? (quoteKey a.quoteId a.quoteVersion) = some q ∧ a.Binds q
  unique : ∀ a ∈ approvals.values, ∀ b ∈ approvals.values,
    quoteKey a.quoteId a.quoteVersion = quoteKey b.quoteId b.quoteVersion → a = b
  above : ∀ a ∈ approvals.values, threshold < a.amountMinor
  timely : ∀ a ∈ approvals.values, a.status = .approved → a.Timely
  decided : ∀ q ∈ quotes.values, q.status ≠ .received → ∃ a ∈ approvals.values, a.Binds q

namespace Agreement

variable {threshold : Int} {approvals : Approvals} {quotes : Quotes}

theorem empty : Agreement threshold .empty .empty := by
  constructor <;> exact fun _ h => absurd h List.not_mem_nil

theorem Binds.key {a : Approval} {q : Quote} (h : a.Binds q) :
    quoteKey a.quoteId a.quoteVersion = q.key := by
  rw [Quote.key, h.quoteId, h.quoteVersion]

/-- A quote that is new to the registry leaves every approval with its own. -/
theorem receive (h : Agreement threshold approvals quotes) {quote : Quote}
    (fresh : quotes.get? quote.key = none) (received : quote.status = .received) :
    Agreement threshold approvals (quotes.put quote) where
  bound a ha := by
    obtain ⟨q, hq, hb⟩ := h.bound a ha
    refine ⟨q, ?_, hb⟩
    rw [Registry.get?_put_of_ne _ (fun hk => ?_), hq]
    rw [hk, hq] at fresh
    cases fresh
  unique := h.unique
  above := h.above
  timely := h.timely
  decided q hq hs := by
    rcases Registry.mem_put hq with rfl | hq
    · exact absurd received hs
    · exact h.decided q hq hs

/-- A checkpoint opened for a received quote that no other holds. -/
theorem openFor (h : Agreement threshold approvals quotes) {approval : Approval} {quote : Quote}
    (fresh : approvals.get? approval.checkpointId = none)
    (onFile : quotes.get? quote.key = some quote) (binds : approval.Binds quote)
    (opened : approval.status = .opened) (above : threshold < approval.amountMinor)
    (unheld : ∀ a ∈ approvals.values, quoteKey a.quoteId a.quoteVersion ≠ quote.key) :
    Agreement threshold (approvals.put approval) quotes where
  bound a ha := by
    rcases Registry.mem_put ha with rfl | ha
    · exact ⟨quote, by rw [Binds.key binds, onFile], binds⟩
    · exact h.bound a ha
  unique a ha b hb hk := by
    rcases Registry.mem_put ha with rfl | hma <;> rcases Registry.mem_put hb with rfl | hmb
    · rfl
    · exact absurd (hk.symm.trans (Binds.key binds)) (unheld b hmb)
    · exact absurd (hk.trans (Binds.key binds)) (unheld a hma)
    · exact h.unique a hma b hmb hk
  above := Registry.forall_put h.above above
  timely := Registry.forall_put h.timely fun hs => absurd (opened.symm.trans hs) nofun
  decided q hq hs := by
    obtain ⟨a, ha, hb⟩ := h.decided q hq hs
    exact ⟨a, Registry.mem_put_of_fresh fresh ha, hb⟩

/-- A checkpoint and its quote move together, and no other pair moves. -/
theorem move (h : Agreement threshold approvals quotes) (approval' : Approval) (quote' : Quote)
    {approval : Approval} {quote : Quote} {quotes' : Quotes}
    (onFile : approvals.get? approval.checkpointId = some approval)
    (binds : approval.Binds quote) (sameId : approval'.checkpointId = approval.checkpointId)
    (sameAmount : approval'.amountMinor = approval.amountMinor) (sameKey : quote'.key = quote.key)
    (moved : ∀ k, quotes'.get? k = if quote.key = k then some quote' else quotes.get? k)
    (binds' : approval'.Binds quote') (timely : approval'.status = .approved → approval'.Timely) :
    Agreement threshold (approvals.put approval') quotes' := by
  have hmem := Registry.mem_values_iff.mpr onFile
  have hkey : quoteKey approval'.quoteId approval'.quoteVersion = quote.key :=
    (Binds.key binds').trans sameKey
  have hother : ∀ a ∈ approvals.values, a.checkpointId ≠ approval'.checkpointId →
      quoteKey a.quoteId a.quoteVersion ≠ quote.key := by
    intro a ha hn hk
    exact hn (sameId ▸ h.unique a ha approval hmem (hk.trans (Binds.key binds).symm) ▸ rfl)
  constructor
  · intro a ha
    rcases Registry.mem_put_iff.mp ha with rfl | ⟨hn, ha⟩
    · exact ⟨quote', by rw [moved, if_pos hkey.symm], binds'⟩
    · obtain ⟨q, hq, hb⟩ := h.bound a ha
      exact ⟨q, by rw [moved, if_neg (hother a ha hn).symm, hq], hb⟩
  · intro a ha b hb hk
    rcases Registry.mem_put_iff.mp ha with rfl | ⟨hna, hma⟩
    · rcases Registry.mem_put_iff.mp hb with rfl | ⟨hnb, hmb⟩
      · rfl
      · exact absurd (hk.symm.trans hkey) (hother b hmb hnb)
    · rcases Registry.mem_put_iff.mp hb with rfl | ⟨_, hmb⟩
      · exact absurd (hk.trans hkey) (hother a hma hna)
      · exact h.unique a hma b hmb hk
  · exact Registry.forall_put h.above (sameAmount ▸ h.above approval hmem)
  · exact Registry.forall_put h.timely timely
  · intro q hq hs
    rw [Registry.mem_values_iff, moved] at hq
    split at hq
    · obtain rfl := Option.some.inj hq
      exact ⟨approval', Registry.mem_values_iff.mpr (Registry.get?_put_self _ _), binds'⟩
    · rename_i hne
      obtain ⟨a, ha, hb⟩ := h.decided q (Registry.mem_values_iff.mpr hq) hs
      refine ⟨a, Registry.mem_put_iff.mpr (Or.inr ⟨fun hi => hne ?_, ha⟩), hb⟩
      have hid : a = approval := by
        rw [Registry.mem_values_iff, hi, sameId, onFile] at ha
        exact (Option.some.inj ha).symm
      rw [← Binds.key binds, ← Binds.key hb, hid]

end Agreement

section Commits

variable {op : MaintenanceOperation} {now : String} {s : MaintenanceState} {cause : Cause}
  {t : Transaction}

theorem settleQuote_of_quote {approval : Approval} {status : QuoteStatus} {quote : Quote}
    (h : s.quote approval.quoteId approval.quoteVersion = some quote) :
    MaintenanceOperation.settleQuote s approval status = s.quotes.put { quote with status } := by
  simp only [MaintenanceOperation.settleQuote, h]

/-- The records of the operation agree on which quote was approved. -/
abbrev MaintenanceState.Agrees (op : MaintenanceOperation) (s : MaintenanceState) : Prop :=
  Agreement op.policy.approvalThresholdMinor s.approvals s.quotes

/-- Closing the checkpoint closes the quote it was opened for. -/
theorem agreement_settle (status : ApprovalStatus) (h : s.Agrees op) {approval : Approval}
    {resolvedAt : String} (onFile : s.approvals.get? approval.checkpointId = some approval)
    (timely : status = .approved →
      { approval with status, resolvedAt := some resolvedAt : Approval }.Timely) :
    Agreement op.policy.approvalThresholdMinor
      (s.approvals.put { approval with status, resolvedAt := some resolvedAt })
      (MaintenanceOperation.settleQuote s approval status.quoteStatus) := by
  obtain ⟨quote, hq, hb⟩ := h.bound approval (Registry.mem_values_iff.mpr onFile)
  rw [settleQuote_of_quote hq]
  refine h.move { approval with status, resolvedAt := some resolvedAt }
    { quote with status := status.quoteStatus } onFile hb rfl rfl rfl
    (fun k => Registry.get?_put _ _ _) ?_ timely
  exact ⟨hb.quoteId, hb.quoteVersion, hb.cycleId, hb.amountMinor, hb.currency, hb.scopeDigest, rfl⟩

theorem Commit.agreement (h : s.Agrees op) (hc : Commit op now s cause t) : t.state.Agrees op := by
  cases hc with
  | quoteReceived fresh => exact h.receive fresh rfl
  | decided onFile _ decision moment due inTime =>
    rcases decision with ⟨rfl, rfl⟩ | ⟨rfl, rfl⟩
    · exact agreement_settle .approved h onFile fun _ =>
        ⟨_, _, _, rfl, moment, due, inTime⟩
    · exact agreement_settle .rejected h onFile nofun
  | expired onFile => exact agreement_settle .expired h onFile nofun
  | reminderFired onFile =>
    have hmem := Registry.mem_values_iff.mpr onFile
    have htimely := h.timely _ hmem
    obtain ⟨quote, hq, hb⟩ := h.bound _ hmem
    rw [Agreement.Binds.key hb] at hq
    refine h.move _ quote onFile hb rfl rfl rfl (fun k => ?_)
      ⟨hb.quoteId, hb.quoteVersion, hb.cycleId, hb.amountMinor, hb.currency, hb.scopeDigest,
        hb.status⟩ htimely
    split
    · rename_i hk
      exact hk ▸ hq
    · rfl
  | approvalRequested onFile received above unheld =>
    refine h.openFor (get?_allocateCheckpointId_approvals s) onFile
      ⟨rfl, rfl, rfl, rfl, rfl, rfl, received⟩ rfl above fun a ha hk => ?_
    obtain ⟨q, hq, hb⟩ := h.bound a ha
    rw [hk, onFile] at hq
    obtain rfl := Option.some.inj hq
    exact unheld a ha hb.quoteId hb.quoteVersion hb.cycleId
  | _ => exact h

end Commits

end OperateBench.Maintenance

namespace OperateBench.Maintenance

open Foundation

variable {op : MaintenanceOperation} {s s' : MaintenanceState} {call : Call}
  {P : MaintenanceState → Call → Prop}

namespace MaintenanceOperation

theorem step_cases (h : op.Step s call s') :
    s' = s ∨ ∃ effects, Commit op call.context.now s call.cause ⟨s', effects⟩ := by
  obtain ⟨r, hr, rfl⟩ := h
  rcases respond_answered hr with ⟨code, detail, rfl⟩ | ⟨_, hc⟩
  · exact Or.inl rfl
  · exact Or.inr ⟨r.effects, hc⟩

/-- An invariant of every accepted change holds along the run. -/
theorem run_invariant {I : MaintenanceState → Prop} (h : Run op.Step P s s') (h₀ : I s)
    (hI : ∀ s call t, I s → P s call → Commit op call.context.now s call.cause t → I t.state) :
    I s' := by
  refine Run.invariant h h₀ fun s call t hs hp hst => ?_
  rcases step_cases hst with rfl | ⟨effects, hc⟩
  · exact hs
  · exact hI s call _ hs hp hc

theorem run_agrees (h : Run op.Step P op.initialState s) : s.Agrees op :=
  run_invariant h .empty fun _ _ _ hs _ hc => hc.agreement hs

/-- The calls one after the other. -/
def respondAll (op : MaintenanceOperation) (calls : List Call) (state : MaintenanceState) :
    Except PyError MaintenanceState :=
  calls.foldlM (fun state call => (op.respond call state).map Reduction.state) state

theorem run_of_respondAll {calls : List Call} (hP : ∀ call ∈ calls, ∀ s, P s call)
    (h : op.respondAll calls s = .ok s') : Run op.Step P s s' := by
  refine Run.of_foldlM (fun s call t hst => ?_) hP h
  cases hr : op.respond call s with
  | error e => simp [hr, Except.map] at hst
  | ok r => exact ⟨r, hr, by simpa [hr, Except.map] using hst⟩

end MaintenanceOperation

end OperateBench.Maintenance
