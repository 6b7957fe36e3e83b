import OperateBench.ReturnRefund.Fixture
import OperateBench.ReturnRefund.Phases

/-! # What the phase says

The phase read as statements about the registries, each of them an equivalence, and the
order in which an authorisation and a checkpoint move through their statuses.
-/

namespace OperateBench.ReturnRefund

open Foundation

variable {op : ReturnRefundOperation} {s s' : ReturnRefundState} {now : String} {cause : Cause}
  {t : Transaction}

section Equivalences

namespace Table

variable {phase : Phase} {A : List AuthorisationStatus} {I : List Bool}
  {C : List CheckpointStatus} {k p : Bool} {R : Option RefundStatus}

theorem awaitingHandover_iff (h : Table phase A I C k R p) :
    phase = .awaitingHandover ↔ .issued ∈ A := by
  cases h with
  | returnExpired h => rcases h with rfl | rfl <;> simp
  | ineligible h => rcases h with rfl | rfl <;> simp
  | declined h _ => rcases h with rfl | rfl <;> simp
  | _ => simp

theorem returnExpired_iff (h : Table phase A I C k R p) :
    phase = .returnExpired ∨ phase = .finalReturnExpired ↔ .expired ∈ A := by
  cases h with
  | returnExpired h => rcases h with rfl | rfl <;> simp
  | ineligible h => rcases h with rfl | rfl <;> simp
  | declined h _ => rcases h with rfl | rfl <;> simp
  | _ => simp

theorem awaitingInspection_iff (h : Table phase A I C k R p) :
    phase = .awaitingInspection ↔ .verified ∈ A ∧ I = [] := by
  cases h with
  | returnExpired h => rcases h with rfl | rfl <;> simp
  | ineligible h => rcases h with rfl | rfl <;> simp
  | declined h _ => rcases h with rfl | rfl <;> simp
  | _ => simp

theorem awaitingApproval_iff (h : Table phase A I C k R p) :
    phase = .awaitingApproval ↔ true ∈ I ∧ ∀ status ∈ C, status = .opened := by
  cases h with
  | returnExpired h => rcases h with rfl | rfl <;> simp
  | ineligible h => rcases h with rfl | rfl <;> simp
  | declined h hs => rcases h with rfl | rfl <;> rcases hs with rfl | rfl <;> simp
  | _ => simp

theorem readyToRefund_iff (h : Table phase A I C k R p) :
    phase = .readyToRefund ↔ .approved ∈ C ∧ k = false := by
  cases h with
  | returnExpired h => rcases h with rfl | rfl <;> simp
  | ineligible h => rcases h with rfl | rfl <;> simp
  | declined h hs => rcases h with rfl | rfl <;> rcases hs with rfl | rfl <;> simp
  | _ => simp

theorem refundDenied_iff (h : Table phase A I C k R p) :
    phase = .refundDenied ∨ phase = .finalRefundDenied ↔
      false ∈ I ∨ .rejected ∈ C ∨ .expired ∈ C := by
  cases h with
  | returnExpired h => rcases h with rfl | rfl <;> simp
  | ineligible h => rcases h with rfl | rfl <;> simp
  | declined h hs => rcases h with rfl | rfl <;> rcases hs with rfl | rfl <;> simp
  | _ => simp

theorem refundPending_iff (h : Table phase A I C k R p) :
    phase = .refundPending ↔ R = some .requested := by
  cases h with
  | returnExpired h => rcases h with rfl | rfl <;> simp
  | ineligible h => rcases h with rfl | rfl <;> simp
  | declined h _ => rcases h with rfl | rfl <;> simp
  | reopened h => rcases h with rfl | rfl <;> simp
  | _ => simp

theorem refundSettled_iff (h : Table phase A I C k R p) :
    phase = .refundSettled ∨ phase = .provisional ∨ phase = .finalSuccess ↔
      R = some .settled := by
  cases h with
  | returnExpired h => rcases h with rfl | rfl <;> simp
  | ineligible h => rcases h with rfl | rfl <;> simp
  | declined h _ => rcases h with rfl | rfl <;> simp
  | reopened h => rcases h with rfl | rfl <;> simp
  | _ => simp

theorem provisional_iff (h : Table phase A I C k R p) : p = true ↔ phase = .provisional := by
  cases h with
  | returnExpired h => rcases h with rfl | rfl <;> simp
  | ineligible h => rcases h with rfl | rfl <;> simp
  | declined h _ => rcases h with rfl | rfl <;> simp
  | _ => simp

theorem single (h : Table phase A I C k R p) : A.length ≤ 1 ∧ I.length ≤ 1 ∧ C.length ≤ 1 := by
  cases h <;> simp

end Table

/-- The phase is exactly what the registries say. -/
structure PhaseTable (s : ReturnRefundState) : Prop where
  authorisation : s.authorisations.values.length ≤ 1
  inspection : s.inspections.values.length ≤ 1
  checkpoint : s.checkpoints.values.length ≤ 1
  reviewed : ∀ c ∈ s.checkpoints.values, ∀ i ∈ s.inspections.values,
    c.inspectionId = i.inspectionId
  awaitingHandover : s.phase = .awaitingHandover ↔
    ∃ a ∈ s.authorisations.values, a.status = .issued
  returnExpired : s.phase = .returnExpired ∨ s.phase = .finalReturnExpired ↔
    ∃ a ∈ s.authorisations.values, a.status = .expired
  awaitingInspection : s.phase = .awaitingInspection ↔
    (∃ a ∈ s.authorisations.values, a.status = .verified) ∧ s.inspections.values = []
  awaitingApproval : s.phase = .awaitingApproval ↔
    (∃ i ∈ s.inspections.values, i.disposition = eligibleDisposition) ∧
      ∀ c ∈ s.checkpoints.values, c.status = .opened
  readyToRefund : s.phase = .readyToRefund ↔
    (∃ c ∈ s.checkpoints.values, c.status = .approved) ∧ s.refunds.values = []
  refundDenied : s.phase = .refundDenied ∨ s.phase = .finalRefundDenied ↔
    (∃ i ∈ s.inspections.values, i.disposition ≠ eligibleDisposition) ∨
      ∃ c ∈ s.checkpoints.values, c.status = .rejected ∨ c.status = .expired
  refundPending : s.phase = .refundPending ↔
    ∃ refund, s.currentRefund = some refund ∧ refund.status = .requested
  refundSettled : s.phase = .refundSettled ∨ s.phase = .provisional ∨ s.phase = .finalSuccess ↔
    ∃ refund, s.currentRefund = some refund ∧ refund.status = .settled
  provisional : s.provisional.isSome = true ↔ s.phase = .provisional

theorem Coherent.phaseTable (h : Coherent op s) : PhaseTable s := by
  have ht := h.table
  obtain ⟨hA, hI, hC⟩ := ht.single
  simp only [List.length_map] at hA hI hC
  refine ⟨hA, hI, hC, h.reviewed, ?_, ?_, ?_, ?_, ?_, ?_, ?_, ?_, ht.provisional_iff⟩
  · rw [ht.awaitingHandover_iff, List.mem_map]
  · rw [ht.returnExpired_iff, List.mem_map]
  · rw [ht.awaitingInspection_iff, List.mem_map, List.map_eq_nil_iff]
  · rw [ht.awaitingApproval_iff, List.mem_map, List.forall_mem_map]
    simp only [Inspection.eligible, decide_eq_true_eq]
  · rw [ht.readyToRefund_iff, List.mem_map]
    simp
  · rw [ht.refundDenied_iff, List.mem_map, List.mem_map, List.mem_map]
    simp only [Inspection.eligible, decide_eq_false_iff_not, and_or_left, exists_or]
  · rw [ht.refundPending_iff, Option.map_eq_some_iff]
  · rw [ht.refundSettled_iff, Option.map_eq_some_iff]

end Equivalences

section Statuses

/-- An authorisation that was used or has expired stays so. -/
def Authorisation.Later (a b : Authorisation) : Prop := b.status = a.status ∨ a.status = .issued

/-- A checkpoint that was decided or has expired stays so. -/
def Checkpoint.Later (c d : Checkpoint) : Prop := d.status = c.status ∨ c.status = .opened

theorem Authorisation.Later.refl (a : Authorisation) : a.Later a := Or.inl rfl

theorem Checkpoint.Later.refl (c : Checkpoint) : c.Later c := Or.inl rfl

theorem Authorisation.Later.trans (a b c : Authorisation) (h₁ : a.Later b) (h₂ : b.Later c) :
    a.Later c := by
  rcases h₁ with h₁ | h₁
  · rcases h₂ with h₂ | h₂
    · exact Or.inl (h₂.trans h₁)
    · exact Or.inr (h₁ ▸ h₂)
  · exact Or.inr h₁

theorem Checkpoint.Later.trans (a b c : Checkpoint) (h₁ : a.Later b) (h₂ : b.Later c) :
    a.Later c := by
  rcases h₁ with h₁ | h₁
  · rcases h₂ with h₂ | h₂
    · exact Or.inl (h₂.trans h₁)
    · exact Or.inr (h₁ ▸ h₂)
  · exact Or.inr h₁

/-- No status goes back, and no record is lost. -/
structure Advances (s s' : ReturnRefundState) : Prop where
  authorisations : s.authorisations.Grows Authorisation.Later s'.authorisations
  checkpoints : s.checkpoints.Grows Checkpoint.Later s'.checkpoints

theorem Advances.refl (s : ReturnRefundState) : Advances s s :=
  ⟨.refl Authorisation.Later.refl _, .refl Checkpoint.Later.refl _⟩

theorem Advances.trans (s s' s'' : ReturnRefundState) (h₁ : Advances s s')
    (h₂ : Advances s' s'') : Advances s s'' :=
  ⟨.trans Authorisation.Later.trans h₁.authorisations h₂.authorisations,
    .trans Checkpoint.Later.trans h₁.checkpoints h₂.checkpoints⟩

theorem Commit.advances (hc : Commit op now s cause t) : Advances s t.state := by
  have ha := Registry.Grows.refl Authorisation.Later.refl s.authorisations
  have hk := Registry.Grows.refl Checkpoint.Later.refl s.checkpoints
  cases hc with
  | handoverVerified _ onFile issued =>
    exact ⟨Registry.grows_put_of Authorisation.Later.refl onFile rfl (Or.inr issued), hk⟩
  | decided _ onFile opened =>
    exact ⟨ha, Registry.grows_put_of Checkpoint.Later.refl onFile rfl (Or.inr opened)⟩
  | reminderFired _ _ onFile =>
    exact ⟨Registry.grows_put_of Authorisation.Later.refl onFile rfl (Or.inl rfl), hk⟩
  | returnExpired _ _ onFile issued =>
    exact ⟨Registry.grows_put_of Authorisation.Later.refl onFile rfl (Or.inr issued), hk⟩
  | approvalExpired _ _ onFile opened =>
    exact ⟨ha, Registry.grows_put_of Checkpoint.Later.refl onFile rfl (Or.inr opened)⟩
  | authorised =>
    exact ⟨Registry.grows_put_fresh Authorisation.Later.refl (get?_allocate _ _), hk⟩
  | reviewRequested =>
    exact ⟨ha, Registry.grows_put_fresh Checkpoint.Later.refl (get?_allocate _ _)⟩
  | _ => exact ⟨ha, hk⟩

theorem run_advances (h : Reaches op.Step s s') : Advances s s' := by
  refine Run.related (I := fun _ => True) h trivial (fun _ _ _ _ _ _ => trivial) Advances.refl
    Advances.trans fun s call s' _ _ hs => ?_
  rcases ReturnRefundOperation.step_cases hs with rfl | ⟨effects, hc⟩
  · exact Advances.refl _
  · exact hc.advances

end Statuses

section Runs

theorem run_coherent (h : Reaches op.Step op.initialState s) : Coherent op s :=
  ReturnRefundOperation.run_invariant h .initial fun _ _ _ hs _ hc => hc.coherent hs

/-- In every reachable record the phase is what the registries say, no status ever goes back,
and a refused call changes nothing. -/
theorem phase_summarises (h : Reaches op.Step op.initialState s) :
    PhaseTable s ∧ (∀ s', Reaches op.Step s s' → Advances s s') ∧
      ∀ call r, op.respond call s = .ok r → r.verdict.accepted = false → r.state = s :=
  ⟨(run_coherent h).phaseTable, fun _ => run_advances,
    fun _ _ => ReturnRefundOperation.refused_unchanged⟩

/-- A refund that is settled and in its cooldown. -/
theorem provisional_summarises : ∃ s,
    Reaches Fixture.plain.Step Fixture.plain.initialState s ∧ s.phase = .provisional ∧
      PhaseTable s := by
  obtain ⟨s, hs, hc⟩ := ok_of_any (x := Fixture.respondAll Fixture.plain
    (Fixture.ready ++ Fixture.refunded "refund_request_1" firstRefundCycle)
      Fixture.plain.initialState) (p := fun s => s.phase = .provisional) (by decide +kernel)
  have hr := Fixture.run_of_respondAll (P := fun _ _ => True) (fun _ _ _ => trivial) hs
  exact ⟨s, hr, of_decide_eq_true hc, (phase_summarises hr).1⟩

end Runs

end OperateBench.ReturnRefund
