import OperateBench.Cubes.Causal

/-! # The six solvers

What each solver comes to on a compiled variant, and how its trajectory is graded. Where the
reading of the record is the one that the compiler made, the verdicts are those that the defect
of the solver explains.
-/

namespace OperateBench.Cubes

open Foundation

section Solvers

variable {card : ConstructCard} {cube : Cube} {variant : Variant} {matched : Rule}
  {attempted : List Rule} {env : Environment} {resolved : Resolution}

/-- The trajectory of a case that was decided. -/
def Finished (variant : Variant) (trajectory : Trajectory) : Prop :=
  ∃ env decision, Running variant env ∧ trajectory = (Environment.closed env decision).trajectory

/-- What the compiler made of a variant: its decision, its reason and the facts it needs. -/
def made (matched : Rule) (attempted : List Rule) : Resolution :=
  ⟨matched.decision, matched.primaryReason, (attempted.flatMap Rule.referencedFacts).toFinset⟩

theorem evidence_cites {decision : TerminalDecision}
    (h : checkEvidence variant (env.closed decision).trajectory = none) {ref : String}
    (href : ref ∈ variant.requiredEvidenceIds) : ref ∈ decision.evidenceRefs := by
  rw [checkEvidence,
    show (env.closed decision).trajectory.terminalDecision = some decision from rfl] at h
  dsimp only at h
  by_contra hcited
  have hmissing : variant.requiredEvidenceIds.filter (· ∉ decision.evidenceRefs) ≠ [] :=
    List.ne_nil_of_mem (List.mem_filter.mpr ⟨href, decide_eq_true hcited⟩)
  repeat' split at h
  all_goals cases h

/-- Walking over assumed facts asks for nothing. -/
theorem walkRules_assumed {facts : FactValues} {walk : Walk} {rules : List Rule} {rule : Rule}
    {keys : List String} (hfound : firstMatch facts rules = .ok (some (rule, keys))) :
    walkRules (some facts) walk rules = .ok (rule, walk) := by
  induction rules generalizing keys with
  | nil => cases hfound
  | cons first rules ih =>
    rw [firstMatch] at hfound
    rw [walkRules]
    simp only [Option.isSome_some, if_true, ok_bind, Option.getD_some]
    cases hholds : first.holds facts with
    | error e => rw [hholds] at hfound; cases hfound
    | ok b =>
      rw [hholds] at hfound
      cases b with
      | true =>
        obtain ⟨rfl, -⟩ := Prod.ext_iff.mp (Option.some.inj (Except.ok.inj hfound))
        rfl
      | false =>
        obtain ⟨found, hrest, hsome⟩ := map_ok hfound
        obtain ⟨⟨other, rest⟩, rfl, heq⟩ := Option.map_eq_some_iff.mp hsome
        obtain ⟨rfl, -⟩ := Prod.ext_iff.mp heq
        exact ih hrest

namespace Compiles

variable (h : Compiles card variant matched attempted)

include h

theorem variantId_ne : variant.variantId ≠ "" := by
  obtain ⟨suffix, direction, heq⟩ := h.built
  rw [heq]
  exact ne_of_apply_ne String.toList fun hempty => by
    have hmem : ':' ∈ (buildVariant card variant.kind suffix variant.state variant.policy matched
        attempted direction variant.pressureCues).variantId.toList := by
      simp [buildVariant, String.toList_append, toString]
    rw [hempty] at hmem
    exact absurd hmem (List.not_mem_nil)

/-- A solver that applies the rules of a policy to the record and finishes. -/
theorem applied (hall : ∀ id, id ∈ card.criticalInvariants) (hsurveyed : Surveyed variant env)
    (hnone : env.mutations = []) {policy : PolicyKey}
    (hreading : reading card variant policy = some resolved) :
    ∃ rule walk, apply env (card.policyAxis policy).rules none = .ok (rule, walk) ∧
      rule.decision = resolved.decision ∧ rule.primaryReason = resolved.primaryReason ∧
      ∀ disposition, ∃ trajectory,
        finish walk.env disposition rule.primaryReason walk.cited = .ok trajectory ∧
        Finished variant trajectory ∧ Verdicts variant trajectory (made matched attempted)
          ⟨disposition, resolved.primaryReason, resolved.keys⟩ := by
  obtain ⟨rule, walk, keys, happly, rfl, hwalk, hkeys, hmutations, -⟩ :=
    h.apply_reading hsurveyed hreading
  refine ⟨rule, walk, happly, rfl, rfl, fun disposition => ?_⟩
  obtain ⟨env', hfinish, hrunning, hverdicts⟩ := h.finish_verdicts hall hwalk hkeys
    (hmutations.trans hnone) disposition rule.primaryReason
  exact ⟨_, hfinish, ⟨env', _, hrunning, rfl⟩, hverdicts⟩

theorem solveReference_ok (cube : Cube) (hall : ∀ id, id ∈ card.criticalInvariants)
    (hreading : reading card variant variant.policy = some resolved) :
    ∃ trajectory, solveReference variant cube = .ok trajectory ∧ Finished variant trajectory ∧
      Verdicts variant trajectory (made matched attempted) resolved := by
  obtain ⟨env, hopened, hsurveyed, hnone, -⟩ := h.opened_ok
  obtain ⟨rule, walk, happly, hdecision, -, hfinish⟩ := h.applied hall hsurveyed hnone hreading
  obtain ⟨trajectory, hdone, hfinished, hverdicts⟩ := hfinish rule.decision
  refine ⟨trajectory, ?_, hfinished, by simpa only [hdecision] using hverdicts⟩
  rw [solveReference, hopened, ok_bind, h.presentedRules_eq hsurveyed, ok_bind, happly, ok_bind]
  exact hdone

theorem reading_of_solveReference (cube : Cube) {trajectory : Trajectory}
    (hsolve : solveReference variant cube = .ok trajectory) :
    ∃ resolved, reading card variant variant.policy = some resolved := by
  obtain ⟨env, hopened, hsurveyed, -, -⟩ := h.opened_ok
  rw [solveReference, hopened, ok_bind, h.presentedRules_eq hsurveyed, ok_bind] at hsolve
  obtain ⟨result, happly, -⟩ := bind_ok hsolve
  exact h.reading_of_apply hsurveyed happly

theorem solvePolicyIgnorant_ok (hcard : cube.card = card)
    (hall : ∀ id, id ∈ card.criticalInvariants)
    (hreading : reading card variant habitualPolicy = some resolved) :
    ∃ trajectory, solvePolicyIgnorant variant cube = .ok trajectory ∧
      Finished variant trajectory ∧
      Verdicts variant trajectory (made matched attempted) resolved := by
  obtain ⟨env, hopened, hsurveyed, hnone, -⟩ := h.opened_ok
  obtain ⟨rule, walk, happly, hdecision, -, hfinish⟩ := h.applied hall hsurveyed hnone hreading
  obtain ⟨trajectory, hdone, hfinished, hverdicts⟩ := hfinish rule.decision
  refine ⟨trajectory, ?_, hfinished, by simpa only [hdecision] using hverdicts⟩
  rw [solvePolicyIgnorant, hopened, ok_bind, hcard, happly, ok_bind]
  exact hdone

theorem reading_of_solvePolicyIgnorant (hcard : cube.card = card) {trajectory : Trajectory}
    (hsolve : solvePolicyIgnorant variant cube = .ok trajectory) :
    ∃ resolved, reading card variant habitualPolicy = some resolved := by
  obtain ⟨env, hopened, hsurveyed, -, -⟩ := h.opened_ok
  rw [solvePolicyIgnorant, hopened, ok_bind, hcard] at hsolve
  obtain ⟨result, happly, -⟩ := bind_ok hsolve
  exact h.reading_of_apply hsurveyed happly

theorem solvePressureTriggered_ok (cube : Cube) (hall : ∀ id, id ∈ card.criticalInvariants)
    (hreading : reading card variant variant.policy = some resolved) :
    ∃ trajectory, solvePressureTriggered variant cube = .ok trajectory ∧
      Finished variant trajectory ∧ Verdicts variant trajectory (made matched attempted)
        { resolved with decision := flipped variant.pressureDirection resolved.decision } := by
  obtain ⟨env, hopened, hsurveyed, hnone, -⟩ := h.opened_ok
  obtain ⟨rule, walk, happly, hdecision, -, hfinish⟩ := h.applied hall hsurveyed hnone hreading
  obtain ⟨trajectory, hdone, hfinished, hverdicts⟩ :=
    hfinish (flipped variant.pressureDirection rule.decision)
  refine ⟨trajectory, ?_, hfinished, by simpa only [hdecision] using hverdicts⟩
  rw [solvePressureTriggered, hopened, ok_bind, h.presentedRules_eq hsurveyed, ok_bind, happly,
    ok_bind]
  exact hdone

/-- The state is never looked at, and nothing but the policy is cited. -/
theorem solveStateIgnorant_ok (hcard : cube.card = card)
    (hall : ∀ id, id ∈ card.criticalInvariants)
    (htruth : truth card assumedState variant.policy = some resolved) :
    ∃ trajectory, solveStateIgnorant variant cube = .ok trajectory ∧ Finished variant trajectory ∧
      Verdicts variant trajectory (made matched attempted) { resolved with keys := ∅ } := by
  obtain ⟨env, hopened, hsurveyed, hnone, -⟩ := h.opened_ok
  have hhandle : policyHandle env = .ok (policyOf card variant).observationId := by
    rw [policyHandle, h.policyObservation_eq hsurveyed]
    rfl
  have hstart : Investigates card variant
      ⟨[], [(policyOf card variant).observationId], env⟩ :=
    ⟨hsurveyed, by simp, by simp, List.nodup_singleton _,
      fun id => by simp⟩
  unfold truth at htruth
  split at htruth
  case h_2 => cases htruth
  case h_1 rule keys hfound =>
    obtain rfl := Option.some.inj htruth
    obtain ⟨env', hfinish, hrunning, hverdicts⟩ := h.finish_verdicts hall hstart
      (fun _ => (Iff.rfl : _ ↔ _ ∈ [])) hnone rule.decision rule.primaryReason
    refine ⟨_, ?_, ⟨env', _, hrunning, rfl⟩, hverdicts⟩
    rw [solveStateIgnorant, hopened, ok_bind, h.presentedRules_eq hsurveyed, ok_bind, apply,
      hhandle, ok_bind, hcard, walkRules_assumed hfound]
    exact hfinish

/-- Acting first shows in the mutations where nothing was to be done, and in the invariants
where something was still to be asked for. -/
theorem solvePrematureAction_ok (cube : Cube) (hall : ∀ id, id ∈ card.criticalInvariants)
    (hreading : reading card variant variant.policy = some (made matched attempted)) :
    ∃ trajectory, solvePrematureAction variant cube = .ok trajectory ∧
      Finished variant trajectory ∧ checkDisposition variant trajectory = none ∧
      checkPrimaryReason variant trajectory = none ∧ checkEvidence variant trajectory = none ∧
      checkOrdering variant trajectory = none ∧
      (checkMutations variant trajectory = none ↔ matched.decision = .act) ∧
      (checkInvariants variant trajectory = none ↔ matched.decision = .act ∧
        ∀ o ∈ variant.observations, o.observationId ∈ variant.requiredEvidenceIds →
          o.availability ≠ .onRequest) := by
  have hwf := h.wellFormed
  obtain ⟨env, hopened, hsurveyed, hnone, hobserved⟩ := h.opened_ok
  obtain ⟨env', hperform, hperformed⟩ := hsurveyed.running.performAll hwf
  have hsurveyed' : Surveyed variant env' := ⟨hperformed.running.genuine, hperformed.running.isOpen,
    fun o ho => hperformed.observed ▸ hsurveyed.initial o ho⟩
  obtain ⟨rule, walk, keys, happly, heq, hwalk, hkeys, hmutations, hsteps⟩ :=
    h.apply_reading hsurveyed' hreading
  obtain ⟨hdecision, hreason, hcites⟩ := Resolution.mk.inj heq
  obtain ⟨history, hhistory, hnames, hlater, hfirst⟩ := hperformed.mutations
  rw [hnone, List.nil_append] at hhistory
  have hdone : walk.env.mutations = history := hmutations.trans hhistory
  have hrunning := hwalk.surveyed.running
  have hcited := (h.cited_iff hwalk hkeys).mpr hcites.symm
  have hseen : ∀ ref ∈ walk.cited, ref ∈ walk.env.observed :=
    fun ref href => (h.cited_seen hwalk href).2
  have hknown : ∀ ref ∈ walk.cited, ref ∈ variant.observations.map Observation.observationId :=
    fun ref href => (h.cited_seen hwalk href).1
  let decision : TerminalDecision :=
    ⟨rule.decision.text, rule.primaryReason, [], walk.cited⟩
  refine ⟨(walk.env.closed decision).trajectory, ?_, ⟨walk.env, decision, hrunning, rfl⟩,
    ?_, ?_, ?_, ?_, ?_, ?_⟩
  · rw [solvePrematureAction, hopened, ok_bind, hperform, ok_bind, h.presentedRules_eq hsurveyed',
      ok_bind, happly, ok_bind]
    exact hrunning.complete hwf _ _ _
  · rw [closed_disposition, h.expectedDisposition_eq]
    exact congrArg Disposition.text hdecision.symm
  · rw [closed_primaryReason, h.expectedPrimaryReason_eq]
    exact hreason.symm
  · exact (closed_evidence hwalk.distinct hknown hseen).mpr hcited
  · exact (closed_ordering hrunning hwf).mpr fun ref href => hseen ref ((hcited ref).mpr href)
  · rw [closed_mutations, hdone, hnames, h.expectedMutations_eq, h.irreversibleActions_eq]
    have hgiven := card.irreversibleGiven
    cases matched.decision <;> simp [hgiven]
  · rw [closed_invariants fun id => h.criticalInvariants_eq ▸ hall id, hdone]
    have hgiven : history ≠ [] := by
      rintro rfl
      exact card.irreversibleGiven (h.irreversibleActions_eq ▸ hnames.symm)
    constructor
    · rintro ⟨hbefore, hstop, -⟩
      constructor
      · cases hact : matched.decision with
        | act => rfl
        | stop => exact absurd (hstop (congrArg Disposition.text (hdecision.symm.trans hact))) hgiven
      · intro o ho href hrequest
        obtain ⟨e, he, hindex⟩ := hfirst (h.irreversibleActions_eq ▸ card.irreversibleGiven)
        have hearly := hbefore e he o.observationId href
        rw [hindex, hrunning.observedBefore_eq hwf hsurveyed.running
          (hperformed.steps.trans hsteps), hobserved, mem_addNew] at hearly
        rcases hearly with hearly | hearly
        · cases hearly
        · obtain ⟨o', ho', heq'⟩ := List.mem_map.mp hearly
          obtain ⟨hmem, hinitial⟩ := List.mem_filter.mp ho'
          obtain rfl := List.inj_on_of_nodup_map hwf.handles hmem ho heq'
          rw [of_decide_eq_true hinitial] at hrequest
          cases hrequest
    · rintro ⟨hact, hinitial⟩
      refine ⟨fun e he ref href => ?_, fun hstop => ?_, hknown⟩
      · obtain ⟨o, ho, rfl⟩ := List.mem_map.mp (hknown ref ((hcited ref).mpr href))
        have hnot := hinitial o ho href
        refine hrunning.observedBefore hwf hsurveyed.running (hperformed.steps.trans hsteps)
          (hlater e he) (hsurveyed.seen ho ?_)
        revert hnot
        cases o.availability <;> simp
      · rw [text_inj.mp hstop] at hdecision
        exact nomatch hact.symm.trans hdecision

/-- The right decision on the wrong observations. -/
theorem solveWrongEvidence_ok (cube : Cube)
    (hreading : reading card variant variant.policy = some (made matched attempted)) :
    ∃ trajectory, solveWrongEvidence variant cube = .ok trajectory ∧
      Finished variant trajectory ∧ checkDisposition variant trajectory = none ∧
      checkPrimaryReason variant trajectory = none ∧
      checkEvidence variant trajectory ≠ none := by
  have hwf := h.wellFormed
  obtain ⟨env, hopened, hsurveyed, -, -⟩ := h.opened_ok
  obtain ⟨rule, walk, keys, happly, heq, hwalk, -, -, -⟩ := h.apply_reading hsurveyed hreading
  obtain ⟨hdecision, hreason, -⟩ := Resolution.mk.inj heq
  let refs := (walk.env.observations.filter fun o => !o.evidenceRelevant).map
    Observation.observationId
  obtain ⟨env', hfinish, hperformed⟩ :=
    hwalk.surveyed.running.finish hwf rule.decision rule.primaryReason refs
  let decision : TerminalDecision := ⟨rule.decision.text, rule.primaryReason, [], refs⟩
  refine ⟨(env'.closed decision).trajectory, ?_, ⟨env', decision, hperformed.running, rfl⟩,
    ?_, ?_, ?_⟩
  · rw [solveWrongEvidence, hopened, ok_bind, h.presentedRules_eq hsurveyed, ok_bind, happly,
      ok_bind]
    exact hfinish
  · rw [closed_disposition, h.expectedDisposition_eq]
    exact congrArg Disposition.text hdecision.symm
  · rw [closed_primaryReason, h.expectedPrimaryReason_eq]
    exact hreason.symm
  · intro hevidence
    have hcited := evidence_cites hevidence (h.mem_required.mpr (Or.inl rfl))
    obtain ⟨o, ho, heq⟩ := List.mem_map.mp hcited
    obtain ⟨hmem, hdecoy⟩ := List.mem_filter.mp ho
    have hmem := List.mem_of_mem_filter hmem
    rw [hwalk.surveyed.genuine.variant_eq] at hmem
    obtain rfl := List.inj_on_of_nodup_map hwf.handles hmem h.policy_mem heq
    cases hdecoy

end Compiles

end Solvers

end OperateBench.Cubes
