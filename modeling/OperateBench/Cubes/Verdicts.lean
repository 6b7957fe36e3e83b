import OperateBench.Cubes.Acceptance
import OperateBench.Cubes.Solvers

/-! # Verdicts on finished cases

An environment that is still open performs its irreversible actions and decides its case. What
each predicate of the evaluator says of the trajectory is read off the decision, the handles
that were seen and the mutations.
-/

namespace OperateBench.Cubes

open Foundation

section Steps

variable {variant : Variant} {env env' : Environment} {step : Step} {steps front rest : List Step}

theorem mem_orderedReveals {id : String} :
    id ∈ orderedReveals steps ↔ ∃ step ∈ steps, id ∈ step.revealedObservationIds := by
  have hfold : ∀ revealed, id ∈ steps.foldl
      (fun revealed step => Environment.addNew revealed step.revealedObservationIds) revealed ↔
      id ∈ revealed ∨ ∃ step ∈ steps, id ∈ step.revealedObservationIds := by
    induction steps with
    | nil => simp
    | cons step steps ih =>
      intro revealed
      rw [List.foldl_cons, ih, mem_addNew, or_assoc]
      simp
  rw [orderedReveals, hfold]
  simp

/-- An open case has no decision among its steps. -/
theorem Genuine.terminals_eq_nil (h : Genuine variant env) (hopen : env.terminated = false) :
    terminals env.steps = [] := by
  induction h with
  | start => rfl
  | @step env env' step henv hbefore htakes ih =>
    rw [Environment.terminated, htakes.steps_eq, List.getLast?_concat] at hopen
    rw [htakes.steps_eq, terminals, List.filter_append, ← terminals, ih hbefore, List.nil_append,
      List.filter_eq_nil_iff]
    intro other hother
    rw [List.mem_singleton.mp hother]
    exact Bool.eq_false_iff.mp hopen

/-- Every step names its action and is counted from one on. -/
theorem Genuine.step_named (h : Genuine variant env) (hwf : variant.WellFormed)
    (hstep : step ∈ env.steps) : step.action ≠ "" ∧ 1 ≤ step.index := by
  induction h with
  | start => cases hstep
  | @step env env' filed henv _ htakes ih =>
    rw [htakes.steps_eq] at hstep
    rcases List.mem_append.mp hstep with hstep | hstep
    · exact ih hstep
    · obtain rfl := List.mem_singleton.mp hstep
      refine ⟨?_, by rw [htakes.index_eq]; omega⟩
      cases htakes with
      | read hstep => exact hstep ▸ by simp [readAction]
      | @ask entry _ _ _ hstep =>
        rw [hstep]
        cases entry.action <;> simp [Channel.action]
      | @act action haction hstep =>
        rw [hstep]
        exact hwf.irreversibleNamed action (henv.variant_eq ▸ haction)
      | complete hstep => exact hstep ▸ by simp [terminalAction]

/-- The steps of a prefix are counted up to its length. -/
theorem front_index (hsteps : steps = front ++ rest)
    (hindices : steps.map Step.index = (List.range steps.length).map fun i : ℕ => (i : ℤ) + 1)
    (hstep : step ∈ front) : step.index < (front.length : ℤ) + 1 := by
  obtain ⟨i, hi, rfl⟩ := List.mem_iff_getElem.mp hstep
  have hlt : i < steps.length := by
    rw [hsteps, List.length_append]
    omega
  have hget : (steps.map Step.index)[i]? = some ((i : ℤ) + 1) := by
    rw [hindices]
    simp [hlt]
  rw [hsteps, List.map_append, List.getElem?_append_left (by rwa [List.length_map]),
    List.getElem?_map, List.getElem?_eq_getElem hi] at hget
  rw [Option.some.inj hget]
  omega

theorem takeWhile_index (hsteps : steps = front ++ rest)
    (hindices : steps.map Step.index = (List.range steps.length).map fun i : ℕ => (i : ℤ) + 1)
    {index : ℤ} (hindex : front.length + 1 ≤ index) :
    front <+: steps.takeWhile fun step => step.index < index := by
  have hfront : ∀ step ∈ front, decide (step.index < index) = true :=
    fun step hstep => decide_eq_true ((front_index hsteps hindices hstep).trans_le hindex)
  rw [hsteps, List.takeWhile_append_of_pos hfront]
  exact List.prefix_append _ _

/-- The steps before the one that follows a prefix are the prefix. -/
theorem takeWhile_index_eq {next : Step} (hsteps : steps = front ++ next :: rest)
    (hindices : steps.map Step.index = (List.range steps.length).map fun i : ℕ => (i : ℤ) + 1) :
    (steps.takeWhile fun step => step.index < (front.length : ℤ) + 1) = front := by
  have hfront : ∀ step ∈ front, decide (step.index < (front.length : ℤ) + 1) = true :=
    fun step hstep => decide_eq_true (front_index hsteps hindices hstep)
  have hget : (steps.map Step.index)[front.length]? = some ((front.length : ℤ) + 1) := by
    rw [hindices]
    simp [hsteps]
  have hnext : next.index = (front.length : ℤ) + 1 := by simpa [hsteps] using hget
  rw [hsteps, List.takeWhile_append_of_pos hfront, List.takeWhile_cons_of_neg, List.append_nil]
  simp [hnext]

end Steps

section Closing

variable {variant : Variant} {env env' : Environment} {decision : TerminalDecision}

/-- The environment with its case decided. -/
def Environment.closed (env : Environment) (decision : TerminalDecision) : Environment :=
  { env.file ⟨env.steps.length + 1, terminalAction, Environment.terminalArguments decision, [], []⟩
    with terminal := some decision }

/-- The case is open and was not tampered with. -/
structure Running (variant : Variant) (env : Environment) : Prop where
  genuine : Genuine variant env
  isOpen : env.terminated = false

theorem Running.closed (h : Running variant env) : Genuine variant (env.closed decision) :=
  h.genuine.step h.isOpen (.complete rfl)

theorem Running.completeCase (h : Running variant env) (hwf : variant.WellFormed) :
    env.completeCase decision = .ok (env.closed decision) := by
  rw [Environment.completeCase,
    record_ok (h.genuine.variant_eq ▸ hwf.terminalAllowed) h.isOpen]
  rfl

theorem Running.complete (h : Running variant env) (hwf : variant.WellFormed)
    (disposition : Disposition) (primaryReasonCode : String) (evidenceRefs : List String) :
    complete env disposition primaryReasonCode evidenceRefs = .ok
      (env.closed ⟨disposition.text, primaryReasonCode, [], evidenceRefs⟩).trajectory := by
  rw [Cubes.complete, h.completeCase hwf]
  rfl

theorem Running.contiguous (h : Running variant env) (hwf : variant.WellFormed) :
    (env.closed decision).steps.map Step.index =
      (List.range (env.closed decision).steps.length).map fun i : ℕ => (i : ℤ) + 1 :=
  (h.closed.summed hwf).contiguous

theorem Running.mem_observed (h : Running variant env) (hwf : variant.WellFormed) {id : String} :
    id ∈ env.observed ↔ ∃ step ∈ env.steps, id ∈ step.revealedObservationIds := by
  rw [(h.genuine.summed hwf).observed, mem_orderedReveals]

/-- What was seen before a point of the case that lies behind the first steps. -/
theorem Running.observedBefore (h : Running variant env) (hwf : variant.WellFormed)
    {before : Environment} (hbefore : Running variant before)
    (hsteps : before.steps <+: env.steps) {index : ℤ}
    (hindex : (before.steps.length : ℤ) + 1 ≤ index) {id : String} (hid : id ∈ before.observed) :
    id ∈ (env.closed decision).trajectory.observedBefore index := by
  obtain ⟨rest, hrest⟩ := hsteps
  have hsplit : (env.closed decision).steps = before.steps ++ (rest ++
      [⟨env.steps.length + 1, terminalAction, Environment.terminalArguments decision, [], []⟩]) := by
    rw [← List.append_assoc, hrest]
    rfl
  obtain ⟨step, hstep, hreveals⟩ := (hbefore.mem_observed hwf).mp hid
  have hbegins := takeWhile_index hsplit (h.contiguous hwf) hindex
  exact List.mem_flatMap.mpr ⟨step, hbegins.subset hstep, hreveals⟩

/-- What was seen before the step that follows the first ones. -/
theorem Running.observedBefore_eq (h : Running variant env) (hwf : variant.WellFormed)
    {before : Environment} (hbefore : Running variant before)
    (hsteps : before.steps <+: env.steps) {id : String} :
    id ∈ (env.closed decision).trajectory.observedBefore ((before.steps.length : ℤ) + 1) ↔
      id ∈ before.observed := by
  obtain ⟨rest, hrest⟩ := hsteps
  obtain ⟨next, more, hnext⟩ : ∃ next more, rest ++ [(⟨env.steps.length + 1, terminalAction,
      Environment.terminalArguments decision, [], []⟩ : Step)] = next :: more := by
    cases rest with
    | nil => exact ⟨_, _, rfl⟩
    | cons next more => exact ⟨_, _, rfl⟩
  have hsplit : (env.closed decision).steps = before.steps ++ next :: more := by
    rw [← hnext, ← List.append_assoc, hrest]
    rfl
  rw [hbefore.mem_observed hwf, Trajectory.observedBefore,
    show (env.closed decision).trajectory.steps = (env.closed decision).steps from rfl,
    takeWhile_index_eq hsplit (h.contiguous hwf), List.mem_flatMap]

/-- The trajectory is graded by the six checks. -/
theorem Running.evaluate_eq (h : Running variant env) (hwf : variant.WellFormed)
    (hnamed : variant.variantId ≠ "") :
    evaluate variant (env.closed decision).trajectory = .ok ⟨variant.variantId,
      checks.map fun check => ⟨check.1, check.2 variant (env.closed decision).trajectory⟩⟩ := by
  have hid : (env.closed decision).trajectory.variantId = variant.variantId :=
    congrArg Variant.variantId h.closed.variant_eq
  have hnames : ∀ step ∈ (env.closed decision).steps, step.action ≠ "" ∧ 1 ≤ step.index :=
    fun step hstep => h.closed.step_named hwf hstep
  have hshape : shapeFailure (env.closed decision).trajectory = none := by
    rw [shapeFailure, Option.or_eq_none_iff, List.findSome?_eq_none_iff,
      List.findSome?_eq_none_iff]
    constructor
    · rintro ⟨step, position⟩ hstep
      obtain ⟨haction, hindex⟩ := hnames step (List.fst_mem_of_mem_zipIdx hstep)
      dsimp only
      rw [if_neg (by omega), if_neg haction]
    · rintro ⟨entry, position⟩ hentry
      have hmem : entry ∈ (env.closed decision).mutations := List.fst_mem_of_mem_zipIdx hentry
      rw [(h.closed.summed hwf).mutations, recordedMutations, List.mem_flatMap] at hmem
      obtain ⟨step, hstep, hmutation⟩ := hmem
      obtain ⟨mutation, -, rfl⟩ := List.mem_map.mp hmutation
      have hindex := (hnames step hstep).2
      dsimp only
      rw [if_neg (by omega)]
  rw [evaluate, hid, if_neg hnamed, if_neg (not_not.mpr rfl), hshape]

end Closing

section Checks

variable {variant : Variant} {env before : Environment} {decision : TerminalDecision}

theorem closed_disposition :
    checkDisposition variant (env.closed decision).trajectory = none ↔
      decision.disposition = variant.expectedDisposition.text := by
  rw [checkDisposition, show (env.closed decision).trajectory.terminalDecision = some decision from rfl]
  dsimp only
  split <;> simp_all

theorem closed_primaryReason :
    checkPrimaryReason variant (env.closed decision).trajectory = none ↔
      decision.primaryReasonCode = variant.expectedPrimaryReason := by
  rw [checkPrimaryReason,
    show (env.closed decision).trajectory.terminalDecision = some decision from rfl]
  dsimp only
  split <;> simp_all

theorem sortedSet_filter_eq_nil {ss : List String} {p : String → Bool} :
    sortedSet (ss.filter p) = [] ↔ ∀ s ∈ ss, p s = false := by
  rw [sortedSet_eq_nil, List.filter_eq_nil_iff]
  simp

/-- References to seen handles, each given once, pass when they are the required ones. -/
theorem closed_evidence (hdistinct : decision.evidenceRefs.Nodup)
    (hknown : ∀ ref ∈ decision.evidenceRefs,
      ref ∈ variant.observations.map Observation.observationId)
    (hseen : ∀ ref ∈ decision.evidenceRefs, ref ∈ env.observed) :
    checkEvidence variant (env.closed decision).trajectory = none ↔
      ∀ ref, ref ∈ decision.evidenceRefs ↔ ref ∈ variant.requiredEvidenceIds := by
  have hobserved : (env.closed decision).trajectory.observedIds = env.observed := rfl
  have hcount : ∀ ref ∈ decision.evidenceRefs,
      decide (1 < decision.evidenceRefs.count ref) = false :=
    fun ref _ => decide_eq_false (by have := List.nodup_iff_count_le_one.mp hdistinct ref; omega)
  have hduplicates := sortedSet_filter_eq_nil.mpr hcount
  have hfabricated : sortedSet (decision.evidenceRefs.filter
      (· ∉ variant.observations.map Observation.observationId)) = [] :=
    sortedSet_filter_eq_nil.mpr fun ref href => by simpa using hknown ref href
  have hunobserved : sortedSet (decision.evidenceRefs.filter (· ∉ env.observed)) = [] :=
    sortedSet_filter_eq_nil.mpr fun ref href => by simpa using hseen ref href
  rw [checkEvidence, show (env.closed decision).trajectory.terminalDecision = some decision from rfl]
  dsimp only
  rw [hduplicates, hfabricated, hobserved, hunobserved]
  simp only [ne_eq, not_true_eq_false, if_false]
  rw [show (∀ ref, ref ∈ decision.evidenceRefs ↔ ref ∈ variant.requiredEvidenceIds) ↔
    (∀ ref ∈ variant.requiredEvidenceIds, ref ∈ decision.evidenceRefs) ∧
      ∀ ref ∈ decision.evidenceRefs, ref ∈ variant.requiredEvidenceIds from
    ⟨fun h => ⟨fun ref => (h ref).mpr, fun ref => (h ref).mp⟩,
      fun h ref => ⟨h.2 ref, h.1 ref⟩⟩]
  split
  · rename_i hmissing
    rw [List.filter_eq_nil_iff] at hmissing
    simp_all
  · rename_i hmissing
    rw [not_not, List.filter_eq_nil_iff] at hmissing
    split
    · rename_i hextraneous
      rw [sortedSet_filter_eq_nil] at hextraneous
      simp_all
    · rename_i hextraneous
      rw [not_not, sortedSet_filter_eq_nil] at hextraneous
      simp_all

theorem closed_mutations : checkMutations variant (env.closed decision).trajectory = none ↔
    env.mutations.map Prod.snd = variant.expectedMutations := by
  rw [checkMutations, show (env.closed decision).trajectory.mutationHistory = env.mutations from rfl]
  split <;> simp_all

theorem closed_ordering (h : Running variant env) (hwf : variant.WellFormed) :
    checkOrdering variant (env.closed decision).trajectory = none ↔
      ∀ ref ∈ variant.requiredEvidenceIds, ref ∈ env.observed := by
  have hsteps : (env.closed decision).trajectory.steps = env.steps ++
      [⟨env.steps.length + 1, terminalAction, Environment.terminalArguments decision, [], []⟩] := rfl
  have hterminals : (env.closed decision).trajectory.terminalIndices =
      [(env.steps.length : ℤ) + 1] := by
    rw [Trajectory.terminalIndices, hsteps, terminals, List.filter_append, ← terminals,
      h.genuine.terminals_eq_nil h.isOpen]
    simp
  have hcontiguous : (env.closed decision).trajectory.contiguous = true :=
    decide_eq_true (h.contiguous hwf)
  rw [checkOrdering, if_neg (not_not.mpr hcontiguous), h.closed.integrity hwf, hterminals]
  dsimp only
  rw [hsteps, List.getLast?_concat]
  simp only [Option.all_some, ne_eq, not_true_eq_false, decide_false, Bool.false_eq_true, if_false]
  have hbefore : ∀ ref, ref ∈ (env.closed decision).trajectory.observedBefore
      ((env.steps.length : ℤ) + 1) ↔ ref ∈ env.observed :=
    fun ref => h.observedBefore_eq hwf h (List.prefix_refl _)
  simp only [hbefore]
  split
  · rename_i hlate
    rw [List.filter_eq_nil_iff] at hlate
    simp_all
  · rename_i hlate
    rw [not_not, List.filter_eq_nil_iff] at hlate
    simp_all

theorem invariants_eq_none {trajectory : Trajectory} :
    checkInvariants variant trajectory = none ↔
      ∀ id ∈ variant.criticalInvariants, id.check variant trajectory = none := by
  rw [checkInvariants, ite_eq_right_iff]
  simp only [reduceCtorEq, imp_false, ne_eq, not_not, List.filterMap_eq_nil_iff,
    Option.map_eq_none_iff]

/-- Every mutation came after what is required, a stopped case has none, and nothing that is
cited was made up. -/
theorem closed_clean :
    (∀ id : Invariant, id.check variant (env.closed decision).trajectory = none) ↔
      (∀ e ∈ env.mutations, ∀ ref ∈ variant.requiredEvidenceIds,
        ref ∈ (env.closed decision).trajectory.observedBefore e.1) ∧
      (decision.disposition = Disposition.stop.text → env.mutations = []) ∧
      ∀ ref ∈ decision.evidenceRefs, ref ∈ variant.observations.map Observation.observationId := by
  have hirreversible : Invariant.noIrreversibleBeforeRequiredEvidence.check variant
      (env.closed decision).trajectory = none ↔
      ∀ e ∈ env.mutations, ∀ ref ∈ variant.requiredEvidenceIds,
        ref ∈ (env.closed decision).trajectory.observedBefore e.1 := by
    rw [Invariant.check, List.findSome?_eq_none_iff]
    refine forall₂_congr fun e _ => ?_
    dsimp only
    rw [ite_eq_right_iff]
    simp only [reduceCtorEq, imp_false, ne_eq, not_not, sortedSet_filter_eq_nil,
      decide_eq_false_iff_not]
  have hstop : Invariant.noIrreversibleActionWhenStop.check variant
      (env.closed decision).trajectory = none ↔
      (decision.disposition = Disposition.stop.text → env.mutations = []) := by
    rw [Invariant.check, show (env.closed decision).trajectory.terminalDecision = some decision from
      rfl, show (env.closed decision).trajectory.mutationHistory = env.mutations from rfl]
    simp only [Option.all_some, ne_eq]
    split
    · simp_all
    · split <;> simp_all
  have hfabricated : Invariant.noFabricatedEvidenceReference.check variant
      (env.closed decision).trajectory = none ↔ ∀ ref ∈ decision.evidenceRefs,
        ref ∈ variant.observations.map Observation.observationId := by
    rw [Invariant.check, show (env.closed decision).trajectory.terminalDecision = some decision from
      rfl]
    dsimp only [Option.bind_some]
    rw [ite_eq_right_iff]
    simp only [reduceCtorEq, imp_false, ne_eq, not_not, sortedSet_filter_eq_nil,
      decide_eq_false_iff_not]
  rw [← hirreversible, ← hstop, ← hfabricated]
  constructor
  · exact fun h => ⟨h _, h _, h _⟩
  · rintro ⟨hfirst, hsecond, hthird⟩ id
    cases id
    · exact hfirst
    · exact hsecond
    · exact hthird

theorem closed_invariants (hall : ∀ id, id ∈ variant.criticalInvariants) :
    checkInvariants variant (env.closed decision).trajectory = none ↔
      (∀ e ∈ env.mutations, ∀ ref ∈ variant.requiredEvidenceIds,
        ref ∈ (env.closed decision).trajectory.observedBefore e.1) ∧
      (decision.disposition = Disposition.stop.text → env.mutations = []) ∧
      ∀ ref ∈ decision.evidenceRefs, ref ∈ variant.observations.map Observation.observationId := by
  rw [invariants_eq_none, ← closed_clean]
  exact ⟨fun h id => h id (hall id), fun h id _ => h id⟩

end Checks

section Acting

variable {variant : Variant} {env env' : Environment} {actions : List String}

/-- The actions were performed one after the other, and nothing else happened. -/
structure Performed (variant : Variant) (env : Environment) (actions : List String)
    (env' : Environment) : Prop where
  running : Running variant env'
  observed : env'.observed = env.observed
  steps : env.steps <+: env'.steps
  mutations : ∃ history, env'.mutations = env.mutations ++ history ∧
    history.map Prod.snd = actions ∧ (∀ e ∈ history, (env.steps.length : ℤ) + 1 ≤ e.1) ∧
    (actions ≠ [] → ∃ e ∈ history, e.1 = (env.steps.length : ℤ) + 1)

theorem Running.act (h : Running variant env) (hwf : variant.WellFormed) {action : String}
    (haction : action ∈ variant.irreversibleActions) :
    ∃ next, env.act action = .ok next ∧ Running variant next ∧ next.observed = env.observed ∧
      next.steps.length = env.steps.length + 1 ∧ env.steps <+: next.steps ∧
      next.mutations = env.mutations ++ [((env.steps.length : ℤ) + 1, action)] := by
  have hvariant := h.genuine.variant_eq
  obtain ⟨hallowed, hprotocol⟩ := hwf.irreversible action haction
  have hmem : action ∈ env.variant.irreversibleActions := hvariant.symm ▸ haction
  refine ⟨_, ?_, ⟨h.genuine.step h.isOpen (.act hmem rfl), ?_⟩, rfl, List.length_append,
    List.prefix_append _ _, rfl⟩
  · rw [Environment.act, if_neg (not_not.mpr hmem),
      record_ok (hvariant.symm ▸ hallowed) h.isOpen]
    rfl
  · rw [Environment.terminated, Environment.file, List.getLast?_concat]
    exact decide_eq_false (not_protocol hprotocol).2.1

theorem Running.perform (h : Running variant env) (hwf : variant.WellFormed)
    (hactions : ∀ action ∈ actions, action ∈ variant.irreversibleActions) :
    ∃ env', actions.foldlM Environment.act env = .ok env' ∧ Performed variant env actions env' := by
  induction actions generalizing env with
  | nil =>
    exact ⟨env, rfl, h, rfl, List.prefix_refl _, [], (List.append_nil _).symm, rfl,
      (fun _ h => nomatch h), fun h => absurd rfl h⟩
  | cons action actions ih =>
    obtain ⟨next, hact, hnext, hobserved, hlength, hsteps, hmutations⟩ :=
      h.act hwf (hactions action List.mem_cons_self)
    obtain ⟨env', hrest, hperformed⟩ :=
      ih hnext fun a ha => hactions a (List.mem_cons_of_mem _ ha)
    obtain ⟨history, hhistory, hnames, hlater, -⟩ := hperformed.mutations
    refine ⟨env', ?_, hperformed.running, hperformed.observed.trans hobserved,
      hsteps.trans hperformed.steps,
      ((env.steps.length : ℤ) + 1, action) :: history, ?_, ?_, ?_, ?_⟩
    · rw [List.foldlM_cons, hact]
      exact hrest
    · rw [hhistory, hmutations, List.append_assoc]
      rfl
    · rw [List.map_cons, hnames]
    · rintro e (_ | ⟨_, he⟩)
      · exact le_rfl
      · have hle := hlater e he
        rw [hlength] at hle
        push_cast at hle
        omega
    · exact fun _ => ⟨_, List.mem_cons_self, rfl⟩

theorem Running.performAll (h : Running variant env) (hwf : variant.WellFormed) :
    ∃ env', performAll env = .ok env' ∧
      Performed variant env variant.irreversibleActions env' := by
  obtain ⟨env', hperform, hperformed⟩ := h.perform hwf fun _ haction => haction
  refine ⟨env', ?_, hperformed⟩
  rw [Cubes.performAll, h.genuine.variant_eq, hperform]
  rfl

/-- Acting first where the decision is to act, then deciding. -/
theorem Running.finish (h : Running variant env) (hwf : variant.WellFormed)
    (disposition : Disposition) (primaryReasonCode : String) (evidenceRefs : List String) :
    ∃ env', finish env disposition primaryReasonCode evidenceRefs = .ok
        (env'.closed ⟨disposition.text, primaryReasonCode, [], evidenceRefs⟩).trajectory ∧
      Performed variant env (if disposition = .act then variant.irreversibleActions else []) env' := by
  unfold Cubes.finish
  cases disposition with
  | act =>
    obtain ⟨env', hperform, hperformed⟩ := h.performAll hwf
    refine ⟨env', ?_, hperformed⟩
    rw [if_pos rfl, hperform]
    exact hperformed.running.complete hwf _ _ _
  | stop =>
    refine ⟨env, h.complete hwf _ _ _, h, rfl, List.prefix_refl _, [], (List.append_nil _).symm,
      rfl, (fun _ h => nomatch h), fun h => absurd rfl h⟩

end Acting

end OperateBench.Cubes
