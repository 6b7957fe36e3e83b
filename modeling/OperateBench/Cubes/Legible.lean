import OperateBench.Cubes.Report

/-! # When the solvers hold

The expectations are worked out from the card, and the solvers read the record. They agree when
the record says of the card what the compiler made of it.
-/

namespace OperateBench.Cubes

open Foundation

section Expectations

variable {card : ConstructCard} {cube : Cube} {variant : Variant} {matched : Rule}
  {attempted : List Rule}

/-- The facts that the required evidence is taken for: the handle of the policy counts where a
fact has its key. -/
def ConstructCard.declared (card : ConstructCard) (keys : Finset String) : Finset String :=
  if card.facts.contains "applicable_policy" = true then insert "applicable_policy" keys else keys

theorem truth_of_resolveCell {state : StateKey} {policy : PolicyKey}
    (h : resolveCell card state policy = .ok matched) :
    ∃ resolved, truth card state policy = some resolved := by
  obtain ⟨keys, hkeys⟩ := firstMatch_of_resolveCell h
  exact ⟨_, by rw [truth, hkeys]⟩

theorem resolution_eq {state : StateKey} {policy : PolicyKey} {resolved : Resolution}
    (h : truth card state policy = some resolved) :
    resolution (card.policyAxis policy) (card.factsFor state) = .ok resolved := by
  unfold truth at h
  split at h
  case h_2 => cases h
  case h_1 rule keys hfound =>
    obtain rfl := Option.some.inj h
    obtain ⟨walked, hwalked, hlast, rfl⟩ := attempted_of_firstMatch hfound
    rw [resolution, hwalked, inRules, ok_bind, hlast]
    rfl

/-- A walk that looked at no fact comes to the same in every state. -/
theorem firstMatch_of_unconditional {facts : FactValues} (facts' : FactValues) {rules : List Rule}
    {rule : Rule} (h : firstMatch facts rules = .ok (some (rule, []))) :
    firstMatch facts' rules = .ok (some (rule, [])) := by
  cases rules with
  | nil => cases h
  | cons first rules =>
    have hnone : first.referencedFacts = [] := by
      rw [firstMatch] at h
      split at h
      · cases h
      · exact (Prod.ext_iff.mp (Option.some.inj (Except.ok.inj h))).2
      · obtain ⟨found, -, hsome⟩ := map_ok h
        obtain ⟨⟨other, rest⟩, rfl, heq⟩ := Option.map_eq_some_iff.mp hsome
        exact (List.append_eq_nil_iff.mp (Prod.ext_iff.mp heq).2).1
    have hholds : ∀ facts : FactValues, first.holds facts = .ok true := by
      intro facts
      rw [Rule.holds, List.map_eq_nil_iff.mp hnone]
      rfl
    rw [firstMatch, hholds] at h ⊢
    exact h

theorem compileCube_card (h : compileCube card = .ok cube) : cube.card = card := by
  obtain ⟨cellVariants, -, h⟩ := bind_ok h
  obtain ⟨-, -, h⟩ := bind_ok h
  obtain ⟨-, -, h⟩ := bind_ok h
  obtain ⟨-, -, h⟩ := bind_ok h
  obtain ⟨probes, -, h⟩ := bind_ok h
  obtain rfl := pure_ok h
  rfl

/-- Every cell of a compiled card is settled. -/
theorem compileCube_truth (h : compileCube card = .ok cube) (state : StateKey)
    (policy : PolicyKey) : ∃ resolved, truth card state policy = some resolved := by
  obtain ⟨cellVariants, hcells, -⟩ := bind_ok h
  have hcell : (state, policy) ∈ cells := by
    cases state <;> cases policy <;> decide
  obtain ⟨variant, -, hbuilt⟩ := exists_of_mapM hcells hcell
  obtain ⟨matched, hmatched, -⟩ := bind_ok hbuilt
  exact truth_of_resolveCell hmatched

def variantSuffixes : List (VariantKind × String) :=
  cells.map (fun (state, policy) => (.cell, cellText state policy)) ++
    [Direction.alarmist, .reassurance].map fun direction => (.probe, direction.text)

theorem compileCube_ids (h : compileCube card = .ok cube) :
    (cube.variants.map Variant.variantId).Nodup := by
  have hids : cube.variants.map Variant.variantId = variantSuffixes.map fun suffix =>
      s!"{card.cubeId}::{suffix.1.text}::{suffix.2}" := by
    obtain ⟨cellVariants, hcells, h⟩ := bind_ok h
    obtain ⟨-, -, h⟩ := bind_ok h
    obtain ⟨-, -, h⟩ := bind_ok h
    obtain ⟨-, -, h⟩ := bind_ok h
    obtain ⟨probes, hprobes, h⟩ := bind_ok h
    obtain rfl := pure_ok h
    rw [List.map_append, variantSuffixes, List.map_append, List.map_map, List.map_map]
    congr 1
    · refine map_of_mapM hcells ?_
      rintro ⟨state, policy⟩ variant hbuilt
      obtain ⟨matched, -, hbuilt⟩ := bind_ok hbuilt
      obtain ⟨attempted, -, hbuilt⟩ := bind_ok hbuilt
      obtain rfl := pure_ok hbuilt
      rfl
    · refine map_of_mapM hprobes ?_
      intro direction variant hbuilt
      obtain ⟨matched, -, hbuilt⟩ := bind_ok hbuilt
      obtain ⟨attempted, -, hbuilt⟩ := bind_ok hbuilt
      obtain rfl := pure_ok hbuilt
      rfl
  have hinj : ∀ a ∈ variantSuffixes, ∀ b ∈ variantSuffixes,
      a.1.text ++ "::" ++ a.2 = b.1.text ++ "::" ++ b.2 → a = b := by decide
  rw [hids]
  refine List.Nodup.map_on ?_ (by decide)
  intro a ha b hb heq
  refine hinj a ha b hb (String.toList_inj.mp ?_)
  simpa [String.toList_append, toString] using congrArg String.toList heq

namespace Compiles

variable (h : Compiles card variant matched attempted)

include h

theorem observation_eq {o : Observation} (ho : o ∈ variant.observations) :
    variant.observation o.observationId = some o := by
  have hsome : (variant.observation o.observationId).isSome = true :=
    List.find?_isSome.mpr ⟨o, ho, decide_eq_true rfl⟩
  obtain ⟨o', ho'⟩ := Option.isSome_iff_exists.mp hsome
  have hid := of_decide_eq_true (List.find?_some
    (p := fun x : Observation => decide (x.observationId = o.observationId)) ho')
  rw [ho', List.inj_on_of_nodup_map h.wellFormed.handles (List.mem_of_find?_eq_some ho') ho hid]

theorem requiredObservations_ok : ∃ required, requiredObservations variant = .ok required ∧
    ∀ o, o ∈ required ↔
      o ∈ variant.observations ∧ o.observationId ∈ variant.requiredEvidenceIds := by
  have hresolve {resolve : String → Except SolverError Observation}
      (hfound : ∀ {ref o}, variant.observation ref = some o → resolve ref = .ok o) :
      ∀ os : List Observation, os ⊆ variant.observations →
        (os.map Observation.observationId).mapM resolve = .ok os := by
    intro os hos
    induction os with
    | nil => rfl
    | cons o os ih =>
      rw [List.map_cons, List.mapM_cons, hfound (h.observation_eq (hos List.mem_cons_self)),
        ih fun o ho => hos (List.mem_cons_of_mem _ ho)]
      rfl
  obtain ⟨os, hsub, hids⟩ : ∃ os ⊆ variant.observations,
      variant.requiredEvidenceIds = os.map Observation.observationId := by
    refine ⟨_, ?_, h.requiredEvidenceIds_eq⟩
    intro o ho
    rcases List.mem_append.mp ho with ho | ho
    · exact List.mem_of_mem_filter ho
    · exact List.mem_of_mem_filter ho
  have hrequired : requiredObservations variant = .ok os := by
    rw [requiredObservations, hids]
    apply hresolve ?_ os hsub
    intro ref o ho
    rw [ho]
  refine ⟨os, hrequired, fun o => ?_⟩
  rw [hids]
  constructor
  · exact fun ho => ⟨hsub ho, List.mem_map_of_mem ho⟩
  · rintro ⟨ho, href⟩
    obtain ⟨o', ho', heq⟩ := List.mem_map.mp href
    exact List.inj_on_of_nodup_map h.wellFormed.handles (hsub ho') ho heq ▸ ho'

/-- The facts that the expectations take the required evidence for. -/
theorem requiredFactKeys_eq (hcard : cube.card = card) : requiredFactKeys cube variant =
    .ok (card.declared (made matched attempted).keys) := by
  obtain ⟨required, hrequired, hmem⟩ := h.requiredObservations_ok
  rw [requiredFactKeys, hrequired, ok_bind, hcard]
  refine congrArg Except.ok (Finset.ext fun key => ?_)
  have hdeclared : key ∈ card.declared (made matched attempted).keys ↔
      (key = "applicable_policy" ∧ card.facts.contains key = true) ∨
        key ∈ attempted.flatMap Rule.referencedFacts := by
    unfold ConstructCard.declared made
    by_cases hkey : key = "applicable_policy" <;> split <;> simp_all
  rw [hdeclared, List.mem_toFinset, List.mem_filter]
  constructor
  · rintro ⟨hkey, hfact⟩
    obtain ⟨o, ho, rfl⟩ := List.mem_map.mp hkey
    obtain ⟨ho, href⟩ := (hmem o).mp ho
    rcases h.mem_required.mp href with hpolicy | ⟨key, hneeded, o', ho', heq⟩
    · obtain rfl := List.inj_on_of_nodup_map h.wellFormed.handles ho h.policy_mem hpolicy
      exact Or.inl ⟨rfl, hfact⟩
    · obtain rfl := List.inj_on_of_nodup_map h.wellFormed.handles ho'.mem ho heq
      exact Or.inr (ho'.named.symm ▸ hneeded)
  · rintro (⟨rfl, hfact⟩ | hneeded)
    · refine ⟨List.mem_map.mpr ⟨policyOf card variant, (hmem _).mpr ⟨h.policy_mem, ?_⟩, rfl⟩, hfact⟩
      exact h.mem_required.mpr (Or.inl rfl)
    · have hfact := h.needed_known hneeded
      obtain ⟨spec, hspec⟩ := Dict.contains_iff.mp hfact
      obtain ⟨o, ho, -⟩ := h.answers_exists hspec
      refine ⟨List.mem_map.mpr ⟨o, (hmem o).mpr ⟨ho.mem, ?_⟩, ho.named⟩, hfact⟩
      exact h.mem_required.mpr (Or.inr ⟨key, hneeded, o, ho, rfl⟩)

theorem hasOnRequest_ok : ∃ b, hasOnRequestRequiredEvidence variant = .ok b ∧
    (b = false ↔ ∀ o ∈ variant.observations, o.observationId ∈ variant.requiredEvidenceIds →
      o.availability ≠ .onRequest) := by
  obtain ⟨required, hrequired, hmem⟩ := h.requiredObservations_ok
  refine ⟨_, by rw [hasOnRequestRequiredEvidence, hrequired]; rfl, ?_⟩
  rw [List.any_eq_false]
  simp only [hmem, decide_eq_true_eq, and_imp, ne_eq]

end Compiles

end Expectations

section Each

variable {card : ConstructCard} {cube : Cube} {variant : Variant} {spec : SolverSpec}

theorem compileCube_pressed (h : compileCube card = .ok cube) (hvariant : variant ∈ cube.variants)
    {direction : Direction} (hpressed : variant.pressureDirection = some direction) :
    variant.expectedDisposition = direction.requiredDisposition := by
  obtain ⟨cellVariants, hcells, h⟩ := bind_ok h
  obtain ⟨-, -, h⟩ := bind_ok h
  obtain ⟨-, -, h⟩ := bind_ok h
  obtain ⟨-, -, h⟩ := bind_ok h
  obtain ⟨probes, hprobes, h⟩ := bind_ok h
  obtain rfl := pure_ok h
  rcases List.mem_append.mp hvariant with hmem | hmem
  · obtain ⟨cell, -, hbuilt⟩ := mem_of_mapM hcells hmem
    obtain ⟨matched, -, hbuilt⟩ := bind_ok hbuilt
    obtain ⟨attempted, -, hbuilt⟩ := bind_ok hbuilt
    obtain rfl := pure_ok hbuilt
    cases hpressed
  · obtain ⟨direction', -, hbuilt⟩ := mem_of_mapM hprobes hmem
    obtain ⟨matched, hmatched, hbuilt⟩ := bind_ok hbuilt
    obtain ⟨attempted, -, hbuilt⟩ := bind_ok hbuilt
    obtain rfl := pure_ok hbuilt
    obtain rfl := Option.some.inj hpressed
    rw [← card.probesPress direction']
    obtain ⟨rules, -, hmatched⟩ := bind_ok hmatched
    cases rules with
    | nil => cases hmatched
    | cons first others =>
      obtain ⟨-, hmatched⟩ := unless_ok hmatched
      obtain ⟨hdecision, hmatched⟩ := unless_ok hmatched
      obtain rfl := Except.ok.inj hmatched
      exact not_not.mp hdecision

/-- What is expected of a solver, of each variant on its own. -/
theorem SolverSpec.holds_iff (h : compileCube card = .ok cube)
    (failing passing : Variant → List Predicate)
    (htargets : spec.targets cube = .ok (expected cube failing))
    (hpreserved : spec.preserved cube = .ok (expected cube passing))
    (hfinished : ∀ variant ∈ cube.variants, ∀ trajectory,
      spec.solve variant cube = .ok trajectory → Finished variant trajectory) :
    spec.Holds cube ↔ ∀ variant ∈ cube.variants, ∃ trajectory,
      spec.solve variant cube = .ok trajectory ∧
      (∀ predicate ∈ failing variant, predicate.fault variant trajectory ≠ none) ∧
      ∀ predicate ∈ passing variant, predicate.fault variant trajectory = none := by
  have : Nonempty Trajectory := ⟨⟨"", [], none, [], []⟩⟩
  have hevaluate : ∀ variant ∈ cube.variants, ∀ trajectory,
      spec.solve variant cube = .ok trajectory →
      evaluate variant trajectory = .ok (grade variant trajectory) := by
    intro variant hvariant trajectory hsolve
    obtain ⟨matched, attempted, hcompiles⟩ := compileCube_ok h hvariant
    exact (hfinished variant hvariant trajectory hsolve).evaluate_eq hcompiles.wellFormed
      hcompiles.variantId_ne
  constructor
  · rintro ⟨outcome, hcheck, hsatisfied⟩
    have hsolve : ∀ variant ∈ cube.variants, ∃ trajectory,
        spec.solve variant cube = .ok trajectory :=
      fun variant => solve_of_checkSolver hcheck
    choose! trajectory hsolve using hsolve
    obtain ⟨outcome', hcheck', hiff⟩ := checkSolver_ok (compileCube_ids h) hsolve
      (fun variant hvariant => hevaluate variant hvariant _ (hsolve variant hvariant))
      htargets hpreserved
    obtain rfl := Except.ok.inj (hcheck.symm.trans hcheck')
    exact fun variant hvariant =>
      ⟨trajectory variant, hsolve variant hvariant, hiff.mp hsatisfied variant hvariant⟩
  · intro hall
    choose! trajectory hsolve hverdicts using hall
    obtain ⟨outcome, hcheck, hiff⟩ := checkSolver_ok (compileCube_ids h) hsolve
      (fun variant hvariant => hevaluate variant hvariant _ (hsolve variant hvariant))
      htargets hpreserved
    exact ⟨outcome, hcheck, hiff.mpr hverdicts⟩

end Each

section Legibility

/-- What the card makes of a variant. -/
def right (card : ConstructCard) (variant : Variant) : Resolution :=
  (truth card variant.state variant.policy).getD ⟨.stop, "", ∅⟩

/-- Where the habitual policy is expected to come apart from the one of the variant. -/
def foreseen (card : ConstructCard) (variant : Variant) : Option Predicate :=
  firstDivergence { right card variant with keys := card.declared (right card variant).keys }
    ((truth card variant.state habitualPolicy).getD ⟨.stop, "", ∅⟩)

/-- A resolution goes wrong at the predicate, or is right where there is none. -/
def Resolution.Breaks (actual expected : Resolution) : Option Predicate → Prop
  | some .disposition => actual.decision ≠ expected.decision
  | some .primaryReason => actual.primaryReason ≠ expected.primaryReason
  | some _ => actual.keys ≠ expected.keys
  | none => actual = expected

/-- The record reads as the card does: the policy of the variant comes to the same on both, the
habitual one goes wrong on the record where it does on the card, and the handle of the policy is
taken for a fact only where facts were looked at. -/
structure Legible (card : ConstructCard) (variant : Variant) : Prop where
  own : reading card variant variant.policy = truth card variant.state variant.policy
  habitual : variant.policy ≠ habitualPolicy → ∃ habit,
    reading card variant habitualPolicy = some habit ∧
      habit.Breaks (right card variant) (foreseen card variant)
  bare : (right card variant).keys = ∅ → card.facts.contains "applicable_policy" = false

variable {card : ConstructCard} {cube : Cube} {variant : Variant} {matched : Rule}
  {attempted : List Rule} {trajectory : Trajectory} {wanted actual : Resolution}

theorem Verdicts.passes (h : Verdicts variant trajectory wanted actual) :
    (∀ predicate : Predicate, predicate.fault variant trajectory = none) ↔ actual = wanted := by
  constructor
  · intro hall
    have hdecision := h.disposition.mp (hall .disposition)
    have hreason := h.primaryReason.mp (hall .primaryReason)
    have hkeys := h.evidence.mp (hall .evidence)
    exact Resolution.ext hdecision hreason hkeys
  · rintro rfl predicate
    cases predicate with
    | disposition => exact h.disposition.mpr rfl
    | primaryReason => exact h.primaryReason.mpr rfl
    | evidence => exact h.evidence.mpr rfl
    | mutations => exact h.mutations.mpr rfl
    | ordering => exact h.ordering rfl
    | invariants => exact h.invariants rfl

theorem firstDivergence_cases (wanted actual : Resolution) :
    firstDivergence wanted actual = some .disposition ∨
      firstDivergence wanted actual = some .primaryReason ∨
      firstDivergence wanted actual = some .evidence ∨ firstDivergence wanted actual = none := by
  unfold firstDivergence
  split
  · exact Or.inl rfl
  · split
    · exact Or.inr (Or.inl rfl)
    · split
      · exact Or.inr (Or.inr (Or.inl rfl))
      · exact Or.inr (Or.inr (Or.inr rfl))

/-- A trajectory goes wrong where it was foreseen to when its resolution does. -/
theorem Verdicts.breaks (h : Verdicts variant trajectory wanted actual) :
    ((∀ predicate ∈ (foreseen card variant).toList, predicate.fault variant trajectory ≠ none) ∧
      ∀ predicate ∈ if (foreseen card variant).isNone then allPredicates else [],
        predicate.fault variant trajectory = none) ↔
      actual.Breaks wanted (foreseen card variant) := by
  have hcases := firstDivergence_cases
    { right card variant with keys := card.declared (right card variant).keys }
    ((truth card variant.state habitualPolicy).getD ⟨.stop, "", ∅⟩)
  rw [← foreseen] at hcases
  rcases hcases with heq | heq | heq | heq
  · simp [heq, Predicate.fault, Resolution.Breaks, h.disposition]
  · simp [heq, Predicate.fault, Resolution.Breaks, h.primaryReason]
  · simp [heq, Predicate.fault, Resolution.Breaks, h.evidence]
  · rw [heq, Resolution.Breaks, ← h.passes]
    simp [mem_allPredicates]

namespace Compiles

variable (h : Compiles card variant matched attempted)

include h

theorem right_eq : right card variant = made matched attempted := by
  rw [right, h.truth_eq]
  rfl

theorem solveReference_iff (cube : Cube) (hall : ∀ id, id ∈ card.criticalInvariants) :
    (∃ trajectory, solveReference variant cube = .ok trajectory ∧
      ∀ predicate : Predicate, predicate.fault variant trajectory = none) ↔
      reading card variant variant.policy = truth card variant.state variant.policy := by
  rw [h.truth_eq]
  constructor
  · rintro ⟨trajectory, hsolve, hpasses⟩
    obtain ⟨resolved, hreading⟩ := h.reading_of_solveReference cube hsolve
    obtain ⟨trajectory', hsolve', -, hverdicts⟩ := h.solveReference_ok cube hall hreading
    obtain rfl := Except.ok.inj (hsolve.symm.trans hsolve')
    rw [hreading, hverdicts.passes.mp hpasses]
    rfl
  · intro hreading
    obtain ⟨trajectory, hsolve, -, hverdicts⟩ := h.solveReference_ok cube hall hreading
    exact ⟨trajectory, hsolve, hverdicts.passes.mpr rfl⟩

theorem solvePolicyIgnorant_iff (hcard : cube.card = card)
    (hall : ∀ id, id ∈ card.criticalInvariants) :
    (∃ trajectory, solvePolicyIgnorant variant cube = .ok trajectory ∧
      (∀ predicate ∈ (foreseen card variant).toList,
        predicate.fault variant trajectory ≠ none) ∧
      ∀ predicate ∈ if (foreseen card variant).isNone then allPredicates else [],
        predicate.fault variant trajectory = none) ↔
      ∃ habit, reading card variant habitualPolicy = some habit ∧
        habit.Breaks (right card variant) (foreseen card variant) := by
  rw [h.right_eq]
  constructor
  · rintro ⟨trajectory, hsolve, hverdict⟩
    obtain ⟨habit, hreading⟩ := h.reading_of_solvePolicyIgnorant hcard hsolve
    obtain ⟨trajectory', hsolve', -, hverdicts⟩ := h.solvePolicyIgnorant_ok hcard hall hreading
    obtain rfl := Except.ok.inj (hsolve.symm.trans hsolve')
    exact ⟨habit, hreading, hverdicts.breaks.mp hverdict⟩
  · rintro ⟨habit, hreading, hbreaks⟩
    obtain ⟨trajectory, hsolve, -, hverdicts⟩ := h.solvePolicyIgnorant_ok hcard hall hreading
    exact ⟨trajectory, hsolve, hverdicts.breaks.mpr hbreaks⟩

/-- Under the habitual policy the habit is right. -/
theorem solvePolicyIgnorant_eq (hcard : cube.card = card)
    (hhabitual : variant.policy = habitualPolicy) :
    solvePolicyIgnorant variant cube = solveReference variant cube := by
  obtain ⟨env, hopened, hsurveyed, -, -⟩ := h.opened_ok
  rw [solvePolicyIgnorant, solveReference, hopened, ok_bind, ok_bind,
    h.presentedRules_eq hsurveyed, ok_bind, hcard, hhabitual]

/-- Where no fact is needed, no fact makes a difference. -/
theorem truth_of_bare (hbare : (made matched attempted).keys = ∅) (state : StateKey) :
    truth card state variant.policy = some (made matched attempted) := by
  have hnone : attempted.flatMap Rule.referencedFacts = [] := List.toFinset_eq_empty_iff _ |>.mp hbare
  have hfound := h.firstMatch_eq
  rw [hnone] at hfound
  rw [truth, firstMatch_of_unconditional (card.factsFor state) hfound, made, hnone]

end Compiles

end Legibility

section Specs

variable {card : ConstructCard} {cube : Cube} {variant : Variant}

/-- The facts that the expectations for a variant are about. -/
def keysOf (card : ConstructCard) (variant : Variant) : Finset String :=
  card.declared (right card variant).keys

theorem requiredFactKeys_of_mem (h : compileCube card = .ok cube)
    (hvariant : variant ∈ cube.variants) :
    requiredFactKeys cube variant = .ok (keysOf card variant) := by
  obtain ⟨matched, attempted, hcompiles⟩ := compileCube_ok h hvariant
  rw [keysOf, hcompiles.right_eq]
  exact hcompiles.requiredFactKeys_eq (compileCube_card h)

theorem right_decision (h : compileCube card = .ok cube) (hvariant : variant ∈ cube.variants) :
    (right card variant).decision = variant.expectedDisposition := by
  obtain ⟨matched, attempted, hcompiles⟩ := compileCube_ok h hvariant
  rw [hcompiles.right_eq, hcompiles.expectedDisposition_eq]
  rfl

theorem habitualDivergence_eq (h : compileCube card = .ok cube)
    (hvariant : variant ∈ cube.variants) :
    habitualDivergence cube variant = .ok (foreseen card variant) := by
  obtain ⟨matched, attempted, hcompiles⟩ := compileCube_ok h hvariant
  obtain ⟨habit, hhabit⟩ := compileCube_truth h variant.state habitualPolicy
  rw [habitualDivergence, requiredFactKeys_of_mem h hvariant, ok_bind, compileCube_card h,
    resolution_eq hhabit, ok_bind, foreseen, hhabit, keysOf, hcompiles.right_eq,
    hcompiles.expectedDisposition_eq, hcompiles.expectedPrimaryReason_eq]
  rfl

theorem expected_none (cube : Cube) : expected cube (fun _ => []) = [] := by
  rw [expected, List.flatMap_eq_nil_iff]
  exact fun _ _ => rfl

theorem reference_holds_iff (h : compileCube card = .ok cube)
    (hall : ∀ id, id ∈ card.criticalInvariants) :
    SolverSpec.Holds ⟨"reference", solveReference, fun _ => noTargets, referencePreserved⟩ cube ↔
      ∀ variant ∈ cube.variants,
        reading card variant variant.policy = truth card variant.state variant.policy := by
  rw [SolverSpec.holds_iff h (fun _ => []) (fun _ => allPredicates)
    (by rw [expected_none]; rfl) rfl]
  · refine forall₂_congr fun variant hvariant => ?_
    obtain ⟨matched, attempted, hcompiles⟩ := compileCube_ok h hvariant
    rw [← hcompiles.solveReference_iff cube hall]
    simp [mem_allPredicates]
  · intro variant hvariant trajectory hsolve
    obtain ⟨matched, attempted, hcompiles⟩ := compileCube_ok h hvariant
    obtain ⟨resolved, hreading⟩ := hcompiles.reading_of_solveReference cube hsolve
    obtain ⟨trajectory', hsolve', hfinished, -⟩ :=
      hcompiles.solveReference_ok cube hall hreading
    exact Except.ok.inj (hsolve'.symm.trans hsolve) ▸ hfinished

theorem policyIgnorant_holds_iff (h : compileCube card = .ok cube)
    (hall : ∀ id, id ∈ card.criticalInvariants) :
    SolverSpec.Holds ⟨"policy_ignorant", solvePolicyIgnorant, policyIgnorantTargets,
      policyIgnorantPreserved⟩ cube ↔ ∀ variant ∈ cube.variants,
        (variant.policy = habitualPolicy →
          reading card variant variant.policy = truth card variant.state variant.policy) ∧
        (variant.policy ≠ habitualPolicy → ∃ habit,
          reading card variant habitualPolicy = some habit ∧
          habit.Breaks (right card variant) (foreseen card variant)) := by
  have hcard := compileCube_card h
  rw [SolverSpec.holds_iff h
    (fun variant =>
      if variant.policy = habitualPolicy then [] else (foreseen card variant).toList)
    (fun variant => if variant.policy = habitualPolicy then allPredicates
      else if (foreseen card variant).isNone then allPredicates else [])]
  · refine forall₂_congr fun variant hvariant => ?_
    obtain ⟨matched, attempted, hcompiles⟩ := compileCube_ok h hvariant
    by_cases hhabitual : variant.policy = habitualPolicy
    · have hreference := hcompiles.solveReference_iff cube hall
      simp only [hhabitual] at hreference
      simp only [hhabitual, if_true, ne_eq, not_true_eq_false, false_imp_iff, and_true,
        true_imp_iff, ← hreference, hcompiles.solvePolicyIgnorant_eq hcard hhabitual]
      simp [mem_allPredicates]
    · simp only [hhabitual, if_false, false_imp_iff, true_and, ne_eq, not_false_eq_true,
        true_imp_iff]
      exact hcompiles.solvePolicyIgnorant_iff hcard hall
  · exact perVariant_eq fun variant hvariant => by
      rw [habitualDivergence_eq h hvariant]
      split <;> rfl
  · exact perVariant_eq fun variant hvariant => by
      rw [habitualDivergence_eq h hvariant, ok_bind]
      split
      · simp [everyPredicate]
      · split <;> simp [everyPredicate] <;> rfl
  · intro variant hvariant trajectory hsolve
    obtain ⟨matched, attempted, hcompiles⟩ := compileCube_ok h hvariant
    obtain ⟨resolved, hreading⟩ := hcompiles.reading_of_solvePolicyIgnorant hcard hsolve
    obtain ⟨trajectory', hsolve', hfinished, -⟩ :=
      hcompiles.solvePolicyIgnorant_ok hcard hall hreading
    exact Except.ok.inj (hsolve'.symm.trans hsolve) ▸ hfinished

theorem stateIgnorant_holds_iff (h : compileCube card = .ok cube)
    (hall : ∀ id, id ∈ card.criticalInvariants) :
    SolverSpec.Holds ⟨"state_ignorant", solveStateIgnorant, stateIgnorantTargets,
      stateIgnorantPreserved⟩ cube ↔ ∀ variant ∈ cube.variants,
        (right card variant).keys = ∅ → card.facts.contains "applicable_policy" = false := by
  have hcard := compileCube_card h
  let assumed := fun variant : Variant =>
    (truth card assumedState variant.policy).getD ⟨.stop, "", ∅⟩
  have hassumed : ∀ variant : Variant,
      truth card assumedState variant.policy = some (assumed variant) := by
    intro variant
    obtain ⟨resolved, hresolved⟩ := compileCube_truth h assumedState variant.policy
    rw [hresolved, show assumed variant = resolved by simp only [assumed, hresolved]; rfl]
  rw [SolverSpec.holds_iff h
    (fun variant => if keysOf card variant = ∅ then []
      else .evidence :: if (assumed variant).decision ≠ variant.expectedDisposition
        then [.disposition] else [])
    (fun variant => if keysOf card variant = ∅ then allPredicates else [])]
  · refine forall₂_congr fun variant hvariant => ?_
    obtain ⟨matched, attempted, hcompiles⟩ := compileCube_ok h hvariant
    obtain ⟨trajectory, hsolve, -, hverdicts⟩ :=
      hcompiles.solveStateIgnorant_ok hcard hall (hassumed variant)
    have hright := hcompiles.right_eq
    rw [← hright] at hverdicts
    have honly : ∀ {p : Trajectory → Prop}, (∃ trajectory,
        solveStateIgnorant variant cube = .ok trajectory ∧ p trajectory) ↔ p trajectory := by
      intro p
      constructor
      · rintro ⟨trajectory', hsolve', hp⟩
        exact Except.ok.inj (hsolve'.symm.trans hsolve) ▸ hp
      · exact fun hp => ⟨trajectory, hsolve, hp⟩
    refine honly.trans ?_
    by_cases hkeys : (right card variant).keys = ∅
    · have hbare := hcompiles.truth_of_bare (hright ▸ hkeys) assumedState
      rw [hassumed, ← hright] at hbare
      have hpasses := hverdicts.passes.mpr (by
        rw [Option.some.inj hbare, ← hkeys])
      by_cases hfact : card.facts.contains "applicable_policy" = true
      · have hne : keysOf card variant ≠ ∅ := by
          rw [keysOf, ConstructCard.declared, if_pos hfact]
          exact Finset.insert_ne_empty _ _
        simp only [if_neg hne, hkeys, hfact, true_imp_iff, Bool.true_eq_false, iff_false]
        exact fun hverdict => hverdict.1 .evidence List.mem_cons_self (hpasses .evidence)
      · have hempty : keysOf card variant = ∅ := by
          rw [keysOf, ConstructCard.declared, if_neg hfact, hkeys]
        simp only [hempty, if_true, hkeys, true_imp_iff, Bool.eq_false_iff.mpr hfact, iff_true]
        exact ⟨(fun _ hmem => nomatch hmem), fun predicate _ => hpasses predicate⟩
    · have hne : keysOf card variant ≠ ∅ := by
        rw [keysOf, ConstructCard.declared]
        split
        · exact Finset.insert_ne_empty _ _
        · exact hkeys
      simp only [if_neg hne, hkeys, false_imp_iff, iff_true]
      refine ⟨?_, fun _ hmem => nomatch hmem⟩
      rintro predicate (_ | ⟨_, hmem⟩)
      · exact fun hevidence => hkeys (hverdicts.evidence.mp hevidence).symm
      · split at hmem
        · obtain rfl := List.mem_singleton.mp hmem
          rename_i hdecision
          rw [← right_decision h hvariant] at hdecision
          exact fun hdisposition => hdecision (hverdicts.disposition.mp hdisposition)
        · cases hmem
  · exact perVariant_eq fun variant hvariant => by
      rw [requiredFactKeys_of_mem h hvariant, ok_bind, hcard, resolution_eq (hassumed variant),
        ok_bind]
      split
      · rfl
      · by_cases hdecision : (assumed variant).decision ≠ variant.expectedDisposition
        · simp only [if_pos hdecision]
          rfl
        · simp only [if_neg hdecision]
          rfl
  · exact perVariant_eq fun variant hvariant => by
      rw [requiredFactKeys_of_mem h hvariant, ok_bind]
      split
      · simp [everyPredicate]; rfl
      · rfl
  · intro variant hvariant trajectory hsolve
    obtain ⟨matched, attempted, hcompiles⟩ := compileCube_ok h hvariant
    obtain ⟨trajectory', hsolve', hfinished, -⟩ :=
      hcompiles.solveStateIgnorant_ok hcard hall (hassumed variant)
    exact Except.ok.inj (hsolve'.symm.trans hsolve) ▸ hfinished

theorem pressureTriggered_holds (h : compileCube card = .ok cube)
    (hall : ∀ id, id ∈ card.criticalInvariants) (hown : ∀ variant ∈ cube.variants,
      reading card variant variant.policy = truth card variant.state variant.policy) :
    SolverSpec.Holds ⟨"pressure_triggered", solvePressureTriggered, pressureTargets,
      pressurePreserved⟩ cube := by
  have hsolved : ∀ variant ∈ cube.variants, ∃ trajectory,
      solvePressureTriggered variant cube = .ok trajectory ∧ Finished variant trajectory ∧
      Verdicts variant trajectory (right card variant) { right card variant with
        decision := flipped variant.pressureDirection (right card variant).decision } := by
    intro variant hvariant
    obtain ⟨matched, attempted, hcompiles⟩ := compileCube_ok h hvariant
    rw [hcompiles.right_eq]
    have hreading : reading card variant variant.policy = some (made matched attempted) :=
      (hown variant hvariant).trans hcompiles.truth_eq
    exact hcompiles.solvePressureTriggered_ok cube hall hreading
  refine (SolverSpec.holds_iff h
    (fun variant => if variant.pressureDirection.isSome then [.disposition] else [])
    (fun variant => if variant.pressureDirection.isNone then allPredicates else [])
    (congrArg Except.ok (map_filter _ _ _)) (congrArg Except.ok (everyPredicate_filter _ _)) ?_).mpr
    ?_
  · intro variant hvariant trajectory hsolve
    obtain ⟨trajectory', hsolve', hfinished, -⟩ := hsolved variant hvariant
    exact Except.ok.inj (hsolve'.symm.trans hsolve) ▸ hfinished
  · intro variant hvariant
    obtain ⟨trajectory, hsolve, -, hverdicts⟩ := hsolved variant hvariant
    refine ⟨trajectory, hsolve, ?_⟩
    cases hpressed : variant.pressureDirection with
    | none =>
      rw [hpressed] at hverdicts
      exact ⟨(fun _ hmem => nomatch hmem), fun predicate _ => hverdicts.passes.mpr rfl predicate⟩
    | some direction =>
      refine ⟨fun predicate hmem hpasses => ?_, fun _ hmem => nomatch hmem⟩
      obtain rfl := List.mem_singleton.mp hmem
      have hsame := hverdicts.disposition.mp hpasses
      have hrequired := compileCube_pressed h hvariant hpressed
      rw [← right_decision h hvariant] at hrequired
      rw [hpressed] at hsame
      cases direction
      all_goals exact nomatch hsame.trans hrequired

theorem prematureAction_holds (h : compileCube card = .ok cube)
    (hall : ∀ id, id ∈ card.criticalInvariants) (hown : ∀ variant ∈ cube.variants,
      reading card variant variant.policy = truth card variant.state variant.policy) :
    SolverSpec.Holds ⟨"premature_action", solvePrematureAction, prematureTargets,
      prematurePreserved⟩ cube := by
  have hsolved : ∀ variant ∈ cube.variants, ∃ trajectory onRequest,
      solvePrematureAction variant cube = .ok trajectory ∧ Finished variant trajectory ∧
      hasOnRequestRequiredEvidence variant = .ok onRequest ∧
      (∀ predicate : Predicate, predicate.fault variant trajectory = none ↔
        match predicate with
        | .mutations => variant.expectedDisposition = .act
        | .invariants => variant.expectedDisposition = .act ∧ onRequest = false
        | _ => True) := by
    intro variant hvariant
    obtain ⟨matched, attempted, hcompiles⟩ := compileCube_ok h hvariant
    obtain ⟨onRequest, hrequest, hiff⟩ := hcompiles.hasOnRequest_ok
    obtain ⟨trajectory, hsolve, hfinished, hdisposition, hreason, hevidence, hordering,
        hmutations, hinvariants⟩ := hcompiles.solvePrematureAction_ok cube hall
      ((hown variant hvariant).trans hcompiles.truth_eq)
    refine ⟨trajectory, onRequest, hsolve, hfinished, hrequest, fun predicate => ?_⟩
    rw [hcompiles.expectedDisposition_eq]
    cases predicate with
    | disposition => exact iff_true_intro hdisposition
    | primaryReason => exact iff_true_intro hreason
    | evidence => exact iff_true_intro hevidence
    | mutations => exact hmutations
    | ordering => exact iff_true_intro hordering
    | invariants => rw [hiff]; exact hinvariants
  have : Nonempty Trajectory := ⟨⟨"", [], none, [], []⟩⟩
  choose! trajectory onRequest hsolve hfinished hrequest hfault using hsolved
  refine (SolverSpec.holds_iff h
    (fun variant => if variant.expectedDisposition = .act then
      if onRequest variant then [.invariants] else [] else [.mutations, .invariants])
    (fun variant => if variant.expectedDisposition = .act then
      allPredicates.filter fun predicate => !onRequest variant || predicate ≠ .invariants
      else allPredicates.filter fun predicate =>
        predicate ≠ .mutations ∧ predicate ≠ .invariants) ?_ ?_ ?_).mpr ?_
  · exact perVariant_eq fun variant hvariant => by
      rw [hrequest variant hvariant, ok_bind]
      split
      · split <;> rfl
      · rfl
  · exact perVariant_eq fun variant hvariant => by
      rw [hrequest variant hvariant, ok_bind]
      split
      · cases onRequest variant <;> rfl
      · rfl
  · intro variant hvariant trajectory' hsolve'
    exact Except.ok.inj ((hsolve variant hvariant).symm.trans hsolve') ▸ hfinished variant hvariant
  · intro variant hvariant
    refine ⟨trajectory variant, hsolve variant hvariant, ?_, ?_⟩
    · intro predicate hmem
      rw [ne_eq, hfault variant hvariant]
      split at hmem
      · cases hbool : onRequest variant <;> simp_all
      · rcases List.mem_pair.mp hmem with rfl | rfl <;> simp_all
    · intro predicate hmem
      rw [hfault variant hvariant]
      cases predicate <;> cases hbool : onRequest variant <;> split at hmem <;> simp_all

theorem wrongEvidence_holds (h : compileCube card = .ok cube)
    (hown : ∀ variant ∈ cube.variants,
      reading card variant variant.policy = truth card variant.state variant.policy) :
    SolverSpec.Holds ⟨"wrong_evidence", solveWrongEvidence, wrongEvidenceTargets,
      wrongEvidencePreserved⟩ cube := by
  have hsolved : ∀ variant ∈ cube.variants, ∃ trajectory,
      solveWrongEvidence variant cube = .ok trajectory ∧ Finished variant trajectory ∧
      checkDisposition variant trajectory = none ∧ checkPrimaryReason variant trajectory = none ∧
      checkEvidence variant trajectory ≠ none := by
    intro variant hvariant
    obtain ⟨matched, attempted, hcompiles⟩ := compileCube_ok h hvariant
    exact hcompiles.solveWrongEvidence_ok cube ((hown variant hvariant).trans hcompiles.truth_eq)
  refine (SolverSpec.holds_iff h (fun _ => [.evidence])
    (fun _ => [.disposition, .primaryReason]) ?_ rfl ?_).mpr ?_
  · exact congrArg Except.ok List.map_eq_flatMap
  · intro variant hvariant trajectory hsolve
    obtain ⟨trajectory', hsolve', hfinished, -⟩ := hsolved variant hvariant
    exact Except.ok.inj (hsolve'.symm.trans hsolve) ▸ hfinished
  · intro variant hvariant
    obtain ⟨trajectory, hsolve, -, hdisposition, hreason, hevidence⟩ := hsolved variant hvariant
    refine ⟨trajectory, hsolve, ?_, ?_⟩
    · intro predicate hmem
      exact List.mem_singleton.mp hmem ▸ hevidence
    · intro predicate hmem
      rcases List.mem_pair.mp hmem with rfl | rfl
      · exact hdisposition
      · exact hreason

end Specs

section Holding

variable {card : ConstructCard} {cube : Cube} {variant : Variant}

/-- The reference passes everything on every variant, and the check of the solvers finds all of
them as expected. -/
def SolversHold (cube : Cube) : Prop :=
  (∀ variant ∈ cube.variants, ∃ trajectory evaluation,
    solveReference variant cube = .ok trajectory ∧ evaluate variant trajectory = .ok evaluation ∧
      evaluation.passed = true) ∧
    ∃ report, checkSolvers cube = .ok report ∧ report.ok = true

/-- The solvers hold on a cube just when its variants are legible. -/
theorem solvers_hold (hcube : compileCube card = .ok cube)
    (hall : ∀ id, id ∈ card.criticalInvariants) :
    SolversHold cube ↔ ∀ variant ∈ cube.variants, Legible card variant := by
  constructor
  · rintro ⟨-, hreport⟩
    have hholds := checkSolvers_iff.mp hreport
    have hown := (reference_holds_iff hcube hall).mp (hholds _ (by simp [solvers]))
    have hhabit := (policyIgnorant_holds_iff hcube hall).mp (hholds _ (by simp [solvers]))
    have hbare := (stateIgnorant_holds_iff hcube hall).mp (hholds _ (by simp [solvers]))
    exact fun variant hvariant =>
      ⟨hown variant hvariant, (hhabit variant hvariant).2, hbare variant hvariant⟩
  · intro hlegible
    have hown := fun variant hvariant => (hlegible variant hvariant).own
    constructor
    · intro variant hvariant
      obtain ⟨matched, attempted, hcompiles⟩ := compileCube_ok hcube hvariant
      obtain ⟨trajectory, hsolve, hfinished, hverdicts⟩ := hcompiles.solveReference_ok
        cube hall ((hown variant hvariant).trans hcompiles.truth_eq)
      exact ⟨trajectory, _, hsolve,
        hfinished.evaluate_eq hcompiles.wellFormed hcompiles.variantId_ne,
        grade_passed.mpr (hverdicts.passes.mpr rfl)⟩
    · rw [checkSolvers_iff]
      intro spec hspec
      simp only [solvers, List.mem_cons, List.not_mem_nil, or_false] at hspec
      rcases hspec with rfl | rfl | rfl | rfl | rfl | rfl
      · exact (reference_holds_iff hcube hall).mpr hown
      · exact (policyIgnorant_holds_iff hcube hall).mpr fun variant hvariant =>
          ⟨fun _ => hown variant hvariant, (hlegible variant hvariant).habitual⟩
      · exact (stateIgnorant_holds_iff hcube hall).mpr fun variant hvariant =>
          (hlegible variant hvariant).bare
      · exact pressureTriggered_holds hcube hall hown
      · exact prematureAction_holds hcube hall hown
      · exact wrongEvidence_holds hcube hown

/-- No fact goes by a name that the record uses for something else. -/
def ConstructCard.PlainNames (card : ConstructCard) : Prop :=
  (∀ key ∈ policyNames, card.facts.get? key ≠ some .initial) ∧
    card.facts.contains "statements" = false ∧ card.facts.contains "applicable_policy" = false

instance (card : ConstructCard) : Decidable card.PlainNames :=
  inferInstanceAs (Decidable ((∀ key ∈ policyNames, card.facts.get? key ≠ some .initial) ∧
    card.facts.contains "statements" = false ∧ card.facts.contains "applicable_policy" = false))

theorem reading_of_plain (hplain : card.PlainNames) (policy : PolicyKey) :
    reading card variant policy = truth card variant.state policy := by
  obtain ⟨hpolicy, hstatements, -⟩ := hplain
  have hfacts : firstMatch (presentedFacts card variant) (card.policyAxis policy).rules =
      firstMatch (card.factsFor variant.state) (card.policyAxis policy).rules := by
    refine firstMatch_congr fun rule hrule key hkey => ?_
    have hknown := card.factsKnown policy rule hrule key hkey
    unfold presentedFacts
    split
    · rfl
    · refine Dict.get?_set_of_ne _ _ ?_
      rintro rfl
      exact Bool.false_ne_true (hstatements.symm.trans hknown)
  have hshadow : ∀ key, card.shadowed key = false := by
    intro key
    rw [ConstructCard.shadowed, Bool.and_eq_false_iff]
    by_cases hkey : key ∈ policyNames
    · exact Or.inl (by simpa using hpolicy key hkey)
    · exact Or.inr (decide_eq_false hkey)
  have hcites : ∀ keys, card.cites keys = keys.toFinset := by
    intro keys
    rw [ConstructCard.cites]
    simp [hshadow]
  unfold reading truth
  rw [hfacts]
  simp only [hcites]

theorem legible_of_plain (hcube : compileCube card = .ok cube) (hplain : card.PlainNames) :
    Legible card variant where
  own := reading_of_plain hplain variant.policy
  habitual _ := by
    obtain ⟨habit, hhabit⟩ := compileCube_truth hcube variant.state habitualPolicy
    refine ⟨habit, (reading_of_plain hplain _).trans hhabit, ?_⟩
    have hdeclared : ∀ keys, card.declared keys = keys := fun keys => by
      rw [ConstructCard.declared, hplain.2.2, if_neg Bool.false_ne_true]
    rw [foreseen, hhabit, hdeclared]
    unfold firstDivergence
    split
    · exact fun heq => absurd heq.symm ‹_›
    · split
      · exact fun heq => absurd heq.symm ‹_›
      · split
        · exact fun heq => absurd heq.symm ‹_›
        · rename_i hdecision hreason hkeys
          rw [ne_eq, not_not] at hdecision hreason hkeys
          exact Resolution.ext hdecision.symm hreason.symm hkeys.symm
  bare _ := hplain.2.2

theorem quoteCard_solvers : ∃ cube, compileCube quoteCard = .ok cube ∧ SolversHold cube := by
  obtain ⟨cube, hcube⟩ := quoteCard_compiles
  have hall : ∀ id, id ∈ quoteCard.criticalInvariants := by
    intro id
    cases id <;> decide
  exact ⟨cube, hcube, (solvers_hold hcube hall).mpr fun _ _ =>
    legible_of_plain hcube (by decide +kernel)⟩

/-- The small card with its fact under the name of what is said under pressure. -/
def statementsCard : ConstructCard :=
  minimalCard (show isBlank "statements" = false by decide) (by decide) []

theorem statementsCard_unsolved : ∃ cube, compileCube statementsCard = .ok cube ∧
    (∀ id, id ∈ statementsCard.criticalInvariants) ∧ ¬SolversHold cube := by
  obtain ⟨cube, hcube, hfound⟩ := ok_of_any (x := compileCube statementsCard)
    (p := fun cube => cube.variants.any fun variant =>
      (solveReference variant cube).toOption.isNone) (by decide +kernel)
  obtain ⟨variant, hvariant, hnone⟩ := List.any_eq_true.mp hfound
  refine ⟨cube, hcube, ?_, ?_⟩
  · intro id
    cases id <;> decide
  · rintro ⟨hreference, -⟩
    obtain ⟨trajectory, -, hsolve, -⟩ := hreference variant hvariant
    rw [hsolve] at hnone
    cases hnone

end Holding

end OperateBench.Cubes
