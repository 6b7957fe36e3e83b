import OperateBench.Cubes.Solved

/-! # Checking the solvers

What the report on the solvers says of one solver: its trajectories fail where the card lets
them be expected to fail, and pass where they are expected to pass, variant by variant.
-/

namespace OperateBench.Cubes

open Foundation

section Grading

/-- What a predicate finds wrong with a trajectory. -/
def Predicate.fault : Predicate → Variant → Trajectory → Option Fault
  | disposition => checkDisposition
  | primaryReason => checkPrimaryReason
  | evidence => checkEvidence
  | mutations => checkMutations
  | ordering => checkOrdering
  | invariants => checkInvariants

theorem mem_allPredicates (predicate : Predicate) : predicate ∈ allPredicates := by
  cases predicate <;> decide

/-- The evaluation of a trajectory that every predicate can read. -/
def grade (variant : Variant) (trajectory : Trajectory) : VariantEvaluation :=
  ⟨variant.variantId, checks.map fun check => ⟨check.1, check.2 variant trajectory⟩⟩

variable {cube : Cube} {variant : Variant} {trajectory : Trajectory} {solve : Solver}

theorem grade_predicate (predicate : Predicate) : (grade variant trajectory).predicate predicate =
    some ⟨predicate, predicate.fault variant trajectory⟩ := by
  cases predicate <;> rfl

theorem grade_passes {predicate : Predicate} :
    (grade variant trajectory).passes predicate = true ↔
      predicate.fault variant trajectory = none := by
  cases predicate <;> simp [grade, checks, VariantEvaluation.passes, PredicateResult.passed,
    Predicate.fault]

theorem grade_passed : (grade variant trajectory).passed = true ↔
    ∀ predicate : Predicate, predicate.fault variant trajectory = none := by
  rw [VariantEvaluation.passed, List.all_eq_true]
  constructor
  · intro h predicate
    have hpassed := h ⟨predicate, predicate.fault variant trajectory⟩
      (by cases predicate <;> simp [grade, checks, Predicate.fault])
    exact Option.isNone_iff_eq_none.mp hpassed
  · intro h result hresult
    obtain ⟨check, hcheck, rfl⟩ := List.mem_map.mp hresult
    simp only [checks, List.mem_cons, List.not_mem_nil, or_false] at hcheck
    rcases hcheck with rfl | rfl | rfl | rfl | rfl | rfl
    · exact Option.isNone_iff_eq_none.mpr (h .disposition)
    · exact Option.isNone_iff_eq_none.mpr (h .primaryReason)
    · exact Option.isNone_iff_eq_none.mpr (h .evidence)
    · exact Option.isNone_iff_eq_none.mpr (h .mutations)
    · exact Option.isNone_iff_eq_none.mpr (h .ordering)
    · exact Option.isNone_iff_eq_none.mpr (h .invariants)

theorem Finished.evaluate_eq (h : Finished variant trajectory) (hwf : variant.WellFormed)
    (hnamed : variant.variantId ≠ "") :
    evaluate variant trajectory = .ok (grade variant trajectory) := by
  obtain ⟨env, decision, hrunning, rfl⟩ := h
  exact hrunning.evaluate_eq hwf hnamed

theorem graded_eq (hsolve : solve variant cube = .ok trajectory)
    (hevaluate : evaluate variant trajectory = .ok (grade variant trajectory)) :
    graded solve cube variant = .ok (grade variant trajectory) := by
  rw [graded, hsolve, ok_bind, hevaluate]

end Grading

section Verdicts

variable {byVariant : Dict String VariantEvaluation} {targets : List Target}

/-- The targets with a verdict are all that have it. -/
theorem withVerdict_ok (passed : Bool) (h : ∀ target ∈ targets, ∃ b, verdict byVariant target = .ok b) :
    ∃ found, withVerdict byVariant passed targets = .ok found ∧
      (found.isEmpty = true ↔ ∀ target ∈ targets, verdict byVariant target = .ok !passed) := by
  choose! b hb using h
  refine ⟨((targets.zip (targets.map b)).filter fun e => e.2 = passed).map Prod.fst, ?_, ?_⟩
  · rw [withVerdict, mapM_eq_map hb]
    rfl
  · have hzip : targets.zip (targets.map b) = targets.map fun target => (target, b target) := by
      simpa using List.zip_map' (f := id) (g := b) (l := targets)
    rw [List.isEmpty_iff, List.map_eq_nil_iff, List.filter_eq_nil_iff, hzip, List.forall_mem_map]
    refine forall₂_congr fun target htarget => ?_
    rw [hb target htarget, decide_eq_true_eq, Except.ok.injEq]
    cases b target <;> cases passed <;> simp

end Verdicts

section Expected

/-- The targets that name predicates of every variant. -/
def expected (cube : Cube) (predicates : Variant → List Predicate) : List Target :=
  cube.variants.flatMap fun variant =>
    (predicates variant).map fun predicate => (variant.variantId, predicate)

variable {cube : Cube} {predicates : Variant → List Predicate}

theorem perVariant_eq {targets : Variant → Except SolverError (List Target)}
    (h : ∀ variant ∈ cube.variants, targets variant =
      .ok ((predicates variant).map fun predicate => (variant.variantId, predicate))) :
    perVariant cube targets = .ok (expected cube predicates) := by
  rw [perVariant, mapM_eq_map h, expected, List.flatMap_def]
  rfl

theorem everyPredicate_filter (p : Variant → Bool) (variants : List Variant) :
    everyPredicate (variants.filter p) = variants.flatMap fun variant =>
      (if p variant then allPredicates else []).map fun predicate =>
        (variant.variantId, predicate) := by
  induction variants with
  | nil => rfl
  | cons variant variants ih =>
    rw [List.flatMap_cons, ← ih, List.filter_cons]
    cases p variant <;> simp [everyPredicate]

theorem map_filter (p : Variant → Bool) (predicate : Predicate) (variants : List Variant) :
    ((variants.filter p).map fun variant => (variant.variantId, predicate)) =
      variants.flatMap fun variant => (if p variant then [predicate] else []).map
        fun predicate => (variant.variantId, predicate) := by
  induction variants with
  | nil => rfl
  | cons variant variants ih =>
    rw [List.flatMap_cons, ← ih, List.filter_cons]
    cases p variant <;> simp

end Expected

section Checking

variable {cube : Cube} {spec : SolverSpec} {trajectory : Variant → Trajectory}
  {failing passing : Variant → List Predicate}

/-- A solver does what is expected of it: it fails where it is to fail and passes where it is to
pass. -/
theorem checkSolver_ok (hids : (cube.variants.map Variant.variantId).Nodup)
    (hsolve : ∀ variant ∈ cube.variants, spec.solve variant cube = .ok (trajectory variant))
    (hevaluate : ∀ variant ∈ cube.variants, evaluate variant (trajectory variant) =
      .ok (grade variant (trajectory variant)))
    (htargets : spec.targets cube = .ok (expected cube failing))
    (hpreserved : spec.preserved cube = .ok (expected cube passing)) :
    ∃ outcome, checkSolver cube spec = .ok outcome ∧ (outcome.satisfied = true ↔
      ∀ variant ∈ cube.variants,
        (∀ predicate ∈ failing variant, predicate.fault variant (trajectory variant) ≠ none) ∧
        ∀ predicate ∈ passing variant, predicate.fault variant (trajectory variant) = none) := by
  let evaluations := cube.variants.map fun variant => grade variant (trajectory variant)
  let byVariant := Dict.ofList (evaluations.map fun e => (e.variantId, e))
  have hverdict : ∀ variant ∈ cube.variants, ∀ predicate : Predicate,
      verdict byVariant (variant.variantId, predicate) =
        .ok (predicate.fault variant (trajectory variant)).isNone := by
    intro variant hvariant predicate
    have hfound : byVariant.get? variant.variantId = some (grade variant (trajectory variant)) := by
      refine Dict.get?_ofList ?_ ?_
      · rw [List.map_map, List.map_map]
        exact hids
      · exact List.mem_map_of_mem (f := fun e : VariantEvaluation => (e.variantId, e))
          (List.mem_map_of_mem hvariant)
    rw [verdict, hfound, Option.bind_some, grade_predicate]
    rfl
  have hmem : ∀ {predicates : Variant → List Predicate} {p : Bool → Prop},
      (∀ target ∈ expected cube predicates, ∃ b, verdict byVariant target = .ok b ∧ p b) ↔
        ∀ variant ∈ cube.variants, ∀ predicate ∈ predicates variant,
          p (predicate.fault variant (trajectory variant)).isNone := by
    intro predicates p
    constructor
    · intro h variant hvariant predicate hpredicate
      obtain ⟨b, hb, hp⟩ := h _ (List.mem_flatMap.mpr
        ⟨variant, hvariant, List.mem_map_of_mem hpredicate⟩)
      rw [hverdict variant hvariant] at hb
      exact Except.ok.inj hb ▸ hp
    · intro h target htarget
      obtain ⟨variant, hvariant, htarget⟩ := List.mem_flatMap.mp htarget
      obtain ⟨predicate, hpredicate, rfl⟩ := List.mem_map.mp htarget
      exact ⟨_, hverdict variant hvariant predicate, h variant hvariant predicate hpredicate⟩
  have hany : ∀ predicates : Variant → List Predicate,
      ∀ target ∈ expected cube predicates, ∃ b, verdict byVariant target = .ok b := by
    intro predicates target htarget
    obtain ⟨b, hb, -⟩ := (hmem (p := fun _ => True)).mpr (fun _ _ _ _ => trivial) target htarget
    exact ⟨b, hb⟩
  obtain ⟨passedTargets, hpassed, hfails⟩ := withVerdict_ok true (hany failing)
  obtain ⟨brokenTargets, hbroken, hpasses⟩ := withVerdict_ok false (hany passing)
  refine ⟨⟨spec.name, evaluations, passedTargets, brokenTargets⟩, ?_, ?_⟩
  · have hgraded : cube.variants.mapM (graded spec.solve cube) = .ok evaluations :=
      mapM_eq_map fun variant hvariant =>
        graded_eq (hsolve variant hvariant) (hevaluate variant hvariant)
    rw [checkSolver, hgraded, ok_bind, htargets, ok_bind, hpassed, ok_bind, hpreserved, ok_bind,
      hbroken]
    rfl
  · have hverdicts : ∀ (predicates : Variant → List Predicate) (b : Bool),
        (∀ target ∈ expected cube predicates, verdict byVariant target = .ok b) ↔
          ∀ variant ∈ cube.variants, ∀ predicate ∈ predicates variant,
            (predicate.fault variant (trajectory variant)).isNone = b := by
      intro predicates b
      rw [← hmem (p := fun b' => b' = b)]
      simp
    rw [SolverOutcome.satisfied, Bool.and_eq_true, hfails, hpasses, hverdicts, hverdicts]
    simp only [Bool.not_true, Bool.not_false, Option.isNone_eq_false_iff,
      Option.isNone_iff_eq_none, Option.isSome_iff_ne_none]
    exact ⟨fun h variant hvariant => ⟨h.1 variant hvariant, h.2 variant hvariant⟩,
      fun h => ⟨fun variant hvariant => (h variant hvariant).1,
        fun variant hvariant => (h variant hvariant).2⟩⟩

theorem solve_of_checkSolver {outcome : SolverOutcome} (h : checkSolver cube spec = .ok outcome)
    {variant : Variant} (hvariant : variant ∈ cube.variants) :
    ∃ trajectory, spec.solve variant cube = .ok trajectory := by
  obtain ⟨evaluations, hgraded, -⟩ := bind_ok h
  obtain ⟨evaluation, -, hone⟩ := exists_of_mapM hgraded hvariant
  obtain ⟨trajectory, hsolve, -⟩ := bind_ok hone
  exact ⟨trajectory, hsolve⟩

/-- A solver is checked, and does what is expected of it. -/
def SolverSpec.Holds (spec : SolverSpec) (cube : Cube) : Prop :=
  ∃ outcome, checkSolver cube spec = .ok outcome ∧ outcome.satisfied = true

theorem checkSolvers_iff : (∃ report, checkSolvers cube = .ok report ∧ report.ok = true) ↔
    ∀ spec ∈ solvers, spec.Holds cube := by
  constructor
  · rintro ⟨report, hreport, hok⟩ spec hspec
    obtain ⟨outcomes, hmapM, hreport⟩ := bind_ok hreport
    obtain rfl := pure_ok hreport
    obtain ⟨outcome, houtcome, hcheck⟩ := exists_of_mapM hmapM hspec
    exact ⟨outcome, hcheck, List.all_eq_true.mp hok outcome houtcome⟩
  · intro h
    have : Nonempty SolverOutcome := ⟨⟨"", [], [], []⟩⟩
    choose! outcome hcheck hsatisfied using h
    refine ⟨⟨cube.card.cubeId, solvers.map outcome⟩, ?_, ?_⟩
    · rw [checkSolvers, mapM_eq_map hcheck]
      rfl
    · rw [SolverReport.ok, List.all_eq_true]
      rintro _ hmem
      obtain ⟨spec, hspec, rfl⟩ := List.mem_map.mp hmem
      exact hsatisfied spec hspec

end Checking

end OperateBench.Cubes
