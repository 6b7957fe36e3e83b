import OperateBench.Cubes.Investigation
import OperateBench.Cubes.Verdicts

/-! # What the solvers do on a variant

Every solver opens the case, walks some rules and decides. The verdicts on its trajectory are
those on a decision, a reason and the facts that were cited, compared with what the compiler
made of the card.
-/

namespace OperateBench.Cubes

open Foundation

section Readings

/-- The facts that a walk cites: not those that a name of the policy hides. -/
def ConstructCard.cites (card : ConstructCard) (keys : List String) : Finset String :=
  (keys.filter fun key => !card.shadowed key).toFinset

/-- What the rules come to on the facts that the record presents. -/
def reading (card : ConstructCard) (variant : Variant) (policy : PolicyKey) : Option Resolution :=
  match firstMatch (presentedFacts card variant) (card.policyAxis policy).rules with
  | .ok (some (rule, keys)) => some ⟨rule.decision, rule.primaryReason, card.cites keys⟩
  | _ => none

/-- What the rules come to on the facts of the state. -/
def truth (card : ConstructCard) (state : StateKey) (policy : PolicyKey) : Option Resolution :=
  match firstMatch (card.factsFor state) (card.policyAxis policy).rules with
  | .ok (some (rule, keys)) => some ⟨rule.decision, rule.primaryReason, keys.toFinset⟩
  | _ => none

end Readings

section Opening

variable {card : ConstructCard} {variant : Variant} {matched : Rule} {attempted : List Rule}
  {env : Environment}

theorem Surveyed.running (h : Surveyed variant env) : Running variant env := ⟨h.genuine, h.isOpen⟩

namespace Compiles

variable (h : Compiles card variant matched attempted)

include h

/-- The case as it is once its records were read. -/
theorem opened_ok : ∃ env, opened variant = .ok env ∧ Surveyed variant env ∧ env.mutations = [] ∧
    env.observed = Environment.addNew []
      (variant.initialObservations.map Observation.observationId) := by
  have hwf := h.wellFormed
  have hrecord : Environment.record { variant } readAction Dict.empty variant.initialObservations
      [] = .ok _ := record_ok hwf.readAllowed rfl
  refine ⟨_, ?_, ⟨.step .start rfl (.read rfl), rfl, ?_⟩, rfl, rfl⟩
  · rw [opened, Environment.readRecords, hrecord]
    rfl
  · intro o ho
    exact mem_addNew.mpr (Or.inr (List.mem_map_of_mem ho))

theorem policyObservation_eq (hsurveyed : Surveyed variant env) :
    policyObservation env = .ok (policyOf card variant) := by
  have hvariant := hsurveyed.genuine.variant_eq
  have hseen : policyOf card variant ∈ env.observations :=
    List.mem_filter.mpr ⟨hvariant ▸ h.policy_mem,
      decide_eq_true (hsurveyed.seen h.policy_mem rfl)⟩
  have hsome : (env.observations.find? fun o => o.source = .activePolicy).isSome = true :=
    List.find?_isSome.mpr ⟨_, hseen, rfl⟩
  obtain ⟨o, ho⟩ := Option.isSome_iff_exists.mp hsome
  have hmem := List.mem_of_mem_filter (List.mem_of_find?_eq_some ho)
  have hsource := of_decide_eq_true (List.find?_some
    (p := fun o : Observation => decide (o.source = .activePolicy)) ho)
  rw [policyObservation, ho, (h.policy_unique (hvariant ▸ hmem)).mp hsource]

theorem presentedRules_eq (hsurveyed : Surveyed variant env) :
    presentedRules env = .ok (card.policyAxis variant.policy).rules := by
  have hrules : ((policyOf card variant).fact.get? "rules").bind Datum.iterate? =
      some ((card.policyAxis variant.policy).rules.map Rule.asDatum) := rfl
  rw [presentedRules, h.policyObservation_eq hsurveyed, ok_bind, hrules]
  simp only [rules_ofDatum_asDatum]
  rfl

/-- Applying rules to the record is first-match evaluation over what it presents. -/
theorem apply_eq (hsurveyed : Surveyed variant env) (policy : PolicyKey) :
    match firstMatch (presentedFacts card variant) (card.policyAxis policy).rules with
    | .error e => apply env (card.policyAxis policy).rules none = .error (.schema e)
    | .ok none => apply env (card.policyAxis policy).rules none = .error .uncovered
    | .ok (some (rule, keys)) => ∃ walk, apply env (card.policyAxis policy).rules none =
        .ok (rule, walk) ∧ Investigates card variant walk ∧
        (∀ key, key ∈ walk.asked ↔ key ∈ keys) ∧ walk.env.mutations = env.mutations ∧
        env.steps <+: walk.env.steps := by
  have hhandle : policyHandle env = .ok (policyOf card variant).observationId := by
    rw [policyHandle, h.policyObservation_eq hsurveyed]
    rfl
  have hstart : Investigates card variant
      ⟨[], [(policyOf card variant).observationId], env⟩ :=
    ⟨hsurveyed, (fun _ h => nomatch h), (fun _ h => nomatch h), List.nodup_singleton _,
      fun id => by simp⟩
  have hwalk := h.walkRules_eq hstart (card.factsKnown policy)
  have happly : apply env (card.policyAxis policy).rules none =
      walkRules none ⟨[], [(policyOf card variant).observationId], env⟩
        (card.policyAxis policy).rules := by
    rw [apply, hhandle]
    rfl
  rw [happly]
  revert hwalk
  cases firstMatch (presentedFacts card variant) (card.policyAxis policy).rules with
  | error e => exact fun hwalk => hwalk
  | ok found =>
    cases found with
    | none => exact fun hwalk => hwalk
    | some found =>
      rintro ⟨walk, hwalk, hinvestigates, hasks⟩
      exact ⟨walk, hwalk, hinvestigates, fun key => (hasks.asked key).trans (by simp),
        hasks.mutations, hasks.steps⟩

/-- The walk comes to what the rules come to on the record. -/
theorem apply_reading (hsurveyed : Surveyed variant env) {policy : PolicyKey}
    {resolved : Resolution} (hreading : reading card variant policy = some resolved) :
    ∃ rule walk keys, apply env (card.policyAxis policy).rules none = .ok (rule, walk) ∧
      resolved = ⟨rule.decision, rule.primaryReason, card.cites keys⟩ ∧
      Investigates card variant walk ∧ (∀ key, key ∈ walk.asked ↔ key ∈ keys) ∧
      walk.env.mutations = env.mutations ∧ env.steps <+: walk.env.steps := by
  have happly := h.apply_eq hsurveyed policy
  unfold reading at hreading
  split at hreading
  · rename_i rule keys hfound
    rw [hfound] at happly
    obtain ⟨walk, hwalk, hrest⟩ := happly
    exact ⟨rule, walk, keys, hwalk, (Option.some.inj hreading).symm, hrest⟩
  · cases hreading

theorem reading_of_apply (hsurveyed : Surveyed variant env) {policy : PolicyKey}
    {result : Rule × Walk}
    (happly : apply env (card.policyAxis policy).rules none = .ok result) :
    ∃ resolved, reading card variant policy = some resolved := by
  have hcases := h.apply_eq hsurveyed policy
  unfold reading
  split
  · exact ⟨_, rfl⟩
  · rename_i hnone
    revert hcases
    cases hfound : firstMatch (presentedFacts card variant) (card.policyAxis policy).rules with
    | error e =>
      intro hcases
      rw [hcases] at happly
      cases happly
    | ok found =>
      cases found with
      | none =>
        intro hcases
        rw [hcases] at happly
        cases happly
      | some found => exact absurd hfound (hnone found.1 found.2)

theorem truth_eq : truth card variant.state variant.policy = some ⟨matched.decision,
    matched.primaryReason, (attempted.flatMap Rule.referencedFacts).toFinset⟩ := by
  rw [truth, h.firstMatch_eq]

theorem needed_known {key : String} (hkey : key ∈ attempted.flatMap Rule.referencedFacts) :
    card.facts.contains key = true := by
  obtain ⟨walked, hwalked, -, hkeys⟩ := attempted_of_firstMatch h.firstMatch_eq
  obtain ⟨rule, hrule, hkey⟩ := List.mem_flatMap.mp hkey
  refine card.factsKnown variant.policy rule ?_ key hkey
  obtain rfl := Except.ok.inj (h.walked.symm.trans hwalked)
  exact attempted_subset h.walked hrule

/-- The citations are the required evidence when they are for the same facts. -/
theorem cited_iff {walk : Walk} {keys : List String} (hwalk : Investigates card variant walk)
    (hkeys : ∀ key, key ∈ walk.asked ↔ key ∈ keys) :
    (∀ ref, ref ∈ walk.cited ↔ ref ∈ variant.requiredEvidenceIds) ↔
      card.cites keys = (attempted.flatMap Rule.referencedFacts).toFinset := by
  have hsame : ∀ {o o' : Observation}, o ∈ variant.observations → o' ∈ variant.observations →
      o.observationId = o'.observationId → o = o' :=
    fun ho ho' => List.inj_on_of_nodup_map h.wellFormed.handles ho ho'
  have hanswer : ∀ {key : String}, card.facts.contains key = true →
      ∃ o, Answers card variant key o := by
    intro key hkey
    obtain ⟨spec, hspec⟩ := Dict.contains_iff.mp hkey
    obtain ⟨o, ho, -, -⟩ := h.answers_exists hspec
    exact ⟨o, ho⟩
  have hpolicy : ∀ {key : String} {o : Observation}, Answers card variant key o →
      o.observationId ≠ (policyOf card variant).observationId := by
    intro key o ho heq
    exact ho.source ((h.policy_unique ho.mem).mpr (hsame ho.mem h.policy_mem heq))
  rw [Finset.ext_iff]
  simp only [ConstructCard.cites, List.mem_toFinset, List.mem_filter, Bool.not_eq_true',
    hwalk.cited, h.mem_required]
  constructor
  · intro hids key
    constructor
    · rintro ⟨hkey, hshadow⟩
      have hasked := (hkeys key).mpr hkey
      obtain ⟨o, ho⟩ := hanswer (hwalk.known key hasked)
      have hcites : Cites card variant key o := by rwa [Cites, hshadow, if_neg Bool.false_ne_true]
      rcases (hids o.observationId).mp (Or.inr ⟨key, hasked, o, hcites, rfl⟩) with
        heq | ⟨key', hkey', o', ho', heq⟩
      · exact absurd heq (hpolicy ho)
      · obtain rfl := hsame ho'.mem ho.mem heq
        rwa [← ho.named, ho'.named]
    · intro hkey
      obtain ⟨o, ho⟩ := hanswer (h.needed_known hkey)
      rcases (hids o.observationId).mpr (Or.inr ⟨key, hkey, o, ho, rfl⟩) with
        heq | ⟨key', hkey', o', hcites, heq⟩
      · exact absurd heq (hpolicy ho)
      · unfold Cites at hcites
        split at hcites
        · rw [hcites] at heq
          exact absurd heq.symm (hpolicy ho)
        · rename_i hshadow
          obtain rfl := hsame hcites.mem ho.mem heq
          obtain rfl : key' = key := hcites.named.symm.trans ho.named
          exact ⟨(hkeys key').mp hkey', Bool.eq_false_iff.mpr hshadow⟩
  · intro hsets id
    constructor
    · rintro (rfl | ⟨key, hkey, o, hcites, rfl⟩)
      · exact Or.inl rfl
      · unfold Cites at hcites
        split at hcites
        · exact Or.inl (congrArg _ hcites)
        · rename_i hshadow
          exact Or.inr ⟨key, (hsets key).mp ⟨(hkeys key).mp hkey, Bool.eq_false_iff.mpr hshadow⟩,
            o, hcites, rfl⟩
    · rintro (rfl | ⟨key, hkey, o, ho, rfl⟩)
      · exact Or.inl rfl
      · obtain ⟨hmem, hshadow⟩ := (hsets key).mpr hkey
        refine Or.inr ⟨key, (hkeys key).mpr hmem, o, ?_, rfl⟩
        rwa [Cites, hshadow, if_neg Bool.false_ne_true]

theorem cites_mem {key : String} {o : Observation} (ho : Cites card variant key o) :
    o ∈ variant.observations := by
  unfold Cites at ho
  split at ho
  · exact ho ▸ h.policy_mem
  · exact ho.mem

/-- Everything that is cited is an observation that was seen. -/
theorem cited_seen {walk : Walk} (hwalk : Investigates card variant walk) {ref : String}
    (href : ref ∈ walk.cited) :
    ref ∈ variant.observations.map Observation.observationId ∧ ref ∈ walk.env.observed := by
  have hpolicy := hwalk.surveyed.seen h.policy_mem rfl
  rcases (hwalk.cited ref).mp href with rfl | ⟨key, hkey, o, ho, rfl⟩
  · exact ⟨List.mem_map_of_mem h.policy_mem, hpolicy⟩
  · refine ⟨List.mem_map_of_mem (h.cites_mem ho), ?_⟩
    unfold Cites at ho
    split at ho
    · exact ho ▸ hpolicy
    · exact hwalk.answered key hkey o ho

theorem expectedDisposition_eq : variant.expectedDisposition = matched.decision := by
  obtain ⟨_, _, heq⟩ := h.built
  exact congrArg Variant.expectedDisposition heq

theorem expectedPrimaryReason_eq : variant.expectedPrimaryReason = matched.primaryReason := by
  obtain ⟨_, _, heq⟩ := h.built
  exact congrArg Variant.expectedPrimaryReason heq

theorem expectedMutations_eq : variant.expectedMutations =
    if matched.decision = .act then card.irreversibleActions else [] := by
  obtain ⟨_, _, heq⟩ := h.built
  exact congrArg Variant.expectedMutations heq

theorem criticalInvariants_eq : variant.criticalInvariants = card.criticalInvariants := by
  obtain ⟨_, _, heq⟩ := h.built
  exact congrArg Variant.criticalInvariants heq

end Compiles

end Opening

section Deciding

variable {card : ConstructCard} {variant : Variant} {matched : Rule} {attempted : List Rule}
  {env : Environment}

/-- How a trajectory fares that decides as `actual` where `expected` is right. -/
structure Verdicts (variant : Variant) (trajectory : Trajectory) (expected actual : Resolution) :
    Prop where
  disposition : checkDisposition variant trajectory = none ↔ actual.decision = expected.decision
  primaryReason :
    checkPrimaryReason variant trajectory = none ↔ actual.primaryReason = expected.primaryReason
  evidence : checkEvidence variant trajectory = none ↔ actual.keys = expected.keys
  mutations : checkMutations variant trajectory = none ↔ actual.decision = expected.decision
  ordering : actual.keys = expected.keys → checkOrdering variant trajectory = none
  invariants : actual.keys = expected.keys → checkInvariants variant trajectory = none

theorem text_inj {d d' : Disposition} : d.text = d'.text ↔ d = d' := by
  cases d <;> cases d' <;> simp [Disposition.text]

namespace Compiles

variable (h : Compiles card variant matched attempted)

include h

/-- What the compiler made of the card at the cell of the variant. -/
theorem performed_iff (disposition : Disposition) :
    (if disposition = .act then variant.irreversibleActions else []) = variant.expectedMutations ↔
      disposition = matched.decision := by
  rw [h.expectedMutations_eq, h.irreversibleActions_eq]
  have hgiven := card.irreversibleGiven
  cases disposition <;> cases matched.decision <;> simp [hgiven, hgiven.symm]

/-- A solver that investigated and finishes is judged by what it decided and cited. -/
theorem finish_verdicts (hall : ∀ id, id ∈ card.criticalInvariants) {walk : Walk}
    {keys : List String} (hwalk : Investigates card variant walk)
    (hkeys : ∀ key, key ∈ walk.asked ↔ key ∈ keys) (hnone : walk.env.mutations = [])
    (disposition : Disposition) (primaryReason : String) :
    ∃ env', finish walk.env disposition primaryReason walk.cited = .ok
        (env'.closed ⟨disposition.text, primaryReason, [], walk.cited⟩).trajectory ∧
      Running variant env' ∧ Verdicts variant
        (env'.closed ⟨disposition.text, primaryReason, [], walk.cited⟩).trajectory
        ⟨matched.decision, matched.primaryReason,
          (attempted.flatMap Rule.referencedFacts).toFinset⟩
        ⟨disposition, primaryReason, card.cites keys⟩ := by
  have hwf := h.wellFormed
  obtain ⟨env', hfinish, hperformed⟩ :=
    hwalk.surveyed.running.finish hwf disposition primaryReason walk.cited
  obtain ⟨history, hhistory, hnames, hlater, -⟩ := hperformed.mutations
  rw [hnone, List.nil_append] at hhistory
  have hknown : ∀ ref ∈ walk.cited, ref ∈ variant.observations.map Observation.observationId :=
    fun ref href => (h.cited_seen hwalk href).1
  have hseen : ∀ ref ∈ walk.cited, ref ∈ walk.env.observed :=
    fun ref href => (h.cited_seen hwalk href).2
  have hrequired : card.cites keys = (attempted.flatMap Rule.referencedFacts).toFinset →
      ∀ ref ∈ variant.requiredEvidenceIds, ref ∈ walk.env.observed :=
    fun heq ref href => hseen ref (((h.cited_iff hwalk hkeys).mpr heq ref).mpr href)
  refine ⟨env', hfinish, hperformed.running, ?_, ?_, ?_, ?_, ?_, ?_⟩
  · rw [closed_disposition, h.expectedDisposition_eq, text_inj]
  · rw [closed_primaryReason, h.expectedPrimaryReason_eq]
  · rw [closed_evidence hwalk.distinct hknown (hperformed.observed ▸ hseen)]
    exact h.cited_iff hwalk hkeys
  · rw [closed_mutations, hhistory, hnames]
    exact h.performed_iff disposition
  · intro heq
    rw [closed_ordering hperformed.running hwf, hperformed.observed]
    exact hrequired heq
  · intro heq
    rw [closed_invariants fun id => h.criticalInvariants_eq ▸ hall id]
    refine ⟨fun e he ref href => ?_, fun hstop => ?_, hknown⟩
    · rw [hhistory] at he
      exact hperformed.running.observedBefore hwf hwalk.surveyed.running hperformed.steps
        (hlater e he) (hrequired heq ref href)
    · rw [text_inj.mp hstop] at hnames
      rw [hhistory]
      exact List.map_eq_nil_iff.mp hnames

end Compiles

end Deciding

end OperateBench.Cubes
