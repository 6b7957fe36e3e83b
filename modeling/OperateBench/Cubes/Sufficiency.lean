import OperateBench.Cubes.Report

/-! # What required evidence is good for

Everything that a compiled variant requires can be obtained, and it settles the decision. How a
fact was asked for does matter: a query that reveals it under another name shows an observation
that is not the required one.
-/

namespace OperateBench.Cubes

open Foundation

section Statements

/-- Make the calls one after the other, until one is refused. -/
def Environment.perform (env : Environment) (calls : List EnvCall) : Except Refusal Environment :=
  calls.foldlM (fun env call => (env.call call).map Prod.snd) env

/-- A call that the card permits reveals the observation in a fresh environment. -/
def Obtainable (variant : Variant) (observationId : String) : Prop :=
  ∃ o ∈ variant.observations, o.observationId = observationId ∧
    ∃ call env step, Environment.perform { variant } [call] = .ok env ∧ env.steps = [step] ∧
      step.action ∈ variant.allowedActions ∧ observationId ∈ step.revealedObservationIds

variable (card : ConstructCard) (variant : Variant)

/-- The assignment is that of the state on the facts that the required observations carry. -/
def AgreesOnEvidence (facts : FactValues) : Prop :=
  ∀ o ∈ variant.observations, o.observationId ∈ variant.requiredEvidenceIds →
    ∀ key, o.fact.contains key = true → card.facts.contains key = true →
      facts.get? key = (card.factsFor variant.state).get? key

/-- The evidence settles which rule matches first, and with it what is decided and why. -/
def Settled : Prop :=
  ∀ facts, AgreesOnEvidence card variant facts → ∃ rule keys,
    firstMatch facts (card.policyAxis variant.policy).rules = .ok (some (rule, keys)) ∧
    resolveCell card variant.state variant.policy = .ok rule ∧
    rule.decision = variant.expectedDisposition ∧
    rule.primaryReason = variant.expectedPrimaryReason

/-- The facts that first-match evaluation looks at. -/
def lookedAt : List String :=
  match attemptedRules (card.factsFor variant.state) (card.policyAxis variant.policy).rules with
  | .ok attempted => attempted.flatMap Rule.referencedFacts
  | .error _ => []

/-- The facts among them that have to be asked for. -/
def askedFor : List String :=
  (lookedAt card variant).filter fun key => card.facts.get? key ≠ some .initial

/-- One query for each fact that has to be asked for, which reveals it. -/
def Chosen (choice : String → String) : Prop :=
  ∀ key ∈ askedFor card variant, ∃ entry ∈ variant.queryRegistry.entries,
    entry.queryKey = choice key ∧ entry.outcome = .reveal key

/-- The policy, and every handle that revealed a fact that was looked at. -/
def Handles (env : Environment) (refs : List String) : Prop :=
  refs.Nodup ∧ ∀ ref, ref ∈ refs ↔ ∃ o ∈ env.observations, o.observationId = ref ∧
    (o.source = .activePolicy ∨ o.evidenceRelevant = true ∧
      ∃ key ∈ lookedAt card variant, o.fact.contains key = true)

/-- Read the records, ask the queries, do what is expected and decide as expected: the
evidence, the order and the invariants are in order. -/
def Grounds (queries : List String) : Prop :=
  ∃ env, Environment.perform { variant } (.readRecords :: queries.map .obtain) = .ok env ∧
    ∀ refs, Handles card variant env refs → ∃ last evaluation,
      env.perform (variant.expectedMutations.map .act ++ [.completeCase
        ⟨variant.expectedDisposition.text, variant.expectedPrimaryReason, [], refs⟩]) = .ok last ∧
      evaluate variant last.trajectory = .ok evaluation ∧ evaluation.passes .evidence = true ∧
      evaluation.passes .ordering = true ∧ evaluation.passes .invariants = true

/-- Required evidence can be obtained, suffices, and does not depend on the queries that were
chosen, nor on the order in which they were made. -/
def EvidenceSuffices : Prop :=
  (∀ id ∈ variant.requiredEvidenceIds, Obtainable variant id) ∧ Settled card variant ∧
    ∀ choice, Chosen card variant choice → ∀ queries,
      (∀ query, query ∈ queries ↔ ∃ key ∈ askedFor card variant, query = choice key) →
      Grounds card variant queries

end Statements

section Asking

variable {variant : Variant} {env env' : Environment} {calls more : List EnvCall}
  {entry : QueryEntry} {queries : List String}

theorem perform_append : env.perform (calls ++ more) =
    (env.perform calls).bind fun env => env.perform more := by
  rw [Environment.perform, List.foldlM_append]
  rfl

theorem perform_acts (env : Environment) (actions : List String) :
    env.perform (actions.map .act) = actions.foldlM Environment.act env := by
  have hact : ∀ (env : Environment) (action : String),
      (env.call (.act action)).map Prod.snd = env.act action := by
    intro env action
    simp only [Environment.call]
    cases env.act action <;> rfl
  simp only [Environment.perform, List.foldlM_map, hact]

/-- A query of the registry shows its observation, and nothing else. -/
theorem Surveyed.asks (h : Surveyed variant env) (hwf : variant.WellFormed)
    (hentry : entry ∈ variant.queryRegistry.entries) :
    ∃ env', env.perform [.obtain entry.queryKey] = .ok env' ∧ Surveyed variant env' ∧
      env'.mutations = env.mutations ∧ ∀ o ∈ variant.observations,
        (o.observationId ∈ env'.observed ↔ o.observationId ∈ env.observed ∨
          o.availability = .onRequest ∧ o.key = entry.queryKey) := by
  obtain ⟨target, -, -, -, hobtain, htakes, hseen⟩ := h.obtain_eq hwf hentry
  refine ⟨_, ?_, h.takes htakes (channel_ne_terminal entry.action), rfl, hseen⟩
  rw [Environment.perform, List.foldlM_cons, Environment.call, hobtain]
  rfl

/-- However the queries are ordered and repeated, their observations are seen after them. -/
theorem Surveyed.asksAll (h : Surveyed variant env) (hwf : variant.WellFormed)
    (hqueries : ∀ query ∈ queries, ∃ entry ∈ variant.queryRegistry.entries,
      entry.queryKey = query) :
    ∃ env', env.perform (queries.map .obtain) = .ok env' ∧ Surveyed variant env' ∧
      env'.mutations = env.mutations ∧ ∀ o ∈ variant.observations,
        (o.observationId ∈ env'.observed ↔ o.observationId ∈ env.observed ∨
          o.availability = .onRequest ∧ o.key ∈ queries) := by
  induction queries generalizing env with
  | nil => exact ⟨env, rfl, h, rfl, fun o _ => by simp⟩
  | cons query queries ih =>
    obtain ⟨entry, hentry, rfl⟩ := hqueries query List.mem_cons_self
    obtain ⟨next, hask, hnext, hquiet, hseen⟩ := h.asks hwf hentry
    obtain ⟨env', hrest, hlast, hstill, hsees⟩ :=
      ih hnext fun q hq => hqueries q (List.mem_cons_of_mem _ hq)
    refine ⟨env', ?_, hlast, hstill.trans hquiet, fun o ho => ?_⟩
    · rw [List.map_cons, ← List.singleton_append, perform_append, hask]
      exact hrest
    · rw [hsees o ho, hseen o ho, List.mem_cons, or_assoc, and_or_left]

end Asking

section Grounding

variable {card : ConstructCard} {variant : Variant} {matched : Rule} {attempted : List Rule}
  {env : Environment} {decision : TerminalDecision} {o : Observation} {key : String}
  {queries refs : List String}

namespace Compiles

variable (h : Compiles card variant matched attempted)

include h

theorem lookedAt_eq : lookedAt card variant = attempted.flatMap Rule.referencedFacts := by
  rw [lookedAt, h.walked]

theorem mem_askedFor : key ∈ askedFor card variant ↔ key ∈ lookedAt card variant ∧
    ∃ channel, card.facts.get? key = some (.onRequest channel) := by
  rw [askedFor, List.mem_filter, decide_eq_true_eq]
  refine and_congr_right fun hkey => ?_
  rw [h.lookedAt_eq] at hkey
  obtain ⟨spec, hspec⟩ := Dict.contains_iff.mp (h.needed_known hkey)
  rw [hspec]
  cases spec <;> simp

/-- Evidence that carries a fact is the record of it, or the answer to a query for it. -/
theorem carries (ho : o ∈ variant.observations) (hsource : o.source ≠ .activePolicy)
    (hrelevant : o.evidenceRelevant = true) (hkey : o.fact.contains key = true) :
    o.availability = .initial ∧ o.key = key ∧ card.facts.get? key = some .initial ∨
      o.availability = .onRequest ∧ ∃ entry ∈ card.queryRegistry.entries,
        entry.outcome = .reveal key ∧ o.key = entry.queryKey := by
  have hbody := h.answers_body ⟨ho, hsource, hrelevant, rfl⟩
  have hdraft := toDraft_mem_body hbody
  change o.toDraft.evidenceRelevant = true at hrelevant
  change o.toDraft.fact.contains key = true at hkey
  change o.toDraft.availability = _ ∧ o.toDraft.key = key ∧ _ ∨ o.toDraft.availability = _ ∧
    ∃ entry ∈ card.queryRegistry.entries, _ ∧ o.toDraft.key = _
  generalize o.toDraft = draft at hdraft hrelevant hkey
  rcases mem_body.mp hdraft with ⟨e, -, rfl⟩ | ⟨initial, hinitial, rfl⟩ | ⟨entry, hentry, rfl⟩
  · cases hrelevant
  · obtain rfl := List.mem_singleton.mp (Dict.contains_ofList.mp hkey)
    exact Or.inl ⟨rfl, rfl, mem_initialFacts.mp hinitial⟩
  · refine Or.inr ⟨rfl, entry, hentry, ?_, rfl⟩
    cases hreveal : entry.outcome with
    | reveal factKey =>
      simp only [queryDraft, hreveal] at hkey
      rw [show key = factKey from List.mem_singleton.mp (Dict.contains_ofList.mp hkey)]
    | _ => simp [queryDraft, hreveal, Dict.contains] at hkey

theorem obtainable {id : String} (hid : id ∈ variant.requiredEvidenceIds) :
    Obtainable variant id := by
  have hwf := h.wellFormed
  obtain ⟨o, ho, rfl⟩ : ∃ o ∈ variant.observations, o.observationId = id := by
    rcases h.mem_required.mp hid with rfl | ⟨key, -, o, ho, rfl⟩
    · exact ⟨_, h.policy_mem, rfl⟩
    · exact ⟨o, ho.mem, rfl⟩
  refine ⟨o, ho, rfl, ?_⟩
  cases havailable : o.availability with
  | initial =>
    refine ⟨.readRecords, Environment.file { variant } ⟨1, readAction, Dict.empty,
      variant.initialObservations.map Observation.observationId, []⟩, _, ?_, rfl,
      hwf.readAllowed, ?_⟩
    · rw [Environment.perform, List.foldlM_cons, Environment.call, Environment.readRecords,
        @record_ok { variant } _ _ _ _ hwf.readAllowed rfl]
      rfl
    · exact List.mem_map_of_mem (List.mem_filter.mpr ⟨ho, decide_eq_true havailable⟩)
  | onRequest =>
    obtain ⟨entry, hentry, hkey, -⟩ := hwf.registered o ho havailable
    have hfound : Environment.resolutionObservation { variant } entry.queryKey = some o := by
      rw [← hkey]
      exact Variant.WellFormed.resolution_eq hwf ho havailable
    have hregistered : variant.queryRegistry.entry entry.queryKey = some entry :=
      QueryRegistry.entry_eq_some.mpr ⟨hentry, rfl⟩
    refine ⟨.obtain entry.queryKey, Environment.file { variant } ⟨1, entry.action.action,
      Environment.factArgument entry.queryKey, [o.observationId], []⟩, _, ?_, rfl,
      hwf.offered entry hentry, ?_⟩
    · rw [Environment.perform, List.foldlM_cons, Environment.call, Environment.obtain, hregistered]
      simp only [hfound]
      rw [@record_ok { variant } _ _ _ _ (hwf.offered entry hentry) rfl]
      rfl
    · exact List.mem_singleton_self _

/-- The required evidence carries every fact that first-match evaluation looks at. -/
theorem settled : Settled card variant := by
  intro facts hagrees
  have hlooked : ∀ key ∈ attempted.flatMap Rule.referencedFacts,
      (card.factsFor variant.state).get? key = facts.get? key := by
    intro key hneeded
    have hcontains := h.needed_known hneeded
    obtain ⟨spec, hspec⟩ := Dict.contains_iff.mp hcontains
    obtain ⟨o, ho, hvalue, -⟩ := h.answers_exists hspec
    have hrequired := h.mem_required.mpr (Or.inr ⟨key, hneeded, o, ho, rfl⟩)
    exact (hagrees o ho.mem hrequired key (Dict.contains_iff.mpr ⟨_, hvalue⟩) hcontains).symm
  exact ⟨matched, _, firstMatch_of_agree h.firstMatch_eq hlooked, h.resolved,
    h.expectedDisposition_eq.symm, h.expectedPrimaryReason_eq.symm⟩

theorem opened_perform : ∃ env, Environment.perform { variant } [.readRecords] = .ok env ∧
    Surveyed variant env ∧ env.mutations = [] ∧ ∀ o ∈ variant.observations,
      (o.observationId ∈ env.observed ↔ o.availability = .initial) := by
  have hwf := h.wellFormed
  obtain ⟨env, hopened, hsurveyed, hnone, hobserved⟩ := h.opened_ok
  refine ⟨env, ?_, hsurveyed, hnone, fun o ho => ?_⟩
  · rw [opened] at hopened
    rw [Environment.perform, List.foldlM_cons, Environment.call]
    cases hread : Environment.readRecords { variant } with
    | error refusal => rw [hread] at hopened; cases hopened
    | ok read =>
      rw [hread] at hopened
      obtain rfl := Except.ok.inj hopened
      rfl
  · rw [hobserved, mem_addNew]
    constructor
    · rintro (hold | hnew)
      · cases hold
      · obtain ⟨initial, hinitial, heq⟩ := List.mem_map.mp hnew
        obtain ⟨hmem, havailable⟩ := List.mem_filter.mp hinitial
        rw [← List.inj_on_of_nodup_map hwf.handles hmem ho heq]
        exact of_decide_eq_true havailable
    · intro havailable
      exact Or.inr (List.mem_map_of_mem (List.mem_filter.mpr ⟨ho, decide_eq_true havailable⟩))

/-- After the records were read and the queries asked, their observations were seen. -/
theorem gathered (hqueries : ∀ query ∈ queries, ∃ entry ∈ variant.queryRegistry.entries,
      entry.queryKey = query) :
    ∃ env, Environment.perform { variant } (.readRecords :: queries.map .obtain) = .ok env ∧
      Surveyed variant env ∧ env.mutations = [] ∧ ∀ o ∈ variant.observations,
        (o.observationId ∈ env.observed ↔
          o.availability = .initial ∨ o.availability = .onRequest ∧ o.key ∈ queries) := by
  obtain ⟨start, hstart, hopened, hnone, hinitial⟩ := h.opened_perform
  obtain ⟨env, hasked, hsurveyed, hquiet, hseen⟩ := hopened.asksAll h.wellFormed hqueries
  refine ⟨env, ?_, hsurveyed, hquiet.trans hnone, fun o ho => ?_⟩
  · rw [← List.singleton_append, perform_append, hstart]
    exact hasked
  · rw [hseen o ho, hinitial o ho]

/-- The expected decision on what was gathered is judged by what it cites. -/
theorem concluded (hsurveyed : Surveyed variant env) (hnone : env.mutations = [])
    (hdistinct : refs.Nodup) (hseen : ∀ ref ∈ refs, ref ∈ env.observed)
    (hknown : ∀ ref ∈ refs, ref ∈ variant.observations.map Observation.observationId) :
    ∃ last, env.perform (variant.expectedMutations.map .act ++ [.completeCase
        ⟨variant.expectedDisposition.text, variant.expectedPrimaryReason, [], refs⟩]) = .ok last ∧
      evaluate variant last.trajectory = .ok (grade variant last.trajectory) ∧
      (checkEvidence variant last.trajectory = none ↔
        ∀ ref, ref ∈ refs ↔ ref ∈ variant.requiredEvidenceIds) ∧
      ((∀ ref ∈ variant.requiredEvidenceIds, ref ∈ env.observed) →
        checkOrdering variant last.trajectory = none ∧
        checkInvariants variant last.trajectory = none) := by
  have hwf := h.wellFormed
  have hactions : ∀ action ∈ variant.expectedMutations, action ∈ variant.irreversibleActions := by
    rw [h.expectedMutations_eq, h.irreversibleActions_eq]
    split
    · exact fun _ haction => haction
    · exact fun _ haction => nomatch haction
  obtain ⟨env', hperform, hperformed⟩ := hsurveyed.running.perform hwf hactions
  obtain ⟨history, hhistory, hnames, hlater, -⟩ := hperformed.mutations
  rw [hnone, List.nil_append] at hhistory
  have hrunning := hperformed.running
  rw [← hperformed.observed] at hseen
  let decision : TerminalDecision :=
    ⟨variant.expectedDisposition.text, variant.expectedPrimaryReason, [], refs⟩
  refine ⟨env'.closed decision, ?_, hrunning.evaluate_eq hwf h.variantId_ne,
    closed_evidence hdistinct hknown hseen, fun hrequired => ?_⟩
  · rw [perform_append, perform_acts, hperform]
    show Environment.perform env' [_] = _
    rw [Environment.perform, List.foldlM_cons, Environment.call, hrunning.completeCase hwf]
    rfl
  · constructor
    · rw [closed_ordering hrunning hwf, hperformed.observed]
      exact hrequired
    · refine invariants_eq_none.mpr fun id _ => ?_
      refine closed_clean.mpr ⟨fun e he ref href => ?_, fun hstop => ?_, hknown⟩ id
      · rw [hhistory] at he
        exact hrunning.observedBefore hwf hsurveyed.running hperformed.steps (hlater e he)
          (hrequired ref href)
      · rw [hhistory, ← List.map_eq_nil_iff (f := Prod.snd), hnames, h.expectedMutations_eq, if_neg]
        rw [← h.expectedDisposition_eq, text_inj.mp hstop]
        exact fun hact => nomatch hact

theorem own_seen (hseen : ∀ o ∈ variant.observations, (o.observationId ∈ env.observed ↔
      o.availability = .initial ∨ o.availability = .onRequest ∧ o.key ∈ queries))
    (hkey : key ∈ lookedAt card variant) (ho : Answers card variant key o) :
    o.observationId ∈ env.observed ↔ (key ∈ askedFor card variant → key ∈ queries) := by
  rw [hseen o ho.mem, h.mem_askedFor, ho.named]
  have hneeded := h.lookedAt_eq ▸ hkey
  obtain ⟨spec, hspec⟩ := Dict.contains_iff.mp (h.needed_known hneeded)
  have havailable := h.answers_availability hspec ho
  cases spec with
  | initial => simp [hspec, havailable]
  | onRequest channel =>
    have hrequest : o.availability = .onRequest := by
      revert havailable
      cases o.availability <;> simp
    simp [hspec, hkey, hrequest]

theorem looked_contains (hkey : key ∈ lookedAt card variant) : card.facts.contains key = true :=
  h.needed_known (h.lookedAt_eq ▸ hkey)

/-- A query that is chosen under the name of a fact reveals that fact. -/
theorem chosen_own {choice : String → String} (hchosen : Chosen card variant choice)
    {key' : String} (hkey : key ∈ lookedAt card variant) (hkey' : key' ∈ askedFor card variant)
    (heq : choice key' = key) : key' = key := by
  obtain ⟨entry, hentry, hquery, hreveal⟩ := hchosen key' hkey'
  rw [h.queryRegistry_eq] at hentry
  obtain rfl := hquery.trans heq
  rw [(query_of_fact hentry (h.looked_contains hkey)).2] at hreveal
  exact (QueryOutcome.reveal.inj hreveal).symm

omit h in
theorem mem_seen (hsurveyed : Surveyed variant env) : o ∈ env.observations ↔
    o ∈ variant.observations ∧ o.observationId ∈ env.observed := by
  rw [Environment.observations, hsurveyed.genuine.variant_eq, List.mem_filter, decide_eq_true_eq]

omit h in
theorem handles_seen (hsurveyed : Surveyed variant env) (hrefs : Handles card variant env refs) :
    ∀ ref ∈ refs, ref ∈ env.observed ∧
      ref ∈ variant.observations.map Observation.observationId := by
  intro ref href
  obtain ⟨o, ho, rfl, -⟩ := (hrefs.2 ref).mp href
  obtain ⟨hmem, hobserved⟩ := (mem_seen hsurveyed).mp ho
  exact ⟨hobserved, List.mem_map_of_mem hmem⟩

theorem exists_handles (hsurveyed : Surveyed variant env) :
    ∃ refs, Handles card variant env refs := by
  refine ⟨(env.observations.filter fun o => o.source = .activePolicy ∨
    o.evidenceRelevant = true ∧ ∃ key ∈ lookedAt card variant, o.fact.contains key = true).map
      Observation.observationId, ?_, fun ref => ?_⟩
  · rw [Environment.observations, hsurveyed.genuine.variant_eq]
    exact h.wellFormed.handles.sublist
      ((List.filter_sublist.trans List.filter_sublist).map Observation.observationId)
  · simp only [List.mem_map, List.mem_filter, decide_eq_true_eq]
    constructor
    · rintro ⟨o, ⟨ho, hcited⟩, rfl⟩
      exact ⟨o, ho, rfl, hcited⟩
    · rintro ⟨o, ho, rfl, hcited⟩
      exact ⟨o, ⟨ho, hcited⟩, rfl⟩

/-- Where every fact was asked for under its own name, what revealed it is what is required. -/
theorem handles_required (hsurveyed : Surveyed variant env)
    (hseen : ∀ o ∈ variant.observations, (o.observationId ∈ env.observed ↔
      o.availability = .initial ∨ o.availability = .onRequest ∧ o.key ∈ queries))
    (hqueries : ∀ query, query ∈ queries ↔ query ∈ askedFor card variant)
    (hrefs : Handles card variant env refs) (ref : String) :
    ref ∈ refs ↔ ref ∈ variant.requiredEvidenceIds := by
  rw [hrefs.2 ref, h.mem_required, ← h.lookedAt_eq]
  constructor
  · rintro ⟨o, ho, rfl, hsource | ⟨hrelevant, key, hkey, hcarries⟩⟩
    · exact Or.inl (congrArg _ ((h.policy_unique ((mem_seen hsurveyed).mp ho).1).mp hsource))
    · obtain ⟨ho, hobserved⟩ := (mem_seen hsurveyed).mp ho
      by_cases hsource : o.source = .activePolicy
      · exact Or.inl (congrArg _ ((h.policy_unique ho).mp hsource))
      · refine Or.inr ⟨key, hkey, o, ⟨ho, hsource, hrelevant, ?_⟩, rfl⟩
        rcases h.carries ho hsource hrelevant hcarries with
          ⟨-, hnamed, -⟩ | ⟨havailable, entry, hentry, hreveal, hquery⟩
        · exact hnamed
        · rcases (hseen o ho).mp hobserved with hinitial | ⟨-, hqueried⟩
          · rw [havailable] at hinitial
            cases hinitial
          · have hlooked := (h.mem_askedFor.mp ((hqueries o.key).mp hqueried)).1
            rw [hquery] at hlooked ⊢
            rw [(query_of_fact hentry (h.looked_contains hlooked)).2] at hreveal
            exact QueryOutcome.reveal.inj hreveal
  · rintro (rfl | ⟨key, hkey, o, ho, rfl⟩)
    · exact ⟨_, (mem_seen hsurveyed).mpr ⟨h.policy_mem, hsurveyed.seen h.policy_mem rfl⟩, rfl,
        Or.inl rfl⟩
    · obtain ⟨spec, hspec⟩ := Dict.contains_iff.mp (h.looked_contains hkey)
      have hobserved := (h.own_seen hseen hkey ho).mpr (hqueries key).mpr
      exact ⟨o, (mem_seen hsurveyed).mpr ⟨ho.mem, hobserved⟩, rfl, Or.inr ⟨ho.relevant, key, hkey,
        Dict.contains_iff.mpr ⟨_, h.answers_value hspec ho⟩⟩⟩

/-- The run passes when every fact was asked for under its own name, and only then. -/
theorem grounds_iff {choice : String → String} (hchosen : Chosen card variant choice)
    (hqueries : ∀ query, query ∈ queries ↔ ∃ key ∈ askedFor card variant, query = choice key) :
    Grounds card variant queries ↔ ∀ key ∈ askedFor card variant, choice key = key := by
  have hregistered : ∀ query ∈ queries, ∃ entry ∈ variant.queryRegistry.entries,
      entry.queryKey = query := by
    intro query hquery
    obtain ⟨key, hkey, rfl⟩ := (hqueries query).mp hquery
    obtain ⟨entry, hentry, heq, -⟩ := hchosen key hkey
    exact ⟨entry, hentry, heq⟩
  obtain ⟨env, hgathered, hsurveyed, hnone, hseen⟩ := h.gathered hregistered
  have hconcluded : ∀ {refs}, Handles card variant env refs → _ := fun hrefs =>
    h.concluded hsurveyed hnone hrefs.1 (fun ref href => (handles_seen hsurveyed hrefs ref href).1)
      fun ref href => (handles_seen hsurveyed hrefs ref href).2
  constructor
  · rintro ⟨env', hgathered', hgrounds⟩ key hkey
    obtain rfl := Except.ok.inj (hgathered.symm.trans hgathered')
    obtain ⟨refs, hrefs⟩ := h.exists_handles hsurveyed
    obtain ⟨last, evaluation, hlast, hevaluated, hevidence, -⟩ := hgrounds refs hrefs
    obtain ⟨last', hlast', hgraded, hcited, -⟩ := hconcluded hrefs
    obtain rfl := Except.ok.inj (hlast.symm.trans hlast')
    obtain rfl := Except.ok.inj (hevaluated.symm.trans hgraded)
    have hrequired := hcited.mp (grade_passes.mp hevidence)
    have hlooked := (h.mem_askedFor.mp hkey).1
    obtain ⟨spec, hspec⟩ := Dict.contains_iff.mp (h.looked_contains hlooked)
    obtain ⟨o, ho, -, -⟩ := h.answers_exists hspec
    have href := (hrequired o.observationId).mpr
      (h.mem_required.mpr (Or.inr ⟨key, h.lookedAt_eq ▸ hlooked, o, ho, rfl⟩))
    have hqueried :=
      (h.own_seen hseen hlooked ho).mp (handles_seen hsurveyed hrefs _ href).1 hkey
    obtain ⟨key', hkey', heq⟩ := (hqueries key).mp hqueried
    obtain rfl := h.chosen_own hchosen hlooked hkey' heq.symm
    exact heq.symm
  · intro hnamed
    have hown : ∀ query, query ∈ queries ↔ query ∈ askedFor card variant := by
      intro query
      rw [hqueries]
      constructor
      · rintro ⟨key, hkey, rfl⟩
        rwa [hnamed key hkey]
      · intro hquery
        exact ⟨query, hquery, (hnamed query hquery).symm⟩
    refine ⟨env, hgathered, fun refs hrefs => ?_⟩
    obtain ⟨last, hlast, hgraded, hcited, hrest⟩ := hconcluded hrefs
    have hrequired := h.handles_required hsurveyed hseen hown hrefs
    obtain ⟨hordering, hinvariants⟩ := hrest fun ref href =>
      (handles_seen hsurveyed hrefs ref ((hrequired ref).mpr href)).1
    exact ⟨last, _, hlast, hgraded, grade_passes.mpr (hcited.mpr hrequired),
      grade_passes.mpr hordering, grade_passes.mpr hinvariants⟩

/-- No other query may reveal a fact that was looked at. -/
theorem suffices_iff : EvidenceSuffices card variant ↔
    ∀ entry ∈ variant.queryRegistry.entries, ∀ key ∈ lookedAt card variant,
      entry.outcome = .reveal key → entry.queryKey = key := by
  constructor
  · rintro ⟨-, -, hgrounds⟩ entry hentry key hkey hreveal
    let choice : String → String := fun other => if other = key then entry.queryKey else other
    have hspec := reveals_onRequest (h.queryRegistry_eq ▸ hentry) hreveal
    have hasked : key ∈ askedFor card variant := h.mem_askedFor.mpr ⟨hkey, _, hspec⟩
    have hchosen : Chosen card variant choice := by
      intro other hother
      by_cases heq : other = key
      · subst heq
        exact ⟨entry, hentry, (if_pos rfl).symm, hreveal⟩
      · obtain ⟨-, channel, hchannel⟩ := h.mem_askedFor.mp hother
        rw [h.queryRegistry_eq]
        exact ⟨⟨other, channel, .reveal other, .projectedFact⟩, card.mem_queryRegistry.mpr
          (Or.inl (mem_projected.mpr ⟨channel, hchannel, rfl⟩)), (if_neg heq).symm, rfl⟩
    have hqueries : ∀ query, query ∈ (askedFor card variant).map choice ↔
        ∃ key ∈ askedFor card variant, query = choice key := by
      simp only [List.mem_map, eq_comm, implies_true]
    have hnamed := (h.grounds_iff hchosen hqueries).mp (hgrounds choice hchosen _ hqueries)
    exact (if_pos rfl).symm.trans (hnamed key hasked)
  · intro hnamed
    refine ⟨fun id => h.obtainable, h.settled, fun choice hchosen queries hqueries => ?_⟩
    refine (h.grounds_iff hchosen hqueries).mpr fun key hkey => ?_
    obtain ⟨entry, hentry, heq, hreveal⟩ := hchosen key hkey
    exact heq.symm.trans (hnamed entry hentry key (h.mem_askedFor.mp hkey).1 hreveal)

end Compiles

end Grounding

section Sufficiency

variable {card : ConstructCard} {cube : Cube} {variant : Variant}

/-- Required evidence is all that was promised of it when no authored query reveals a fact that
first-match evaluation looks at. -/
theorem evidence_suffices_iff (h : compileCube card = .ok cube)
    (hvariant : variant ∈ cube.variants) : EvidenceSuffices card variant ↔
      ∀ entry ∈ variant.queryRegistry.entries, ∀ key ∈ lookedAt card variant,
        entry.outcome = .reveal key → entry.queryKey = key := by
  obtain ⟨matched, attempted, hcompiles⟩ := compileCube_ok h hvariant
  exact hcompiles.suffices_iff

/-- Every fact that is looked at is revealed under its own name only. -/
def OwnQueries (card : ConstructCard) (variant : Variant) : Bool :=
  variant.queryRegistry.entries.all fun entry => (lookedAt card variant).all fun key =>
    entry.outcome ≠ .reveal key || entry.queryKey = key

theorem ownQueries_iff : OwnQueries card variant = true ↔
    ∀ entry ∈ variant.queryRegistry.entries, ∀ key ∈ lookedAt card variant,
      entry.outcome = .reveal key → entry.queryKey = key := by
  simp only [OwnQueries, List.all_eq_true, Bool.or_eq_true, decide_eq_true_eq]
  refine forall₄_congr fun entry _ key _ => ?_
  exact ⟨fun h hreveal => h.resolve_left (not_not.mpr hreveal), fun h => imp_iff_not_or.mp h⟩

theorem quote_evidence_suffices : ∃ cube, compileCube quoteCard = .ok cube ∧
    ∀ variant ∈ cube.variants, EvidenceSuffices quoteCard variant := by
  obtain ⟨cube, hcube, hown⟩ := ok_of_any (x := compileCube quoteCard)
    (p := fun cube => cube.variants.all (OwnQueries quoteCard)) (by decide +kernel)
  refine ⟨cube, hcube, fun variant hvariant => ?_⟩
  exact (evidence_suffices_iff hcube hvariant).mpr
    (ownQueries_iff.mp (List.all_eq_true.mp hown variant hvariant))

/-- The card with a second question that reveals the quote. -/
def rephrasedCard : ConstructCard :=
  { quoteCard with
    queryResolution := [⟨"contractor_estimate", .askUser, .reveal "repair_quote_gbp", .authored⟩]
    queriesAuthored := by
      intro entry hentry
      obtain rfl := List.mem_singleton.mp hentry
      refine ⟨by decide, by decide, by decide, by decide, ?_, rfl⟩
      rintro factKey hreveal
      obtain rfl := QueryOutcome.reveal.inj hreveal
      rfl
    queriesDistinct := List.nodup_singleton _ }

/-- Whoever asks for the contractor's estimate is told the quote, and may not cite it. -/
theorem rephrased_evidence_insufficient : ∃ cube, compileCube rephrasedCard = .ok cube ∧
    ∃ variant ∈ cube.variants, ¬EvidenceSuffices rephrasedCard variant := by
  obtain ⟨cube, hcube, hother⟩ := ok_of_any (x := compileCube rephrasedCard)
    (p := fun cube => cube.variants.any fun variant => !OwnQueries rephrasedCard variant)
    (by decide +kernel)
  obtain ⟨variant, hvariant, hnot⟩ := List.any_eq_true.mp hother
  obtain ⟨matched, attempted, hcompiles⟩ := compileCube_ok hcube hvariant
  refine ⟨cube, hcube, variant, hvariant, fun hsuffices => ?_⟩
  rw [ownQueries_iff.mpr (hcompiles.suffices_iff.mp hsuffices)] at hnot
  cases hnot

end Sufficiency

end OperateBench.Cubes
