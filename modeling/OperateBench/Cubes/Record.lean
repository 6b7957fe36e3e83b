import OperateBench.Cubes.Compiled
import OperateBench.Cubes.Solvers

/-! # What the record of a variant says

A walk over the rules depends on the facts that they refer to and on nothing else. In the record
the policy comes first, then everything that the state settles, and a statement under pressure
comes last. Every fact of the card stands in one observation that counts as evidence for it, and
what is required of a decision is the policy and the observations of some facts.
-/

namespace OperateBench.Cubes

open Foundation

section FirstMatch

/-- The first rule that holds, and the facts that the walk to it refers to. -/
def firstMatch (facts : FactValues) : List Rule → Except SchemaError (Option (Rule × List String))
  | [] => .ok none
  | rule :: rules =>
    match rule.holds facts with
    | .error e => .error e
    | .ok true => .ok (some (rule, rule.referencedFacts))
    | .ok false => (firstMatch facts rules).map
        (Option.map fun found => (found.1, rule.referencedFacts ++ found.2))

variable {facts facts' : FactValues} {rule : Rule} {rules walked : List Rule} {keys : List String}

theorem allHold_congr {conditions : List Condition}
    (h : ∀ condition ∈ conditions, facts.get? condition.fact = facts'.get? condition.fact) :
    allHold facts conditions = allHold facts' conditions := by
  induction conditions with
  | nil => rfl
  | cons condition conditions ih =>
    have hhead : condition.holds facts = condition.holds facts' := by
      unfold Condition.holds
      rw [h condition List.mem_cons_self]
    rw [allHold, allHold, hhead, ih fun c hc => h c (List.mem_cons_of_mem _ hc)]

theorem holds_congr (h : ∀ key ∈ rule.referencedFacts, facts.get? key = facts'.get? key) :
    rule.holds facts = rule.holds facts' :=
  allHold_congr fun condition hcondition => h condition.fact (List.mem_map_of_mem hcondition)

theorem firstMatch_congr
    (h : ∀ rule ∈ rules, ∀ key ∈ rule.referencedFacts, facts.get? key = facts'.get? key) :
    firstMatch facts rules = firstMatch facts' rules := by
  induction rules with
  | nil => rfl
  | cons rule rules ih =>
    rw [firstMatch, firstMatch, holds_congr (h rule List.mem_cons_self),
      ih fun r hr => h r (List.mem_cons_of_mem _ hr)]

/-- A walk depends on the facts that it looks at. -/
theorem firstMatch_of_agree (h : firstMatch facts rules = .ok (some (rule, keys)))
    (hagree : ∀ key ∈ keys, facts.get? key = facts'.get? key) :
    firstMatch facts' rules = .ok (some (rule, keys)) := by
  induction rules generalizing keys with
  | nil => cases h
  | cons first rules ih =>
    rw [firstMatch] at h ⊢
    cases hholds : first.holds facts with
    | error e => rw [hholds] at h; cases h
    | ok holds =>
      rw [hholds] at h
      cases holds with
      | true =>
        obtain ⟨rfl, rfl⟩ := Prod.ext_iff.mp (Option.some.inj (Except.ok.inj h))
        rw [← holds_congr hagree, hholds]
      | false =>
        obtain ⟨found, hfound, hsome⟩ := map_ok h
        obtain ⟨⟨other, rest⟩, rfl, heq⟩ := Option.map_eq_some_iff.mp hsome
        obtain ⟨rfl, rfl⟩ := Prod.ext_iff.mp heq
        have hfirst : first.holds facts = first.holds facts' :=
          holds_congr fun key hkey => hagree key (List.mem_append_left _ hkey)
        rw [← hfirst, hholds]
        dsimp only
        rw [ih hfound fun key hkey => hagree key (List.mem_append_right _ hkey)]
        rfl

theorem attempted_subset (h : attemptedRules facts rules = .ok walked) : walked ⊆ rules := by
  induction rules generalizing walked with
  | nil =>
    obtain rfl := Except.ok.inj h
    exact List.Subset.refl _
  | cons first rules ih =>
    obtain ⟨matched, -, h⟩ := bind_ok h
    cases matched with
    | true =>
      obtain rfl := Except.ok.inj h
      exact List.cons_subset_cons _ (List.nil_subset _)
    | false =>
      obtain ⟨rest, hrest, h⟩ := bind_ok h
      obtain rfl := pure_ok (α := List Rule) h
      exact List.cons_subset_cons _ (ih hrest)

/-- The rule that is found is the last of the attempted ones, and the facts are theirs. -/
theorem attempted_of_firstMatch (h : firstMatch facts rules = .ok (some (rule, keys))) :
    ∃ walked, attemptedRules facts rules = .ok walked ∧ walked.getLast? = some rule ∧
      walked.flatMap Rule.referencedFacts = keys := by
  induction rules generalizing keys with
  | nil => cases h
  | cons first rules ih =>
    rw [firstMatch] at h
    rw [attemptedRules]
    split at h
    case h_1 => cases h
    case h_2 hholds =>
      obtain ⟨rfl, rfl⟩ := Prod.ext_iff.mp (Option.some.inj (Except.ok.inj h))
      exact ⟨[first], by rw [hholds]; rfl, rfl, List.flatMap_singleton _ _⟩
    case h_3 hholds =>
      obtain ⟨found, hfound, hsome⟩ := map_ok h
      obtain ⟨⟨other, rest⟩, rfl, heq⟩ := Option.map_eq_some_iff.mp hsome
      obtain ⟨rfl, rfl⟩ := Prod.ext_iff.mp heq
      obtain ⟨walked, hwalked, hlast, hkeys⟩ := ih hfound
      refine ⟨first :: walked, ?_, ?_, ?_⟩
      · rw [hholds, hwalked]
        rfl
      · rw [List.getLast?_cons, hlast]
        rfl
      · rw [List.flatMap_cons, hkeys]

/-- Where some rule matches, the first one is found. -/
theorem firstMatch_of_matching {others : List Rule}
    (hmatching : matching facts rules = .ok (rule :: others)) :
    ∃ keys, firstMatch facts rules = .ok (some (rule, keys)) := by
  induction rules with
  | nil => cases hmatching
  | cons first rules ih =>
    obtain ⟨matched, hholds, h⟩ := bind_ok hmatching
    obtain ⟨rest, hrest, h⟩ := bind_ok h
    rw [firstMatch, hholds]
    cases matched with
    | true =>
      obtain ⟨rfl, -⟩ := List.cons.inj (pure_ok h)
      exact ⟨_, rfl⟩
    | false =>
      obtain rfl := pure_ok (α := List Rule) h
      obtain ⟨keys, hkeys⟩ := ih hrest
      exact ⟨_, by rw [hkeys]; rfl⟩

end FirstMatch

section Cells

variable {card : ConstructCard} {variant : Variant} {matched : Rule} {attempted : List Rule}

/-- A cell is settled by the first rule that holds, with the decision that it was given. -/
theorem firstMatch_of_resolveCell {state : StateKey} {policy : PolicyKey}
    (h : resolveCell card state policy = .ok matched) :
    ∃ keys, firstMatch (card.factsFor state) (card.policyAxis policy).rules =
      .ok (some (matched, keys)) := by
  obtain ⟨rules, hmatching, h⟩ := bind_ok h
  cases rules with
  | nil => cases h
  | cons first others =>
    obtain ⟨-, h⟩ := unless_ok h
    obtain ⟨-, h⟩ := unless_ok h
    obtain rfl := Except.ok.inj h
    exact firstMatch_of_matching (inSchema_ok hmatching)

/-- The ground truth of a compiled variant. -/
theorem Compiles.firstMatch_eq (h : Compiles card variant matched attempted) :
    firstMatch (card.factsFor variant.state) (card.policyAxis variant.policy).rules =
      .ok (some (matched, attempted.flatMap Rule.referencedFacts)) := by
  obtain ⟨keys, hkeys⟩ := firstMatch_of_resolveCell h.resolved
  obtain ⟨walked, hwalked, -, rfl⟩ := attempted_of_firstMatch hkeys
  obtain rfl := Except.ok.inj (h.walked.symm.trans hwalked)
  exact hkeys

end Cells

section Presentation

theorem condition_ofDatum_asDatum (condition : Condition) :
    Condition.ofDatum condition.asDatum = .ok condition := by
  obtain ⟨fact, op, value, hnamed, hsafe⟩ := condition
  have hop : isBlank op.text = false ∧ ConditionOp.ofText? op.text = some op := by
    cases op <;> exact ⟨by decide, by decide⟩
  simp [Condition.asDatum, Condition.ofDatum, requireText, Dict.findEntry, hasUnknown, hnamed,
    hop, hsafe, bind, Except.bind]

theorem rule_ofDatum_asDatum (rule : Rule) : Rule.ofDatum rule.asDatum = .ok rule := by
  obtain ⟨id, conditions, decision, primaryReason, hid, hreason⟩ := rule
  have hdecision : isBlank decision.text = false ∧
      Disposition.ofText? decision.text = some decision := by
    cases decision <;> exact ⟨by decide, by decide⟩
  have hconditions : (conditions.map Condition.asDatum).mapM Condition.ofDatum = .ok conditions := by
    induction conditions with
    | nil => rfl
    | cons condition conditions ih =>
      rw [List.map_cons, List.mapM_cons, condition_ofDatum_asDatum, ih]
      rfl
  simp [Rule.asDatum, Rule.ofDatum, requireText, requireSequence, Dict.findEntry, hasUnknown, hid,
    hreason, hdecision, hconditions, bind, Except.bind, pure, Except.pure]

theorem rules_ofDatum_asDatum (rules : List Rule) :
    (rules.map Rule.asDatum).mapM Rule.ofDatum = .ok rules := by
  induction rules with
  | nil => rfl
  | cons rule rules ih =>
    rw [List.map_cons, List.mapM_cons, rule_ofDatum_asDatum, ih]
    rfl

end Presentation

section Bodies

variable {card : ConstructCard} {state : StateKey} {policy : PolicyKey} {cues : List String}
  {key : String} {draft : Draft}

/-- Everything between the policy and the pressure. -/
def ConstructCard.body (card : ConstructCard) (state : StateKey) : List Draft :=
  (card.distractors.map fun (key, value) => recordDraft key value false) ++
    ((card.initialFacts.map fun key => recordDraft key ((card.factsFor state).value key) true) ++
      card.queryRegistry.entries.map (queryDraft (card.factsFor state)))

theorem drafts_eq : card.drafts state policy cues = policyDraft policy (card.policyAxis policy) ::
    (card.body state ++ if cues = [] then [] else [pressureDraft cues]) := by
  simp only [ConstructCard.drafts, ConstructCard.body, List.cons_append, List.append_assoc]

theorem mem_body : draft ∈ card.body state ↔
    (∃ e ∈ card.distractors, draft = recordDraft e.1 e.2 false) ∨
    (∃ key ∈ card.initialFacts,
      draft = recordDraft key ((card.factsFor state).value key) true) ∨
    ∃ entry ∈ card.queryRegistry.entries, draft = queryDraft (card.factsFor state) entry := by
  simp only [ConstructCard.body, List.mem_append, List.mem_map, eq_comm (b := draft)]

theorem mem_initialFacts : key ∈ card.initialFacts ↔ card.facts.get? key = some .initial := by
  rw [ConstructCard.initialFacts, List.mem_filter, List.mem_insertionSort, decide_eq_true_eq]
  exact and_iff_right_of_imp fun h => Dict.mem_keys_iff.mpr ⟨_, h⟩

/-- A query that reveals a fact is for a fact that is asked for. -/
theorem reveals_onRequest {entry : QueryEntry} (h : entry ∈ card.queryRegistry.entries)
    {factKey : String} (hreveal : entry.outcome = .reveal factKey) :
    card.facts.get? factKey = some (.onRequest entry.action) := by
  rcases card.mem_queryRegistry.mp h with h | h
  · obtain ⟨channel, hspec, heq⟩ := mem_projected.mp h
    rw [heq] at hreveal ⊢
    obtain rfl := QueryOutcome.reveal.inj hreveal
    exact hspec
  · exact (card.queriesAuthored entry h).reveals factKey hreveal

/-- A query under the name of a fact is the reveal of that fact. -/
theorem query_of_fact {entry : QueryEntry} (h : entry ∈ card.queryRegistry.entries)
    (hfact : card.facts.contains entry.queryKey = true) :
    card.facts.get? entry.queryKey = some (.onRequest entry.action) ∧
      entry.outcome = .reveal entry.queryKey := by
  rcases card.mem_queryRegistry.mp h with h | h
  · obtain ⟨channel, hspec, heq⟩ := mem_projected.mp h
    rw [heq]
    exact ⟨hspec, rfl⟩
  · rw [(card.queriesAuthored entry h).unclaimed] at hfact
    cases hfact

theorem get_single {key' : String} {value : Datum} :
    (Dict.ofList [(key, value)]).get? key' = if key = key' then some value else none := by
  simp only [Dict.ofList, List.foldl_cons, List.foldl_nil, Dict.get?_set, Dict.get?_empty]

/-- What the body says of a fact of the card is what the state gives it. -/
theorem body_value (h : draft ∈ card.body state) (hfact : card.facts.contains key = true)
    {value : Datum} (hvalue : draft.fact.get? key = some value) :
    value = (card.factsFor state).value key := by
  rcases mem_body.mp h with ⟨e, he, rfl⟩ | ⟨initial, -, rfl⟩ | ⟨entry, -, rfl⟩
  · simp only [recordDraft, get_single] at hvalue
    split at hvalue
    · rename_i heq
      rw [← heq, (card.distractorsNamed e he).2] at hfact
      cases hfact
    · cases hvalue
  · simp only [recordDraft, get_single] at hvalue
    split at hvalue
    · rename_i heq
      rw [← Option.some.inj hvalue, heq]
    · cases hvalue
  · cases hreveal : entry.outcome with
    | reveal factKey =>
      simp only [queryDraft, hreveal, get_single] at hvalue
      split at hvalue
      · rename_i heq
        rw [← Option.some.inj hvalue, heq]
      · cases hvalue
    | _ => simp [queryDraft, hreveal] at hvalue

theorem body_source (h : draft ∈ card.body state) : draft.source ≠ .activePolicy := by
  rcases mem_body.mp h with ⟨e, -, rfl⟩ | ⟨initial, -, rfl⟩ | ⟨entry, -, rfl⟩
  · exact fun h => nomatch h
  · exact fun h => nomatch h
  · rw [queryDraft]
    cases entry.action <;> exact fun h => nomatch h

/-- A fact of the card has its evidence in the body. -/
theorem exists_evidence (state : StateKey) {spec : FactSpec} (h : card.facts.get? key = some spec) :
    ∃ draft ∈ card.body state, draft.evidenceRelevant = true ∧ draft.key = key ∧
      draft.fact = .ofList [(key, (card.factsFor state).value key)] ∧
      (draft.availability = .initial ↔ spec = .initial) := by
  cases spec with
  | initial =>
    exact ⟨_, mem_body.mpr (Or.inr (Or.inl ⟨key, mem_initialFacts.mpr h, rfl⟩)), rfl, rfl, rfl,
      by simp [recordDraft]⟩
  | onRequest channel =>
    have hentry : (⟨key, channel, .reveal key, .projectedFact⟩ : QueryEntry) ∈
        card.queryRegistry.entries :=
      card.mem_queryRegistry.mpr (Or.inl (mem_projected.mpr ⟨channel, h, rfl⟩))
    exact ⟨_, mem_body.mpr (Or.inr (Or.inr ⟨_, hentry, rfl⟩)), rfl, rfl, rfl,
      by simp [queryDraft]⟩

/-- Evidence for a fact of the card. -/
def IsEvidence (card : ConstructCard) (draft : Draft) : Bool :=
  draft.evidenceRelevant && card.facts.contains draft.key

/-- A fact of the card has one piece of evidence. -/
theorem evidence_nodup (card : ConstructCard) (state : StateKey) :
    (((card.body state).filter (IsEvidence card)).map Draft.key).Nodup := by
  have hdistractors : ((card.distractors.map fun e => recordDraft e.1 e.2 false).filter
      (IsEvidence card)) = [] := by
    rw [List.filter_eq_nil_iff]
    rintro _ hmem
    obtain ⟨e, -, rfl⟩ := List.mem_map.mp hmem
    simp [IsEvidence, recordDraft]
  have hinitial : (((card.initialFacts.map fun key => recordDraft key
      ((card.factsFor state).value key) true).filter (IsEvidence card)).map Draft.key).Sublist
      card.initialFacts := by
    have hmap : (card.initialFacts.map fun key => recordDraft key
        ((card.factsFor state).value key) true).map Draft.key = card.initialFacts := by
      rw [List.map_map]
      exact List.map_id _
    have hsublist := List.filter_sublist (p := IsEvidence card)
      (l := card.initialFacts.map fun key => recordDraft key
        ((card.factsFor state).value key) true) |>.map Draft.key
    rwa [hmap] at hsublist
  have hquery : (((card.queryRegistry.entries.map (queryDraft (card.factsFor state))).filter
      (IsEvidence card)).map Draft.key).Sublist
      (card.queryRegistry.entries.map QueryEntry.queryKey) := by
    have hmap : card.queryRegistry.entries.map QueryEntry.queryKey =
        (card.queryRegistry.entries.map (queryDraft (card.factsFor state))).map Draft.key := by
      rw [List.map_map]
      rfl
    rw [hmap]
    exact List.Sublist.map _ List.filter_sublist
  have hinitialNodup : card.initialFacts.Nodup :=
    (((List.perm_insertionSort _ card.facts.keys).nodup_iff).mpr card.facts.nodup).filter _
  rw [ConstructCard.body, List.filter_append, List.filter_append, hdistractors, List.nil_append,
    List.map_append, List.nodup_append]
  refine ⟨hinitial.nodup hinitialNodup, hquery.nodup card.queryRegistry.distinct, ?_⟩
  rintro key hkey _ hkey' rfl
  have hspec := mem_initialFacts.mp (hinitial.subset hkey)
  obtain ⟨draft, hdraft, rfl⟩ := List.mem_map.mp hkey'
  obtain ⟨hmem, hevidence⟩ := List.mem_filter.mp hdraft
  obtain ⟨entry, hentry, rfl⟩ := List.mem_map.mp hmem
  obtain ⟨-, hcontains⟩ := (Bool.and_eq_true _ _).mp hevidence
  rw [show (queryDraft (card.factsFor state) entry).key = entry.queryKey from rfl] at hspec hcontains
  rw [(query_of_fact hentry hcontains).1] at hspec
  cases hspec

end Bodies

section Answers

variable {card : ConstructCard} {variant : Variant} {matched : Rule} {attempted : List Rule}
  {key : String} {o o' : Observation}

/-- The observation of the policy. -/
def policyOf (card : ConstructCard) (variant : Variant) : Observation :=
  (policyDraft variant.policy (card.policyAxis variant.policy)).mint 1

def bodyOf (card : ConstructCard) (variant : Variant) : List Observation :=
  mintFrom 2 (card.body variant.state)

/-- The statement under pressure, if there is one. -/
def pressureOf (card : ConstructCard) (variant : Variant) : List Observation :=
  mintFrom (2 + (card.body variant.state).length)
    (if variant.pressureCues = [] then [] else [pressureDraft variant.pressureCues])

/-- The observation answers for a fact of the card. -/
structure Answers (card : ConstructCard) (variant : Variant) (key : String) (o : Observation) :
    Prop where
  mem : o ∈ variant.observations
  source : o.source ≠ .activePolicy
  relevant : o.evidenceRelevant = true
  named : o.key = key

theorem toDraft_mem_body (h : o ∈ bodyOf card variant) : o.toDraft ∈ card.body variant.state := by
  have hmem := List.mem_map_of_mem (f := fun o : Observation => o.toDraft) h
  rwa [bodyOf, map_mintFrom] at hmem

theorem toDraft_pressure (h : o ∈ pressureOf card variant) :
    variant.pressureCues ≠ [] ∧ o.toDraft = pressureDraft variant.pressureCues := by
  have hmem := List.mem_map_of_mem (f := fun o : Observation => o.toDraft) h
  rw [pressureOf, map_mintFrom] at hmem
  split at hmem
  · cases hmem
  · exact ⟨‹_›, List.mem_singleton.mp hmem⟩

namespace Compiles

variable (h : Compiles card variant matched attempted)

include h

theorem observations_split : variant.observations =
    policyOf card variant :: (bodyOf card variant ++ pressureOf card variant) := by
  rw [h.observations_eq, ConstructCard.buildObservations, drafts_eq, mintFrom, mintFrom_append]
  rfl

theorem policy_unique (ho : o ∈ variant.observations) :
    o.source = .activePolicy ↔ o = policyOf card variant := by
  constructor
  · intro hsource
    rw [h.observations_split, List.mem_cons, List.mem_append] at ho
    rcases ho with rfl | ho | ho
    · rfl
    · exact absurd hsource (body_source (toDraft_mem_body ho))
    · rw [show o.source = o.toDraft.source from rfl, (toDraft_pressure ho).2] at hsource
      cases hsource
  · rintro rfl
    rfl

theorem policy_mem : policyOf card variant ∈ variant.observations := by
  rw [h.observations_split]
  exact List.mem_cons_self

theorem answers_body (ho : Answers card variant key o) : o ∈ bodyOf card variant := by
  have hmem := ho.mem
  rw [h.observations_split, List.mem_cons, List.mem_append] at hmem
  rcases hmem with rfl | hmem | hmem
  · exact absurd rfl ho.source
  · exact hmem
  · have hrelevant := ho.relevant
    rw [show o.evidenceRelevant = o.toDraft.evidenceRelevant from rfl,
      (toDraft_pressure hmem).2] at hrelevant
    cases hrelevant

theorem answers_unique (hfact : card.facts.contains key = true)
    (ho : Answers card variant key o) (ho' : Answers card variant key o') : o = o' := by
  have hnodup : (((bodyOf card variant).filter fun o => IsEvidence card o.toDraft).map
      fun o => o.key).Nodup := by
    have hmap := evidence_nodup card variant.state
    rw [← map_mintFrom (card.body variant.state) 2, List.filter_map, List.map_map] at hmap
    exact hmap
  have hmem : ∀ {o}, Answers card variant key o →
      o ∈ (bodyOf card variant).filter fun o => IsEvidence card o.toDraft := by
    intro o ho
    refine List.mem_filter.mpr ⟨h.answers_body ho, ?_⟩
    rw [IsEvidence, show o.toDraft.evidenceRelevant = true from ho.relevant,
      show o.toDraft.key = key from ho.named, hfact]
    rfl
  exact List.inj_on_of_nodup_map hnodup (hmem ho) (hmem ho') (ho.named.trans ho'.named.symm)

/-- Every fact of the card is answered for, with the value that the state gives it. -/
theorem answers_exists {spec : FactSpec} (hfact : card.facts.get? key = some spec) :
    ∃ o, Answers card variant key o ∧
      o.fact.get? key = some ((card.factsFor variant.state).value key) ∧
      (o.availability = .initial ↔ spec = .initial) := by
  obtain ⟨draft, hdraft, hrelevant, hkey, hvalue, havailable⟩ :=
    exists_evidence variant.state hfact
  obtain ⟨o, ho, rfl⟩ : ∃ o ∈ bodyOf card variant, o.toDraft = draft := by
    rw [← map_mintFrom (card.body variant.state) 2] at hdraft
    exact List.mem_map.mp hdraft
  refine ⟨o, ⟨?_, body_source (toDraft_mem_body ho), hrelevant, hkey⟩, ?_, havailable⟩
  · rw [h.observations_split]
    exact List.mem_cons_of_mem _ (List.mem_append_left _ ho)
  · rw [hvalue, get_single, if_pos rfl]

theorem requiredEvidenceIds_eq :
    variant.requiredEvidenceIds = requiredEvidence variant.observations attempted := by
  obtain ⟨_, _, heq⟩ := h.built
  rw [h.observations_eq]
  exact congrArg Variant.requiredEvidenceIds heq

/-- What is required is the policy, and the answers to the facts that were looked at. -/
theorem mem_required {id : String} : id ∈ variant.requiredEvidenceIds ↔
    id = (policyOf card variant).observationId ∨
      ∃ key ∈ attempted.flatMap Rule.referencedFacts, ∃ o, Answers card variant key o ∧
        o.observationId = id := by
  rw [h.requiredEvidenceIds_eq, requiredEvidence, List.map_append, List.mem_append]
  simp only [List.mem_map, List.mem_filter, decide_eq_true_eq, Bool.and_eq_true]
  constructor
  · rintro (⟨o, ⟨ho, hsource⟩, rfl⟩ | ⟨o, ⟨ho, hrelevant, hkey⟩, rfl⟩)
    · exact Or.inl (congrArg _ ((h.policy_unique ho).mp hsource))
    · by_cases hsource : o.source = .activePolicy
      · exact Or.inl (congrArg _ ((h.policy_unique ho).mp hsource))
      · exact Or.inr ⟨o.key, hkey, o, ⟨ho, hsource, hrelevant, rfl⟩, rfl⟩
  · rintro (rfl | ⟨key, hkey, o, ho, rfl⟩)
    · exact Or.inl ⟨_, ⟨h.policy_mem, rfl⟩, rfl⟩
    · exact Or.inr ⟨o, ⟨ho.mem, ho.relevant, ho.named ▸ hkey⟩, rfl⟩

end Compiles

end Answers

end OperateBench.Cubes
