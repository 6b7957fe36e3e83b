import OperateBench.Cubes.Comparison

/-! # How far the fake has got

On every turn the fake works out from its request which facts it knows and which it has asked
for. It passes the rules that do not apply, and stops at the first that needs a fact, or applies.
-/

namespace OperateBench.Cubes

open Foundation

section Pursuing

variable {card : ConstructCard} {variant : Variant} {matched : Rule} {attempted : List Rule}
  {env env' : Environment} {keys acts : List String} {key : String}

/-- The fake asks for the fact once it needs it. -/
def Askable (card : ConstructCard) (variant : Variant) (key : String) : Prop :=
  (∃ channel, card.facts.get? key = some (.onRequest channel)) ∧
    overlooked card variant key = false

/-- The records were read, the facts were asked for and the actions were taken. -/
structure Pursues (card : ConstructCard) (variant : Variant) (env : Environment)
    (keys acts : List String) : Prop where
  surveyed : Surveyed variant env
  asked : ∀ o ∈ variant.observations, (o.observationId ∈ env.observed ↔
    o.availability = .initial ∨ o.availability = .onRequest ∧ o.key ∈ keys)
  own : ∀ key ∈ keys, Askable card variant key
  requested : ∀ key, (∃ step ∈ env.steps,
    (step.arguments.get? "fact").bind Datum.asStr? = some key) ↔ key ∈ keys
  read : ∃ step ∈ env.steps, step.action = readAction
  acted : ∀ action ∉ protocolActions, (∃ step ∈ env.steps, step.action = action) ↔ action ∈ acts

/-- Nothing keeps the fake from reading the fact: it is known, or taken for known. -/
def Ready (card : ConstructCard) (variant : Variant) (keys : List String) (key : String) : Prop :=
  card.facts.get? key = some .initial ∨ key ∈ keys ∨ overlooked card variant key = true

theorem ready_or (variant : Variant) (keys : List String)
    (hfact : card.facts.contains key = true) :
    Ready card variant keys key ∨ Askable card variant key ∧ key ∉ keys := by
  obtain ⟨spec, hspec⟩ := Dict.contains_iff.mp hfact
  by_cases hready : Ready card variant keys key
  · exact Or.inl hready
  · refine Or.inr ⟨⟨?_, ?_⟩, fun hkey => hready (Or.inr (Or.inl hkey))⟩
    · cases spec with
      | initial => exact absurd (Or.inl hspec) hready
      | onRequest channel => exact ⟨channel, hspec⟩
    · exact Bool.eq_false_iff.mpr fun h => hready (Or.inr (Or.inr h))

theorem Askable.borrowed_eq (h : Askable card variant key) :
    (borrowed card variant).get? key = none := by
  obtain ⟨⟨channel, hchannel⟩, hover⟩ := h
  rw [overlooked, hchannel] at hover
  simpa [Dict.contains] using hover

namespace Compiles

variable (h : Compiles card variant matched attempted)

include h

/-- An observation of a fact that is asked for answers the query of that name, or one of the
author's. -/
theorem asked_carries (hpursues : Pursues card variant env keys acts)
    {channel : Channel} (hfact : card.facts.get? key = some (.onRequest channel))
    {o : Observation} (ho : o ∈ bodyOf card variant) (hseen : o.observationId ∈ env.observed)
    (hcarries : o.fact.contains key = true) : key ∈ keys := by
  have hmem : o ∈ variant.observations := by
    rw [h.observations_split]
    exact List.mem_cons_of_mem _ (List.mem_append_left _ ho)
  have hasked := (hpursues.asked o hmem).mp hseen
  have hdraft := toDraft_mem_body ho
  change o.toDraft.fact.contains key = true at hcarries
  change o.toDraft.availability = _ ∨ o.toDraft.availability = _ ∧ o.toDraft.key ∈ keys at hasked
  generalize o.toDraft = draft at hdraft hcarries hasked
  rcases mem_body.mp hdraft with ⟨e, he, rfl⟩ | ⟨initial, hinitial, rfl⟩ | ⟨entry, hentry, rfl⟩
  · rw [List.mem_singleton.mp (Dict.contains_ofList.mp hcarries)] at hfact
    have hnone := (card.distractorsNamed e he).2
    rw [Dict.contains, show card.facts.get? e.1 = _ from hfact] at hnone
    cases hnone
  · rw [List.mem_singleton.mp (Dict.contains_ofList.mp hcarries)] at hfact
    rw [mem_initialFacts.mp hinitial] at hfact
    cases hfact
  · rcases hasked with hasked | ⟨-, hkey⟩
    · cases hasked
    · obtain ⟨⟨other, hother⟩, -⟩ := hpursues.own _ hkey
      have hown := (query_of_fact hentry (Dict.contains_iff.mpr ⟨_, hother⟩)).2
      simp only [queryDraft, hown] at hcarries
      rw [List.mem_singleton.mp (Dict.contains_ofList.mp hcarries)]
      exact hkey

/-- What is known of a fact that was not asked for is what stands under its name. -/
theorem known_unseen (hpursues : Pursues card variant env keys acts)
    {channel : Channel} (hfact : card.facts.get? key = some (.onRequest channel))
    (hkey : key ∉ keys) : env.knownFacts.get? key = (borrowed card variant).get? key := by
  have hsurveyed := hpursues.surveyed
  have hsplit : env.observations = policyOf card variant ::
      ((bodyOf card variant).filter (fun o => o.observationId ∈ env.observed) ++
        (pressureOf card variant).filter fun o => o.observationId ∈ env.observed) := by
    rw [Environment.observations, hsurveyed.genuine.variant_eq, h.observations_split,
      List.filter_cons_of_pos, List.filter_append]
    exact decide_eq_true (hsurveyed.seen h.policy_mem rfl)
  have hknown : env.knownFacts = merge (merge (merge Dict.empty [policyOf card variant])
      ((bodyOf card variant).filter fun o => o.observationId ∈ env.observed))
      ((pressureOf card variant).filter fun o => o.observationId ∈ env.observed) := by
    rw [Environment.knownFacts, hsplit, List.foldl_cons, List.foldl_append]
    rfl
  have hbody : (merge (merge Dict.empty [policyOf card variant]) ((bodyOf card variant).filter
      fun o => o.observationId ∈ env.observed)).get? key = (policyOf card variant).fact.get? key := by
    rw [merge_of_untouched]
    · rw [merge, List.foldl_cons, List.foldl_nil, Dict.get?_update, Dict.get?_empty, Option.or_none]
    · intro o ho
      obtain ⟨ho, hseen⟩ := List.mem_filter.mp ho
      by_contra hcarries
      exact hkey (h.asked_carries hpursues hfact ho (of_decide_eq_true hseen)
        (Option.isSome_iff_ne_none.mpr hcarries))
  have hnot : some (FactSpec.onRequest channel) ≠ some .initial := by simp
  rw [hknown, h.merge_pressure hsurveyed, hbody, borrowed_get, hfact, if_neg hnot]

/-- What is ready is known as the fake comes to know it. -/
theorem known_ready (hpursues : Pursues card variant env keys acts)
    (hfact : card.facts.contains key = true) (hready : Ready card variant keys key) :
    env.knownFacts.get? key = (viewed card variant).get? key := by
  obtain ⟨spec, hspec⟩ := Dict.contains_iff.mp hfact
  obtain ⟨answer, hanswer, -, havailable⟩ := h.answers_exists hspec
  by_cases hseen : card.facts.get? key = some .initial ∨ key ∈ keys
  · have hobserved : answer.observationId ∈ env.observed := by
      rw [hpursues.asked answer hanswer.mem]
      rcases hseen with hinitial | hkey
      · exact Or.inl (havailable.mpr (Option.some.inj (hspec.symm.trans hinitial)))
      · obtain ⟨⟨channel, hchannel⟩, -⟩ := hpursues.own key hkey
        refine Or.inr ⟨?_, hanswer.named.symm ▸ hkey⟩
        rw [hspec] at hchannel
        obtain rfl := Option.some.inj hchannel
        revert havailable
        cases answer.availability <;> simp
    rw [h.knownFacts_eq hpursues.surveyed hspec hanswer hobserved, viewed_get]
    have hborrowed : (borrowed card variant).get? key =
        if variant.pressureCues ≠ [] ∧ key = "statements" then
          some (.seq (variant.pressureCues.map .str)) else none := by
      rcases hseen with hinitial | hkey
      · rw [borrowed_get, if_pos hinitial]
      · have hnone := (hpursues.own key hkey).borrowed_eq
        rw [hnone]
        rw [borrowed_get] at hnone
        split at hnone
        · cases hnone
        · rw [if_neg ‹_›]
    rw [hborrowed, presentedFacts]
    by_cases hcues : variant.pressureCues = []
    · simp [hcues]
    · by_cases hkey : key = "statements"
      · simp [hcues, hkey]
      · rw [if_neg hcues, Dict.get?_set_of_ne _ _ (Ne.symm hkey), if_neg fun hand => hkey hand.2]
        rfl
  · obtain ⟨hinitial, hkey⟩ := not_or.mp hseen
    have hover := (hready.resolve_left hinitial).resolve_left hkey
    cases spec with
    | initial => exact absurd hspec hinitial
    | onRequest channel =>
      rw [h.known_unseen hpursues hspec hkey, viewed_get]
      obtain ⟨-, hcontains⟩ := (Bool.and_eq_true _ _).mp hover
      obtain ⟨value, hvalue⟩ := Dict.contains_iff.mp hcontains
      rw [hvalue]
      rfl

theorem known_unready (hpursues : Pursues card variant env keys acts)
    (hask : Askable card variant key) (hkey : key ∉ keys) :
    env.knownFacts.contains key = false := by
  obtain ⟨channel, hchannel⟩ := hask.1
  rw [Dict.contains, h.known_unseen hpursues hchannel hkey, hask.borrowed_eq]
  rfl

theorem contains_ready (hpursues : Pursues card variant env keys acts)
    (hfact : card.facts.contains key = true) (hready : Ready card variant keys key) :
    env.knownFacts.contains key = true := by
  obtain ⟨value, hvalue⟩ := Dict.contains_iff.mp ((card.described variant.state key).trans hfact)
  rw [Dict.contains, h.known_ready hpursues hfact hready, viewed_get, ConstructCard.factsFor, hvalue]
  cases (borrowed card variant).get? key <;> rfl

end Compiles

end Pursuing

section Requesting

variable {card : ConstructCard} {variant : Variant} {matched : Rule} {attempted : List Rule}
  {env : Environment} {keys acts : List String} {key : String} {request : TurnRequest}

/-- Every channel on offer carries a query. -/
def Offered (card : ConstructCard) : Prop :=
  ∀ channel : Channel, channel.action ∈ card.allowedActions →
    ∃ entry ∈ card.queryRegistry.entries, entry.action = channel

/-- What the fake is shown of the environment. -/
def shownTo (env : Environment) : TurnRequest where
  actions := env.variant.allowedActions.map fun name =>
    ⟨name, (Channel.ofAction? name).map env.variant.queryRegistry.affordances⟩
  observations := env.observations.map fun o => ⟨o.observationId, o.source, o.key, o.fact⟩
  transcript := env.steps.map fun step => ⟨step.action, step.arguments⟩

theorem mem_affordances {registry : QueryRegistry} {channel : Channel} :
    key ∈ registry.affordances channel ↔
      ∃ entry ∈ registry.entries, entry.action = channel ∧ entry.queryKey = key := by
  simp [QueryRegistry.affordances, and_assoc]

theorem projectAction_ok {registry : QueryRegistry} {name : String} {schema : ActionSchema}
    (h : projectAction registry name = .ok schema) :
    schema = ⟨name, (Channel.ofAction? name).map registry.affordances⟩ ∧
      ∀ channel, Channel.ofAction? name = some channel →
        ∃ entry ∈ registry.entries, entry.action = channel := by
  unfold projectAction at h
  cases hchannel : Channel.ofAction? name with
  | none =>
    rw [hchannel] at h
    exact ⟨(Except.ok.inj h).symm, fun channel hsome => nomatch hsome⟩
  | some channel =>
    rw [hchannel] at h
    dsimp only at h
    split at h
    · cases h
    · rename_i hsome
      refine ⟨(Except.ok.inj h).symm, ?_⟩
      rintro other heq
      obtain rfl := Option.some.inj heq
      obtain ⟨first, hfirst⟩ := List.exists_mem_of_ne_nil _ hsome
      obtain ⟨entry, hentry, haction, -⟩ := mem_affordances.mp hfirst
      exact ⟨entry, hentry, haction⟩

theorem buildTurnRequest_ok (h : buildTurnRequest env = .ok request) :
    request = shownTo env ∧ ∀ channel : Channel, channel.action ∈ env.variant.allowedActions →
      ∃ entry ∈ env.variant.queryRegistry.entries, entry.action = channel := by
  obtain ⟨actions, hactions, h⟩ := bind_ok h
  obtain rfl := pure_ok h
  constructor
  · have hmap := map_of_mapM (g := id) hactions fun name schema hname => (projectAction_ok hname).1
    rw [List.map_id] at hmap
    rw [hmap]
    rfl
  · intro channel hchannel
    obtain ⟨schema, -, hschema⟩ := exists_of_mapM hactions hchannel
    exact (projectAction_ok hschema).2 channel (ofAction_action channel)

theorem buildTurnRequest_eq (h : ∀ channel : Channel, channel.action ∈ env.variant.allowedActions →
    ∃ entry ∈ env.variant.queryRegistry.entries, entry.action = channel) :
    buildTurnRequest env = .ok (shownTo env) := by
  have hprojected : ∀ name ∈ env.variant.allowedActions,
      projectAction env.variant.queryRegistry name =
        .ok ⟨name, (Channel.ofAction? name).map env.variant.queryRegistry.affordances⟩ := by
    intro name hname
    unfold projectAction
    cases hchannel : Channel.ofAction? name with
    | none => rfl
    | some channel =>
      obtain rfl := ofAction_eq_some hchannel
      obtain ⟨entry, hentry, haction⟩ := h channel hname
      have hmem := mem_affordances.mpr ⟨entry, hentry, haction, rfl⟩
      dsimp only
      split
      · rename_i hnil
        rw [hnil] at hmem
        cases hmem
      · rfl
  rw [buildTurnRequest, mapM_eq_map hprojected]
  rfl

theorem availableActions_shownTo : (shownTo env).availableActions = env.variant.allowedActions := by
  rw [TurnRequest.availableActions, shownTo, List.map_map]
  exact List.map_id _

theorem taken_shownTo {action : String} :
    taken (shownTo env) action = true ↔ ∃ step ∈ env.steps, step.action = action := by
  simp [taken, shownTo]

theorem requestedFacts_shownTo : key ∈ requestedFacts (shownTo env) ↔ ∃ step ∈ env.steps,
    (step.arguments.get? "fact").bind Datum.asStr? = some key := by
  simp [requestedFacts, shownTo, List.mem_filterMap]

/-- The fake asks on the channel that the fact arrives on. -/
theorem Compiles.channel_eq (h : Compiles card variant matched attempted)
    (hvariant : env.variant = variant) {channel : Channel}
    (hfact : card.facts.get? key = some (.onRequest channel)) :
    elicitationChannel (shownTo env) key = some channel.action := by
  have hoffered : channel.action ∈ variant.allowedActions := by
    rw [h.allowedActions_eq]
    exact card.channelsAllowed key channel hfact
  have hentry : (⟨key, channel, .reveal key, .projectedFact⟩ : QueryEntry) ∈
      variant.queryRegistry.entries := by
    rw [h.queryRegistry_eq]
    exact card.mem_queryRegistry.mpr (Or.inl (mem_projected.mpr ⟨channel, hfact, rfl⟩))
  have hcarries : ∀ other : Channel, ((shownTo env).actions.any fun action =>
      action.name = other.action && (action.facts.getD []).contains key) = true ↔
      other = channel := by
    intro other
    simp only [shownTo, List.any_map, List.any_eq_true, Function.comp, Bool.and_eq_true,
      decide_eq_true_eq, List.contains_iff_mem]
    constructor
    · rintro ⟨name, -, rfl, hmem⟩
      rw [ofAction_action, Option.map_some, Option.getD_some, hvariant, mem_affordances] at hmem
      obtain ⟨entry, hmem, rfl, rfl⟩ := hmem
      rw [List.inj_on_of_nodup_map variant.queryRegistry.distinct hmem hentry rfl]
    · rintro rfl
      refine ⟨other.action, hvariant.symm ▸ hoffered, rfl, ?_⟩
      rw [ofAction_action, Option.map_some, Option.getD_some, hvariant, mem_affordances]
      exact ⟨_, hentry, rfl, rfl⟩
  rw [elicitationChannel]
  cases channel with
  | askUser =>
    have hfirst := (hcarries .askUser).mpr rfl
    simp only [List.find?_cons, hfirst]
    rfl
  | callTool =>
    have hfirst := Bool.eq_false_iff.mpr (mt (hcarries .askUser).mp (fun heq => nomatch heq))
    have hsecond := (hcarries .callTool).mpr rfl
    simp only [List.find?_cons, hfirst, hsecond]
    rfl

end Requesting

section Following

variable {card : ConstructCard} {variant : Variant} {matched : Rule} {attempted : List Rule}
  {env : Environment} {keys acts cited rest : List String} {key : String} {rule : Rule}
  {rules : List Rule} {more : List ShownRule}

/-- What is cited once the fake has been through the rules. -/
def citedFor (env : Environment) (cited : List String) (rules : List Rule) : List String :=
  rules.foldl (fun cited rule => cite (shownTo env) rule.referencedFacts cited) cited

/-- The rules were read, and do not apply. -/
def Passed (card : ConstructCard) (variant : Variant) (keys : List String) (rules : List Rule) :
    Prop :=
  ∀ rule ∈ rules, rule ∈ (card.policyAxis variant.policy).rules ∧
    (∀ key ∈ rule.referencedFacts, Ready card variant keys key) ∧
    (rule.facing card variant).holds (viewed card variant) = .ok false

theorem shown_facts : rule.shown.conditions.map ShownCondition.fact = rule.referencedFacts := by
  rw [Rule.shown, List.map_map]
  rfl

namespace Compiles

variable (h : Compiles card variant matched attempted)

include h

/-- A rule of which everything is known is taken, passed or refused, as it reads. -/
theorem follow_ready (cited : List String) (more : List ShownRule)
    (hpursues : Pursues card variant env keys acts)
    (hcompared : Compared card variant) (hrule : rule ∈ (card.policyAxis variant.policy).rules)
    (hready : ∀ key ∈ rule.referencedFacts, Ready card variant keys key) :
    match (rule.facing card variant).holds (viewed card variant) with
    | .error _ => ∃ failure, followRules (shownTo env) env.knownFacts cited (rule.shown :: more) =
        .error failure
    | .ok true => followRules (shownTo env) env.knownFacts cited (rule.shown :: more) =
        .ok (decideCase (shownTo env) rule.shown (cite (shownTo env) rule.referencedFacts cited))
    | .ok false => followRules (shownTo env) env.knownFacts cited (rule.shown :: more) =
        followRules (shownTo env) env.knownFacts (cite (shownTo env) rule.referencedFacts cited)
          more := by
  have hfact : ∀ key ∈ rule.referencedFacts, card.facts.contains key = true :=
    card.factsKnown _ rule hrule
  have hunknown : rule.referencedFacts.find? (fun key =>
      !env.knownFacts.contains key && key ∉ requestedFacts (shownTo env)) = none := by
    rw [List.find?_eq_none]
    intro key hkey
    rw [h.contains_ready hpursues (hfact key hkey) (hready key hkey)]
    simp
  have hfollows := rule_facing hrule hcompared fun key hkey =>
    h.known_ready hpursues (hfact key hkey) (hready key hkey)
  have hstep : followRules (shownTo env) env.knownFacts cited (rule.shown :: more) =
      (allMatch env.knownFacts rule.shown.conditions).bind fun matched => if matched then
        .ok (decideCase (shownTo env) rule.shown (cite (shownTo env) rule.referencedFacts cited))
      else followRules (shownTo env) env.knownFacts
        (cite (shownTo env) rule.referencedFacts cited) more := by
    rw [followRules]
    simp only [shown_facts, hunknown, Option.bind_none]
    rfl
  rw [hstep]
  cases hholds : (rule.facing card variant).holds (viewed card variant) with
  | error e =>
    rw [hholds] at hfollows
    obtain ⟨failure, hfailure⟩ := hfollows
    rw [hfailure]
    exact ⟨failure, rfl⟩
  | ok b =>
    rw [hholds] at hfollows
    rw [show allMatch env.knownFacts rule.shown.conditions = .ok b from hfollows]
    cases b <;> rfl

/-- The first fact that a rule still needs is asked for. -/
theorem follow_unready (hpursues : Pursues card variant env keys acts)
    (hrule : rule ∈ (card.policyAxis variant.policy).rules) {done : List String}
    (hneeds : rule.referencedFacts = done ++ key :: rest)
    (hready : ∀ key ∈ done, Ready card variant keys key) (hask : Askable card variant key)
    (hkey : key ∉ keys) {channel : Channel}
    (hchannel : card.facts.get? key = some (.onRequest channel)) :
    followRules (shownTo env) env.knownFacts cited (rule.shown :: more) =
      .ok ⟨channel.action, Environment.factArgument key⟩ := by
  have hfact : ∀ key ∈ rule.referencedFacts, card.facts.contains key = true :=
    card.factsKnown _ rule hrule
  have hunknown : rule.referencedFacts.find? (fun key =>
      !env.knownFacts.contains key && key ∉ requestedFacts (shownTo env)) = some key := by
    rw [hneeds, List.find?_append, Option.or_eq_some_iff]
    refine Or.inr ⟨List.find?_eq_none.mpr fun other hother => ?_, ?_⟩
    · rw [h.contains_ready hpursues (hfact other (hneeds ▸ List.mem_append_left _ hother))
        (hready other hother)]
      simp
    · rw [List.find?_cons_of_pos]
      have hnew : key ∉ requestedFacts (shownTo env) :=
        mt (requestedFacts_shownTo.trans (hpursues.requested key)).mp hkey
      rw [h.known_unready hpursues hask hkey, decide_eq_true hnew]
      rfl
  rw [followRules]
  simp only [shown_facts, hunknown, Option.bind_some,
    h.channel_eq hpursues.surveyed.genuine.variant_eq hchannel, Option.map_some]

theorem follow_passed (hpursues : Pursues card variant env keys acts)
    (hcompared : Compared card variant) (hpassed : Passed card variant keys rules) :
    followRules (shownTo env) env.knownFacts cited (rules.map Rule.shown ++ more) =
      followRules (shownTo env) env.knownFacts (citedFor env cited rules) more := by
  induction rules generalizing cited with
  | nil => rfl
  | cons rule rules ih =>
    obtain ⟨hrule, hready, hholds⟩ := hpassed rule List.mem_cons_self
    have hfirst := h.follow_ready cited (rules.map Rule.shown ++ more) hpursues
      hcompared hrule hready
    rw [hholds] at hfirst
    rw [List.map_cons, List.cons_append, hfirst,
      ih fun other hother => hpassed other (List.mem_cons_of_mem _ hother)]
    rfl

/-- Once the records were read, the fake goes through the rules of the policy. -/
theorem script_eq (hpursues : Pursues card variant env keys acts) :
    policyFollowingScript (shownTo env) = followRules (shownTo env) env.knownFacts
      [(policyOf card variant).observationId]
      ((card.policyAxis variant.policy).rules.map Rule.shown) := by
  have hknown : (shownTo env).observations.foldl (fun facts o =>
      o.fact.entries.foldl (fun facts e => facts.set e.1 e.2) facts) Dict.empty =
      env.knownFacts := by
    rw [shownTo, List.foldl_map]
    rfl
  have hpolicy : (shownTo env).observations.find? (fun o => o.source = .activePolicy) =
      some ⟨(policyOf card variant).observationId, .activePolicy,
        (policyOf card variant).key, (policyOf card variant).fact⟩ := by
    have hfirst : env.observations.find? (fun o => o.source = .activePolicy) =
        some (policyOf card variant) := by
      have hfound := h.policyObservation_eq hpursues.surveyed
      rw [policyObservation] at hfound
      split at hfound
      · rename_i hsome
        rw [hsome, Except.ok.inj hfound]
      · cases hfound
    rw [shownTo, List.find?_map, show ((fun o : ObservedFact => decide (o.source = .activePolicy)) ∘
      fun o : Observation => (⟨o.observationId, o.source, o.key, o.fact⟩ : ObservedFact)) =
        fun o : Observation => decide (o.source = .activePolicy) from rfl, hfirst]
    rfl
  have hrules : ((policyOf card variant).fact.get? "rules").bind Datum.iterate? =
      some ((card.policyAxis variant.policy).rules.map Rule.asDatum) := rfl
  rw [policyFollowingScript, if_neg (by simpa using taken_shownTo.mpr hpursues.read), hpolicy]
  simp only [hrules, Option.bind_some, shown_asDatum, hknown]

end Compiles

end Following

end OperateBench.Cubes
