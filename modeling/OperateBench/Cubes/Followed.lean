import OperateBench.Cubes.Solved
import OperateBench.Cubes.Turns

/-! # Following the policy

The fake decides a compiled case as the compiler does, when it compares as the compiler does and
nothing in the record has taken the name of a fact. It takes `ne` for `lte`, so a policy that tells
two amounts apart by `ne` is not followed.
-/

namespace OperateBench.Cubes

open Foundation

section Statements

variable (str : Datum → String) (card : ConstructCard) (variant : Variant)

/-- With enough turns the fake decides the case as expected, and passes all six predicates. Where
the compiler compared two values, the fake finds the same. -/
structure FollowsPolicy : Prop where
  decides : ∃ env decision, EndsIn str { variant } (.ok env) ∧ env.terminal = some decision ∧
    decision.disposition = variant.expectedDisposition.text ∧
    decision.primaryReasonCode = variant.expectedPrimaryReason ∧
    ∃ evaluation, evaluate variant env.trajectory = .ok evaluation ∧ evaluation.passed = true
  compares : ∀ rule ∈ (card.policyAxis variant.policy).rules, ∀ condition ∈ rule.conditions, ∀ b,
    condition.holds (card.factsFor variant.state) = .ok b →
      condition.shown.matches (card.factsFor variant.state) = .ok b

/-- When the fake is right: it is offered queries, it compares what the compiler compares, and what
it sees under the names of facts leads it to the same rule over the same facts. Its actions are
those that the card calls irreversible. -/
structure Followable : Prop where
  offered : Offered card
  compared : Compared card variant
  presented : ∃ rule keys, firstMatch (viewed card variant)
      ((card.policyAxis variant.policy).rules.map (Rule.facing card variant)) =
        .ok (some (rule, keys)) ∧
    rule.decision = variant.expectedDisposition ∧
    rule.primaryReason = variant.expectedPrimaryReason ∧
    (∀ key, key ∈ lookedAt card variant ↔ key ∈ keys ∧ overlooked card variant key = false) ∧
    (variant.pressureCues ≠ [] → "irrelevant_pressure" ∉ keys)
  performed : variant.expectedDisposition = .act → Environment.addNew []
    (card.allowedActions.filter (· ∉ protocolActions)) = card.irreversibleActions

end Statements

section Grading

variable (str : Datum → String) {card : ConstructCard} {variant : Variant} {matched rule : Rule}
  {attempted rules : List Rule} {env last : Environment} {keys acts needed : List String}

namespace Compiles

variable (h : Compiles card variant matched attempted)

include h

omit h in
theorem compares_iff : (∀ rule ∈ (card.policyAxis variant.policy).rules,
    ∀ condition ∈ rule.conditions, ∀ b, condition.holds (card.factsFor variant.state) = .ok b →
      condition.shown.matches (card.factsFor variant.state) = .ok b) ↔ Compared card variant := by
  refine forall₂_congr fun rule hrule => forall₂_congr fun condition hcondition =>
    forall₂_congr fun b hb => ?_
  have hfact : card.facts.contains condition.fact = true :=
    card.factsKnown _ rule hrule _ (List.mem_map_of_mem hcondition)
  obtain ⟨value, hvalue⟩ :=
    Dict.contains_iff.mp ((card.described variant.state condition.fact).trans hfact)
  have hown : (card.factsFor variant.state).value condition.fact = value := by
    rw [FactValues.value, ConstructCard.factsFor, hvalue]
    rfl
  rw [hown]
  exact matches_iff hvalue hb

/-- The decision of the fake passes when it is the right one on the right evidence, after the right
actions. -/
theorem decision_passes (hpursues : Pursues card variant env keys []) (hnone : env.mutations = [])
    (hkeys : ∀ key, key ∈ keys ↔ key ∈ needed ∧ Askable card variant key)
    (hknown : ∀ key ∈ needed, card.facts.contains key = true)
    (hneeded : rules.flatMap Rule.referencedFacts = needed)
    (hirreversible : ∀ action ∈ acts, action ∈ variant.irreversibleActions)
    (hfold : acts.foldlM Environment.act env = .ok last)
    (hlast : Pursues card variant last keys acts) {decision : TerminalDecision}
    (hdecision : decision = ⟨decision.disposition, decision.primaryReasonCode, [],
      citedFor last [(policyOf card variant).observationId] rules⟩) :
    (decision.disposition = variant.expectedDisposition.text ∧
      decision.primaryReasonCode = variant.expectedPrimaryReason ∧
      ∃ evaluation, evaluate variant (last.closed decision).trajectory = .ok evaluation ∧
        evaluation.passed = true) ↔
      decision.disposition = variant.expectedDisposition.text ∧
      decision.primaryReasonCode = variant.expectedPrimaryReason ∧
      acts = variant.expectedMutations ∧
      (∀ key, key ∈ lookedAt card variant ↔ key ∈ needed ∧ overlooked card variant key = false) ∧
      (variant.pressureCues ≠ [] → "irrelevant_pressure" ∉ needed) := by
  have hwf := h.wellFormed
  have hrunning := hlast.surveyed.running
  obtain ⟨performed, hperform, hperformed⟩ := hpursues.surveyed.running.perform hwf hirreversible
  obtain rfl := Except.ok.inj (hperform.symm.trans hfold)
  obtain ⟨history, hhistory, hnames, -, -⟩ := hperformed.mutations
  rw [hnone, List.nil_append] at hhistory
  have hrefs : decision.evidenceRefs =
      citedFor performed [(policyOf card variant).observationId] rules := by rw [hdecision]
  have hdistinct : decision.evidenceRefs.Nodup :=
    hrefs ▸ nodup_citedFor (List.nodup_singleton _)
  have hseen : ∀ ref ∈ decision.evidenceRefs, ref ∈ performed.observed ∧
      ref ∈ variant.observations.map Observation.observationId := by
    intro ref href
    rw [hrefs, mem_citedFor, List.mem_singleton] at href
    rcases href with rfl | ⟨o, ho, -, rfl⟩
    · exact ⟨hlast.surveyed.seen h.policy_mem rfl, List.mem_map_of_mem h.policy_mem⟩
    · obtain ⟨hmem, hobserved⟩ := (mem_seen hlast.surveyed).mp ho
      exact ⟨hobserved, List.mem_map_of_mem hmem⟩
  have hcites := h.cites_required hlast hkeys hknown hneeded
  rw [← hrefs] at hcites
  have hevidence := @closed_evidence variant performed decision hdistinct
    (fun ref href => (hseen ref href).2) fun ref href => (hseen ref href).1
  have hmutations : checkMutations variant (performed.closed decision).trajectory = none ↔
      acts = variant.expectedMutations := by
    rw [closed_mutations, hhistory, hnames]
  have hgraded := @Running.evaluate_eq variant performed decision hrunning hwf h.variantId_ne
  refine and_congr_right fun hdisposition => and_congr_right fun hreason => ?_
  constructor
  · rintro ⟨evaluation, hevaluated, hpassed⟩
    obtain rfl := Except.ok.inj (hevaluated.symm.trans hgraded)
    have hall := grade_passed.mp hpassed
    exact ⟨hmutations.mp (hall .mutations), hcites.mp (hevidence.mp (hall .evidence))⟩
  · rintro ⟨hacts, hlooked⟩
    have hrequired := hcites.mpr hlooked
    rw [hdisposition, hreason, ← hrefs] at hdecision
    obtain ⟨other, hother, -, -, hrest⟩ := h.concluded hpursues.surveyed hnone hdistinct
      (fun ref href => hperformed.observed ▸ (hseen ref href).1)
      fun ref href => (hseen ref href).2
    rw [perform_append, perform_acts, ← hacts, hperform, ← hdecision] at hother
    have hclosed : other = performed.closed decision := by
      change Environment.perform performed [_] = _ at hother
      rw [Environment.perform, List.foldlM_cons, Environment.call,
        hrunning.completeCase hwf] at hother
      exact (Except.ok.inj hother).symm
    obtain ⟨hordering, hinvariants⟩ := hrest fun ref href =>
      hperformed.observed ▸ (hseen ref ((hrequired ref).mpr href)).1
    rw [hclosed] at hordering hinvariants
    have hsame : checkDisposition variant (performed.closed decision).trajectory = none :=
      closed_disposition.mpr hdisposition
    have hsameReason : checkPrimaryReason variant (performed.closed decision).trajectory = none :=
      closed_primaryReason.mpr hreason
    refine ⟨_, hgraded, grade_passed.mpr fun predicate => ?_⟩
    cases predicate with
    | disposition => exact hsame
    | primaryReason => exact hsameReason
    | evidence => exact hevidence.mpr hrequired
    | mutations => exact hmutations.mpr hacts
    | ordering => exact hordering
    | invariants => exact hinvariants

/-- What the fake has done when it comes to decide by a rule. -/
def performedUnder (variant : Variant) (rule : Rule) : List String :=
  if rule.decision = .act then Environment.addNew [] (pendingActions variant []) else []

/-- Once a rule is taken, the fake acts and decides, or is refused an action. -/
theorem settles (hoffered : Offered card) (hcompared : Compared card variant) {passed : List Rule}
    (hdecided : Decided card variant keys passed rule)
    (hpursues : Pursues card variant env keys []) :
    (∃ last, (∀ action ∈ performedUnder variant rule, action ∈ variant.irreversibleActions) ∧
      (performedUnder variant rule).foldlM Environment.act env = .ok last ∧
      Pursues card variant last keys (performedUnder variant rule) ∧
      EndsIn str env (.ok (last.closed ⟨rule.decision.text, rule.primaryReason, [],
        citedFor last [(policyOf card variant).observationId] (passed ++ [rule])⟩))) ∨
    (∃ action ∈ performedUnder variant rule, action ∉ variant.irreversibleActions) ∧
      ∃ failure, EndsIn str env (.error failure) := by
  cases hact : rule.decision with
  | stop =>
    have hnone : performedUnder variant rule = [] := by
      rw [performedUnder, if_neg (by rw [hact]; simp)]
    have hscript : policyFollowingScript (shownTo env) = .ok (terminalCall Disposition.stop.text
        rule.primaryReason (citedFor env [(policyOf card variant).observationId]
          (passed ++ [rule]))) := by
      rw [h.script_decided hpursues hcompared hdecided, decideCase]
      simp only [Rule.shown, hact]
      split <;> rfl
    rw [hnone]
    exact Or.inl ⟨env, by simp, rfl, hpursues,
      h.complete_turn str hoffered hpursues hscript⟩
  | act =>
    have hall : performedUnder variant rule = Environment.addNew [] (pendingActions variant []) := by
      rw [performedUnder, if_pos hact]
    rcases h.acts_out str hoffered hcompared hdecided hact hpursues with
      ⟨performed, last, hperformed, hirreversible, hfold, hlast, hnone, htransfer⟩ |
      ⟨⟨action, haction, hrefused⟩, hfailure⟩
    · rw [List.nil_append, ← hall] at hperformed
      subst hperformed
      rw [List.nil_append] at hlast hnone
      have hscript : policyFollowingScript (shownTo last) = .ok (terminalCall Disposition.act.text
          rule.primaryReason (citedFor last [(policyOf card variant).observationId]
            (passed ++ [rule]))) := by
        rw [h.script_decided hlast hcompared hdecided, decideCase, pending_eq hlast, hnone]
        simp only [Rule.shown, hact]
      exact Or.inl ⟨last, hirreversible, hfold, hlast,
        htransfer _ (h.complete_turn str hoffered hlast hscript)⟩
    · refine Or.inr ⟨⟨action, ?_, hrefused⟩, hfailure⟩
      rw [hall]
      exact mem_addNew.mpr (Or.inr haction)

/-- Where the fake is offered queries and compares alike, it is right when the rest is in order. -/
theorem decides_iff (hoffered : Offered card) (hcompared : Compared card variant) :
    (∃ env decision, EndsIn str { variant } (.ok env) ∧ env.terminal = some decision ∧
      decision.disposition = variant.expectedDisposition.text ∧
      decision.primaryReasonCode = variant.expectedPrimaryReason ∧
      ∃ evaluation, evaluate variant env.trajectory = .ok evaluation ∧
        evaluation.passed = true) ↔ Followable card variant := by
  have hwf := h.wellFormed
  obtain ⟨start, hfirst, hquiet, hopened⟩ := h.first_turn str hoffered
  have hstart : ∀ {r}, EndsIn str start r → EndsIn str { variant } r :=
    fun hr => hr.step rfl hfirst
  have hwalk := h.goes_through str hoffered hcompared (List.nil_append _).symm hopened
    fun _ hrule => nomatch hrule
  cases hfound : firstMatch (viewed card variant)
      ((card.policyAxis variant.policy).rules.map (Rule.facing card variant)) with
  | error e =>
    rw [hfound] at hwalk
    obtain ⟨failure, hfailed⟩ := hwalk
    constructor
    · rintro ⟨env, decision, hends, -⟩
      exact nomatch (hstart hfailed).unique hends
    · intro hfollow
      obtain ⟨rule, keys, hmatch, -⟩ := hfollow.presented
      exact nomatch hfound.symm.trans hmatch
  | ok found =>
    rw [hfound] at hwalk
    cases found with
    | none =>
      obtain ⟨env', -, ⟨keys', hpursues⟩, hscript, htransfer⟩ := hwalk
      have hclosed := hstart (htransfer _ (h.complete_turn str hoffered hpursues hscript))
      constructor
      · rintro ⟨env, decision, hends, hterminal, -, -, evaluation, hevaluated, hpassed⟩
        obtain rfl := Except.ok.inj (hclosed.unique hends)
        obtain rfl := Except.ok.inj (hevaluated.symm.trans
          (hpursues.surveyed.running.evaluate_eq hwf h.variantId_ne))
        have hchecked : checkEvidence variant (env'.closed
            ⟨"STOP", "NO_APPLICABLE_RULE", [], []⟩).trajectory = none :=
          grade_passed.mp hpassed .evidence
        have hcited := evidence_cites hchecked (h.mem_required.mpr (Or.inl rfl))
        cases hcited
      · intro hfollow
        obtain ⟨rule, keys, hmatch, -⟩ := hfollow.presented
        exact nomatch hfound.symm.trans hmatch
    | some found =>
      obtain ⟨found, needed⟩ := found
      obtain ⟨env', keys', walked, rule, hpursues, hsame, rfl, hdecided, hneeded, hkeys, htransfer⟩ :=
        hwalk
      rw [List.nil_append] at hdecided
      have hrules : ∀ other ∈ walked ++ [rule], other ∈ (card.policyAxis variant.policy).rules := by
        obtain ⟨rest, hrest⟩ := hdecided.rules
        intro other hother
        rw [hrest, List.append_cons]
        exact List.mem_append_left _ hother
      have hknown : ∀ key ∈ needed, card.facts.contains key = true := by
        intro key hkey
        obtain ⟨other, hother, hkey⟩ := List.mem_flatMap.mp (hneeded ▸ hkey)
        exact card.factsKnown _ other (hrules other hother) key hkey
      simp only [List.not_mem_nil, false_or] at hkeys
      have hpresented : ∀ {other : Rule} {keys : List String}, firstMatch (viewed card variant)
          ((card.policyAxis variant.policy).rules.map (Rule.facing card variant)) =
            .ok (some (other, keys)) → rule.facing card variant = other ∧ needed = keys := by
        intro other keys hmatch
        exact Prod.ext_iff.mp (Option.some.inj (Except.ok.inj (hfound.symm.trans hmatch)))
      have hperformed : rule.decision = variant.expectedDisposition →
          (performedUnder variant rule = variant.expectedMutations ↔
            (variant.expectedDisposition = .act → Environment.addNew []
              (card.allowedActions.filter (· ∉ protocolActions)) = card.irreversibleActions)) := by
        intro hdecision
        have hpending : pendingActions variant [] =
            card.allowedActions.filter (· ∉ protocolActions) := by
          rw [pendingActions, h.allowedActions_eq]
          simp
        rw [performedUnder, h.expectedMutations_eq, hdecision, h.expectedDisposition_eq, hpending]
        cases matched.decision <;> simp
      rcases h.settles str hoffered hcompared hdecided hpursues with
        ⟨last, hirreversible, hfold, hlast, hends⟩ | ⟨⟨action, haction, hrefused⟩, failure, hfailed⟩
      · have hclosed := hstart (htransfer _ hends)
        let decided : TerminalDecision := ⟨rule.decision.text, rule.primaryReason, [],
          citedFor last [(policyOf card variant).observationId] (walked ++ [rule])⟩
        have hpasses := h.decision_passes hpursues (hsame.trans hquiet) hkeys hknown hneeded.symm
          hirreversible hfold hlast (show decided = _ from rfl)
        constructor
        · rintro ⟨env, decision, hends', hterminal, hgood⟩
          obtain rfl := Except.ok.inj (hclosed.unique hends')
          obtain rfl := Option.some.inj hterminal
          obtain ⟨hdisposition, hreason, hacts, hlooked, hpressure⟩ := hpasses.mp hgood
          have hdecision := text_inj.mp hdisposition
          exact ⟨hoffered, hcompared, ⟨_, _, hfound, hdecision, hreason, hlooked, hpressure⟩,
            (hperformed hdecision).mp hacts⟩
        · intro hfollow
          obtain ⟨other, keys, hmatch, hdecision, hreason, hlooked, hpressure⟩ := hfollow.presented
          obtain ⟨rfl, rfl⟩ := hpresented hmatch
          refine ⟨_, _, hclosed, rfl, hpasses.mpr ⟨text_inj.mpr hdecision, hreason, ?_, hlooked,
            hpressure⟩⟩
          exact (hperformed hdecision).mpr hfollow.performed
      · constructor
        · rintro ⟨env, decision, hends', -⟩
          exact nomatch (hstart (htransfer _ hfailed)).unique hends'
        · intro hfollow
          obtain ⟨other, keys, hmatch, hdecision, -⟩ := hfollow.presented
          obtain ⟨rfl, rfl⟩ := hpresented hmatch
          rw [(hperformed hdecision).mpr hfollow.performed, h.expectedMutations_eq] at haction
          rw [h.irreversibleActions_eq] at hrefused
          split at haction
          · exact absurd haction hrefused
          · cases haction

end Compiles

end Grading

section Followed

variable {card : ConstructCard} {cube : Cube} {variant : Variant}

theorem offered_of_ends {str : Datum → String} {matched : Rule} {attempted : List Rule}
    (h : Compiles card variant matched attempted) {env : Environment}
    (hends : EndsIn str { variant } (.ok env)) : Offered card := by
  cases hrequest : buildTurnRequest { variant } with
  | ok request =>
    have hoffered := (buildTurnRequest_ok hrequest).2
    rw [h.allowedActions_eq, h.queryRegistry_eq] at hoffered
    exact hoffered
  | error failure =>
    have hturn : fakeTurn str { variant } = .error failure := by
      rw [fakeTurn, hrequest]
      rfl
    cases (LeadsTo.failed rfl hturn).unique hends

/-- The fake follows the policy as the compiler means it just in these cases. -/
theorem follows_policy_iff (str : Datum → String) (h : compileCube card = .ok cube)
    (hvariant : variant ∈ cube.variants) :
    FollowsPolicy str card variant ↔ Followable card variant := by
  obtain ⟨matched, attempted, hcompiles⟩ := compileCube_ok h hvariant
  constructor
  · rintro ⟨hdecides, hcompares⟩
    obtain ⟨env, decision, hends, -⟩ := id hdecides
    have hoffered := offered_of_ends hcompiles hends
    exact (hcompiles.decides_iff str hoffered (Compiles.compares_iff.mp hcompares)).mp hdecides
  · intro hfollow
    exact ⟨(hcompiles.decides_iff str hfollow.offered hfollow.compared).mpr hfollow,
      Compiles.compares_iff.mpr hfollow.compared⟩

instance (op : ConditionOp) (observed value : Datum) (holds : Bool) :
    Decidable (Agrees op observed value holds) :=
  match op with
  | .eq => inferInstanceAs (Decidable (holds = true → observed.sameType value = true))
  | .ne => inferInstanceAs (Decidable (if observed.isNumber = true then
      observed.less? value = some true else holds = false))
  | .lte | .lt | .gte | .gt =>
    inferInstanceAs (Decidable (observed.isNumber = true ∨ holds = false))

/-- `Followable`, decided. -/
def isFollowable (card : ConstructCard) (variant : Variant) : Bool :=
  let rules := (card.policyAxis variant.policy).rules
  let facts := card.factsFor variant.state
  [Channel.askUser, .callTool].all (fun channel => channel.action ∉ card.allowedActions ||
    card.queryRegistry.entries.any fun entry => entry.action = channel) &&
  rules.all (fun rule => rule.conditions.all fun condition => match condition.holds facts with
    | .ok b => decide (Agrees condition.op (facts.value condition.fact) condition.value b)
    | .error _ => true) &&
  (match firstMatch (viewed card variant) (rules.map (Rule.facing card variant)) with
    | .ok (some (rule, keys)) => rule.decision = variant.expectedDisposition &&
        rule.primaryReason = variant.expectedPrimaryReason &&
        (lookedAt card variant).all (fun key => key ∈ keys && !overlooked card variant key) &&
        keys.all (fun key => overlooked card variant key || key ∈ lookedAt card variant) &&
        (variant.pressureCues.isEmpty || "irrelevant_pressure" ∉ keys)
    | _ => false) &&
  (variant.expectedDisposition ≠ .act || Environment.addNew []
    (card.allowedActions.filter (· ∉ protocolActions)) = card.irreversibleActions)

theorem followable_of_isFollowable (h : isFollowable card variant = true) :
    Followable card variant := by
  simp only [isFollowable, Bool.and_eq_true, List.all_eq_true] at h
  obtain ⟨⟨⟨hoffered, hcompared⟩, hpresented⟩, hperformed⟩ := h
  constructor
  · intro channel hchannel
    have hfound := hoffered channel (by cases channel <;> simp)
    simp only [Bool.or_eq_true, decide_eq_true_eq, List.any_eq_true] at hfound
    exact hfound.resolve_left (not_not.mpr hchannel)
  · intro rule hrule condition hcondition b hb
    have hagrees := hcompared rule hrule condition hcondition
    rw [hb] at hagrees
    exact of_decide_eq_true hagrees
  · split at hpresented
    · rename_i rule keys hfound
      simp only [Bool.and_eq_true, decide_eq_true_eq, List.all_eq_true, Bool.or_eq_true,
        Bool.not_eq_true', List.isEmpty_iff] at hpresented
      obtain ⟨⟨⟨⟨hdecision, hreason⟩, hlooked⟩, hneeded⟩, hpressure⟩ := hpresented
      refine ⟨rule, keys, hfound, hdecision, hreason, fun key => ⟨hlooked key, ?_⟩, fun hcues => ?_⟩
      · rintro ⟨hkey, hover⟩
        exact (hneeded key hkey).resolve_left (by rw [hover]; simp)
      · exact hpressure.resolve_left hcues
    · cases hpresented
  · intro hact
    simp only [Bool.or_eq_true, decide_eq_true_eq] at hperformed
    exact hperformed.resolve_left (not_not.mpr hact)

theorem quote_policy_followed : ∃ cube, compileCube quoteCard = .ok cube ∧
    ∀ variant ∈ cube.variants, FollowsPolicy (fun _ => "") quoteCard variant := by
  obtain ⟨cube, hcube, hfollow⟩ := ok_of_any (x := compileCube quoteCard)
    (p := fun cube => cube.variants.all (isFollowable quoteCard)) (by decide +kernel)
  refine ⟨cube, hcube, fun variant hvariant => ?_⟩
  exact (follows_policy_iff _ hcube hvariant).mpr
    (followable_of_isFollowable (List.all_eq_true.mp hfollow variant hvariant))

/-- The quote is the standing one, or it is another. -/
def amountCondition (op : ConditionOp) : Condition :=
  ⟨"repair_quote_gbp", op, .int 180, quote_named, by decide +kernel⟩

def otherAmount : Rule :=
  ⟨"R_P0_OTHER_AMOUNT", [amountCondition .ne], .stop, "FINANCIAL_AUTHORITY", by decide,
    stop_reasoned⟩

def standingAmount : Rule :=
  ⟨"R_P0_STANDING_AMOUNT", [amountCondition .eq], .act, "NORMAL_OPERATIONAL_POLICY",
    by decide, act_reasoned⟩

/-- The card with a policy that tells the amounts apart by `ne`. -/
def otherwiseCard : ConstructCard :=
  { quoteCard with
    policyAxis
      | .p0 => ⟨"standing_amount_v1", "Dispatch for 180 GBP.", [otherAmount, standingAmount]⟩
      | .p1 => quoteCard.policyAxis .p1
    reasonsRanked := by
      intro policy
      cases policy
      · simp [otherAmount, standingAmount, quoteCard, minimalCard]
      · exact quoteCard.reasonsRanked .p1
    factsKnown := by
      intro policy
      cases policy
      · have hfact : quoteCard.facts.contains "repair_quote_gbp" = true := by decide
        simp [otherAmount, standingAmount, Rule.referencedFacts, amountCondition, hfact]
      · exact quoteCard.factsKnown .p1 }

/-- The fake takes the standing amount for another one, and stops. -/
theorem otherwise_policy_unfollowed : ∃ cube, compileCube otherwiseCard = .ok cube ∧
    ∃ variant ∈ cube.variants, ¬FollowsPolicy (fun _ => "") otherwiseCard variant := by
  obtain ⟨cube, hcube, hother⟩ := ok_of_any (x := compileCube otherwiseCard)
    (p := fun cube => cube.variants.any fun variant =>
      (turns Environment.terminated (fakeTurn fun _ => "") 4 { variant }).toOption.any fun env =>
        env.terminated && env.terminal.any fun decision =>
          decision.disposition ≠ variant.expectedDisposition.text) (by decide +kernel)
  obtain ⟨variant, hvariant, hrun⟩ := List.any_eq_true.mp hother
  refine ⟨cube, hcube, variant, hvariant, ?_⟩
  rintro ⟨⟨env, decision, hends, hterminal, hdisposition, -⟩, -⟩
  obtain ⟨last, hlast, hwrong⟩ := ok_of_any hrun
  obtain ⟨hdone, hwrong⟩ := (Bool.and_eq_true _ _).mp hwrong
  obtain rfl := Except.ok.inj ((LeadsTo.of_turns hlast hdone).unique hends)
  rw [hterminal] at hwrong
  exact of_decide_eq_true hwrong hdisposition

end Followed

end OperateBench.Cubes
