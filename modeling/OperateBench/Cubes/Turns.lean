import OperateBench.Cubes.Pursuit
import OperateBench.Cubes.Sufficiency
import OperateBench.Foundation.Transition

/-! # The turns of the fake

The first turn reads the records. Then the fake asks for what the rules refer to, one fact a
turn, and once a rule applies it acts, one action a turn, and decides.
-/

namespace OperateBench.Cubes

open Foundation

section Turns

variable (str : Datum → String) {card : ConstructCard} {variant : Variant} {matched rule : Rule}
  {attempted rules passed : List Rule} {env env' : Environment} {keys keys' acts : List String}
  {key : String} {r : Except EpisodeFailure Environment}

/-- What the turns of the fake come to. -/
abbrev EndsIn (str : Datum → String) (env : Environment)
    (r : Except EpisodeFailure Environment) : Prop :=
  LeadsTo Environment.terminated (fakeTurn str) env r

theorem Ready.mono (hready : Ready card variant keys key) (hkeys : ∀ key ∈ keys, key ∈ keys') :
    Ready card variant keys' key :=
  hready.imp_right (Or.imp_left (hkeys key))

theorem Askable.of_ready (hask : Askable card variant key)
    (hready : Ready card variant keys key) : key ∈ keys := by
  obtain ⟨⟨channel, hchannel⟩, hover⟩ := hask
  rcases hready with hinitial | hkey | hover'
  · rw [hchannel] at hinitial
    cases hinitial
  · exact hkey
  · rw [hover] at hover'
    cases hover'

theorem Passed.mono (h : Passed card variant keys passed) (hkeys : ∀ key ∈ keys, key ∈ keys') :
    Passed card variant keys' passed := by
  intro rule hrule
  obtain ⟨hmem, hready, hholds⟩ := h rule hrule
  exact ⟨hmem, fun key hkey => (hready key hkey).mono hkeys, hholds⟩

/-- Everything is known of the rules that were passed, and of the one that is taken. -/
structure Decided (card : ConstructCard) (variant : Variant) (keys : List String)
    (passed : List Rule) (rule : Rule) : Prop where
  rules : ∃ rest, (card.policyAxis variant.policy).rules = passed ++ rule :: rest
  passed : Passed card variant keys passed
  ready : ∀ key ∈ rule.referencedFacts, Ready card variant keys key
  holds : (rule.facing card variant).holds (viewed card variant) = .ok true

namespace Compiles

variable (h : Compiles card variant matched attempted)

include h

theorem fakeTurn_eq (hoffered : Offered card) (hvariant : env.variant = variant) :
    fakeTurn str env = (policyFollowingScript (shownTo env)).bind (dispatch str env) := by
  have hrequest : buildTurnRequest env = .ok (shownTo env) := by
    refine buildTurnRequest_eq ?_
    rw [hvariant, h.allowedActions_eq, h.queryRegistry_eq]
    exact hoffered
  rw [fakeTurn, hrequest]
  rfl

/-- The first turn reads the records. -/
theorem first_turn (hoffered : Offered card) : ∃ env, fakeTurn str { variant } = .ok env ∧
    env.mutations = [] ∧ Pursues card variant env [] [] := by
  have hwf := h.wellFormed
  obtain ⟨env, hopened, hsurveyed, hnone, hobserved⟩ := h.opened_perform
  rw [Environment.perform, List.foldlM_cons, Environment.call, Environment.readRecords,
    @record_ok { variant } _ _ _ _ hwf.readAllowed rfl] at hopened
  obtain rfl := Except.ok.inj hopened
  have hscript : policyFollowingScript (shownTo { variant }) = .ok ⟨readAction, Dict.empty⟩ := rfl
  refine ⟨_, ?_, hnone, ⟨hsurveyed, fun o ho => ?_, by simp, ?_, ?_, ?_⟩⟩
  · rw [h.fakeTurn_eq str hoffered rfl, hscript]
    show dispatch str _ _ = _
    rw [dispatch, if_pos rfl, Environment.readRecords,
      @record_ok { variant } _ _ _ _ hwf.readAllowed rfl]
    rfl
  · rw [hobserved o ho]
    simp
  · intro key
    simp [Environment.file, Dict.get?_empty]
  · exact ⟨_, List.mem_singleton_self _, rfl⟩
  · intro action haction
    simp only [Environment.file, List.nil_append, List.mem_singleton, exists_eq_left,
      List.not_mem_nil, iff_false]
    rintro rfl
    exact haction read_mem_protocol

/-- A turn that asks shows the answer. -/
theorem ask_turn (hoffered : Offered card) (hpursues : Pursues card variant env keys acts)
    (hask : Askable card variant key) {channel : Channel}
    (hchannel : card.facts.get? key = some (.onRequest channel))
    (hscript : policyFollowingScript (shownTo env) =
      .ok ⟨channel.action, Environment.factArgument key⟩) :
    ∃ env', fakeTurn str env = .ok env' ∧ env'.mutations = env.mutations ∧
      Pursues card variant env' (keys ++ [key]) acts := by
  have hwf := h.wellFormed
  have hvariant := hpursues.surveyed.genuine.variant_eq
  have hentry : (⟨key, channel, .reveal key, .projectedFact⟩ : QueryEntry) ∈
      variant.queryRegistry.entries := by
    rw [h.queryRegistry_eq]
    exact card.mem_queryRegistry.mpr (Or.inl (mem_projected.mpr ⟨channel, hchannel, rfl⟩))
  obtain ⟨target, -, -, -, hobtain, htakes, hseen⟩ := hpursues.surveyed.obtain_eq hwf hentry
  have hasking : (env.asking ⟨key, channel, .reveal key, .projectedFact⟩ target).action ≠
      terminalAction := channel_ne_terminal channel
  refine ⟨env.file (env.asking ⟨key, channel, .reveal key, .projectedFact⟩ target), ?_, rfl,
    ⟨hpursues.surveyed.takes htakes hasking, fun o ho => ?_, ?_, fun other => ?_, ?_,
      fun action haction => ?_⟩⟩
  · have hexpected : env.variant.queryRegistry.channelFor key = some channel := by
      rw [hvariant, QueryRegistry.channelFor, QueryRegistry.entry_eq_some.mpr ⟨hentry, rfl⟩]
      rfl
    rw [h.fakeTurn_eq str hoffered hvariant, hscript]
    show dispatch str env _ = _
    rw [dispatch, if_neg (channel_ne_read channel), if_neg (channel_ne_terminal channel)]
    simp only [ofAction_action, factArgument_get, if_true, Option.map_some, Datum.textWith,
      hexpected, Option.any_some, ne_eq, not_true_eq_false, decide_false, Bool.false_eq_true,
      if_false]
    rw [hobtain]
    rfl
  · rw [hseen o ho, hpursues.asked o ho, List.mem_append, List.mem_singleton, or_assoc,
      and_or_left]
  · intro other hother
    rcases List.mem_append.mp hother with hold | hnew
    · exact hpursues.own other hold
    · exact List.mem_singleton.mp hnew ▸ hask
  · rw [htakes.steps_eq, List.mem_append, List.mem_singleton, ← hpursues.requested]
    simp only [List.mem_append, List.mem_singleton, or_and_right, exists_or, exists_eq_left,
      Environment.asking, factArgument_get, if_true, Option.bind_some, Datum.asStr?,
      Option.some.injEq, eq_comm]
  · obtain ⟨step, hstep, hread⟩ := hpursues.read
    exact ⟨step, htakes.steps_eq ▸ List.mem_append_left _ hstep, hread⟩
  · rw [htakes.steps_eq, ← hpursues.acted action haction]
    simp only [List.mem_append, List.mem_singleton, or_and_right, exists_or, exists_eq_left,
      or_iff_left_iff_imp]
    rintro rfl
    exact absurd (channel_mem_protocol _) haction

/-- The fake asks for what a rule needs before it reads it. -/
theorem prepared (hoffered : Offered card) (hcompared : Compared card variant)
    (hrules : ∃ rest, (card.policyAxis variant.policy).rules = passed ++ rule :: rest)
    {done more : List String} (hneeds : rule.referencedFacts = done ++ more)
    (hpursues : Pursues card variant env keys acts) (hpassed : Passed card variant keys passed)
    (hready : ∀ key ∈ done, Ready card variant keys key) :
    ∃ env' keys', Pursues card variant env' keys' acts ∧ env'.mutations = env.mutations ∧
      (∀ key ∈ rule.referencedFacts, Ready card variant keys' key) ∧
      (∀ key, key ∈ keys' ↔ key ∈ keys ∨ key ∈ more ∧ Askable card variant key) ∧
      ∀ r, EndsIn str env' r → EndsIn str env r := by
  obtain ⟨rest, hrest⟩ := hrules
  have hrule : rule ∈ (card.policyAxis variant.policy).rules :=
    hrest ▸ List.mem_append_right _ List.mem_cons_self
  induction more generalizing env keys done with
  | nil =>
    rw [List.append_nil] at hneeds
    exact ⟨env, keys, hpursues, rfl, hneeds ▸ hready, fun key => by simp, fun r hr => hr⟩
  | cons first more ih =>
    have hsplit : rule.referencedFacts = (done ++ [first]) ++ more := by
      rw [hneeds, List.append_assoc]
      rfl
    have hfact : card.facts.contains first = true :=
      card.factsKnown _ rule hrule _ (hneeds ▸ List.mem_append_right _ List.mem_cons_self)
    rcases ready_or variant keys hfact with hknown | ⟨hask, hnew⟩
    · obtain ⟨env', keys', hpursues', hquiet, hready', hkeys, htransfer⟩ :=
        ih hsplit hpursues hpassed fun key hkey => by
          rcases List.mem_append.mp hkey with hdone | hfirst
          · exact hready key hdone
          · exact List.mem_singleton.mp hfirst ▸ hknown
      refine ⟨env', keys', hpursues', hquiet, hready', fun key => ?_, htransfer⟩
      rw [hkeys, List.mem_cons, or_and_right]
      constructor
      · exact Or.imp_right Or.inr
      · rintro (hold | ⟨rfl, hask⟩ | hlater)
        · exact Or.inl hold
        · exact Or.inl (hask.of_ready hknown)
        · exact Or.inr hlater
    · obtain ⟨channel, hchannel⟩ := hask.1
      have hscript : policyFollowingScript (shownTo env) =
          .ok ⟨channel.action, Environment.factArgument first⟩ := by
        rw [h.script_eq hpursues, hrest, List.map_append, List.map_cons,
          h.follow_passed hpursues hcompared hpassed]
        exact h.follow_unready hpursues hrule hneeds hready hask hnew hchannel
      obtain ⟨next, hturn, hsame, hnext⟩ := h.ask_turn str hoffered hpursues hask hchannel hscript
      have hgrows : ∀ key ∈ keys, key ∈ keys ++ [first] := fun key => List.mem_append_left _
      obtain ⟨env', keys', hpursues', hquiet, hready', hkeys, htransfer⟩ :=
        ih hsplit hnext (hpassed.mono hgrows) fun key hkey => by
          rcases List.mem_append.mp hkey with hdone | hfirst
          · exact (hready key hdone).mono hgrows
          · exact Or.inr (Or.inl (List.mem_append_right _ hfirst))
      refine ⟨env', keys', hpursues', hquiet.trans hsame, hready', fun key => ?_, fun r hr =>
        (htransfer r hr).step hpursues.surveyed.isOpen hturn⟩
      rw [hkeys, List.mem_cons, List.mem_append, List.mem_singleton, or_and_right, or_assoc]
      refine or_congr_right (or_congr_left ?_)
      exact ⟨fun heq => ⟨heq, heq ▸ hask⟩, And.left⟩

/-- The fake goes through the rules as first-match evaluation over what it comes to know. -/
theorem goes_through (hoffered : Offered card) (hcompared : Compared card variant)
    (hrules : (card.policyAxis variant.policy).rules = passed ++ rules)
    (hpursues : Pursues card variant env keys acts) (hpassed : Passed card variant keys passed) :
    match firstMatch (viewed card variant) (rules.map (Rule.facing card variant)) with
    | .error _ => ∃ failure, EndsIn str env (.error failure)
    | .ok none => ∃ env', env'.mutations = env.mutations ∧
        (∃ keys', Pursues card variant env' keys' acts) ∧
        (policyFollowingScript (shownTo env') =
          .ok (terminalCall "STOP" "NO_APPLICABLE_RULE" [])) ∧
        ∀ r, EndsIn str env' r → EndsIn str env r
    | .ok (some (found, needed)) => ∃ env' keys' walked rule,
        Pursues card variant env' keys' acts ∧ env'.mutations = env.mutations ∧
        found = rule.facing card variant ∧
        Decided card variant keys' (passed ++ walked) rule ∧
        needed = (walked ++ [rule]).flatMap Rule.referencedFacts ∧
        (∀ key, key ∈ keys' ↔ key ∈ keys ∨ key ∈ needed ∧ Askable card variant key) ∧
        ∀ r, EndsIn str env' r → EndsIn str env r := by
  induction rules generalizing env keys passed with
  | nil =>
    refine ⟨env, rfl, ⟨keys, hpursues⟩, ?_, fun r hr => hr⟩
    rw [h.script_eq hpursues, hrules, List.append_nil, ← List.append_nil (passed.map Rule.shown),
      h.follow_passed hpursues hcompared hpassed]
    rfl
  | cons rule rules ih =>
    obtain ⟨next, keys', hnext, hquiet, hready, hkeys, htransfer⟩ :=
      @prepared str _ _ _ rule _ passed _ _ _ h hoffered hcompared ⟨rules, hrules⟩ [] 
        rule.referencedFacts rfl hpursues hpassed
        (fun _ hkey => nomatch hkey)
    have hrule : rule ∈ (card.policyAxis variant.policy).rules :=
      hrules ▸ List.mem_append_right _ List.mem_cons_self
    have hpassed' : Passed card variant keys' passed :=
      hpassed.mono fun key hkey => (hkeys key).mpr (Or.inl hkey)
    have hfollow := h.follow_ready (citedFor next [(policyOf card variant).observationId]
      passed) (rules.map Rule.shown) hnext hcompared hrule hready
    have hscript : policyFollowingScript (shownTo next) = followRules (shownTo next)
        next.knownFacts (citedFor next [(policyOf card variant).observationId] passed)
        (rule.shown :: rules.map Rule.shown) := by
      rw [h.script_eq hnext, hrules, List.map_append, List.map_cons,
        h.follow_passed hnext hcompared hpassed']
    rw [List.map_cons, firstMatch]
    cases hholds : (rule.facing card variant).holds (viewed card variant) with
    | error e =>
      rw [hholds] at hfollow
      obtain ⟨failure, hfailure⟩ := hfollow
      refine ⟨failure, htransfer _ (.failed hnext.surveyed.isOpen ?_)⟩
      rw [h.fakeTurn_eq str hoffered hnext.surveyed.genuine.variant_eq, hscript, hfailure]
      rfl
    | ok b =>
      cases b with
      | true =>
        refine ⟨next, keys', [], rule, hnext, hquiet, rfl,
          ⟨⟨rules, by rw [hrules, List.append_nil]⟩, by rwa [List.append_nil], hready, hholds⟩,
          ?_, ?_, htransfer⟩
        · rw [List.nil_append, List.flatMap_singleton, facing_facts]
        · rwa [facing_facts]
      | false =>
        have hpassedAll : Passed card variant keys' (passed ++ [rule]) := by
          intro other hother
          rcases List.mem_append.mp hother with hold | hnew
          · exact hpassed' other hold
          · obtain rfl := List.mem_singleton.mp hnew
            exact ⟨hrule, hready, hholds⟩
        have hrest := ih ((hrules.trans (List.append_cons _ _ _)))
          hnext hpassedAll
        revert hrest
        cases firstMatch (viewed card variant) (rules.map (Rule.facing card variant)) with
        | error e =>
          rintro ⟨failure, hfailed⟩
          exact ⟨failure, htransfer _ hfailed⟩
        | ok found =>
          cases found with
          | none =>
            rintro ⟨env', hsame, hpursues', hstop, hmore⟩
            exact ⟨env', hsame.trans hquiet, hpursues', hstop, fun r hr => htransfer r (hmore r hr)⟩
          | some found =>
            rintro ⟨env', keys'', walked, last, hpursues', hsame, hfound, hdecided, hneeded, hasked,
              hmore⟩
            refine ⟨env', keys'', rule :: walked, last, hpursues', hsame.trans hquiet, hfound, ?_,
              ?_, fun key => ?_, fun r hr => htransfer r (hmore r hr)⟩
            · rwa [List.append_assoc] at hdecided
            · rw [hneeded, facing_facts]
              rfl
            · rw [hasked, hkeys, facing_facts, List.mem_append, or_and_right, or_assoc]

end Compiles

end Turns

section Handles

variable {ids fresh : List String} {id : String}

theorem nodup_addNew (h : ids.Nodup) : (Environment.addNew ids fresh).Nodup := by
  induction fresh generalizing ids with
  | nil => exact h
  | cons id fresh ih => exact ih (nodup_addNew_singleton h)

/-- What is there already adds nothing. -/
theorem addNew_filter (h : id ∈ ids) :
    Environment.addNew ids (fresh.filter (· ≠ id)) = Environment.addNew ids fresh := by
  induction fresh generalizing ids with
  | nil => rfl
  | cons other fresh ih =>
    by_cases heq : other = id
    · subst heq
      rw [List.filter_cons_of_neg (by simp), ih h, Environment.addNew, if_pos h]
    · rw [List.filter_cons_of_pos (by simpa using heq), Environment.addNew, Environment.addNew]
      refine ih ?_
      split
      · exact h
      · exact List.mem_append_left _ h

end Handles

section Acting

variable (str : Datum → String) {card : ConstructCard} {variant : Variant} {matched rule : Rule}
  {attempted passed : List Rule} {env env' : Environment} {keys acts : List String}
  {action : String} {decision : TerminalDecision}

/-- The actions that the fake has still to take. -/
def pendingActions (variant : Variant) (acts : List String) : List String :=
  variant.allowedActions.filter fun action => action ∉ protocolActions && action ∉ acts

theorem pendingActions_append : pendingActions variant (acts ++ [action]) =
    (pendingActions variant acts).filter (· ≠ action) := by
  rw [pendingActions, pendingActions, List.filter_filter]
  refine List.filter_congr fun other _ => ?_
  by_cases hprotocol : other ∈ protocolActions <;> by_cases hold : other ∈ acts <;>
    by_cases heq : other = action <;> simp [hprotocol, hold, heq]

namespace Compiles

variable (h : Compiles card variant matched attempted)

include h

theorem script_decided (hpursues : Pursues card variant env keys acts)
    (hcompared : Compared card variant) (hdecided : Decided card variant keys passed rule) :
    policyFollowingScript (shownTo env) = .ok (decideCase (shownTo env) rule.shown
      (citedFor env [(policyOf card variant).observationId] (passed ++ [rule]))) := by
  obtain ⟨rest, hrules⟩ := hdecided.rules
  have hrule : rule ∈ (card.policyAxis variant.policy).rules :=
    hrules ▸ List.mem_append_right _ List.mem_cons_self
  have hfollow := h.follow_ready (citedFor env [(policyOf card variant).observationId]
    passed) (rest.map Rule.shown) hpursues hcompared hrule hdecided.ready
  rw [hdecided.holds] at hfollow
  rw [h.script_eq hpursues, hrules, List.map_append, List.map_cons,
    h.follow_passed hpursues hcompared hdecided.passed, hfollow, citedFor, citedFor,
    List.foldl_append]
  rfl

omit h in
theorem pending_eq (hpursues : Pursues card variant env keys acts) :
    ((shownTo env).availableActions.filter fun action =>
      action ∉ protocolActions && !taken (shownTo env) action) = pendingActions variant acts := by
  rw [availableActions_shownTo, hpursues.surveyed.genuine.variant_eq, pendingActions]
  refine List.filter_congr fun action _ => ?_
  by_cases hprotocol : action ∈ protocolActions
  · simp [hprotocol]
  · have htaken : taken (shownTo env) action = decide (action ∈ acts) := by
      rw [Bool.eq_iff_iff, taken_shownTo, hpursues.acted action hprotocol, decide_eq_true_eq]
    simp [hprotocol, htaken]

/-- A turn that acts performs an irreversible action, and any other is refused. -/
theorem act_turn (hoffered : Offered card) (hpursues : Pursues card variant env keys acts)
    (haction : action ∉ protocolActions)
    (hscript : policyFollowingScript (shownTo env) = .ok ⟨action, Dict.empty⟩) :
    if action ∈ variant.irreversibleActions then
      ∃ next, fakeTurn str env = .ok next ∧ env.act action = .ok next ∧
        Pursues card variant next keys (acts ++ [action])
    else ∃ failure, fakeTurn str env = .error failure := by
  have hwf := h.wellFormed
  have hsurveyed := hpursues.surveyed
  have hvariant := hsurveyed.genuine.variant_eq
  obtain ⟨hread, hterminal, hchannel⟩ := not_protocol haction
  have hturn : fakeTurn str env = inEpisode (env.act action) := by
    rw [h.fakeTurn_eq str hoffered hvariant, hscript]
    show dispatch str env _ = _
    rw [dispatch, if_neg hread, if_neg hterminal]
    simp only [hchannel]
  split
  · rename_i hirreversible
    have hmem : action ∈ env.variant.irreversibleActions := hvariant.symm ▸ hirreversible
    have htakes := Takes.act hmem rfl
    have hact : env.act action = .ok { env.file ⟨env.steps.length + 1, action, Dict.empty, [],
        [action]⟩ with mutations := env.mutations ++ [((env.steps.length : ℤ) + 1, action)] } := by
      rw [Environment.act, if_neg (not_not.mpr hmem),
        record_ok (hvariant.symm ▸ (hwf.irreversible action hirreversible).1) hsurveyed.isOpen]
      rfl
    refine ⟨_, by rw [hturn, hact]; rfl, hact, ⟨hsurveyed.takes htakes hterminal, fun o ho => ?_,
      hpursues.own, fun key => ?_, ?_, fun other hother => ?_⟩⟩
    · rw [← hpursues.asked o ho, htakes.observed_eq]
      rfl
    · rw [htakes.steps_eq, ← hpursues.requested]
      simp [or_and_right, exists_or, Dict.get?_empty]
    · obtain ⟨step, hstep, hname⟩ := hpursues.read
      exact ⟨step, htakes.steps_eq ▸ List.mem_append_left _ hstep, hname⟩
    · rw [htakes.steps_eq, List.mem_append, List.mem_singleton, ← hpursues.acted other hother]
      simp [or_and_right, exists_or, eq_comm]
  · rename_i hother
    have hnot : action ∉ env.variant.irreversibleActions := hvariant.symm ▸ hother
    rw [hturn, Environment.act, if_pos hnot]
    exact ⟨_, rfl⟩

/-- The last turn decides the case. -/
theorem complete_turn (hoffered : Offered card) (hpursues : Pursues card variant env keys acts)
    {disposition reason : String} {cited : List String}
    (hscript : policyFollowingScript (shownTo env) =
      .ok (terminalCall disposition reason cited)) :
    EndsIn str env (.ok (env.closed ⟨disposition, reason, [], cited⟩)) := by
  have hwf := h.wellFormed
  have hsurveyed := hpursues.surveyed
  refine LeadsTo.step hsurveyed.isOpen ?_ (LeadsTo.ended ?_)
  · rw [h.fakeTurn_eq str hoffered hsurveyed.genuine.variant_eq, hscript]
    show dispatch str env _ = _
    rw [terminalCall, dispatch, if_neg (Ne.symm read_ne_terminal), if_pos rfl]
    simp only [decisionOf_terminalArguments]
    rw [hsurveyed.running.completeCase hwf]
    rfl
  · rw [Environment.terminated, Environment.closed, Environment.file, List.getLast?_concat]
    rfl

/-- An ACT is carried out, action by action, as far as the actions are irreversible. -/
theorem acts_out (hoffered : Offered card) (hcompared : Compared card variant)
    (hdecided : Decided card variant keys passed rule) (hact : rule.decision = .act)
    (hpursues : Pursues card variant env keys acts) :
    (∃ performed last, acts ++ performed =
        Environment.addNew acts (pendingActions variant acts) ∧
      (∀ action ∈ performed, action ∈ variant.irreversibleActions) ∧
      performed.foldlM Environment.act env = .ok last ∧
      Pursues card variant last keys (acts ++ performed) ∧
      pendingActions variant (acts ++ performed) = [] ∧
      ∀ r, EndsIn str last r → EndsIn str env r) ∨
    (∃ action ∈ pendingActions variant acts, action ∉ variant.irreversibleActions) ∧
      ∃ failure, EndsIn str env (.error failure) := by
  induction hlength : (pendingActions variant acts).length using Nat.strong_induction_on
    generalizing env acts with
  | h n ih =>
    cases hpending : pendingActions variant acts with
    | nil =>
      exact Or.inl ⟨[], env, List.append_nil _, (fun _ h => nomatch h), rfl,
        (List.append_nil acts).symm ▸ hpursues, (List.append_nil acts).symm ▸ hpending,
        fun r hr => hr⟩
    | cons action rest =>
      have hmem : action ∈ pendingActions variant acts := hpending ▸ List.mem_cons_self
      obtain ⟨-, hkinds⟩ := List.mem_filter.mp hmem
      obtain ⟨hprotocol, hnew⟩ : action ∉ protocolActions ∧ action ∉ acts := by simpa using hkinds
      have hscript : policyFollowingScript (shownTo env) = .ok ⟨action, Dict.empty⟩ := by
        rw [h.script_decided hpursues hcompared hdecided, decideCase, pending_eq hpursues, hpending]
        dsimp only
        rw [if_pos (by rw [Rule.shown, hact]; rfl)]
      have hturn := h.act_turn str hoffered hpursues hprotocol hscript
      split at hturn
      · rename_i hirreversible
        obtain ⟨next, hnext, hdone, hpursues'⟩ := hturn
        have hfewer : pendingActions variant (acts ++ [action]) = rest.filter (· ≠ action) := by
          rw [pendingActions_append, hpending, List.filter_cons_of_neg (by simp)]
        have hless : (pendingActions variant (acts ++ [action])).length < n := by
          rw [hfewer, ← hlength, hpending, List.length_cons]
          exact Nat.lt_succ_of_le (List.length_filter_le _ _)
        rcases ih _ hless hpursues' rfl with
          ⟨performed, last, hall, hirreversibles, hfold, hlast, hnone, htransfer⟩ |
          ⟨⟨other, hother, hrefused⟩, failure, hfailed⟩
        · refine Or.inl ⟨action :: performed, last, ?_, ?_, ?_, ?_, ?_, fun r hr =>
            (htransfer r hr).step hpursues.surveyed.isOpen hnext⟩
          · rw [List.append_cons, hall, hfewer,
              addNew_filter (List.mem_append_right _ (List.mem_singleton_self _)),
              Environment.addNew, if_neg hnew]
          · rintro other (_ | ⟨_, hother⟩)
            · exact hirreversible
            · exact hirreversibles other hother
          · rw [List.foldlM_cons, hdone]
            exact hfold
          · rwa [List.append_cons]
          · rwa [List.append_cons]
        · refine Or.inr ⟨⟨other, List.mem_cons_of_mem _ ?_, hrefused⟩, failure,
            hfailed.step hpursues.surveyed.isOpen hnext⟩
          rw [hfewer] at hother
          exact List.mem_of_mem_filter hother
      · rename_i hother
        obtain ⟨failure, hfailure⟩ := hturn
        exact Or.inr ⟨⟨action, List.mem_cons_self, hother⟩, failure,
          .failed hpursues.surveyed.isOpen hfailure⟩

end Compiles

end Acting

section Citing

variable {card : ConstructCard} {variant : Variant} {matched : Rule} {attempted rules : List Rule}
  {env : Environment} {keys acts cited needed : List String} {key ref : String} {o : Observation}

theorem mem_cite : ref ∈ cite (shownTo env) needed cited ↔ ref ∈ cited ∨
    ∃ o ∈ env.observations, o.key ∈ needed ∧ o.observationId = ref := by
  rw [cite, mem_addNew]
  simp only [shownTo, List.mem_map, List.mem_filter, decide_eq_true_eq]
  refine or_congr_right ?_
  constructor
  · rintro ⟨_, ⟨⟨o, ho, rfl⟩, hkey⟩, rfl⟩
    exact ⟨o, ho, hkey, rfl⟩
  · rintro ⟨o, ho, hkey, rfl⟩
    exact ⟨_, ⟨⟨o, ho, rfl⟩, hkey⟩, rfl⟩

theorem mem_citedFor : ref ∈ citedFor env cited rules ↔ ref ∈ cited ∨
    ∃ o ∈ env.observations, o.key ∈ rules.flatMap Rule.referencedFacts ∧ o.observationId = ref := by
  induction rules generalizing cited with
  | nil => simp [citedFor]
  | cons rule rules ih =>
    rw [citedFor, List.foldl_cons, ← citedFor, ih, mem_cite, or_assoc]
    simp only [List.flatMap_cons, List.mem_append, or_and_right, and_or_left, exists_or]

theorem nodup_citedFor (h : cited.Nodup) : (citedFor env cited rules).Nodup := by
  induction rules generalizing cited with
  | nil => exact h
  | cons rule rules ih => exact ih (nodup_addNew h)

namespace Compiles

variable (h : Compiles card variant matched attempted)

include h

/-- What stands under the name of a fact is the answer for it, or the statement under pressure. -/
theorem named_cases (ho : o ∈ variant.observations) (hsource : o.source ≠ .activePolicy)
    (hfact : card.facts.contains o.key = true) : Answers card variant o.key o ∨
      variant.pressureCues ≠ [] ∧ o.key = "irrelevant_pressure" ∧ o.evidenceRelevant = false := by
  have hmem := ho
  rw [h.observations_split, List.mem_cons, List.mem_append] at hmem
  rcases hmem with rfl | hbody | hpressure
  · exact absurd rfl hsource
  · refine Or.inl ⟨ho, hsource, ?_, rfl⟩
    have hdraft := toDraft_mem_body hbody
    change card.facts.contains o.toDraft.key = true at hfact
    change o.toDraft.evidenceRelevant = true
    generalize o.toDraft = draft at hdraft hfact
    rcases mem_body.mp hdraft with ⟨e, he, rfl⟩ | ⟨initial, -, rfl⟩ | ⟨entry, hentry, rfl⟩
    · rw [show (recordDraft e.1 e.2 false).key = e.1 from rfl,
        (card.distractorsNamed e he).2] at hfact
      cases hfact
    · rfl
    · rw [queryDraft]
      simp only [(query_of_fact hentry hfact).2]
  · obtain ⟨hcues, heq⟩ := toDraft_pressure hpressure
    exact Or.inr ⟨hcues, congrArg Draft.key heq, congrArg Draft.evidenceRelevant heq⟩

theorem pressure_exists (hcues : variant.pressureCues ≠ []) : ∃ o ∈ variant.observations,
    o.key = "irrelevant_pressure" ∧ o.evidenceRelevant = false ∧ o.availability = .initial ∧
      o.source = .userStatement := by
  refine ⟨(pressureDraft variant.pressureCues).mint (2 + (card.body variant.state).length), ?_,
    rfl, rfl, rfl, rfl⟩
  rw [h.observations_split, pressureOf, if_neg hcues]
  exact List.mem_cons_of_mem _ (List.mem_append_right _ List.mem_cons_self)

/-- The answer for a fact is seen once the fact was asked for, or need not be. -/
theorem answer_seen (hpursues : Pursues card variant env keys acts)
    (hkeys : ∀ key, key ∈ keys ↔ key ∈ needed ∧ Askable card variant key)
    (ho : Answers card variant key o) (hfact : card.facts.contains key = true)
    (hneeded : key ∈ needed) :
    o.observationId ∈ env.observed ↔ overlooked card variant key = false := by
  obtain ⟨spec, hspec⟩ := Dict.contains_iff.mp hfact
  have havailable := h.answers_availability hspec ho
  rw [hpursues.asked o ho.mem, ho.named]
  cases spec with
  | initial => simp [havailable.mpr rfl, overlooked, hspec]
  | onRequest channel =>
    have hrequest : o.availability = .onRequest := by
      revert havailable
      cases o.availability <;> simp
    rw [hrequest, hkeys]
    simp only [reduceCtorEq, true_and, false_or, hneeded]
    exact ⟨And.right, fun hover => ⟨⟨channel, hspec⟩, hover⟩⟩

/-- What is cited is what is required where the fake looked at what the compiler looked at. -/
theorem cites_required (hpursues : Pursues card variant env keys acts)
    (hkeys : ∀ key, key ∈ keys ↔ key ∈ needed ∧ Askable card variant key)
    (hknown : ∀ key ∈ needed, card.facts.contains key = true)
    (hneeded : rules.flatMap Rule.referencedFacts = needed) :
    (∀ ref, ref ∈ citedFor env [(policyOf card variant).observationId] rules ↔
      ref ∈ variant.requiredEvidenceIds) ↔
      (∀ key, key ∈ lookedAt card variant ↔
        key ∈ needed ∧ overlooked card variant key = false) ∧
      (variant.pressureCues ≠ [] → "irrelevant_pressure" ∉ needed) := by
  have hinj : ∀ {o o' : Observation}, o ∈ variant.observations → o' ∈ variant.observations →
      o.observationId = o'.observationId → o = o' := fun ho ho' heq =>
    List.inj_on_of_nodup_map h.wellFormed.handles ho ho' heq
  have hmem : ∀ ref, ref ∈ citedFor env [(policyOf card variant).observationId] rules ↔
      ref = (policyOf card variant).observationId ∨ ∃ o ∈ variant.observations,
        o.observationId ∈ env.observed ∧ o.key ∈ needed ∧ o.observationId = ref := by
    intro ref
    rw [mem_citedFor, hneeded, List.mem_singleton]
    simp only [mem_seen hpursues.surveyed, and_assoc]
  have hrequired : ∀ ref, ref ∈ variant.requiredEvidenceIds ↔
      ref = (policyOf card variant).observationId ∨ ∃ key ∈ lookedAt card variant,
        ∃ o, Answers card variant key o ∧ o.observationId = ref := by
    intro ref
    rw [h.mem_required, h.lookedAt_eq]
  simp only [hmem, hrequired]
  constructor
  · intro hcites
    refine ⟨fun key => ⟨fun hlooked => ?_, ?_⟩, fun hcues hpressure => ?_⟩
    · obtain ⟨spec, hspec⟩ := Dict.contains_iff.mp (h.looked_contains hlooked)
      obtain ⟨o, ho, -, -⟩ := h.answers_exists hspec
      rcases (hcites o.observationId).mpr (Or.inr ⟨key, hlooked, o, ho, rfl⟩) with
        hpolicy | ⟨o', ho', hseen, hkey, hid⟩
      · exact absurd ((h.policy_unique ho.mem).mpr (hinj ho.mem h.policy_mem hpolicy)) ho.source
      · obtain rfl := hinj ho' ho.mem hid
        rw [ho.named] at hkey
        exact ⟨hkey, (h.answer_seen hpursues hkeys ho (hknown key hkey) hkey).mp hseen⟩
    · rintro ⟨hkey, hover⟩
      obtain ⟨spec, hspec⟩ := Dict.contains_iff.mp (hknown key hkey)
      obtain ⟨o, ho, -, -⟩ := h.answers_exists hspec
      have hseen := (h.answer_seen hpursues hkeys ho (hknown key hkey) hkey).mpr hover
      rcases (hcites o.observationId).mp (Or.inr ⟨o, ho.mem, hseen, ho.named.symm ▸ hkey, rfl⟩) with
        hpolicy | ⟨key', hlooked, o', ho', hid⟩
      · exact absurd ((h.policy_unique ho.mem).mpr (hinj ho.mem h.policy_mem hpolicy)) ho.source
      · obtain rfl := hinj ho'.mem ho.mem hid
        rwa [← ho.named, ho'.named]
    · obtain ⟨o, ho, hname, hrelevant, hinitial, hsource⟩ := h.pressure_exists hcues
      rcases (hcites o.observationId).mp (Or.inr ⟨o, ho, hpursues.surveyed.seen ho hinitial,
        hname ▸ hpressure, rfl⟩) with hpolicy | ⟨key, -, o', ho', hid⟩
      · rw [(h.policy_unique ho).mpr (hinj ho h.policy_mem hpolicy)] at hsource
        cases hsource
      · rw [← hinj ho'.mem ho hid, ho'.relevant] at hrelevant
        cases hrelevant
  · rintro ⟨hlooked, hpressure⟩ ref
    constructor
    · rintro (hpolicy | ⟨o, ho, hseen, hkey, rfl⟩)
      · exact Or.inl hpolicy
      · by_cases hsource : o.source = .activePolicy
        · exact Or.inl (congrArg _ ((h.policy_unique ho).mp hsource))
        · rcases h.named_cases ho hsource (hknown _ hkey) with hanswer | ⟨hcues, hname, -⟩
          · have hover := (h.answer_seen hpursues hkeys hanswer (hknown _ hkey) hkey).mp hseen
            exact Or.inr ⟨o.key, (hlooked _).mpr ⟨hkey, hover⟩, o, hanswer, rfl⟩
          · exact absurd (hname ▸ hkey) (hpressure hcues)
    · rintro (hpolicy | ⟨key, hkey, o, ho, rfl⟩)
      · exact Or.inl hpolicy
      · obtain ⟨hneed, hover⟩ := (hlooked key).mp hkey
        exact Or.inr ⟨o, ho.mem, (h.answer_seen hpursues hkeys ho (hknown key hneed) hneed).mpr
          hover, ho.named.symm ▸ hneed, rfl⟩

end Compiles

end Citing

end OperateBench.Cubes
