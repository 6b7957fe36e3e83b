import Mathlib.Data.List.Induction
import OperateBench.Cubes.Compiled
import OperateBench.Cubes.Genuine

/-! # What the evaluator accepts

The evaluator finds no fault with the trajectory of a genuine environment. The other way,
steps that it accepts are the steps of a genuine environment, except that it accepts an action
that the card permits and the environment does not know how to perform.
-/

namespace OperateBench.Cubes

open Foundation

section Specifications

variable {variant : Variant} {step : Step} {elicited : List String}

theorem stepFailure_eq_none : stepFailure variant step elicited = none ↔
    step.action ∈ variant.allowedActions ∧ mutationFailure variant step = none ∧
      argumentFailure step = none ∧ revealFailure variant step elicited = none := by
  unfold stepFailure
  split
  · simp [*]
  · simp_all [Option.or_eq_none_iff]

theorem mutationFailure_eq_none : mutationFailure variant step = none ↔
    step.mutations = if step.action ∈ variant.irreversibleActions then [step.action] else [] := by
  unfold mutationFailure
  generalize (if step.action ∈ variant.irreversibleActions then [step.action] else []) = expected
  dsimp only
  split
  · simp [*]
  · split <;> simp [*]

theorem get_eq_none {arguments : Arguments} {key : String} :
    arguments.get? key = none ↔ key ∉ arguments.keys := by
  rw [Dict.mem_keys_iff, Option.eq_none_iff_forall_ne_some, not_exists]

theorem entries_eq_nil {arguments : Arguments} :
    arguments.entries = [] ↔ ∀ key, arguments.get? key = (Dict.empty : Arguments).get? key := by
  simp only [Dict.get?_empty, get_eq_none]
  rw [← List.map_eq_nil_iff (f := Prod.fst), ← List.eq_nil_iff_forall_not_mem]
  rfl

/-- Four arguments, and no other, make a decision. -/
theorem decision_arguments {arguments : Arguments} {disposition primaryReason : String}
    {secondary refs : List String} (hdisposition :
      (arguments.get? "disposition").bind Datum.asStr? = some disposition)
    (hprimary : (arguments.get? "primary_reason_code").bind Datum.asStr? = some primaryReason)
    (hsecondary : (arguments.get? "secondary_reason_codes").bind Datum.texts? = some secondary)
    (hrefs : (arguments.get? "evidence_refs").bind Datum.texts? = some refs)
    (hextra : ∀ key ∈ arguments.keys, key ∈ allTerminalArguments) (key : String) :
    arguments.get? key =
      (Environment.terminalArguments ⟨disposition, primaryReason, secondary, refs⟩).get? key := by
  obtain ⟨d, hd, htext⟩ := Option.bind_eq_some_iff.mp hdisposition
  obtain ⟨p, hp, hptext⟩ := Option.bind_eq_some_iff.mp hprimary
  obtain ⟨c, hc, hctexts⟩ := Option.bind_eq_some_iff.mp hsecondary
  obtain ⟨e, he, hetexts⟩ := Option.bind_eq_some_iff.mp hrefs
  rw [asStr_eq_some htext] at hd
  rw [asStr_eq_some hptext] at hp
  rw [texts_eq_some hctexts] at hc
  rw [texts_eq_some hetexts] at he
  rw [terminalArguments_get]
  split_ifs with h₁ h₂ h₃ h₄
  · rw [h₁, hd]
  · rw [h₂, hp]
  · rw [h₃, hc]
  · rw [h₄, he]
  · refine get_eq_none.mpr fun hkey => ?_
    have hmem := hextra key hkey
    simp [allTerminalArguments, terminalStringArguments, terminalSequenceArguments, h₁, h₂, h₃, h₄]
      at hmem

/-- The arguments of a terminal step are those of one decision. -/
theorem terminal_argumentFailure (h : step.action = terminalAction) :
    argumentFailure step = none ↔ ∃ decision : TerminalDecision, ∀ key,
      step.arguments.get? key = (Environment.terminalArguments decision).get? key := by
  unfold argumentFailure
  rw [if_pos h]
  constructor
  · intro hnone
    dsimp only at hnone
    split at hnone
    · cases hnone
    · split at hnone
      · cases hnone
      · rename_i hextra
        split at hnone
        · cases hnone
        · rename_i htexts
          rw [Option.map_eq_none_iff, List.find?_eq_none] at hnone
          rw [List.find?_eq_none] at htexts
          rw [not_not, sortTexts_eq_nil, List.filter_eq_nil_iff] at hextra
          simp only [terminalStringArguments, terminalSequenceArguments, List.mem_cons,
            List.not_mem_nil, or_false, forall_eq_or_imp, forall_eq, Option.isNone_iff_eq_none,
            ← ne_eq, Option.ne_none_iff_exists'] at htexts hnone
          obtain ⟨⟨disposition, hd⟩, ⟨primaryReason, hp⟩⟩ := htexts
          obtain ⟨⟨secondary, hs⟩, ⟨refs, hr⟩⟩ := hnone
          refine ⟨⟨disposition, primaryReason, secondary, refs⟩,
            decision_arguments hd hp hs hr fun key hkey => ?_⟩
          simpa using hextra key hkey
  · rintro ⟨decision, hget⟩
    have hmissing : (allTerminalArguments.filter fun key => !step.arguments.contains key) = [] := by
      simp [allTerminalArguments, terminalStringArguments, terminalSequenceArguments,
        Dict.contains, hget, terminalArguments_get]
    have hextra : sortTexts (step.arguments.keys.filter (· ∉ allTerminalArguments)) = [] := by
      rw [sortTexts_eq_nil, List.filter_eq_nil_iff]
      intro key hkey
      obtain ⟨d, hd⟩ := Dict.mem_keys_iff.mp hkey
      rw [hget, terminalArguments_get] at hd
      simp only [allTerminalArguments, terminalStringArguments, terminalSequenceArguments]
      split_ifs at hd <;> simp_all
    dsimp only
    rw [hmissing, hextra]
    simp [terminalStringArguments, terminalSequenceArguments, hget, terminalArguments_get,
      Datum.asStr?, texts_map_str]

/-- The arguments of a request name one fact. -/
theorem fact_arguments {arguments : Arguments} {fact : String} :
    (arguments.get? "fact").bind Datum.asStr? = some fact ∧ arguments.keys = ["fact"] ↔
      ∀ key, arguments.get? key = (Environment.factArgument fact).get? key := by
  constructor
  · rintro ⟨hfact, hkeys⟩ key
    obtain ⟨d, hd, htext⟩ := Option.bind_eq_some_iff.mp hfact
    rw [factArgument_get]
    split_ifs with hkey
    · rw [hkey, hd, asStr_eq_some htext]
    · exact get_eq_none.mpr (by rw [hkeys]; exact fun hmem => hkey (List.mem_singleton.mp hmem))
  · intro hget
    have hkeys : ∀ key, key ∈ arguments.keys ↔ key ∈ ["fact"] := by
      intro key
      rw [Dict.mem_keys_iff, List.mem_singleton]
      simp only [hget, factArgument_get]
      constructor
      · rintro ⟨d, hd⟩
        by_contra hne
        rw [if_neg hne] at hd
        cases hd
      · exact fun hkey => ⟨_, if_pos hkey⟩
    refine ⟨by rw [hget, factArgument_get]; rfl, List.perm_singleton.mp ?_⟩
    exact (List.perm_ext_iff_of_nodup arguments.nodup (List.nodup_singleton _)).mpr hkeys

/-- A request that is accepted reveals the observation that it asks for, or repeats it. -/
theorem requestFailure_eq_none {source : Source} :
    requestFailure variant step source elicited = none ↔ ∃ fact ≠ "",
      (∀ key, step.arguments.get? key = (Environment.factArgument fact).get? key) ∧
      ((step.revealedObservationIds = [] ∧ ∃ target, (variant.observations.find? fun o =>
        o.availability = .onRequest && o.key = fact && o.source = source) = some target ∧
        target.observationId ∈ elicited) ∨
      ∃ id o, step.revealedObservationIds = [id] ∧ variant.observation id = some o ∧
        o.availability = .onRequest ∧ o.source = source ∧ o.key = fact ∧ id ∉ elicited) := by
  have hrepeat : ∀ fact, repeatFailure variant step fact source elicited = none ↔
      ∃ target, (variant.observations.find? fun o =>
        o.availability = .onRequest && o.key = fact && o.source = source) = some target ∧
        target.observationId ∈ elicited := by
    intro fact
    unfold repeatFailure
    split
    · simp [*]
    · simp [*]
  simp only [← fact_arguments]
  unfold requestFailure
  cases (step.arguments.get? "fact").bind Datum.asStr? with
  | none => simp
  | some fact =>
    simp only [Option.some.injEq]
    split
    · simp_all
    · split
      · simp_all
      · rename_i hne hkeys
        rw [not_not] at hkeys
        have hone : ∀ P : String → Prop, (∃ f ≠ "", (fact = f ∧ step.arguments.keys = ["fact"]) ∧
            P f) ↔ P fact := by
          intro P
          constructor
          · rintro ⟨f, -, ⟨rfl, -⟩, hP⟩
            exact hP
          · exact fun hP => ⟨fact, hne, ⟨rfl, hkeys⟩, hP⟩
        rw [hone]
        cases step.revealedObservationIds with
        | nil => simp [hrepeat]
        | cons id rest =>
          cases rest with
          | cons _ _ => simp
          | nil =>
            cases hid : variant.observation id with
            | none => simp [hid]
            | some o =>
              have hshown : ((([id] : List String) = [] ∧ ∃ target,
                  (variant.observations.find? fun o => o.availability = .onRequest &&
                    o.key = fact && o.source = source) = some target ∧
                    target.observationId ∈ elicited) ∨
                  ∃ id' o', [id] = [id'] ∧ variant.observation id' = some o' ∧
                    o'.availability = .onRequest ∧ o'.source = source ∧ o'.key = fact ∧
                    id' ∉ elicited) ↔
                  o.availability = .onRequest ∧ o.source = source ∧ o.key = fact ∧
                    id ∉ elicited := by
                constructor
                · rintro (⟨hnil, -⟩ | ⟨id', o', hlist, ho', hshown⟩)
                  · cases hnil
                  · obtain rfl := (List.cons.inj hlist).1
                    obtain rfl := Option.some.inj (hid.symm.trans ho')
                    exact hshown
                · exact fun hshown => Or.inr ⟨id, o, rfl, hid, hshown⟩
              rw [hshown]
              by_cases havailable : o.availability = .onRequest
              · by_cases hsource : o.source = source
                · by_cases hkey : o.key = fact
                  · simp [hid, havailable, hsource, hkey]
                  · simp [hid, havailable, hsource, hkey]
                · simp [hid, havailable, hsource]
              · simp [hid, havailable]

theorem plain_argumentFailure (hterminal : step.action ≠ terminalAction)
    (hchannel : Channel.ofAction? step.action = none) : argumentFailure step = none ↔
      ∀ key, step.arguments.get? key = (Dict.empty : Arguments).get? key := by
  rw [argumentFailure, if_neg hterminal, hchannel, ← entries_eq_nil]
  simp

/-- Handles of the variant pass the first check of a reveal. -/
theorem unknown_eq_none {ids : List String}
    (h : ∀ id ∈ ids, id ∈ variant.observations.map Observation.observationId) :
    (ids.find? fun id => id ∉ variant.observations.map Observation.observationId) = none := by
  rw [List.find?_eq_none]
  intro id hid
  simp only [h id hid, not_true_eq_false, decide_false, Bool.false_eq_true, not_false_eq_true]

theorem read_revealFailure (h : step.action = readAction) :
    revealFailure variant step elicited = none ↔ step.revealedObservationIds =
      variant.initialObservations.map Observation.observationId := by
  simp only [revealFailure, if_pos h]
  split
  · rename_i id hid
    refine iff_of_false (fun h => nomatch h) fun heq => ?_
    rw [heq, unknown_eq_none] at hid
    · cases hid
    · intro id hmem
      obtain ⟨o, ho, rfl⟩ := List.mem_map.mp hmem
      exact List.mem_map_of_mem (List.mem_of_mem_filter ho)
  · split <;> simp_all

theorem request_revealFailure {channel : Channel} (h : step.action = channel.action) :
    revealFailure variant step elicited = none ↔
      requestFailure variant step channel.source elicited = none := by
  simp only [revealFailure, h, if_neg (channel_ne_read channel), ofAction_action]
  split
  · rename_i id hid
    refine iff_of_false (fun h => nomatch h) fun hnone => ?_
    obtain ⟨fact, -, -, ⟨hnil, -⟩ | ⟨shown, o, hshown, ho, -⟩⟩ := requestFailure_eq_none.mp hnone
    · rw [hnil] at hid
      cases hid
    · rw [hshown, unknown_eq_none] at hid
      · cases hid
      · intro id hmem
        obtain rfl := List.mem_singleton.mp hmem
        obtain ⟨hknown, rfl⟩ := observation_mem ho
        exact List.mem_map_of_mem hknown
  · rfl

theorem plain_revealFailure (hread : step.action ≠ readAction)
    (hchannel : Channel.ofAction? step.action = none) :
    revealFailure variant step elicited = none ↔ step.revealedObservationIds = [] := by
  simp only [revealFailure, if_neg hread, hchannel]
  split
  · rename_i id hid
    refine iff_of_false (fun h => nomatch h) fun hnil => ?_
    rw [hnil] at hid
    cases hid
  · split <;> simp_all

end Specifications

section Acceptance

variable {env env' : Environment} {step : Step} {elicited : List String} {o : Observation}

/-- The handles that requests revealed are the seen ones that are asked for. -/
def Elicits (env : Environment) (elicited : List String) : Prop :=
  ∀ o ∈ env.variant.observations, o.availability = .onRequest →
    (o.observationId ∈ env.observed ↔ o.observationId ∈ elicited)

theorem mem_addNew {ids fresh : List String} {id : String} :
    id ∈ Environment.addNew ids fresh ↔ id ∈ ids ∨ id ∈ fresh := by
  induction fresh generalizing ids with
  | nil => simp [Environment.addNew]
  | cons first fresh ih =>
    rw [Environment.addNew, ih, List.mem_cons, ← or_assoc]
    refine or_congr_left ?_
    split
    · constructor
      · exact Or.inl
      · rintro (h | rfl) <;> assumption
    · simp

theorem Variant.WellFormed.not_initial {variant : Variant} (hwf : variant.WellFormed)
    (ho : o ∈ variant.observations) (havailable : o.availability = .onRequest) :
    o.observationId ∉ variant.initialObservations.map Observation.observationId := by
  intro hmem
  obtain ⟨other, hother, hid⟩ := List.mem_map.mp hmem
  obtain ⟨hother, hinitial⟩ := List.mem_filter.mp hother
  obtain rfl := List.inj_on_of_nodup_map hwf.handles hother ho hid
  rw [havailable] at hinitial
  cases hinitial

theorem Takes.elicits (h : Takes env step env') (hwf : env.variant.WellFormed)
    (helicits : Elicits env elicited) : Elicits env' (step.elicit elicited) := by
  intro o ho havailable
  rw [h.variant_eq] at ho
  rw [h.observed_eq, mem_addNew, helicits o ho havailable, Step.elicit]
  cases h with
  | read hstep =>
    rw [hstep]
    simp only [ofAction_read, Option.isSome_none, Bool.false_eq_true, if_false, or_iff_left_iff_imp]
    exact fun hinitial => absurd hinitial (hwf.not_initial ho havailable)
  | @ask entry target _ _ hstep =>
    rw [hstep]
    simp only [ofAction_action, Option.isSome_some, if_true, List.mem_append]
  | @act action haction hstep =>
    rw [hstep]
    simp [(not_protocol (hwf.irreversible action haction).2).2.2]
  | complete hstep =>
    rw [hstep]
    simp [ofAction_terminal]

theorem mutations_of_protocol {variant : Variant} (hwf : variant.WellFormed)
    (h : step.action ∈ protocolActions) :
    mutationFailure variant step = none ↔ step.mutations = [] := by
  rw [mutationFailure_eq_none, if_neg fun haction => (hwf.irreversible _ haction).2 h]

/-- What the environment files, the evaluator accepts. -/
theorem Takes.accepted (h : Takes env step env') (hwf : env.variant.WellFormed)
    (helicits : Elicits env elicited) : stepFailure env.variant step elicited = none := by
  rw [stepFailure_eq_none]
  cases h with
  | read hstep =>
    subst hstep
    exact ⟨hwf.readAllowed, (mutations_of_protocol hwf read_mem_protocol).mpr rfl,
      (plain_argumentFailure read_ne_terminal ofAction_read).mpr fun _ => rfl,
      (read_revealFailure rfl).mpr rfl⟩
  | @ask entry target hentry htarget hstep =>
    subst hstep
    obtain ⟨htargetMem, havailable, hkey⟩ := resolution_mem htarget
    refine ⟨hwf.offered entry hentry,
      (mutations_of_protocol hwf (channel_mem_protocol _)).mpr rfl, ?_, ?_⟩
    · simp only [argumentFailure, if_neg (channel_ne_terminal entry.action), ofAction_action,
        Option.isSome_some, if_true]
    · obtain ⟨other, hother, hothers⟩ := hwf.asked entry hentry
      have hsame : target = other :=
        hwf.single target htargetMem other hother havailable hothers.1 (hkey.trans hothers.2.1.symm)
      have hsource : target.source = entry.action.source := hsame ▸ hothers.2.2
      refine (request_revealFailure rfl).mpr (requestFailure_eq_none.mpr
        ⟨entry.queryKey, hwf.named entry hentry, fun _ => rfl, ?_⟩)
      by_cases hseen : target.observationId ∈ env.observed
      · refine Or.inl ⟨if_pos hseen, target, ?_, (helicits target htargetMem havailable).mp hseen⟩
        rw [← hkey, ← hsource]
        exact hwf.target_eq htargetMem havailable
      · exact Or.inr ⟨target.observationId, target, if_neg hseen, hwf.observation_eq htargetMem,
          havailable, hsource, hkey, fun h => hseen ((helicits target htargetMem havailable).mpr h)⟩
  | @act action haction hstep =>
    subst hstep
    obtain ⟨hallowed, hprotocol⟩ := hwf.irreversible action haction
    obtain ⟨hread, hterminal, hchannel⟩ := not_protocol hprotocol
    exact ⟨hallowed, mutationFailure_eq_none.mpr (if_pos haction).symm,
      (plain_argumentFailure hterminal hchannel).mpr fun _ => rfl,
      (plain_revealFailure hread hchannel).mpr rfl⟩
  | @complete decision hstep =>
    subst hstep
    exact ⟨hwf.terminalAllowed, (mutations_of_protocol hwf terminal_mem_protocol).mpr rfl,
      (terminal_argumentFailure rfl).mpr ⟨decision, fun _ => rfl⟩,
      (plain_revealFailure read_ne_terminal.symm ofAction_terminal).mpr rfl⟩

/-- What the evaluator accepts, the environment files, if it knows the action at all. -/
theorem takes_of_accepted (hwf : env.variant.WellFormed) (helicits : Elicits env elicited)
    (h : stepFailure env.variant step elicited = none)
    (hindex : step.index = env.steps.length + 1) (hperformed : step.action ∈ protocolActions ∨
      step.action ∈ env.variant.irreversibleActions) :
    ∃ filed env', Takes env filed env' ∧ filed.Same step := by
  obtain ⟨-, hmutations, harguments, hreveals⟩ := stepFailure_eq_none.mp h
  rcases hperformed with hprotocol | hirreversible
  · rw [mutations_of_protocol hwf hprotocol] at hmutations
    rcases of_protocol hprotocol with haction | ⟨channel, haction⟩ | haction
    · rw [read_revealFailure haction] at hreveals
      rw [plain_argumentFailure (haction ▸ read_ne_terminal) (haction ▸ ofAction_read)] at harguments
      exact ⟨_, _, .read rfl, hindex.symm, haction.symm, fun key => (harguments key).symm,
        hreveals.symm, hmutations.symm⟩
    · obtain ⟨fact, -, hfact, hshown⟩ :=
        requestFailure_eq_none.mp ((request_revealFailure haction).mp hreveals)
      obtain ⟨target, hmem, havailable, hsource, hkey, hrevealed⟩ : ∃ target ∈
          env.variant.observations, target.availability = .onRequest ∧
          target.source = channel.source ∧ target.key = fact ∧ step.revealedObservationIds =
            if target.observationId ∈ env.observed then [] else [target.observationId] := by
        rcases hshown with ⟨hnil, target, htarget, hseen⟩ |
          ⟨id, target, hone, htarget, havailable, hsource, hkey, hunseen⟩
        · have hfound := List.find?_some (p := fun e : Observation =>
            decide (e.availability = .onRequest) && decide (e.key = fact) &&
              decide (e.source = channel.source)) htarget
          simp only [Bool.and_eq_true, decide_eq_true_eq] at hfound
          have hmem := List.mem_of_find?_eq_some htarget
          exact ⟨target, hmem, hfound.1.1, hfound.2, hfound.1.2,
            by rw [hnil, if_pos ((helicits target hmem hfound.1.1).mpr hseen)]⟩
        · obtain ⟨hmem, rfl⟩ := observation_mem htarget
          exact ⟨target, hmem, havailable, hsource, hkey,
            by rw [hone, if_neg fun h => hunseen ((helicits target hmem havailable).mp h)]⟩
      obtain ⟨entry, hentry, hentryKey, hentrySource⟩ := hwf.registered target hmem havailable
      have hchannel : entry.action = channel := by
        have hsources := hentrySource.symm.trans hsource
        revert hsources
        cases entry.action <;> cases channel <;> simp [Channel.source]
      refine ⟨_, _, .ask hentry ?_ rfl, hindex.symm, ?_, ?_, hrevealed.symm, hmutations.symm⟩
      · exact hentryKey ▸ hwf.resolution_eq hmem havailable
      · rw [hchannel, haction]
      · intro key
        rw [hfact, ← hkey, hentryKey]
    · obtain ⟨decision, hdecision⟩ := (terminal_argumentFailure haction).mp harguments
      rw [plain_revealFailure (haction ▸ read_ne_terminal.symm)
        (haction ▸ ofAction_terminal)] at hreveals
      exact ⟨_, _, .complete rfl, hindex.symm, haction.symm, fun key => (hdecision key).symm,
        hreveals.symm, hmutations.symm⟩
  · obtain ⟨-, hprotocol⟩ := hwf.irreversible _ hirreversible
    obtain ⟨hread, hterminal, hchannel⟩ := not_protocol hprotocol
    rw [mutationFailure_eq_none, if_pos hirreversible] at hmutations
    rw [plain_argumentFailure hterminal hchannel] at harguments
    rw [plain_revealFailure hread hchannel] at hreveals
    exact ⟨_, _, .act hirreversible rfl, hindex.symm, rfl, fun key => (harguments key).symm,
      hreveals.symm, hmutations.symm⟩

end Acceptance

section Runs

variable {variant : Variant} {env env' : Environment} {step step' : Step} {steps : List Step}

def elicitedAfter (steps : List Step) (elicited : List String) : List String :=
  steps.foldl (fun elicited step => step.elicit elicited) elicited

theorem stepsFailure_concat (steps : List Step) (last : Step) (elicited : List String) :
    stepsFailure variant elicited (steps ++ [last]) = none ↔
      stepsFailure variant elicited steps = none ∧
        stepFailure variant last (elicitedAfter steps elicited) = none := by
  induction steps generalizing elicited with
  | nil => simp [stepsFailure, elicitedAfter]
  | cons step steps ih =>
    rw [List.cons_append, stepsFailure, stepsFailure, Option.or_eq_none_iff,
      Option.or_eq_none_iff, ih, and_assoc]
    rfl

theorem elicitedAfter_concat (steps : List Step) (last : Step) (elicited : List String) :
    elicitedAfter (steps ++ [last]) elicited = last.elicit (elicitedAfter steps elicited) := by
  simp [elicitedAfter]

/-- The evaluator accepts the steps of a genuine environment. -/
theorem Genuine.accepted (h : Genuine variant env) (hwf : variant.WellFormed) :
    stepsFailure variant [] env.steps = none ∧ Elicits env (elicitedAfter env.steps []) := by
  induction h with
  | start => exact ⟨rfl, fun _ _ _ => Iff.rfl⟩
  | @step env env' step henv hopen htakes ih =>
    have hvariant := henv.variant_eq
    rw [htakes.steps_eq, stepsFailure_concat, elicitedAfter_concat]
    refine ⟨⟨ih.1, ?_⟩, htakes.elicits (hvariant ▸ hwf) ih.2⟩
    exact hvariant ▸ htakes.accepted (hvariant ▸ hwf) ih.2

/-- The summary of the environment is what its steps say. -/
structure Summed (env : Environment) : Prop where
  contiguous : env.steps.map Step.index =
    (List.range env.steps.length).map fun i : ℕ => (i : ℤ) + 1
  observed : env.observed = orderedReveals env.steps
  mutations : env.mutations = recordedMutations env.steps
  terminal : env.terminal =
    (terminals env.steps).getLast?.bind fun step => reportedDecision? step.arguments
  reported : ∀ step ∈ terminals env.steps, (reportedDecision? step.arguments).isSome = true

theorem Takes.summed (h : Takes env step env') (hwf : env.variant.WellFormed)
    (hsummed : Summed env) : Summed env' := by
  have hterminals : terminals env'.steps = terminals env.steps ++ terminals [step] := by
    rw [h.steps_eq, terminals, List.filter_append]
    rfl
  have hmutations : recordedMutations env'.steps = env.mutations ++
      step.mutations.map fun mutation => (step.index, mutation) := by
    rw [h.steps_eq, recordedMutations, List.flatMap_append, hsummed.mutations]
    simp [recordedMutations]
  have hother : step.action ≠ terminalAction → terminals [step] = [] := by
    intro hne
    simp [terminals, hne]
  have hindices : env'.steps.map Step.index =
      (List.range env'.steps.length).map fun i : ℕ => (i : ℤ) + 1 := by
    rw [h.steps_eq, List.map_append, hsummed.contiguous, List.length_append, List.length_singleton,
      List.range_succ, List.map_append, List.map_singleton, List.map_singleton, h.index_eq]
  have hobserved : env'.observed = orderedReveals env'.steps := by
    rw [h.observed_eq, h.steps_eq, orderedReveals, List.foldl_append, hsummed.observed]
    rfl
  cases h with
  | read hstep =>
    rw [hother (hstep ▸ read_ne_terminal), List.append_nil] at hterminals
    refine ⟨hindices, hobserved, ?_, ?_, ?_⟩
    · rw [hmutations, hstep]
      exact (List.append_nil _).symm
    · exact hterminals ▸ hsummed.terminal
    · exact hterminals ▸ hsummed.reported
  | @ask entry _ _ _ hstep =>
    rw [hother (hstep ▸ channel_ne_terminal entry.action), List.append_nil] at hterminals
    refine ⟨hindices, hobserved, ?_, ?_, ?_⟩
    · rw [hmutations, hstep]
      exact (List.append_nil _).symm
    · exact hterminals ▸ hsummed.terminal
    · exact hterminals ▸ hsummed.reported
  | @act action haction hstep =>
    have hne := (not_protocol (hwf.irreversible action haction).2).2.1
    rw [hother (hstep ▸ hne), List.append_nil] at hterminals
    refine ⟨hindices, hobserved, ?_, ?_, ?_⟩
    · rw [hmutations, hstep]
      rfl
    · exact hterminals ▸ hsummed.terminal
    · exact hterminals ▸ hsummed.reported
  | @complete decision hstep =>
    have hlast : terminals [step] = [step] := by simp [terminals, hstep]
    have hreported : reportedDecision? step.arguments = some decision := by
      rw [hstep]
      exact reportedDecision_terminalArguments decision
    rw [hlast] at hterminals
    refine ⟨hindices, hobserved, ?_, ?_, ?_⟩
    · rw [hmutations, hstep]
      exact (List.append_nil _).symm
    · rw [hterminals, List.getLast?_concat]
      exact hreported.symm
    · rw [hterminals]
      intro other hother
      rcases List.mem_append.mp hother with hother | hother
      · exact hsummed.reported other hother
      · rw [List.mem_singleton.mp hother, hreported]
        rfl

theorem Genuine.summed (h : Genuine variant env) (hwf : variant.WellFormed) : Summed env := by
  induction h with
  | start => exact ⟨rfl, rfl, rfl, rfl, fun _ h => nomatch h⟩
  | step henv _ htakes ih => exact htakes.summed (henv.variant_eq ▸ hwf) ih

theorem Summed.decisionFailure_eq_none (h : Summed env) : decisionFailure env.trajectory = none := by
  have hterminal := h.terminal
  unfold decisionFailure
  rw [show env.trajectory.steps = env.steps from rfl,
    show env.trajectory.terminalDecision = env.terminal from rfl]
  cases hlast : (terminals env.steps).getLast? with
  | none =>
    rw [hlast] at hterminal
    rw [hterminal]
    rfl
  | some step =>
    obtain ⟨decision, hreported⟩ := Option.isSome_iff_exists.mp
      (h.reported step (List.mem_of_getLast? hlast))
    rw [hlast, Option.bind_some, hreported] at hterminal
    rw [hterminal]
    simp [hreported]

theorem Genuine.integrity (h : Genuine variant env) (hwf : variant.WellFormed) :
    integrityFailure variant env.trajectory = none := by
  have hsummed := h.summed hwf
  rw [integrityFailure, show env.trajectory.steps = env.steps from rfl, (h.accepted hwf).1,
    Option.none_or]
  have hobserved : ¬orderedReveals env.steps ≠ env.trajectory.observedIds :=
    not_not.mpr hsummed.observed.symm
  have hmutations : ¬recordedMutations env.steps ≠ env.trajectory.mutationHistory :=
    not_not.mpr hsummed.mutations.symm
  dsimp only
  rw [if_neg hobserved, if_neg hmutations]
  exact hsummed.decisionFailure_eq_none

end Runs

section Reconstruction

variable {variant : Variant} {env env' : Environment} {step step' : Step} {steps : List Step}

/-- The environment knows how to perform the action. -/
def Performs (variant : Variant) (action : String) : Prop :=
  action ∈ protocolActions ∨ action ∈ variant.irreversibleActions

theorem Step.Same.elicit (h : step.Same step') (elicited : List String) :
    step.elicit elicited = step'.elicit elicited := by
  rw [Step.elicit, Step.elicit, h.action, h.revealed]

theorem open_of_terminals (h : terminals env.steps = []) : env.terminated = false := by
  rw [Environment.terminated]
  cases hlast : env.steps.getLast? with
  | none => rfl
  | some last =>
    rw [terminals, List.filter_eq_nil_iff] at h
    exact Bool.eq_false_iff.mpr (h last (List.mem_of_getLast? hlast))

theorem terminals_same {others : List Step} (h : List.Forall₂ Step.Same steps others) :
    List.Forall₂ Step.Same (terminals steps) (terminals others) :=
  List.rel_filter (fun _ _ hsame => by simp only [hsame.action]) h

theorem orderedReveals_same {others : List Step} (h : List.Forall₂ Step.Same steps others) :
    orderedReveals steps = orderedReveals others := by
  unfold orderedReveals
  generalize ([] : List String) = revealed
  induction h generalizing revealed with
  | nil => rfl
  | cons hsame _ ih => rw [List.foldl_cons, List.foldl_cons, hsame.revealed, ih]

theorem recordedMutations_same {others : List Step} (h : List.Forall₂ Step.Same steps others) :
    recordedMutations steps = recordedMutations others := by
  induction h with
  | nil => rfl
  | cons hsame _ ih =>
    rw [recordedMutations, recordedMutations, List.flatMap_cons, List.flatMap_cons,
      hsame.mutations, hsame.index]
    exact congrArg _ ih

/-- Steps that are accepted, performed and closed by the last one only are genuine. -/
theorem genuine_of_accepted (hwf : variant.WellFormed)
    (haccepted : stepsFailure variant [] steps = none)
    (hindices : steps.map Step.index = (List.range steps.length).map fun i : ℕ => (i : ℤ) + 1)
    (hperformed : ∀ step ∈ steps, Performs variant step.action)
    (hopen : terminals steps.dropLast = []) :
    ∃ env, Genuine variant env ∧ List.Forall₂ Step.Same env.steps steps ∧
      Elicits env (elicitedAfter steps []) := by
  induction steps using List.reverseRecOn with
  | nil => exact ⟨{ variant }, .start, .nil, fun _ _ _ => Iff.rfl⟩
  | append_singleton front last ih =>
    rw [List.dropLast_concat] at hopen
    rw [stepsFailure_concat] at haccepted
    rw [List.map_append, List.length_append, List.length_singleton, List.range_succ,
      List.map_append] at hindices
    obtain ⟨hfront, hlast⟩ := List.append_inj' hindices rfl
    have hbegins : terminals front.dropLast = [] := by
      rw [terminals, List.filter_eq_nil_iff] at hopen ⊢
      exact fun step hstep => hopen step (List.dropLast_subset front hstep)
    obtain ⟨env, henv, hsame, helicits⟩ := ih haccepted.1 hfront
      (fun step hstep => hperformed step (List.mem_append_left _ hstep)) hbegins
    have hvariant := henv.variant_eq
    have hstillOpen : env.terminated = false := by
      have hclosed := terminals_same hsame
      rw [hopen, List.forall₂_nil_right_iff] at hclosed
      exact open_of_terminals hclosed
    have hindex : last.index = env.steps.length + 1 := by
      rw [hsame.length_eq]
      exact List.cons.inj hlast |>.1
    obtain ⟨filed, next, htakes, hfiled⟩ := takes_of_accepted (hvariant ▸ hwf) helicits
      (hvariant ▸ haccepted.2) hindex
      (hvariant ▸ hperformed last (List.mem_append_right _ List.mem_cons_self))
    refine ⟨next, henv.step hstillOpen htakes, ?_, ?_⟩
    · rw [htakes.steps_eq]
      exact List.rel_append hsame (.cons hfiled .nil)
    · rw [elicitedAfter_concat, ← hfiled.elicit]
      exact htakes.elicits (hvariant ▸ hwf) helicits

end Reconstruction

section Grading

variable {variant : Variant} {trajectory : Trajectory}

/-- An evaluation that passes the ordering predicate rests on the checks of that predicate. -/
theorem ordering_of_passes {evaluation : VariantEvaluation}
    (h : evaluate variant trajectory = .ok evaluation) (hpasses : evaluation.passes .ordering = true) :
    trajectory.variantId = variant.variantId ∧ checkOrdering variant trajectory = none := by
  have hall : ∀ fault : Fault,
      (VariantEvaluation.mk variant.variantId (checks.map fun check => ⟨check.1, some fault⟩)).passes
        .ordering = false := fun _ => rfl
  unfold evaluate at h
  split at h
  · obtain rfl := Except.ok.inj h
    rw [hall] at hpasses
    cases hpasses
  · split at h
    · cases h
    · rename_i hid
      split at h
      · obtain rfl := Except.ok.inj h
        rw [hall] at hpasses
        cases hpasses
      · obtain rfl := Except.ok.inj h
        refine ⟨not_not.mp hid, ?_⟩
        simpa [VariantEvaluation.passes, checks, PredicateResult.passed] using hpasses

/-- A trajectory that passes the ordering predicate ends in its one terminal step. -/
theorem checkOrdering_eq_none (h : checkOrdering variant trajectory = none) :
    trajectory.contiguous = true ∧ integrityFailure variant trajectory = none ∧
      terminals trajectory.steps.dropLast = [] := by
  obtain ⟨hcontiguous, h⟩ : trajectory.contiguous = true ∧ _ := by
    unfold checkOrdering at h
    split at h
    · cases h
    · exact ⟨not_not.mp ‹_›, h⟩
  refine ⟨hcontiguous, ?_⟩
  split at h
  · cases h
  · refine ⟨‹_›, ?_⟩
    split at h
    · cases h
    · rename_i index hone
      split at h
      · cases h
      · rename_i hlast
        rcases List.eq_nil_or_concat trajectory.steps with hnil | ⟨front, last, hsteps⟩
        · rw [hnil]
          rfl
        · rw [List.concat_eq_append] at hsteps
          rw [hsteps, List.getLast?_concat] at hlast
          rw [hsteps, List.dropLast_concat]
          have hterminal : last.action = terminalAction := by simpa using hlast
          have hlength := congrArg List.length hone
          rw [Trajectory.terminalIndices, List.length_map, hsteps, terminals, List.filter_append,
            List.length_append] at hlength
          simp only [List.filter_cons, hterminal, decide_true, if_true, List.filter_nil,
            List.length_cons, List.length_nil] at hlength
          exact List.length_eq_zero_iff.mp (by simpa [terminals] using hlength)
    · cases h

/-- The trajectory is the other one, up to the order of arguments. -/
structure Trajectory.Same (trajectory other : Trajectory) : Prop where
  variantId : trajectory.variantId = other.variantId
  steps : List.Forall₂ Step.Same trajectory.steps other.steps
  terminalDecision : trajectory.terminalDecision = other.terminalDecision
  observedIds : trajectory.observedIds = other.observedIds
  mutationHistory : trajectory.mutationHistory = other.mutationHistory

/-- The replay of the trajectory yields the trajectory. -/
def Reproduced (str : Datum → String) (variant : Variant) (trajectory : Trajectory) : Prop :=
  ∃ replayed, replayTrajectory str variant trajectory = .ok replayed ∧ replayed.Same trajectory

/-- The summary of a trajectory without faults is that of the environment with its steps. -/
theorem trajectory_same {env : Environment} (henv : Summed env)
    (hid : env.variant.variantId = trajectory.variantId)
    (hsteps : List.Forall₂ Step.Same env.steps trajectory.steps)
    (h : integrityFailure variant trajectory = none) : env.trajectory.Same trajectory := by
  rw [integrityFailure, Option.or_eq_none_iff] at h
  obtain ⟨-, h⟩ := h
  dsimp only at h
  split at h
  · cases h
  · rename_i hobserved
    split at h
    · cases h
    · rename_i hmutations
      refine ⟨hid, hsteps, ?_, ?_, ?_⟩
      · have hterminals := terminals_same hsteps
        have hlast : Option.Rel Step.Same (terminals env.steps).getLast?
            (terminals trajectory.steps).getLast? := by
          have hreverse := List.rel_reverse hterminals
          rw [← List.head?_reverse, ← List.head?_reverse]
          generalize (terminals env.steps).reverse = mine at hreverse ⊢
          generalize (terminals trajectory.steps).reverse = theirs at hreverse ⊢
          cases hreverse with
          | nil => exact .none
          | cons hhead _ => exact .some hhead
        have hterminal := henv.terminal
        have hreported := henv.reported
        rw [show env.trajectory.terminalDecision = env.terminal from rfl]
        unfold decisionFailure at h
        generalize hmine : (terminals env.steps).getLast? = mine at hlast hterminal
        generalize (terminals trajectory.steps).getLast? = theirs at hlast h
        cases hlast with
        | none =>
          rw [hterminal]
          cases htheirs : trajectory.terminalDecision with
          | none => rfl
          | some decision => rw [htheirs] at h; cases h
        | @some step other hsame =>
          obtain ⟨decision, hdecision⟩ := Option.isSome_iff_exists.mp
            (hreported step (List.mem_of_getLast? hmine))
          rw [Option.bind_some, hdecision] at hterminal
          cases htheirs : trajectory.terminalDecision with
          | none => rw [htheirs] at h; cases h
          | some claimed =>
            rw [htheirs] at h
            simp only [← reportedDecision_congr hsame.arguments, hdecision, Option.bind_some] at h
            split at h
            · cases h
            · rename_i hagree
              rw [hterminal, not_not.mp hagree]
      · exact henv.observed.trans ((orderedReveals_same hsteps).trans (not_not.mp hobserved))
      · exact henv.mutations.trans ((recordedMutations_same hsteps).trans (not_not.mp hmutations))

end Grading

section Refusals

variable (str : Datum → String) {env env' : Environment} {step : Step} {steps : List Step}

theorem call_variant {call : EnvCall} {reply : Reply} (h : env.call call = .ok (reply, env')) :
    env'.variant = env.variant := by
  rcases call_takes h with rfl | ⟨-, step, htakes⟩
  · rfl
  · exact htakes.variant_eq

/-- A replayed step is a call, and its action is one that the environment performs. -/
theorem replayStep_performs (h : replayStep str env step = .ok env') :
    Performs env.variant step.action ∧ env'.variant = env.variant := by
  have hcall : ∀ call, (env.call call).map Prod.snd = .ok env' → env'.variant = env.variant := by
    intro call hsnd
    obtain ⟨⟨reply, next⟩, hanswer, rfl⟩ := map_ok hsnd
    exact call_variant hanswer
  have hsnd : ∀ {α : Type} {x : Except Refusal (α × Environment)} {f : α → Reply},
      x.map Prod.snd = .ok env' →
      (x.map fun r => (f r.1, r.2)).map Prod.snd = .ok env' := by
    intro α x f hx
    obtain ⟨r, rfl, hr⟩ := map_ok hx
    exact congrArg Except.ok hr
  have hdone : ∀ {x : Except Refusal Environment}, x = .ok env' →
      (x.map fun env => (Reply.done, env)).map Prod.snd = .ok env' := by
    rintro x rfl
    rfl
  unfold replayStep at h
  split at h
  · rename_i haction
    exact ⟨Or.inl (haction ▸ read_mem_protocol), hcall .readRecords (hsnd h)⟩
  · split at h
    · rename_i channel hchannel
      have hprotocol : step.action ∈ protocolActions :=
        ofAction_eq_some hchannel ▸ channel_mem_protocol channel
      split at h
      · cases h
      · obtain ⟨-, h⟩ := unless_ok h
        exact ⟨Or.inl hprotocol, hcall (.obtain _) (hsnd h)⟩
    · split at h
      · rename_i haction
        split at h
        · cases h
        · exact ⟨Or.inl (haction ▸ terminal_mem_protocol), hcall (.completeCase _) (hdone h)⟩
      · obtain ⟨haction, -⟩ := unless_ok h
        exact ⟨Or.inr (not_not.mp haction), hcall (.act _) (hdone h)⟩

theorem replaySteps_performs (h : replaySteps str env steps = .ok env') :
    ∀ step ∈ steps, Performs env.variant step.action := by
  induction steps generalizing env with
  | nil => exact fun _ h => nomatch h
  | cons first steps ih =>
    rw [replaySteps, List.foldlM_cons] at h
    obtain ⟨next, hfirst, h⟩ := bind_ok h
    obtain ⟨hperforms, hvariant⟩ := replayStep_performs str hfirst
    rintro step (_ | ⟨_, hstep⟩)
    · exact hperforms
    · exact hvariant ▸ ih h step hstep

end Refusals

section Claims

variable {card : ConstructCard} {cube : Cube} {variant : Variant}

/-- The environment's own trajectories are accepted and reproduced. A trajectory whose
ordering the evaluator passes is reproduced exactly when the environment knows how to perform
all of its actions. -/
theorem accepted_reproduced (str : Datum → String) (h : compileCube card = .ok cube)
    (hvariant : variant ∈ cube.variants) :
    (∀ calls, let trajectory := (Environment.play { variant } calls).2.trajectory
      trajectory.contiguous = true ∧ integrityFailure variant trajectory = none ∧
        replayTrajectory str variant trajectory = .ok trajectory) ∧
    ∀ trajectory evaluation, evaluate variant trajectory = .ok evaluation →
      evaluation.passes .ordering = true →
      (Reproduced str variant trajectory ↔ ∀ step ∈ trajectory.steps,
        step.action ∈ protocolActions ∨ step.action ∈ variant.irreversibleActions) := by
  obtain ⟨matched, attempted, hcompiles⟩ := compileCube_ok h hvariant
  have hwf := hcompiles.wellFormed
  refine ⟨fun calls => ?_, fun trajectory evaluation hevaluation hpasses => ?_⟩
  · have hgenuine := play_genuine (Genuine.start : Genuine variant _) calls
    refine ⟨decide_eq_true (hgenuine.summed hwf).contiguous, hgenuine.integrity hwf, ?_⟩
    have hreplay := hgenuine.replay str hwf (List.forall₂_same.mpr fun step _ => Step.Same.refl step)
    exact congrArg (Except.map Environment.trajectory) hreplay
  · obtain ⟨hid, hordering⟩ := ordering_of_passes hevaluation hpasses
    obtain ⟨hcontiguous, hintegrity, hopen⟩ := checkOrdering_eq_none hordering
    constructor
    · rintro ⟨replayed, hreplayed, -⟩
      obtain ⟨env, henv, -⟩ := map_ok hreplayed
      exact replaySteps_performs str henv
    · intro hperformed
      have haccepted := (Option.or_eq_none_iff.mp hintegrity).1
      obtain ⟨env, henv, hsame, -⟩ :=
        genuine_of_accepted hwf haccepted (of_decide_eq_true hcontiguous) hperformed hopen
      refine ⟨env.trajectory, ?_, trajectory_same (henv.summed hwf) ?_ hsame hintegrity⟩
      · exact congrArg (Except.map Environment.trajectory) (henv.replay str hwf hsame)
      · rw [henv.variant_eq, hid]

/-- An episode on the first cell of the small card, with further actions before its end. -/
def episode (further : List String) : Trajectory where
  variantId := "fixture_authority_v1::cell::S0_P0"
  steps :=
    [⟨1, readAction, Dict.empty, ["obs:active_policy:applicable_policy:01",
        "obs:initial_record:property_ref:02", "obs:initial_record:reported_issue:03"], []⟩,
      ⟨2, "ask_user", Environment.factArgument "repair_quote_gbp",
        ["obs:user_answer:repair_quote_gbp:04"], []⟩] ++
    (further.zipIdx.map fun (action, i) => ⟨3 + i, action, Dict.empty, [], []⟩) ++
    [⟨3 + further.length, terminalAction,
      Environment.terminalArguments ⟨"ACT", "", [], []⟩, [], []⟩]
  terminalDecision := some ⟨"ACT", "", [], []⟩
  observedIds := ["obs:active_policy:applicable_policy:01", "obs:initial_record:property_ref:02",
    "obs:initial_record:reported_issue:03", "obs:user_answer:repair_quote_gbp:04"]
  mutationHistory := []

theorem quoteCard_reproduced : ∃ cube, compileCube quoteCard = .ok cube ∧
    ∃ variant ∈ cube.variants, Reproduced (fun _ => "") variant (episode []) := by
  obtain ⟨cube, hcube, hfound⟩ := ok_of_any (x := compileCube quoteCard)
    (p := fun cube => cube.variants.any fun variant =>
      (evaluate variant (episode [])).toOption.any fun evaluation => evaluation.passes .ordering)
    (by decide +kernel)
  obtain ⟨variant, hvariant, hpasses⟩ := List.any_eq_true.mp hfound
  obtain ⟨evaluation, hevaluation, hpasses⟩ := ok_of_any hpasses
  refine ⟨cube, hcube, variant, hvariant, ((accepted_reproduced (fun _ => "") hcube hvariant).2
    (episode []) evaluation hevaluation hpasses).mpr ?_⟩
  have hprotocol : ∀ step ∈ (episode []).steps, step.action ∈ protocolActions := by
    intro step hstep
    simp only [episode, List.zipIdx_nil, List.map_nil, List.append_nil, List.cons_append,
      List.nil_append, List.mem_cons, List.not_mem_nil, or_false] at hstep
    rcases hstep with rfl | rfl | rfl <;> simp [protocolActions, Channel.action]
  exact fun step hstep => Or.inl (hprotocol step hstep)

/-- A card that permits an action which is neither of the protocol nor irreversible. -/
def escalationCard : ConstructCard :=
  minimalCard quote_named quote_apart ["escalate"]

theorem escalation_accepted : ∃ cube, compileCube escalationCard = .ok cube ∧
    ∃ variant ∈ cube.variants,
      (∃ evaluation, evaluate variant (episode ["escalate"]) = .ok evaluation ∧
        evaluation.passes .ordering = true) ∧
      ∀ str, ¬Reproduced str variant (episode ["escalate"]) := by
  obtain ⟨cube, hcube, hfound⟩ := ok_of_any (x := compileCube escalationCard)
    (p := fun cube => cube.variants.any fun variant =>
      "escalate" ∉ variant.irreversibleActions &&
        (evaluate variant (episode ["escalate"])).toOption.any
          fun evaluation => evaluation.passes .ordering) (by decide +kernel)
  obtain ⟨variant, hvariant, hpasses⟩ := List.any_eq_true.mp hfound
  obtain ⟨hunknown, hpasses⟩ := (Bool.and_eq_true _ _).mp hpasses
  refine ⟨cube, hcube, variant, hvariant, ok_of_any hpasses, ?_⟩
  rintro str ⟨replayed, hreplayed, -⟩
  obtain ⟨env, henv, -⟩ := map_ok hreplayed
  have hperforms := replaySteps_performs str henv
    ⟨3, "escalate", Dict.empty, [], []⟩ (by simp [episode])
  rcases hperforms with hprotocol | hirreversible
  · exact absurd hprotocol (by decide)
  · exact of_decide_eq_true hunknown hirreversible

end Claims

end OperateBench.Cubes
