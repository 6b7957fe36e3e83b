import OperateBench.Cubes.Compiled
import OperateBench.Cubes.Evaluator

/-! # Genuine episodes

What one call files is said once, and a genuine environment is one that was built of such
steps. Whatever is called leaves an environment genuine, and replaying its steps gives it
back.
-/

namespace OperateBench.Cubes

open Foundation

section Filing

/-- Put the step behind the others, with the handles that it reveals. -/
def Environment.file (env : Environment) (step : Step) : Environment :=
  { env with
    observed := Environment.addNew env.observed step.revealedObservationIds
    steps := env.steps ++ [step] }

/-- One filed step, and the environment after it. -/
inductive Takes (env : Environment) : Step → Environment → Prop
  | read {step : Step} (hstep : step = ⟨env.steps.length + 1, readAction, Dict.empty,
      env.variant.initialObservations.map Observation.observationId, []⟩) :
    Takes env step (env.file step)
  | ask {step : Step} {entry : QueryEntry} {target : Observation}
      (hentry : entry ∈ env.variant.queryRegistry.entries)
      (htarget : env.resolutionObservation entry.queryKey = some target)
      (hstep : step = ⟨env.steps.length + 1, entry.action.action,
        Environment.factArgument entry.queryKey,
        if target.observationId ∈ env.observed then [] else [target.observationId], []⟩) :
    Takes env step (env.file step)
  | act {step : Step} {action : String} (haction : action ∈ env.variant.irreversibleActions)
      (hstep : step = ⟨env.steps.length + 1, action, Dict.empty, [], [action]⟩) :
    Takes env step { env.file step with
      mutations := env.mutations ++ [((env.steps.length : ℤ) + 1, action)] }
  | complete {step : Step} {decision : TerminalDecision}
      (hstep : step = ⟨env.steps.length + 1, terminalAction,
        Environment.terminalArguments decision, [], []⟩) :
    Takes env step { env.file step with terminal := some decision }

/-- An environment that was built of filed steps. -/
inductive Genuine (variant : Variant) : Environment → Prop
  | start : Genuine variant { variant }
  | step {env env' : Environment} {step : Step} (henv : Genuine variant env)
    (hopen : env.terminated = false) (htakes : Takes env step env') : Genuine variant env'

/-- Two steps that compare equal: the order of the arguments does not count. -/
structure Step.Same (step step' : Step) : Prop where
  index : step.index = step'.index
  action : step.action = step'.action
  arguments : ∀ key, step.arguments.get? key = step'.arguments.get? key
  revealed : step.revealedObservationIds = step'.revealedObservationIds
  mutations : step.mutations = step'.mutations

theorem Step.Same.refl (step : Step) : step.Same step := ⟨rfl, rfl, fun _ => rfl, rfl, rfl⟩

variable {env env' : Environment} {step : Step}

theorem Takes.steps_eq (h : Takes env step env') : env'.steps = env.steps ++ [step] := by
  cases h <;> rfl

theorem Takes.variant_eq (h : Takes env step env') : env'.variant = env.variant := by
  cases h <;> rfl

theorem Takes.observed_eq (h : Takes env step env') :
    env'.observed = Environment.addNew env.observed step.revealedObservationIds := by
  cases h <;> rfl

theorem Takes.index_eq (h : Takes env step env') : step.index = env.steps.length + 1 := by
  cases h with
  | read hstep => rw [hstep]
  | ask _ _ hstep => rw [hstep]
  | act _ hstep => rw [hstep]
  | complete hstep => rw [hstep]

end Filing

section Vocabulary

theorem ofAction_action (channel : Channel) : Channel.ofAction? channel.action = some channel := by
  cases channel <;> rfl

theorem ofAction_eq_some {action : String} {channel : Channel}
    (h : Channel.ofAction? action = some channel) : action = channel.action := by
  have hfound := List.find?_some (p := fun c : Channel => c.action == action) h
  exact (beq_iff_eq.mp hfound).symm

/-- An action outside the protocol is neither a read, nor a request, nor the decision. -/
theorem not_protocol {action : String} (h : action ∉ protocolActions) :
    action ≠ readAction ∧ action ≠ terminalAction ∧ Channel.ofAction? action = none := by
  simp only [protocolActions, List.mem_cons, List.not_mem_nil, or_false, not_or] at h
  obtain ⟨hread, hterminal, hask, htool⟩ := h
  refine ⟨hread, hterminal, ?_⟩
  rw [Option.eq_none_iff_forall_ne_some]
  rintro (_ | _) hchannel
  · exact hask (ofAction_eq_some hchannel)
  · exact htool (ofAction_eq_some hchannel)

/-- An action of the protocol is a read, a request or the decision. -/
theorem of_protocol {action : String} (h : action ∈ protocolActions) :
    action = readAction ∨ (∃ channel : Channel, action = channel.action) ∨
      action = terminalAction := by
  simp only [protocolActions, List.mem_cons, List.not_mem_nil, or_false] at h
  rcases h with rfl | rfl | rfl | rfl
  · exact Or.inl rfl
  · exact Or.inr (Or.inr rfl)
  · exact Or.inr (Or.inl ⟨.askUser, rfl⟩)
  · exact Or.inr (Or.inl ⟨.callTool, rfl⟩)

theorem channel_ne_read (channel : Channel) : channel.action ≠ readAction := by
  cases channel <;> decide

theorem channel_ne_terminal (channel : Channel) : channel.action ≠ terminalAction := by
  cases channel <;> decide

theorem channel_mem_protocol (channel : Channel) : channel.action ∈ protocolActions := by
  cases channel <;> decide

theorem read_mem_protocol : readAction ∈ protocolActions := by decide

theorem terminal_mem_protocol : terminalAction ∈ protocolActions := by decide

theorem read_ne_terminal : readAction ≠ terminalAction := by decide

theorem ofAction_read : Channel.ofAction? readAction = none := by decide

theorem ofAction_terminal : Channel.ofAction? terminalAction = none := by decide

theorem texts_map_str (ss : List String) : (Datum.seq (ss.map .str)).texts? = some ss := by
  show (ss.map Datum.str).mapM Datum.asStr? = some ss
  induction ss with
  | nil => rfl
  | cons s ss ih => rw [List.map_cons, List.mapM_cons, ih]; rfl

theorem texts_eq_some {d : Datum} {ss : List String} (h : d.texts? = some ss) :
    d = .seq (ss.map .str) := by
  cases d with
  | seq items =>
    refine congrArg Datum.seq ?_
    replace h : items.mapM Datum.asStr? = some ss := h
    induction items generalizing ss with
    | nil =>
      obtain rfl := Option.some.inj h
      rfl
    | cons d items ih =>
      rw [List.mapM_cons, Option.bind_eq_bind, Option.bind_eq_some_iff] at h
      obtain ⟨s, hs, h⟩ := h
      rw [Option.bind_eq_bind, Option.bind_eq_some_iff] at h
      obtain ⟨rest, hrest, h⟩ := h
      obtain rfl := Option.some.inj h
      rw [ih hrest]
      cases d with
      | str t =>
        obtain rfl := Option.some.inj hs
        rfl
      | _ => cases hs
  | _ => cases h

theorem asStr_eq_some {d : Datum} {s : String} (h : d.asStr? = some s) : d = .str s := by
  cases d with
  | str t => exact congrArg Datum.str (Option.some.inj h)
  | _ => cases h

end Vocabulary

section Arguments

variable (decision : TerminalDecision)

theorem terminalArguments_get (key : String) :
    (Environment.terminalArguments decision).get? key =
      if key = "disposition" then some (.str decision.disposition)
      else if key = "primary_reason_code" then some (.str decision.primaryReasonCode)
      else if key = "secondary_reason_codes" then
        some (.seq (decision.secondaryReasonCodes.map .str))
      else if key = "evidence_refs" then some (.seq (decision.evidenceRefs.map .str))
      else none := by
  simp only [Environment.terminalArguments, Dict.ofList, List.foldl_cons, List.foldl_nil,
    Dict.get?_set, Dict.get?_empty, eq_comm (b := key)]
  split_ifs <;> simp_all

theorem reportedDecision_terminalArguments :
    reportedDecision? (Environment.terminalArguments decision) = some decision := by
  simp [reportedDecision?, terminalArguments_get, Datum.asStr?, texts_map_str]

theorem iterate_map_str (str : Datum → String) (ss : List String) :
    (Datum.seq (ss.map .str)).iterate?.map (List.map (Datum.textWith str)) = some ss := by
  simp [Datum.iterate?, Datum.textWith, Function.comp_def]

theorem decisionOf_terminalArguments (str : Datum → String) :
    decisionOf? str (Environment.terminalArguments decision) = some decision := by
  simp [decisionOf?, terminalArguments_get, Datum.iterate?, Datum.textWith, Function.comp_def]

theorem factArgument_get (queryKey key : String) :
    (Environment.factArgument queryKey).get? key =
      if key = "fact" then some (.str queryKey) else none := by
  simp only [Environment.factArgument, Dict.ofList, List.foldl_cons, List.foldl_nil,
    Dict.get?_set, Dict.get?_empty, eq_comm (b := key)]

theorem reportedDecision_congr {arguments arguments' : Arguments}
    (h : ∀ key, arguments.get? key = arguments'.get? key) :
    reportedDecision? arguments = reportedDecision? arguments' := by
  simp only [reportedDecision?, h]

theorem decisionOf_congr (str : Datum → String) {arguments arguments' : Arguments}
    (h : ∀ key, arguments.get? key = arguments'.get? key) :
    decisionOf? str arguments = decisionOf? str arguments' := by
  simp only [decisionOf?, h]

end Arguments

section Calls

variable {env env' : Environment} {step step' : Step} {variant : Variant}

theorem record_ok {action : String} {arguments : Arguments} {revealed : List Observation}
    {mutations : List String} (hallowed : action ∈ env.variant.allowedActions)
    (hopen : env.terminated = false) : env.record action arguments revealed mutations =
      .ok (env.file ⟨env.steps.length + 1, action, arguments,
        revealed.map Observation.observationId, mutations⟩) := by
  simp [Environment.record, Environment.file, hallowed, hopen]

theorem record_eq_ok {action : String} {arguments : Arguments} {revealed : List Observation}
    {mutations : List String} (h : env.record action arguments revealed mutations = .ok env') :
    env.terminated = false ∧ env' = env.file ⟨env.steps.length + 1, action, arguments,
      revealed.map Observation.observationId, mutations⟩ := by
  obtain ⟨hallowed, h⟩ := unless_ok h
  obtain ⟨hopen, h⟩ := unless_ok h
  exact ⟨Bool.eq_false_iff.mpr hopen, (Except.ok.inj h).symm⟩

/-- An accepted call files one step, or only looks up what was already seen. -/
theorem call_takes {call : EnvCall} {reply : Reply} (h : env.call call = .ok (reply, env')) :
    env' = env ∨ env.terminated = false ∧ ∃ step, Takes env step env' := by
  cases call with
  | readRecords =>
    obtain ⟨⟨revealed, next⟩, hread, heq⟩ := map_ok h
    obtain ⟨filed, hrecord, hread⟩ := bind_ok hread
    obtain ⟨hopen, rfl⟩ := record_eq_ok hrecord
    cases hread
    cases heq
    exact Or.inr ⟨hopen, _, .read rfl⟩
  | obtain queryKey =>
    obtain ⟨⟨target, next⟩, hobtain, heq⟩ := map_ok h
    obtain rfl : next = env' := congrArg Prod.snd heq
    unfold Environment.obtain at hobtain
    split at hobtain
    case h_1 entry hentry =>
      obtain ⟨hmem, rfl⟩ := QueryRegistry.entry_eq_some.mp hentry
      split at hobtain
      · cases hobtain
      · rename_i found hfound
        obtain ⟨filed, hrecord, hdone⟩ := bind_ok hobtain
        obtain ⟨hopen, rfl⟩ := record_eq_ok hrecord
        cases hdone
        refine Or.inr ⟨hopen, _, .ask hmem hfound ?_⟩
        split <;> rfl
    case h_2 =>
      split at hobtain
      · cases hobtain
      · split at hobtain
        · cases hobtain
          exact Or.inl rfl
        · cases hobtain
  | act action =>
    obtain ⟨next, hact, heq⟩ := map_ok h
    obtain ⟨haction, hact⟩ := unless_ok hact
    obtain ⟨filed, hrecord, hdone⟩ := bind_ok hact
    obtain ⟨hopen, rfl⟩ := record_eq_ok hrecord
    cases hdone
    cases heq
    exact Or.inr ⟨hopen, _, .act (not_not.mp haction) rfl⟩
  | completeCase decision =>
    obtain ⟨next, hcomplete, heq⟩ := map_ok h
    obtain ⟨filed, hrecord, hdone⟩ := bind_ok hcomplete
    obtain ⟨hopen, rfl⟩ := record_eq_ok hrecord
    cases hdone
    cases heq
    exact Or.inr ⟨hopen, _, .complete rfl⟩

/-- However it is called, a fresh environment stays genuine. -/
theorem play_genuine (h : Genuine variant env) (calls : List EnvCall) :
    Genuine variant (env.play calls).2 := by
  induction calls generalizing env with
  | nil => exact h
  | cons call calls ih =>
    unfold Environment.play
    split
    · exact ih h
    · rename_i hcall
      rcases call_takes hcall with rfl | ⟨hopen, step, htakes⟩
      · exact ih h
      · exact ih (.step h hopen htakes)

theorem Genuine.variant_eq (h : Genuine variant env) : env.variant = variant := by
  induction h with
  | start => rfl
  | step _ _ htakes ih => exact htakes.variant_eq.trans ih

end Calls

section Replay

variable (str : Datum → String) {env env' : Environment} {step step' : Step} {variant : Variant}

/-- A filed step is replayed from its action and its arguments. -/
theorem Takes.replay (h : Takes env step env') (hwf : env.variant.WellFormed)
    (hopen : env.terminated = false) (hsame : step.Same step') :
    replayStep str env step' = .ok env' := by
  cases h with
  | read hstep =>
    subst hstep
    rw [replayStep, if_pos hsame.action.symm, Environment.readRecords,
      record_ok hwf.readAllowed hopen]
    rfl
  | @ask entry target hentry htarget hstep =>
    subst hstep
    have haction : step'.action = entry.action.action := hsame.action.symm
    have hfact : (step'.arguments.get? "fact").bind Datum.asStr? = some entry.queryKey := by
      rw [← hsame.arguments, factArgument_get]
      rfl
    have hfound : env.variant.queryRegistry.entry entry.queryKey = some entry :=
      QueryRegistry.entry_eq_some.mpr ⟨hentry, rfl⟩
    rw [replayStep, if_neg (haction ▸ channel_ne_read _), haction, ofAction_action]
    simp only [hfact, QueryRegistry.channelFor, hfound, Option.map_some, Option.any_some, ne_eq,
      not_true_eq_false, decide_false, Bool.false_eq_true, if_false, Environment.obtain, htarget]
    rw [record_ok (hwf.offered entry hentry) hopen]
    split <;> rfl
  | @act action haction hstep =>
    subst hstep
    obtain ⟨hallowed, hprotocol⟩ := hwf.irreversible action haction
    obtain ⟨hread, hterminal, hchannel⟩ := not_protocol hprotocol
    have heq : step'.action = action := hsame.action.symm
    rw [replayStep, heq, if_neg hread, hchannel]
    simp only [if_neg hterminal, Environment.act, haction, not_true_eq_false, if_false]
    rw [record_ok hallowed hopen]
    rfl
  | @complete decision hstep =>
    subst hstep
    have heq : step'.action = terminalAction := hsame.action.symm
    have hdecision : decisionOf? str step'.arguments = some decision :=
      (decisionOf_congr str hsame.arguments).symm.trans (decisionOf_terminalArguments decision str)
    rw [replayStep, heq, if_neg (by decide), ofAction_terminal]
    simp only [if_true, hdecision, Environment.completeCase]
    rw [record_ok hwf.terminalAllowed hopen]
    rfl

/-- The replay of the steps of a genuine environment is that environment. -/
theorem Genuine.replay (h : Genuine variant env) (hwf : variant.WellFormed) {steps : List Step}
    (hsame : List.Forall₂ Step.Same env.steps steps) :
    replaySteps str { variant } steps = .ok env := by
  induction h generalizing steps with
  | start =>
    cases hsame
    rfl
  | @step env env' step henv hopen htakes ih =>
    rw [htakes.steps_eq] at hsame
    obtain ⟨front, last, hfront, hlast, rfl⟩ : ∃ front last,
        List.Forall₂ Step.Same env.steps front ∧ step.Same last ∧ steps = front ++ [last] := by
      have htake := List.forall₂_take_append steps env.steps [step] hsame.flip
      have hdrop := List.forall₂_drop_append steps env.steps [step] hsame.flip
      cases hrest : steps.drop env.steps.length with
      | nil => rw [hrest] at hdrop; cases hdrop
      | cons last rest =>
        rw [hrest] at hdrop
        cases hdrop with
        | cons hlast hnil =>
          cases hnil
          refine ⟨_, last, htake.flip, hlast, ?_⟩
          rw [← hrest, List.take_append_drop]
    rw [replaySteps, List.foldlM_append, ← replaySteps, ih hfront]
    show ([last].foldlM (replayStep str) env) = .ok env'
    rw [List.foldlM_cons, htakes.replay str (henv.variant_eq ▸ hwf) hopen hlast]
    rfl

end Replay

section Lookups

variable {variant : Variant} {o : Observation}

theorem Variant.WellFormed.observation_eq (hwf : variant.WellFormed)
    (ho : o ∈ variant.observations) : variant.observation o.observationId = some o := by
  have hsome : (variant.observation o.observationId).isSome = true :=
    List.find?_isSome.mpr ⟨o, ho, decide_eq_true rfl⟩
  obtain ⟨other, hother⟩ := Option.isSome_iff_exists.mp hsome
  have hid := of_decide_eq_true (List.find?_some
    (p := fun e : Observation => decide (e.observationId = o.observationId)) hother)
  rw [hother, List.inj_on_of_nodup_map hwf.handles (List.mem_of_find?_eq_some hother) ho hid]

theorem observation_mem {id : String} (h : variant.observation id = some o) :
    o ∈ variant.observations ∧ o.observationId = id :=
  ⟨List.mem_of_find?_eq_some h, of_decide_eq_true (List.find?_some
    (p := fun e : Observation => decide (e.observationId = id)) h)⟩

theorem resolution_mem {env : Environment} {queryKey : String}
    (h : env.resolutionObservation queryKey = some o) :
    o ∈ env.variant.observations ∧ o.availability = .onRequest ∧ o.key = queryKey := by
  have hfound := List.find?_some
    (p := fun e : Observation => decide (e.availability = .onRequest) && decide (e.key = queryKey)) h
  rw [Bool.and_eq_true] at hfound
  exact ⟨List.mem_of_find?_eq_some h, of_decide_eq_true hfound.1, of_decide_eq_true hfound.2⟩

/-- The one observation that is asked for under its key. -/
theorem Variant.WellFormed.resolution_eq {env : Environment} (hwf : env.variant.WellFormed)
    (ho : o ∈ env.variant.observations) (havailable : o.availability = .onRequest) :
    env.resolutionObservation o.key = some o := by
  have hsome : (env.resolutionObservation o.key).isSome = true :=
    List.find?_isSome.mpr ⟨o, ho, by simp [havailable]⟩
  obtain ⟨other, hother⟩ := Option.isSome_iff_exists.mp hsome
  obtain ⟨hmem, havailable', hkey⟩ := resolution_mem hother
  rw [hother, hwf.single other hmem o ho havailable' havailable hkey]

/-- The observation that a request would reveal is found by its channel as well. -/
theorem Variant.WellFormed.target_eq (hwf : variant.WellFormed) (ho : o ∈ variant.observations)
    (havailable : o.availability = .onRequest) :
    (variant.observations.find? fun other => other.availability = .onRequest &&
      other.key = o.key && other.source = o.source) = some o := by
  have hsome : (variant.observations.find? fun other => other.availability = .onRequest &&
      other.key = o.key && other.source = o.source).isSome = true :=
    List.find?_isSome.mpr ⟨o, ho, by simp [havailable]⟩
  obtain ⟨other, hother⟩ := Option.isSome_iff_exists.mp hsome
  have hfound := List.find?_some (p := fun e : Observation =>
    decide (e.availability = .onRequest) && decide (e.key = o.key) && decide (e.source = o.source))
    hother
  simp only [Bool.and_eq_true, decide_eq_true_eq] at hfound
  rw [hother, hwf.single other (List.mem_of_find?_eq_some hother) o ho hfound.1.1 havailable
    hfound.1.2]

end Lookups

end OperateBench.Cubes
