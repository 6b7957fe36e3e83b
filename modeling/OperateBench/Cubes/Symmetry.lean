import OperateBench.Cubes.Compiled
import OperateBench.Cubes.Environment

/-! # Two arms in lockstep

Two variants whose observations agree in everything but the values of some facts answer every
sequence of calls alike: the same refusals, the same handles, and the same observations but
for those values. The two states of a policy, the two policies of a state and a probe beside
its cell are compared in this way.
-/

namespace OperateBench.Cubes

open Foundation

section Veils

/-- Two drafts that may differ in the values of their facts only. -/
structure Draft.SameShape (draft draft' : Draft) : Prop where
  source : draft.source = draft'.source
  key : draft.key = draft'.key
  availability : draft.availability = draft'.availability
  evidenceRelevant : draft.evidenceRelevant = draft'.evidenceRelevant
  outcome : draft.outcome = draft'.outcome
  named : ∀ name, draft.fact.contains name = draft'.fact.contains name

/-- The two are one draft, unless `Tells` holds of the first. -/
def Draft.Veiled (Tells : Draft → Prop) (draft draft' : Draft) : Prop :=
  draft.SameShape draft' ∧ (draft = draft' ∨ Tells draft)

/-- Two observations with one handle, and one content unless `Tells` holds of the first. -/
def Observation.Veiled (Tells : Draft → Prop) (o o' : Observation) : Prop :=
  o.observationId = o'.observationId ∧ o.toDraft.Veiled Tells o'.toDraft

inductive Reply.Veiled (Tells : Draft → Prop) : Reply → Reply → Prop
  | records {os os' : List Observation} (h : List.Forall₂ (Observation.Veiled Tells) os os') :
    Veiled Tells (.records os) (.records os')
  | answer {o o' : Observation} (h : o.Veiled Tells o') : Veiled Tells (.answer o) (.answer o')
  | done : Veiled Tells .done .done

/-- Both calls were refused, for the same reason, or both were answered. -/
inductive Answered (Tells : Draft → Prop) :
    Except Refusal Reply → Except Refusal Reply → Prop
  | refused (refusal : Refusal) : Answered Tells (.error refusal) (.error refusal)
  | accepted {reply reply' : Reply} (h : reply.Veiled Tells reply') :
    Answered Tells (.ok reply) (.ok reply')

/-- Two variants that differ in what some observations say, as far as a caller can tell. -/
structure Variant.Veiled (Tells : Draft → Prop) (variant variant' : Variant) : Prop where
  queryRegistry : variant.queryRegistry = variant'.queryRegistry
  observations :
    List.Forall₂ (Observation.Veiled Tells) variant.observations variant'.observations
  allowedActions : variant.allowedActions = variant'.allowedActions
  irreversibleActions : variant.irreversibleActions = variant'.irreversibleActions

/-- Two environments with one history. -/
structure Environment.Lockstep (Tells : Draft → Prop) (env env' : Environment) : Prop where
  variant : env.variant.Veiled Tells env'.variant
  steps : env.steps = env'.steps
  observed : env.observed = env'.observed
  mutations : env.mutations = env'.mutations
  terminal : env.terminal = env'.terminal

variable {Tells : Draft → Prop}

theorem Draft.SameShape.refl (draft : Draft) : draft.SameShape draft :=
  ⟨rfl, rfl, rfl, rfl, rfl, fun _ => rfl⟩

theorem Draft.Veiled.refl (draft : Draft) : draft.Veiled Tells draft :=
  ⟨.refl draft, .inl rfl⟩

/-- Where nothing tells, the two observations are one. -/
theorem Observation.Veiled.eq {o o' : Observation} (h : o.Veiled Tells o')
    (huntold : ¬Tells o.toDraft) : o = o' := by
  obtain ⟨draft, id⟩ := o
  obtain ⟨draft', id'⟩ := o'
  obtain ⟨rfl, -, rfl | htells⟩ := h
  · rfl
  · exact absurd htells huntold

theorem eq_of_veiled {os os' : List Observation}
    (h : List.Forall₂ (Observation.Veiled Tells) os os')
    (huntold : ∀ o ∈ os, ¬Tells o.toDraft) : os = os' := by
  induction h with
  | nil => rfl
  | cons hhead _ ih =>
    rw [hhead.eq (huntold _ List.mem_cons_self),
      ih fun o ho => huntold o (List.mem_cons_of_mem _ ho)]

theorem handles_eq {os os' : List Observation}
    (h : List.Forall₂ (Observation.Veiled Tells) os os') :
    os.map Observation.observationId = os'.map Observation.observationId := by
  induction h with
  | nil => rfl
  | cons hhead _ ih => exact congrArg₂ List.cons hhead.1 ih

/-- What is chosen by handle and shape is chosen alike. -/
theorem filter_veiled {os os' : List Observation} {p q : Observation → Bool}
    (h : List.Forall₂ (Observation.Veiled Tells) os os')
    (hpq : ∀ {o o' : Observation}, o.Veiled Tells o' → p o = q o') :
    List.Forall₂ (Observation.Veiled Tells) (os.filter p) (os'.filter q) :=
  List.rel_filter (fun _ _ ho => by simp only [hpq ho]) h

theorem find_veiled {os os' : List Observation} {p q : Observation → Bool}
    (h : List.Forall₂ (Observation.Veiled Tells) os os')
    (hpq : ∀ {o o' : Observation}, o.Veiled Tells o' → p o = q o') :
    Option.Rel (Observation.Veiled Tells) (os.find? p) (os'.find? q) := by
  induction h with
  | nil => exact .none
  | cons hhead _ ih =>
    rw [List.find?_cons, List.find?_cons, hpq hhead]
    split
    · exact .some hhead
    · exact ih

theorem mintFrom_veiled {drafts drafts' : List Draft}
    (h : List.Forall₂ (Draft.Veiled Tells) drafts drafts') (index : ℕ) :
    List.Forall₂ (Observation.Veiled Tells) (mintFrom index drafts) (mintFrom index drafts') := by
  induction h generalizing index with
  | nil => exact .nil
  | cons hhead _ ih =>
    refine .cons ⟨?_, hhead⟩ (ih (index + 1))
    simp only [Draft.mint, hhead.1.source, hhead.1.key]

end Veils

section Runs

variable {Tells : Draft → Prop} {env env' : Environment}

namespace Environment

/-- Two results of one call, side by side. -/
inductive Called (Tells : Draft → Prop) :
    Except Refusal (Reply × Environment) → Except Refusal (Reply × Environment) → Prop
  | refused (refusal : Refusal) : Called Tells (.error refusal) (.error refusal)
  | accepted {reply reply' : Reply} {env env' : Environment} (h : reply.Veiled Tells reply')
    (henv : env.Lockstep Tells env') : Called Tells (.ok (reply, env)) (.ok (reply', env'))

theorem Lockstep.observations (h : env.Lockstep Tells env') :
    List.Forall₂ (Observation.Veiled Tells) env.observations env'.observations :=
  filter_veiled h.variant.observations fun ho => by rw [ho.1, h.observed]

theorem Lockstep.resolutionObservation (h : env.Lockstep Tells env') (queryKey : String) :
    Option.Rel (Observation.Veiled Tells) (env.resolutionObservation queryKey)
      (env'.resolutionObservation queryKey) :=
  find_veiled h.variant.observations fun ho => by rw [ho.2.1.availability, ho.2.1.key]

/-- Filing a step succeeds on both sides or on neither. -/
theorem Lockstep.record (h : env.Lockstep Tells env') (action : String) (arguments : Arguments)
    (mutations : List String) {revealed revealed' : List Observation}
    (hrevealed : revealed.map Observation.observationId = revealed'.map Observation.observationId) :
    (∃ refusal, env.record action arguments revealed mutations = .error refusal ∧
      env'.record action arguments revealed' mutations = .error refusal) ∨
    ∃ next next', env.record action arguments revealed mutations = .ok next ∧
      env'.record action arguments revealed' mutations = .ok next' ∧
      next.Lockstep Tells next' := by
  have hterminated : env'.terminated = env.terminated := by
    rw [Environment.terminated, Environment.terminated, h.steps]
  unfold Environment.record
  rw [← h.variant.allowedActions, hterminated, ← h.observed, ← h.steps, ← hrevealed]
  split
  · exact Or.inl ⟨_, rfl, rfl⟩
  · split
    · exact Or.inl ⟨_, rfl, rfl⟩
    · exact Or.inr ⟨_, _, rfl, rfl, ⟨h.variant, rfl, rfl, h.mutations, h.terminal⟩⟩

theorem Lockstep.readRecords (h : env.Lockstep Tells env') :
    Called Tells (env.call .readRecords) (env'.call .readRecords) := by
  have hinitial : List.Forall₂ (Observation.Veiled Tells) env.variant.initialObservations
      env'.variant.initialObservations :=
    filter_veiled h.variant.observations fun ho => by rw [ho.2.1.availability]
  simp only [Environment.call, Environment.readRecords]
  rcases h.record readAction Dict.empty [] (handles_eq hinitial) with
    ⟨refusal, hl, hr⟩ | ⟨next, next', hl, hr, hnext⟩
  · rw [hl, hr]
    exact .refused refusal
  · rw [hl, hr]
    exact .accepted (.records hinitial) hnext

theorem Lockstep.obtain (h : env.Lockstep Tells env') (queryKey : String) :
    Called Tells (env.call (.obtain queryKey)) (env'.call (.obtain queryKey)) := by
  simp only [Environment.call, Environment.obtain, ← h.variant.queryRegistry]
  cases env.variant.queryRegistry.entry queryKey with
  | some entry =>
    have hresolution := h.resolutionObservation queryKey
    generalize env.resolutionObservation queryKey = target at hresolution ⊢
    generalize env'.resolutionObservation queryKey = target' at hresolution ⊢
    cases hresolution with
    | none => exact .refused _
    | @some target target' htarget =>
      have hrevealed : (if target.observationId ∈ env.observed then [] else [target]).map
          Observation.observationId = (if target'.observationId ∈ env'.observed then []
            else [target']).map Observation.observationId := by
        rw [← htarget.1, ← h.observed]
        split
        · rfl
        · exact congrArg (fun id => [id]) htarget.1
      simp only
      rcases h.record entry.action.action (factArgument queryKey) [] hrevealed with
        ⟨refusal, hl, hr⟩ | ⟨next, next', hl, hr, hnext⟩
      · rw [hl, hr]
        exact .refused refusal
      · rw [hl, hr]
        exact .accepted (.answer htarget) hnext
  | none =>
    have htarget : Option.Rel (Observation.Veiled Tells)
        (env.variant.observations.find? fun o => o.evidenceRelevant && o.fact.contains queryKey)
        (env'.variant.observations.find? fun o =>
          o.evidenceRelevant && o.fact.contains queryKey) :=
      find_veiled h.variant.observations fun ho => by
        rw [ho.2.1.evidenceRelevant, ho.2.1.named]
    generalize env.variant.observations.find? _ = target at htarget ⊢
    generalize env'.variant.observations.find? _ = target' at htarget ⊢
    cases htarget with
    | none => exact .refused _
    | some htarget =>
      simp only [← htarget.1, ← h.observed]
      split
      · exact .accepted (.answer htarget) h
      · exact .refused _

theorem Lockstep.act (h : env.Lockstep Tells env') (action : String) :
    Called Tells (env.call (.act action)) (env'.call (.act action)) := by
  simp only [Environment.call, Environment.act, ← h.variant.irreversibleActions, ← h.steps]
  split
  · exact .refused _
  · rcases h.record action Dict.empty [action] (Eq.refl (List.map _ [])) with
      ⟨refusal, hl, hr⟩ | ⟨next, next', hl, hr, hnext⟩
    · rw [hl, hr]
      exact .refused refusal
    · rw [hl, hr]
      refine .accepted .done ⟨hnext.variant, hnext.steps, hnext.observed, ?_, hnext.terminal⟩
      exact congrArg (· ++ _) hnext.mutations

theorem Lockstep.completeCase (h : env.Lockstep Tells env') (decision : TerminalDecision) :
    Called Tells (env.call (.completeCase decision)) (env'.call (.completeCase decision)) := by
  simp only [Environment.call, Environment.completeCase]
  rcases h.record terminalAction (terminalArguments decision) []
    (Eq.refl (List.map _ [])) with ⟨refusal, hl, hr⟩ | ⟨next, next', hl, hr, hnext⟩
  · rw [hl, hr]
    exact .refused refusal
  · rw [hl, hr]
    exact .accepted .done ⟨hnext.variant, hnext.steps, hnext.observed, hnext.mutations, rfl⟩

/-- Every call is answered alike and keeps the two in lockstep. -/
theorem Lockstep.call (h : env.Lockstep Tells env') (call : EnvCall) :
    Called Tells (env.call call) (env'.call call) := by
  cases call with
  | readRecords => exact h.readRecords
  | obtain queryKey => exact h.obtain queryKey
  | act action => exact h.act action
  | completeCase decision => exact h.completeCase decision

theorem Lockstep.play (h : env.Lockstep Tells env') (calls : List EnvCall) :
    List.Forall₂ (Answered Tells) (env.play calls).1 (env'.play calls).1 ∧
      (env.play calls).2.Lockstep Tells (env'.play calls).2 := by
  induction calls generalizing env env' with
  | nil => exact ⟨.nil, h⟩
  | cons call calls ih =>
    have hcall := h.call call
    simp only [Environment.play]
    generalize env.call call = result at hcall ⊢
    generalize env'.call call = result' at hcall ⊢
    cases hcall with
    | refused refusal => exact ⟨.cons (.refused refusal) (ih h).1, (ih h).2⟩
    | accepted hreply henv => exact ⟨.cons (.accepted hreply) (ih henv).1, (ih henv).2⟩

end Environment

end Runs

section Arms

variable {card : ConstructCard} {state state' : StateKey} {policy policy' : PolicyKey}
  {cues : List String}

/-- The draft carries a fact whose authored values differ between the two states. -/
def Differs (facts facts' : FactValues) (draft : Draft) : Prop :=
  ∃ key, facts.value key ≠ facts'.value key ∧ draft.fact = .ofList [(key, facts.value key)]

/-- The draft is the policy. -/
def IsPolicy (draft : Draft) : Prop := draft.source = .activePolicy

/-- Two drafts over the value that each state gives one fact. -/
theorem veiled_of_value {facts facts' : FactValues} {key : String} (draft : Draft) :
    Draft.Veiled (Differs facts facts') { draft with fact := .ofList [(key, facts.value key)] }
      { draft with fact := .ofList [(key, facts'.value key)] } := by
  refine ⟨⟨rfl, rfl, rfl, rfl, rfl, Dict.contains_ofList_congr rfl⟩, ?_⟩
  by_cases heq : facts.value key = facts'.value key
  · exact Or.inl (by rw [heq])
  · exact Or.inr ⟨key, heq, rfl⟩

theorem queryDraft_veiled (facts facts' : FactValues) (entry : QueryEntry) :
    Draft.Veiled (Differs facts facts') (queryDraft facts entry) (queryDraft facts' entry) := by
  obtain ⟨queryKey, action, outcome, origin⟩ := entry
  cases outcome with
  | reveal factKey =>
    exact veiled_of_value (queryDraft facts ⟨queryKey, action, .reveal factKey, origin⟩)
  | notRecorded => exact .refl _
  | outOfScope => exact .refl _
  | unknown => exact .refl _

theorem forall₂_map {α : Type} {f g : α → Draft} {Tells : Draft → Prop} (l : List α)
    (h : ∀ a, (f a).Veiled Tells (g a)) :
    List.Forall₂ (Draft.Veiled Tells) (l.map f) (l.map g) := by
  rw [List.forall₂_map_left_iff, List.forall₂_map_right_iff]
  exact List.forall₂_same.mpr fun a _ => h a

/-- Two states of a card differ in the values of facts. -/
theorem states_veiled (card : ConstructCard) (state state' : StateKey) (policy : PolicyKey)
    (cues : List String) :
    List.Forall₂ (Draft.Veiled (Differs (card.factsFor state) (card.factsFor state')))
      (card.drafts state policy cues) (card.drafts state' policy cues) := by
  refine List.rel_append (List.rel_append (List.rel_append (.cons (.refl _) ?_) ?_) ?_) ?_
  · exact forall₂_map _ fun _ => .refl _
  · exact forall₂_map _ fun key => veiled_of_value (recordDraft key .null true)
  · exact forall₂_map _ (queryDraft_veiled _ _)
  · exact List.forall₂_same.mpr fun _ _ => .refl _

/-- Two policies of a card differ in what the policy says. -/
theorem policies_veiled (card : ConstructCard) (state : StateKey) (policy policy' : PolicyKey)
    (cues : List String) :
    List.Forall₂ (Draft.Veiled IsPolicy) (card.drafts state policy cues)
      (card.drafts state policy' cues) := by
  refine List.rel_append (List.rel_append (List.rel_append (.cons ?_ ?_) ?_) ?_) ?_
  · exact ⟨⟨rfl, rfl, rfl, rfl, rfl, Dict.contains_ofList_congr rfl⟩, .inr rfl⟩
  all_goals exact List.forall₂_same.mpr fun _ _ => .refl _

end Arms

section Cubes

/-- No sequence of calls tells the variants apart before an observation that `Tells`. -/
structure Indistinct (Tells : Draft → Prop) (v w : Variant) : Prop where
  handed : List.Forall₂ (Observation.Veiled Tells) v.observations w.observations
  answered : ∀ calls, List.Forall₂ (Answered Tells) (Environment.play { variant := v } calls).1
    (Environment.play { variant := w } calls).1
  recorded : ∀ calls, (Environment.play { variant := v } calls).2.Lockstep Tells
    (Environment.play { variant := w } calls).2
  untold : ∀ calls,
    (∀ o ∈ (Environment.play { variant := v } calls).2.observations, ¬Tells o.toDraft) →
    (Environment.play { variant := v } calls).2.observations =
      (Environment.play { variant := w } calls).2.observations

theorem Variant.Veiled.indistinct {Tells : Draft → Prop} {v w : Variant} (h : v.Veiled Tells w) :
    Indistinct Tells v w := by
  have hstart : Environment.Lockstep Tells { variant := v } { variant := w } :=
    ⟨h, rfl, rfl, rfl, rfl⟩
  refine ⟨h.observations, fun calls => (hstart.play calls).1, fun calls => (hstart.play calls).2,
    fun calls huntold => ?_⟩
  exact eq_of_veiled (hstart.play calls).2.observations huntold

variable {card : ConstructCard} {cube : Cube} {v w : Variant}

theorem compiled_veiled {Tells : Draft → Prop} {matched matched' : Rule}
    {attempted attempted' : List Rule} (hv : Compiles card v matched attempted)
    (hw : Compiles card w matched' attempted')
    (hdrafts : List.Forall₂ (Draft.Veiled Tells) (card.drafts v.state v.policy v.pressureCues)
      (card.drafts w.state w.policy w.pressureCues)) : v.Veiled Tells w where
  queryRegistry := hv.queryRegistry_eq.trans hw.queryRegistry_eq.symm
  observations := by
    rw [hv.observations_eq, hw.observations_eq]
    exact mintFrom_veiled hdrafts 1
  allowedActions := hv.allowedActions_eq.trans hw.allowedActions_eq.symm
  irreversibleActions := hv.irreversibleActions_eq.trans hw.irreversibleActions_eq.symm

/-- A statement under pressure is appended, and moves no handle. -/
theorem drafts_pressed (state : StateKey) (policy : PolicyKey) {cues : List String}
    (hcues : cues ≠ []) :
    card.drafts state policy cues = card.drafts state policy [] ++ [pressureDraft cues] := by
  simp only [ConstructCard.drafts, if_neg hcues, if_pos, List.append_nil]

/-- Before an observation that tells them apart, the arms of a cube answer every sequence of
calls alike: the states of a policy up to the facts that they value differently, the policies
of a state up to the policy, and a probe has the observations of its cell and one more. -/
theorem arm_hidden (h : compileCube card = .ok cube) (hv : v ∈ cube.variants)
    (hw : w ∈ cube.variants) (hcell : w.kind = .cell) :
    (v.kind = .cell → v.policy = w.policy →
      Indistinct (Differs (card.factsFor v.state) (card.factsFor w.state)) v w) ∧
    (v.kind = .cell → v.state = w.state → Indistinct IsPolicy v w) ∧
    (v.kind = .probe → v.state = w.state → v.policy = w.policy →
      ∃ pressure : Observation, v.observations = w.observations ++ [pressure] ∧
        pressure.toDraft = pressureDraft v.pressureCues) := by
  obtain ⟨matched, attempted, hv⟩ := compileCube_ok h hv
  obtain ⟨matched', attempted', hw⟩ := compileCube_ok h hw
  have hcues : ∀ {variant : Variant} {matched : Rule} {attempted : List Rule},
      Compiles card variant matched attempted → variant.kind = .cell →
      variant.pressureCues = [] := by
    intro variant matched attempted hvariant hkind
    by_contra hne
    exact absurd (hkind.symm.trans (hvariant.pressed.mpr hne)) (by decide)
  refine ⟨fun hkind hpolicy => ?_, fun hkind hstate => ?_, fun hkind hstate hpolicy => ?_⟩
  · refine (compiled_veiled hv hw ?_).indistinct
    rw [hcues hv hkind, hcues hw hcell, hpolicy]
    exact states_veiled card v.state w.state w.policy []
  · refine (compiled_veiled hv hw ?_).indistinct
    rw [hcues hv hkind, hcues hw hcell, hstate]
    exact policies_veiled card w.state v.policy w.policy []
  · rw [hv.observations_eq, hw.observations_eq, hcues hw hcell, hstate, hpolicy,
      ConstructCard.buildObservations, drafts_pressed _ _ (hv.pressed.mp hkind), mintFrom_append]
    exact ⟨_, rfl, rfl⟩

theorem quoteCard_arm_hidden : ∃ cube, compileCube quoteCard = .ok cube ∧
    ∃ v ∈ cube.variants, ∃ w ∈ cube.variants, v.state ≠ w.state ∧
      Indistinct (Differs (quoteCard.factsFor v.state) (quoteCard.factsFor w.state)) v w := by
  obtain ⟨cube, hcube, hcells⟩ := ok_of_any (x := compileCube quoteCard)
    (p := fun cube => decide (∃ v ∈ cube.variants, ∃ w ∈ cube.variants,
      v.state ≠ w.state ∧ v.policy = w.policy ∧ v.kind = .cell ∧ w.kind = .cell))
    (by decide +kernel)
  obtain ⟨v, hv, w, hw, hstate, hpolicy, hkind, hcell⟩ := of_decide_eq_true hcells
  exact ⟨cube, hcube, v, hv, w, hw, hstate, (arm_hidden hcube hv hw hcell).1 hkind hpolicy⟩

end Cubes

end OperateBench.Cubes
