import OperateBench.Cubes.Acceptance
import OperateBench.Cubes.Record

/-! # Walking the rules on a record

What a solver asks and cites while it walks rules over the facts that it obtains. It ends at
the rule that first-match evaluation ends at, over the facts as the record presents them, and
cites the policy and an observation for every fact that the walk looked at.
-/

namespace OperateBench.Cubes

open Foundation

section Reading

variable {card : ConstructCard} {variant : Variant} {matched : Rule} {attempted : List Rule}
  {env env' : Environment} {key : String} {o : Observation} {step : Step} {entry : QueryEntry}

/-- The facts as the observations present them: a statement under pressure stands last. -/
def presentedFacts (card : ConstructCard) (variant : Variant) : FactValues :=
  if variant.pressureCues = [] then card.factsFor variant.state
  else (card.factsFor variant.state).set "statements" (.seq (variant.pressureCues.map .str))

def policyNames : List String := ["active_policy", "policy_label", "policy_description", "rules"]

/-- Asking for the fact yields the policy: it is in the record, under a name of the policy. -/
def ConstructCard.shadowed (card : ConstructCard) (key : String) : Bool :=
  card.facts.get? key = some .initial && key ∈ policyNames

/-- The observation that is cited for a fact. -/
def Cites (card : ConstructCard) (variant : Variant) (key : String) (o : Observation) : Prop :=
  if card.shadowed key = true then o = policyOf card variant else Answers card variant key o

/-- The records of the open case were read. -/
structure Surveyed (variant : Variant) (env : Environment) : Prop where
  genuine : Genuine variant env
  isOpen : env.terminated = false
  initial : ∀ o ∈ variant.initialObservations, o.observationId ∈ env.observed

theorem Surveyed.seen (h : Surveyed variant env) (ho : o ∈ variant.observations)
    (hinitial : o.availability = .initial) : o.observationId ∈ env.observed :=
  h.initial o (List.mem_filter.mpr ⟨ho, decide_eq_true hinitial⟩)

/-- A step other than the decision leaves the case open. -/
theorem Surveyed.takes (h : Surveyed variant env) (htakes : Takes env step env')
    (hstep : step.action ≠ terminalAction) : Surveyed variant env' where
  genuine := h.genuine.step h.isOpen htakes
  isOpen := by
    rw [Environment.terminated, htakes.steps_eq, List.getLast?_concat]
    exact decide_eq_false hstep
  initial o ho := by
    rw [htakes.observed_eq]
    exact mem_addNew.mpr (Or.inl (h.initial o ho))

/-- The step that asks the query. -/
def Environment.asking (env : Environment) (entry : QueryEntry) (target : Observation) : Step :=
  ⟨env.steps.length + 1, entry.action.action, Environment.factArgument entry.queryKey,
    if target.observationId ∈ env.observed then [] else [target.observationId], []⟩

/-- A query of the registry files one step, and shows one observation. -/
theorem Surveyed.obtain_eq (h : Surveyed variant env) (hwf : variant.WellFormed)
    (hentry : entry ∈ variant.queryRegistry.entries) :
    ∃ target ∈ variant.observations, target.availability = .onRequest ∧
      target.key = entry.queryKey ∧
      env.obtain entry.queryKey = .ok (target, env.file (env.asking entry target)) ∧
      Takes env (env.asking entry target) (env.file (env.asking entry target)) ∧
      ∀ o ∈ variant.observations,
        (o.observationId ∈ (env.file (env.asking entry target)).observed ↔
          o.observationId ∈ env.observed ∨ o.availability = .onRequest ∧ o.key = entry.queryKey) := by
  have hvariant := h.genuine.variant_eq
  obtain ⟨target, htarget, havailable, hkey, -⟩ := hwf.asked entry hentry
  have hfound : env.resolutionObservation entry.queryKey = some target := by
    rw [← hkey]
    exact Variant.WellFormed.resolution_eq (hvariant ▸ hwf) (hvariant ▸ htarget) havailable
  have hregistered : env.variant.queryRegistry.entry entry.queryKey = some entry :=
    QueryRegistry.entry_eq_some.mpr ⟨hvariant ▸ hentry, rfl⟩
  have hoffered : entry.action.action ∈ env.variant.allowedActions :=
    hvariant ▸ hwf.offered entry hentry
  refine ⟨target, htarget, havailable, hkey, ?_, .ask (hvariant ▸ hentry) hfound rfl, ?_⟩
  · rw [Environment.obtain, hregistered]
    simp only [hfound]
    rw [record_ok hoffered h.isOpen, Environment.asking]
    split <;> rfl
  · intro o ho
    have htargeted : o.observationId = target.observationId ↔
        o.availability = .onRequest ∧ o.key = entry.queryKey := by
      constructor
      · intro hid
        rw [List.inj_on_of_nodup_map hwf.handles ho htarget hid]
        exact ⟨havailable, hkey⟩
      · rintro ⟨ho', hkey'⟩
        rw [hwf.single o ho target htarget ho' havailable (hkey'.trans hkey.symm)]
    rw [Environment.file, mem_addNew, Environment.asking]
    dsimp only
    split
    · rename_i hseen
      rw [← htargeted]
      simp only [List.not_mem_nil, or_false]
      exact ⟨Or.inl, fun hor => hor.elim id fun hid => hid ▸ hseen⟩
    · rw [List.mem_singleton, htargeted]

theorem policy_contains : (policyOf card variant).fact.contains key = true ↔ key ∈ policyNames :=
  Dict.contains_ofList

namespace Compiles

variable (h : Compiles card variant matched attempted)

include h

theorem answers_availability {spec : FactSpec} (hfact : card.facts.get? key = some spec)
    (ho : Answers card variant key o) : o.availability = .initial ↔ spec = .initial := by
  obtain ⟨other, hother, -, havailable⟩ := h.answers_exists hfact
  rwa [h.answers_unique (Dict.contains_iff.mpr ⟨spec, hfact⟩) ho hother]

theorem answers_value {spec : FactSpec} (hfact : card.facts.get? key = some spec)
    (ho : Answers card variant key o) :
    o.fact.get? key = some ((card.factsFor variant.state).value key) := by
  obtain ⟨other, hother, hvalue, -⟩ := h.answers_exists hfact
  rwa [h.answers_unique (Dict.contains_iff.mpr ⟨spec, hfact⟩) ho hother]

/-- A fact that is asked for is answered by a step on its channel. -/
theorem obtain_onRequest {channel : Channel} (hsurveyed : Surveyed variant env)
    (hfact : card.facts.get? key = some (.onRequest channel)) (ho : Answers card variant key o) :
    ∃ env' step, env.obtain key = .ok (o, env') ∧ Takes env step env' ∧
      step.action = channel.action ∧ step.mutations = [] ∧ o.observationId ∈ env'.observed := by
  have hwf := h.wellFormed
  have hentry : (⟨key, channel, .reveal key, .projectedFact⟩ : QueryEntry) ∈
      variant.queryRegistry.entries := by
    rw [h.queryRegistry_eq]
    exact card.mem_queryRegistry.mpr (Or.inl (mem_projected.mpr ⟨channel, hfact, rfl⟩))
  have havailable : o.availability = .onRequest := by
    have hnot := mt (h.answers_availability hfact ho).mp (fun heq => nomatch heq)
    revert hnot
    cases o.availability <;> simp
  obtain ⟨target, htarget, hrequest, hkey, hobtain, htakes, hseen⟩ :=
    hsurveyed.obtain_eq hwf hentry
  obtain rfl := hwf.single target htarget o ho.mem hrequest havailable (hkey.trans ho.named.symm)
  exact ⟨_, _, hobtain, htakes, rfl, rfl, (hseen target htarget).mpr (Or.inr ⟨hrequest, hkey⟩)⟩

/-- A fact of the record is looked up, and a name of the policy finds the policy. -/
theorem obtain_initial (hsurveyed : Surveyed variant env)
    (hfact : card.facts.get? key = some .initial) (ho : Answers card variant key o) :
    env.obtain key =
      .ok (if card.shadowed key = true then policyOf card variant else o, env) := by
  have hvariant := hsurveyed.genuine.variant_eq
  have hunregistered : env.variant.queryRegistry.entry key = none := by
    rw [Option.eq_none_iff_forall_ne_some]
    intro entry hentry
    rw [hvariant, h.queryRegistry_eq] at hentry
    obtain ⟨hmem, rfl⟩ := QueryRegistry.entry_eq_some.mp hentry
    have hquery := (query_of_fact hmem (Dict.contains_iff.mpr ⟨_, hfact⟩)).1
    rw [hfact] at hquery
    cases hquery
  have hinitial : o.observationId ∈ env.observed :=
    hsurveyed.seen ho.mem ((h.answers_availability hfact ho).mpr rfl)
  have hcontains : o.fact.contains key = true :=
    Dict.contains_iff.mpr ⟨_, h.answers_value hfact ho⟩
  unfold Environment.obtain
  rw [hunregistered, hvariant]
  by_cases hname : key ∈ policyNames
  · have hfirst : (variant.observations.find? fun o =>
        o.evidenceRelevant && o.fact.contains key) = some (policyOf card variant) := by
      rw [h.observations_split, List.find?_cons_of_pos]
      rw [policy_contains.mpr hname]
      rfl
    simp only [hfirst, hsurveyed.seen h.policy_mem rfl, if_true, ConstructCard.shadowed, hfact,
      hname, decide_true, Bool.and_self]
  · have hfirst : (variant.observations.find? fun o =>
        o.evidenceRelevant && o.fact.contains key) = some o := by
      have hsome : (variant.observations.find? fun o =>
          o.evidenceRelevant && o.fact.contains key).isSome = true :=
        List.find?_isSome.mpr ⟨o, ho.mem, by rw [ho.relevant, hcontains]; rfl⟩
      obtain ⟨other, hother⟩ := Option.isSome_iff_exists.mp hsome
      have hmem := List.mem_of_find?_eq_some hother
      have hfound := List.find?_some
        (p := fun o : Observation => o.evidenceRelevant && o.fact.contains key) hother
      obtain ⟨hrelevant, hholds⟩ := (Bool.and_eq_true _ _).mp hfound
      have hsource : other.source ≠ .activePolicy := by
        intro hsource
        rw [(h.policy_unique hmem).mp hsource] at hholds
        exact hname (policy_contains.mp hholds)
      have hbody : other ∈ bodyOf card variant := by
        rw [h.observations_split, List.mem_cons, List.mem_append] at hmem
        rcases hmem with rfl | hmem | hmem
        · exact absurd rfl hsource
        · exact hmem
        · rw [show other.evidenceRelevant = other.toDraft.evidenceRelevant from rfl,
            (toDraft_pressure hmem).2] at hrelevant
          cases hrelevant
      have hnamed : other.key = key := by
        have hdraft := toDraft_mem_body hbody
        have hcarries : other.toDraft.fact.contains key = true := hholds
        rw [show other.key = other.toDraft.key from rfl]
        generalize other.toDraft = draft at hdraft hcarries
        rcases mem_body.mp hdraft with ⟨e, he, rfl⟩ | ⟨initial, -, rfl⟩ | ⟨entry, hentry, rfl⟩
        · exact (List.mem_singleton.mp (Dict.contains_ofList.mp hcarries)).symm
        · exact (List.mem_singleton.mp (Dict.contains_ofList.mp hcarries)).symm
        · cases hreveal : entry.outcome with
          | reveal factKey =>
            simp only [queryDraft, hreveal] at hcarries
            have hkey := List.mem_singleton.mp (Dict.contains_ofList.mp hcarries)
            have hspec := reveals_onRequest hentry hreveal
            rw [← show key = factKey from hkey, hfact] at hspec
            cases hspec
          | _ => simp [queryDraft, hreveal, Dict.contains] at hcarries
      rw [hother, h.answers_unique (Dict.contains_iff.mpr ⟨_, hfact⟩)
        ⟨hmem, hsource, hrelevant, hnamed⟩ ho]
    simp only [hfirst, hinitial, if_true, ConstructCard.shadowed, hname, decide_false,
      Bool.and_false, Bool.false_eq_true, if_false]

end Compiles

end Reading

section KnownFacts

variable {card : ConstructCard} {variant : Variant} {matched : Rule} {attempted : List Rule}
  {env : Environment} {key : String} {value : Datum}

/-- `facts.update(o.fact)` for every observation, in order. -/
def merge (facts : FactValues) (os : List Observation) : FactValues :=
  os.foldl (fun facts o => o.fact.entries.foldl (fun facts e => facts.set e.1 e.2) facts) facts

theorem merge_of_untouched {facts : FactValues} {os : List Observation}
    (h : ∀ o ∈ os, o.fact.get? key = none) : (merge facts os).get? key = facts.get? key := by
  induction os generalizing facts with
  | nil => rfl
  | cons o os ih =>
    rw [merge, List.foldl_cons, ← merge, ih fun other hother => h other
      (List.mem_cons_of_mem _ hother), Dict.get?_update, h o List.mem_cons_self, Option.none_or]

/-- Where all that speak of a fact agree, and one does, the fact is known. -/
theorem merge_of_agreed {facts : FactValues} {os : List Observation}
    (h : ∀ o ∈ os, ∀ a, o.fact.get? key = some a → a = value)
    (hsome : facts.get? key = some value ∨ ∃ o ∈ os, o.fact.get? key = some value) :
    (merge facts os).get? key = some value := by
  induction os generalizing facts with
  | nil =>
    rcases hsome with hfacts | ⟨o, ho, -⟩
    · exact hfacts
    · cases ho
  | cons o os ih =>
    rw [merge, List.foldl_cons, ← merge]
    refine ih (fun other hother => h other (List.mem_cons_of_mem _ hother)) ?_
    rw [Dict.get?_update]
    cases hget : o.fact.get? key with
    | some a => exact Or.inl (by rw [h o List.mem_cons_self a hget]; rfl)
    | none =>
      rcases hsome with hfacts | ⟨other, hother, hvalue⟩
      · exact Or.inl hfacts
      · rcases List.mem_cons.mp hother with rfl | hother
        · rw [hget] at hvalue
          cases hvalue
        · exact Or.inr ⟨other, hother, hvalue⟩

/-- The statement under pressure stands last. -/
theorem Compiles.merge_pressure (h : Compiles card variant matched attempted)
    (hsurveyed : Surveyed variant env) (facts : FactValues) :
    (merge facts ((pressureOf card variant).filter fun o => o.observationId ∈ env.observed)).get? key
      = if variant.pressureCues ≠ [] ∧ key = "statements" then
          some (.seq (variant.pressureCues.map .str))
        else facts.get? key := by
  by_cases hcues : variant.pressureCues = []
  · rw [if_neg fun hand => hand.1 hcues, pressureOf, if_pos hcues]
    rfl
  · have hlast : pressureOf card variant =
        [(pressureDraft variant.pressureCues).mint (2 + (card.body variant.state).length)] := by
      rw [pressureOf, if_neg hcues]
      rfl
    have hseen : ∀ o ∈ pressureOf card variant, decide (o.observationId ∈ env.observed) = true := by
      intro o ho
      refine decide_eq_true (hsurveyed.seen ?_ ?_)
      · rw [h.observations_split]
        exact List.mem_cons_of_mem _ (List.mem_append_right _ ho)
      · rw [hlast] at ho
        rw [List.mem_singleton.mp ho]
        rfl
    rw [List.filter_eq_self.mpr hseen, hlast, merge, List.foldl_cons, List.foldl_nil,
      Dict.get?_update]
    simp only [Draft.mint, pressureDraft, get_single, ne_eq, hcues, not_false_eq_true, true_and,
      eq_comm (a := "statements")]
    split <;> rfl

/-- A fact whose answer was seen is known as the record presents it. -/
theorem Compiles.knownFacts_eq (h : Compiles card variant matched attempted)
    (hsurveyed : Surveyed variant env) {spec : FactSpec} (hfact : card.facts.get? key = some spec)
    {o : Observation} (ho : Answers card variant key o) (hseen : o.observationId ∈ env.observed) :
    env.knownFacts.get? key = (presentedFacts card variant).get? key := by
  have hcontains : card.facts.contains key = true := Dict.contains_iff.mpr ⟨spec, hfact⟩
  have hgiven : (card.factsFor variant.state).get? key =
      some ((card.factsFor variant.state).value key) := by
    obtain ⟨a, ha⟩ := Dict.contains_iff.mp ((card.described variant.state key).trans hcontains)
    rw [FactValues.value, ConstructCard.factsFor, ha]
    rfl
  have hsplit : env.observations =
      [policyOf card variant].filter (fun o => o.observationId ∈ env.observed) ++
        ((bodyOf card variant).filter (fun o => o.observationId ∈ env.observed) ++
          (pressureOf card variant).filter fun o => o.observationId ∈ env.observed) := by
    rw [Environment.observations, hsurveyed.genuine.variant_eq, h.observations_split,
      ← List.singleton_append, List.filter_append, List.filter_append]
  have hbody : ∀ facts, (merge facts ((bodyOf card variant).filter
      fun o => o.observationId ∈ env.observed)).get? key =
      some ((card.factsFor variant.state).value key) := by
    intro facts
    refine merge_of_agreed (fun other hother a ha => ?_) (Or.inr ⟨o, ?_, h.answers_value hfact ho⟩)
    · exact body_value (toDraft_mem_body (List.mem_of_mem_filter hother)) hcontains ha
    · exact List.mem_filter.mpr ⟨h.answers_body ho, decide_eq_true hseen⟩
  have hknown : env.knownFacts = merge (merge (merge Dict.empty
      ([policyOf card variant].filter fun o => o.observationId ∈ env.observed))
      ((bodyOf card variant).filter fun o => o.observationId ∈ env.observed))
      ((pressureOf card variant).filter fun o => o.observationId ∈ env.observed) := by
    rw [Environment.knownFacts, hsplit, List.foldl_append, List.foldl_append]
    rfl
  rw [hknown, h.merge_pressure hsurveyed, hbody, presentedFacts]
  by_cases hcues : variant.pressureCues = []
  · rw [if_pos hcues, if_neg fun hand => hand.1 hcues, hgiven]
  · rw [if_neg hcues, Dict.get?_set, hgiven]
    simp only [ne_eq, hcues, not_false_eq_true, true_and, eq_comm (a := "statements")]

end KnownFacts

section Walking

variable {card : ConstructCard} {variant : Variant} {matched : Rule} {attempted : List Rule}
  {walk walk' : Walk} {keys : List String}

/-- A walk that cites the policy and an observation for every fact that it asked for. -/
structure Investigates (card : ConstructCard) (variant : Variant) (walk : Walk) : Prop where
  surveyed : Surveyed variant walk.env
  known : ∀ key ∈ walk.asked, card.facts.contains key = true
  answered : ∀ key ∈ walk.asked, ∀ o, Answers card variant key o →
    o.observationId ∈ walk.env.observed
  distinct : walk.cited.Nodup
  cited : ∀ id, id ∈ walk.cited ↔ id = (policyOf card variant).observationId ∨
    ∃ key ∈ walk.asked, ∃ o, Cites card variant key o ∧ o.observationId = id

/-- The walk has asked for the keys as well, and has done nothing else. -/
structure Walk.Asks (keys : List String) (walk walk' : Walk) : Prop where
  asked : ∀ key, key ∈ walk'.asked ↔ key ∈ walk.asked ∨ key ∈ keys
  mutations : walk'.env.mutations = walk.env.mutations
  steps : walk.env.steps <+: walk'.env.steps

theorem Walk.Asks.trans {walk'' : Walk} {more : List String} (h : walk.Asks keys walk')
    (h' : walk'.Asks more walk'') : walk.Asks (keys ++ more) walk'' where
  asked key := by rw [h'.asked, h.asked, List.mem_append, or_assoc]
  mutations := h'.mutations.trans h.mutations
  steps := h.steps.trans h'.steps

theorem addNew_singleton (ids : List String) (id : String) :
    Environment.addNew ids [id] = if id ∈ ids then ids else ids ++ [id] := rfl

theorem nodup_addNew_singleton {ids : List String} {id : String} (h : ids.Nodup) :
    (Environment.addNew ids [id]).Nodup := by
  rw [addNew_singleton]
  split
  · exact h
  · rename_i hnew
    exact List.nodup_append.mpr ⟨h, List.nodup_singleton id,
      fun a ha b hb => fun heq => hnew (List.mem_singleton.mp hb ▸ heq ▸ ha)⟩

namespace Compiles

variable (h : Compiles card variant matched attempted)

include h

theorem cites_unique {key : String} (hfact : card.facts.contains key = true) {o o' : Observation}
    (ho : Cites card variant key o) (ho' : Cites card variant key o') : o = o' := by
  unfold Cites at ho ho'
  split at ho
  · rw [if_pos ‹_›] at ho'
    exact ho.trans ho'.symm
  · rw [if_neg ‹_›] at ho'
    exact h.answers_unique hfact ho ho'

/-- Asking for one more fact of the card succeeds. -/
theorem obtain_ok {key : String} (hwalk : Investigates card variant walk)
    (hfact : card.facts.contains key = true) (hnew : key ∉ walk.asked) :
    ∃ o env, walk.env.obtain key = .ok (o, env) ∧
      Investigates card variant
        ⟨walk.asked ++ [key], Environment.addNew walk.cited [o.observationId], env⟩ ∧
      walk.Asks [key] ⟨walk.asked ++ [key], Environment.addNew walk.cited [o.observationId], env⟩ := by
  obtain ⟨spec, hspec⟩ := Dict.contains_iff.mp hfact
  obtain ⟨answer, hanswer, -, -⟩ := h.answers_exists hspec
  obtain ⟨o, env, hobtain, hcites, hsurveyed, hseen, hgrows, hmutations, hsteps⟩ :
      ∃ o env, walk.env.obtain key = .ok (o, env) ∧ Cites card variant key o ∧
        Surveyed variant env ∧ answer.observationId ∈ env.observed ∧
        (∀ id ∈ walk.env.observed, id ∈ env.observed) ∧
        env.mutations = walk.env.mutations ∧ walk.env.steps <+: env.steps := by
    cases spec with
    | initial =>
      refine ⟨_, _, h.obtain_initial hwalk.surveyed hspec hanswer, ?_, hwalk.surveyed, ?_,
        fun _ hid => hid, rfl, List.prefix_refl _⟩
      · unfold Cites
        split
        · rfl
        · exact hanswer
      · exact hwalk.surveyed.seen hanswer.mem ((h.answers_availability hspec hanswer).mpr rfl)
    | onRequest channel =>
      obtain ⟨env, step, hobtain, htakes, haction, hnone, hseen⟩ :=
        h.obtain_onRequest hwalk.surveyed hspec hanswer
      refine ⟨answer, env, hobtain, ?_,
        hwalk.surveyed.takes htakes (haction ▸ channel_ne_terminal channel), hseen,
        fun id hid => by rw [htakes.observed_eq]; exact mem_addNew.mpr (Or.inl hid), ?_,
        htakes.steps_eq ▸ List.prefix_append _ _⟩
      · rw [Cites, if_neg (by simp [ConstructCard.shadowed, hspec])]
        exact hanswer
      · cases htakes with
        | act haction hstep =>
          rw [hstep] at hnone
          cases hnone
        | _ => rfl
  refine ⟨o, env, hobtain, ⟨hsurveyed, ?_, ?_, nodup_addNew_singleton hwalk.distinct, ?_⟩, ?_⟩
  · intro other hother
    rcases List.mem_append.mp hother with hother | hother
    · exact hwalk.known other hother
    · exact List.mem_singleton.mp hother ▸ hfact
  · intro other hother other' hother'
    rcases List.mem_append.mp hother with hother | hother
    · exact hgrows _ (hwalk.answered other hother other' hother')
    · obtain rfl := List.mem_singleton.mp hother
      rwa [h.answers_unique hfact hother' hanswer]
  · intro id
    simp only [mem_addNew, hwalk.cited, List.mem_singleton, List.mem_append, or_and_right,
      exists_or, exists_eq_left, or_assoc]
    refine or_congr_right (or_congr_right ?_)
    constructor
    · rintro rfl
      exact ⟨o, hcites, rfl⟩
    · rintro ⟨other, hother, rfl⟩
      rw [h.cites_unique hfact hother hcites]
  · exact ⟨fun _ => List.mem_append, hmutations, hsteps⟩

theorem askFacts_ok (hwalk : Investigates card variant walk)
    (hkeys : ∀ key ∈ keys, card.facts.contains key = true) :
    ∃ walk', askFacts walk keys = .ok walk' ∧ Investigates card variant walk' ∧
      walk.Asks keys walk' := by
  induction keys generalizing walk with
  | nil => exact ⟨walk, rfl, hwalk, ⟨fun _ => by simp, rfl, List.prefix_refl _⟩⟩
  | cons key keys ih =>
    have hrest : ∀ other ∈ keys, card.facts.contains other = true :=
      fun other hother => hkeys other (List.mem_cons_of_mem _ hother)
    unfold askFacts
    split
    · rename_i hasked
      obtain ⟨walk', hask, hwalk', hasks⟩ := ih hwalk hrest
      refine ⟨walk', hask, hwalk', ⟨fun other => ?_, hasks.mutations, hasks.steps⟩⟩
      rw [hasks.asked, List.mem_cons]
      constructor
      · exact Or.imp_right Or.inr
      · rintro (hother | rfl | hother)
        · exact Or.inl hother
        · exact Or.inl hasked
        · exact Or.inr hother
    · rename_i hnew
      obtain ⟨o, env, hobtain, hnext, hone⟩ :=
        h.obtain_ok hwalk (hkeys key List.mem_cons_self) hnew
      rw [hobtain]
      obtain ⟨walk', hask, hwalk', hasks⟩ := ih hnext hrest
      exact ⟨walk', hask, hwalk', hone.trans hasks⟩

/-- What a walk knows of the facts that it asked for. -/
theorem known_presented (hwalk : Investigates card variant walk) {key : String}
    (hkey : key ∈ walk.asked) :
    walk.env.knownFacts.get? key = (presentedFacts card variant).get? key := by
  obtain ⟨spec, hspec⟩ := Dict.contains_iff.mp (hwalk.known key hkey)
  obtain ⟨answer, hanswer, -, -⟩ := h.answers_exists hspec
  exact h.knownFacts_eq hwalk.surveyed hspec hanswer (hwalk.answered key hkey answer hanswer)

/-- The walk of a solver is first-match evaluation over the presented facts. -/
theorem walkRules_eq {rules : List Rule} (hwalk : Investigates card variant walk)
    (hrules : ∀ rule ∈ rules, ∀ key ∈ rule.referencedFacts, card.facts.contains key = true) :
    match firstMatch (presentedFacts card variant) rules with
    | .error e => walkRules none walk rules = .error (.schema e)
    | .ok none => walkRules none walk rules = .error .uncovered
    | .ok (some (rule, keys)) => ∃ walk', walkRules none walk rules = .ok (rule, walk') ∧
        Investigates card variant walk' ∧ walk.Asks keys walk' := by
  induction rules generalizing walk with
  | nil => rfl
  | cons rule rules ih =>
    obtain ⟨next, hask, hnext, hasks⟩ :=
      h.askFacts_ok hwalk (hrules rule List.mem_cons_self)
    have hholds : rule.holds next.env.knownFacts = rule.holds (presentedFacts card variant) :=
      holds_congr fun key hkey =>
        h.known_presented hnext ((hasks.asked key).mpr (Or.inr hkey))
    have hrest := ih hnext fun r hr => hrules r (List.mem_cons_of_mem _ hr)
    rw [walkRules, firstMatch]
    simp only [Option.isSome_none, Bool.false_eq_true, if_false, hask, ok_bind,
      Option.getD_none, hholds]
    cases rule.holds (presentedFacts card variant) with
    | error e => rfl
    | ok b =>
      cases b with
      | true => exact ⟨next, rfl, hnext, hasks⟩
      | false =>
        revert hrest
        simp only
        cases firstMatch (presentedFacts card variant) rules with
        | error e => exact fun hrest => hrest
        | ok found =>
          cases found with
          | none => exact fun hrest => hrest
          | some found =>
            rintro ⟨walk', hdone, hwalk', hmore⟩
            exact ⟨walk', hdone, hwalk', hasks.trans hmore⟩

end Compiles

end Walking

end OperateBench.Cubes
