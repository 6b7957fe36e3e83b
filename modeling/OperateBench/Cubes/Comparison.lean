import OperateBench.Cubes.Causal
import OperateBench.Cubes.Script

/-! # Comparing as the fake does

The fake tests a condition by its text. Where it orders numbers and keeps types apart it finds
what the compiler finds. A fact of the card may share its name with a field of the policy or with
the statements under pressure, and then the fake reads those.
-/

namespace OperateBench.Cubes

open Foundation

section Spelling

def Condition.shown (condition : Condition) : ShownCondition :=
  ⟨condition.fact, condition.op.text, condition.value⟩

def Rule.shown (rule : Rule) : ShownRule :=
  ⟨rule.conditions.map Condition.shown, rule.decision.text, rule.primaryReason⟩

theorem shown_asDatum (rules : List Rule) :
    (rules.map Rule.asDatum).mapM ShownRule.ofDatum? = some (rules.map Rule.shown) := by
  have hconditions : ∀ conditions : List Condition,
      (conditions.map Condition.asDatum).mapM ShownCondition.ofDatum? =
        some (conditions.map Condition.shown) := by
    intro conditions
    induction conditions with
    | nil => rfl
    | cons condition conditions ih =>
      rw [List.map_cons, List.mapM_cons, ih]
      rfl
  induction rules with
  | nil => rfl
  | cons rule rules ih =>
    have hrule : ShownRule.ofDatum? rule.asDatum = some rule.shown := by
      change ((rule.conditions.map Condition.asDatum).mapM ShownCondition.ofDatum?).bind
        (fun conditions => some (ShownRule.mk conditions rule.decision.text rule.primaryReason)) = _
      rw [hconditions]
      rfl
    rw [List.map_cons, List.mapM_cons, hrule, ih]
    rfl

end Spelling

section Agreement

/-- Where the fake and the compiler compare alike: the fake keeps types apart, orders numbers
only, and takes `ne` for `lte`. -/
def Agrees (op : ConditionOp) (observed value : Datum) (holds : Bool) : Prop :=
  match op with
  | .eq => holds = true → observed.sameType value = true
  | .ne => if observed.isNumber = true then observed.less? value = some true else holds = false
  | _ => observed.isNumber = true ∨ holds = false

theorem less_not_same {a b : Datum} (ha : a.isNumber = true) (hless : a.less? b = some true) :
    a.same b = false := by
  cases a with
  | int i =>
    cases b with
    | bool | int | float =>
      have hlt := of_decide_eq_true (Option.some.inj hless)
      exact decide_eq_false (Rat.ne_of_lt hlt)
    | _ => cases hless
  | float q =>
    cases b with
    | bool | int | float =>
      have hlt := of_decide_eq_true (Option.some.inj hless)
      exact decide_eq_false (Rat.ne_of_lt hlt)
    | _ => cases hless
  | _ => cases ha

/-- What an operator that orders asks for, where the two compare at all. -/
def ConditionOp.ordering? (op : ConditionOp) (observed value : Datum) : Option Bool :=
  match op with
  | .eq | .ne => none
  | .lt => observed.less? value
  | .lte => (observed.less? value).map (· || observed.same value)
  | .gt => value.less? observed
  | .gte => (value.less? observed).map (· || observed.same value)

variable {condition : Condition} {facts : FactValues} {observed : Datum}

theorem holds_ordering (hfact : facts.get? condition.fact = some observed)
    (heq : condition.op ≠ .eq) (hne : condition.op ≠ .ne) :
    condition.holds facts = (condition.op.ordering? observed condition.value).elim
      (.error (.incomparable condition.fact condition.op)) .ok := by
  obtain ⟨fact, op, value, hnamed, hsafe⟩ := condition
  simp only [Condition.holds, hfact, ConditionOp.ordering?]
  cases op with
  | eq => exact absurd rfl heq
  | ne => exact absurd rfl hne
  | lt | lte => cases observed.less? value <;> rfl
  | gt | gte => cases value.less? observed <;> rfl

theorem matches_ordering (hfact : facts.get? condition.fact = some observed)
    (heq : condition.op ≠ .eq) (hne : condition.op ≠ .ne) (hnumber : observed.isNumber = true) :
    condition.shown.matches facts = (condition.op.ordering? observed condition.value).elim
      (.error (.incomparable condition.fact)) .ok := by
  obtain ⟨fact, op, value, hnamed, hsafe⟩ := condition
  simp only [Condition.shown, ShownCondition.matches, hfact, hnumber, ConditionOp.ordering?]
  cases op with
  | eq => exact absurd rfl heq
  | ne => exact absurd rfl hne
  | lt | lte => cases observed.less? value <;> rfl
  | gt | gte => cases value.less? observed <;> rfl

theorem matches_plain (hfact : facts.get? condition.fact = some observed)
    (hop : condition.op ≠ .eq) (hnumber : observed.isNumber = false) :
    condition.shown.matches facts = .ok false := by
  obtain ⟨fact, op, expected, hnamed, hsafe⟩ := condition
  simp only [Condition.shown, ShownCondition.matches, hfact, hnumber]
  cases op with
  | eq => exact absurd rfl hop
  | _ => rfl

theorem matches_iff {b : Bool} (hfact : facts.get? condition.fact = some observed)
    (hholds : condition.holds facts = .ok b) :
    condition.shown.matches facts = .ok b ↔ Agrees condition.op observed condition.value b := by
  cases hop : condition.op with
  | eq =>
    simp only [Condition.holds, hfact, hop] at hholds
    obtain rfl := Except.ok.inj hholds
    simp only [Condition.shown, ShownCondition.matches, hfact, hop, ConditionOp.text, if_true,
      Agrees, Except.ok.injEq]
    cases observed.same condition.value <;> simp
  | ne =>
    simp only [Condition.holds, hfact, hop] at hholds
    obtain rfl := Except.ok.inj hholds
    simp only [Condition.shown, ShownCondition.matches, hfact, hop, ConditionOp.text,
      String.reduceEq, if_false, Agrees]
    cases hnumber : observed.isNumber with
    | false => simp
    | true =>
      simp only [Bool.not_true, Bool.false_eq_true, if_false, if_true]
      cases hless : observed.less? condition.value with
      | none => simp
      | some less =>
        cases less with
        | false => cases observed.same condition.value <;> simp
        | true => simp [less_not_same hnumber hless]
  | lt | lte | gt | gte =>
    have heq : condition.op ≠ .eq := by simp [hop]
    have hne : condition.op ≠ .ne := by simp [hop]
    simp only [Agrees]
    cases hnumber : observed.isNumber with
    | false =>
      rw [matches_plain hfact heq hnumber]
      cases b <;> simp
    | true =>
      rw [holds_ordering hfact heq hne] at hholds
      rw [matches_ordering hfact heq hne hnumber]
      cases hcompared : condition.op.ordering? observed condition.value with
      | none => rw [hcompared] at hholds; cases hholds
      | some found =>
        rw [hcompared] at hholds
        obtain rfl := Except.ok.inj hholds
        simp

end Agreement

section Views

variable (card : ConstructCard) (variant : Variant)

/-- What the record shows under names that facts may have: the fields of the policy, for facts
that are asked for, and the statements under pressure. -/
def borrowed : FactValues :=
  let fields : FactValues := ⟨(policyOf card variant).fact.entries.filter fun e =>
    card.facts.get? e.1 ≠ some .initial, (policyOf card variant).fact.nodup.sublist
      (List.filter_sublist.map Prod.fst)⟩
  if variant.pressureCues = [] then fields
  else fields.set "statements" (.seq (variant.pressureCues.map .str))

/-- The facts as the fake comes to know them. -/
def viewed : FactValues :=
  (borrowed card variant).entries.foldl (fun facts e => facts.set e.1 e.2)
    (card.factsFor variant.state)

/-- The fact would have to be asked for, and never is: something else has its name. -/
def overlooked (key : String) : Bool :=
  card.facts.get? key ≠ some .initial && (borrowed card variant).contains key

/-- The test as the fake takes it: other than for equality, what is no number fails it. -/
def Condition.facing (condition : Condition) : Condition :=
  if condition.op ≠ .eq ∧ ((viewed card variant).get? condition.fact).all fun v => !v.isNumber then
    { condition with op := .eq, value := .int 2, safe := by decide +kernel }
  else condition

def Rule.facing (rule : Rule) : Rule :=
  { rule with conditions := rule.conditions.map (Condition.facing card variant) }

end Views

section Borrowed

variable {card : ConstructCard} {variant : Variant} {key : String} {value : Datum}

theorem borrowed_get : (borrowed card variant).get? key =
    if variant.pressureCues ≠ [] ∧ key = "statements" then
      some (.seq (variant.pressureCues.map .str))
    else if card.facts.get? key = some .initial then none
    else (policyOf card variant).fact.get? key := by
  have hfields : ∀ h, Dict.get? (⟨(policyOf card variant).fact.entries.filter fun e =>
      card.facts.get? e.1 ≠ some .initial, h⟩ : FactValues) key =
      if card.facts.get? key = some .initial then none
      else (policyOf card variant).fact.get? key := by
    intro h
    ext value
    rw [Dict.get?_eq_some_iff, List.mem_filter, decide_eq_true_eq]
    split
    · simp_all
    · rw [Dict.get?_eq_some_iff]
      simp_all
  rw [borrowed]
  by_cases hcues : variant.pressureCues = []
  · simp only [hcues, if_true, ne_eq, not_true_eq_false, false_and, if_false]
    exact hfields _
  · simp only [hcues, if_false, ne_eq, not_false_eq_true, true_and, Dict.get?_set, hfields,
      eq_comm (a := "statements")]

theorem viewed_get : (viewed card variant).get? key =
    ((borrowed card variant).get? key).or ((card.factsFor variant.state).get? key) :=
  Dict.get?_update _ _ _

/-- What is borrowed is a text or a sequence. -/
theorem borrowed_plain (h : (borrowed card variant).get? key = some value) :
    value.isNumber = false ∧ ∀ other, value.same other = true → value.sameType other = true := by
  have hplain : (∃ s, value = .str s) ∨ ∃ items, value = .seq items := by
    rw [borrowed_get] at h
    split at h
    · exact Or.inr ⟨_, (Option.some.inj h).symm⟩
    · split at h
      · cases h
      · have hmem := Dict.mem_of_ofList (Dict.get?_eq_some_iff.mp h)
        simp only [List.mem_cons, Prod.mk.injEq, List.not_mem_nil, or_false] at hmem
        rcases hmem with ⟨-, rfl⟩ | ⟨-, rfl⟩ | ⟨-, rfl⟩ | ⟨-, rfl⟩
        · exact Or.inl ⟨_, rfl⟩
        · exact Or.inl ⟨_, rfl⟩
        · exact Or.inl ⟨_, rfl⟩
        · exact Or.inr ⟨_, rfl⟩
  rcases hplain with ⟨s, rfl⟩ | ⟨items, rfl⟩
  · refine ⟨rfl, fun other hsame => ?_⟩
    cases other <;> simp_all [Datum.same, Datum.sameType, Datum.number?]
  · refine ⟨rfl, fun other hsame => ?_⟩
    cases other <;> simp_all [Datum.same, Datum.sameType, Datum.number?]

end Borrowed

section Facing

variable {card : ConstructCard} {variant : Variant} {condition : Condition} {rule : Rule}
  {facts : FactValues}

/-- On the values of the state the fake compares as the compiler does. -/
def Compared (card : ConstructCard) (variant : Variant) : Prop :=
  ∀ rule ∈ (card.policyAxis variant.policy).rules, ∀ condition ∈ rule.conditions, ∀ b,
    condition.holds (card.factsFor variant.state) = .ok b →
      Agrees condition.op ((card.factsFor variant.state).value condition.fact) condition.value b

/-- The fake finds what the compiler finds, and fails where it fails. -/
def Follows (found : Except SchemaError Bool) (answer : Except EpisodeFailure Bool) : Prop :=
  match found with
  | .ok b => answer = .ok b
  | .error _ => ∃ failure, answer = .error failure

theorem same_two {value : Datum} (h : value.isNumber = false) : value.same (.int 2) = false := by
  cases value with
  | bool b => cases b <;> simp [Datum.same, Datum.number?]
  | int _ => cases h
  | float _ => cases h
  | _ => simp [Datum.same, Datum.number?]

theorem shown_matches_congr {facts' : FactValues}
    (h : facts.get? condition.fact = facts'.get? condition.fact) :
    condition.shown.matches facts = condition.shown.matches facts' := by
  simp only [ShownCondition.matches, Condition.shown, h]

/-- A number that does not compare is refused by the fake as well. -/
theorem matches_error {value : Datum} {e : SchemaError}
    (hfact : facts.get? condition.fact = some value) (hnumber : value.isNumber = true)
    (hholds : condition.holds facts = .error e) :
    ∃ failure, condition.shown.matches facts = .error failure := by
  have heq : condition.op ≠ .eq := by
    intro hop
    simp only [Condition.holds, hfact, hop] at hholds
    cases hholds
  have hne : condition.op ≠ .ne := by
    intro hop
    simp only [Condition.holds, hfact, hop] at hholds
    cases hholds
  rw [holds_ordering hfact heq hne] at hholds
  rw [matches_ordering hfact heq hne hnumber]
  cases hcompared : condition.op.ordering? value condition.value with
  | none => exact ⟨_, rfl⟩
  | some found => rw [hcompared] at hholds; cases hholds

theorem matches_eq {value : Datum} (hfact : facts.get? condition.fact = some value)
    (hop : condition.op = .eq) : condition.shown.matches facts =
      .ok (value.sameType condition.value && value.same condition.value) := by
  simp only [ShownCondition.matches, Condition.shown, hfact, hop, ConditionOp.text, if_true]

theorem matches_facing (hstate : card.facts.contains condition.fact = true)
    (hagrees : ∀ b, condition.holds (card.factsFor variant.state) = .ok b →
      Agrees condition.op ((card.factsFor variant.state).value condition.fact) condition.value b)
    (hknown : facts.get? condition.fact = (viewed card variant).get? condition.fact) :
    Follows ((condition.facing card variant).holds (viewed card variant))
      (condition.shown.matches facts) := by
  obtain ⟨given, hgiven⟩ := Dict.contains_iff.mp ((card.described variant.state _).trans hstate)
  obtain ⟨value, hvalue⟩ : ∃ value, (viewed card variant).get? condition.fact = some value := by
    rw [viewed_get, ConstructCard.factsFor, hgiven]
    cases (borrowed card variant).get? condition.fact <;> exact ⟨_, rfl⟩
  rw [shown_matches_congr hknown]
  by_cases hfails : condition.op ≠ .eq ∧ value.isNumber = false
  · rw [Condition.facing, if_pos ⟨hfails.1, by rw [hvalue]; simp [hfails.2]⟩]
    simp only [Condition.holds, hvalue, same_two hfails.2]
    exact matches_plain hvalue hfails.1 hfails.2
  · rw [Condition.facing, if_neg (by rw [hvalue]; simpa using hfails)]
    cases hborrowed : (borrowed card variant).get? condition.fact with
    | some other =>
      obtain rfl : other = value := by
        rw [viewed_get, hborrowed] at hvalue
        exact Option.some.inj hvalue
      obtain ⟨hnumber, hsame⟩ := borrowed_plain hborrowed
      have hop : condition.op = .eq := by
        by_contra hop
        exact hfails ⟨hop, hnumber⟩
      rw [matches_eq hvalue hop]
      simp only [Condition.holds, hvalue, hop, Follows]
      cases hequal : other.same condition.value with
      | true => rw [hsame _ hequal]; rfl
      | false => rw [Bool.and_false]
    | none =>
      have hviewed : (viewed card variant).get? condition.fact =
          (card.factsFor variant.state).get? condition.fact := by
        rw [viewed_get, hborrowed]
        rfl
      have hown : (card.factsFor variant.state).value condition.fact = value := by
        rw [FactValues.value, ← hviewed, hvalue]
        rfl
      have hholds : condition.holds (viewed card variant) =
          condition.holds (card.factsFor variant.state) := by
        unfold Condition.holds
        rw [hviewed]
      rw [hown] at hagrees
      cases hfound : condition.holds (viewed card variant) with
      | ok b => exact (matches_iff hvalue hfound).mpr (hagrees b (hholds.symm.trans hfound))
      | error e =>
        refine matches_error hvalue ?_ hfound
        by_contra hnumber
        have hop : condition.op = .eq := by
          by_contra hop
          exact hfails ⟨hop, Bool.eq_false_iff.mpr hnumber⟩
        simp only [Condition.holds, hvalue, hop] at hfound
        cases hfound

theorem allMatch_facing {conditions : List Condition}
    (h : ∀ condition ∈ conditions, Follows
      ((condition.facing card variant).holds (viewed card variant))
      (condition.shown.matches facts)) :
    Follows (allHold (viewed card variant) (conditions.map (Condition.facing card variant)))
      (allMatch facts (conditions.map Condition.shown)) := by
  induction conditions with
  | nil => rfl
  | cons condition conditions ih =>
    have hhead := h condition List.mem_cons_self
    have hrest := ih fun c hc => h c (List.mem_cons_of_mem _ hc)
    rw [List.map_cons, List.map_cons, allHold, allMatch]
    cases hfound : (condition.facing card variant).holds (viewed card variant) with
    | error e =>
      rw [hfound] at hhead
      obtain ⟨failure, hfailure⟩ := hhead
      rw [hfailure]
      exact ⟨failure, rfl⟩
    | ok b =>
      rw [hfound] at hhead
      rw [show condition.shown.matches facts = .ok b from hhead]
      cases b with
      | true => exact hrest
      | false => rfl

/-- A rule whose facts are known is taken as it reads. -/
theorem rule_facing (hrule : rule ∈ (card.policyAxis variant.policy).rules)
    (hcompared : Compared card variant)
    (hknown : ∀ key ∈ rule.referencedFacts, facts.get? key = (viewed card variant).get? key) :
    Follows ((rule.facing card variant).holds (viewed card variant))
      (allMatch facts rule.shown.conditions) := by
  refine allMatch_facing fun condition hcondition => ?_
  have hkey : condition.fact ∈ rule.referencedFacts := List.mem_map_of_mem hcondition
  exact matches_facing (card.factsKnown _ rule hrule _ hkey) (hcompared rule hrule _ hcondition)
    (hknown _ hkey)

theorem facing_facts : (rule.facing card variant).referencedFacts = rule.referencedFacts := by
  rw [Rule.referencedFacts, Rule.facing, List.map_map]
  refine List.map_congr_left fun condition _ => ?_
  simp only [Function.comp, Condition.facing]
  split <;> rfl

end Facing

end OperateBench.Cubes
