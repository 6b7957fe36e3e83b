import OperateBench.Core.Questions

/-! # Batches as sets of requests

The contract accepts batches with the same members alike, and their canonical forms are equal. The
arguments of one tool are one question where they are the same JSON values only as long as nested
keys stand in the same order.
-/

namespace OperateBench

open Foundation

namespace Batch

section Rulings

variable {catalogue : Catalogue} {budget : Int} {rs ss : List RetrievalRequest}
  {items : List RawRequest}

/-- The code of a refusal, or none where the batch is accepted. -/
def verdict : Except Unserved (List RetrievalRequest) → Except PyError (Option String)
  | .ok _ => .ok none
  | .error (.refused code _) => .ok (some code)
  | .error (.raises e) => .error e

def keyed (rs : List RetrievalRequest) : List (RetrievalRequest × ArgumentKey) :=
  rs.map fun r => (r, shownKey r)

/-- The catalogue publishes the arguments of the request. -/
def Published (catalogue : Catalogue) (r : RetrievalRequest) : Prop :=
  (catalogue.get? r.tool).all fun entry => decide (invented r entry = [])

instance : DecidablePred (Published catalogue) := fun _ => inferInstanceAs (Decidable (_ = true))

/-- How the contract rules on the requests that it reads. -/
def ruling (catalogue : Catalogue) (budget : Int) (rs : List RetrievalRequest) : Option String :=
  if rs.length < minRequestsPerBatch then some "EMPTY_RETRIEVAL_BATCH"
  else if maxRequestsPerBatch < distinctQuestions (keyed rs) then some "RETRIEVAL_BATCH_TOO_LARGE"
  else if conflicting (keyed rs) catalogue ≠ [] then some "CONFLICTING_RETRIEVAL_ARGUMENTS"
  else if 0 < unknownTools rs catalogue then some "UNKNOWN_RETRIEVAL_TOOL"
  else if ∀ r ∈ rs, Published catalogue r then
    if budget ≤ 0 then some "RETRIEVAL_BUDGET_EXHAUSTED" else none
  else some "MALFORMED_RETRIEVAL_REQUEST"

theorem withArgumentKeys_eq (hplain : ∀ r ∈ rs, Plain r) :
    withArgumentKeys rs = .ok (keyed rs) := by
  induction rs with
  | nil => rfl
  | cons r rs ih =>
    obtain ⟨hr, hrs⟩ := List.forall_mem_cons.mp hplain
    rw [withArgumentKeys, argumentKey_eq hr, ih hrs]
    rfl

theorem unknownTools_eq_zero :
    unknownTools rs catalogue = 0 ↔ ∀ r ∈ rs, catalogue.contains r.tool = true := by
  simp [unknownTools]

theorem verdict_checkArguments (hknown : ∀ r ∈ rs, catalogue.contains r.tool = true)
    (x : Except Unserved (List RetrievalRequest)) :
    verdict (checkArguments catalogue rs >>= fun _ => x) =
      if ∀ r ∈ rs, Published catalogue r then verdict x
      else .ok (some "MALFORMED_RETRIEVAL_REQUEST") := by
  induction rs with
  | nil => simp [checkArguments, ok_bind]
  | cons r rs ih =>
    obtain ⟨hr, hrs⟩ := List.forall_mem_cons.mp hknown
    obtain ⟨entry, hentry⟩ := Dict.contains_iff.mp hr
    have hpublished : Published catalogue r ↔ invented r entry = [] := by
      simp [Published, hentry]
    rw [checkArguments, hentry]
    dsimp only
    by_cases hinvented : invented r entry = []
    · rw [if_neg (not_not.mpr hinvented), ih hrs]
      simp [hpublished, hinvented]
    · rw [if_pos hinvented, if_neg]
      · rfl
      · intro h
        exact hinvented (hpublished.mp (h r List.mem_cons_self))

theorem verdict_eq (hread : readRequests 0 items = .ok rs) (hplain : ∀ r ∈ rs, Plain r) :
    verdict (retrievalBatchProblem (.sequence items) catalogue budget) =
      .ok (ruling catalogue budget rs) := by
  simp only [retrievalBatchProblem, hread, ok_bind]
  unfold ruling
  split
  · rfl
  rw [withArgumentKeys_eq hplain, ok_bind]
  split
  · rfl
  split
  · rfl
  split
  · rfl
  rename_i hknown
  rw [not_lt, Nat.le_zero, unknownTools_eq_zero] at hknown
  rw [verdict_checkArguments hknown]
  split
  · split <;> rfl
  · rfl

theorem accepted_read (h : retrievalBatchProblem (.sequence items) catalogue budget = .ok rs) :
    readRequests 0 items = .ok rs := by
  unfold retrievalBatchProblem at h
  dsimp only at h
  obtain ⟨requests, hread, h⟩ := bind_ok h
  split at h
  · cases h
  obtain ⟨_, _, h⟩ := bind_ok h
  split at h
  · cases h
  split at h
  · cases h
  split at h
  · cases h
  obtain ⟨_, _, h⟩ := bind_ok h
  split at h
  · cases h
  rw [hread, pure_ok h]

theorem conflicting_eq_nil : conflicting (keyed rs) catalogue = [] ↔ ∀ r ∈ rs, ∀ s ∈ rs,
    catalogue.contains r.tool = true → s.tool = r.tool → shownKey s = shownKey r := by
  rw [conflicting, sortedSet_eq_nil, List.map_eq_nil_iff, List.filter_eq_nil_iff]
  simp only [keyed, List.mem_map, forall_exists_index, and_imp, forall_apply_eq_imp_iff₂,
    Bool.and_eq_true, List.any_eq_true, beq_iff_eq, bne_iff_ne, not_and, not_exists, ne_eq, not_not]
  constructor
  · intro h r hr s hs hcontains
    exact h r hr hcontains s hs
  · intro h r hr hcontains s hs
    exact h r hr s hs hcontains

theorem ruling_congr (h : ∀ r, r ∈ rs ↔ r ∈ ss) :
    ruling catalogue budget rs = ruling catalogue budget ss := by
  have hlength : rs.length < minRequestsPerBatch ↔ ss.length < minRequestsPerBatch := by
    simp [minRequestsPerBatch, List.eq_nil_iff_forall_not_mem, h]
  have hdistinct : distinctQuestions (keyed rs) = distinctQuestions (keyed ss) := by
    apply List.Perm.length_eq
    rw [List.perm_ext_iff_of_nodup (List.nodup_dedup _) (List.nodup_dedup _)]
    intro question
    simp [keyed, h]
  have hconflicting :
      conflicting (keyed rs) catalogue = [] ↔ conflicting (keyed ss) catalogue = [] := by
    simp only [conflicting_eq_nil, h]
  have hunknown : 0 < unknownTools rs catalogue ↔ 0 < unknownTools ss catalogue := by
    rw [Nat.pos_iff_ne_zero, Nat.pos_iff_ne_zero, not_iff_not, unknownTools_eq_zero,
      unknownTools_eq_zero]
    simp only [h]
  unfold ruling
  simp only [hlength, hdistinct, ne_eq, hconflicting, hunknown, h]

/-- What an accepted batch satisfies. -/
structure Accepted (catalogue : Catalogue) (rs : List RetrievalRequest) : Prop where
  nonempty : rs ≠ []
  bounded : distinctQuestions (keyed rs) ≤ maxRequestsPerBatch
  agreeing : ∀ r ∈ rs, ∀ s ∈ rs, s.tool = r.tool → shownKey s = shownKey r
  known : ∀ r ∈ rs, catalogue.contains r.tool = true

theorem accepted_of_ruling (h : ruling catalogue budget rs = none) : Accepted catalogue rs := by
  unfold ruling at h
  split at h
  · cases h
  rename_i hlength
  split at h
  · cases h
  rename_i hbounded
  split at h
  · cases h
  rename_i hconflicting
  split at h
  · cases h
  rename_i hunknown
  have hknown := unknownTools_eq_zero.mp (Nat.eq_zero_of_not_pos hunknown)
  refine ⟨?_, not_lt.mp hbounded, ?_, hknown⟩
  · rintro rfl
    exact hlength Nat.zero_lt_one
  · intro r hr s hs
    exact conflicting_eq_nil.mp (not_not.mp hconflicting) r hr s hs (hknown r hr)

end Rulings

section Canonical

variable {catalogue : Catalogue} {rs ss : List RetrievalRequest}

def firstRequests (rs : List RetrievalRequest) : Dict String RetrievalRequest :=
  rs.foldl (fun seen r => if seen.contains r.tool then seen else seen.set r.tool r) Dict.empty

theorem get?_firstRequests (tool : String) :
    (firstRequests rs).get? tool = rs.find? fun r => r.tool = tool := by
  have hfold : ∀ (rs : List RetrievalRequest) (seen : Dict String RetrievalRequest),
      (rs.foldl (fun seen r => if seen.contains r.tool then seen else seen.set r.tool r) seen).get?
        tool = (seen.get? tool).or (rs.find? fun r => r.tool = tool) := by
    intro rs
    induction rs with
    | nil => simp
    | cons r rs ih =>
      intro seen
      rw [List.foldl_cons, ih, List.find?_cons]
      by_cases hcontains : seen.contains r.tool
      · rw [if_pos hcontains]
        by_cases htool : r.tool = tool
        · obtain ⟨first, hfirst⟩ := Dict.contains_iff.mp hcontains
          rw [htool] at hfirst
          simp [hfirst]
        · simp [htool]
      · rw [if_neg hcontains, Dict.get?_set]
        by_cases htool : r.tool = tool
        · subst htool
          rw [Dict.contains, Option.isSome_iff_ne_none, not_not] at hcontains
          simp [hcontains]
        · simp [htool]
  rw [firstRequests, hfold]
  rfl

theorem mem_firstRequests_keys {tool : String} :
    tool ∈ (firstRequests rs).keys ↔ ∃ r ∈ rs, r.tool = tool := by
  rw [Dict.mem_keys_iff]
  simp only [get?_firstRequests, ← Option.isSome_iff_exists, List.find?_isSome, decide_eq_true_eq]

/-- The canonical form holds one member of the batch for each tool, in the order of the tools. -/
theorem canonicalRequests_tools (rs : List RetrievalRequest) :
    (canonicalRequests rs).map RetrievalRequest.tool = sortTexts (firstRequests rs).keys := by
  have hkeys : ∀ tool ∈ sortTexts (firstRequests rs).keys, ∃ r,
      (firstRequests rs).get? tool = some r ∧ r.tool = tool := by
    intro tool htool
    rw [sortTexts, List.mem_insertionSort, Dict.mem_keys_iff] at htool
    obtain ⟨r, hr⟩ := htool
    refine ⟨r, hr, ?_⟩
    rw [get?_firstRequests] at hr
    simpa using List.find?_some hr
  change ((sortTexts (firstRequests rs).keys).filterMap (firstRequests rs).get?).map _ = _
  generalize sortTexts (firstRequests rs).keys = tools at hkeys ⊢
  induction tools with
  | nil => rfl
  | cons tool tools ih =>
    obtain ⟨⟨r, hr, htool⟩, htools⟩ := List.forall_mem_cons.mp hkeys
    rw [List.filterMap_cons, hr, List.map_cons, htool, ih htools]

theorem mem_canonicalRequests {r : RetrievalRequest} (h : r ∈ canonicalRequests rs) : r ∈ rs := by
  have hmem : r ∈ (sortTexts (firstRequests rs).keys).filterMap (firstRequests rs).get? := h
  obtain ⟨tool, -, hr⟩ := List.mem_filterMap.mp hmem
  rw [get?_firstRequests] at hr
  exact List.mem_of_find?_eq_some hr

theorem canonicalRequests_sorted (rs : List RetrievalRequest) :
    (canonicalRequests rs).Pairwise fun r s => r.tool < s.tool := by
  have hnodup : (sortTexts (firstRequests rs).keys).Nodup :=
    (List.perm_insertionSort _ _).nodup_iff.mpr (firstRequests rs).nodup
  have hle : (sortTexts (firstRequests rs).keys).Pairwise (· ≤ ·) := List.pairwise_insertionSort _ _
  rw [← List.pairwise_map (f := RetrievalRequest.tool) (R := (· < ·)), canonicalRequests_tools]
  exact (hle.and hnodup).imp fun h => Std.lt_of_le_of_ne h.1 h.2

theorem canonicalRequests_length (rs : List RetrievalRequest) :
    (canonicalRequests rs).length ≤ distinctQuestions (keyed rs) := by
  have hsub : (firstRequests rs).keys ⊆
      ((keyed rs).map fun r => (r.1.tool, r.2)).dedup.map Prod.fst := by
    intro tool htool
    obtain ⟨r, hr, rfl⟩ := mem_firstRequests_keys.mp htool
    simp only [List.mem_map, List.mem_dedup, keyed]
    exact ⟨(r.tool, shownKey r), ⟨(r, shownKey r), ⟨r, hr, rfl⟩, rfl⟩, rfl⟩
  have hnodup : (firstRequests rs).keys.Nodup := (firstRequests rs).nodup
  have hle := (List.subperm_of_subset hnodup hsub).length_le
  rw [← List.length_map RetrievalRequest.tool, canonicalRequests_tools, sortTexts,
    List.length_insertionSort]
  rwa [List.length_map] at hle

/-- Requests that are equal as the language compares them: the order of the arguments is free. -/
def Equal (r s : RetrievalRequest) : Prop := r.tool = s.tool ∧ Alike r s

/-- Accepted batches with the same members have equal canonical forms. -/
theorem canonicalRequests_congr (hmem : ∀ r, r ∈ rs ↔ r ∈ ss) (haccepted : Accepted catalogue rs)
    (hplain : ∀ r ∈ rs, Plain r) :
    List.Forall₂ Equal (canonicalRequests rs) (canonicalRequests ss) := by
  have htools : (canonicalRequests rs).map RetrievalRequest.tool =
      (canonicalRequests ss).map RetrievalRequest.tool := by
    have hnodup (rs : List RetrievalRequest) : (firstRequests rs).keys.Nodup :=
      (firstRequests rs).nodup
    have hkeys : (firstRequests rs).keys.Perm (firstRequests ss).keys := by
      rw [List.perm_ext_iff_of_nodup (hnodup rs) (hnodup ss)]
      intro tool
      simp only [mem_firstRequests_keys, hmem]
    rw [canonicalRequests_tools, canonicalRequests_tools]
    exact (insertionSort_eq_iff ((List.map_id _).symm ▸ hnodup rs)).mpr hkeys
  have hequal : ∀ r ∈ canonicalRequests rs, ∀ s ∈ canonicalRequests ss, r.tool = s.tool →
      Equal r s := by
    intro r hr s hs htool
    have hr := mem_canonicalRequests hr
    have hs := (hmem s).mpr (mem_canonicalRequests hs)
    have hkey := haccepted.agreeing s hs r hr htool
    exact ⟨htool, (alike_iff_shownKey (hplain r hr) (hplain s hs)).mpr hkey⟩
  exact forall₂_of_map_eq htools hequal

end Canonical

section Sets

variable {catalogue : Catalogue} {budget : Int} {items : List RawRequest}

/-- The batch means its set of requests. -/
structure MeansSet (catalogue : Catalogue) (budget : Int) (items : List RawRequest) : Prop where
  verdicts (others : List RawRequest) (h : ∀ raw, raw ∈ items ↔ raw ∈ others) : ∃ code,
    verdict (retrievalBatchProblem (.sequence items) catalogue budget) = .ok code ∧
      verdict (retrievalBatchProblem (.sequence others) catalogue budget) = .ok code
  canonical (others : List RawRequest) (h : ∀ raw, raw ∈ items ↔ raw ∈ others)
    (rs ss : List RetrievalRequest)
    (hrs : retrievalBatchProblem (.sequence items) catalogue budget = .ok rs)
    (hss : retrievalBatchProblem (.sequence others) catalogue budget = .ok ss) :
    List.Forall₂ Equal (canonicalRequests rs) (canonicalRequests ss)
  form (rs : List RetrievalRequest)
    (hrs : retrievalBatchProblem (.sequence items) catalogue budget = .ok rs) :
    (canonicalRequests rs).Pairwise (fun r s => r.tool < s.tool) ∧
      (∀ r ∈ canonicalRequests rs, catalogue.contains r.tool = true) ∧
      (canonicalRequests rs).length ≤ maxRequestsPerBatch
  questions (raw : RawRequest) (hraw : raw ∈ items) (raw' : RawRequest) (hraw' : raw' ∈ items)
    (r s : RetrievalRequest) (hr : Asks raw r) (hs : Asks raw' s) :
    OneQuestion r s ↔ r.tool = s.tool ∧ SameArguments r s

/-- Arguments of one tool that are the same JSON values nest their keys in the same order. -/
def SpelledAlike (items : List RawRequest) : Prop := ∀ raw ∈ items, ∀ raw' ∈ items, ∀ r s,
  Asks raw r → Asks raw' s → r.tool = s.tool → SameArguments r s → Alike r s

theorem verdicts_agree (hjson : ∀ raw ∈ items, JsonArguments raw) {others : List RawRequest}
    (h : ∀ raw, raw ∈ items ↔ raw ∈ others) : ∃ code,
    verdict (retrievalBatchProblem (.sequence items) catalogue budget) = .ok code ∧
      verdict (retrievalBatchProblem (.sequence others) catalogue budget) = .ok code := by
  have hunread {raws : List RawRequest} {e : Unserved} (he : readRequests 0 raws = .error e) :
      verdict (retrievalBatchProblem (.sequence raws) catalogue budget) =
        .ok (some "MALFORMED_RETRIEVAL_REQUEST") := by
    obtain ⟨-, detail, rfl⟩ := readRequests_error he
    rw [retrievalBatchProblem, he]
    rfl
  cases hitems : readRequests 0 items with
  | error e =>
    cases hothers : readRequests 0 others with
    | error e' => exact ⟨_, hunread hitems, hunread hothers⟩
    | ok ss =>
      obtain ⟨⟨raw, hraw, hnone⟩, -⟩ := readRequests_error hitems
      obtain ⟨r, hr⟩ := (readRequests_ok hothers).1 raw ((h raw).mp hraw)
      exact absurd hr (hnone r)
  | ok rs =>
    cases hothers : readRequests 0 others with
    | error e =>
      obtain ⟨⟨raw, hraw, hnone⟩, -⟩ := readRequests_error hothers
      obtain ⟨r, hr⟩ := (readRequests_ok hitems).1 raw ((h raw).mpr hraw)
      exact absurd hr (hnone r)
    | ok ss =>
      have hmem := readRequests_congr hitems hothers h
      have hplain := readRequests_plain hitems hjson
      refine ⟨_, verdict_eq hitems hplain, ?_⟩
      rw [ruling_congr hmem]
      exact verdict_eq hothers fun r hr => hplain r ((hmem r).mpr hr)

theorem accepted_of_ok (hjson : ∀ raw ∈ items, JsonArguments raw) {rs : List RetrievalRequest}
    (h : retrievalBatchProblem (.sequence items) catalogue budget = .ok rs) :
    Accepted catalogue rs := by
  have hread := accepted_read h
  have hverdict : verdict _ = .ok (ruling catalogue budget rs) :=
    verdict_eq hread (readRequests_plain hread hjson)
  rw [h] at hverdict
  exact accepted_of_ruling (Except.ok.inj hverdict).symm

/-- A batch of requests with JSON arguments means the set of its requests if and only if arguments
of one tool that are the same JSON values nest their keys in the same order. -/
theorem meansSet_iff (catalogue : Catalogue) (budget : Int) (items : List RawRequest)
    (hjson : ∀ raw ∈ items, JsonArguments raw) :
    MeansSet catalogue budget items ↔ SpelledAlike items := by
  constructor
  · intro h raw hraw raw' hraw' r s hr hs htool hsame
    have hone := (h.questions raw hraw raw' hraw' r s hr hs).mpr ⟨htool, hsame⟩
    exact ((oneQuestion_iff (hr.plain (hjson raw hraw)) (hs.plain (hjson raw' hraw'))).mp hone).2
  · intro h
    constructor
    case verdicts => exact fun others hmem => verdicts_agree hjson hmem
    case canonical =>
      intro others hmem rs ss hrs hss
      have hread := accepted_read hrs
      exact canonicalRequests_congr (readRequests_congr hread (accepted_read hss) hmem)
        (accepted_of_ok hjson hrs) (readRequests_plain hread hjson)
    case form =>
      intro rs hrs
      have haccepted := accepted_of_ok hjson hrs
      exact ⟨canonicalRequests_sorted rs,
        fun r hr => haccepted.known r (mem_canonicalRequests hr),
        (canonicalRequests_length rs).trans haccepted.bounded⟩
    case questions =>
      intro raw hraw raw' hraw' r s hr hs
      rw [oneQuestion_iff (hr.plain (hjson raw hraw)) (hs.plain (hjson raw' hraw'))]
      constructor
      · rintro ⟨htool, halike⟩
        exact ⟨htool, halike.same⟩
      · rintro ⟨htool, hsame⟩
        exact ⟨htool, h raw hraw raw' hraw' r s hr hs htool hsame⟩

def oneTool : Catalogue := .ofList
  [("orders", ⟨"ledger", Authority.systemOfRecord, "orders.v1", .ofList [("filter", "object")]⟩)]

/-- A request for the orders that a filter lets through. -/
def filtered (filter : List (Value × Value)) : RawRequest :=
  .request (.str "orders") (.dict [(.str "filter", .dict filter)])

theorem one_filter_means_set :
    MeansSet oneTool 1 [filtered [(.str "paid", .bool true), (.str "year", .str "2024")]] := by
  rw [meansSet_iff oneTool 1 _ (by simp [filtered, JsonArguments, Value.isJson, Value.entriesJson,
    Value.asStr?])]
  intro raw hraw raw' hraw' r s hr hs _ _
  obtain rfl := List.mem_singleton.mp hraw
  obtain rfl := List.mem_singleton.mp hraw'
  obtain rfl := Except.ok.inj (hr.symm.trans hs)
  exact fun _ => rfl

/-- Two filters that differ in the order of their keys only are two questions. -/
theorem two_filters_conflict :
    ¬MeansSet oneTool 1 [filtered [(.str "paid", .bool true), (.str "year", .str "2024")],
      filtered [(.str "year", .str "2024"), (.str "paid", .bool true)]] := by
  intro h
  have hsame := (h.questions _ List.mem_cons_self _ (List.mem_cons_of_mem _ List.mem_cons_self)
    _ _ rfl rfl).mpr ⟨rfl, rfl⟩
  have hkeys := congrArg Except.toOption hsame.2
  revert hkeys
  decide +kernel

end Sets

end Batch

end OperateBench
