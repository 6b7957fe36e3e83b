import OperateBench.Core.AuditRuns

/-! # Declared occurrences are granted

A well-formed batch is reserved if and only if its source has an occurrence left: neither the
declared aggregate nor the range of a counter refuses it.
-/

namespace OperateBench.AuditBudget

open Foundation

namespace AuditBudgetRuntime

variable {r : AuditBudgetRuntime} {s : RuntimeState} {active : TransitionState}
  {source : AuditBudgetSource} {intents : List String} {nonce sourceId : String}

section Occurrences

/-- The occurrences of a source that were committed. -/
def occurrences (s : RuntimeState) (sourceId : String) : ℕ :=
  (s.sourceOccurrences.get? sourceId).getD 0

/-- What the digests of a batch are taken of. -/
def batchContents (r : AuditBudgetRuntime) (intents : List String)
    (sourceId transitionId : String) : List Value :=
  intents.zipIdx.map fun e => r.intentContent e.1 sourceId transitionId e.2

/-- What the digests of the committed intents, the staged ones and those of the batch are
taken of. -/
def contents (r : AuditBudgetRuntime) (s : RuntimeState) (active : TransitionState)
    (source : AuditBudgetSource) (intents : List String) : List Value :=
  s.committed.map r.rowContent ++
    (active.batches.flatMap fun batch =>
      r.batchContents batch.intents batch.source.sourceId active.transitionId) ++
    r.batchContents intents source.sourceId active.transitionId

/-- Fresh intents for a source of the declaration that the transition has not staged yet. -/
structure WellFormed (r : AuditBudgetRuntime) (s : RuntimeState) (active : TransitionState)
    (source : AuditBudgetSource) (intents : List String) : Prop where
  known : source ∈ r.declaration.sources
  portable : ∀ id ∈ intents, isPortable id = true
  nonempty : 0 < intents.length
  bounded : intents.length ≤ source.maxEventsPerTransition
  nodup : intents.Nodup
  uncommitted : ∀ row ∈ s.committed, row.intentId ∉ intents
  unstaged : ∀ batch ∈ active.batches, batch.source.sourceId ≠ source.sourceId
  fresh : ∀ batch ∈ active.batches, ∀ id ∈ batch.intents, id ∉ intents

/-- A drawn nonce has the form of a digest and was not drawn for a staged batch. -/
def FreshNonce (active : TransitionState) (nonce : String) : Prop :=
  isDigest nonce = true ∧ ∀ batch ∈ active.batches, batch.nonce ≠ nonce

/-- The digests of the intents in question tell them apart. -/
def CollisionFree (r : AuditBudgetRuntime) (s : RuntimeState) (active : TransitionState)
    (source : AuditBudgetSource) (intents : List String) : Prop :=
  Set.InjOn r.sha256 {content | content ∈ r.contents s active source intents}

theorem intentContent_inj {id id' sourceId' transitionId transitionId' : String} {n n' : ℕ}
    (h : r.intentContent id sourceId transitionId n =
      r.intentContent id' sourceId' transitionId' n') : id = id' ∧ n = n' := by
  simp only [intentContent, Value.ofFields, List.map_cons, List.map_nil, Value.dict.injEq,
    List.cons.injEq, Prod.mk.injEq, Value.str.injEq, Value.int.injEq, true_and, and_true] at h
  obtain ⟨hn, hid, -⟩ := h
  exact ⟨hid, Int.ofNat.inj hn⟩

theorem batchDigests_eq (intents : List String) (sourceId transitionId : String) :
    r.batchDigests intents sourceId transitionId =
      (r.batchContents intents sourceId transitionId).map r.sha256 := by
  rw [batchContents, List.map_map]
  rfl

theorem mem_batchContents {content : Value} {transitionId : String}
    (hm : content ∈ r.batchContents intents sourceId transitionId) :
    ∃ id ∈ intents, ∃ n, content = r.intentContent id sourceId transitionId n := by
  obtain ⟨e, he, rfl⟩ := List.mem_map.mp hm
  exact ⟨e.1, List.fst_mem_of_mem_zipIdx he, e.2, rfl⟩

theorem portableIds_ok {names : List String} {name : String}
    (h : ∀ id ∈ names, isPortable id = true) :
    names.forM (portableId · name) = .ok () := by
  induction names with
  | nil => rfl
  | cons id names ih =>
    obtain ⟨hid, hnames⟩ := List.forall_mem_cons.mp h
    have hfirst : portableId id name = .ok () := if_pos hid
    change (portableId id name >>= fun _ => names.forM (portableId · name)) = _
    rw [hfirst, ok_bind]
    exact ih hnames

/-- A well-formed batch is met by the declared maxima only. -/
theorem WellFormed.reserve (hw : r.WellFormed s active source intents) (h : r.Sound s)
    (hlive : s.halt = none) (ho : s.active = some active) (hnew : active.reexecution = false) :
    r.reserve s active.scope source.sourceId source.countedKind.text intents nonce =
      r.reserveKnown s active source intents nonce := by
  have hsource := (r.declaration.accepted r.accepted).sources source hw.known
  have hkind : isPortable source.countedKind.text = true := by
    cases source.countedKind with
    | scheduledAuditEventIntent => decide
    | immediateAuditEventIntent => decide
  have hhalted : raiseIfHalted s = .ok () := by rw [raiseIfHalted, hlive]
  have hshape : ¬(¬(0 < intents.length ∧ intents.length ≤ source.maxEventsPerTransition) ∨
      active.batches.any (fun batch => batch.source.sourceId = source.sourceId) ∨
      ¬intents.Nodup ∨ intents.any (fun id => active.batches.any fun batch => id ∈ batch.intents) ∨
      intents.any s.committedIds.contains) := by
    rintro (hsize | hstaged | hnodup | hheld | hcommitted)
    · exact hsize ⟨hw.nonempty, hw.bounded⟩
    · obtain ⟨batch, hm, heq⟩ := List.any_eq_true.mp hstaged
      exact hw.unstaged batch hm (of_decide_eq_true heq)
    · exact hnodup hw.nodup
    · obtain ⟨id, hid, hany⟩ := List.any_eq_true.mp hheld
      obtain ⟨batch, hm, hmem⟩ := List.any_eq_true.mp hany
      exact hw.fresh batch hm id (of_decide_eq_true hmem) hid
    · obtain ⟨id, hid, hcontains⟩ := List.any_eq_true.mp hcommitted
      obtain ⟨row, hrow, rfl⟩ := h.ids id hcontains
      exact hw.uncommitted row hrow hid
  have hsourceId : portableId source.sourceId "source_id" = .ok () := if_pos hsource.portable
  have hkindText : portableId source.countedKind.text "counted_kind" = .ok () := if_pos hkind
  have hids : intents.forM (portableId · "intent_id") = .ok () := portableIds_ok hw.portable
  unfold AuditBudgetRuntime.reserve
  simp only [hhalted, requireScope_self ho, hsourceId, hkindText, hids, lift, ok_bind, hnew,
    Bool.false_eq_true, if_false, find?_source hw.known, ne_eq, not_true_eq_false]
  rw [if_neg hshape]

/-- The check of the batch against the declared maxima passes while its source has an occurrence
left. -/
theorem Sound.reserveKnown (h : r.Sound s) (ho : s.active = some active)
    (hw : r.WellFormed s active source intents)
    (hleft : occurrences s source.sourceId < source.maxAcceptedOccurrences) :
    r.reserveKnown s active source intents nonce = r.stage s active source intents nonce := by
  have haggregate := h.aggregate_le ho hw.known hw.unstaged hleft hw.bounded
  have hspent : (usage s).spent source.sourceId + intents.length ≤ source.most := by
    have hunits := h.within.units _ (List.mem_map_of_mem hw.known)
    rw [quota_units hw.known] at hunits
    calc (usage s).spent source.sourceId + intents.length
        ≤ occurrences s source.sourceId * source.maxEventsPerTransition +
            source.maxEventsPerTransition := Nat.add_le_add hunits hw.bounded
      _ = (occurrences s source.sourceId + 1) * source.maxEventsPerTransition :=
          (Nat.succ_mul _ _).symm
      _ ≤ source.most := Nat.mul_le_mul_right _ hleft
  obtain ⟨hcount, hoccurrence⟩ := h.listed source hw.known
  unfold AuditBudgetRuntime.reserveKnown
  dsimp only
  rw [h.attempt ho hw.known hw.bounded]
  dsimp only
  rw [if_neg (Nat.not_lt.mpr haggregate), countOf_of_contains hoccurrence,
    countOf_of_contains hcount]
  simp only [lift, ok_bind]
  rw [if_neg]
  rintro (hnone | hmore)
  · exact absurd hleft (Nat.not_lt.mpr hnone)
  · exact absurd hmore (Nat.not_lt.mpr hspent)

/-- The digests of a fresh batch are new, and differ from each other. -/
theorem CollisionFree.digests (hfree : r.CollisionFree s active source intents)
    (h : r.Sound s) (hopen : r.Open s active) (hw : r.WellFormed s active source intents) :
    (r.batchDigests intents source.sourceId active.transitionId).Nodup ∧
      ∀ digest ∈ r.batchDigests intents source.sourceId active.transitionId,
        s.committedDigests.contains digest = false ∧
          digest ∉ active.batches.flatMap BatchState.digests := by
  have hnew : ∀ content ∈ r.batchContents intents source.sourceId active.transitionId,
      content ∈ r.contents s active source intents := fun _ hm => List.mem_append_right _ hm
  rw [batchDigests_eq]
  constructor
  · refine List.Nodup.map_on (fun a ha b hb heq => hfree (hnew a ha) (hnew b hb) heq) ?_
    have hindexed : intents.zipIdx.Nodup := by
      refine List.Nodup.of_map Prod.fst ?_
      rw [List.zipIdx_map_fst]
      exact hw.nodup
    refine List.Nodup.map_on (fun a _ b _ heq => ?_) hindexed
    obtain ⟨hid, hn⟩ := intentContent_inj heq
    exact Prod.ext hid hn
  · intro digest hm
    obtain ⟨content, hcontent, rfl⟩ := List.mem_map.mp hm
    obtain ⟨id, hid, n, rfl⟩ := mem_batchContents hcontent
    constructor
    · by_contra hcontains
      obtain ⟨row, hrow, heq⟩ := h.digests _ (Bool.eq_true_of_not_eq_false hcontains)
      have hmem : r.rowContent row ∈ r.contents s active source intents :=
        List.mem_append_left _ (List.mem_append_left _ (List.mem_map_of_mem hrow))
      obtain ⟨rfl, -⟩ := intentContent_inj (hfree (hnew _ hcontent) hmem heq)
      exact hw.uncommitted row hrow hid
    · intro hstaged
      obtain ⟨batch, hbatch, hdigest⟩ := List.mem_flatMap.mp hstaged
      rw [((staged_of_batchesValid hopen.valid).1 batch hbatch).1.digests, batchDigests_eq] at hdigest
      obtain ⟨other, hother, heq⟩ := List.mem_map.mp hdigest
      have hmem : other ∈ r.contents s active source intents := by
        refine List.mem_append_left _ (List.mem_append_right _ ?_)
        exact List.mem_flatMap.mpr ⟨batch, hbatch, hother⟩
      obtain ⟨id', hid', n', rfl⟩ := mem_batchContents hother
      obtain ⟨rfl, -⟩ := intentContent_inj (hfree hmem (hnew _ hcontent) heq)
      exact hw.fresh batch hbatch _ hid' hid

/-- A fresh batch stands behind the staged ones. -/
theorem WellFormed.valid (hw : r.WellFormed s active source intents) (h : r.Sound s)
    (hopen : r.Open s active) (hnonce : FreshNonce active nonce)
    (hfree : r.CollisionFree s active source intents) :
    r.batchesValid s active (active.batches ++ [r.newBatch active source intents nonce])
      [] [] [] = true := by
  obtain ⟨-, hdigests⟩ := hfree.digests h hopen hw
  have hids : ∀ id ∈ intents, s.committedIds.contains id = false := by
    intro id hid
    by_contra hcontains
    obtain ⟨row, hrow, rfl⟩ := h.ids id (Bool.eq_true_of_not_eq_false hcontains)
    exact hw.uncommitted row hrow hid
  have hstaged : ∀ id ∈ intents, id ∉ active.batches.flatMap BatchState.intents := by
    intro id hid hmem
    obtain ⟨batch, hbatch, hmem⟩ := List.mem_flatMap.mp hmem
    exact hw.fresh batch hbatch id hmem hid
  have hsources : source.sourceId ∉ active.batches.map fun batch => batch.source.sourceId := by
    intro hmem
    obtain ⟨batch, hbatch, heq⟩ := List.mem_map.mp hmem
    exact hw.unstaged batch hbatch heq
  have hlength : nonce.length = 64 := by
    have hform := hnonce.1
    rw [isDigest, Bool.and_eq_true] at hform
    exact of_decide_eq_true hform.1
  rw [batchesValid_append, Bool.and_eq_true]
  refine ⟨hopen.valid, ?_⟩
  unfold batchValid newBatch
  simp only [Bool.and_eq_true, decide_eq_true_eq, List.nil_append, List.all_eq_true,
    Bool.not_eq_true']
  refine ⟨⟨⟨⟨⟨⟨⟨⟨⟨⟨find?_source hw.known, hsources⟩, trivial⟩, hlength⟩, hw.nonempty,
    hw.bounded⟩, hw.portable⟩, hw.nodup⟩, trivial⟩, Nat.zero_le _⟩, ?_⟩, ?_⟩
  · exact fun id hid => ⟨hstaged id hid, hids id hid⟩
  · exact fun digest hd => ⟨(hdigests digest hd).2, (hdigests digest hd).1⟩

/-- A fresh batch is staged. -/
theorem WellFormed.stage (hw : r.WellFormed s active source intents) (h : r.Sound s)
    (ho : s.active = some active) (hnonce : FreshNonce active nonce)
    (hfree : r.CollisionFree s active source intents) :
    ∃ result, r.stage s active source intents nonce = .ok result := by
  have hopen := h.opened active ho
  have hvalid := hw.valid h hopen hnonce hfree
  obtain ⟨hnodup, hdigests⟩ := hfree.digests h hopen hw
  have hdistinct : ¬(¬(r.batchDigests intents source.sourceId active.transitionId).Nodup ∨
      (r.batchDigests intents source.sourceId active.transitionId).any
        s.committedDigests.contains) := by
    rintro (hrepeat | hany)
    · exact hrepeat hnodup
    · obtain ⟨digest, hm, hcontains⟩ := List.any_eq_true.mp hany
      rw [(hdigests digest hm).1] at hcontains
      cases hcontains
  have hnonces : ((active.batches ++ [r.newBatch active source intents nonce]).map
      BatchState.nonce).Nodup := by
    rw [List.map_append, List.nodup_append]
    refine ⟨hopen.nonces, List.nodup_singleton _, fun a ha b hb heq => ?_⟩
    obtain ⟨batch, hbatch, rfl⟩ := List.mem_map.mp ha
    obtain rfl := List.mem_singleton.mp hb
    exact hnonce.2 batch hbatch heq
  have hactive : r.activeValid s { active with
      batches := active.batches ++ [r.newBatch active source intents nonce] } = true := by
    rw [← hvalid]
    exact batchesValid_congr rfl rfl rfl rfl
  refine ⟨⟨⟨active.identity, nonce⟩, { s with active := some { active with
    batches := active.batches ++ [r.newBatch active source intents nonce] } }⟩, ?_⟩
  unfold newBatch at hnonces hactive
  unfold AuditBudgetRuntime.stage
  dsimp only
  rw [if_neg hdistinct, hnonce.1, if_neg (by decide), if_neg (not_not.mpr hnonces), hactive]
  rfl

theorem WellFormed.reserved_iff (hw : r.WellFormed s active source intents) (h : r.Sound s)
    (hlive : s.halt = none) (ho : s.active = some active) (hnew : active.reexecution = false)
    (hnonce : FreshNonce active nonce) (hfree : r.CollisionFree s active source intents) :
    (∃ result, r.reserve s active.scope source.sourceId source.countedKind.text intents nonce =
      .ok result) ↔ occurrences s source.sourceId < source.maxAcceptedOccurrences := by
  rw [hw.reserve h hlive ho hnew]
  constructor
  · rintro ⟨result, hok⟩
    exact (reserveKnown_ok hok).1
  · intro hleft
    rw [h.reserveKnown ho hw hleft]
    exact hw.stage h ho hnonce hfree

/-- In every state that the calls reach, a transition that does not execute a committed one again
reserves a well-formed batch if and only if its source has an occurrence left; a refusal for the
aggregate names a source that has none left, and no counter leaves its range. -/
theorem reserves_iff_occurrence_left (r : AuditBudgetRuntime) :
    ∀ s, Reaches (Step r) r.initialState s →
      (∀ active source intents nonce, s.halt = none → s.active = some active →
        active.reexecution = false → r.WellFormed s active source intents →
        FreshNonce active nonce → r.CollisionFree s active source intents →
        ((∃ result, r.reserve s active.scope source.sourceId source.countedKind.text intents
          nonce = .ok result) ↔
            occurrences s source.sourceId < source.maxAcceptedOccurrences)) ∧
      (∀ scope sourceId countedKind intents nonce record, s.halt = none →
        r.reserve s scope sourceId countedKind intents nonce = .error (.halted record) →
        r.Justified s record) ∧
      ∀ record, s.halt = some record → InRange record := by
  intro s hreach
  have hsound := Sound.reached hreach
  refine ⟨?_, ?_, hsound.halts⟩
  · intro active source intents nonce hlive ho hnew hw hnonce hfree
    exact hw.reserved_iff hsound hlive ho hnew hnonce hfree
  · intro scope sourceId countedKind intents nonce record hlive hrefused
    rcases stops_reserve hsound record hrefused with hjustified | hheld
    · exact hjustified
    · rw [hlive] at hheld
      cases hheld

end Occurrences

section Reexecution

def reviews : AuditBudgetSource := ⟨"review", .scheduledAuditEventIntent, 2, 1⟩

def intentIdIn : Value → Option String
  | .dict [(_, .dict [_, _, (_, .str id), _, _, _, _]), _] => some id
  | _ => none

def hexadecimal (c : Char) : String := .ofList (.replicate 64 c)

/-- Two occurrences of one source, with digests that tell the first intent from the others. -/
def twoReviews : AuditBudgetRuntime where
  declaration := {
    contractId := currentContract
    operationCoreContentDigestSha256 := hexadecimal '0'
    operationInstanceId := "operation-1"
    declaredMaxEvents := 2
    sources := [reviews] }
  accepted := by decide +kernel
  sha256 content := hexadecimal (if intentIdIn content = some "first" then 'a' else 'b')

def firstCall : AuditCall := .beginTransition "t1" 1 "token-1"

def firstScope : AuditTransitionScope := ⟨"t1", 1, "token-1"⟩

def firstActive : TransitionState := ⟨firstScope, "t1", 1, "token-1", [], false⟩

/-- The first transition is committed, and then begun again. -/
def laterCalls : List AuditCall :=
  [.reserve firstScope "review" "scheduled_audit_event_intent" ["first"] (hexadecimal '1'),
    .consume ⟨"token-1", hexadecimal '1'⟩ "first", .commit firstScope,
    .beginTransition "t1" 2 "token-2"]

def begun : RuntimeState := twoReviews.respond twoReviews.initialState firstCall

def begunAgain : RuntimeState := laterCalls.foldl twoReviews.respond begun

def secondActive : TransitionState := ⟨⟨"t1", 2, "token-2"⟩, "t1", 2, "token-2", [], true⟩

theorem reaches_begun : Reaches (Step twoReviews) twoReviews.initialState begun :=
  (Run.refl _).tail (a := firstCall) trivial rfl

theorem reaches_foldl (calls : List AuditCall) (s : RuntimeState) :
    Reaches (Step r) s (calls.foldl r.respond s) := by
  induction calls generalizing s with
  | nil => exact Run.refl s
  | cons call calls ih =>
    have hfirst : Reaches (Step r) s (r.respond s call) := (Run.refl s).tail (a := call) trivial rfl
    exact hfirst.trans (ih _)

theorem twoReviews_reserves_first : ∃ result, twoReviews.reserve begun firstScope "review"
    "scheduled_audit_event_intent" ["first"] (hexadecimal '1') = .ok result := by
  have hw : twoReviews.WellFormed begun firstActive reviews ["first"] :=
    { known := List.mem_singleton_self _
      portable := by decide
      nonempty := by decide
      bounded := by decide
      nodup := by decide
      uncommitted := nofun
      unstaged := nofun
      fresh := nofun }
  have hfree : twoReviews.CollisionFree begun firstActive reviews ["first"] := by
    rintro a ha b hb -
    exact (List.mem_singleton.mp ha).trans (List.mem_singleton.mp hb).symm
  exact ((reserves_iff_occurrence_left twoReviews begun reaches_begun).1 firstActive reviews
    ["first"] (hexadecimal '1') rfl rfl rfl hw ⟨by decide +kernel, nofun⟩ hfree).mpr
    (by decide +kernel)

/-- A transition that executes a committed one again is refused a well-formed batch, though its
source has an occurrence left. -/
theorem reexecution_refused_with_occurrence_left :
    Reaches (Step twoReviews) twoReviews.initialState begunAgain ∧ begunAgain.halt = none ∧
      begunAgain.active = some secondActive ∧
      twoReviews.WellFormed begunAgain secondActive reviews ["second"] ∧
      FreshNonce secondActive (hexadecimal '2') ∧
      twoReviews.CollisionFree begunAgain secondActive reviews ["second"] ∧
      occurrences begunAgain "review" < reviews.maxAcceptedOccurrences ∧
      ¬∃ result, twoReviews.reserve begunAgain secondActive.scope "review"
        "scheduled_audit_event_intent" ["second"] (hexadecimal '2') = .ok result := by
  refine ⟨reaches_begun.trans (reaches_foldl laterCalls begun), rfl, rfl, ?_,
    ⟨by decide +kernel, nofun⟩, ?_, by decide +kernel, ?_⟩
  · exact {
      known := List.mem_singleton_self _
      portable := by decide
      nonempty := by decide
      bounded := by decide
      nodup := by decide
      uncommitted := by decide +kernel
      unstaged := nofun
      fresh := nofun }
  · have hcontents : twoReviews.contents begunAgain secondActive reviews ["second"] =
        [twoReviews.intentContent "first" "review" "t1" 0,
          twoReviews.intentContent "second" "review" "t1" 0] := rfl
    rintro a ha b hb heq
    rw [Set.mem_setOf_eq, hcontents, List.mem_pair] at ha hb
    rcases ha with rfl | rfl <;> rcases hb with rfl | rfl
    · rfl
    · exact absurd heq (by decide +kernel)
    · exact absurd heq (by decide +kernel)
    · rfl
  · rintro ⟨result, hok⟩
    cases hok

end Reexecution

end AuditBudgetRuntime

end OperateBench.AuditBudget
