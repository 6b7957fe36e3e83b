import OperateBench.Core.AuditSteps

/-! # Runs of the audit runtime

A commit charges each staged batch to its source once, so whatever the calls, the books are sound
in every state that is reached.
-/

namespace OperateBench.AuditBudget

open Foundation

namespace AuditBudgetRuntime

variable {r : AuditBudgetRuntime} {s s' : RuntimeState} {active : TransitionState}

section Commits

variable {batches : List BatchState}

theorem addCounts_ok {units : BatchState → ℕ} {counts counts' : Dict String ℕ}
    (h : addCounts units counts batches = .ok counts') :
    (∀ id, counts.contains id = true → counts'.contains id = true) ∧
      (fun id => (counts'.get? id).getD 0) =
        batches.foldl (fun f batch => Function.update f batch.source.sourceId
          (f batch.source.sourceId + units batch)) fun id => (counts.get? id).getD 0 := by
  induction batches generalizing counts with
  | nil =>
    obtain rfl := pure_ok h
    exact ⟨fun _ hcontains => hcontains, rfl⟩
  | cons batch batches ih =>
    rw [addCounts, List.foldlM_cons] at h
    obtain ⟨next, hnext, h⟩ := bind_ok h
    obtain ⟨count, hcount, hset⟩ := bind_ok hnext
    obtain rfl := pure_ok hset
    obtain ⟨hgrows, hfold⟩ := ih h
    have hget : counts.get? batch.source.sourceId = some count := by
      unfold countOf at hcount
      split at hcount
      · cases hcount
      · rename_i held hheld
        rw [hheld, Except.ok.inj hcount]
    constructor
    · intro id hcontains
      refine hgrows id ?_
      rw [Dict.contains, Dict.get?_set]
      split
      · rfl
      · exact hcontains
    · rw [hfold, List.foldl_cons]
      congr 1
      funext id
      rw [Dict.get?_set]
      by_cases heq : batch.source.sourceId = id
      · subst heq
        simp only [if_true, Function.update_self, hget, Option.getD_some]
      · rw [if_neg heq, Function.update_of_ne (Ne.symm heq)]

theorem contains_foldl_row {f : CommittedAuditIntent → String} {d : Dict String Bool}
    {rows : List CommittedAuditIntent} {k : String}
    (h : (rows.foldl (fun d row => d.set (f row) true) d).contains k = true) :
    (∃ row ∈ rows, f row = k) ∨ d.contains k = true := by
  have hfold : rows.foldl (fun d row => d.set (f row) true) d =
      (rows.map fun row => (f row, true)).foldl (fun d e => d.set e.1 e.2) d := by
    rw [List.foldl_map]
  rw [hfold, Dict.contains_foldl_set, List.map_map] at h
  exact h.imp_left List.mem_map.mp

theorem length_commitRows (start : ℕ) :
    (r.commitRows active start).length = stagedCount active := by
  simp only [commitRows, stagedCount, List.length_map, List.length_zipIdx, List.length_flatMap]

theorem commitRows_digest {start : ℕ} {row : CommittedAuditIntent}
    (hm : row ∈ r.commitRows active start) :
    row.intentDigestSha256 = r.sha256 (r.rowContent row) := by
  obtain ⟨e, -, rfl⟩ := List.mem_map.mp hm
  rfl

theorem commit_ok {scope : AuditTransitionScope} {u : Unit}
    (h : r.commit s scope = .ok (u, s')) : s' = { s with active := none } ∨
      ∃ active sourceCounts sourceOccurrences, s.active = some active ∧
        addCounts (fun batch => batch.intents.length) s.sourceCounts active.batches =
          .ok sourceCounts ∧
        addCounts (fun _ => 1) s.sourceOccurrences active.batches = .ok sourceOccurrences ∧
        s' = { s with
          committed := s.committed ++ r.commitRows active s.committedCount
          committedCount := s.committedCount + (r.commitRows active s.committedCount).length
          committedIds := (r.commitRows active s.committedCount).foldl
            (fun ids row => ids.set row.intentId true) s.committedIds
          committedDigests := (r.commitRows active s.committedCount).foldl
            (fun digests row => digests.set row.intentDigestSha256 true) s.committedDigests
          committedTransitions := s.committedTransitions.set active.transitionId true
          sourceCounts, sourceOccurrences, active := none } := by
  obtain ⟨_, -, h⟩ := bind_ok h
  obtain ⟨active, hactive, h⟩ := bind_ok h
  split at h
  · exact absurd h stop_not_ok
  split at h
  · cases h
  split at h
  · obtain ⟨-, rfl⟩ := Prod.mk.inj (Except.ok.inj h)
    exact Or.inl rfl
  split at h
  · exact absurd h stop_not_ok
  · dsimp only at h
    obtain ⟨counts, hcounts, h⟩ := bind_ok h
    obtain ⟨occurrences, hoccurrences, h⟩ := bind_ok h
    obtain ⟨-, rfl⟩ := Prod.mk.inj (Except.ok.inj h)
    exact Or.inr ⟨active, counts, occurrences, requireScope_ok hactive, lift_ok hcounts,
      lift_ok hoccurrences, rfl⟩

/-- A commit charges each staged batch to its source. -/
theorem usage_commit
    (hcounts : addCounts (fun batch => batch.intents.length) s.sourceCounts batches =
      .ok s'.sourceCounts)
    (hoccurrences : addCounts (fun _ => 1) s.sourceOccurrences batches =
      .ok s'.sourceOccurrences) :
    usage s' = (usage s).chargeAll (batches.map chargeOf) := by
  have hu : (usage s').used = ((usage s).chargeAll (batches.map chargeOf)).used := by
    rw [Usage.chargeAll_used, List.foldl_map]
    exact (addCounts_ok hoccurrences).2
  have hs : (usage s').spent = ((usage s).chargeAll (batches.map chargeOf)).spent := by
    rw [Usage.chargeAll_spent, List.foldl_map]
    exact (addCounts_ok hcounts).2
  cases hc : (usage s).chargeAll (batches.map chargeOf)
  rw [hc] at hu hs
  subst hu hs
  rfl

theorem Sound.commit (h : r.Sound s) (scope : AuditTransitionScope) :
    r.Sound (AuditBudgetRuntime.after s (r.commit s scope)) := by
  refine h.after ?_ fun _ s' hok => ?_
  · refine stops_bind stops_raiseIfHalted fun _ _ => ?_
    refine stops_bind (stops_requireScope allowed_inRange) fun _ _ => ?_
    split
    · exact stops_violation allowed_inRange rfl
    split
    · exact stops_raise _
    split
    · exact stops_ok _
    split
    · exact stops_violation allowed_inRange rfl
    · refine stops_bind (stops_lift _) fun _ _ => ?_
      exact stops_bind (stops_lift _) fun _ _ => stops_ok _
  obtain rfl | ⟨active, counts, occurrences, ho, hcounts, hoccurrences, hnext⟩ := commit_ok hok
  · exact h.reopen fun _ => nofun
  have hopen := h.opened active ho
  have husage : usage s' = (usage s).chargeAll (active.batches.map chargeOf) :=
    usage_commit (hnext ▸ hcounts) (hnext ▸ hoccurrences)
  obtain ⟨hwithin, hspent⟩ := h.within.chargeAll hopen.charges_nodup fun c hc => by
    obtain ⟨batch, hbatch, rfl⟩ := List.mem_map.mp hc
    exact hopen.allows hbatch
  rw [← husage] at hwithin hspent
  subst hnext
  constructor
  · exact hwithin
  · rw [← stagedCount_eq, ← h.counted] at hspent
    exact (congrArg _ (length_commitRows _)).trans hspent.symm
  · intro source hm
    obtain ⟨hcount, hoccurrence⟩ := h.listed source hm
    exact ⟨(addCounts_ok hcounts).1 _ hcount, (addCounts_ok hoccurrences).1 _ hoccurrence⟩
  · exact fun _ => nofun
  · intro id hid
    rcases contains_foldl_row hid with ⟨row, hrow, rfl⟩ | hid
    · exact ⟨row, List.mem_append_right _ hrow, rfl⟩
    · obtain ⟨row, hrow, heq⟩ := h.ids id hid
      exact ⟨row, List.mem_append_left _ hrow, heq⟩
  · intro digest hdigest
    rcases contains_foldl_row hdigest with ⟨row, hrow, rfl⟩ | hdigest
    · exact ⟨row, List.mem_append_right _ hrow, commitRows_digest hrow⟩
    · obtain ⟨row, hrow, heq⟩ := h.digests digest hdigest
      exact ⟨row, List.mem_append_left _ hrow, heq⟩
  · exact h.halts

end Commits

section Runs

theorem getD_ofList_zero (ids : List String) (id : String) :
    ((Dict.ofList (ids.map fun id => (id, 0))).get? id).getD 0 = 0 := by
  cases hget : (Dict.ofList (ids.map fun id => (id, 0))).get? id with
  | none => rfl
  | some n =>
    have hall : ∀ k n, (Dict.ofList (ids.map fun id => (id, 0))).get? k = some n → n = 0 := by
      refine List.foldlRecOn (motive := fun d : Dict String ℕ => ∀ k n, d.get? k = some n → n = 0)
        _ _ (fun _ _ => nofun) fun d hd e he k n hn => ?_
      obtain ⟨id, -, rfl⟩ := List.mem_map.mp he
      rw [Dict.get?_set] at hn
      split at hn
      · exact (Option.some.inj hn).symm
      · exact hd k n hn
    exact hall id n hget

theorem usage_initialState (id : String) :
    (usage r.initialState).used id = 0 ∧ (usage r.initialState).spent id = 0 := by
  have hzero := getD_ofList_zero (r.declaration.sources.map AuditBudgetSource.sourceId) id
  rw [List.map_map] at hzero
  exact ⟨hzero, hzero⟩

theorem Sound.init : r.Sound r.initialState := by
  have hlisted : ∀ source ∈ r.declaration.sources,
      (Dict.ofList (r.declaration.sources.map fun source => (source.sourceId, 0))).contains
        source.sourceId = true := by
    intro source hm
    rw [Dict.contains_ofList, List.map_map]
    exact List.mem_map_of_mem hm
  constructor
  · constructor
    · intro id _
      rw [(usage_initialState id).1]
      exact Nat.zero_le _
    · intro id _
      rw [(usage_initialState id).2]
      exact Nat.zero_le _
  · refine (List.sum_eq_zero fun n hn => ?_).symm
    obtain ⟨id, -, rfl⟩ := List.mem_map.mp hn
    exact (usage_initialState id).2
  · exact fun source hm => ⟨hlisted source hm, hlisted source hm⟩
  · exact fun _ => nofun
  · exact fun _ => nofun
  · exact fun _ => nofun
  · exact fun _ => nofun

theorem Sound.respond (h : r.Sound s) (call : AuditCall) : r.Sound (r.respond s call) := by
  cases call with
  | beginTransition transitionId invocationIndex identity =>
    exact h.beginTransition transitionId invocationIndex identity
  | reserve scope sourceId countedKind intentIds nonce => exact h.reserve scope countedKind
  | consume reservation intentId => exact h.consume reservation intentId
  | consumeFromScope scope reservation intentId =>
    exact h.consumeFromScope scope reservation intentId
  | commit scope => exact h.commit scope
  | abort scope => exact h.abort scope
  | abortIfActive scope => exact h.abortIfActive scope
  | markFinality => exact h.markFinality

theorem Sound.reached (h : Reaches (Step r) r.initialState s) : r.Sound s :=
  h.invariant Sound.init fun _ call _ hs _ hstep => hstep ▸ hs.respond call

end Runs

end AuditBudgetRuntime

end OperateBench.AuditBudget
