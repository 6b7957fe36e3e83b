import OperateBench.Core.AuditBudget
import OperateBench.Foundation.Fallible
import OperateBench.Foundation.Quota

/-! # Declared audits fit their budget

The aggregate of a declaration is the sum of what its sources may use, so the check against it
refuses no batch that its own source allows, and no counter comes near its limit.
-/

namespace OperateBench.AuditBudget

open Foundation

section Declarations

variable {d : AuditBudgetDeclaration} {source : AuditBudgetSource} {left right n total : ℕ}
  {name : String} {minimum maximum : ℕ}

theorem exactInt_ok (h : exactInt left name minimum maximum = .ok n) :
    n = left ∧ minimum ≤ n ∧ n ≤ maximum := by
  unfold exactInt at h
  split at h
  · rename_i hbounds
    obtain rfl := Except.ok.inj h
    exact ⟨rfl, hbounds⟩
  · cases h

theorem exactInt_of_le (hlow : minimum ≤ n) (hhigh : n ≤ maximum) :
    exactInt n name minimum maximum = .ok n := if_pos ⟨hlow, hhigh⟩

theorem overflowAs_ok {α : Type} {error : AuditError} {x : Except AuditError α} {a : α}
    (h : overflowAs error x = .ok a) : x = .ok a := by
  unfold overflowAs at h
  split at h
  · cases h
  · exact h

theorem checkedAdd_ok (h : checkedAdd left right = .ok n) : n = left + right := by
  obtain ⟨lhs, hl, hrest⟩ := bind_ok h
  obtain ⟨rhs, hr, hresult⟩ := bind_ok hrest
  obtain ⟨rfl, -⟩ := exactInt_ok hl
  obtain ⟨rfl, -⟩ := exactInt_ok hr
  exact (Except.ok.inj (unless_ok hresult).2).symm

theorem checkedMultiply_ok (h : checkedMultiply left right = .ok n) : n = left * right := by
  obtain ⟨lhs, hl, hrest⟩ := bind_ok h
  obtain ⟨rhs, hr, hresult⟩ := bind_ok hrest
  obtain ⟨rfl, -⟩ := exactInt_ok hl
  obtain ⟨rfl, -⟩ := exactInt_ok hr
  exact (Except.ok.inj (unless_ok hresult).2).symm

theorem checkedAdd_of_le (h : left + right ≤ int64Max) :
    checkedAdd left right = .ok (left + right) := by
  unfold checkedAdd
  rw [exactInt_of_le (Nat.zero_le _) (by omega), exactInt_of_le (Nat.zero_le _) (by omega)]
  exact if_neg (by omega)

theorem checkedMultiply_of_le (hl : left ≤ int64Max) (hr : right ≤ int64Max)
    (h : left * right ≤ int64Max) : checkedMultiply left right = .ok (left * right) := by
  unfold checkedMultiply
  rw [exactInt_of_le (Nat.zero_le _) hl, exactInt_of_le (Nat.zero_le _) hr]
  refine if_neg ?_
  rintro ⟨hne, hlt⟩
  have hle : right ≤ int64Max / left :=
    (Nat.le_div_iff_mul_le (Nat.pos_of_ne_zero hne)).mpr (Nat.mul_comm left right ▸ h)
  omega

/-- What an accepted source says. -/
structure AuditBudgetSource.Accepted (source : AuditBudgetSource) : Prop where
  portable : isPortable source.sourceId = true
  occurrences : source.maxAcceptedOccurrences ≤ v1Capacity
  fanout : source.maxEventsPerTransition ≤ v1Capacity

theorem AuditBudgetSource.accepted (h : source.postInit = .ok ()) : source.Accepted := by
  obtain ⟨_, hid, h⟩ := bind_ok h
  obtain ⟨occurrences, hoccurrences, h⟩ := bind_ok h
  obtain ⟨fanout, hfanout, h⟩ := bind_ok h
  obtain ⟨_, _, h⟩ := bind_ok h
  obtain ⟨rfl, -⟩ := exactInt_ok hoccurrences
  obtain ⟨rfl, -⟩ := exactInt_ok hfanout
  obtain ⟨hcapacity, -⟩ := unless_ok h
  unfold portableId at hid
  split at hid
  · rename_i hportable
    exact ⟨hportable, by omega, by omega⟩
  · cases hid

def AuditBudgetSource.most (source : AuditBudgetSource) : ℕ :=
  source.maxAcceptedOccurrences * source.maxEventsPerTransition

theorem addSource_ok (h : addSource left source = .ok n) :
    source.Accepted ∧ n = left + source.most := by
  obtain ⟨_, hsource, h⟩ := bind_ok h
  obtain ⟨total, htotal, h⟩ := bind_ok h
  obtain ⟨product, hproduct, hsum⟩ := bind_ok (overflowAs_ok htotal)
  obtain rfl := checkedMultiply_ok hproduct
  obtain rfl := checkedAdd_ok hsum
  exact ⟨AuditBudgetSource.accepted hsource, (Except.ok.inj (unless_ok h).2).symm⟩

theorem addSources_ok {sources : List AuditBudgetSource} (h : sources.foldlM addSource left = .ok n) :
    (∀ source ∈ sources, source.Accepted) ∧
      n = left + (sources.map AuditBudgetSource.most).sum := by
  induction sources generalizing left with
  | nil =>
    obtain rfl := pure_ok h
    exact ⟨fun _ hm => absurd hm List.not_mem_nil, rfl⟩
  | cons source sources ih =>
    rw [List.foldlM_cons] at h
    obtain ⟨total, htotal, h⟩ := bind_ok h
    obtain ⟨hsource, rfl⟩ := addSource_ok htotal
    obtain ⟨hsources, rfl⟩ := ih h
    refine ⟨List.forall_mem_cons.mpr ⟨hsource, hsources⟩, ?_⟩
    rw [List.map_cons, List.sum_cons, Nat.add_assoc]

/-- What an accepted declaration says. -/
structure AuditBudgetDeclaration.Accepted (d : AuditBudgetDeclaration) : Prop where
  nodup : (d.sources.map AuditBudgetSource.sourceId).Nodup
  sources : ∀ source ∈ d.sources, source.Accepted
  total : (d.sources.map AuditBudgetSource.most).sum = d.declaredMaxEvents
  capacity : d.declaredMaxEvents ≤ v1Capacity

theorem AuditBudgetDeclaration.accepted (h : d.postInit = .ok ()) : d.Accepted := by
  unfold AuditBudgetDeclaration.postInit at h
  obtain ⟨-, h⟩ := unless_ok h
  obtain ⟨-, h⟩ := unless_ok h
  obtain ⟨-, h⟩ := unless_ok h
  obtain ⟨declared, hdeclared, h⟩ := bind_ok h
  obtain ⟨rfl, -, hcapacity⟩ := exactInt_ok hdeclared
  obtain ⟨-, h⟩ := unless_ok h
  obtain ⟨hids, h⟩ := unless_ok h
  obtain ⟨total, htotal, h⟩ := bind_ok h
  obtain ⟨heq, -⟩ := unless_ok h
  obtain ⟨hsources, hsum⟩ := addSources_ok htotal
  exact ⟨(not_not.mp hids).2, hsources, by omega, hcapacity⟩

end Declarations

namespace AuditBudgetRuntime

variable {r : AuditBudgetRuntime} {s : RuntimeState} {active : TransitionState}
  {source : AuditBudgetSource} {batch : BatchState} {batches : List BatchState}
  {intents : List String} {nonce sourceId : String}

section Quotas

theorem find?_source (hm : source ∈ r.declaration.sources) :
    (r.declaration.sources.find? fun other => other.sourceId = source.sourceId) = some source := by
  have hnodup := (r.declaration.accepted r.accepted).nodup
  generalize r.declaration.sources = sources at hm hnodup
  induction sources with
  | nil => cases hm
  | cons first sources ih =>
    obtain ⟨hfirst, hnodup⟩ := List.nodup_cons.mp hnodup
    rw [List.find?_cons]
    rcases List.mem_cons.mp hm with rfl | hm
    · rw [decide_eq_true rfl]
    · have hne : first.sourceId ≠ source.sourceId := fun heq =>
        hfirst (heq ▸ List.mem_map_of_mem hm)
      rw [decide_eq_false hne]
      exact ih hm hnodup

/-- What the declaration allows each source. -/
def quota (r : AuditBudgetRuntime) : Quota String where
  keys := r.declaration.sources.map AuditBudgetSource.sourceId
  nodup := (r.declaration.accepted r.accepted).nodup
  uses id := (r.declaration.sources.find? fun source => source.sourceId = id).elim 0
    AuditBudgetSource.maxAcceptedOccurrences
  units id := (r.declaration.sources.find? fun source => source.sourceId = id).elim 0
    AuditBudgetSource.maxEventsPerTransition

theorem quota_uses (hm : source ∈ r.declaration.sources) :
    r.quota.uses source.sourceId = source.maxAcceptedOccurrences := by
  simp only [quota, find?_source hm]
  rfl

theorem quota_units (hm : source ∈ r.declaration.sources) :
    r.quota.units source.sourceId = source.maxEventsPerTransition := by
  simp only [quota, find?_source hm]
  rfl

theorem quota_total (r : AuditBudgetRuntime) :
    r.quota.total = r.declaration.declaredMaxEvents := by
  rw [← (r.declaration.accepted r.accepted).total, Quota.total, quota, List.map_map]
  refine congrArg List.sum (List.map_congr_left fun source hm => ?_)
  simp only [Function.comp_apply, find?_source hm]
  rfl

/-- What the committed batches used. -/
def usage (s : RuntimeState) : Usage String where
  used id := (s.sourceOccurrences.get? id).getD 0
  spent id := (s.sourceCounts.get? id).getD 0

/-- What the commit of a batch charges. -/
def chargeOf (batch : BatchState) : String × ℕ :=
  (batch.source.sourceId, batch.intents.length)

end Quotas

section Staging

/-- What is true of a staged batch on its own. -/
structure Staged (r : AuditBudgetRuntime) (active : TransitionState) (batch : BatchState) :
    Prop where
  source : batch.source ∈ r.declaration.sources
  nonempty : 0 < batch.intents.length
  bounded : batch.intents.length ≤ batch.source.maxEventsPerTransition
  digests : batch.digests =
    r.batchDigests batch.intents batch.source.sourceId active.transitionId

theorem staged_of_valid {S I D : List String} (h : r.batchValid s active batch S I D = true) :
    Staged r active batch ∧ batch.source.sourceId ∉ S := by
  simp only [batchValid, Bool.and_eq_true, decide_eq_true_eq] at h
  obtain ⟨⟨⟨⟨⟨⟨⟨⟨⟨⟨hfind, hnew⟩, -⟩, -⟩, hnonempty, hbounded⟩, -⟩, -⟩, hdigests⟩, -⟩, -⟩, -⟩ := h
  exact ⟨⟨List.mem_of_find?_eq_some hfind, hnonempty, hbounded, hdigests⟩, hnew⟩

theorem staged_of_batchesValid {S I D : List String}
    (h : r.batchesValid s active batches S I D = true) :
    (∀ batch ∈ batches, Staged r active batch ∧ batch.source.sourceId ∉ S) ∧
      (batches.map fun batch => batch.source.sourceId).Nodup := by
  induction batches generalizing S I D with
  | nil => exact ⟨fun _ hm => absurd hm List.not_mem_nil, List.nodup_nil⟩
  | cons first batches ih =>
    rw [batchesValid, Bool.and_eq_true] at h
    obtain ⟨hfirst, hrest⟩ := h
    obtain ⟨hall, hnodup⟩ := ih hrest
    refine ⟨List.forall_mem_cons.mpr ⟨staged_of_valid hfirst, fun batch hm => ?_⟩, ?_⟩
    · exact ⟨(hall batch hm).1, fun hmem => (hall batch hm).2 (List.mem_append_left _ hmem)⟩
    · rw [List.map_cons, List.nodup_cons]
      refine ⟨fun hmem => ?_, hnodup⟩
      obtain ⟨batch, hm, heq⟩ := List.mem_map.mp hmem
      exact (hall batch hm).2 (heq ▸ List.mem_append_right _ (List.mem_singleton_self _))

theorem batchesValid_append {S I D : List String} :
    r.batchesValid s active (batches ++ [batch]) S I D =
      (r.batchesValid s active batches S I D &&
        r.batchValid s active batch (S ++ batches.map fun batch => batch.source.sourceId)
          (I ++ batches.flatMap BatchState.intents) (D ++ batches.flatMap BatchState.digests)) := by
  induction batches generalizing S I D with
  | nil => simp [batchesValid]
  | cons first batches ih =>
    rw [List.cons_append, batchesValid, batchesValid, ih, Bool.and_assoc]
    simp only [List.map_cons, List.flatMap_cons, List.append_assoc, List.singleton_append]

/-- The check reads the committed names and digests, and which transition it is. -/
theorem batchesValid_congr {s' : RuntimeState} {active' : TransitionState} {S I D : List String}
    (hids : s'.committedIds = s.committedIds) (hdigests : s'.committedDigests = s.committedDigests)
    (hidentity : active'.identity = active.identity)
    (htransition : active'.transitionId = active.transitionId) :
    r.batchesValid s' active' batches S I D = r.batchesValid s active batches S I D := by
  induction batches generalizing S I D with
  | nil => rfl
  | cons first batches ih =>
    rw [batchesValid, batchesValid, ih]
    simp only [batchValid, hids, hdigests, hidentity, htransition]

/-- A batch that takes its next intent stays valid, and so do those behind it. -/
theorem batchesValid_set {S I D : List String} {index : ℕ}
    (h : r.batchesValid s active batches S I D = true) (hbatch : batches[index]? = some batch)
    (hnext : batch.nextIndex < batch.intents.length) :
    r.batchesValid s active
      (batches.set index { batch with nextIndex := batch.nextIndex + 1 }) S I D = true := by
  induction batches generalizing S I D index with
  | nil => cases hbatch
  | cons first batches ih =>
    rw [batchesValid, Bool.and_eq_true] at h
    cases index with
    | zero =>
      obtain rfl := Option.some.inj hbatch
      rw [List.set_cons_zero, batchesValid, Bool.and_eq_true]
      refine ⟨?_, h.2⟩
      have hfirst := h.1
      simp only [batchValid, Bool.and_eq_true, decide_eq_true_eq] at hfirst ⊢
      obtain ⟨⟨⟨hshape, -⟩, hids⟩, hdigests⟩ := hfirst
      exact ⟨⟨⟨hshape, hnext⟩, hids⟩, hdigests⟩
    | succ index =>
      rw [List.set_cons_succ, batchesValid, Bool.and_eq_true]
      exact ⟨h.1, ih h.2 hbatch⟩

end Staging

section Accounts

/-- The digests of the row are taken of this. -/
def rowContent (r : AuditBudgetRuntime) (row : CommittedAuditIntent) : Value :=
  r.intentContent row.intentId row.sourceId row.transitionId row.batchOrdinal

/-- The open transition may be committed as it stands. -/
structure Open (r : AuditBudgetRuntime) (s : RuntimeState) (active : TransitionState) : Prop where
  valid : r.activeValid s active = true
  nonces : (active.batches.map BatchState.nonce).Nodup
  room : ∀ batch ∈ active.batches,
    (usage s).used batch.source.sourceId < batch.source.maxAcceptedOccurrences

/-- The counts agree with each other, with the rows and with the declaration. -/
structure Sound (r : AuditBudgetRuntime) (s : RuntimeState) : Prop where
  within : r.quota.Within (usage s)
  counted : s.committedCount = r.quota.spent (usage s)
  listed : ∀ source ∈ r.declaration.sources, s.sourceCounts.contains source.sourceId = true ∧
    s.sourceOccurrences.contains source.sourceId = true
  opened : ∀ active, s.active = some active → r.Open s active
  ids : ∀ id, s.committedIds.contains id = true → ∃ row ∈ s.committed, row.intentId = id
  digests : ∀ digest, s.committedDigests.contains digest = true →
    ∃ row ∈ s.committed, digest = r.sha256 (r.rowContent row)
  halts : ∀ record, s.halt = some record →
    record.refusalClass ≠ .checkedSignedInt64ArithmeticOverflow

/-- The charge of a staged batch is one that its source still allows. -/
theorem Open.allows (h : r.Open s active) (hm : batch ∈ active.batches) :
    r.quota.Allows (usage s) (chargeOf batch) := by
  obtain ⟨hstaged, -⟩ := (staged_of_batchesValid h.valid).1 batch hm
  refine ⟨List.mem_map_of_mem hstaged.source, ?_, ?_⟩
  · rw [chargeOf, quota_uses hstaged.source]
    exact h.room batch hm
  · rw [chargeOf, quota_units hstaged.source]
    exact hstaged.bounded

theorem Open.charges_nodup (h : r.Open s active) :
    ((active.batches.map chargeOf).map Prod.fst).Nodup := by
  rw [List.map_map]
  exact (staged_of_batchesValid h.valid).2

theorem stagedCount_eq : stagedCount active = ((active.batches.map chargeOf).map Prod.snd).sum := by
  rw [List.map_map]
  rfl

/-- What is committed, what is staged and one more batch of a source with an occurrence left are
within the declared maximum together. -/
theorem Sound.aggregate_le (h : r.Sound s) (ho : s.active = some active)
    (hm : source ∈ r.declaration.sources)
    (hunstaged : ∀ batch ∈ active.batches, batch.source.sourceId ≠ source.sourceId)
    (hleft : (usage s).used source.sourceId < source.maxAcceptedOccurrences) {requested : ℕ}
    (hbounded : requested ≤ source.maxEventsPerTransition) :
    s.committedCount + (stagedCount active + requested) ≤ r.declaration.declaredMaxEvents := by
  have hopen := h.opened active ho
  have hnodup : (((source.sourceId, requested) :: active.batches.map chargeOf).map
      Prod.fst).Nodup := by
    refine List.nodup_cons.mpr ⟨fun hmem => ?_, hopen.charges_nodup⟩
    rw [List.map_map] at hmem
    obtain ⟨batch, hbatch, heq⟩ := List.mem_map.mp hmem
    exact hunstaged batch hbatch heq
  have hallows : ∀ c ∈ (source.sourceId, requested) :: active.batches.map chargeOf,
      r.quota.Allows (usage s) c := by
    refine List.forall_mem_cons.mpr ⟨⟨List.mem_map_of_mem hm, ?_, ?_⟩, fun c hc => ?_⟩
    · rw [quota_uses hm]
      exact hleft
    · rw [quota_units hm]
      exact hbounded
    · obtain ⟨batch, hbatch, rfl⟩ := List.mem_map.mp hc
      exact hopen.allows hbatch
  have hroom := h.within.room hnodup hallows
  rw [List.map_cons, List.sum_cons, quota_total, ← h.counted, ← stagedCount_eq] at hroom
  omega

theorem Sound.staged_le (h : r.Sound s) (ho : s.active = some active) :
    s.committedCount + stagedCount active ≤ r.declaration.declaredMaxEvents := by
  have hopen := h.opened active ho
  have hroom := h.within.room hopen.charges_nodup fun c hc => by
    obtain ⟨batch, hbatch, rfl⟩ := List.mem_map.mp hc
    exact hopen.allows hbatch
  rwa [quota_total, ← h.counted, ← stagedCount_eq] at hroom

theorem countOf_of_contains {counts : Dict String ℕ} (h : counts.contains sourceId = true) :
    countOf counts sourceId = .ok ((counts.get? sourceId).getD 0) := by
  obtain ⟨count, hcount⟩ := Dict.contains_iff.mp h
  rw [countOf, hcount]
  rfl

/-- No addition or multiplication comes near the limit of the counters. -/
theorem Sound.attempt (h : r.Sound s) (ho : s.active = some active)
    (hm : source ∈ r.declaration.sources) {requested : ℕ}
    (hbounded : requested ≤ source.maxEventsPerTransition) :
    attempt s active source requested = .ok (s.committedCount + (stagedCount active + requested),
      source.most, (usage s).spent source.sourceId + requested) := by
  have haccepted := r.declaration.accepted r.accepted
  have hsource := haccepted.sources source hm
  have hoccurrences := hsource.occurrences
  have hfanout := hsource.fanout
  have hstaged := h.staged_le ho
  have hcapacity := haccepted.capacity
  have hmost : source.most ≤ v1Capacity * v1Capacity := Nat.mul_le_mul hoccurrences hfanout
  have hspent : (usage s).spent source.sourceId ≤ source.most := by
    have hk : source.sourceId ∈ r.quota.keys := List.mem_map_of_mem hm
    have huses := h.within.uses _ hk
    have hunits := h.within.units _ hk
    rw [quota_uses hm] at huses
    rw [quota_units hm] at hunits
    exact Nat.le_trans hunits (Nat.mul_le_mul_right _ huses)
  unfold v1Capacity at hoccurrences hfanout hcapacity hmost
  unfold AuditBudgetRuntime.attempt
  rw [checkedAdd_of_le (by unfold int64Max; omega), ok_bind,
    checkedAdd_of_le (by unfold int64Max; omega), ok_bind,
    checkedMultiply_of_le (by unfold int64Max; omega) (by unfold int64Max; omega)
      (Nat.le_trans hmost (by unfold int64Max; omega)), ok_bind,
    countOf_of_contains (h.listed source hm).1, ok_bind]
  have hsum : checkedAdd ((usage s).spent source.sourceId) requested = .ok _ :=
    checkedAdd_of_le (by unfold int64Max; omega)
  rw [show (s.sourceCounts.get? source.sourceId).getD 0 = (usage s).spent source.sourceId from rfl,
    hsum]
  rfl

end Accounts

end AuditBudgetRuntime

end OperateBench.AuditBudget
