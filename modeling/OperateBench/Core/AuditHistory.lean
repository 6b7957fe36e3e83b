import Mathlib.Data.List.Induction
import OperateBench.Core.AuditRuns

/-! # What the audit runtime publishes

An account of the calls that is kept without the runtime: what was reserved in the open transition,
what was taken of it, and what the committed transitions had taken. The committed history is what
the account says.
-/

namespace OperateBench.AuditBudget

open Foundation

section Accounts

/-- What one reservation asked for, and what has been taken of it. -/
structure Item where
  nonce : String
  sourceId : String
  reserved : List String
  taken : List String

/-- A committed transition: the intents of each source, in the order they were taken. -/
structure Publication where
  transitionId : String
  batches : List (String × List String)

structure Account where
  published : List Publication
  draft : Option (AuditTransitionScope × List Item)

namespace Publication

/-- Transition, source, intent and its place in the batch. -/
def entries (p : Publication) : List (String × String × String × ℕ) :=
  p.batches.flatMap fun batch =>
    batch.2.zipIdx.map fun e => (p.transitionId, batch.1, e.1, e.2)

def charges (p : Publication) : List (String × ℕ) :=
  p.batches.map fun batch => (batch.1, batch.2.length)

end Publication

namespace Account

def empty : Account := ⟨[], none⟩

def edit (a : Account) (f : List Item → List Item) : Account :=
  { a with draft := a.draft.map fun draft => (draft.1, f draft.2) }

def drop (a : Account) : Account := { a with draft := none }

/-- The open transition is published with what was taken in it, where something was reserved. -/
def publish (a : Account) : Account :=
  match a.draft with
  | none => a
  | some (scope, items) =>
    { published :=
        if items.isEmpty then a.published
        else a.published ++
          [⟨scope.transitionId, items.map fun item => (item.sourceId, item.taken)⟩]
      draft := none }

/-- The account of a call: an accepted one is entered, one that stopped the runtime drops what was
open. -/
def told {α : Type} (a entered : Account) : Except Refusal α → Account
  | .ok _ => entered
  | .error (.raised _) => a
  | .error (.halted _) => a.drop

def take (a : Account) (reservation : AuditReservation) (intentId : String) : Account :=
  a.edit fun items => items.map fun item =>
    if item.nonce = reservation.nonce then { item with taken := item.taken ++ [intentId] }
    else item

end Account

end Accounts

namespace AuditBudgetRuntime

variable (r : AuditBudgetRuntime) (s : RuntimeState)

section Following

def account (a : Account) : AuditCall → Account
  | .beginTransition transitionId invocationIndex identity =>
    a.told { a with draft := some (⟨transitionId, invocationIndex, identity⟩, []) }
      (r.beginTransition s transitionId invocationIndex identity)
  | .reserve scope sourceId countedKind intentIds nonce =>
    a.told (a.edit (· ++ [⟨nonce, sourceId, intentIds, []⟩]))
      (r.reserve s scope sourceId countedKind intentIds nonce)
  | .consume reservation intentId =>
    a.told (a.take reservation intentId) (r.consume s reservation intentId)
  | .consumeFromScope scope reservation intentId =>
    a.told (a.take reservation intentId) (r.consumeFromScope s scope reservation intentId)
  | .commit scope => a.told a.publish (r.commit s scope)
  | .abort scope => a.told a.drop (r.abort s scope)
  | .abortIfActive scope =>
    a.told (if a.draft.any fun draft => draft.1 = scope then a.drop else a)
      (abortIfActive s scope)
  | .markFinality => a.told a (r.markFinality s)

/-- A run of calls, with the account of it. -/
def follow (calls : List AuditCall) : RuntimeState × Account :=
  calls.foldl (fun e call => (r.respond e.1 call, r.account e.1 e.2 call))
    (r.initialState, .empty)

end Following

section Accepted

variable {r s} {s' : RuntimeState} {active : TransitionState} {source : AuditBudgetSource}
  {scope : AuditTransitionScope} {reservation : AuditReservation} {intents : List String}
  {sourceId countedKind intentId nonce : String}

theorem raiseIfHalted_ok {u : Unit} (h : raiseIfHalted s = .ok u) : s.halt = none := by
  unfold raiseIfHalted at h
  cases hhalt : s.halt with
  | none => rfl
  | some record =>
    rw [hhalt] at h
    cases h

theorem halted_respond (h : s.halt.isSome) (call : AuditCall) : r.respond s call = s := by
  obtain ⟨record, hrecord⟩ := Option.isSome_iff_exists.mp h
  have hraise : raiseIfHalted s = .error (.halted record) := by rw [raiseIfHalted, hrecord]
  cases call with
  | beginTransition => simp [respond, beginTransition, hraise, after, hrecord, bind, Except.bind]
  | reserve => simp [respond, reserve, hraise, after, hrecord, bind, Except.bind]
  | consume => simp [respond, consume, hraise, after, hrecord, bind, Except.bind]
  | consumeFromScope => simp [respond, consumeFromScope, hraise, after, hrecord, bind, Except.bind]
  | commit => simp [respond, commit, hraise, after, hrecord, bind, Except.bind]
  | abort => simp [respond, abort, hraise, after, hrecord, bind, Except.bind]
  | abortIfActive => simp [respond, abortIfActive, after, hrecord]
  | markFinality => simp [respond, markFinality, hraise, after, hrecord, bind, Except.bind]

theorem beginTransition_accepted {transitionId identity : String} {invocationIndex : ℕ}
    (h : r.beginTransition s transitionId invocationIndex identity = .ok (scope, s')) :
    s.final = false ∧ s.halt = none ∧
      s' = { s with active := some ⟨⟨transitionId, invocationIndex, identity⟩, transitionId,
        invocationIndex, identity, [], s.committedTransitions.contains transitionId⟩ } := by
  obtain ⟨_, hhalt, h⟩ := bind_ok h
  obtain ⟨_, -, h⟩ := bind_ok h
  obtain ⟨_, -, h⟩ := bind_ok h
  split at h
  · exact absurd h stop_not_ok
  · rename_i hfinal
    split at h
    · exact absurd h lifecycleOrProgrammer_not_ok
    · obtain ⟨-, rfl⟩ := Prod.mk.inj (Except.ok.inj h)
      exact ⟨Bool.eq_false_iff.mpr hfinal, raiseIfHalted_ok hhalt, rfl⟩

/-- The transition with one more batch. -/
def staging (r : AuditBudgetRuntime) (active : TransitionState) (source : AuditBudgetSource)
    (intents : List String) (nonce : String) : TransitionState :=
  { active with batches := active.batches ++ [r.newBatch active source intents nonce] }

theorem stage_accepted (h : r.stage s active source intents nonce = .ok (reservation, s')) :
    (r.newBatch active source intents nonce).digests.Nodup ∧
      ((r.staging active source intents nonce).batches.map BatchState.nonce).Nodup ∧
      r.activeValid s (r.staging active source intents nonce) = true ∧
      s' = { s with active := some (r.staging active source intents nonce) } := by
  unfold stage at h
  dsimp only at h
  split at h
  · exact absurd h stop_not_ok
  · rename_i hdigests
    split at h
    · cases h
    split at h
    · cases h
    split at h
    · cases h
    · rename_i hnonces hvalid
      obtain ⟨-, rfl⟩ := Prod.mk.inj (Except.ok.inj h)
      rw [Bool.not_eq_true, Bool.not_eq_false'] at hvalid
      exact ⟨not_not.mp (not_or.mp hdigests).1, not_not.mp hnonces, hvalid, rfl⟩

theorem reserve_accepted
    (h : r.reserve s scope sourceId countedKind intents nonce = .ok (reservation, s')) :
    ∃ active source, s.active = some active ∧ active.reexecution = false ∧
      source.sourceId = sourceId ∧
        r.stage s active source intents nonce = .ok (reservation, s') := by
  have hok := h
  obtain ⟨_, -, h⟩ := bind_ok h
  obtain ⟨active, hactive, h⟩ := bind_ok h
  obtain ⟨_, -, h⟩ := bind_ok h
  obtain ⟨_, -, h⟩ := bind_ok h
  obtain ⟨_, -, h⟩ := bind_ok h
  dsimp only at h
  split at h
  · exact absurd h stop_not_ok
  · rename_i hfirst
    obtain ⟨held, source, hheld, hid, hstage⟩ := reserve_ok hok
    obtain rfl := Option.some.inj ((requireScope_ok hactive).symm.trans hheld)
    exact ⟨active, source, hheld, Bool.eq_false_iff.mpr hfirst, hid, (reserveKnown_ok hstage).2⟩

/-- The transition after a batch took its next intent. -/
def consuming (active : TransitionState) (index : ℕ) (batch : BatchState) : TransitionState :=
  { active with
    batches := active.batches.set index { batch with nextIndex := batch.nextIndex + 1 } }

theorem consumeLocked_accepted {u : Unit}
    (h : r.consumeLocked s active reservation intentId = .ok (u, s')) :
    ∃ index batch, active.batches[index]? = some batch ∧ batch.nonce = reservation.nonce ∧
      batch.intents[batch.nextIndex]? = some intentId ∧
      s' = { s with active := some (consuming active index batch) } := by
  obtain ⟨_, -, h⟩ := bind_ok h
  split at h
  · exact absurd h lifecycleOrProgrammer_not_ok
  · rename_i index hindex
    split at h
    · cases h
    · rename_i batch hbatch
      split at h
      · exact absurd h stop_not_ok
      · rename_i hnext
        obtain ⟨-, rfl⟩ := Prod.mk.inj (Except.ok.inj h)
        obtain ⟨hlt, hfound, -⟩ := List.findIdx?_eq_some_iff_getElem.mp hindex
        obtain ⟨_, rfl⟩ := List.getElem?_eq_some_iff.mp hbatch
        simp only [Bool.and_eq_true, decide_eq_true_eq] at hfound
        exact ⟨index, _, hbatch, hfound.1.2, not_not.mp hnext, rfl⟩

end Accepted

section Kept

variable {r s} {s' : RuntimeState} {active : TransitionState} {a entered : Account}

def itemOf (batch : BatchState) : Item :=
  ⟨batch.nonce, batch.source.sourceId, batch.intents, batch.intents.take batch.nextIndex⟩

def draftOf (active : TransitionState) : AuditTransitionScope × List Item :=
  (active.scope, active.batches.map itemOf)

def entryOf (row : CommittedAuditIntent) : String × String × String × ℕ :=
  (row.transitionId, row.sourceId, row.intentId, row.batchOrdinal)

/-- A row has the digest of its content and the kind of its source. -/
structure Genuine (r : AuditBudgetRuntime) (row : CommittedAuditIntent) : Prop where
  digest : row.intentDigestSha256 = r.sha256 (r.rowContent row)
  kind : ∃ source ∈ r.declaration.sources, source.sourceId = row.sourceId ∧
    source.countedKind = row.countedKind

/-- The open transition is one that began, and is staged only where it was not committed before. -/
structure Begun (s : RuntimeState) (active : TransitionState) : Prop where
  transition : active.transitionId = active.scope.transitionId
  reexecution : active.reexecution = s.committedTransitions.contains active.transitionId
  unstaged : active.reexecution = true → active.batches = []
  digests : ∀ batch ∈ active.batches, batch.digests.Nodup

/-- Each source appears once, is declared, and has no more intents than its fan-out. -/
structure Fits (r : AuditBudgetRuntime) (p : Publication) : Prop where
  distinct : (p.batches.map Prod.fst).Nodup
  bounded : ∀ batch ∈ p.batches, ∃ source ∈ r.declaration.sources, source.sourceId = batch.1 ∧
    0 < batch.2.length ∧ batch.2.length ≤ source.maxEventsPerTransition

/-- The runtime and the account agree. -/
structure Kept (r : AuditBudgetRuntime) (s : RuntimeState) (a : Account) : Prop where
  drafted : a.draft = s.active.map draftOf
  recorded : s.committed.map entryOf = a.published.flatMap Publication.entries
  counted : s.committedCount = s.committed.length
  numbered : s.committed.map (fun row => row.operationCommittedCount) =
    List.range' 1 s.committed.length
  genuine : ∀ row ∈ s.committed, Genuine r row
  transitions : ∀ t, s.committedTransitions.contains t = true ↔
    t ∈ a.published.map Publication.transitionId
  distinct : (a.published.map Publication.transitionId).Nodup
  ids : ∀ id, id ∈ s.committed.map CommittedAuditIntent.intentId →
    s.committedIds.contains id = true
  digests : ∀ digest, digest ∈ s.committed.map CommittedAuditIntent.intentDigestSha256 →
    s.committedDigests.contains digest = true
  idsNodup : (s.committed.map CommittedAuditIntent.intentId).Nodup
  digestsNodup : (s.committed.map CommittedAuditIntent.intentDigestSha256).Nodup
  used : ∀ id, (usage s).used id = ((a.published.flatMap Publication.charges).map Prod.fst).count id
  fits : ∀ p ∈ a.published, Fits r p
  begun : ∀ active, s.active = some active → Begun s active
  closed : s.final = true ∨ s.halt.isSome → s.active = none

theorem Kept.init : Kept r r.initialState .empty := by
  constructor
  case used =>
    intro id
    exact (usage_initialState id).1
  all_goals simp [initialState, Account.empty, Dict.contains]

/-- Only what is open, the finality and the halt change. -/
theorem Kept.move (h : Kept r s a) {final : Bool} {halt : Option HaltRecord}
    {open? : Option TransitionState} (ho : ∀ active, open? = some active → Begun s active)
    (hclosed : final = true ∨ halt.isSome → open? = none) :
    Kept r { s with final, halt, active := open? } { a with draft := open?.map draftOf } where
  drafted := rfl
  recorded := h.recorded
  counted := h.counted
  numbered := h.numbered
  genuine := h.genuine
  transitions := h.transitions
  distinct := h.distinct
  ids := h.ids
  digests := h.digests
  idsNodup := h.idsNodup
  digestsNodup := h.digestsNodup
  used := h.used
  fits := h.fits
  begun active heq := ⟨(ho active heq).transition, (ho active heq).reexecution,
    (ho active heq).unstaged, (ho active heq).digests⟩
  closed := hclosed

theorem Kept.told {α : Type} {x : Except Refusal (α × RuntimeState)} (h : Kept r s a)
    (hok : ∀ b s', x = .ok (b, s') → Kept r s' entered) :
    Kept r (after s x) (a.told entered x) := by
  rcases hx : x with (_ | record) | ⟨b, s'⟩
  case ok => exact hok b s' hx
  case error.raised => exact h
  case error.halted =>
    unfold after
    dsimp only
    split
    · rename_i hhalt
      have hnone : a.draft = none := by rw [h.drafted, h.closed (.inr hhalt), Option.map_none]
      have hdrop : a.drop = a := by
        cases a
        subst hnone
        rfl
      rw [Account.told, hdrop]
      exact h
    · exact h.move (by rintro _ ⟨⟩) fun _ => rfl

theorem Kept.draft_of_active (h : Kept r s a) (ho : s.active = some active) :
    a.draft = some (draftOf active) := by
  rw [h.drafted, ho, Option.map_some]

theorem Kept.beginTransition (h : Kept r s a) (transitionId : String) (invocationIndex : ℕ)
    (identity : String) :
    Kept r (after s (r.beginTransition s transitionId invocationIndex identity))
      (a.told { a with draft := some (⟨transitionId, invocationIndex, identity⟩, []) }
        (r.beginTransition s transitionId invocationIndex identity)) := by
  refine h.told fun scope s' hok => ?_
  obtain ⟨hfinal, hhalt, rfl⟩ := beginTransition_accepted hok
  refine h.move (fun active heq => ?_) fun hclosed => ?_
  · obtain rfl := Option.some.inj heq
    exact ⟨rfl, rfl, fun _ => rfl, fun _ hm => absurd hm List.not_mem_nil⟩
  · rcases hclosed with hclosed | hclosed
    · rw [hfinal] at hclosed
      cases hclosed
    · rw [hhalt] at hclosed
      cases hclosed

/-- A transition is open, so the runtime is neither final nor halted. -/
theorem Kept.open (h : Kept r s a) (ho : s.active = some active) :
    ¬(s.final = true ∨ s.halt.isSome) := by
  intro hclosed
  rw [h.closed hclosed] at ho
  cases ho

theorem Kept.reserve (h : Kept r s a) (scope : AuditTransitionScope)
    (sourceId countedKind : String) (intents : List String) (nonce : String) :
    Kept r (after s (r.reserve s scope sourceId countedKind intents nonce))
      (a.told (a.edit (· ++ [⟨nonce, sourceId, intents, []⟩]))
        (r.reserve s scope sourceId countedKind intents nonce)) := by
  refine h.told fun reservation s' hok => ?_
  obtain ⟨active, source, ho, hfirst, rfl, hstage⟩ := reserve_accepted hok
  obtain ⟨hdigests, -, -, rfl⟩ := stage_accepted hstage
  have hdraft : a.edit (· ++ [⟨nonce, source.sourceId, intents, []⟩]) =
      { a with draft := some (draftOf (r.staging active source intents nonce)) } := by
    rw [Account.edit, h.draft_of_active ho]
    simp [draftOf, staging, itemOf, newBatch]
  rw [hdraft]
  refine h.move (fun other heq => ?_) fun hclosed => absurd hclosed (h.open ho)
  obtain rfl := Option.some.inj heq
  have hbegun := h.begun active ho
  refine ⟨hbegun.transition, hbegun.reexecution, fun hre => ?_, fun batch hm => ?_⟩
  · exact absurd (hfirst.symm.trans hre) Bool.false_ne_true
  · rcases List.mem_append.mp hm with hm | hm
    · exact hbegun.digests batch hm
    · obtain rfl := List.mem_singleton.mp hm
      exact hdigests

/-- Of batches with nonces of their own, one takes its next intent. -/
theorem map_take_items {batches : List BatchState} {batch : BatchState} {index : ℕ}
    {intentId : String} (hbatch : batches[index]? = some batch)
    (hnonces : (batches.map BatchState.nonce).Nodup)
    (hnext : batch.intents[batch.nextIndex]? = some intentId) :
    (batches.map itemOf).map (fun item => if item.nonce = batch.nonce then
        { item with taken := item.taken ++ [intentId] } else item) =
      (batches.set index { batch with nextIndex := batch.nextIndex + 1 }).map itemOf := by
  induction batches generalizing index with
  | nil => cases hbatch
  | cons first batches ih =>
    rw [List.map_cons, List.nodup_cons] at hnonces
    obtain ⟨hfirst, hnonces⟩ := hnonces
    cases index with
    | zero =>
      obtain rfl := Option.some.inj hbatch
      have hrest : ∀ other ∈ batches, other.nonce ≠ first.nonce := by
        rintro other hm heq
        exact hfirst (heq ▸ List.mem_map_of_mem hm)
      rw [List.map_cons, List.map_cons, List.set_cons_zero, List.map_cons, List.map_map]
      congr 1
      · simp [itemOf, List.take_add_one, hnext]
      · exact List.map_congr_left fun other hm => if_neg (hrest other hm)
    | succ index =>
      have hne : first.nonce ≠ batch.nonce := by
        rintro heq
        exact hfirst (heq ▸ List.mem_map_of_mem (List.mem_of_getElem? hbatch))
      rw [List.map_cons, List.map_cons, List.set_cons_succ, List.map_cons, ih hbatch hnonces]
      congr 1
      exact if_neg hne

theorem Kept.consumeLocked (h : Kept r s a) (hs : r.Sound s) (ho : s.active = some active)
    {reservation : AuditReservation} {intentId : String} {u : Unit}
    (hok : r.consumeLocked s active reservation intentId = .ok (u, s')) :
    Kept r s' (a.take reservation intentId) := by
  obtain ⟨index, batch, hbatch, hnonce, hnext, rfl⟩ := consumeLocked_accepted hok
  have hdraft : a.take reservation intentId =
      { a with draft := some (draftOf (consuming active index batch)) } := by
    rw [Account.take, Account.edit, h.draft_of_active ho, Option.map_some, ← hnonce]
    exact congrArg (fun items => { a with draft := some (active.scope, items) })
      (map_take_items hbatch (hs.opened active ho).nonces hnext)
  rw [hdraft]
  refine h.move (fun other heq => ?_) fun hclosed => absurd hclosed (h.open ho)
  obtain rfl := Option.some.inj heq
  have hbegun := h.begun active ho
  refine ⟨hbegun.transition, hbegun.reexecution, fun hre => ?_, fun other hm => ?_⟩
  · have hnil := hbegun.unstaged hre
    rw [hnil] at hbatch
    cases hbatch
  · rcases List.mem_or_eq_of_mem_set hm with hm | rfl
    · exact hbegun.digests other hm
    · exact hbegun.digests batch (List.mem_of_getElem? hbatch)

theorem Kept.dropped (h : Kept r s a) : Kept r { s with active := none } a.drop :=
  h.move (by rintro _ ⟨⟩) fun _ => rfl

theorem Kept.abortIfActive (h : Kept r s a) (scope : AuditTransitionScope) :
    Kept r (after s (AuditBudgetRuntime.abortIfActive s scope))
      (a.told (if a.draft.any fun draft => draft.1 = scope then a.drop else a)
        (AuditBudgetRuntime.abortIfActive s scope)) := by
  refine h.told fun _ s' hok => ?_
  have hany : (a.draft.any fun draft => draft.1 = scope) =
      s.active.any fun active => active.scope = scope := by
    rw [h.drafted, Option.any_map]
    rfl
  unfold AuditBudgetRuntime.abortIfActive at hok
  split at hok
  · rename_i hopen
    obtain ⟨-, rfl⟩ := Prod.mk.inj (Except.ok.inj hok)
    rw [hany, if_pos hopen.2]
    exact h.dropped
  · rename_i hopen
    obtain ⟨-, rfl⟩ := Prod.mk.inj (Except.ok.inj hok)
    rw [hany]
    split
    · rename_i hmatches
      have hhalt : s.halt.isSome := by
        cases hhalt : s.halt with
        | none => exact absurd ⟨by rw [hhalt]; rfl, hmatches⟩ hopen
        | some record => rfl
      rw [h.closed (.inr hhalt)] at hmatches
      cases hmatches
    · exact h

theorem commit_accepted {scope : AuditTransitionScope} {u : Unit}
    (h : r.commit s scope = .ok (u, s')) : ∃ active, s.active = some active ∧
      (active.reexecution = true ∧ s' = { s with active := none } ∨
        active.reexecution = false ∧ active.batches ≠ [] ∧
          (∀ batch ∈ active.batches, batch.nextIndex = batch.intents.length) ∧
          ∃ sourceCounts sourceOccurrences,
            addCounts (fun batch => batch.intents.length) s.sourceCounts active.batches =
              .ok sourceCounts ∧
            addCounts (fun _ => 1) s.sourceOccurrences active.batches = .ok sourceOccurrences ∧
            s' = { s with
              committed := s.committed ++ r.commitRows active s.committedCount
              committedCount := s.committedCount + (r.commitRows active s.committedCount).length
              committedIds := (r.commitRows active s.committedCount).foldl
                (fun ids row => ids.set row.intentId true) s.committedIds
              committedDigests := (r.commitRows active s.committedCount).foldl
                (fun digests row => digests.set row.intentDigestSha256 true) s.committedDigests
              committedTransitions := s.committedTransitions.set active.transitionId true
              sourceCounts, sourceOccurrences, active := none }) := by
  obtain ⟨_, -, h⟩ := bind_ok h
  obtain ⟨active, hactive, h⟩ := bind_ok h
  refine ⟨active, requireScope_ok hactive, ?_⟩
  split at h
  · exact absurd h stop_not_ok
  split at h
  · cases h
  rename_i hstaged
  split at h
  · rename_i hre
    obtain ⟨-, rfl⟩ := Prod.mk.inj (Except.ok.inj h)
    exact Or.inl ⟨hre, rfl⟩
  rename_i hre
  have hfirst := Bool.eq_false_iff.mpr hre
  split at h
  · exact absurd h stop_not_ok
  · rename_i hcomplete
    dsimp only at h
    obtain ⟨counts, hcounts, h⟩ := bind_ok h
    obtain ⟨occurrences, hoccurrences, h⟩ := bind_ok h
    obtain ⟨-, rfl⟩ := Prod.mk.inj (Except.ok.inj h)
    refine Or.inr ⟨hfirst, fun hnil => hstaged ?_, fun batch hm => ?_, counts, occurrences,
      lift_ok hcounts, lift_ok hoccurrences, rfl⟩
    · rw [hnil, hfirst]
      exact ⟨rfl, rfl⟩
    · simpa using List.find?_eq_none.mp hcomplete batch hm

/-- The intents that are staged, and their digests, are new and different from each other. -/
theorem fresh_of_batchesValid {batches : List BatchState} {S I D : List String}
    (h : r.batchesValid s active batches S I D = true)
    (hdigests : ∀ batch ∈ batches, batch.digests.Nodup) :
    ((batches.flatMap BatchState.intents).Nodup ∧
      ∀ id ∈ batches.flatMap BatchState.intents, id ∉ I ∧ s.committedIds.contains id = false) ∧
    (batches.flatMap BatchState.digests).Nodup ∧
      ∀ digest ∈ batches.flatMap BatchState.digests,
        digest ∉ D ∧ s.committedDigests.contains digest = false := by
  induction batches generalizing S I D with
  | nil => simp
  | cons first batches ih =>
    rw [batchesValid, Bool.and_eq_true] at h
    obtain ⟨hfirst, hrest⟩ := h
    obtain ⟨hdfirst, hdrest⟩ := List.forall_mem_cons.mp hdigests
    obtain ⟨⟨hinodup, hinew⟩, hdnodup, hdnew⟩ := ih hrest hdrest
    simp only [batchValid, Bool.and_eq_true, decide_eq_true_eq, List.all_eq_true,
      Bool.not_eq_true'] at hfirst
    obtain ⟨⟨⟨⟨⟨-, hnodup⟩, -⟩, -⟩, hids⟩, hds⟩ := hfirst
    constructor
    · rw [List.flatMap_cons]
      constructor
      · refine hnodup.append hinodup fun id hid hother => ?_
        exact (hinew id hother).1 (List.mem_append_right _ hid)
      · intro id hid
        rcases List.mem_append.mp hid with hid | hid
        · exact hids id hid
        · exact ⟨fun hI => (hinew id hid).1 (List.mem_append_left _ hI), (hinew id hid).2⟩
    · rw [List.flatMap_cons]
      constructor
      · refine hdfirst.append hdnodup fun digest hid hother => ?_
        exact (hdnew digest hother).1 (List.mem_append_right _ hid)
      · intro digest hid
        rcases List.mem_append.mp hid with hid | hid
        · exact hds digest hid
        · exact ⟨fun hD => (hdnew digest hid).1 (List.mem_append_left _ hD), (hdnew digest hid).2⟩

/-- What a row says apart from its number is said by its batch and its place there. -/
theorem map_commitRows {β : Type} {start : ℕ} {g : CommittedAuditIntent → β}
    {k : BatchState → String × ℕ → β}
    (hg : ∀ batch e n, g
      { intentDigestSha256 := r.intentDigest e.1 batch.source.sourceId active.transitionId e.2
        intentId := e.1
        sourceId := batch.source.sourceId
        countedKind := batch.source.countedKind
        transitionId := active.transitionId
        batchOrdinal := e.2
        operationCommittedCount := n } = k batch e) :
    (r.commitRows active start).map g =
      active.batches.flatMap fun batch => batch.intents.zipIdx.map (k batch) := by
  have hfst : ∀ staged : List (BatchState × String × ℕ),
      staged.zipIdx.map (fun e => k e.1.1 e.1.2) = staged.map fun e => k e.1 e.2 := by
    intro staged
    conv_rhs => rw [← List.zipIdx_map_fst 0 staged, List.map_map]
    rfl
  calc (r.commitRows active start).map g
      = (active.batches.flatMap fun batch =>
          batch.intents.zipIdx.map fun e => (batch, e)).zipIdx.map fun e => k e.1.1 e.1.2 := by
        rw [commitRows, List.map_map]
        exact List.map_congr_left fun e _ => hg e.1.1 e.1.2 _
    _ = active.batches.flatMap fun batch => batch.intents.zipIdx.map (k batch) := by
        rw [hfst, List.map_flatMap]
        simp only [List.map_map]
        rfl

theorem commitRows_intents {start : ℕ} :
    (r.commitRows active start).map CommittedAuditIntent.intentId =
      active.batches.flatMap BatchState.intents := by
  rw [map_commitRows (k := fun _ e => e.1) fun _ _ _ => rfl]
  refine List.flatMap_congr fun batch _ => ?_
  exact List.zipIdx_map_fst 0 batch.intents

theorem commitRows_digests {start : ℕ} (hd : ∀ batch ∈ active.batches, batch.digests =
    r.batchDigests batch.intents batch.source.sourceId active.transitionId) :
    (r.commitRows active start).map CommittedAuditIntent.intentDigestSha256 =
      active.batches.flatMap BatchState.digests := by
  rw [map_commitRows (k := fun batch e =>
    r.intentDigest e.1 batch.source.sourceId active.transitionId e.2) fun _ _ _ => rfl]
  exact List.flatMap_congr fun batch hm => (hd batch hm).symm

theorem commitRows_numbered {start : ℕ} :
    (r.commitRows active start).map (fun row => row.operationCommittedCount) =
      List.range' (start + 1) (r.commitRows active start).length := by
  refine List.ext_getElem (by simp) fun i hi _ => ?_
  simp [commitRows]
  omega

theorem mem_commitRows {start : ℕ} {row : CommittedAuditIntent}
    (hm : row ∈ r.commitRows active start) : ∃ batch ∈ active.batches,
      row.sourceId = batch.source.sourceId ∧ row.countedKind = batch.source.countedKind := by
  obtain ⟨e, he, rfl⟩ := List.mem_map.mp hm
  obtain ⟨batch, hbatch, he⟩ := List.mem_flatMap.mp (List.fst_mem_of_mem_zipIdx he)
  obtain ⟨_, -, heq⟩ := List.mem_map.mp he
  refine ⟨batch, hbatch, ?_⟩
  rw [← heq]
  exact ⟨rfl, rfl⟩

/-- What a complete transition publishes. -/
def publicationOf (active : TransitionState) : Publication :=
  ⟨active.transitionId, active.batches.map fun batch => (batch.source.sourceId, batch.intents)⟩

theorem commitRows_entries {start : ℕ} :
    (r.commitRows active start).map entryOf = (publicationOf active).entries := by
  rw [map_commitRows (k := fun batch e =>
    (active.transitionId, batch.source.sourceId, e.1, e.2)) fun _ _ _ => rfl]
  rw [Publication.entries, publicationOf, List.flatMap_map]

theorem publish_draftOf (h : Kept r s a) (ho : s.active = some active)
    (hbatches : active.batches ≠ [])
    (hcomplete : ∀ batch ∈ active.batches, batch.nextIndex = batch.intents.length) :
    a.publish = ⟨a.published ++ [publicationOf active], none⟩ := by
  have hitems : (active.batches.map itemOf).isEmpty = false := by
    rw [List.isEmpty_map]
    exact List.isEmpty_eq_false_iff.mpr hbatches
  have htaken : (active.batches.map itemOf).map (fun item => (item.sourceId, item.taken)) =
      active.batches.map fun batch => (batch.source.sourceId, batch.intents) := by
    rw [List.map_map]
    refine List.map_congr_left fun batch hm => ?_
    simp [itemOf, hcomplete batch hm]
  rw [Account.publish, h.draft_of_active ho]
  simp only [draftOf, hitems, htaken, publicationOf, (h.begun active ho).transition]
  rfl

theorem contains_foldl_row_iff {f : CommittedAuditIntent → String} {d : Dict String Bool}
    {rows : List CommittedAuditIntent} {k : String} :
    (rows.foldl (fun d row => d.set (f row) true) d).contains k = true ↔
      k ∈ rows.map f ∨ d.contains k = true := by
  have hfold : rows.foldl (fun d row => d.set (f row) true) d =
      (rows.map fun row => (f row, true)).foldl (fun d e => d.set e.1 e.2) d := by
    rw [List.foldl_map]
  rw [hfold, Dict.contains_foldl_set, List.map_map]
  rfl

/-- A charge list counts one use for each charge of the key. -/
theorem chargeAll_used_count {u : Usage String} {charges : List (String × ℕ)} {id : String} :
    (u.chargeAll charges).used id = u.used id + (charges.map Prod.fst).count id := by
  induction charges generalizing u with
  | nil => rfl
  | cons c charges ih =>
    rw [Usage.chargeAll_cons, ih, List.map_cons, List.count_cons]
    by_cases heq : c.1 = id
    · subst heq
      simp [Usage.charge]
      omega
    · simp [Usage.charge, Function.update_of_ne (Ne.symm heq), heq]

theorem Kept.commit (h : Kept r s a) (hs : r.Sound s) (scope : AuditTransitionScope) :
    Kept r (after s (r.commit s scope)) (a.told a.publish (r.commit s scope)) := by
  refine h.told fun _ s' hok => ?_
  obtain ⟨active, ho, ⟨hre, rfl⟩ | ⟨hfirst, hbatches, hcomplete, counts, occurrences, hcounts,
    hoccurrences, hnext⟩⟩ := commit_accepted hok
  · have hpublish : a.publish = a.drop := by
      rw [Account.publish, h.draft_of_active ho]
      simp [draftOf, (h.begun active ho).unstaged hre, Account.drop]
    rw [hpublish]
    exact h.dropped
  have hopen := hs.opened active ho
  have hbegun := h.begun active ho
  obtain ⟨hstaged, hdistinct⟩ := staged_of_batchesValid hopen.valid
  obtain ⟨⟨hids, hidsNew⟩, hdigests, hdigestsNew⟩ :=
    fresh_of_batchesValid hopen.valid hbegun.digests
  have hrowDigests := @commitRows_digests r active s.committedCount fun batch hm =>
    (hstaged batch hm).1.digests
  have hnew : active.transitionId ∉ a.published.map Publication.transitionId := by
    rw [← h.transitions, ← hbegun.reexecution, hfirst]
    exact Bool.false_ne_true
  have husage : usage s' = (usage s).chargeAll (active.batches.map chargeOf) :=
    usage_commit (hnext ▸ hcounts) (hnext ▸ hoccurrences)
  have hcharges : (publicationOf active).charges = active.batches.map chargeOf := by
    rw [Publication.charges, publicationOf, List.map_map]
    rfl
  rw [publish_draftOf h ho hbatches hcomplete]
  constructor
  case used =>
    intro id
    rw [husage, chargeAll_used_count, h.used, List.flatMap_append, List.map_append,
      List.count_append, List.flatMap_singleton, hcharges]
  all_goals subst hnext
  case drafted => rfl
  case recorded =>
    rw [List.map_append, List.flatMap_append, List.flatMap_singleton, h.recorded,
      commitRows_entries]
  case counted => rw [List.length_append, h.counted]
  case numbered =>
    rw [List.map_append, List.length_append, h.numbered, commitRows_numbered, h.counted,
      Nat.add_comm s.committed.length 1, List.range'_append_1]
  case genuine =>
    intro row hm
    rcases List.mem_append.mp hm with hm | hm
    · exact h.genuine row hm
    · obtain ⟨batch, hbatch, hsource, hkind⟩ := mem_commitRows hm
      exact ⟨commitRows_digest hm, batch.source, (hstaged batch hbatch).1.source, hsource.symm,
        hkind.symm⟩
  case transitions =>
    intro t
    rw [List.map_append, List.mem_append, ← h.transitions, Dict.contains, Dict.get?_set]
    by_cases heq : active.transitionId = t
    · simp [heq, publicationOf]
    · simp [heq, Ne.symm heq, publicationOf, Dict.contains]
  case distinct =>
    rw [List.map_append]
    refine h.distinct.append (List.nodup_singleton _) fun t ht hone => ?_
    obtain rfl : t = active.transitionId := List.mem_singleton.mp hone
    exact hnew ht
  case ids =>
    intro id hm
    rw [List.map_append] at hm
    refine contains_foldl_row_iff.mpr ?_
    exact (List.mem_append.mp hm).symm.imp_right (h.ids id)
  case digests =>
    intro digest hm
    rw [List.map_append] at hm
    refine contains_foldl_row_iff.mpr ?_
    exact (List.mem_append.mp hm).symm.imp_right (h.digests digest)
  case idsNodup =>
    rw [List.map_append, commitRows_intents]
    refine h.idsNodup.append hids fun id hold hid => ?_
    exact Bool.false_ne_true ((hidsNew id hid).2.symm.trans (h.ids id hold))
  case digestsNodup =>
    rw [List.map_append, hrowDigests]
    refine h.digestsNodup.append hdigests fun digest hold hid => ?_
    exact Bool.false_ne_true ((hdigestsNew digest hid).2.symm.trans (h.digests digest hold))
  case fits =>
    intro p hm
    rcases List.mem_append.mp hm with hm | hm
    · exact h.fits p hm
    · obtain rfl := List.mem_singleton.mp hm
      constructor
      · rw [publicationOf, List.map_map]
        exact hdistinct
      · intro batch hbatch
        obtain ⟨staged, hm, rfl⟩ := List.mem_map.mp hbatch
        obtain ⟨hstaged, -⟩ := hstaged staged hm
        exact ⟨staged.source, hstaged.source, rfl, hstaged.nonempty, hstaged.bounded⟩
  case begun => rintro _ ⟨⟩
  case closed => exact fun _ => rfl

theorem Kept.account (h : Kept r s a) (hs : r.Sound s) (call : AuditCall) :
    Kept r (r.respond s call) (r.account s a call) := by
  cases call with
  | beginTransition transitionId invocationIndex identity =>
    exact h.beginTransition transitionId invocationIndex identity
  | reserve scope sourceId countedKind intentIds nonce =>
    exact h.reserve scope sourceId countedKind intentIds nonce
  | consume reservation intentId =>
    refine h.told fun _ s' hok => ?_
    obtain ⟨_, -, hok⟩ := bind_ok hok
    split at hok
    · cases hok
    · rename_i active ho
      exact h.consumeLocked hs ho hok
  | consumeFromScope scope reservation intentId =>
    refine h.told fun _ s' hok => ?_
    obtain ⟨_, -, hok⟩ := bind_ok hok
    obtain ⟨active, hactive, hok⟩ := bind_ok hok
    exact h.consumeLocked hs (requireScope_ok hactive) hok
  | commit scope => exact h.commit hs scope
  | abort scope =>
    refine h.told fun _ s' hok => ?_
    obtain ⟨_, -, hok⟩ := bind_ok hok
    obtain ⟨_, -, hok⟩ := bind_ok hok
    obtain ⟨-, rfl⟩ := Prod.mk.inj (Except.ok.inj hok)
    exact h.dropped
  | abortIfActive scope => exact h.abortIfActive scope
  | markFinality =>
    refine h.told fun _ s' hok => ?_
    obtain ⟨_, -, hok⟩ := bind_ok hok
    split at hok
    · exact absurd hok stop_not_ok
    split at hok
    · exact absurd hok lifecycleOrProgrammer_not_ok
    · rename_i ho
      obtain ⟨-, rfl⟩ := Prod.mk.inj (Except.ok.inj hok)
      have hmoved : Kept r { s with final := true, active := none } { a with draft := none } :=
        h.move (by rintro _ ⟨⟩) fun _ => rfl
      have hdraft : { a with draft := none } = a := by
        have hnone := h.drafted
        rw [ho, Option.map_none] at hnone
        cases a
        subst hnone
        rfl
      rw [hdraft] at hmoved
      rw [← ho] at hmoved
      exact hmoved

theorem follow_append (calls : List AuditCall) (call : AuditCall) :
    r.follow (calls ++ [call]) = (r.respond (r.follow calls).1 call,
      r.account (r.follow calls).1 (r.follow calls).2 call) := by
  rw [follow, List.foldl_append]
  rfl

theorem sound_follow (calls : List AuditCall) : r.Sound (r.follow calls).1 := by
  induction calls using List.reverseRecOn with
  | nil => exact Sound.init
  | append_singleton calls call ih =>
    rw [follow_append]
    exact ih.respond call

theorem kept_follow (calls : List AuditCall) : Kept r (r.follow calls).1 (r.follow calls).2 := by
  induction calls using List.reverseRecOn with
  | nil => exact Kept.init
  | append_singleton calls call ih =>
    rw [follow_append]
    exact ih.account (sound_follow calls) call

end Kept

section Growth

variable {r s} {s' : RuntimeState}

theorem committed_after {α : Type} {x : Except Refusal (α × RuntimeState)}
    (hok : ∀ b s', x = .ok (b, s') → s.committed <+: s'.committed) :
    s.committed <+: (after s x).committed := by
  rcases hx : x with (_ | record) | ⟨b, s'⟩
  case ok => exact hok b s' hx
  case error.raised => exact List.prefix_rfl
  case error.halted =>
    unfold after
    dsimp only
    split <;> exact List.prefix_rfl

theorem committed_respond (call : AuditCall) : s.committed <+: (r.respond s call).committed := by
  cases call with
  | beginTransition =>
    refine committed_after fun _ s' hok => ?_
    obtain ⟨-, -, rfl⟩ := beginTransition_accepted hok
    exact List.prefix_rfl
  | reserve =>
    refine committed_after fun _ s' hok => ?_
    obtain ⟨_, _, -, -, -, hstage⟩ := reserve_accepted hok
    obtain ⟨-, -, -, rfl⟩ := stage_accepted hstage
    exact List.prefix_rfl
  | consume =>
    refine committed_after fun _ s' hok => ?_
    obtain ⟨_, -, hok⟩ := bind_ok hok
    split at hok
    · cases hok
    · obtain ⟨_, _, -, -, -, rfl⟩ := consumeLocked_accepted hok
      exact List.prefix_rfl
  | consumeFromScope =>
    refine committed_after fun _ s' hok => ?_
    obtain ⟨_, -, hok⟩ := bind_ok hok
    obtain ⟨_, -, hok⟩ := bind_ok hok
    obtain ⟨_, _, -, -, -, rfl⟩ := consumeLocked_accepted hok
    exact List.prefix_rfl
  | commit =>
    refine committed_after fun _ s' hok => ?_
    obtain ⟨_, -, ⟨-, rfl⟩ | ⟨-, -, -, _, _, -, -, rfl⟩⟩ := commit_accepted hok
    · exact List.prefix_rfl
    · exact List.prefix_append _ _
  | abort =>
    refine committed_after fun _ s' hok => ?_
    obtain ⟨_, -, hok⟩ := bind_ok hok
    obtain ⟨_, -, hok⟩ := bind_ok hok
    obtain ⟨-, rfl⟩ := Prod.mk.inj (Except.ok.inj hok)
    exact List.prefix_rfl
  | abortIfActive =>
    refine committed_after fun _ s' hok => ?_
    unfold abortIfActive at hok
    split at hok <;> obtain ⟨-, rfl⟩ := Prod.mk.inj (Except.ok.inj hok) <;> exact List.prefix_rfl
  | markFinality =>
    refine committed_after fun _ s' hok => ?_
    obtain ⟨_, -, hok⟩ := bind_ok hok
    split at hok
    · exact absurd hok stop_not_ok
    split at hok
    · exact absurd hok lifecycleOrProgrammer_not_ok
    · obtain ⟨-, rfl⟩ := Prod.mk.inj (Except.ok.inj hok)
      exact List.prefix_rfl

theorem follow_append_list (calls more : List AuditCall) : (r.follow (calls ++ more)).1 =
    more.foldl r.respond (r.follow calls).1 := by
  induction more using List.reverseRecOn with
  | nil => rw [List.append_nil, List.foldl_nil]
  | append_singleton more call ih =>
    rw [← List.append_assoc, follow_append, List.foldl_append, ih]
    rfl

theorem committed_foldl (calls : List AuditCall) :
    s.committed <+: (calls.foldl r.respond s).committed := by
  induction calls generalizing s with
  | nil => exact List.prefix_rfl
  | cons call calls ih => exact (committed_respond call).trans ih

end Growth

section Histories

variable (r : AuditBudgetRuntime)

/-- The committed history is what the account of the calls says: the intents of every committed
transition as they were taken, numbered in order, and all that was reserved in it was taken. -/
theorem published_as_taken (calls : List AuditCall) :
    ((r.follow calls).1.committed.map entryOf =
        (r.follow calls).2.published.flatMap Publication.entries ∧
      (r.follow calls).1.committed.map (fun row => row.operationCommittedCount) =
        List.range' 1 (r.follow calls).1.committed.length ∧
      ∀ row ∈ (r.follow calls).1.committed, Genuine r row) ∧
    ∀ scope s', r.commit (r.follow calls).1 scope = .ok ((), s') →
      ∀ draft, (r.follow calls).2.draft = some draft →
        ∀ item ∈ draft.2, item.taken = item.reserved := by
  have hkept := kept_follow (r := r) calls
  refine ⟨⟨hkept.recorded, hkept.numbered, hkept.genuine⟩, ?_⟩
  intro scope s' hok draft hdraft item hm
  obtain ⟨active, ho, hcases⟩ := commit_accepted hok
  obtain rfl := Option.some.inj ((hkept.draft_of_active ho).symm.trans hdraft)
  obtain ⟨batch, hbatch, rfl⟩ := List.mem_map.mp hm
  rcases hcases with ⟨hre, -⟩ | ⟨-, -, hcomplete, -⟩
  · rw [(hkept.begun active ho).unstaged hre] at hbatch
    cases hbatch
  · rw [itemOf, hcomplete batch hbatch, List.take_length]

/-- Whatever the calls, what is published stays within the declaration, and nothing is published
twice or taken back. -/
theorem history_within_declaration (calls : List AuditCall) :
    (∀ more, (r.follow calls).1.committed <+: (r.follow (calls ++ more)).1.committed) ∧
    ((r.follow calls).2.published.map Publication.transitionId).Nodup ∧
    (∀ p ∈ (r.follow calls).2.published, Fits r p) ∧
    (∀ source ∈ r.declaration.sources,
      (((r.follow calls).2.published.flatMap Publication.charges).map Prod.fst).count
        source.sourceId ≤ source.maxAcceptedOccurrences) ∧
    (r.follow calls).1.committed.length ≤ r.declaration.declaredMaxEvents ∧
    ((r.follow calls).1.committed.map CommittedAuditIntent.intentId).Nodup ∧
    ((r.follow calls).1.committed.map CommittedAuditIntent.intentDigestSha256).Nodup := by
  have hkept := kept_follow (r := r) calls
  have hsound := sound_follow (r := r) calls
  refine ⟨fun more => ?_, hkept.distinct, hkept.fits, fun source hm => ?_, ?_, hkept.idsNodup,
    hkept.digestsNodup⟩
  · rw [follow_append_list]
    exact committed_foldl more
  · rw [← hkept.used, ← quota_uses hm]
    exact hsound.within.uses source.sourceId (List.mem_map_of_mem hm)
  · rw [← hkept.counted, hsound.counted, ← quota_total]
    exact hsound.within.spent_le_total

end Histories

end AuditBudgetRuntime

end OperateBench.AuditBudget
