import OperateBench.Maintenance.Answered

/-! # The batches that a trajectory serves

The checker of the batches divides the served rows of an invocation: those behind it are canonical
batches numbered from zero, and the rows of the open batch carry the next number.
-/

namespace OperateBench.Maintenance

open Foundation

namespace Evaluator

/-- The rows are one batch, canonically ordered and served at one instant. -/
structure CanonicalBatch (batchIndex : ℕ) (batch : List Fields) : Prop where
  nonempty : batch ≠ []
  numbered : ∀ row ∈ batch, (row.get "batch_index").equals (.int batchIndex) = true
  increasing : (batch.map fun row => (row.get "tool").text).Pairwise (· < ·)
  indexed : ∀ (i : ℕ) (row : Fields), batch[i]? = some row →
    (row.get "request_index").equals (.int i) = true
  oneInstant : ∃ instant, ∀ row ∈ batch, (row.get "as_of").equals instant = true

section Batches

theorem toolsIncreasing {tools : List String}
    (h : tools = sortTexts tools ∧ tools.dedup.length = tools.length) : tools.Pairwise (· < ·) := by
  obtain ⟨hsorted, hlength⟩ := h
  have hle : tools.Pairwise (· ≤ ·) := by
    rw [hsorted]
    exact List.pairwise_insertionSort _ tools
  have hnodup : tools.Nodup := by
    rw [← List.dedup_eq_self]
    exact (List.dedup_sublist tools).eq_of_length hlength
  exact (hle.and hnodup).imp fun h => Std.lt_of_le_of_ne h.1 h.2

/-- What a batch that is not reported at its end satisfies. -/
theorem closeBatch_silent {batch : List Fields} {k : ℕ} (h : closeBatch batch = .ok [])
    (hne : batch ≠ []) (hk : ∀ row ∈ batch, (row.get "batch_index").counted = .int k) :
    CanonicalBatch k batch := by
  cases batch with
  | nil => exact absurd rfl hne
  | cons first rest =>
    rw [closeBatch] at h
    obtain ⟨instants, hinstants, h⟩ := bind_ok h
    obtain ⟨hfound, hinstant⟩ := List.append_eq_nil_iff.mp (pure_ok h)
    obtain ⟨hcanonical, horder⟩ := List.append_eq_nil_iff.mp hfound
    constructor
    · exact hne
    · intro row hrow
      exact Value.equals_int.mpr (hk row hrow)
    · exact toolsIncreasing (of_not_not fun hnot => absurd hcanonical (by rw [if_neg hnot]; nofun))
    · intro i row hrow
      have hall := of_not_not fun hnot => absurd horder (by rw [if_neg hnot]; nofun)
      have hi : (row.get "request_index", i) ∈
          ((first :: rest).map fun row => row.get "request_index").zipIdx := by
        rw [List.mk_mem_zipIdx_iff_getElem?, List.getElem?_map, hrow]
        rfl
      exact List.all_eq_true.mp hall _ hi
    · have hone := of_not_not fun hnot => absurd hinstant (by rw [if_neg hnot]; nofun)
      obtain ⟨instant, rfl⟩ := List.length_eq_one_iff.mp hone
      obtain ⟨served, -, rfl⟩ :=
        List.mem_map.mp (Value.mem_of_asSet hinstants (List.mem_singleton_self instant))
      refine ⟨served.get "as_of", fun row hrow => ?_⟩
      obtain ⟨w, hw, hsame⟩ := Value.mem_asSet hinstants (List.mem_map_of_mem hrow)
      rwa [List.mem_singleton.mp hw] at hsame

namespace GrammarState

variable {sha256 : Value → String} {s t : GrammarState} {row : Fields} {position : ℕ}

/-- How a row inside an invocation moves the batches, where nothing is reported. -/
inductive Moves (s t : GrammarState) (row : Fields) : Prop where
  | idle (hserved : typed "retrieval_served" row = false) (hseen : t.batchesSeen = s.batchesSeen)
      (hbatch : t.currentBatch = s.currentBatch)
  | closes (hserved : typed "retrieval_served" row = false) (hseen : t.batchesSeen = s.batchesSeen)
      (hclosed : closeBatch s.currentBatch = .ok []) (hbatch : t.currentBatch = [])
  | joins (hserved : typed "retrieval_served" row = true)
      (hcontinues : s.continues row = true) (hseen : t.batchesSeen = s.batchesSeen)
      (hbatch : t.currentBatch = s.currentBatch ++ [row])
  | opens (hserved : typed "retrieval_served" row = true)
      (hclosed : closeBatch s.currentBatch = .ok [])
      (hnumber : (row.get "batch_index").integer? = some (s.batchesSeen + 1))
      (hseen : t.batchesSeen = s.batchesSeen + 1) (hbatch : t.currentBatch = [row])

theorem openBatch_silent (h : s.openBatch position row = .ok (t, [])) :
    closeBatch s.currentBatch = .ok [] ∧
      (row.get "batch_index").integer? = some (s.batchesSeen + 1) ∧
      t = { s with batchesSeen := s.batchesSeen + 1, currentBatch := [row] } := by
  obtain ⟨closing, hclosing, h⟩ := bind_ok h
  obtain ⟨hstate, hfound⟩ := Prod.mk.inj (pure_ok h)
  obtain ⟨rfl, hnumbering⟩ := List.append_eq_nil_iff.mp hfound
  have hnumber := of_not_not fun hnot => absurd hnumbering (by rw [if_neg hnot]; nofun)
  refine ⟨hclosing, hnumber, ?_⟩
  rw [← hstate, hnumber]
  rfl

theorem step_silent (hrow : typed "agent_invoked" row = false)
    (h : step sha256 position s row = .ok (t, [])) : Moves s t row := by
  rw [step, if_neg (by simp [hrow])] at h
  split at h
  · rename_i hinvalidated
    obtain ⟨closing, hclosing, h⟩ := bind_ok h
    obtain ⟨rfl, hfound⟩ := Prod.mk.inj (pure_ok h)
    obtain ⟨rfl, -⟩ := List.append_eq_nil_iff.mp hfound
    exact .closes (typed_other hinvalidated) rfl hclosing rfl
  split at h
  · rename_i houtcome
    obtain ⟨rfl, -⟩ := Prod.mk.inj (Except.ok.inj h)
    exact .idle (typed_other (Bool.and_eq_true_iff.mp houtcome).1) rfl rfl
  split at h
  · rename_i hserved
    obtain ⟨rfl, -⟩ := Prod.mk.inj (Except.ok.inj h)
    exact .idle (by simpa using hserved) rfl rfl
  · rename_i hserved
    rw [Bool.not_eq_true', Bool.not_eq_false] at hserved
    obtain ⟨⟨u, opened⟩, hopened, h⟩ := bind_ok h
    obtain ⟨rfl, hfound⟩ := Prod.mk.inj (pure_ok h)
    obtain ⟨-, rfl⟩ := List.append_eq_nil_iff.mp hfound
    unfold placeServed at hopened
    split at hopened
    · rename_i hcontinues
      obtain ⟨rfl, -⟩ := Prod.mk.inj (Except.ok.inj hopened)
      exact .joins hserved hcontinues rfl rfl
    · obtain ⟨hclosed, hnumber, rfl⟩ := openBatch_silent hopened
      exact .opens hserved hclosed hnumber rfl rfl

/-- The served rows so far are batches numbered from zero, and the rows of the open one. -/
structure Batched (rows : List Fields) (s : GrammarState) (closed : List (List Fields)) :
    Prop where
  served : closed.flatten ++ s.currentBatch = rows.filter (typed "retrieval_served")
  canonical : ∀ k batch, closed[k]? = some batch → CanonicalBatch k batch
  numbered : ∀ row ∈ s.currentBatch, (row.get "batch_index").counted = .int closed.length
  seen : s.batchesSeen + 1 = (closed.length + if s.currentBatch = [] then 0 else 1 : ℕ)

variable {rows : List Fields} {closed : List (List Fields)}

/-- The batch that is open is closed. -/
theorem Batched.close (h : Batched rows s closed) (hclosed : closeBatch s.currentBatch = .ok [])
    (hseen : t.batchesSeen = s.batchesSeen) (hbatch : t.currentBatch = []) :
    ∃ closed, Batched rows t closed := by
  by_cases hempty : s.currentBatch = []
  · refine ⟨closed, ?_, h.canonical, ?_, ?_⟩
    · rw [hbatch, ← hempty, h.served]
    · rw [hbatch]; nofun
    · rw [hseen, h.seen, hempty, hbatch]
  · refine ⟨closed ++ [s.currentBatch], ?_, ?_, ?_, ?_⟩
    · rw [hbatch, List.append_nil, List.flatten_append, List.flatten_singleton, h.served]
    · intro k batch hk
      rcases Nat.lt_or_ge k closed.length with hlt | hge
      · exact h.canonical k batch (by rwa [List.getElem?_append_left hlt] at hk)
      · rw [List.getElem?_append_right hge, List.getElem?_singleton] at hk
        split at hk
        · obtain rfl := Option.some.inj hk
          obtain rfl : k = closed.length := by omega
          exact closeBatch_silent hclosed hempty h.numbered
        · cases hk
    · rw [hbatch]; nofun
    · rw [hseen, h.seen, if_neg hempty, if_pos hbatch, List.length_append]
      rfl

theorem Batched.step (h : Batched rows s closed) (hmoves : Moves s t row) :
    ∃ closed, Batched (rows ++ [row]) t closed := by
  have hfilter : (rows ++ [row]).filter (typed "retrieval_served") =
      rows.filter (typed "retrieval_served") ++
        if typed "retrieval_served" row then [row] else [] := by
    rw [List.filter_append, List.filter_singleton]
    cases typed "retrieval_served" row <;> rfl
  have hskip : typed "retrieval_served" row = false → ∀ {closed}, Batched rows t closed →
      Batched (rows ++ [row]) t closed := by
    intro hserved closed hold
    exact ⟨by rw [hfilter, hserved, hold.served]; simp, hold.canonical, hold.numbered, hold.seen⟩
  cases hmoves with
  | idle hserved hseen hbatch =>
    refine ⟨closed, hskip hserved ⟨?_, h.canonical, ?_, ?_⟩⟩
    · rw [hbatch, h.served]
    · rw [hbatch]; exact h.numbered
    · rw [hbatch, hseen, h.seen]
  | closes hserved hseen hclosed hbatch =>
    obtain ⟨closed, hbatched⟩ := h.close hclosed hseen hbatch
    exact ⟨closed, hskip hserved hbatched⟩
  | joins hserved hcontinues hseen hbatch =>
    obtain ⟨first, hfirst, hequals⟩ := Option.any_eq_true _ _ |>.mp hcontinues
    have hnumber := h.numbered first (List.mem_of_head? hfirst)
    refine ⟨closed, ?_, h.canonical, ?_, ?_⟩
    · rw [hfilter, if_pos hserved, hbatch, ← h.served, List.append_assoc]
    · rw [hbatch]
      intro r hr
      rcases List.mem_append.mp hr with hold | hlast
      · exact h.numbered r hold
      · rw [List.mem_singleton.mp hlast]
        exact (Value.equals_iff_counted hnumber).mp hequals
    · have hne : s.currentBatch ≠ [] := by rintro hnil; rw [hnil] at hfirst; cases hfirst
      rw [hseen, h.seen, if_neg hne, hbatch, if_neg (by simp)]
  | opens hserved hclosed hnumber hseen hbatch =>
    obtain ⟨closed, hbatched⟩ := h.close (t := { s with currentBatch := [] }) hclosed rfl rfl
    have hlength : s.batchesSeen + 1 = closed.length := by simpa using hbatched.seen
    refine ⟨closed, ?_, hbatched.canonical, ?_, ?_⟩
    · rw [hfilter, if_pos hserved, hbatch, ← hbatched.served, List.append_nil]
    · rw [hbatch]
      intro r hr
      rw [List.mem_singleton.mp hr, ← hlength]
      exact Value.counted_of_integer? hnumber
    · rw [hseen, hlength, hbatch, if_neg (by simp)]
      rfl

theorem Batched.number {n : Fields} (h : Batched rows s closed) (hn : n ∈ rows)
    (hserved : typed "retrieval_served" n = true) :
    ∃ i : Int, (n.get "batch_index").counted = .int i := by
  have hmem : n ∈ closed.flatten ++ s.currentBatch := by
    rw [h.served]
    exact List.mem_filter.mpr ⟨hn, hserved⟩
  rcases List.mem_append.mp hmem with hclosed | hopen
  · obtain ⟨batch, hbatch, hn⟩ := List.mem_flatten.mp hclosed
    obtain ⟨k, hk⟩ := List.mem_iff_getElem?.mp hbatch
    exact ⟨k, Value.equals_int.mp ((h.canonical k batch hk).numbered n hn)⟩
  · exact ⟨closed.length, h.numbered n hopen⟩

end GrammarState

end Batches

end Evaluator

end OperateBench.Maintenance
