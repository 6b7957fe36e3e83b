import OperateBench.Maintenance.Grammar

/-! # The calls that a trajectory answers

A call is answered by one row, or by the adjacent rows of one batch. The checker of the turns is at
each row in a state that follows the rows before it: it counts the calls they answer and knows the
batch that the last of them belongs to.
-/

namespace OperateBench.Maintenance

open Foundation

namespace Evaluator

section Calls

/-- The row is a further result of the batch that the preceding row belongs to. -/
def extends? (preceding : Option Fields) (row : Fields) : Bool :=
  preceding.any fun first => typed "retrieval_served" first &&
    (row.get "batch_index").equals (first.get "batch_index")

/-- The row is the first that answers a call. -/
def opensCall (preceding : Option Fields) (row : Fields) : Bool :=
  if typed "retrieval_served" row then !extends? preceding row
  else among ["retrieval_refused", "agent_outcome", "outcome_rejected"] (row.get "record_type")

/-- The number of calls that the rows of an invocation answer. -/
def callsAnswered (preceding : Option Fields) : List Fields → ℕ
  | [] => 0
  | row :: rows => (opensCall preceding row).toNat + callsAnswered (some row) rows

end Calls

section Rows

variable {row : Fields} {recordType other : String}

theorem typed_iff : typed recordType row = true ↔ row.get "record_type" = .str recordType :=
  Value.isStr_iff

/-- A row has one type. -/
theorem typed_other (h : typed recordType row = true) :
    typed other row = (recordType == other) := by
  rw [typed, typed_iff.mp h, Value.isStr_str]

theorem among_of_typed {recordTypes : List String} (h : typed recordType row = true) :
    among recordTypes (row.get "record_type") = recordTypes.contains recordType := by
  rw [among, typed_iff.mp h, List.contains_eq_any_beq]
  rfl

theorem callsAnswered_append {preceding : Option Fields} {rows : List Fields} :
    callsAnswered preceding (rows ++ [row]) = callsAnswered preceding rows +
      (opensCall (rows.getLast?.or preceding) row).toNat := by
  induction rows generalizing preceding with
  | nil => simp [callsAnswered]
  | cons first rows ih =>
    rw [List.cons_append, callsAnswered, callsAnswered, ih, Nat.add_assoc]
    cases rows <;> simp [List.getLast?_cons]

end Rows

section Turns

namespace TurnState

variable {s t : TurnState} {row : Fields} {position : ℕ}

/-- The row answers a call that no row before it answered. -/
def answers (s : TurnState) (row : Fields) : Bool :=
  if typed "retrieval_served" row then !s.continues row
  else among callRecordTypes (row.get "record_type")

/-- The state behind a row that is not reported. -/
def behind (s : TurnState) (row : Fields) : TurnState where
  invocation := s.invocation
  expectedTurn := s.expectedTurn + (s.answers row).toNat
  currentTurn := if s.answers row then some s.expectedTurn else s.currentTurn
  openBatch := if typed "retrieval_served" row then
      if s.answers row then row.get "batch_index" else s.openBatch
    else .none

theorem invocationBinding_silent (h : s.invocationBinding position row = []) :
    (row.get "invocation_index").equals s.invocation = true := by
  unfold invocationBinding at h
  split at h
  · cases h
  · rename_i hnamed
    simp only [Bool.or_eq_true, not_or, Bool.not_eq_true', Bool.not_eq_false] at hnamed
    exact hnamed.2

theorem callTurn_silent (h : s.callTurn position row = (t, [])) :
    counterValue (row.get "turn_index") = some s.expectedTurn ∧
      t = { s with currentTurn := some s.expectedTurn, expectedTurn := s.expectedTurn + 1 } := by
  obtain ⟨hstate, hfound⟩ := Prod.mk.inj h
  refine ⟨?_, hstate.symm⟩
  by_contra hturn
  rw [if_neg hturn] at hfound
  cases hfound

/-- What a row that is not reported says, and the state behind it. -/
theorem step_silent (hrow : typed "agent_invoked" row = false)
    (h : step position s row = .ok (t, [])) : t = s.behind row ∧
    (among invocationBoundTypes (row.get "record_type") = true →
      (row.get "invocation_index").equals s.invocation = true) ∧
    (s.answers row = true → counterValue (row.get "turn_index") = some s.expectedTurn) := by
  rw [step, if_neg (by simp [hrow])] at h
  obtain ⟨bound, hbound, h⟩ := bind_ok h
  have hnamed : (if bound then s.invocationBinding position row else []) = [] →
      among invocationBoundTypes (row.get "record_type") = true →
      (row.get "invocation_index").equals s.invocation = true := by
    intro hsilent hamong
    rw [show bound = true from (Value.isIn_texts hbound).symm.trans hamong, if_pos rfl] at hsilent
    exact invocationBinding_silent hsilent
  dsimp only at h
  generalize (if bound then s.invocationBinding position row else []) = misplaced at h hnamed
  by_cases hserved : typed "retrieval_served" row
  · rw [if_pos hserved] at h
    have hanswers : s.answers row = !s.continues row := if_pos hserved
    split at h
    · rename_i hbatch
      obtain ⟨rfl, hsilent⟩ := Prod.mk.inj (pure_ok h)
      have hno : s.answers row = false := by rw [hanswers, hbatch]; rfl
      refine ⟨?_, hnamed hsilent, fun hyes => absurd hyes (by simp [hno])⟩
      simp [behind, hno, hserved]
    · rename_i hbatch
      obtain ⟨rfl, hsilent⟩ := Prod.mk.inj (pure_ok h)
      have hyes : s.answers row = true := by rw [hanswers]; simpa using hbatch
      obtain ⟨hplace, hfound⟩ := List.append_eq_nil_iff.mp hsilent
      obtain ⟨hturn, -⟩ := callTurn_silent (Prod.ext rfl hfound)
      refine ⟨?_, hnamed hplace, fun _ => hturn⟩
      simp [behind, hyes, hserved, callTurn]
  · rw [if_neg hserved] at h
    obtain ⟨call, hcall, h⟩ := bind_ok h
    have hanswers : s.answers row = call :=
      (if_neg hserved).trans (Value.isIn_texts hcall)
    cases call with
    | true =>
      obtain ⟨rfl, hsilent⟩ := Prod.mk.inj (pure_ok h)
      obtain ⟨hplace, hfound⟩ := List.append_eq_nil_iff.mp hsilent
      obtain ⟨hturn, -⟩ := callTurn_silent (Prod.ext rfl hfound)
      refine ⟨?_, hnamed hplace, fun _ => hturn⟩
      simp [behind, hanswers, hserved, callTurn]
    | false =>
      simp only [Bool.false_eq_true, if_false] at h
      have hplace : misplaced = [] ∧ t = { s with openBatch := .none } := by
        split at h
        · obtain ⟨rfl, hsilent⟩ := Prod.mk.inj (pure_ok h)
          exact ⟨(List.append_eq_nil_iff.mp hsilent).1, rfl⟩
        · obtain ⟨rfl, hsilent⟩ := Prod.mk.inj (pure_ok h)
          exact ⟨hsilent, rfl⟩
      obtain ⟨hplace, rfl⟩ := hplace
      refine ⟨?_, hnamed hplace, fun hyes => absurd hyes (by simp [hanswers])⟩
      simp [behind, hanswers, hserved]

/-- The state before a row knows the call that the rows before it were answering. -/
structure Followed (opened : Fields) (rows : List Fields) (s : TurnState) : Prop where
  invocation : s.invocation = opened.get "invocation_index"
  expectedTurn : s.expectedTurn = callsAnswered none rows
  continues : ∀ row, s.continues row = extends? rows.getLast? row

variable {opened : Fields} {rows : List Fields}

theorem Followed.answers (h : Followed opened rows s) :
    s.answers row = opensCall rows.getLast? row := by
  unfold TurnState.answers opensCall
  split
  · rw [h.continues]
  · rename_i hserved
    rw [callRecordTypes, among, among, List.any_cons]
    rw [typed] at hserved
    simp [hserved]

/-- A row of the batch that is open leaves the same batch open as the row before it. -/
theorem behind_continues {n : Int} (hserved : typed "retrieval_served" row = true)
    (hnumber : (row.get "batch_index").counted = .int n) (next : Fields) :
    (s.behind row).continues next = extends? (some row) next := by
  have hextends : extends? (some row) next =
      (next.get "batch_index").equals (row.get "batch_index") := by
    simp [extends?, hserved]
  rw [hextends, TurnState.continues]
  cases hcontinues : s.continues row with
  | false =>
    have hanswers : s.answers row = true := by rw [answers, if_pos hserved, hcontinues]; rfl
    have hopen : (s.behind row).openBatch = row.get "batch_index" := by
      simp [behind, hserved, hanswers]
    rw [hopen, Value.isNone_of_counted hnumber, Bool.not_false, Bool.true_and]
  | true =>
    have hanswers : s.answers row = false := by rw [answers, if_pos hserved, hcontinues]; rfl
    rw [continues, Bool.and_eq_true] at hcontinues
    have hsame := Value.counted_of_equals hnumber hcontinues.2
    have hopen : (s.behind row).openBatch = s.openBatch := by simp [behind, hserved, hanswers]
    rw [hopen, Value.isNone_of_counted hsame, Bool.not_false, Bool.true_and, Bool.eq_iff_iff,
      Value.equals_iff_counted hsame, Value.equals_iff_counted hnumber]

theorem Followed.behind (h : Followed opened rows s)
    (hnumber : typed "retrieval_served" row = true →
      ∃ n : Int, (row.get "batch_index").counted = .int n) :
    Followed opened (rows ++ [row]) (s.behind row) where
  invocation := h.invocation
  expectedTurn := by
    rw [callsAnswered_append, Option.or_none, ← h.answers, ← h.expectedTurn]
    rfl
  continues next := by
    rw [List.getLast?_append_of_ne_nil rows (List.cons_ne_nil row []), List.getLast?_singleton]
    cases hserved : typed "retrieval_served" row with
    | true =>
      obtain ⟨n, hn⟩ := hnumber hserved
      exact behind_continues hserved hn next
    | false => simp [TurnState.continues, TurnState.behind, extends?, hserved, Value.isNone]

end TurnState

end Turns

end Evaluator

end OperateBench.Maintenance
