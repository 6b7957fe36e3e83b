import OperateBench.Agents.ToolCalls

/-! # What the parser returns

Each tool is looked into once, to see what it builds out of its arguments. The parser returns for
every call whose arguments the interpreter converts to text.
-/

namespace OperateBench.Agents

open Foundation

section Inversion

/-- What a tool builds out of its arguments. -/
inductive Built (entries : List (Value × Value)) : Tool → Answer → Prop
  | act : Built entries .act (.act (entryOr entries "action_type" .none)
      (entryOr entries "payload" (.dict [])) (refs (entryOr entries "evidence_refs" (.tuple [])))
      (entryOr entries "rationale" (.str "")))
  | wait {raw : RawWait} (hraw : waitOf entries = .ok raw) : Built entries .wait (.wait raw)
  | ask {nested : List (Value × Value)} {raw : RawWait}
      (hnested : entryOr entries "wait" .none = .dict nested) (hraw : waitOf nested = .ok raw) :
      Built entries .ask (.ask (entryOr entries "recipient_actor_id" .none)
        (entryOr entries "message_fixture_id" .none) (.inl raw)
        (entryOr entries "correlation_id" .none))
  | escalate : Built entries .escalate (.escalate (entryOr entries "checkpoint_id" .none)
      (entryOr entries "exception_type" .none)
      (refs (entryOr entries "evidence_refs" (.tuple [])))
      (entryOr entries "deadline_after_minutes" (.int 1440))
      (entryOr entries "rationale" (.str "")))
  | complete : Built entries .complete (.complete (entryOr entries "reason" (.str ""))
      (refs (entryOr entries "evidence_refs" (.tuple []))))
  | retrieve {values : List Value} {requests : List RawRequest}
      (hvalues : entryOr entries "requests" .none = .list values)
      (hrequests : requestsOf 0 values = .ok requests) :
      Built entries .retrieve (.retrieve (.sequence requests))

theorem map_answer {built : Except Refusal Answer} {answer : Answer}
    (h : Decision.answer <$> built = .ok (.answer answer)) : built = .ok answer := by
  obtain ⟨a, rfl, heq⟩ := map_ok h
  cases heq
  rfl

theorem build_answer {tool : Tool} {entries : List (Value × Value)} {answer : Answer}
    (h : build tool entries = .ok (.answer answer)) : Built entries tool answer := by
  cases tool with
  | act =>
    simp only [build] at h
    have hact := map_answer h
    unfold Construct.act at hact
    split at hact
    · cases hact
      exact .act
    · cases hact
  | wait =>
    simp only [build] at h
    obtain ⟨raw, hraw, h⟩ := map_ok h
    cases h
    exact .wait hraw
  | ask =>
    simp only [build] at h
    split at h
    · rename_i nested hnested
      split at h
      · cases h
      · obtain ⟨raw, hraw, h⟩ := bind_ok h
        have hask := map_answer h
        unfold Construct.ask at hask
        split at hask
        · cases hask
          exact .ask hnested hraw
        · cases hask
    · cases h
  | escalate =>
    simp only [build] at h
    have hescalate := map_answer h
    unfold Construct.escalate at hescalate
    split at hescalate
    · cases hescalate
      exact .escalate
    · cases hescalate
  | complete =>
    simp only [build] at h
    cases h
    exact .complete
  | retrieve =>
    simp only [build, Except.ok.injEq] at h
    unfold retrieve at h
    split at h
    · rename_i values hvalues
      split at h
      · rename_i requests hrequests
        cases h
        exact .retrieve hvalues hrequests
      · cases h
    · cases h

theorem waitOf_fields {entries : List (Value × Value)} {raw : RawWait}
    (h : waitOf entries = .ok raw) :
    raw.wakeOn = refs (entryOr entries "wake_on" (.tuple [])) ∧
      raw.fallbackAfterMinutes = entryOr entries "fallback_after_minutes" .none := by
  unfold waitOf Construct.wait at h
  split at h
  · split at h
    · obtain rfl := Except.ok.inj h
      exact ⟨rfl, rfl⟩
    · cases h
  · cases h

theorem requestOf_ok {position : ℕ} {value : Value} {request : RawRequest}
    (h : requestOf position value = .ok request) : ∃ entries tool arguments,
      value = .dict entries ∧ request = .request (.str tool) (.dict arguments) ∧
      (arguments = [] ∨ item? entries "arguments" = some (.dict arguments)) := by
  unfold requestOf at h
  split at h
  · rename_i entries
    dsimp only at h
    split at h
    · rename_i tool _ _
      split at h
      · cases h
      · cases h
      · rename_i text _ htool
        have hstr : tool = .str text := by
          cases tool with
          | str u => exact congrArg Value.str (Option.some.inj htool)
          | _ => cases htool
        split at h
        · cases h
          exact ⟨entries, text, [], rfl, by rw [hstr], .inl rfl⟩
        · rename_i given hgiven
          cases h
          refine ⟨entries, text, given, rfl, by rw [hstr], ?_⟩
          rw [entryOr] at hgiven
          cases hentry : item? entries "arguments" with
          | none => rw [hentry] at hgiven; cases hgiven
          | some v => rw [hentry] at hgiven; exact .inr (congrArg some hgiven)
        · cases h
    · cases h
  · cases h

theorem requestsOf_ok {position : ℕ} {values : List Value} {requests : List RawRequest}
    (h : requestsOf position values = .ok requests) :
    ∀ request ∈ requests, ∃ value ∈ values, ∃ i, requestOf i value = .ok request := by
  induction values generalizing position requests with
  | nil =>
    obtain rfl := pure_ok h
    exact List.forall_mem_nil _
  | cons value values ih =>
    obtain ⟨first, hfirst, h⟩ := bind_ok h
    obtain ⟨rest, hrest, h⟩ := bind_ok h
    obtain rfl := pure_ok h
    rw [List.forall_mem_cons]
    constructor
    · exact ⟨value, List.mem_cons_self, position, hfirst⟩
    · intro request hmem
      obtain ⟨v, hv, i, hi⟩ := ih hrest request hmem
      exact ⟨v, List.mem_cons_of_mem _ hv, i, hi⟩

theorem contracted_ok {tool : Tool} {answer : Answer}
    (h : contracted tool (.answer answer) = .ok (.answer answer)) :
    (∃ requests, answer = .retrieve requests) ∨ ∃ outcome, outcomeContract answer = .ok outcome := by
  unfold contracted at h
  split at h
  · rename_i heq
    cases heq
    exact .inl ⟨_, rfl⟩
  · rename_i heq
    cases heq
    split at h
    · rename_i hcontract
      exact .inr ⟨_, hcontract⟩
    · cases h
    · cases h
  · rename_i heq
    cases heq

theorem parseToolCall_answer {call : ToolCall} {answer : Answer}
    (h : parseToolCall call = .ok (.answer answer)) : ∃ tool entries,
      call.arguments = .dict entries ∧ build tool entries = .ok (.answer answer) ∧
      contracted tool (.answer answer) = .ok (.answer answer) := by
  unfold parseToolCall at h
  split at h
  · cases h
  · rename_i tool _
    split at h
    · rename_i entries harguments
      split at h
      · cases h
      · split at h
        · rename_i built hbuild
          refine ⟨tool, entries, harguments, ?_⟩
          cases built with
          | malformed outcome => cases h
          | answer built =>
            have hsame : built = answer := by
              have h' := h
              unfold contracted at h'
              split at h'
              · rename_i heq; cases heq; cases h'; rfl
              · rename_i heq
                cases heq
                split at h'
                · cases h'; rfl
                · cases h'
                · cases h'
              · cases h'
            subst hsame
            exact ⟨hbuild, h⟩
        · cases h
        · cases h
    · cases h

end Inversion

section Quiet

/-- Reading ends with a value or a named problem. -/
def Quiet {α : Type} (read : Except Unreadable α) : Prop := ∀ e, read ≠ .error (.raises e)

theorem quiet_ok {α : Type} {a : α} : Quiet (.ok a) := nofun

theorem quiet_problem {α : Type} {detail : String} : Quiet (Contract.problem (α := α) detail) :=
  nofun

theorem quiet_showing {α : Type} {pre : String} {v : Value} (h : v.renderable) :
    Quiet (Contract.problemShowing (α := α) pre v) := by
  intro e
  rw [Contract.problemShowing, Value.reprText, if_pos h]
  nofun

theorem Quiet.bind {α β : Type} {read : Except Unreadable α} {next : α → Except Unreadable β}
    (h : Quiet read) (hnext : ∀ a, read = .ok a → Quiet (next a)) : Quiet (read >>= next) := by
  cases read with
  | ok a => exact hnext a rfl
  | error unreadable =>
    rintro e ⟨⟩
    exact h e rfl

theorem itemsRenderable_iff {vs : List Value} :
    Value.itemsRenderable vs ↔ ∀ v ∈ vs, v.renderable := by
  induction vs with
  | nil => simp [Value.itemsRenderable]
  | cons v vs ih => simp [Value.itemsRenderable, ih]

theorem entriesRenderable_iff {es : List (Value × Value)} :
    Value.entriesRenderable es ↔ ∀ e ∈ es, e.1.renderable ∧ e.2.renderable := by
  induction es with
  | nil => simp [Value.entriesRenderable]
  | cons e es ih => simp [Value.entriesRenderable, ih, and_assoc]

theorem quiet_refItems {what : String} {position : ℕ} {items : List Value}
    (h : ∀ item ∈ items, item.renderable) : Quiet (Contract.refItems what position items) := by
  induction items generalizing position with
  | nil => exact quiet_ok
  | cons item items ih =>
    have hitem : item.renderable := h item List.mem_cons_self
    rw [Contract.refItems]
    split
    · split
      · exact quiet_showing hitem
      · apply Quiet.bind
        · exact ih fun item hmem => h item (List.mem_cons_of_mem _ hmem)
        · intro rest _
          exact quiet_ok
    · exact quiet_showing hitem

theorem quiet_refs {what : String} {value : Value} (h : value.renderable) :
    Quiet (Contract.refs value what) := by
  unfold Contract.refs
  split
  · exact quiet_refItems (itemsRenderable_iff.mp h)
  · exact quiet_refItems (itemsRenderable_iff.mp h)
  · exact quiet_problem

theorem quiet_text {what : String} {value : Value} : Quiet (Contract.text value what) := by
  unfold Contract.text
  split
  · split
    · exact quiet_problem
    · exact quiet_ok
  · exact quiet_problem

theorem quiet_string {complaint : String} {value : Value} :
    Quiet (Contract.string value complaint) := by
  unfold Contract.string
  split
  · exact quiet_ok
  · exact quiet_problem

theorem quiet_payload {value : Value} (h : value.renderable) : Quiet (Contract.payload value) := by
  have hfields (es : List (Value × Value)) (h : ∀ e ∈ es, e.1.renderable ∧ e.2.renderable) :
      Quiet (Contract.payloadFields es) := by
    induction es with
    | nil => exact quiet_ok
    | cons e es ih =>
      obtain ⟨key, value⟩ := e
      rw [Contract.payloadFields]
      split
      · split
        · exact quiet_problem
        · apply Quiet.bind
          · exact ih fun e hmem => h e (List.mem_cons_of_mem _ hmem)
          · intro rest _
            exact quiet_ok
      · rw [Value.reprText, if_pos (h _ List.mem_cons_self).1]
        exact quiet_problem
  unfold Contract.payload
  split
  · apply Quiet.bind
    · exact hfields _ (entriesRenderable_iff.mp h)
    · intro fields _
      exact quiet_ok
  · exact quiet_problem

theorem quiet_fallback {value : Value} : Quiet (Contract.fallback value) := by
  unfold Contract.fallback
  split
  · exact quiet_ok
  · exact quiet_ok
  · exact quiet_problem

theorem quiet_wait {raw : RawWait} (h : raw.wakeOn.renderable) : Quiet (Contract.wait raw) := by
  unfold Contract.wait
  apply Quiet.bind
  · exact quiet_string
  · intro reason _
    split
    · rename_i e he
      rintro _ ⟨⟩
      exact quiet_refs h _ he
    · split
      · rename_i e he
        rintro _ ⟨⟩
        exact quiet_fallback _ he
      · exact quiet_ok

theorem quiet_correlation {value : Value} : Quiet (Contract.correlation value) := by
  unfold Contract.correlation
  split
  · exact quiet_ok
  · split
    · split
      · exact quiet_problem
      · exact quiet_ok
    · exact quiet_problem

theorem quiet_deadline {value : Value} (h : value.renderable) :
    Quiet (Contract.deadline value) := by
  unfold Contract.deadline
  split
  · split
    · exact quiet_ok
    · exact quiet_showing h
  · exact quiet_showing h

/-- What the contract may show of an answer has a text. -/
def Shows : Answer → Prop
  | .act _ payload evidenceRefs _ => payload.renderable ∧ evidenceRefs.renderable
  | .wait raw => raw.wakeOn.renderable
  | .ask _ _ (.inl raw) _ => raw.wakeOn.renderable
  | .ask _ _ (.inr _) _ => True
  | .escalate _ _ evidenceRefs deadlineAfterMinutes _ =>
    evidenceRefs.renderable ∧ deadlineAfterMinutes.renderable
  | .complete _ evidenceRefs => evidenceRefs.renderable
  | .retrieve _ | .other _ => True

theorem quiet_contract {answer : Answer} (h : Shows answer) : Quiet (outcomeContract answer) := by
  cases answer with
  | act actionType payload evidenceRefs rationale =>
    exact quiet_text.bind fun _ _ => (quiet_payload h.1).bind fun _ _ =>
      (quiet_refs h.2).bind fun _ _ => quiet_string.bind fun _ _ => quiet_ok
  | wait raw => exact (quiet_wait h).bind fun _ _ => quiet_ok
  | ask recipientActorId messageFixtureId wait correlationId =>
    apply quiet_text.bind; intro _ _
    apply quiet_text.bind; intro _ _
    apply quiet_correlation.bind; intro _ _
    cases wait with
    | inl raw => exact (quiet_wait h).bind fun _ _ => quiet_ok
    | inr value => exact quiet_problem.bind fun _ _ => quiet_ok
  | escalate checkpointId exceptionType evidenceRefs deadlineAfterMinutes rationale =>
    exact quiet_text.bind fun _ _ => quiet_text.bind fun _ _ => (quiet_refs h.1).bind fun _ _ =>
      (quiet_deadline h.2).bind fun _ _ => quiet_string.bind fun _ _ => quiet_ok
  | complete reason evidenceRefs =>
    exact quiet_string.bind fun _ _ => (quiet_refs h).bind fun _ _ => quiet_ok
  | retrieve requests => exact quiet_problem
  | other typeName => exact quiet_problem

end Quiet

section Total

theorem item?_mem {entries : List (Value × Value)} {name : String} {value : Value}
    (h : item? entries name = some value) : ∃ key, (key, value) ∈ entries := by
  rw [item?, Option.map_eq_some_iff] at h
  obtain ⟨⟨key, v⟩, hfind, rfl⟩ := h
  exact ⟨key, List.mem_of_find?_eq_some hfind⟩

theorem entryOr_of {P : Value → Prop} {entries : List (Value × Value)} {name : String}
    {fallback : Value} (h : ∀ e ∈ entries, P e.2) (hfallback : P fallback) :
    P (entryOr entries name fallback) := by
  unfold entryOr
  cases he : item? entries name with
  | none => exact hfallback
  | some value =>
    obtain ⟨key, hmem⟩ := item?_mem he
    exact h _ hmem

theorem refs_renderable {value : Value} (h : value.renderable) : (refs value).renderable := by
  unfold refs
  split <;> exact h

theorem int_renderable {n : ℤ} (h : n.natAbs < 10 ^ 4) : (Value.int n).renderable := by
  have hle : 10 ^ 4 ≤ Value.maxJsonInteger := by
    unfold Value.maxJsonInteger
    apply Nat.pow_le_pow_right <;> decide
  rw [Value.renderable]
  exact decide_eq_true (h.trans_le hle)

theorem waitOf_shows {entries : List (Value × Value)} {raw : RawWait}
    (h : ∀ e ∈ entries, e.2.renderable) (hraw : waitOf entries = .ok raw) :
    raw.wakeOn.renderable := by
  rw [(waitOf_fields hraw).1]
  exact refs_renderable (entryOr_of (P := fun v => v.renderable) h rfl)

theorem build_shows {tool : Tool} {entries : List (Value × Value)} {answer : Answer}
    (h : ∀ e ∈ entries, e.2.renderable) (hbuild : Built entries tool answer) : Shows answer := by
  have hentry {name : String} {fallback : Value} (hfallback : fallback.renderable) :
      (entryOr entries name fallback).renderable :=
    entryOr_of (P := fun v => v.renderable) h hfallback
  cases hbuild with
  | act => exact ⟨hentry rfl, refs_renderable (hentry rfl)⟩
  | wait hraw => exact waitOf_shows h hraw
  | ask hnested hraw =>
    apply waitOf_shows _ hraw
    intro e hmem
    have hrenderable : (entryOr entries "wait" .none).renderable := hentry rfl
    rw [hnested] at hrenderable
    exact (entriesRenderable_iff.mp hrenderable e hmem).2
  | escalate => exact ⟨refs_renderable (hentry rfl), hentry (int_renderable (by decide))⟩
  | complete => exact refs_renderable (hentry rfl)
  | retrieve => trivial

/-- The parser returns an answer or a classification. -/
theorem parseToolCall_returns {call : ToolCall} (h : call.arguments.renderable) :
    ∃ decision, parseToolCall call = .ok decision := by
  unfold parseToolCall
  split
  · exact ⟨_, rfl⟩
  · rename_i tool _
    split
    · rename_i entries harguments
      rw [harguments] at h
      split
      · exact ⟨_, rfl⟩
      · split
        · rename_i built hbuild
          cases built with
          | malformed outcome => exact ⟨_, rfl⟩
          | answer answer =>
            have hshows : Shows answer :=
              build_shows (fun e hmem => (entriesRenderable_iff.mp h e hmem).2)
                (build_answer hbuild)
            have hquiet := quiet_contract hshows
            unfold contracted
            split
            · exact ⟨_, rfl⟩
            · split
              · exact ⟨_, rfl⟩
              · exact ⟨_, rfl⟩
              · rename_i heq _ e he
                cases heq
                exact absurd he (hquiet e)
            · exact ⟨_, rfl⟩
        · exact ⟨_, rfl⟩
        · exact ⟨_, rfl⟩
    · exact ⟨_, rfl⟩

end Total

end OperateBench.Agents
