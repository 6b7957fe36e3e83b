import OperateBench.Agents.Parsing
import OperateBench.Agents.Playback
import OperateBench.Core.Shown

/-! # A parsed answer survives its record

What JSON carries passes through a JSON text unchanged. The fields of an answer that the contract
accepts are texts and such values, and so the answer is rebuilt from its record.
-/

namespace OperateBench.Agents

open Foundation

section Inversion

variable {what complaint : String} {value : Value}

theorem text_ok {s : String} (h : Contract.text value what = .ok s) : value = .str s ∧ s ≠ "" := by
  unfold Contract.text at h
  split at h
  · rename_i t ht
    split at h
    · cases h
    · rename_i hne
      obtain rfl := Except.ok.inj h
      cases value with
      | str u => exact ⟨congrArg Value.str (Option.some.inj ht), hne⟩
      | _ => cases ht
  · cases h

theorem string_ok {s : String} (h : Contract.string value complaint = .ok s) :
    value = .str s := by
  unfold Contract.string at h
  split at h
  · rename_i t ht
    obtain rfl := Except.ok.inj h
    cases value with
    | str u => exact congrArg Value.str (Option.some.inj ht)
    | _ => cases ht
  · cases h

theorem correlation_ok {c : Option String} (h : Contract.correlation value = .ok c) :
    value = .ofText? c := by
  unfold Contract.correlation at h
  split at h
  · obtain rfl := Except.ok.inj h
    rfl
  · split at h
    · rename_i t ht
      split at h
      · cases h
      · obtain rfl := Except.ok.inj h
        cases value with
        | str u => exact congrArg Value.str (Option.some.inj ht)
        | _ => cases ht
    · cases h

theorem deadline_ok {n : {n : ℤ // 0 < n}} (h : Contract.deadline value = .ok n) :
    value = .int n.1 := by
  unfold Contract.deadline at h
  split at h
  · split at h
    · obtain rfl := Except.ok.inj h
      rfl
    · unfold Contract.problemShowing at h
      split at h <;> cases h
  · unfold Contract.problemShowing at h
    split at h <;> cases h

theorem refItems_ok {position : ℕ} {items : List Value} {ss : List String}
    (h : Contract.refItems what position items = .ok ss) : items = ss.map .str := by
  induction items generalizing position ss with
  | nil => obtain rfl := pure_ok h; rfl
  | cons item items ih =>
    rw [Contract.refItems] at h
    split at h
    · rename_i t ht
      split at h
      · unfold Contract.problemShowing at h
        split at h <;> cases h
      · obtain ⟨rest, hrest, h⟩ := bind_ok h
        obtain rfl := pure_ok h
        cases item with
        | str u =>
          obtain rfl := Option.some.inj ht
          rw [ih hrest, List.map_cons]
        | _ => cases ht
    · unfold Contract.problemShowing at h
      split at h <;> cases h

/-- References that are no list are a tuple of texts. -/
theorem refs_ok {ss : List String} (h : Contract.refs (refs value) what = .ok ss) :
    refs value = .tuple (ss.map .str) := by
  cases value with
  | list items | tuple items => exact congrArg Value.tuple (refItems_ok h)
  | _ => cases h

theorem payload_ok {fields : Fields} (h : Contract.payload value = .ok fields) :
    ∃ entries, value = .dict entries := by
  unfold Contract.payload at h
  split at h
  · exact ⟨_, rfl⟩
  · cases h

theorem wait_ok {raw : RawWait} {wait : Wait} (h : Contract.wait raw = .ok wait) :
    raw.reason = .str wait.reason ∧ Contract.refs raw.wakeOn "WAIT wake_on" = .ok wait.wakeOn ∧
      raw.fallbackAfterMinutes = (wait.fallbackAfterMinutes.map Value.int).getD .none := by
  unfold Contract.wait at h
  obtain ⟨reason, hreason, h⟩ := bind_ok h
  split at h
  · cases h
  · rename_i wakeOn hwakeOn
    split at h
    · cases h
    · rename_i minutes hminutes
      obtain rfl := Except.ok.inj h
      exact ⟨string_ok hreason, hwakeOn, Contract.fallback_ok hminutes⟩

end Inversion

section Carried

mutual

/-- Every mapping of the value holds a key once. -/
def KeyedOnce : Value → Prop
  | .list items | .tuple items => ItemsKeyedOnce items
  | .dict entries => (entries.map Prod.fst).Nodup ∧ EntriesKeyedOnce entries
  | _ => True

def ItemsKeyedOnce : List Value → Prop
  | [] => True
  | v :: vs => KeyedOnce v ∧ ItemsKeyedOnce vs

def EntriesKeyedOnce : List (Value × Value) → Prop
  | [] => True
  | (_, v) :: es => KeyedOnce v ∧ EntriesKeyedOnce es

end

/-- A JSON value that a mapping of the language can hold. -/
def Carried (value : Value) : Prop := value.isJson ∧ KeyedOnce value

theorem itemsKeyedOnce_iff {vs : List Value} : ItemsKeyedOnce vs ↔ ∀ v ∈ vs, KeyedOnce v := by
  induction vs with
  | nil => simp [ItemsKeyedOnce]
  | cons v vs ih => simp [ItemsKeyedOnce, ih]

theorem entriesKeyedOnce_iff {es : List (Value × Value)} :
    EntriesKeyedOnce es ↔ ∀ e ∈ es, KeyedOnce e.2 := by
  induction es with
  | nil => simp [EntriesKeyedOnce]
  | cons e es ih => simp [EntriesKeyedOnce, ih]

theorem carried_list {items : List Value} :
    Carried (.list items) ↔ ∀ item ∈ items, Carried item := by
  simp only [Carried, Value.isJson, KeyedOnce, Value.itemsJson_iff, itemsKeyedOnce_iff]
  exact ⟨fun h item hmem => ⟨h.1 item hmem, h.2 item hmem⟩,
    fun h => ⟨fun item hmem => (h item hmem).1, fun item hmem => (h item hmem).2⟩⟩

theorem carried_dict {entries : List (Value × Value)} :
    Carried (.dict entries) ↔ (entries.map Prod.fst).Nodup ∧
      ∀ e ∈ entries, e.1.asStr?.isSome ∧ Carried e.2 := by
  simp only [Carried, Value.isJson, KeyedOnce, Value.entriesJson_iff, entriesKeyedOnce_iff]
  exact ⟨fun h => ⟨h.2.1, fun e hmem => ⟨(h.1 e hmem).1, (h.1 e hmem).2, h.2.2 e hmem⟩⟩,
    fun h => ⟨fun e hmem => ⟨(h.2 e hmem).1, (h.2 e hmem).2.1⟩, h.1,
      fun e hmem => (h.2 e hmem).2.2⟩⟩

theorem carried_str {s : String} : Carried (.str s) := ⟨rfl, trivial⟩

theorem carried_texts {ss : List String} : Carried (.list (ss.map .str)) := by
  rw [carried_list]
  intro item hmem
  obtain ⟨s, -, rfl⟩ := List.mem_map.mp hmem
  exact carried_str

theorem carried_fields {fields : List (String × Value)} (hkeys : (fields.map Prod.fst).Nodup)
    (h : ∀ e ∈ fields, Carried e.2) : Carried (.ofFields fields) := by
  rw [Value.ofFields, carried_dict]
  constructor
  · rw [List.map_map]
    have hcomp : (Prod.fst ∘ fun e : String × Value => (Value.str e.1, e.2)) =
        Value.str ∘ Prod.fst := rfl
    rw [hcomp, ← List.map_map]
    exact hkeys.map fun a b heq => Value.str.inj heq
  · intro e hmem
    obtain ⟨field, hfield, rfl⟩ := List.mem_map.mp hmem
    exact ⟨rfl, h field hfield⟩

end Carried

section Passage

mutual

/-- What JSON carries passes through its text unchanged. -/
theorem jsonRoundTrip_eq {v : Value} (hjson : v.isJson) (hkeys : KeyedOnce v) :
    jsonRoundTrip v = .ok v := by
  cases v with
  | none | bool | str | float => rfl
  | int n =>
    simp only [Value.isJson] at hjson
    simp only [jsonRoundTrip, Value.renderable, hjson, if_true]
  | list items =>
    have hitems : itemsRoundTrip items = .ok items := itemsRoundTrip_eq hjson hkeys
    simp only [jsonRoundTrip, hitems]
    rfl
  | dict entries =>
    obtain ⟨members, hmembers, rfl⟩ := @entriesRoundTrip_eq entries hjson hkeys.2
    have hnodup : (members.map Prod.fst).Nodup := by
      have hmap := hkeys.1
      rw [List.map_map] at hmap
      exact List.Nodup.of_map Value.str (by rwa [List.map_map])
    simp only [jsonRoundTrip, hmembers, ok_bind, Dict.entries_ofList hnodup]
    rfl
  | tuple | other => cases hjson
termination_by structural v

theorem itemsRoundTrip_eq {items : List Value} (hjson : Value.itemsJson items)
    (hkeys : ItemsKeyedOnce items) : itemsRoundTrip items = .ok items := by
  cases items with
  | nil => rfl
  | cons v vs =>
    rw [Value.itemsJson, Bool.and_eq_true] at hjson
    rw [itemsRoundTrip, jsonRoundTrip_eq hjson.1 hkeys.1, ok_bind,
      itemsRoundTrip_eq hjson.2 hkeys.2, ok_bind]
    rfl
termination_by structural items

theorem entriesRoundTrip_eq {entries : List (Value × Value)} (hjson : Value.entriesJson entries)
    (hkeys : EntriesKeyedOnce entries) : ∃ members, entriesRoundTrip entries = .ok members ∧
      entries = members.map fun e => (Value.str e.1, e.2) := by
  match entries with
  | [] => exact ⟨[], rfl, rfl⟩
  | (key, v) :: es =>
    rw [Value.entriesJson, Bool.and_eq_true, Bool.and_eq_true] at hjson
    obtain ⟨⟨hkey, hv⟩, hes⟩ := hjson
    obtain ⟨members, hmembers, rfl⟩ := entriesRoundTrip_eq hes hkeys.2
    cases key with
    | str name =>
      refine ⟨(name, v) :: members, ?_, rfl⟩
      rw [entriesRoundTrip, jsonRoundTrip_eq hv hkeys.1, hmembers]
      rfl
    | _ => cases hkey
termination_by structural entries

end

end Passage

section Survival

/-- The record of the decision passes through a JSON text, and the decision is rebuilt from it. -/
def Survives (decision : Decision) : Prop :=
  ∃ record back, decisionRecord decision = .ok (.dict record) ∧
    jsonRoundTrip (.dict record) = .ok (.dict back) ∧ outcomeFromRecord back = .ok decision

theorem survives_of {decision : Decision} {record : List (Value × Value)}
    (hrecord : decisionRecord decision = .ok (.dict record)) (hcarried : Carried (.dict record))
    (hback : outcomeFromRecord record = .ok decision) : Survives decision :=
  ⟨record, record, hrecord, jsonRoundTrip_eq hcarried.1 hcarried.2, hback⟩

/-- A wait that the contract accepts is constructed again from its own fields. -/
theorem construct_wait {raw : RawWait} {minutes : Option ℤ}
    (hminutes : raw.fallbackAfterMinutes = (minutes.map Value.int).getD .none) :
    Construct.wait raw.reason raw.wakeOn raw.fallbackAfterMinutes = .ok raw := by
  have hchecked : Construct.checkFallback raw.fallbackAfterMinutes = .ok () := by
    cases minutes with
    | none => rw [hminutes]; rfl
    | some n =>
      have hpositive : 0 < n := raw.positive n hminutes
      rw [hminutes]
      exact if_pos hpositive
  have hdeclares : raw.wakeOn.truthy = true ∨ raw.fallbackAfterMinutes.isNone = false := by
    apply raw.declares.imp id
    intro hne
    cases hfallback : raw.fallbackAfterMinutes with
    | none => exact absurd hfallback hne
    | _ => rfl
  rw [Construct.wait, dif_pos hdeclares]
  split
  · rfl
  · rename_i e he
    rw [hchecked] at he
    cases he

/-- The record of a wait is carried, and the wait is rebuilt from it. -/
theorem waitRecord_survives {raw : RawWait} {wait : Wait} {value : Value}
    (hwait : Contract.wait raw = .ok wait) (hwakeOn : raw.wakeOn = refs value)
    (hfallback : Carried raw.fallbackAfterMinutes) :
    ∃ record, waitRecord raw = .ok (.dict record) ∧ Carried (.dict record) ∧
      item? record "kind" = some (.str "WAIT") ∧ waitFrom (.dict record) = .ok raw := by
  obtain ⟨hreason, hrefs, hminutes⟩ := wait_ok hwait
  have htuple : raw.wakeOn = .tuple (wait.wakeOn.map .str) := by
    rw [hwakeOn] at hrefs ⊢
    exact refs_ok hrefs
  refine ⟨_, by rw [waitRecord, htuple]; rfl, ?_, rfl, ?_⟩
  · apply carried_fields
    · simp only [List.map_cons, List.map_nil]
      decide
    · simp only [List.forall_mem_cons]
      exact ⟨carried_str, hreason ▸ carried_str, carried_texts, hfallback, List.forall_mem_nil _⟩
  · have hconstruct := construct_wait hminutes
    rw [htuple] at hconstruct
    show constructed (Construct.wait _ (.tuple _) _) = _
    rw [hconstruct]
    rfl

end Survival

section Rebuilt

theorem act_survives {actionType payload rationale value : Value} {outcome : AgentOutcome}
    (hcontract : outcomeContract (.act actionType payload (refs value) rationale) = .ok outcome)
    (hpayload : Carried payload) :
    Survives (.answer (.act actionType payload (refs value) rationale)) := by
  obtain ⟨name, hname, h⟩ := bind_ok hcontract
  obtain ⟨fields, hfields, h⟩ := bind_ok h
  obtain ⟨ss, hss, h⟩ := bind_ok h
  obtain ⟨reason, hreason, -⟩ := bind_ok h
  obtain ⟨rfl, hne⟩ := text_ok hname
  obtain ⟨es, rfl⟩ := payload_ok hfields
  obtain rfl := string_ok hreason
  rw [refs_ok hss]
  apply survives_of rfl
  · apply carried_fields
    · simp only [List.map_cons, List.map_nil]
      decide
    · simp only [List.forall_mem_cons]
      exact ⟨carried_str, carried_str, hpayload, carried_texts, carried_str,
        List.forall_mem_nil _⟩
  · have hact : Construct.act (.str name) (.dict es) (.tuple (ss.map .str)) (.str reason) =
        .ok (.act (.str name) (.dict es) (.tuple (ss.map .str)) (.str reason)) :=
      if_pos (bne_iff_ne.mpr hne)
    show Decision.answer <$> shaped _ (constructed (Construct.act _ _ (.tuple _) _)) = _
    rw [hact]
    rfl

theorem wait_survives {raw : RawWait} {outcome : AgentOutcome} {value : Value}
    (hcontract : outcomeContract (.wait raw) = .ok outcome) (hwakeOn : raw.wakeOn = refs value)
    (hfallback : Carried raw.fallbackAfterMinutes) : Survives (.answer (.wait raw)) := by
  obtain ⟨wait, hwait, -⟩ := bind_ok hcontract
  obtain ⟨record, hrecord, hcarried, hkind, hfrom⟩ := waitRecord_survives hwait hwakeOn hfallback
  apply survives_of (show decisionRecord (.answer (.wait raw)) = _ from hrecord) hcarried
  unfold outcomeFromRecord entryOr
  rw [hkind]
  show (fun raw => Decision.answer (.wait raw)) <$> shaped _ (waitFrom (.dict record)) = _
  rw [hfrom]
  rfl

theorem ask_survives {recipientActorId messageFixtureId correlationId value : Value}
    {raw : RawWait} {outcome : AgentOutcome}
    (hcontract : outcomeContract (.ask recipientActorId messageFixtureId (.inl raw) correlationId) =
      .ok outcome)
    (hwakeOn : raw.wakeOn = refs value) (hfallback : Carried raw.fallbackAfterMinutes) :
    Survives (.answer (.ask recipientActorId messageFixtureId (.inl raw) correlationId)) := by
  obtain ⟨recipient, hrecipient, h⟩ := bind_ok hcontract
  obtain ⟨message, hmessage, h⟩ := bind_ok h
  obtain ⟨correlation, hcorrelation, h⟩ := bind_ok h
  obtain ⟨wait, hwait, -⟩ := bind_ok h
  obtain ⟨rfl, hne⟩ := text_ok hrecipient
  obtain ⟨rfl, -⟩ := text_ok hmessage
  obtain rfl := correlation_ok hcorrelation
  obtain ⟨record, hrecord, hcarried, -, hfrom⟩ := waitRecord_survives hwait hwakeOn hfallback
  apply survives_of (by rw [decisionRecord, hrecord]; rfl)
  · apply carried_fields
    · simp only [List.map_cons, List.map_nil]
      decide
    · have hcorrelation : Carried (.ofText? correlation) := by
        cases correlation with
        | none => exact ⟨rfl, trivial⟩
        | some s => exact carried_str
      simp only [List.forall_mem_cons]
      exact ⟨carried_str, carried_str, carried_str, hcorrelation, hcarried,
        List.forall_mem_nil _⟩
  · have hask : Construct.ask (.str recipient) (.str message) raw (.ofText? correlation) =
        .ok (.ask (.str recipient) (.str message) (.inl raw) (.ofText? correlation)) :=
      if_pos (bne_iff_ne.mpr hne)
    show Decision.answer <$> shaped _ (do
      let wait ← waitFrom (.dict record)
      constructed (Construct.ask (.str recipient) (.str message) wait (.ofText? correlation))) = _
    rw [hfrom, ok_bind, hask]
    rfl

theorem escalate_survives
    {checkpointId exceptionType deadlineAfterMinutes rationale value : Value}
    {outcome : AgentOutcome}
    (hcontract : outcomeContract (.escalate checkpointId exceptionType (refs value)
      deadlineAfterMinutes rationale) = .ok outcome)
    (hdeadline : Carried deadlineAfterMinutes) :
    Survives (.answer (.escalate checkpointId exceptionType (refs value) deadlineAfterMinutes
      rationale)) := by
  obtain ⟨checkpoint, hcheckpoint, h⟩ := bind_ok hcontract
  obtain ⟨exception, hexception, h⟩ := bind_ok h
  obtain ⟨ss, hss, h⟩ := bind_ok h
  obtain ⟨deadline, _, h⟩ := bind_ok h
  obtain ⟨reason, hreason, -⟩ := bind_ok h
  obtain ⟨rfl, hnamed⟩ := text_ok hcheckpoint
  obtain ⟨rfl, htyped⟩ := text_ok hexception
  obtain rfl := string_ok hreason
  rw [refs_ok hss]
  apply survives_of rfl
  · apply carried_fields
    · simp only [List.map_cons, List.map_nil]
      decide
    · simp only [List.forall_mem_cons]
      exact ⟨carried_str, carried_str, carried_str, carried_texts, hdeadline, carried_str,
        List.forall_mem_nil _⟩
  · have hescalate : Construct.escalate (.str checkpoint) (.str exception)
        (.tuple (ss.map .str)) deadlineAfterMinutes (.str reason) =
        .ok (.escalate (.str checkpoint) (.str exception) (.tuple (ss.map .str))
          deadlineAfterMinutes (.str reason)) :=
      if_pos (Bool.and_eq_true_iff.mpr
        ⟨bne_iff_ne.mpr hnamed, bne_iff_ne.mpr htyped⟩)
    show Decision.answer <$> shaped _ (constructed (Construct.escalate _ _ (.tuple _) _ _)) = _
    rw [hescalate]
    rfl

theorem complete_survives {reason value : Value} {outcome : AgentOutcome}
    (hcontract : outcomeContract (.complete reason (refs value)) = .ok outcome) :
    Survives (.answer (.complete reason (refs value))) := by
  obtain ⟨text, htext, h⟩ := bind_ok hcontract
  obtain ⟨ss, hss, -⟩ := bind_ok h
  obtain rfl := string_ok htext
  rw [refs_ok hss]
  apply survives_of rfl
  · apply carried_fields
    · simp only [List.map_cons, List.map_nil]
      decide
    · simp only [List.forall_mem_cons]
      exact ⟨carried_str, carried_str, carried_texts, List.forall_mem_nil _⟩
  · rfl

/-- A request of a text with the arguments that JSON carries. -/
def CarriedRequest (request : RawRequest) : Prop :=
  ∃ tool arguments, request = .request (.str tool) (.dict arguments) ∧ Carried (.dict arguments)

theorem request_survives {request : RawRequest} (h : CarriedRequest request) :
    ∃ record, requestRecord request = .ok record ∧ Carried record ∧
      requestFrom record = .ok request := by
  obtain ⟨tool, arguments, rfl, hcarried⟩ := h
  refine ⟨_, rfl, ?_, ?_⟩
  · apply carried_fields
    · simp only [List.map_cons, List.map_nil]
      decide
    · simp only [List.forall_mem_cons]
      exact ⟨carried_str, hcarried, List.forall_mem_nil _⟩
  · cases arguments with
    | nil => rfl
    | cons e es => rfl

theorem requests_survive {requests : List RawRequest} (h : ∀ r ∈ requests, CarriedRequest r) :
    ∃ records, requests.mapM requestRecord = .ok records ∧ Carried (.list records) ∧
      records.mapM requestFrom = .ok requests := by
  induction requests with
  | nil => exact ⟨[], rfl, ⟨rfl, trivial⟩, rfl⟩
  | cons request requests ih =>
    rw [List.forall_mem_cons] at h
    obtain ⟨record, hrecord, hcarried, hfrom⟩ := request_survives h.1
    obtain ⟨records, hrecords, hrest, hback⟩ := ih h.2
    refine ⟨record :: records, ?_, ?_, ?_⟩
    · rw [List.mapM_cons, hrecord, ok_bind, hrecords]
      rfl
    · rw [carried_list, List.forall_mem_cons]
      exact ⟨hcarried, carried_list.mp hrest⟩
    · rw [List.mapM_cons, hfrom, ok_bind, hback]
      rfl

theorem retrieve_survives {requests : List RawRequest} (h : ∀ r ∈ requests, CarriedRequest r) :
    Survives (.answer (.retrieve (.sequence requests))) := by
  obtain ⟨records, hrecords, hcarried, hback⟩ := requests_survive h
  apply survives_of (by rw [decisionRecord, tapeRequests, hrecords]; rfl)
  · apply carried_fields
    · simp only [List.map_cons, List.map_nil]
      decide
    · simp only [List.forall_mem_cons]
      exact ⟨carried_str, hcarried, List.forall_mem_nil _⟩
  · show Decision.answer <$> shaped _ (do
      let requests ← records.mapM requestFrom
      return Answer.retrieve (.sequence requests)) = _
    rw [hback]
    rfl

end Rebuilt

section Answers

/-- What the engine executes, or a batch of requests that it reads. -/
def Accepted : Answer → Prop
  | .retrieve (.sequence requests) => ∀ request ∈ requests, ∃ tool arguments,
      request = .request (.str tool) (.dict arguments)
  | .retrieve (.other _) => False
  | answer => ∃ outcome, outcomeContract answer = .ok outcome

theorem carried_entry {entries : List (Value × Value)} {name : String} {fallback : Value}
    (h : Carried (.dict entries)) (hfallback : Carried fallback) :
    Carried (entryOr entries name fallback) :=
  entryOr_of (P := Carried) (fun e hmem => ((carried_dict.mp h).2 e hmem).2) hfallback

theorem carried_none : Carried .none := ⟨rfl, trivial⟩

theorem deadline_carried : Carried (.int 1440) := by
  have hlt := int_renderable (n := 1440) (by decide)
  rw [Value.renderable] at hlt
  exact ⟨by rw [Value.isJson]; exact hlt, trivial⟩

theorem build_survives {tool : Tool} {entries : List (Value × Value)} {answer : Answer}
    {outcome : AgentOutcome} (hentries : Carried (.dict entries))
    (hbuild : Built entries tool answer) (hcontract : outcomeContract answer = .ok outcome) :
    Survives (.answer answer) := by
  cases hbuild with
  | act => exact act_survives hcontract (carried_entry hentries ⟨rfl, List.nodup_nil, trivial⟩)
  | wait hraw =>
    obtain ⟨hwakeOn, hfallback⟩ := waitOf_fields hraw
    exact wait_survives hcontract hwakeOn (hfallback ▸ carried_entry hentries carried_none)
  | ask hnested hraw =>
    have hcarried : Carried (entryOr entries "wait" .none) :=
      carried_entry hentries carried_none
    rw [hnested] at hcarried
    obtain ⟨hwakeOn, hfallback⟩ := waitOf_fields hraw
    exact ask_survives hcontract hwakeOn (hfallback ▸ carried_entry hcarried carried_none)
  | escalate => exact escalate_survives hcontract (carried_entry hentries deadline_carried)
  | complete => exact complete_survives hcontract
  | retrieve => cases hcontract

theorem requests_carried {values : List Value} {requests : List RawRequest}
    (hvalues : Carried (.list values)) (h : requestsOf 0 values = .ok requests) :
    ∀ request ∈ requests, CarriedRequest request := by
  intro request hmem
  obtain ⟨value, hvalue, i, hi⟩ := requestsOf_ok h request hmem
  obtain ⟨entries, tool, arguments, rfl, rfl, harguments⟩ := requestOf_ok hi
  refine ⟨tool, arguments, rfl, ?_⟩
  rcases harguments with rfl | hentry
  · exact ⟨rfl, List.nodup_nil, trivial⟩
  · obtain ⟨key, hmem⟩ := item?_mem hentry
    exact ((carried_dict.mp (carried_list.mp hvalues _ hvalue)).2 _ hmem).2

theorem parsed_accepted {call : ToolCall} {answer : Answer}
    (h : parseToolCall call = .ok (.answer answer)) : Accepted answer := by
  obtain ⟨tool, entries, -, hbuild, hcontracted⟩ := parseToolCall_answer h
  rcases contracted_ok hcontracted with ⟨requests, rfl⟩ | ⟨outcome, houtcome⟩
  · cases build_answer hbuild with
    | retrieve hvalues hrequests =>
      intro request hmem
      obtain ⟨value, -, i, hi⟩ := requestsOf_ok hrequests request hmem
      obtain ⟨_, tool, arguments, -, rfl, -⟩ := requestOf_ok hi
      exact ⟨tool, arguments, rfl⟩
  · cases answer with
    | retrieve requests => cases houtcome
    | _ => exact ⟨outcome, houtcome⟩

/-- The parser always returns, where the arguments have a text. What it accepts is an outcome of
the contract or a batch of named requests, and where the arguments are JSON values, it is the very
answer that is rebuilt from its record. -/
theorem parsed_survives :
    (∀ call : ToolCall, call.arguments.renderable →
      ∃ decision, parseToolCall call = .ok decision) ∧
    (∀ call answer, parseToolCall call = .ok (.answer answer) → Accepted answer) ∧
    ∀ call answer, Carried call.arguments → parseToolCall call = .ok (.answer answer) →
      Survives (.answer answer) := by
  refine ⟨fun _ => parseToolCall_returns, fun _ _ => parsed_accepted, ?_⟩
  intro call answer hcarried h
  obtain ⟨tool, entries, harguments, hbuild, hcontracted⟩ := parseToolCall_answer h
  rw [harguments] at hcarried
  rcases contracted_ok hcontracted with ⟨requests, rfl⟩ | ⟨outcome, houtcome⟩
  · cases build_answer hbuild with
    | retrieve hvalues hrequests =>
      apply retrieve_survives
      exact requests_carried (hvalues ▸ carried_entry hcarried carried_none) hrequests
  · exact build_survives hcarried (build_answer hbuild) houtcome

end Answers

section Excluded

/-- A payload whose nested mapping has the key `None`. -/
def keylessPayload : Value := .dict [(.str "a", .dict [(.none, .bool true)])]

def keyless : ToolCall where
  name := .str "act"
  arguments := .dict [(.str "action_type", .str "book"), (.str "payload", keylessPayload)]

def keylessAct : Answer := .act (.str "book") keylessPayload (.tuple []) (.str "")

theorem keyless_parsed : parseToolCall keyless = .ok (.answer keylessAct) := rfl

/-- An escalation whose deadline is the integer. -/
def overdue (n : ℤ) : ToolCall where
  name := .str "escalate"
  arguments := .dict [(.str "checkpoint_id", .str "c"), (.str "exception_type", .str "e"),
    (.str "deadline_after_minutes", .int n)]

theorem overdue_raises {n : ℤ} (hpast : ¬0 < n) (hwide : (Value.int n).renderable = false) :
    ∃ e, parseToolCall (overdue n) = .error e := by
  have hcontract : outcomeContract (.escalate (.str "c") (.str "e") (.tuple []) (.int n)
      (.str "")) = .error (.raises (.value
        "Exceeds the limit (4300 digits) for integer string conversion")) := by
    have hdeadline : Contract.deadline (.int n) = .error (.raises (.value
        "Exceeds the limit (4300 digits) for integer string conversion")) := by
      simp only [Contract.deadline, dif_neg hpast, Contract.problemShowing, Value.reprText, hwide]
      rfl
    show (do
      let deadline ← Contract.deadline (.int n)
      let rationale ← Contract.string (.str "") "ESCALATE rationale must be a string"
      return AgentOutcome.escalate ⟨"c", "e", [], deadline.1, rationale, deadline.2⟩) = _
    rw [hdeadline]
    rfl
  refine ⟨.value "Exceeds the limit (4300 digits) for integer string conversion", ?_⟩
  show contracted .escalate (.answer (.escalate (.str "c") (.str "e") (.tuple []) (.int n)
    (.str ""))) = _
  simp only [contracted, hcontract]

theorem widest_unrenderable : (Value.int (-(Value.maxJsonInteger : ℤ))).renderable = false := by
  rw [Value.renderable, decide_eq_false_iff_not, Int.natAbs_neg, Int.natAbs_natCast]
  exact Nat.lt_irrefl _

/-- The key comes back as a text, and a wide deadline in the past cannot be shown. -/
theorem arguments_not_carried :
    ¬(∀ call answer, KeyedOnce call.arguments → parseToolCall call = .ok (.answer answer) →
      Survives (.answer answer)) ∧
    ¬(∀ call, ∃ decision, parseToolCall call = .ok decision) := by
  constructor
  · intro h
    obtain ⟨record, back, hrecord, htrip, hback⟩ := h keyless keylessAct
      ⟨by simp, trivial, ⟨by simp, ⟨by simp, trivial, trivial⟩, trivial⟩, trivial⟩
      keyless_parsed
    cases hrecord
    cases htrip
    cases hback
  · intro h
    obtain ⟨decision, hdecision⟩ := h (overdue (-(Value.maxJsonInteger : ℤ)))
    obtain ⟨e, he⟩ := overdue_raises (by omega) widest_unrenderable
    rw [he] at hdecision
    cases hdecision

end Excluded

end OperateBench.Agents
