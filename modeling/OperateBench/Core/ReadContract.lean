import OperateBench.Core.Retrieval

/-! # Read and evidence obligations

One contract says, for every outcome an agent may propose, which reads it rests on
and which identities it has to cite. A selector reaches a cited identity through
the record that the proposal's payload names.
-/

namespace OperateBench

open Foundation

namespace Value

/-- `mapping.get(key)`, for a mapping and a text key; `none` for anything else. -/
def lookup? (mapping : Value) (key : String) : Option Value :=
  match mapping with
  | dict entries => (entries.find? fun e => e.1.isStr key).map Prod.snd
  | _ => Option.none

def isMapping : Value → Bool
  | dict _ => true
  | _ => false

/-- A mapping that is there. -/
def asMapping? (v : Option Value) : Option Value := v.filter isMapping

def asText? (v : Option Value) : Option String := v.bind asStr?

def asInt? : Option Value → Option Int
  | some (int i) => some i
  | _ => Option.none

end Value

inductive ReadStrength where
  | required
  | optional
  deriving DecidableEq

def ReadStrength.text : ReadStrength → String
  | required => "required"
  | optional => "optional"

inductive EvidenceSelector where
  | payloadRegistryKey (tool root payloadField : String)
  | workEvidenceForInvoice (tool root payloadField cycleTool cycleRoot authorityTool
      authorityRoot : String)
  | quoteForSelectedApproval (tool root payloadField targetTool targetRoot : String)

namespace EvidenceSelector

def root : EvidenceSelector → String
  | payloadRegistryKey _ root _ => root
  | workEvidenceForInvoice _ root _ _ _ _ _ => root
  | quoteForSelectedApproval _ root _ _ _ => root

def payloadField : EvidenceSelector → String
  | payloadRegistryKey _ _ payloadField => payloadField
  | workEvidenceForInvoice _ _ payloadField _ _ _ _ => payloadField
  | quoteForSelectedApproval _ _ payloadField _ _ => payloadField

/-- Every root that resolving the selector reads. -/
def roots : EvidenceSelector → List String
  | payloadRegistryKey _ root _ => [root]
  | workEvidenceForInvoice _ root _ _ cycleRoot _ authorityRoot => [root, cycleRoot, authorityRoot]
  | quoteForSelectedApproval _ root _ _ targetRoot => [root, targetRoot]

def projection : EvidenceSelector → String × Value
  | payloadRegistryKey tool root payloadField =>
    (payloadField, .ofFields [("from", .str s!"{tool}.{root}"),
      ("select", .str s!"key == payload.{payloadField}")])
  | workEvidenceForInvoice tool root payloadField cycleTool cycleRoot authorityTool
      authorityRoot =>
    ("work_evidence_id", .ofFields [("from", .str s!"{authorityTool}.{authorityRoot}"),
      ("select", .str ("key == cycle.work_evidence_id; kind == work_evidence; " ++
        "cycle_id == cycle.cycle_id where " ++
        s!"invoice={tool}.{root}[payload.{payloadField}], " ++
        s!"cycle={cycleTool}.{cycleRoot}[invoice.cycle_id]"))])
  | quoteForSelectedApproval tool root payloadField targetTool targetRoot =>
    ("quote_record_key", .ofFields [("from", .str s!"{targetTool}.{targetRoot}"),
      ("select", .str ("key == approval.quote_id + ':v' + approval.quote_version where " ++
        s!"approval={tool}.{root}[payload.{payloadField}]"))])

def resolveWorkEvidence (cycleRoot authorityRoot : String) (selected : Value) (records : Fields) :
    Except String String :=
  match Value.asText? (selected.lookup? "cycle_id") with
  | none => .error "the invoice cycle is missing"
  | some cycleId =>
    match Value.asMapping? ((records.get? cycleRoot).bind (·.lookup? cycleId)) with
    | none => .error "the invoice cycle is missing"
    | some cycle =>
      match Value.asText? (cycle.lookup? "work_evidence_id") with
      | none => .error "the authoritative work evidence is missing"
      | some evidenceId =>
        match Value.asMapping? ((records.get? authorityRoot).bind (·.lookup? evidenceId)) with
        | none => .error "the authoritative work evidence is missing"
        | some authority =>
          if Value.asText? (authority.lookup? "kind") ≠ some "work_evidence" then
            .error "the authoritative evidence kind does not match"
          else if Value.asText? (authority.lookup? "cycle_id") ≠ some cycleId then
            .error "the authoritative evidence cycle does not match"
          else .ok evidenceId

def resolveQuote (targetRoot : String) (selected : Value) (records : Fields) :
    Except String String :=
  match Value.asText? (selected.lookup? "quote_id"),
      Value.asInt? (selected.lookup? "quote_version") with
  | some quoteId, some version =>
    let value := s!"{quoteId}:v{version}"
    if ((records.get? targetRoot).bind (·.lookup? value)).isSome then .ok value
    else .error "the selected approval quote is missing"
  | _, _ => .error "the quote evidence key cannot be encoded"

/-- The identity that the selector requires, or why it does not resolve. -/
def resolve (selector : EvidenceSelector) (payload records : Fields) : Except String String :=
  match Value.asMapping? (records.get? selector.root),
      Value.asText? (payload.get? selector.payloadField) with
  | some registry, some selectedId =>
    match Value.asMapping? (registry.lookup? selectedId) with
    | none => .error s!"no {selector.root} record {pyRepr selectedId}"
    | some selected =>
      match selector with
      | payloadRegistryKey _ _ _ => .ok selectedId
      | workEvidenceForInvoice _ _ _ _ cycleRoot _ authorityRoot =>
        resolveWorkEvidence cycleRoot authorityRoot selected records
      | quoteForSelectedApproval _ _ _ _ targetRoot => resolveQuote targetRoot selected records
  | _, _ => .error "the payload selector cannot be resolved"

end EvidenceSelector

structure OutcomeEvidenceObligation where
  reads : Dict String ReadStrength
  evidenceRefs : List EvidenceSelector

abbrev ActionEvidenceContract := Dict String OutcomeEvidenceObligation

def completeOutcomeKey : String := "complete"

namespace ActionEvidenceContract

/-- The reads that gate the outcome, sorted. -/
def requiredToolsFor (contract : ActionEvidenceContract) (outcomeKey : String) : List String :=
  match contract.get? outcomeKey with
  | some obligation => sortTexts
    ((obligation.reads.entries.filter fun e => e.2 = .required).map Prod.fst)
  | none => []

def evidenceFor (contract : ActionEvidenceContract) (outcomeKey : String) :
    List EvidenceSelector :=
  match contract.get? outcomeKey with
  | some obligation => obligation.evidenceRefs
  | none => []

def schemaPart (contract : ActionEvidenceContract) (outcomeKey : String) : Value :=
  match contract.get? outcomeKey with
  | some obligation => .ofFields ((sortTexts obligation.reads.keys).filterMap fun tool =>
    (obligation.reads.get? tool).map fun strength => (tool, .str strength.text))
  | none => .ofFields []

def evidenceSchemaPart (contract : ActionEvidenceContract) (outcomeKey : String) : Value :=
  .ofFields [("required", Fields.asDict
    (.ofList ((contract.evidenceFor outcomeKey).map EvidenceSelector.projection)))]

end ActionEvidenceContract

/-- The identities an outcome has to cite, or why they do not all resolve. -/
def resolveRequiredEvidence (contract : ActionEvidenceContract) (outcomeKey : String)
    (payload records : Fields) : Except String (List String) :=
  (contract.evidenceFor outcomeKey).mapM fun selector => selector.resolve payload records

end OperateBench
