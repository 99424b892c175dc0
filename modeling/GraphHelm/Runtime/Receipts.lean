import GraphHelm.Protocol.Integrity
import GraphHelm.Projection.Fold

/-!
# Accounting receipts

`ExecutionAccountingReceipt` of `core/runtime/src/context_accounting.rs`, as the
reuse bound reads it back: the closed contract a sealed receipt is held to, and
the total of the two counters the model boundary reports.
-/

namespace GraphHelm

inductive CostProvenance where
  | measured
  | derived
  | unavailable
deriving DecidableEq

structure CostField where
  value : Option Nat
  provenance : CostProvenance
  producer : Option String
  note : String
deriving DecidableEq

namespace CostField

def unavailable (reason : String) : CostField :=
  { value := none, provenance := .unavailable, producer := none, note := reason }

def observed (field : CostField) : Option Nat :=
  field.value

def isMeasured (field : CostField) : Bool :=
  field.provenance = .measured

end CostField

structure ProviderUsage where
  inputTokens : Option Nat
  outputTokens : Option Nat
  cacheReadTokens : Option Nat
  cacheWriteTokens : Option Nat
deriving DecidableEq

/-- The event that began the execution; the other members of the source's have one value each. -/
structure ExecutionBinding where
  eventId : OpaqueId
  eventHash : EventHash
  scope : RepositoryScope
  producerActor : PersistedActor
deriving DecidableEq

structure ExecutionAccountingReceipt where
  executionBinding : ExecutionBinding
  providerUsage : Option ProviderUsage
  fields : List (String × CostField)
deriving DecidableEq

/-- What the JSON of a receipt is read as before it is held to the contract. -/
structure OwnedAccountingReceiptWire extends ExecutionAccountingReceipt where
  schemaVersion : String
deriving DecidableEq

inductive AccountingReceiptError where
  | invalidExecutionBinding
  | unsafeTokenCount
  | invalidWireContract
  | json
deriving DecidableEq

def modelUsageProducer : String := "model_gateway"

def accountingReceiptSchemaVersion : String := "1.0.0"

def maxJsonSafeInteger : Nat := 9007199254740991

def unavailableNote : String := "not measured by this runtime slice"

def providerReportedInputNote : String :=
  "raw WorkSummary.input_tokens reported by the provider boundary; may exclude cache read and " ++
    "cache creation tokens"

def providerReportedInputUnavailableNote : String :=
  "provider-reported input tokens were not reported by the model boundary"

def providerTotalInputUnavailableNote : String :=
  "provider total input is unavailable because WorkSummary may exclude cache read and cache " ++
    "creation tokens"

def outputUnavailableNote : String := "output_tokens was not reported by the model boundary"

def providerReportedInputTokensField : String := "provider_reported_input_tokens"

def providerTotalInputTokensField : String := "provider_total_input_tokens"

def outputTokensField : String := "output_tokens"

def accountingFieldNames : List String :=
  ["orientation_tokens", "zero_result_queries", "retrieval_pages", "retrieval_retries",
    "retrieval_fallbacks", "summary_tokens", providerReportedInputTokensField,
    providerTotalInputTokensField, "compiled_input_tokens", outputTokensField,
    "formatting_tokens", "index_cost_cold", "index_cost_amortized"]

def validCounter (field : CostField) (measuredNote missingNote : String) : Bool :=
  match field.provenance with
  | .measured =>
      field.value.isSome && field.producer = some modelUsageProducer && field.note = measuredNote
  | .unavailable => field.value.isNone && field.producer.isNone && field.note = missingNote
  | .derived => false

def validUnavailable (field : CostField) (note : String) : Bool :=
  field.value.isNone && field.provenance = .unavailable && field.producer.isNone &&
    field.note = note

def validShape (name : String) (field : CostField) : Bool :=
  if name = providerReportedInputTokensField then
    validCounter field providerReportedInputNote providerReportedInputUnavailableNote
  else if name = outputTokensField then
    validCounter field "" outputUnavailableNote
  else if name = providerTotalInputTokensField then
    validUnavailable field providerTotalInputUnavailableNote
  else
    validUnavailable field unavailableNote

/-- One field of the contract, in its place. -/
def validField (entry : (String × CostField) × String) : Bool :=
  let name := entry.1.1
  let field := entry.1.2
  name = entry.2 && field.value.all (fun value => value <= maxJsonSafeInteger) &&
    field.note.toList.length <= 2048 && validShape name field

namespace ExecutionAccountingReceipt

def field (receipt : ExecutionAccountingReceipt) (name : String) : Option CostField :=
  (receipt.fields.find? fun entry => decide (entry.1 = name)).map Prod.snd

def measured (receipt : ExecutionAccountingReceipt) (name : String) : Option Nat :=
  ((receipt.field name).filter CostField.isMeasured).bind CostField.observed

def checkedAdd (a b : Nat) : Option Nat :=
  if a + b <= u64Max then some (a + b) else none

def providerReportedTotal (receipt : ExecutionAccountingReceipt) : Option Nat := do
  let input <- receipt.measured providerReportedInputTokensField
  let output <- receipt.measured outputTokensField
  checkedAdd input output

/-- The usage of the provider, where it is kept, repeats the two counters. -/
def validateUsage (receipt : ExecutionAccountingReceipt) :
    Option ProviderUsage -> Except AccountingReceiptError Unit
  | none => .ok ()
  | some usage => do
      let counts := [usage.inputTokens, usage.outputTokens, usage.cacheReadTokens,
        usage.cacheWriteTokens]
      check (counts.all fun count => count.all fun value => value <= maxJsonSafeInteger)
        .unsafeTokenCount
      check
        (decide (usage.inputTokens =
            (receipt.field providerReportedInputTokensField).bind CostField.observed) &&
          decide (usage.outputTokens = (receipt.field outputTokensField).bind CostField.observed))
        .invalidWireContract

def validateWireContract (receipt : ExecutionAccountingReceipt) :
    Except AccountingReceiptError Unit := do
  check
    (receipt.executionBinding.scope.executionId.isSome &&
      receipt.fields.length = accountingFieldNames.length) .invalidWireContract
  receipt.validateUsage receipt.providerUsage
  check ((receipt.fields.zip accountingFieldNames).all validField) .invalidWireContract

end ExecutionAccountingReceipt

def validatedExecutionBinding (env : Environment) (start : EventEnvelope) :
    Except AccountingReceiptError ExecutionBinding :=
  match start.kind with
  | .executionStarted started => do
      check (decide (start.scope.executionId = some started.executionId))
        .invalidExecutionBinding
      check (decide (eventHash env start start.previousHash = start.eventHash))
        .invalidExecutionBinding
      .ok
        { eventId := start.eventId
          eventHash := start.eventHash
          scope := start.scope
          producerActor := start.actor }
  | _ => .error .invalidExecutionBinding

/-- `from_stable_bytes`; `readWire` is the reader of the JSON. -/
def receiptOfStableBytes (env : Environment)
    (readWire : Bytes -> Option OwnedAccountingReceiptWire) (bytes : Bytes)
    (start : EventEnvelope) : Except AccountingReceiptError ExecutionAccountingReceipt := do
  let wire <- orRefuse (readWire bytes) .json
  check (decide (wire.schemaVersion = accountingReceiptSchemaVersion)) .invalidWireContract
  let receipt := wire.toExecutionAccountingReceipt
  receipt.validateWireContract
  let binding <- validatedExecutionBinding env start
  check (decide (receipt.executionBinding = binding)) .invalidExecutionBinding
  .ok receipt

/-!
## What the contract promises
-/

namespace ExecutionAccountingReceipt

variable {receipt : ExecutionAccountingReceipt}

def countersMeasured (receipt : ExecutionAccountingReceipt) : Bool :=
  [providerReportedInputTokensField, outputTokensField].all fun name =>
    (receipt.field name).any CostField.isMeasured

theorem exists_measured (h : receipt.validateWireContract = .ok ()) {name : String}
    (hcounter : name = providerReportedInputTokensField ∨ name = outputTokensField)
    (hmeasured : (receipt.field name).any CostField.isMeasured = true) :
    exists value, receipt.measured name = some value ∧ value <= maxJsonSafeInteger := by
  unfold validateWireContract at h
  rcases check_ok h with ⟨hcount, h⟩
  rcases bind_ok h with ⟨_, _, h⟩
  have hvalid := List.all_eq_true.mp (check_eq_ok.mp h)
  rw [Bool.and_eq_true, decide_eq_true_eq] at hcount
  unfold measured
  cases hfield : receipt.field name with
  | none =>
      rw [hfield] at hmeasured
      cases hmeasured
  | some field =>
      rw [hfield, Option.any_some] at hmeasured
      unfold ExecutionAccountingReceipt.field at hfield
      rcases Option.map_eq_some_iff.mp hfield with ⟨entry, hentry, hsnd⟩
      have hname : entry.1 = name := by simpa using List.find?_some hentry
      rcases List.mem_iff_getElem?.mp (List.mem_of_find?_eq_some hentry) with ⟨i, hget⟩
      have hi : i < accountingFieldNames.length := by
        rw [<- hcount.right]
        exact (List.getElem?_eq_some_iff.mp hget).1
      have hzip : (receipt.fields.zip accountingFieldNames)[i]? =
          some (entry, accountingFieldNames[i]) := by
        rw [List.getElem?_zip_eq_some]
        exact And.intro hget (List.getElem?_eq_getElem hi)
      have hentryValid := hvalid _ (List.mem_of_getElem? hzip)
      unfold validField at hentryValid
      simp only [Bool.and_eq_true] at hentryValid
      rcases hentryValid with ⟨⟨⟨_, hsafe⟩, _⟩, hshape⟩
      have hvalue : field.value.isSome = true := by
        have hcounterShape : exists measuredNote missingNote,
            validCounter field measuredNote missingNote = true := by
          unfold validShape at hshape
          rw [hname, hsnd] at hshape
          rcases hcounter with hinput | houtput
          · rw [if_pos hinput] at hshape
            exact ⟨_, _, hshape⟩
          · rw [if_neg (by rw [houtput]; decide), if_pos houtput] at hshape
            exact ⟨_, _, hshape⟩
        rcases hcounterShape with ⟨measuredNote, missingNote, hcounterShape⟩
        unfold validCounter at hcounterShape
        rw [of_decide_eq_true hmeasured] at hcounterShape
        simp only [Bool.and_eq_true] at hcounterShape
        exact hcounterShape.left.left
      rcases Option.isSome_iff_exists.mp hvalue with ⟨value, hvalue⟩
      rw [hsnd, hvalue, Option.all_some, decide_eq_true_eq] at hsafe
      refine ⟨value, ?_, hsafe⟩
      rw [Option.filter_some_pos hmeasured, Option.bind_some]
      exact hvalue

theorem measured_eq_none {name : String}
    (h : (receipt.field name).any CostField.isMeasured = false) :
    receipt.measured name = none := by
  unfold measured
  cases hfield : receipt.field name with
  | none => rfl
  | some field =>
      rw [hfield, Option.any_some] at h
      rw [Option.filter_some_neg h, Option.bind_none]

theorem providerReportedTotal_isSome (h : receipt.validateWireContract = .ok ()) :
    receipt.providerReportedTotal.isSome = receipt.countersMeasured := by
  unfold providerReportedTotal countersMeasured
  rw [List.all_cons, List.all_cons, List.all_nil, Bool.and_true]
  cases hinput : (receipt.field providerReportedInputTokensField).any CostField.isMeasured with
  | false =>
      rw [measured_eq_none hinput]
      rfl
  | true =>
      rcases exists_measured h (Or.inl rfl) hinput with ⟨input, hinput, hinputSafe⟩
      cases houtput : (receipt.field outputTokensField).any CostField.isMeasured with
      | false =>
          rw [hinput, measured_eq_none houtput]
          rfl
      | true =>
          rcases exists_measured h (Or.inr rfl) houtput with ⟨output, houtput, houtputSafe⟩
          rw [hinput, houtput]
          have hfits : input + output <= u64Max := by
            unfold maxJsonSafeInteger at hinputSafe houtputSafe
            unfold u64Max
            omega
          have hsum : checkedAdd input output = some (input + output) := if_pos hfits
          exact congrArg Option.isSome hsum

end ExecutionAccountingReceipt

theorem validateWireContract_of_stableBytes {env : Environment}
    {readWire : Bytes -> Option OwnedAccountingReceiptWire} {bytes : Bytes}
    {start : EventEnvelope} {receipt : ExecutionAccountingReceipt}
    (h : receiptOfStableBytes env readWire bytes start = .ok receipt) :
    receipt.validateWireContract = .ok () := by
  unfold receiptOfStableBytes at h
  rcases bind_ok h with ⟨wire, _, h⟩
  rcases check_ok h with ⟨_, h⟩
  rcases bind_ok h with ⟨_, hvalid, h⟩
  rcases bind_ok h with ⟨binding, _, h⟩
  rcases check_ok h with ⟨_, h⟩
  cases h
  exact hvalid

end GraphHelm
