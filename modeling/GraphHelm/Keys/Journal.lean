import GraphHelm.Keys.Authentication
import GraphHelm.Library.Lines
import Std.Data.TreeMap
import Std.Data.TreeSet

/-!
# The revocation journal

The file `revocations.v1.jsonl`: a header line and one line for each revocation, every
line bound into a chain of tags, as `adapters/sealed-key-provider/src/journal.rs` loads
it and appends to it.
-/

namespace GraphHelm
namespace Keys

open Std

def maxJournalBytes : Nat := 16 * 1024 * 1024

def maxRecords : Nat := 10000

def maxLineBytes : Nat := 4096

structure JournalHeader where
  formatVersion : Nat
  keyId : String
  authenticationTag : String
deriving DecidableEq

structure JournalRecord where
  epoch : Nat
  handle : String
  idempotencyKey : String
  previousTag : String
  receiptTag : String
  recordTag : String
deriving DecidableEq

def JournalHeader.members (header : JournalHeader) : List (String × Scalar) :=
  [("formatVersion", .number header.formatVersion), ("keyId", .text header.keyId),
    ("authenticationTag", .text header.authenticationTag)]

def JournalRecord.members (record : JournalRecord) : List (String × Scalar) :=
  [("epoch", .number record.epoch), ("handle", .text record.handle),
    ("idempotencyKey", .text record.idempotencyKey), ("previousTag", .text record.previousTag),
    ("receiptTag", .text record.receiptTag), ("recordTag", .text record.recordTag)]

/-- `serde_json::to_vec`. -/
def JournalHeader.bytes (header : JournalHeader) : Bytes :=
  utf8 (flatText header.members)

/-- `serde_json::to_vec`. -/
def JournalRecord.bytes (record : JournalRecord) : Bytes :=
  utf8 (flatText record.members)

/-- What the journal takes from outside. -/
structure KeyEnvironment extends Digest where
  /-- `serde_json::from_slice::<JournalHeader>`. -/
  readHeader : Bytes -> Option JournalHeader
  /-- `serde_json::from_slice::<JournalRecord>`. -/
  readRecord : Bytes -> Option JournalRecord

/-- `JournalState`. -/
structure JournalState where
  headerTag : Bytes
  records : List JournalRecord
  idempotency : TreeMap String Nat
  revokedHandles : TreeSet String
  byteLength : Nat

structure JournalFloor where
  epoch : Nat
  authenticatedHead : Bytes
deriving DecidableEq

def decodeTag (value : String) : Except KeyError Bytes := do
  let tag <- orRefuse (hexDecode value) .integrity
  check (decide (tag.length = 32)) .integrity
  .ok tag

/-!
## Canonical bytes
-/

def canonicalHeaderBytes (keyId : String) : Except KeyError Bytes :=
  pushField (utf8 "graphhelm-revocation-journal-header-v1") (utf8 keyId)

def canonicalReceiptBytes (handle idempotencyKey : String) (epoch : Nat) :
    Except KeyError Bytes := do
  let bytes <- pushField (utf8 "graphhelm-revocation-receipt-v1") (utf8 handle)
  let bytes <- pushField bytes (utf8 idempotencyKey)
  .ok (bytes ++ bigEndian 8 epoch)

def canonicalRecordBytes (epoch : Nat) (handle idempotencyKey : String)
    (previousTag receiptTag : Bytes) : Except KeyError Bytes := do
  let bytes := utf8 "graphhelm-revocation-journal-record-v1" ++ bigEndian 8 epoch
  let bytes <- pushField bytes (utf8 handle)
  let bytes <- pushField bytes (utf8 idempotencyKey)
  let bytes <- pushField bytes previousTag
  pushField bytes receiptTag

/-!
## Floors
-/

namespace JournalState

def epoch (state : JournalState) : Nat :=
  (state.records.getLast?.map JournalRecord.epoch).getD 0

def isRevoked (state : JournalState) (handle : String) : Bool :=
  state.revokedHandles.contains handle

def authenticatedHeadAt (state : JournalState) (epoch : Nat) : Except KeyError Bytes :=
  match epoch with
  | 0 => do
      check (decide (state.headerTag.length = 32)) .integrity
      .ok state.headerTag
  | index + 1 => do
      let record <- orRefuse state.records[index]? .integrity
      decodeTag record.recordTag

def floor (state : JournalState) : Except KeyError JournalFloor := do
  let head <- authenticatedHeadAt state state.epoch
  .ok { epoch := state.epoch, authenticatedHead := head }

def requireExtensionOf (state : JournalState) (floor : JournalFloor) : Except KeyError Unit := do
  check (decide (floor.epoch <= state.epoch)) .integrity
  let head <- authenticatedHeadAt state floor.epoch
  check (decide (head = floor.authenticatedHead)) .integrity

end JournalState

/-!
## Loading
-/

def readBounded (file : Bytes) (maximum : Nat) : Except KeyError Bytes :=
  if maximum < file.length then .error .integrity else .ok file

/-- A tail without its newline is cut off, unless it reads as a record. -/
def recoverTail (env : KeyEnvironment) (bytes : Bytes) : Except KeyError Bytes :=
  if isWhole newline bytes then .ok bytes
  else if (env.readRecord (tornPart newline bytes)).isSome then .error .integrity
  else .ok (wholePart newline bytes)

/-- A carriage return before the newline belongs to the line ending. -/
def stripReturn (line : Bytes) : Bytes :=
  if line.getLast? = some 13 then line.dropLast else line

def textLines (text : Bytes) : List Bytes :=
  (text.splitOn newline).dropLast.map stripReturn

/-- What the loop over the record lines has gathered. -/
structure Loading where
  records : List JournalRecord
  idempotency : TreeMap String Nat
  revokedHandles : TreeSet String
  previousTag : Bytes

/-- One turn of the loop. -/
def loadRecord (env : KeyEnvironment) (keyMaterial : Bytes) (loading : Loading) (line : Bytes) :
    Except KeyError Loading := do
  check (decide (loading.records.length < maxRecords)) .integrity
  let record <- orRefuse (env.readRecord line) .integrity
  check (decide (record.epoch = loading.records.length + 1)) .integrity
  check (isOpaqueId record.handle) .integrity
  check (isOpaqueId record.idempotencyKey) .integrity
  check (!loading.idempotency.contains record.idempotencyKey) .integrity
  let previousTag <- decodeTag record.previousTag
  check (decide (previousTag = loading.previousTag)) .integrity
  let receiptTag <- decodeTag record.receiptTag
  let receipt <- canonicalReceiptBytes record.handle record.idempotencyKey record.epoch
  verifyAuthenticationBytes env.toDigest keyMaterial "revocation-receipt" receipt receiptTag
  let recordTag <- decodeTag record.recordTag
  let canonical <- canonicalRecordBytes record.epoch record.handle record.idempotencyKey
    loading.previousTag receiptTag
  verifyAuthenticationBytes env.toDigest keyMaterial "revocation-journal-record" canonical recordTag
  .ok
    { records := loading.records ++ [record]
      idempotency := loading.idempotency.insert record.idempotencyKey loading.records.length
      revokedHandles := loading.revokedHandles.insert record.handle
      previousTag := recordTag }

def loadHeader (env : KeyEnvironment) (expectedKeyId : String) (keyMaterial line : Bytes) :
    Except KeyError Bytes := do
  let header <- orRefuse (env.readHeader line) .integrity
  check (decide (header.formatVersion = 1 ∧ header.keyId = expectedKeyId)) .integrity
  let headerTag <- decodeTag header.authenticationTag
  let canonical <- canonicalHeaderBytes expectedKeyId
  verifyAuthenticationBytes env.toDigest keyMaterial "revocation-journal-header" canonical headerTag
  .ok headerTag

def loadCommitted (env : KeyEnvironment) (expectedKeyId : String) (keyMaterial bytes : Bytes) :
    Except KeyError JournalState := do
  check (!bytes.isEmpty) .integrity
  check (validUtf8 bytes) .integrity
  match textLines bytes with
  | [] => .error .integrity
  | first :: lines => do
      let headerTag <- loadHeader env expectedKeyId keyMaterial first
      let loaded <- lines.foldlM (loadRecord env keyMaterial)
        { records := [], idempotency := ∅, revokedHandles := ∅, previousTag := headerTag }
      .ok
        { headerTag := headerTag
          records := loaded.records
          idempotency := loaded.idempotency
          revokedHandles := loaded.revokedHandles
          byteLength := bytes.length }

def load (env : KeyEnvironment) (expectedKeyId : String) (keyMaterial file : Bytes) :
    Except KeyError JournalState × Bytes :=
  match readBounded file maxJournalBytes with
  | .error error => (.error error, file)
  | .ok bytes =>
      match recoverTail env bytes with
      | .error error => (.error error, file)
      | .ok committed => (loadCommitted env expectedKeyId keyMaterial committed, committed)

/-!
## Creating
-/

def newHeader (env : KeyEnvironment) (keyId : String) (keyMaterial : Bytes) :
    Except KeyError JournalHeader := do
  let canonical <- canonicalHeaderBytes keyId
  let tag <- authenticationBytes env.toDigest keyMaterial "revocation-journal-header" canonical
  .ok { formatVersion := 1, keyId := keyId, authenticationTag := hexEncode tag }

/-- `create_or_recover_empty`, with the file it leaves; `journal` is what the directory has. -/
def createOrRecoverEmpty (env : KeyEnvironment) (keyId : String) (keyMaterial : Bytes)
    (journal : Option Bytes) : Except KeyError Unit × Option Bytes :=
  match journal with
  | some file =>
      let (loaded, file) := load env keyId keyMaterial file
      match loaded with
      | .error error => (.error error, some file)
      | .ok state => (if state.epoch = 0 then .ok () else .error .conflict, some file)
  | none =>
      match newHeader env keyId keyMaterial with
      | .error error => (.error error, none)
      | .ok header =>
          let (loaded, file) := load env keyId keyMaterial (header.bytes ++ [newline])
          (loaded.map fun _ => (), some file)

/-!
## Appending
-/

def receiptFromRecord (keyId : String) (record : JournalRecord) :
    Except KeyError RevocationReceipt := do
  let tag <- decodeTag record.receiptTag
  let authenticationTag <- AuthenticationTag.new keyId tag
  RevocationReceipt.new record.handle record.idempotencyKey record.epoch authenticationTag

def headTag (state : JournalState) : Except KeyError Bytes :=
  match state.records.getLast? with
  | some last => decodeTag last.recordTag
  | none => .ok state.headerTag

def newRecord (env : KeyEnvironment) (keyMaterial : Bytes) (state : JournalState)
    (request : RevokeKeyRequest) : Except KeyError JournalRecord := do
  check (decide (state.records.length < maxRecords)) .invalid
  let epoch := state.epoch + 1
  check (decide (epoch < 2 ^ 64)) .conflict
  let previousTag <- headTag state
  let handle := request.handle.text
  let idempotencyKey := request.idempotencyKey.text
  let receipt <- canonicalReceiptBytes handle idempotencyKey epoch
  let receiptTag <- authenticationBytes env.toDigest keyMaterial "revocation-receipt" receipt
  let canonical <- canonicalRecordBytes epoch handle idempotencyKey previousTag receiptTag
  let recordTag <-
    authenticationBytes env.toDigest keyMaterial "revocation-journal-record" canonical
  .ok
    { epoch := epoch
      handle := handle
      idempotencyKey := idempotencyKey
      previousTag := hexEncode previousTag
      receiptTag := hexEncode receiptTag
      recordTag := hexEncode recordTag }

def newLine (env : KeyEnvironment) (keyMaterial : Bytes) (state : JournalState)
    (request : RevokeKeyRequest) : Except KeyError (JournalRecord × Bytes) := do
  let record <- newRecord env keyMaterial state request
  let line := record.bytes ++ [newline]
  check (decide (line.length <= maxLineBytes)) .invalid
  .ok (record, line)

def appendRevocation (env : KeyEnvironment) (keyId : String) (keyMaterial : Bytes)
    (state : JournalState) (request : RevokeKeyRequest) (file : Bytes) :
    Except KeyError RevocationReceipt × Bytes :=
  match state.idempotency[request.idempotencyKey.text]? with
  | some index =>
      match state.records[index]? with
      | none => (.error .integrity, file)
      | some record =>
          if record.handle = request.handle.text then (receiptFromRecord keyId record, file)
          else (.error .conflict, file)
  | none =>
      match newLine env keyMaterial state request with
      | .error error => (.error error, file)
      | .ok (record, line) =>
          if file.length = state.byteLength then
            (receiptFromRecord keyId record, file.take state.byteLength ++ line)
          else (.error .integrity, file)

end Keys
end GraphHelm
