import GraphHelm.Credentials.Sealing
import GraphHelm.Library.OrderedMap
import Mathlib.Data.List.Sort

/-!
# The credential broker

What a broker keeps on disk and in memory, the tag on each entry, and its calls
(`adapters/model-gateway/src/broker.rs`).
-/

namespace GraphHelm
namespace Credentials

open Keys Std
open Externalize (EvidenceError)

def storeVersion : Nat := 1

def credentialMediaType : String := "application/octet-stream"

def credentialRetentionClass : String := "standard"

def maxReferenceTokenLen : Nat := 64

def entryMacPurpose : String := "gateway.credential.entry"

def entryMacAlgorithm : String := "hmac-sha256"

structure SecretReference where
  id : String
  provider : String
  usableBy : List String
deriving DecidableEq

inductive BrokerError where
  | invalidReference (field : String)
  | keyProvider (error : KeyError)
  | storage (operation : String)
  | corrupt (detail : String)
  | notFound (id : String)
  | revoked (id : String)
  | providerMismatch (id : String)
  | notUsableByRoute (id routeId : String)
  | sealed (error : EvidenceError)
deriving DecidableEq

/-- One credential. Its id is the one its value was sealed under. -/
structure Entry where
  provider : String
  usableBy : List String
  revoked : Bool
  evidence : SealedEvidence
  macKeyId : String
  macTag : Bytes

def Entry.id (entry : Entry) : String :=
  entry.evidence.evidenceId.text

abbrev Entries := ExtTreeMap String Entry

def gatewayScope : RepositoryScope where
  workspaceId := { text := "gateway", valid := by decide }
  projectId := { text := "credentials", valid := by decide }
  executionId := none

/-!
## References
-/

def validToken (value : String) : Bool :=
  decide (1 <= value.utf8ByteSize) && decide (value.utf8ByteSize <= maxReferenceTokenLen) &&
    value.toList.all fun c => lowercaseOrDigit c || decide (c ∈ "_.-".toList)

def validRouteId (value : String) : Bool :=
  decide (1 <= value.utf8ByteSize) && decide (value.utf8ByteSize <= maxReferenceTokenLen) &&
    value.toList.all fun c => lowercaseOrDigit c || decide (c = '_')

def validateReference (reference : SecretReference) : Except BrokerError Unit := do
  check (validToken reference.id) (.invalidReference "id")
  check (validToken reference.provider) (.invalidReference "provider")
  check (reference.usableBy ≠ [] && reference.usableBy.all validRouteId)
    (.invalidReference "usableBy")

/-!
## Entry tags
-/

def entryLabel : Bytes := utf8 "graphhelm-gateway-credential-entry-v1"

def sortedRoutes (usableBy : List String) : List String :=
  usableBy.insertionSort fun a b => a <= b

def entryAuthenticationBytes (id provider : String) (usableBy : List String) (revoked : Bool)
    (evidence : SealedEvidence) : Bytes :=
  entryLabel ++ framed (utf8 id) ++ framed (utf8 provider) ++
    (sortedRoutes usableBy).flatMap (fun route => framed (utf8 route)) ++
    [if revoked then 1 else 0] ++
    framed (utf8 evidence.evidenceId.text) ++ framed (utf8 evidence.contentSha256.text) ++
    framed (utf8 evidence.ciphertextSha256.text)

def Entry.authenticationBytes (entry : Entry) : Bytes :=
  entryAuthenticationBytes entry.id entry.provider entry.usableBy entry.revoked entry.evidence

structure EntryMac where
  keyId : String
  tag : Bytes

def computeEntryMac (keys : KeyProvider) (id provider : String) (usableBy : List String)
    (revoked : Bool) (evidence : SealedEvidence) : Except BrokerError EntryMac := do
  let bytes := entryAuthenticationBytes id provider usableBy revoked evidence
  let request <- (AuthenticateRequest.new entryMacPurpose bytes).mapError .keyProvider
  let tag <- (keys.authenticate request).mapError .keyProvider
  .ok { keyId := tag.keyId.text, tag := tag.bytes }

def verifyEntryMac (keys : KeyProvider) (entry : Entry) : Except BrokerError Unit := do
  let tag <- (AuthenticationTag.new entry.macKeyId entry.macTag).mapError
    fun _ => .corrupt "credential entry integrity tag is malformed"
  let request <- (VerifyAuthenticationRequest.new entryMacPurpose entry.authenticationBytes
    tag).mapError fun _ => .corrupt "credential entry integrity tag is malformed"
  (keys.verify request).mapError fun _ => .corrupt "credential entry failed integrity verification"

/-!
## The index on disk
-/

structure PersistedWrappedKey where
  keyId : String
  handle : String
  algorithm : String
  nonce : String
  ciphertext : String
  aadSha256 : String

structure PersistedEvidence where
  evidenceId : String
  contentSha256 : String
  ciphertextSha256 : String
  workspaceId : String
  projectId : String
  executionId : Option String
  mediaType : String
  sensitivity : Sensitivity
  retentionClass : String
  algorithm : String
  nonce : String
  ciphertext : String
  wrappedKey : PersistedWrappedKey

structure PersistedEntryMac where
  keyId : String
  algorithm : String
  tag : String

structure PersistedEntry where
  id : String
  provider : String
  usableBy : List String
  revoked : Bool
  evidence : PersistedEvidence
  entryMac : PersistedEntryMac

structure PersistedStore where
  storeVersion : Nat
  entries : List PersistedEntry

/-- `serde_json::to_vec_pretty` and `serde_json::from_slice`, of an index. -/
structure IndexFormat (File : Type) where
  write : PersistedStore -> File
  read : File -> Option PersistedStore
  read_write : forall store, read (write store) = some store

def Entry.toPersisted (entry : Entry) : PersistedEntry where
  id := entry.id
  provider := entry.provider
  usableBy := entry.usableBy
  revoked := entry.revoked
  evidence :=
    { evidenceId := entry.evidence.evidenceId.text
      contentSha256 := entry.evidence.contentSha256.text
      ciphertextSha256 := entry.evidence.ciphertextSha256.text
      workspaceId := entry.evidence.scope.workspaceId.text
      projectId := entry.evidence.scope.projectId.text
      executionId := entry.evidence.scope.executionId.map OpaqueId.text
      mediaType := entry.evidence.mediaType.text
      sensitivity := entry.evidence.sensitivity
      retentionClass := entry.evidence.retentionClass.text
      algorithm := evidenceAlgorithm
      nonce := hexEncode entry.evidence.nonce
      ciphertext := hexEncode entry.evidence.ciphertext
      wrappedKey :=
        { keyId := entry.evidence.wrappedKey.keyId.text
          handle := entry.evidence.wrappedKey.handle.text
          algorithm := evidenceAlgorithm
          nonce := hexEncode entry.evidence.wrappedKey.nonce
          ciphertext := hexEncode entry.evidence.wrappedKey.ciphertext
          aadSha256 := entry.evidence.wrappedKey.aadSha256 } }
  entryMac :=
    { keyId := entry.macKeyId
      algorithm := entryMacAlgorithm
      tag := hexEncode entry.macTag }

/-- `ExecutionId::parse` over an optional member. -/
def parseExecutionId (value : Option String) : Option (Option OpaqueId) :=
  match value with
  | none => some none
  | some value => (OpaqueId.parse value).map some

def wrappedKeyOf (raw : PersistedWrappedKey) : Except BrokerError WrappedKey := do
  let nonce <- orRefuse (hexDecode raw.nonce) (.corrupt "wrapped key nonce is not valid hex")
  let ciphertext <- orRefuse (hexDecode raw.ciphertext)
    (.corrupt "wrapped key ciphertext is not valid hex")
  let aadSha256 <- orRefuse (RawSha256.parse raw.aadSha256)
    (.corrupt "wrapped key aad sha256 is invalid")
  check (decide (raw.algorithm = evidenceAlgorithm)) (.corrupt "wrapped key is not well-formed")
  (WrappedKey.new raw.keyId raw.handle nonce ciphertext aadSha256.text).mapError
    fun _ => .corrupt "wrapped key is not well-formed"

def scopeOf (raw : PersistedEvidence) : Except BrokerError RepositoryScope := do
  let workspaceId <- orRefuse (OpaqueId.parse raw.workspaceId) (.corrupt "workspace id is invalid")
  let projectId <- orRefuse (OpaqueId.parse raw.projectId) (.corrupt "project id is invalid")
  let executionId <- orRefuse (parseExecutionId raw.executionId)
    (.corrupt "execution id is invalid")
  .ok { workspaceId := workspaceId, projectId := projectId, executionId := executionId }

def evidenceOf (raw : PersistedEvidence) : Except BrokerError SealedEvidence := do
  let evidenceId <- orRefuse (OpaqueId.parse raw.evidenceId) (.corrupt "evidence id is invalid")
  let contentSha256 <- orRefuse (RawSha256.parse raw.contentSha256)
    (.corrupt "content sha256 is invalid")
  let ciphertextSha256 <- orRefuse (RawSha256.parse raw.ciphertextSha256)
    (.corrupt "ciphertext sha256 is invalid")
  let scope <- scopeOf raw
  let nonce <- orRefuse (hexDecode raw.nonce) (.corrupt "nonce is not valid hex")
  let ciphertext <- orRefuse (hexDecode raw.ciphertext) (.corrupt "ciphertext is not valid hex")
  let wrappedKey <- wrappedKeyOf raw.wrappedKey
  (SealedEvidence.new evidenceId contentSha256 ciphertextSha256 scope raw.mediaType
    raw.sensitivity raw.retentionClass raw.algorithm nonce ciphertext wrappedKey).mapError
    fun _ => .corrupt "sealed evidence is not well-formed"

def Entry.fromPersisted (raw : PersistedEntry) : Except BrokerError Entry := do
  check (decide (raw.id = raw.evidence.evidenceId))
    (.corrupt "id does not match the sealed evidence id")
  let evidence <- evidenceOf raw.evidence
  let macTag <- orRefuse (hexDecode raw.entryMac.tag) (.corrupt "entry mac tag is not valid hex")
  .ok
    { provider := raw.provider
      usableBy := raw.usableBy
      revoked := raw.revoked
      evidence := evidence
      macKeyId := raw.entryMac.keyId
      macTag := macTag }

section Index

variable {File : Type} (format : IndexFormat File)

def serializeStore (entries : Entries) : File :=
  format.write { storeVersion := storeVersion, entries := entries.toList.map fun binding => binding.2.toPersisted }

def loadEntry (keys : KeyProvider) (raw : PersistedEntry) : Except BrokerError Entry := do
  let entry <- Entry.fromPersisted raw
  verifyEntryMac keys entry
  .ok entry

def load (keys : KeyProvider) (index : File) : Except BrokerError Entries := do
  let persisted <- orRefuse (format.read index) (.corrupt "the credential store is not valid JSON")
  let entries <- persisted.entries.mapM (loadEntry keys)
  .ok (entries.foldl (fun map entry => map.insert entry.id entry) ∅)

end Index

/-!
## Calls
-/

/-- What writing the index comes to: it is replaced, or some operation fails before it is, or
it is replaced and the directory cannot be synced. -/
inductive Writing where
  | done
  | failed (operation : String)
  | unsynced
deriving DecidableEq

/-- What a call that may replace the index answers and leaves. -/
structure Outcome (File R : Type) where
  result : Except BrokerError R
  index : File
  replaced : Bool

structure Broker (File : Type) where
  env : ProviderEnvironment
  keyId : OpaqueId
  keyMaterial : Bytes
  format : IndexFormat File

/-- What a call finds outside: the key provider's state, and what the generator gives. -/
structure Surroundings where
  loaded : Except KeyError JournalState
  random : Randomness
  wrappingNonce : Bytes

section Calls

variable {File R : Type} (broker : Broker File)

def Broker.keys (surroundings : Surroundings) : KeyProvider :=
  sealedKeyProvider broker.env broker.keyId broker.keyMaterial surroundings.wrappingNonce
    surroundings.loaded

def Broker.load (surroundings : Surroundings) (index : File) : Except BrokerError Entries :=
  Credentials.load broker.format (broker.keys surroundings) index

def persist (entries : Entries) (answer : R) (writing : Writing) (index : File) :
    Outcome File R :=
  match writing with
  | .done =>
      { result := .ok answer, index := serializeStore broker.format entries, replaced := true }
  | .failed operation =>
      { result := .error (.storage operation), index := index, replaced := false }
  | .unsynced =>
      { result := .error (.storage "sync the broker directory")
        index := serializeStore broker.format entries
        replaced := true }

def sealValue (surroundings : Surroundings) (id : String) (value : Bytes) :
    Except BrokerError SealedEvidence := do
  let input <- (EvidenceInput.new id credentialMediaType .restricted credentialRetentionClass
    value).mapError .sealed
  (sealEvidence broker.env (broker.keys surroundings) surroundings.random gatewayScope
    input).mapError .sealed

def storedEntry (reference : SecretReference) (evidence : SealedEvidence) (mac : EntryMac) :
    Entry where
  provider := reference.provider
  usableBy := reference.usableBy
  revoked := false
  evidence := evidence
  macKeyId := mac.keyId
  macTag := mac.tag

/-- What `store` does up to the writing. -/
def storeCandidate (surroundings : Surroundings) (index : File) (reference : SecretReference)
    (value : Bytes) : Except BrokerError (Entries × SecretReference) := do
  validateReference reference
  let evidence <- sealValue broker surroundings reference.id value
  let mac <- computeEntryMac (broker.keys surroundings) reference.id reference.provider
    reference.usableBy false evidence
  let candidate <- broker.load surroundings index
  .ok (candidate.insert reference.id (storedEntry reference evidence mac), reference)

/-- The routes that a rotation leaves: its own, and those of the entry it finds that reach the
same endpoint. -/
def preservedRoutes (existing : Option Entry) (usableBy endpointPeers : List String) :
    List String :=
  match existing with
  | none => usableBy
  | some existing =>
      let kept :=
        if existing.revoked then []
        else existing.usableBy.filter fun route => decide (route ∈ endpointPeers)
      (sortedRoutes (usableBy ++ kept)).destutter (· ≠ ·)

def storePreservingCandidate (surroundings : Surroundings) (index : File)
    (reference : SecretReference) (value : Bytes) (endpointPeers : List String) :
    Except BrokerError (Entries × SecretReference) := do
  validateReference reference
  let evidence <- sealValue broker surroundings reference.id value
  let candidate <- broker.load surroundings index
  let existing := candidate[reference.id]?
  check (existing.all fun entry => decide (entry.provider = reference.provider))
    (.providerMismatch reference.id)
  let usableBy := preservedRoutes existing reference.usableBy endpointPeers
  let mac <- computeEntryMac (broker.keys surroundings) reference.id reference.provider usableBy
    false evidence
  let reference := { reference with usableBy := usableBy }
  .ok (candidate.insert reference.id (storedEntry reference evidence mac), reference)

/-- What `revoke` does up to the writing. -/
def revokeCandidate (surroundings : Surroundings) (index : File) (id : String) :
    Except BrokerError (Entries × Unit) := do
  let candidate <- broker.load surroundings index
  let existing <- orRefuse candidate[id]? (.notFound id)
  let mac <- computeEntryMac (broker.keys surroundings) existing.id existing.provider
    existing.usableBy true existing.evidence
  let entry := { existing with revoked := true, macKeyId := mac.keyId, macTag := mac.tag }
  .ok (candidate.insert id entry, ())

def lease (surroundings : Surroundings) (entries : Entries) (id routeId : String) :
    Except BrokerError Bytes := do
  let entry <- orRefuse entries[id]? (.notFound id)
  verifyEntryMac (broker.keys surroundings) entry
  check (!entry.revoked) (.revoked id)
  check (entry.usableBy.any fun usable => decide (usable = routeId)) (.notUsableByRoute id routeId)
  (openEvidence broker.env (broker.keys surroundings) gatewayScope entry.evidence).mapError .sealed

end Calls

end Credentials
end GraphHelm
