import GraphHelm.Library.Framing
import GraphHelm.Protocol.Event

/-!
# What the fold and the store take from outside

SHA-256, the JSON serializer, the schema validator, the durable-content scanner
and the checks of a published graph version (`core/graph`) are taken as
parameters.  Everything proved below holds for every choice of them; a result
that needs more names what it needs.
-/

namespace GraphHelm

/-- `graphhelm_graph::DurableContentError`. -/
inductive DurableContentError where
  | unsafeContent
  | limitExceeded
deriving DecidableEq

structure Environment where
  /-- `wire_sha256`: the lowercase hexadecimal digest, with its `sha256:` prefix. -/
  wireSha256 : List UInt8 -> WireHash
  /-- Canonical JSON bytes of an envelope without its `eventHash` member. -/
  envelopeJson : EventEnvelope -> List UInt8
  /-- Length of the JSON text `serde_json` writes for the envelope. -/
  serializedLen : EventEnvelope -> Nat
  /-- Length of the envelope's canonical JSON text. -/
  canonicalLen : EventEnvelope -> Nat
  /-- Whether `schemas.validate_event` has nothing to say against the envelope. -/
  validateEvent : EventEnvelope -> Bool
  /-- `validate_durable_content` over the envelope's JSON value. -/
  validateDurableContent : EventEnvelope -> Option DurableContentError
  validatePersistedProjection : PersistedGraphVersion -> Bool
  validatePublicationEvidenceIds : RepositoryScope -> PersistedGraphVersion -> Bool
  validateEvidenceBijection : List ContentSlot -> List EvidenceReference -> Bool

/-!
## Byte encodings
-/

/-- The eight bytes of a `u64`, most significant first. -/
def toBeBytes (value : Nat) : List UInt8 :=
  [56, 48, 40, 32, 24, 16, 8, 0].map fun shift => UInt8.ofNat (value >>> shift)

/-- `GENESIS_HASH`: the previous hash of a stream's first event. -/
def genesisHash : EventHash :=
  "sha256:35c8ab0717bef1684ad07efcf3bedd4648c778a2c944cbd2c7e6a4802e2237b3"

/-- `event_hash`: the previous hash and the unhashed envelope under one domain prefix. -/
def eventHash (env : Environment) (event : EventEnvelope) (previousHash : EventHash) :
    EventHash :=
  env.wireSha256
    (utf8 "graphhelm-event-hash-v1" ++ [0] ++ utf8 previousHash ++ [0] ++
      env.envelopeJson event.unhashed)

/-- One length-prefixed field of a digest's input. -/
def pushField (field : List UInt8) : List UInt8 :=
  toBeBytes field.length ++ field

def claimEvidenceBytes (evidence : List ClaimEvidence) : List UInt8 :=
  evidence.flatMap fun item =>
    pushField (utf8 item.kind) ++ pushField (utf8 item.contentHash) ++
      pushField (toBeBytes item.size)

/-- `claim_evidence_digest`: what a machine-replay clearance must present. -/
def claimEvidenceDigest (env : Environment) (evidence : List ClaimEvidence) : WireHash :=
  env.wireSha256 (claimEvidenceBytes evidence)

end GraphHelm
