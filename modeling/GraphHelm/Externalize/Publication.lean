import GraphHelm.Externalize.Collecting
import GraphHelm.Externalize.Topology

/-!
# Publications

The content of a published version is named by the publication it belongs to
(`bind_publication_evidence_ids` of `core/governor/src/externalize.rs`), and sealed under
data that authenticates the scope and the name (`evidence_aad`).
-/

namespace GraphHelm
namespace Externalize

open Std

/-!
## Evidence identities
-/

/-- The execution of a scope, behind a byte that says whether there is one. -/
def executionPart (scope : RepositoryScope) : Option (List UInt8) :=
  match scope.executionId with
  | some executionId => (positionPart executionId.text).map fun part => 1 :: part
  | none => some [0]

def publicationIdentity (scope : RepositoryScope) (number : Nat) (semanticHash : WireHash)
    (slot : ContentSlot) : Option (List UInt8) := do
  let head <- positionParts ["graphhelm-publication-evidence-identity-v1", scope.workspaceId.text,
    scope.projectId.text]
  let execution <- executionPart scope
  let hash <- positionPart semanticHash
  let place <- positionParts [slot.slotId.text, slot.position.ownerKind.asStr,
    slot.position.ownerId, slot.position.fieldKind.asStr]
  some (head ++ (execution ++ (bigEndian 8 number ++ (hash ++
    (place ++ bigEndian 4 slot.position.ordinal)))))

def derivePublicationEvidenceId (env : Surroundings) (scope : RepositoryScope) (number : Nat)
    (semanticHash : WireHash) (slot : ContentSlot) : Option EvidenceId := do
  let bytes <- publicationIdentity scope number semanticHash slot
  OpaqueId.parse ("evidence-" ++ env.rawContentSha256 bytes)

def PendingContent.bound (item : PendingContent) (evidenceId : EvidenceId) : PendingContent :=
  { item with slot := { item.slot with evidenceId } }

def bindPublicationEvidenceIds (env : Surroundings) (scope : RepositoryScope) (number : Nat)
    (semanticHash : WireHash) (items : List PendingContent) :
    Except GovernorError (List PendingContent) :=
  items.mapM fun item => do
    let evidenceId <- orRefuse
      (derivePublicationEvidenceId env scope number semanticHash item.slot) .invalidProjection
    .ok (item.bound evidenceId)

/-!
## Sealing
-/

inductive EvidenceError where
  | unavailable
  | tooLarge
  | batchTooLarge
  | invalid
  | sealingFailed
deriving DecidableEq

/-- How a sensitivity is named in the data that authenticates evidence. -/
def sensitivityText (sensitivity : Sensitivity) : String :=
  if sensitivity = .internal then "internal"
  else if sensitivity = .confidential then "confidential"
  else if sensitivity = .restricted then "restricted"
  else "public"

def evidenceAad (scope : RepositoryScope) (evidenceId : EvidenceId) (mediaType : String)
    (sensitivity : Sensitivity) (retentionClass : String) (contentSha256 : RawSha256) :
    Option (List UInt8) := do
  let head <- positionParts ["graphhelm-evidence-aad-v1", scope.workspaceId.text,
    scope.projectId.text]
  let execution <- executionPart scope
  let tail <- positionParts [evidenceId.text, "1.0.0", mediaType, sensitivityText sensitivity,
    retentionClass, contentSha256]
  some (head ++ (execution ++ tail))

end Externalize
end GraphHelm
