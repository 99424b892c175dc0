import Mathlib.Data.List.Basic

/-!
# Protocol vocabulary

The validated identifiers, closed vocabularies and persisted records that the
event payloads are built from (`core/protocols`).  An identifier carries the
proof that its text passed the parser, so no event can name an identifier the
wire would refuse.
-/

namespace GraphHelm

/-!
## Validated identifiers
-/

/-- `is_opaque_id`: 1 to 128 bytes of printable ASCII other than `/`, `:` and `\`. -/
def isOpaqueId (value : String) : Bool :=
  decide (0 < value.utf8ByteSize) && decide (value.utf8ByteSize <= 128) &&
    value.toList.all fun c =>
      (0x21 <= c.toNat && c.toNat <= 0x2e) || (0x30 <= c.toNat && c.toNat <= 0x39) ||
        (0x3b <= c.toNat && c.toNat <= 0x5b) || (0x5d <= c.toNat && c.toNat <= 0x7e)

/--
The identifiers the source declares with `validated_string!` over
`is_opaque_id`: `OpaqueId`, `WorkspaceId`, `ProjectId`, `ExecutionId`,
`EvidenceId` and `ArtifactId`.
-/
structure OpaqueId where
  text : String
  valid : isOpaqueId text = true
deriving DecidableEq

namespace OpaqueId

def parse (value : String) : Option OpaqueId :=
  if h : isOpaqueId value = true then some { text := value, valid := h } else none

@[simp] theorem parse_text (id : OpaqueId) : parse id.text = some id := by
  simp [parse, id.valid]

theorem text_of_parse {value : String} {id : OpaqueId} (h : parse value = some id) :
    id.text = value := by
  unfold parse at h
  split at h
  · cases h
    rfl
  · cases h

theorem text_injective {a b : OpaqueId} (h : a.text = b.text) : a = b := by
  cases a
  cases b
  cases h
  rfl

end OpaqueId

abbrev EvidenceId := OpaqueId
abbrev ArtifactId := OpaqueId
abbrev ActorId := String
abbrev SafeCode := String
abbrev WireHash := String
abbrev RawSha256 := String
abbrev EventHash := String

/-- A UTC instant, counted in nanoseconds from the Unix epoch. -/
abbrev PersistedTimestamp := Int

/-!
## Instants

`PersistedTimestamp::from_datetime` refuses an instant whose RFC 3339 rendering
leaves the schema's four-digit year, and `checked_add_signed` is the only
arithmetic the fold does on instants.
-/

def minTimestampNanos : Int := -62167219200 * 1000000000

def maxTimestampNanos : Int := 253402300800 * 1000000000 - 1

def i64Max : Nat := 9223372036854775807

/-- The instant `seconds` after `base`, or nothing when it cannot be represented. -/
def horizonAfter (base : PersistedTimestamp) (seconds : Nat) :
    Option PersistedTimestamp :=
  let horizon := base + (seconds : Int) * 1000000000
  if seconds <= i64Max && minTimestampNanos <= horizon && horizon <= maxTimestampNanos then
    some horizon
  else
    none

/-!
## Scopes, actors and references
-/

structure RepositoryScope where
  workspaceId : OpaqueId
  projectId : OpaqueId
  executionId : Option OpaqueId
deriving DecidableEq

inductive PersistedActorType where
  | owner
  | human
  | agent
  | system
deriving DecidableEq

structure PersistedActor where
  actorType : PersistedActorType
  id : ActorId
deriving DecidableEq

inductive Sensitivity where
  | «public»
  | internal
  | confidential
  | restricted
deriving DecidableEq

structure EvidenceReference where
  evidenceId : EvidenceId
  contentSha256 : RawSha256
  ciphertextSha256 : RawSha256
deriving DecidableEq

structure ArtifactReference where
  artifactId : ArtifactId
  locator : String
  contentSha256 : RawSha256
  mediaType : String
  byteLength : Nat
  sensitivity : Sensitivity
  metadataVersion : String
deriving DecidableEq

/-!
## Lifecycle vocabularies
-/

inductive NodeState where
  | draft
  | ghost
  | linting
  | ready
  | queued
  | running
  | waitingInput
  | waitingCapacity
  | paused
  | blocked
  | succeeded
  | failed
  | waived
  | skipped
  | cancelled
  | invalidated
deriving DecidableEq, Repr

inductive NodeOutcome where
  | started
  | succeeded
  | retryableFailure
  | terminalFailure
  | needsInput
  | needsCapacity
  | approved
  | waived
  | skipped
  | cancelled
  | invalidated
  | paused
  | interrupted
deriving DecidableEq, Repr

inductive SimulationStatus where
  | running
  | completed
  | failed
  | paused
  | blocked
  | cancelled
deriving DecidableEq, Repr

inductive ExecutionMode where
  | autopilot
  | supervised
  | manual
deriving DecidableEq

end GraphHelm
