import GraphHelm.Library.Meters
import GraphHelm.Store.Loaded

/-!
# What a load counts

`LoadBudget` of `core/events/src/local.rs`: ten counters over the lines of the
active segment, each with its limit, besides the bytes of the evidence metadata
the load verifies.  The checks of the loader are here; what the counters read
without any limit is `Tally.count`, and the loader accepts exactly the batches
whose count stays within the limits.
-/

namespace GraphHelm

open Std

inductive LoadCounter where
  | batches
  | events
  | evidenceRefs
  | evidenceRegistrations
  | uniqueEvidence
  | artifactRefs
  | artifactRegistrations
  | uniqueArtifacts
  | graphPublications
  | workUnits
deriving DecidableEq

def maxLoadWorkUnits : Nat := 2000000

def maxRepositoryMetadataBytes : Nat := 1024 * 1024 * 1024

def defaultLoadLimits : LoadCounter -> Nat
  | .workUnits => maxLoadWorkUnits
  | _ => maxReadAll

/-!
## Charges
-/

def accountBatch (batches events : Nat) : List (LoadCounter × Nat) :=
  [(.batches, batches), (.events, events), (.workUnits, batches + events)]

def accountEvidenceRegistrations (amount : Nat) : List (LoadCounter × Nat) :=
  [(.evidenceRegistrations, amount), (.workUnits, amount)]

def accountArtifacts (references registrations : Nat) : List (LoadCounter × Nat) :=
  [(.artifactRefs, references), (.artifactRegistrations, registrations),
    (.workUnits, references + registrations)]

def accountEvidenceRefs (amount : Nat) : List (LoadCounter × Nat) :=
  [(.evidenceRefs, amount), (.workUnits, amount)]

def accountGraphPublication : List (LoadCounter × Nat) :=
  [(.graphPublications, 1), (.workUnits, 1)]

def accountUniqueEvidence : List (LoadCounter × Nat) :=
  [(.uniqueEvidence, 1), (.workUnits, 1)]

def accountUniqueArtifact : List (LoadCounter × Nat) :=
  [(.uniqueArtifacts, 1), (.workUnits, 1)]

/-- What a batch brings to the counters, whether it is written yet or still a request. -/
structure BatchLoad where
  scope : RepositoryScope
  events : List NewEvent
  evidenceIds : List EvidenceId
  artifactIds : List ArtifactId

def PhysicalBatch.load (batch : PhysicalBatch) : BatchLoad :=
  { scope := batch.scope
    events := batch.newEvents
    evidenceIds := batch.evidenceIds
    artifactIds := batch.artifacts.map fun item => item.reference.artifactId }

def PreparedAppend.load (request : PreparedAppend) : BatchLoad :=
  { scope := request.scope
    events := request.events
    evidenceIds := request.evidenceIds
    artifactIds := request.artifacts.map fun item => item.reference.artifactId }

namespace BatchLoad

def evidenceReferences (load : BatchLoad) : Nat :=
  (load.events.map fun event => event.evidenceRefs.length).sum

def artifactReferences (load : BatchLoad) : Nat :=
  (load.events.map fun event => event.artifactRefs.length).sum

def charges (load : BatchLoad) : List (LoadCounter × Nat) :=
  accountBatch 1 load.events.length ++
    accountEvidenceRegistrations load.evidenceIds.length ++
    accountArtifacts load.artifactReferences load.artifactIds.length ++
    accountEvidenceRefs load.evidenceReferences ++
    (load.events.filter fun event => isPublication event.kind).flatMap
      fun _ => accountGraphPublication

end BatchLoad

/-!
## The tally
-/

structure Tally where
  meter : Meter LoadCounter
  evidence : ExtTreeSet ObjectKey
  artifacts : ExtTreeSet ObjectKey
  metadataBytes : Nat
  /-- Whether the metadata of every item of evidence verified so far fits an event. -/
  metadataFits : Bool

namespace Tally

def zero : Tally :=
  { meter := Meter.zero
    evidence := ∅
    artifacts := ∅
    metadataBytes := 0
    metadataFits := true }

structure Within (tally : Tally) : Prop where
  meter : tally.meter.Within defaultLoadLimits
  metadataBytes : tally.metadataBytes <= maxRepositoryMetadataBytes
  metadataFits : tally.metadataFits = true

theorem zero_within : zero.Within :=
  { meter := Meter.zero_within defaultLoadLimits
    metadataBytes := Nat.zero_le _
    metadataFits := rfl }

/-!
### Counting
-/

def charge (charges : List (LoadCounter × Nat)) (tally : Tally) : Tally :=
  { tally with meter := tally.meter.total charges }

def countEvidence (tally : Tally) (key : ObjectKey) : Tally :=
  if tally.evidence.contains key then
    tally
  else
    { tally.charge accountUniqueEvidence with evidence := tally.evidence.insert key }

def countArtifact (tally : Tally) (key : ObjectKey) : Tally :=
  if tally.artifacts.contains key then
    tally
  else
    { tally.charge accountUniqueArtifact with artifacts := tally.artifacts.insert key }

def addMetadata (bytes : Nat) (tally : Tally) : Tally :=
  { tally with
    metadataBytes := tally.metadataBytes + bytes
    metadataFits := tally.metadataFits && decide (bytes <= maxEventBytes) }

/-- A registered item: its metadata is read the first time the load meets it. -/
def countRegistration (metadata : ObjectKey -> Nat) (tally : Tally) (key : ObjectKey) : Tally :=
  if tally.evidence.contains key then
    tally
  else
    (tally.countEvidence key).addMetadata (metadata key)

def countEvent (scope : RepositoryScope) (tally : Tally) (event : NewEvent) : Tally :=
  let references := event.evidenceRefs.foldl
    (fun tally reference =>
      tally.countEvidence { scope := scope, id := reference.evidenceId }) tally
  event.artifactRefs.foldl
    (fun tally artifact =>
      tally.countArtifact { scope := scope, id := artifact.artifactId }) references

def countRegistrations (metadata : ObjectKey -> Nat) (scope : RepositoryScope)
    (ids : List EvidenceId) (tally : Tally) : Tally :=
  ids.foldl (fun tally id => tally.countRegistration metadata { scope := scope, id := id }) tally

def countArtifacts (scope : RepositoryScope) (ids : List ArtifactId) (tally : Tally) : Tally :=
  ids.foldl (fun tally id => tally.countArtifact { scope := scope, id := id }) tally

/-- The tally after one more batch, whatever the limits. -/
def count (metadata : ObjectKey -> Nat) (tally : Tally) (load : BatchLoad) : Tally :=
  let charged := tally.charge load.charges
  let registered := charged.countRegistrations metadata load.scope load.evidenceIds
  let counted := load.events.foldl (countEvent load.scope) registered
  counted.countArtifacts load.scope load.artifactIds

/-!
### Counting under limits
-/

def spend (charges : List (LoadCounter × Nat)) (tally : Tally) :
    Except EventRepositoryError Tally := do
  let meter <- orRefuse (Meter.spend defaultLoadLimits charges tally.meter) .limitExceeded
  .ok { tally with meter := meter }

def spendEvidence (tally : Tally) (key : ObjectKey) : Except EventRepositoryError Tally :=
  if tally.evidence.contains key then
    .ok tally
  else do
    let charged <- tally.spend accountUniqueEvidence
    .ok { charged with evidence := charged.evidence.insert key }

def spendArtifact (tally : Tally) (key : ObjectKey) : Except EventRepositoryError Tally :=
  if tally.artifacts.contains key then
    .ok tally
  else do
    let charged <- tally.spend accountUniqueArtifact
    .ok { charged with artifacts := charged.artifacts.insert key }

def spendMetadata (bytes : Nat) (tally : Tally) : Except EventRepositoryError Tally := do
  check (decide (bytes <= maxEventBytes)) .limitExceeded
  check (decide (tally.metadataBytes + bytes <= maxRepositoryMetadataBytes)) .limitExceeded
  .ok (tally.addMetadata bytes)

/-!
### The two agree while the limits hold
-/

variable {tally tally' : Tally} {key : ObjectKey} {scope : RepositoryScope}

theorem Within.of_charge {charges : List (LoadCounter × Nat)}
    (h : (tally.charge charges).Within) : tally.Within :=
  { meter := h.meter.of_total
    metadataBytes := h.metadataBytes
    metadataFits := h.metadataFits }

theorem Within.of_countEvidence (h : (tally.countEvidence key).Within) : tally.Within := by
  unfold countEvidence at h
  split at h
  · exact h
  · exact Within.of_charge
      { meter := h.meter
        metadataBytes := h.metadataBytes
        metadataFits := h.metadataFits }

theorem Within.of_countArtifact (h : (tally.countArtifact key).Within) : tally.Within := by
  unfold countArtifact at h
  split at h
  · exact h
  · exact Within.of_charge
      { meter := h.meter
        metadataBytes := h.metadataBytes
        metadataFits := h.metadataFits }

theorem Within.of_addMetadata {bytes : Nat} (h : (tally.addMetadata bytes).Within) :
    tally.Within ∧ bytes <= maxEventBytes := by
  have hfits := h.metadataFits
  unfold addMetadata at hfits
  rw [Bool.and_eq_true, decide_eq_true_eq] at hfits
  refine And.intro ?_ hfits.right
  exact
    { meter := h.meter
      metadataBytes := Nat.le_trans (Nat.le_add_right _ bytes) h.metadataBytes
      metadataFits := hfits.left }

theorem Within.of_countRegistration {metadata : ObjectKey -> Nat}
    (h : (tally.countRegistration metadata key).Within) : tally.Within := by
  unfold countRegistration at h
  split at h
  · exact h
  · exact h.of_addMetadata.left.of_countEvidence

theorem Within.of_foldl {α : Type} {f : Tally -> α -> Tally}
    (hstep : forall {tally a}, (f tally a).Within -> tally.Within) {xs : List α}
    (h : (xs.foldl f tally).Within) : tally.Within := by
  induction xs generalizing tally with
  | nil =>
      exact h
  | cons x rest ih =>
      exact hstep (ih h)

theorem Within.of_countEvent {event : NewEvent} (h : (tally.countEvent scope event).Within) :
    tally.Within :=
  Within.of_foldl Within.of_countEvidence (Within.of_foldl Within.of_countArtifact h)

theorem Within.of_countArtifacts {ids : List ArtifactId}
    (h : (tally.countArtifacts scope ids).Within) : tally.Within :=
  Within.of_foldl Within.of_countArtifact h

theorem Within.of_countRegistrations {metadata : ObjectKey -> Nat} {ids : List EvidenceId}
    (h : (tally.countRegistrations metadata scope ids).Within) : tally.Within :=
  Within.of_foldl Within.of_countRegistration h

theorem spend_eq_ok {charges : List (LoadCounter × Nat)} (hwithin : tally.Within) :
    tally.spend charges = .ok tally' <->
      tally.charge charges = tally' ∧ (tally.charge charges).Within := by
  unfold spend
  rw [Except.bind_eq_ok]
  constructor
  · rintro ⟨meter, hmeter, h⟩
    cases h
    rcases (Meter.spend_eq_some hwithin.meter).mp (orRefuse_eq_ok.mp hmeter) with ⟨rfl, hend⟩
    refine And.intro rfl ?_
    exact
      { meter := hend
        metadataBytes := hwithin.metadataBytes
        metadataFits := hwithin.metadataFits }
  · rintro ⟨rfl, hend⟩
    refine ⟨_, orRefuse_eq_ok.mpr ((Meter.spend_eq_some hwithin.meter).mpr ?_), rfl⟩
    exact And.intro rfl hend.meter

theorem spendEvidence_eq_ok (hwithin : tally.Within) :
    tally.spendEvidence key = .ok tally' <->
      tally.countEvidence key = tally' ∧ (tally.countEvidence key).Within := by
  unfold spendEvidence countEvidence
  by_cases hcounted : tally.evidence.contains key = true
  · rw [if_pos hcounted, if_pos hcounted]
    exact Iff.intro (fun h => by cases h; exact And.intro rfl hwithin) fun h => by rw [h.left]
  · rw [if_neg hcounted, if_neg hcounted, Except.bind_eq_ok]
    constructor
    · rintro ⟨charged, hcharge, h⟩
      cases h
      rcases (spend_eq_ok hwithin).mp hcharge with ⟨rfl, hend⟩
      exact And.intro rfl ⟨hend.meter, hend.metadataBytes, hend.metadataFits⟩
    · rintro ⟨rfl, hend⟩
      refine ⟨_, (spend_eq_ok hwithin).mpr (And.intro rfl ?_), rfl⟩
      exact ⟨hend.meter, hend.metadataBytes, hend.metadataFits⟩

theorem spendArtifact_eq_ok (hwithin : tally.Within) :
    tally.spendArtifact key = .ok tally' <->
      tally.countArtifact key = tally' ∧ (tally.countArtifact key).Within := by
  unfold spendArtifact countArtifact
  by_cases hcounted : tally.artifacts.contains key = true
  · rw [if_pos hcounted, if_pos hcounted]
    exact Iff.intro (fun h => by cases h; exact And.intro rfl hwithin) fun h => by rw [h.left]
  · rw [if_neg hcounted, if_neg hcounted, Except.bind_eq_ok]
    constructor
    · rintro ⟨charged, hcharge, h⟩
      cases h
      rcases (spend_eq_ok hwithin).mp hcharge with ⟨rfl, hend⟩
      exact And.intro rfl ⟨hend.meter, hend.metadataBytes, hend.metadataFits⟩
    · rintro ⟨rfl, hend⟩
      refine ⟨_, (spend_eq_ok hwithin).mpr (And.intro rfl ?_), rfl⟩
      exact ⟨hend.meter, hend.metadataBytes, hend.metadataFits⟩

theorem spendMetadata_eq_ok {bytes : Nat} (hwithin : tally.Within) :
    tally.spendMetadata bytes = .ok tally' <->
      tally.addMetadata bytes = tally' ∧ (tally.addMetadata bytes).Within := by
  unfold spendMetadata
  constructor
  · intro h
    rcases check_ok h with ⟨hfits, h⟩
    rcases check_ok h with ⟨hroom, h⟩
    cases h
    refine And.intro rfl ?_
    exact
      { meter := hwithin.meter
        metadataBytes := of_decide_eq_true hroom
        metadataFits := by
          show (tally.metadataFits && decide (bytes <= maxEventBytes)) = true
          rw [hwithin.metadataFits, hfits]
          rfl }
  · rintro ⟨rfl, hend⟩
    refine check_bind_eq_ok.mpr ⟨decide_eq_true hend.of_addMetadata.right, ?_⟩
    exact check_bind_eq_ok.mpr ⟨decide_eq_true hend.metadataBytes, rfl⟩

end Tally

end GraphHelm
