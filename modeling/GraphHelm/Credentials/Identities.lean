import GraphHelm.Credentials.Sealing
import GraphHelm.Library.Delimited
import GraphHelm.Protocol.Records

/-!
# The bytes identities are digested from

What `request_digest` hashes to identify an append (`core/events/src/integrity.rs`),
`claim_evidence_digest` the evidence of a claim (`core/events/src/projection.rs`) and
`evidence_aad` the metadata of an envelope (`core/events/src/evidence.rs`).  The parts of a
wrapped key stand one behind another without their lengths; two of them have a fixed width
and one is the evidence id, which is written beside them.
-/

namespace GraphHelm
namespace Credentials

open Keys Canonical
open Externalize (EvidenceError evidenceAad sensitivityText positionPart positionParts executionPart)

/-!
## The request
-/

/-- A request with its evidence in full. -/
structure PreparedAppend where
  scope : RepositoryScope
  streamId : OpaqueId
  expectedNextSequence : Nat
  events : List NewEvent
  evidence : List SealedEvidence
  artifacts : List ArtifactRegistration

def SealedEvidence.reference (item : SealedEvidence) : EvidenceReference :=
  { evidenceId := item.evidenceId
    contentSha256 := item.contentSha256.text
    ciphertextSha256 := item.ciphertextSha256.text }

/-- `validate_sealed_metadata`; the sizes and the algorithm are part of the type. -/
def validateSealedMetadata (digest : Digest) (value : SealedEvidence) :
    Except EvidenceError Unit := do
  check
    (decide (value.wrappedKey.handle.text = value.evidenceId.text ∧
      rawSha256 digest value.ciphertext = value.ciphertextSha256)) .invalid
  let aad <- orRefuse
    (evidenceAad value.scope value.evidenceId value.mediaType.text value.sensitivity
      value.retentionClass.text value.contentSha256.text) .invalid
  check (decide ((rawSha256 digest aad).text = value.wrappedKey.aadSha256)) .invalid

def validatePreparedEvidence (digest : Digest) (request : PreparedAppend) :
    Except EventRepositoryError Unit :=
  check
    (decide (request.evidence.map SealedEvidence.evidenceId).Nodup &&
      request.evidence.all fun item =>
        decide (item.scope = request.scope) && (validateSealedMetadata digest item).isOk) .invalid

/-!
## What is digested
-/

def wireSha256 (digest : Digest) (bytes : Bytes) : WireHash :=
  "sha256:" ++ hexEncode (digest.sha256 bytes)

def wrappedKeyBytes (wrapped : WrappedKey) : Bytes :=
  utf8 wrapped.keyId.text ++
    (utf8 wrapped.handle.text ++ (wrapped.nonce ++ wrapped.ciphertext))

structure EvidenceDigest where
  reference : EvidenceReference
  scope : RepositoryScope
  mediaType : String
  sensitivity : Sensitivity
  retentionClass : String
  algorithm : String
  nonceSha256 : WireHash
  wrappedKeySha256 : WireHash
deriving DecidableEq

def evidenceDigest (digest : Digest) (item : SealedEvidence) : EvidenceDigest :=
  { reference := item.reference
    scope := item.scope
    mediaType := item.mediaType.text
    sensitivity := item.sensitivity
    retentionClass := item.retentionClass.text
    algorithm := evidenceAlgorithm
    nonceSha256 := wireSha256 digest item.nonce
    wrappedKeySha256 := wireSha256 digest (wrappedKeyBytes item.wrappedKey) }

structure RequestDigest where
  scope : RepositoryScope
  streamId : OpaqueId
  expectedNextSequence : Nat
  events : List NewEvent
  evidence : List EvidenceDigest
  artifacts : List StoredArtifactRegistration
deriving DecidableEq

def digestLe (left right : EvidenceDigest) : Prop :=
  (compare left.reference.evidenceId.text right.reference.evidenceId.text).isLE = true

instance : DecidableRel digestLe := fun _ _ => inferInstanceAs (Decidable (_ = true))

def digestInput (digest : Digest) (request : PreparedAppend) : RequestDigest :=
  { scope := request.scope
    streamId := request.streamId
    expectedNextSequence := request.expectedNextSequence
    events := request.events
    evidence := (request.evidence.map (evidenceDigest digest)).insertionSort digestLe
    artifacts := request.artifacts.map fun item =>
      { reference := item.reference
        producerStreamId := request.streamId
        producerIdempotencyKey := item.producerIdempotencyKey } }

/-!
## How it is written
-/

def idJson (id : OpaqueId) : Json := .string id.text

def sensitivityJson (sensitivity : Sensitivity) : Json := .string (sensitivityText sensitivity)

def numberJson (value : Nat) : Json := .number (.integer value)

def arrayJson {α : Type} (encode : α -> Json) (items : List α) : Json :=
  .array (items.map encode)

def scopeJson : RepositoryScope -> Json :=
  record
    [field "workspaceId" fun scope => idJson scope.workspaceId,
      field "projectId" fun scope => idJson scope.projectId,
      optional "executionId" fun scope => scope.executionId.map idJson]

def evidenceReferenceJson : EvidenceReference -> Json :=
  record
    [field "evidenceId" fun reference => idJson reference.evidenceId,
      field "contentSha256" fun reference => .string reference.contentSha256,
      field "ciphertextSha256" fun reference => .string reference.ciphertextSha256]

def evidenceDigestJson : EvidenceDigest -> Json :=
  record
    [field "reference" fun item => evidenceReferenceJson item.reference,
      field "scope" fun item => scopeJson item.scope,
      field "mediaType" fun item => .string item.mediaType,
      field "sensitivity" fun item => sensitivityJson item.sensitivity,
      field "retentionClass" fun item => .string item.retentionClass,
      field "algorithm" fun item => .string item.algorithm,
      field "nonceSha256" fun item => .string item.nonceSha256,
      field "wrappedKeySha256" fun item => .string item.wrappedKeySha256]

def artifactReferenceJson : ArtifactReference -> Json :=
  record
    [field "artifactId" fun reference => idJson reference.artifactId,
      field "locator" fun reference => .string reference.locator,
      field "contentSha256" fun reference => .string reference.contentSha256,
      field "mediaType" fun reference => .string reference.mediaType,
      field "byteLength" fun reference => numberJson reference.byteLength,
      field "sensitivity" fun reference => sensitivityJson reference.sensitivity,
      field "metadataVersion" fun reference => .string reference.metadataVersion]

def artifactDigestJson : StoredArtifactRegistration -> Json :=
  record
    [field "reference" fun item => artifactReferenceJson item.reference,
      field "producerStreamId" fun item => idJson item.producerStreamId,
      field "producerIdempotencyKey" fun item => idJson item.producerIdempotencyKey]

/-- The serializer and the deserializer `serde` derives for an event. -/
structure EventSerde where
  toValue : NewEvent -> Option Json
  fromValue : Json -> Option NewEvent

/-- What was written is read back, and reading does not ask in which order members are held. -/
structure EventSerde.Lawful (serde : EventSerde) : Prop where
  distinct : forall {event : NewEvent} {value : Json},
    serde.toValue event = some value -> KeysDistinct value
  reads : forall {event : NewEvent} {value : Json},
    serde.toValue event = some value -> serde.fromValue value = some event
  unordered : forall {value other : Json}, KeysDistinct value -> KeysDistinct other ->
    Same value other -> serde.fromValue value = serde.fromValue other

def requestFields : List (Canonical.Field (List Json × RequestDigest)) :=
  [field "scope" fun input => scopeJson input.2.scope,
    field "streamId" fun input => idJson input.2.streamId,
    field "expectedNextSequence" fun input => numberJson input.2.expectedNextSequence,
    field "events" fun input => .array input.1,
    field "evidence" fun input => arrayJson evidenceDigestJson input.2.evidence,
    field "artifacts" fun input => arrayJson artifactDigestJson input.2.artifacts]

def requestJson (serde : EventSerde) (input : RequestDigest) : Option Json := do
  let events <- input.events.mapM serde.toValue
  some (record requestFields (events, input))

def requestBytes (digest : Digest) (floats : FloatText) (serde : EventSerde)
    (request : PreparedAppend) : Option Bytes :=
  (requestJson serde (digestInput digest request)).map (canonicalBytes floats)

/-- `request_digest`; the canonical text is as long as the one the bound is taken of. -/
def requestDigest (digest : Digest) (floats : FloatText) (serde : EventSerde)
    (request : PreparedAppend) : Except EventRepositoryError WireHash := do
  let bytes <- orRefuse (requestBytes digest floats serde request) .limitExceeded
  check (decide (bytes.length <= maxBatchBytes)) .limitExceeded
  .ok (wireSha256 digest bytes)

/-!
## Members tell their records
-/

theorem sensitivityText_injective {a b : Sensitivity} (h : sensitivityText a = sensitivityText b) :
    a = b := by
  revert h
  cases a <;> cases b <;> decide

theorem told_id : Told idJson where
  distinct := fun _ => .scalar rfl
  eq_of_same := fun h => OpaqueId.text_injective (told_string.eq_of_same h)

theorem told_sensitivity : Told sensitivityJson where
  distinct := fun _ => .scalar rfl
  eq_of_same := fun h => sensitivityText_injective (told_string.eq_of_same h)

theorem told_number : Told numberJson := told_natural

theorem told_scope : Told scopeJson := by
  refine told_record (by decide) (fun _ =>
    ⟨written_field told_id, written_field told_id, written_optional told_id⟩) ?_
  intro a b hfields
  rcases hfields with ⟨hworkspace, hproject, hexecution⟩
  cases a
  cases b
  cases agrees_field told_id hworkspace
  cases agrees_field told_id hproject
  cases agrees_optional told_id hexecution
  rfl

theorem told_evidenceReference : Told evidenceReferenceJson := by
  refine told_record (by decide) (fun _ =>
    ⟨written_field told_id, written_field told_string, written_field told_string⟩) ?_
  intro a b hfields
  rcases hfields with ⟨hid, hcontent, hciphertext⟩
  cases a
  cases b
  cases agrees_field told_id hid
  cases agrees_field told_string hcontent
  cases agrees_field told_string hciphertext
  rfl

theorem told_evidenceDigest : Told evidenceDigestJson := by
  refine told_record (by decide) (fun _ =>
    ⟨written_field told_evidenceReference, written_field told_scope, written_field told_string,
      written_field told_sensitivity, written_field told_string, written_field told_string,
      written_field told_string, written_field told_string⟩) ?_
  intro a b hfields
  rcases hfields with ⟨hreference, hscope, hmedia, hsensitivity, hretention, halgorithm, hnonce, hwrapped⟩
  cases a
  cases b
  cases agrees_field told_evidenceReference hreference
  cases agrees_field told_scope hscope
  cases agrees_field told_string hmedia
  cases agrees_field told_sensitivity hsensitivity
  cases agrees_field told_string hretention
  cases agrees_field told_string halgorithm
  cases agrees_field told_string hnonce
  cases agrees_field told_string hwrapped
  rfl

theorem told_artifactReference : Told artifactReferenceJson := by
  refine told_record (by decide) (fun _ =>
    ⟨written_field told_id, written_field told_string, written_field told_string,
      written_field told_string, written_field told_number, written_field told_sensitivity,
      written_field told_string⟩) ?_
  intro a b hfields
  rcases hfields with ⟨hid, hlocator, hcontent, hmedia, hlength, hsensitivity, hversion⟩
  cases a
  cases b
  cases agrees_field told_id hid
  cases agrees_field told_string hlocator
  cases agrees_field told_string hcontent
  cases agrees_field told_string hmedia
  cases agrees_field told_number hlength
  cases agrees_field told_sensitivity hsensitivity
  cases agrees_field told_string hversion
  rfl

theorem told_artifactDigest : Told artifactDigestJson := by
  refine told_record (by decide) (fun _ =>
    ⟨written_field told_artifactReference, written_field told_id, written_field told_id⟩) ?_
  intro a b hfields
  rcases hfields with ⟨hreference, hstream, hproducer⟩
  cases a
  cases b
  cases agrees_field told_artifactReference hreference
  cases agrees_field told_id hstream
  cases agrees_field told_id hproducer
  rfl

theorem mapM_eq_some {α β : Type} {f : α -> Option β} {as : List α} {bs : List β}
    (h : as.mapM f = some bs) : List.Forall₂ (fun a b => f a = some b) as bs := by
  induction as generalizing bs with
  | nil =>
      cases h
      exact .nil
  | cons a as ih =>
      rw [List.mapM_cons] at h
      rcases Option.bind_eq_some_iff.mp h with ⟨b, hb, h⟩
      rcases Option.bind_eq_some_iff.mp h with ⟨rest, hrest, h⟩
      cases h
      exact .cons hb (ih hrest)

abbrev Written (serde : EventSerde) : List NewEvent -> List Json -> Prop :=
  List.Forall₂ fun event value => serde.toValue event = some value

theorem distinct_of_written {serde : EventSerde} (h : serde.Lawful) {events : List NewEvent}
    {values : List Json} (hwritten : Written serde events values) :
    forall value, value ∈ values -> KeysDistinct value := by
  induction hwritten with
  | nil => exact fun _ hmem => absurd hmem List.not_mem_nil
  | cons hfirst _ ih => exact List.forall_mem_cons.mpr (And.intro (h.distinct hfirst) ih)

theorem events_of_same {serde : EventSerde} (h : serde.Lawful) {as bs : List NewEvent}
    {xs ys : List Json} (has : Written serde as xs) (hbs : Written serde bs ys)
    (hsame : List.Forall₂ Same xs ys) : as = bs := by
  induction hsame generalizing as bs with
  | nil =>
      cases has
      cases hbs
      rfl
  | cons hfirst _ ih =>
      cases has with
      | cons ha has =>
          cases hbs with
          | cons hb hbs =>
              have hread := h.unordered (h.distinct ha) (h.distinct hb) hfirst
              rw [h.reads ha, h.reads hb] at hread
              rw [Option.some.inj hread, ih has hbs]

theorem digestInput_of_bytes {serde : EventSerde} (h : serde.Lawful) {floats : FloatText}
    {digest : Digest} {a b : PreparedAppend} {bytes : Bytes}
    (ha : requestBytes digest floats serde a = some bytes)
    (hb : requestBytes digest floats serde b = some bytes) :
    digestInput digest a = digestInput digest b := by
  rcases Option.map_eq_some_iff.mp ha with ⟨x, hx, hxbytes⟩
  rcases Option.map_eq_some_iff.mp hb with ⟨y, hy, hybytes⟩
  rcases Option.bind_eq_some_iff.mp hx with ⟨xs, hxs, heqx⟩
  rcases Option.bind_eq_some_iff.mp hy with ⟨ys, hys, heqy⟩
  cases heqx
  cases heqy
  have hdistinct : KeysDistinct (record requestFields (xs, digestInput digest a)) := by
    refine record_distinct (by decide)
      ⟨written_field told_scope, written_field told_id, written_field told_number, ?_,
        written_field (told_array told_evidenceDigest),
        written_field (told_array told_artifactDigest)⟩
    intro value heq
    rw [← Option.some.inj heq]
    exact .array (distinct_of_written h (mapM_eq_some hxs))
  have hsame := same_of_canonicalBytes hdistinct (hxbytes.trans hybytes.symm)
  rcases agrees_of_same (by decide) hsame with
    ⟨hscope, hstream, hsequence, hvalues, hevidence, hartifacts⟩
  have hevents := events_of_same h (mapM_eq_some hxs) (mapM_eq_some hys)
    (same_of_agrees hvalues).forall₂
  have hscope := agrees_field told_scope hscope
  have hstream := agrees_field told_id hstream
  have hsequence := agrees_field told_number hsequence
  have hevidence := agrees_field (told_array told_evidenceDigest) hevidence
  have hartifacts := agrees_field (told_array told_artifactDigest) hartifacts
  rw [RequestDigest.mk.injEq]
  exact ⟨hscope, hstream, hsequence, hevents, hevidence, hartifacts⟩

/-!
## Evidence behind its digest
-/

/-- The hash tells one input from another. -/
def TellsApart (digest : Digest) (first second : Bytes) : Prop :=
  digest.sha256 first = digest.sha256 second -> first = second

structure PartsTold (digest : Digest) (x y : SealedEvidence) : Prop where
  nonce : TellsApart digest x.nonce y.nonce
  ciphertext : TellsApart digest x.ciphertext y.ciphertext
  wrappedKey : TellsApart digest (wrappedKeyBytes x.wrappedKey) (wrappedKeyBytes y.wrappedKey)

theorem sha256_of_text {digest : Digest} {first second : Bytes}
    (h : hexEncode (digest.sha256 first) = hexEncode (digest.sha256 second)) :
    digest.sha256 first = digest.sha256 second := by
  have hdecoded := congrArg hexDecode h
  rw [hexDecode_hexEncode, hexDecode_hexEncode] at hdecoded
  exact Option.some.inj hdecoded

theorem sha256_of_wire {digest : Digest} {first second : Bytes}
    (h : wireSha256 digest first = wireSha256 digest second) :
    digest.sha256 first = digest.sha256 second := by
  have hchars := congrArg String.toList h
  unfold wireSha256 at hchars
  rw [String.toList_append, String.toList_append] at hchars
  exact sha256_of_text (String.toList_injective (List.append_cancel_left hchars))

theorem RetentionClass.text_injective {a b : RetentionClass} (h : a.text = b.text) : a = b := by
  have hparsed := RetentionClass.parse_text a
  rw [h, RetentionClass.parse_text] at hparsed
  exact (Option.some.inj hparsed).symm

theorem MediaType.text_injective {a b : MediaType} (h : a.text = b.text) : a = b := by
  cases a
  cases b
  cases h
  rfl

theorem wrappedKeyBytes_injective {a b : WrappedKey} (ha : KeyWellFormed a) (hb : KeyWellFormed b)
    (hhandle : a.handle = b.handle) (haad : a.aadSha256 = b.aadSha256)
    (h : wrappedKeyBytes a = wrappedKeyBytes b) : a = b := by
  unfold wrappedKeyBytes at h
  rw [hhandle] at h
  have hlength : (utf8 b.handle.text ++ (a.nonce ++ a.ciphertext)).length =
      (utf8 b.handle.text ++ (b.nonce ++ b.ciphertext)).length := by
    simp only [List.length_append, ha.nonce, hb.nonce, ha.ciphertext, hb.ciphertext]
  rcases List.append_inj' h hlength with ⟨hkeyId, hrest⟩
  rcases List.append_inj (List.append_cancel_left hrest) (ha.nonce.trans hb.nonce.symm) with
    ⟨hnonce, hciphertext⟩
  have hkeyId := OpaqueId.text_injective (utf8_injective hkeyId)
  rw [WrappedKey.mk.injEq]
  exact ⟨hkeyId, hhandle, hnonce, hciphertext, haad⟩

structure MetadataHolds (digest : Digest) (item : SealedEvidence) : Prop where
  handle : item.wrappedKey.handle = item.evidenceId
  ciphertext : rawSha256 digest item.ciphertext = item.ciphertextSha256
  aad : exists aad, evidenceAad item.scope item.evidenceId item.mediaType.text item.sensitivity
      item.retentionClass.text item.contentSha256.text = some aad ∧
    (rawSha256 digest aad).text = item.wrappedKey.aadSha256

theorem metadataHolds_of_validated {digest : Digest} {item : SealedEvidence}
    (h : validateSealedMetadata digest item = .ok ()) : MetadataHolds digest item := by
  rcases check_ok h with ⟨hchecked, h⟩
  rcases bind_ok h with ⟨aad, haad, h⟩
  have hagrees := of_decide_eq_true hchecked
  exact
    { handle := OpaqueId.text_injective hagrees.left
      ciphertext := hagrees.right
      aad := ⟨aad, orRefuse_eq_ok.mp haad, of_decide_eq_true (check_eq_ok.mp h)⟩ }

theorem item_of_digest {digest : Digest} {x y : SealedEvidence} (hx : MetadataHolds digest x)
    (hy : MetadataHolds digest y) (hkey : KeyWellFormed x.wrappedKey)
    (hkey' : KeyWellFormed y.wrappedKey) (htold : PartsTold digest x y)
    (h : evidenceDigest digest x = evidenceDigest digest y) : x = y := by
  have hreference := congrArg EvidenceDigest.reference h
  have hid : x.evidenceId = y.evidenceId := congrArg EvidenceReference.evidenceId hreference
  have hcontent : x.contentSha256 = y.contentSha256 :=
    RawSha256.text_injective (congrArg EvidenceReference.contentSha256 hreference)
  have hcipherSha : x.ciphertextSha256 = y.ciphertextSha256 :=
    RawSha256.text_injective (congrArg EvidenceReference.ciphertextSha256 hreference)
  have hscope : x.scope = y.scope := congrArg EvidenceDigest.scope h
  have hmedia : x.mediaType = y.mediaType :=
    MediaType.text_injective (congrArg EvidenceDigest.mediaType h)
  have hsensitivity : x.sensitivity = y.sensitivity := congrArg EvidenceDigest.sensitivity h
  have hretention : x.retentionClass = y.retentionClass :=
    RetentionClass.text_injective (congrArg EvidenceDigest.retentionClass h)
  have hnonce : x.nonce = y.nonce :=
    htold.nonce (sha256_of_wire (congrArg EvidenceDigest.nonceSha256 h))
  have hwrapped : wrappedKeyBytes x.wrappedKey = wrappedKeyBytes y.wrappedKey :=
    htold.wrappedKey (sha256_of_wire (congrArg EvidenceDigest.wrappedKeySha256 h))
  have hciphertext : x.ciphertext = y.ciphertext := by
    apply htold.ciphertext
    apply sha256_of_text
    exact congrArg RawSha256.text (hx.ciphertext.trans (hcipherSha.trans hy.ciphertext.symm))
  have haad : x.wrappedKey.aadSha256 = y.wrappedKey.aadSha256 := by
    rcases hx.aad with ⟨aad, haad, hhash⟩
    rcases hy.aad with ⟨aad', haad', hhash'⟩
    rw [hscope, hid, hmedia, hsensitivity, hretention, hcontent, haad'] at haad
    rw [← hhash, ← hhash', Option.some.inj haad]
  have hhandle : x.wrappedKey.handle = y.wrappedKey.handle :=
    hx.handle.trans (hid.trans hy.handle.symm)
  have hwrappedKey := wrappedKeyBytes_injective hkey hkey' hhandle haad hwrapped
  rw [SealedEvidence.mk.injEq]
  exact ⟨hid, hcontent, hcipherSha, hscope, hmedia, hsensitivity, hretention, hnonce, hciphertext,
    hwrappedKey⟩

/-!
## Requests
-/

structure PreparedAppend.Admitted (digest : Digest) (request : PreparedAppend) : Prop where
  validated : validatePreparedEvidence digest request = .ok ()
  wrapped : forall item, item ∈ request.evidence -> KeyWellFormed item.wrappedKey

/-- Two requests are the same, but for the order of their evidence. -/
structure SameRequest (a b : PreparedAppend) : Prop where
  scope : a.scope = b.scope
  streamId : a.streamId = b.streamId
  expectedNextSequence : a.expectedNextSequence = b.expectedNextSequence
  events : a.events = b.events
  artifacts : a.artifacts = b.artifacts
  evidence : a.evidence.Perm b.evidence

theorem PreparedAppend.Admitted.nodup {digest : Digest} {request : PreparedAppend}
    (h : request.Admitted digest) : request.evidence.Nodup := by
  have hchecked := check_eq_ok.mp h.validated
  exact (of_decide_eq_true (Bool.and_eq_true_iff.mp hchecked).left).of_map

theorem PreparedAppend.Admitted.metadata {digest : Digest} {request : PreparedAppend}
    (h : request.Admitted digest) {item : SealedEvidence} (hmem : item ∈ request.evidence) :
    MetadataHolds digest item := by
  have hchecked := check_eq_ok.mp h.validated
  have hitem := List.all_eq_true.mp (Bool.and_eq_true_iff.mp hchecked).right item hmem
  have hok := (Bool.and_eq_true_iff.mp hitem).right
  apply metadataHolds_of_validated
  cases hvalidated : validateSealedMetadata digest item with
  | ok _ => rfl
  | error _ =>
      rw [hvalidated] at hok
      cases hok

/-- Every item of one request is an item of the other. -/
theorem subset_of_digestInput {digest : Digest} {a b : PreparedAppend} (ha : a.Admitted digest)
    (hb : b.Admitted digest)
    (htold : forall x, x ∈ a.evidence -> forall y, y ∈ b.evidence -> PartsTold digest x y)
    (h : digestInput digest a = digestInput digest b) {x : SealedEvidence}
    (hx : x ∈ a.evidence) : x ∈ b.evidence := by
  have hsorted : (a.evidence.map (evidenceDigest digest)).insertionSort digestLe =
      (b.evidence.map (evidenceDigest digest)).insertionSort digestLe :=
    congrArg RequestDigest.evidence h
  have hmem : evidenceDigest digest x ∈
      (a.evidence.map (evidenceDigest digest)).insertionSort digestLe :=
    (List.mem_insertionSort digestLe).mpr (List.mem_map_of_mem hx)
  rw [hsorted, List.mem_insertionSort] at hmem
  rcases List.mem_map.mp hmem with ⟨y, hy, heq⟩
  have hsame := item_of_digest (ha.metadata hx) (hb.metadata hy) (ha.wrapped x hx)
    (hb.wrapped y hy) (htold x hx y hy) heq.symm
  rw [hsame]
  exact hy

theorem PartsTold.symm {digest : Digest} {x y : SealedEvidence} (h : PartsTold digest x y) :
    PartsTold digest y x where
  nonce := fun heq => (h.nonce heq.symm).symm
  ciphertext := fun heq => (h.ciphertext heq.symm).symm
  wrappedKey := fun heq => (h.wrappedKey heq.symm).symm

theorem sameRequest_of_digestInput {digest : Digest} {a b : PreparedAppend}
    (ha : a.Admitted digest) (hb : b.Admitted digest)
    (htold : forall x, x ∈ a.evidence -> forall y, y ∈ b.evidence -> PartsTold digest x y)
    (h : digestInput digest a = digestInput digest b) : SameRequest a b where
  scope := congrArg RequestDigest.scope h
  streamId := congrArg RequestDigest.streamId h
  expectedNextSequence := congrArg RequestDigest.expectedNextSequence h
  events := congrArg RequestDigest.events h
  artifacts := by
    have hstored := congrArg RequestDigest.artifacts h
    have hkept := congrArg (List.map fun item : StoredArtifactRegistration =>
      ({ reference := item.reference
         producerIdempotencyKey := item.producerIdempotencyKey } : ArtifactRegistration)) hstored
    simpa [digestInput, Function.comp_def] using hkept
  evidence := by
    refine (List.perm_ext_iff_of_nodup ha.nodup hb.nodup).mpr fun item => ?_
    constructor
    · exact subset_of_digestInput ha hb htold h
    · refine subset_of_digestInput hb ha (fun y hy x hx => ?_) h.symm
      exact (htold x hx y hy).symm

/-!
## The evidence of a claim
-/

/-- What the types of an item bound: lengths a `usize` counts, and a `u64`. -/
structure ClaimEvidence.Fits (item : ClaimEvidence) : Prop where
  kind : (utf8 item.kind).length < 256 ^ 8
  contentHash : (utf8 item.contentHash).length < 256 ^ 8
  size : item.size < 256 ^ 8

theorem toBeBytes_eq (value : Nat) : toBeBytes value = bigEndian 8 value := by
  simp [toBeBytes, bigEndian, Nat.shiftRight_eq_div_pow, Nat.div_div_eq_div_mul]

theorem length_toBeBytes (value : Nat) : (toBeBytes value).length = 8 := rfl

theorem pushField_delimits : SelfDelimitingOn (fun field => field.length < 256 ^ 8) pushField := by
  intro a b x y ha hb h
  unfold pushField at h
  rw [toBeBytes_eq, toBeBytes_eq, List.append_assoc, List.append_assoc] at h
  rcases bigEndian_append ha hb h with ⟨hlength, hrest⟩
  exact List.append_inj hrest hlength

theorem claimItem_delimits : SelfDelimitingOn ClaimEvidence.Fits fun item =>
    pushField (utf8 item.kind) ++ pushField (utf8 item.contentHash) ++
      pushField (toBeBytes item.size) := by
  intro a b x y ha hb h
  simp only [List.append_assoc] at h
  rcases pushField_delimits ha.kind hb.kind h with ⟨hkind, h⟩
  rcases pushField_delimits ha.contentHash hb.contentHash h with ⟨hhash, h⟩
  have hwidth : forall value, (toBeBytes value).length < 256 ^ 8 := by
    intro value
    rw [length_toBeBytes]
    decide
  rcases pushField_delimits (hwidth a.size) (hwidth b.size) h with ⟨hsize, hrest⟩
  rw [toBeBytes_eq, toBeBytes_eq] at hsize
  have hsize := bigEndian_injective ha.size hb.size hsize
  refine And.intro ?_ hrest
  rw [ClaimEvidence.mk.injEq]
  exact ⟨utf8_injective hkind, utf8_injective hhash, hsize⟩

theorem claimEvidenceBytes_injective {first second : List ClaimEvidence}
    (hfirst : forall item, item ∈ first -> ClaimEvidence.Fits item)
    (hsecond : forall item, item ∈ second -> ClaimEvidence.Fits item)
    (h : claimEvidenceBytes first = claimEvidenceBytes second) : first = second := by
  refine claimItem_delimits.flatMap_injective (fun item hempty => ?_) hfirst hsecond h
  have hlength := congrArg List.length hempty
  simp only [pushField, List.length_append, length_toBeBytes, List.length_nil] at hlength
  omega

/-!
## The metadata of an envelope
-/

/-- What `evidence_aad` is given. -/
structure EvidenceMetadata where
  scope : RepositoryScope
  evidenceId : EvidenceId
  mediaType : MediaType
  sensitivity : Sensitivity
  retentionClass : RetentionClass
  contentSha256 : RawSha256

def EvidenceMetadata.aad (metadata : EvidenceMetadata) : Option Bytes :=
  evidenceAad metadata.scope metadata.evidenceId metadata.mediaType.text metadata.sensitivity
    metadata.retentionClass.text metadata.contentSha256.text

theorem positionPart_append {text other : String} {p q x y : Bytes} (hp : positionPart text = some p)
    (hq : positionPart other = some q) (h : p ++ x = q ++ y) : text = other ∧ x = y := by
  rcases Option.ite_none_right_eq_some.mp hp with ⟨hfits, hp⟩
  rcases Option.ite_none_right_eq_some.mp hq with ⟨hfits', hq⟩
  rw [← Option.some.inj hp, ← Option.some.inj hq] at h
  rcases framed_append hfits hfits' h with ⟨htext, hrest⟩
  exact And.intro (utf8_injective htext) hrest

/-- Equally many parts are read off the front. -/
theorem positionParts_append {texts others : List String} {p q x y : Bytes}
    (hp : positionParts texts = some p) (hq : positionParts others = some q)
    (hlength : texts.length = others.length) (h : p ++ x = q ++ y) : texts = others ∧ x = y := by
  induction texts generalizing others p q with
  | nil =>
      cases List.length_eq_zero_iff.mp hlength.symm
      cases hp
      cases hq
      exact And.intro rfl h
  | cons text rest ih =>
      cases others with
      | nil => cases hlength
      | cons other later =>
          rcases Option.bind_eq_some_iff.mp hp with ⟨part, hpart, hp⟩
          rcases Option.bind_eq_some_iff.mp hp with ⟨more, hmore, hp⟩
          rcases Option.bind_eq_some_iff.mp hq with ⟨part', hpart', hq⟩
          rcases Option.bind_eq_some_iff.mp hq with ⟨more', hmore', hq⟩
          rw [← Option.some.inj hp, ← Option.some.inj hq, List.append_assoc, List.append_assoc] at h
          rcases positionPart_append hpart hpart' h with ⟨htext, h⟩
          rcases ih hmore hmore' (Nat.succ.inj hlength) h with ⟨hrest, hend⟩
          exact And.intro (by rw [htext, hrest]) hend

theorem executionPart_append {a b : RepositoryScope} {p q x y : Bytes}
    (hp : executionPart a = some p) (hq : executionPart b = some q) (h : p ++ x = q ++ y) :
    a.executionId = b.executionId ∧ x = y := by
  unfold executionPart at hp hq
  cases ha : a.executionId with
  | none =>
      rw [ha] at hp
      cases hp
      cases hb : b.executionId with
      | none =>
          rw [hb] at hq
          cases hq
          exact And.intro rfl (List.cons.inj h).right
      | some id =>
          rw [hb] at hq
          rcases Option.map_eq_some_iff.mp hq with ⟨part, _, rfl⟩
          exact absurd (List.cons.inj h).left (by decide)
  | some id =>
      rw [ha] at hp
      rcases Option.map_eq_some_iff.mp hp with ⟨part, hpart, rfl⟩
      cases hb : b.executionId with
      | none =>
          rw [hb] at hq
          cases hq
          exact absurd (List.cons.inj h).left (by decide)
      | some other =>
          rw [hb] at hq
          rcases Option.map_eq_some_iff.mp hq with ⟨part', hpart', rfl⟩
          rcases positionPart_append hpart hpart' (List.cons.inj h).right with ⟨hid, hrest⟩
          exact And.intro (congrArg some (OpaqueId.text_injective hid)) hrest

theorem aad_injective {a b : EvidenceMetadata} {bytes : Bytes} (ha : a.aad = some bytes)
    (hb : b.aad = some bytes) : a = b := by
  rcases Option.bind_eq_some_iff.mp ha with ⟨head, hhead, ha⟩
  rcases Option.bind_eq_some_iff.mp ha with ⟨execution, hexecution, ha⟩
  rcases Option.bind_eq_some_iff.mp ha with ⟨tail, htail, ha⟩
  rcases Option.bind_eq_some_iff.mp hb with ⟨head', hhead', hb⟩
  rcases Option.bind_eq_some_iff.mp hb with ⟨execution', hexecution', hb⟩
  rcases Option.bind_eq_some_iff.mp hb with ⟨tail', htail', hb⟩
  have h := (Option.some.inj ha).trans (Option.some.inj hb).symm
  rcases positionParts_append hhead hhead' rfl h with ⟨hscope, h⟩
  rcases executionPart_append hexecution hexecution' h with ⟨hexecutionId, h⟩
  have hends : tail ++ [] = tail' ++ [] := by rw [h]
  rcases positionParts_append htail htail' rfl hends with ⟨hrest, _⟩
  injection hscope with _ hscope
  injection hscope with hworkspace hscope
  injection hscope with hproject _
  injection hrest with hid hrest
  injection hrest with _ hrest
  injection hrest with hmedia hrest
  injection hrest with hsensitivity hrest
  injection hrest with hretention hrest
  injection hrest with hcontent _
  have hscope : a.scope = b.scope := by
    rw [RepositoryScope.mk.injEq]
    exact ⟨OpaqueId.text_injective hworkspace, OpaqueId.text_injective hproject, hexecutionId⟩
  rw [EvidenceMetadata.mk.injEq]
  exact ⟨hscope, OpaqueId.text_injective hid, MediaType.text_injective hmedia,
    sensitivityText_injective hsensitivity, RetentionClass.text_injective hretention,
    RawSha256.text_injective hcontent⟩

/-!
## What an identity says
-/

structure IdentitiesBind (digest : Digest) (floats : FloatText) (serde : EventSerde) : Prop where
  /-- All that is put into the bytes of a request. -/
  encoded : forall {a b : PreparedAppend} {bytes : Bytes},
    requestBytes digest floats serde a = some bytes ->
    requestBytes digest floats serde b = some bytes -> digestInput digest a = digestInput digest b
  /-- Two requests share their digest only if they are one, or the hash does not tell
  apart what it was given for them. -/
  request : forall {a b : PreparedAppend} {hash : WireHash}, a.Admitted digest ->
    b.Admitted digest -> requestDigest digest floats serde a = .ok hash ->
    requestDigest digest floats serde b = .ok hash ->
    (forall first second, requestBytes digest floats serde a = some first ->
      requestBytes digest floats serde b = some second -> TellsApart digest first second) ->
    (forall x, x ∈ a.evidence -> forall y, y ∈ b.evidence -> PartsTold digest x y) ->
    SameRequest a b
  /-- The evidence of a claim, in its order. -/
  claim : forall {first second : List ClaimEvidence},
    (forall item, item ∈ first -> ClaimEvidence.Fits item) ->
    (forall item, item ∈ second -> ClaimEvidence.Fits item) ->
    claimEvidenceBytes first = claimEvidenceBytes second -> first = second
  /-- The metadata of an envelope. -/
  metadata : forall {a b : EvidenceMetadata} {bytes : Bytes},
    a.aad = some bytes -> b.aad = some bytes -> a = b

theorem requestDigest_eq_ok {digest : Digest} {floats : FloatText} {serde : EventSerde}
    {request : PreparedAppend} {hash : WireHash}
    (h : requestDigest digest floats serde request = .ok hash) :
    exists bytes, requestBytes digest floats serde request = some bytes ∧
      wireSha256 digest bytes = hash := by
  rcases bind_ok h with ⟨bytes, hbytes, h⟩
  rcases check_ok h with ⟨_, hhash⟩
  exact ⟨bytes, orRefuse_eq_ok.mp hbytes, Except.ok.inj hhash⟩

theorem identities_bind {serde : EventSerde} (h : serde.Lawful) (digest : Digest)
    (floats : FloatText) : IdentitiesBind digest floats serde where
  encoded := digestInput_of_bytes h
  request := by
    intro a b hash ha hb hfirst hsecond htold hparts
    rcases requestDigest_eq_ok hfirst with ⟨first, hfirst, hhash⟩
    rcases requestDigest_eq_ok hsecond with ⟨second, hsecond, hhash'⟩
    have hbytes := htold first second hfirst hsecond (sha256_of_wire (hhash.trans hhash'.symm))
    rw [← hbytes] at hsecond
    exact sameRequest_of_digestInput ha hb hparts (digestInput_of_bytes h hfirst hsecond)
  claim := claimEvidenceBytes_injective
  metadata := aad_injective

namespace Sample

open Canonical.Sample (floats)

def digest : Digest :=
  { sha256 := fun _ => List.replicate 32 0
    length := fun _ => rfl }

def paused : NewEvent :=
  GraphHelm.Sample.event "pause" (.executionPaused { executionId := GraphHelm.Sample.id "execution" })

/-- How the event is written. -/
def pausedJson : Json :=
  .object
    [("idempotencyKey", .string "pause"),
      ("actor", .object [("type", .string "owner"), ("id", .string "owner")]),
      ("sensitivity", .string "internal"),
      ("kind", .object
        [("type", .string "execution_paused"),
          ("data", .object [("executionId", .string "execution")])]),
      ("evidenceRefs", .array []), ("artifactRefs", .array [])]

def serde : EventSerde :=
  { toValue := fun event => if event = paused then some pausedJson else none
    fromValue := fun _ => some paused }

theorem pausedJson_distinct : KeysDistinct pausedJson := by
  have htexts : forall members : List (String × String), (members.map Prod.fst).Nodup ->
      KeysDistinct (.object (members.map fun member => (member.1, .string member.2))) := by
    intro members hnames
    refine .object (by simpa [Function.comp_def] using hnames) fun key value hmem => ?_
    rcases List.mem_map.mp hmem with ⟨member, _, heq⟩
    rw [← (Prod.mk.inj heq).right]
    exact .scalar rfl
  have hempty : KeysDistinct (.array []) := .array fun _ hmem => absurd hmem List.not_mem_nil
  have hkind : KeysDistinct (.object [("type", .string "execution_paused"),
      ("data", .object [("executionId", .string "execution")])]) := by
    refine .object (by decide) fun key value hmem => ?_
    simp only [List.mem_cons, List.not_mem_nil, or_false, Prod.mk.injEq] at hmem
    rcases hmem with ⟨_, rfl⟩ | ⟨_, rfl⟩
    · exact .scalar rfl
    · exact htexts [("executionId", "execution")] (by decide)
  refine .object (by decide) fun key value hmem => ?_
  simp only [List.mem_cons, List.not_mem_nil, or_false, Prod.mk.injEq] at hmem
  rcases hmem with ⟨_, rfl⟩ | ⟨_, rfl⟩ | ⟨_, rfl⟩ | ⟨_, rfl⟩ | ⟨_, rfl⟩ | ⟨_, rfl⟩
  · exact .scalar rfl
  · exact htexts [("type", "owner"), ("id", "owner")] (by decide)
  · exact .scalar rfl
  · exact hkind
  · exact hempty
  · exact hempty

theorem serde_lawful : serde.Lawful where
  distinct := by
    intro event value h
    rcases Option.ite_none_right_eq_some.mp h with ⟨_, hvalue⟩
    rw [← Option.some.inj hvalue]
    exact pausedJson_distinct
  reads := by
    intro event value h
    rcases Option.ite_none_right_eq_some.mp h with ⟨hevent, _⟩
    exact congrArg some hevent.symm
  unordered := fun _ _ _ => rfl

def request : PreparedAppend :=
  { scope := GraphHelm.Sample.scope
    streamId := GraphHelm.Sample.streamId
    expectedNextSequence := 1
    events := [paused]
    evidence := []
    artifacts := [] }

theorem request_written : (requestBytes digest floats serde request).isSome = true := by
  have hevents : [paused].mapM serde.toValue = some [pausedJson] := by
    simp [serde]
  have hjson : requestJson serde (digestInput digest request) =
      some (record requestFields ([pausedJson], digestInput digest request)) := by
    unfold requestJson
    have hinput : (digestInput digest request).events = [paused] := rfl
    rw [hinput, hevents]
    rfl
  unfold requestBytes
  rw [hjson]
  rfl

end Sample

theorem identities_bind_paused :
    IdentitiesBind Sample.digest Canonical.Sample.floats Sample.serde ∧
      (requestBytes Sample.digest Canonical.Sample.floats Sample.serde Sample.request).isSome =
        true :=
  And.intro (identities_bind Sample.serde_lawful Sample.digest Canonical.Sample.floats)
    Sample.request_written

end Credentials
end GraphHelm
