import GraphHelm.Externalize.Publication
import GraphHelm.Keys.Provider

/-!
# Sealed evidence

What an evidence protector does over a key provider: sealing a value for a scope and
opening it again (`core/events/src/evidence.rs`, `core/events/src/key.rs`,
`core/protocols/src/persistence.rs`).
-/

namespace GraphHelm
namespace Credentials

open Keys
open Externalize (EvidenceError evidenceAad)

/-!
## Validated texts
-/

def isRawSha256 (value : String) : Bool :=
  decide (value.utf8ByteSize = 64) &&
    value.toList.all fun c => (0x30 <= c.toNat && c.toNat <= 0x39) ||
      (0x61 <= c.toNat && c.toNat <= 0x66)

structure RawSha256 where
  text : String
  valid : isRawSha256 text = true
deriving DecidableEq

def RawSha256.parse (value : String) : Option RawSha256 :=
  if h : isRawSha256 value = true then some { text := value, valid := h } else none

@[simp] theorem RawSha256.parse_text (digest : RawSha256) :
    RawSha256.parse digest.text = some digest := by
  simp [RawSha256.parse, digest.valid]

theorem RawSha256.length_text (digest : RawSha256) : (utf8 digest.text).length = 64 := by
  have hvalid := digest.valid
  unfold isRawSha256 at hvalid
  rw [length_utf8]
  exact of_decide_eq_true (Bool.and_eq_true_iff.mp hvalid).left

theorem RawSha256.text_injective {a b : RawSha256} (h : a.text = b.text) : a = b := by
  cases a
  cases b
  cases h
  rfl

def lowercaseOrDigit (c : Char) : Bool :=
  (0x61 <= c.toNat && c.toNat <= 0x7a) || (0x30 <= c.toNat && c.toNat <= 0x39)

/-- One side of a media type. -/
def isMediaPart (part : List Char) : Bool :=
  decide (part.length <= 63) &&
    match part with
    | [] => false
    | first :: rest =>
        lowercaseOrDigit first &&
          rest.all fun c => lowercaseOrDigit c || decide (c ∈ "!#$&^_.+-".toList)

def isMediaType (value : String) : Bool :=
  decide (3 <= value.utf8ByteSize) && decide (value.utf8ByteSize <= 127) &&
    match value.toList.splitOn '/' with
    | [first, second] => isMediaPart first && isMediaPart second
    | _ => false

structure MediaType where
  text : String
  valid : isMediaType text = true
deriving DecidableEq

def MediaType.parse (value : String) : Option MediaType :=
  if h : isMediaType value = true then some { text := value, valid := h } else none

@[simp] theorem MediaType.parse_text (media : MediaType) :
    MediaType.parse media.text = some media := by
  simp [MediaType.parse, media.valid]

inductive RetentionClass where
  | ephemeral
  | standard
  | legalHold
deriving DecidableEq

def RetentionClass.text : RetentionClass -> String
  | .ephemeral => "ephemeral"
  | .standard => "standard"
  | .legalHold => "legal_hold"

def RetentionClass.parse (value : String) : Option RetentionClass :=
  if value = "ephemeral" then some .ephemeral
  else if value = "standard" then some .standard
  else if value = "legal_hold" then some .legalHold
  else none

@[simp] theorem RetentionClass.parse_text (retention : RetentionClass) :
    RetentionClass.parse retention.text = some retention := by
  cases retention with
  | ephemeral => rfl
  | standard => rfl
  | legalHold => rfl

theorem digitChar_rawSha256 :
    forall value, value < 16 ->
      ((0x30 <= (Nat.digitChar value).toNat && (Nat.digitChar value).toNat <= 0x39) ||
        (0x61 <= (Nat.digitChar value).toNat && (Nat.digitChar value).toNat <= 0x66)) = true := by
  decide

theorem isRawSha256_hexEncode {bytes : Bytes} (h : bytes.length = 32) :
    isRawSha256 (hexEncode bytes) = true := by
  unfold isRawSha256
  rw [Bool.and_eq_true_iff]
  constructor
  · have hgraphic : Graphic (hexEncode bytes).toList := fun c hc => mem_hexEncode hc
    rw [← length_utf8, utf8_of_graphic hgraphic, List.length_map, length_hexEncode, h]
    rfl
  · unfold hexEncode
    rw [String.toList_ofList, List.all_eq_true]
    intro c hc
    rcases List.mem_flatMap.mp hc with ⟨byte, _, hdigit⟩
    have hbyte : byte.toNat < 256 := byte.toNat_lt
    rcases List.mem_cons.mp hdigit with heq | hdigit
    · rw [heq]
      exact digitChar_rawSha256 _ (by omega)
    · rw [List.mem_singleton.mp hdigit]
      exact digitChar_rawSha256 _ (by omega)

/-!
## Key providers
-/

def maxKeyAadBytes : Nat := 4 * 1024

def maxAuthenticatedBytes : Nat := 1024 * 1024

def maxPurposeBytes : Nat := 64

def newWrapKeyRequest (handle : String) (plaintextKey aad : Bytes) :
    Except KeyError WrapKeyRequest := do
  check (decide (plaintextKey.length = 32 ∧ aad ≠ [] ∧ aad.length <= maxKeyAadBytes)) .invalid
  let handle <- orRefuse (OpaqueId.parse handle) .invalid
  .ok { handle := handle, plaintextKey := plaintextKey, aad := aad }

def validPurpose (value : String) : Bool :=
  value ≠ "" && decide (value.utf8ByteSize <= maxPurposeBytes) &&
    value.toList.all fun c => lowercaseOrDigit c || decide (c ∈ "-_.".toList)

structure AuthenticateRequest where
  purpose : String
  bytes : Bytes

def AuthenticateRequest.new (purpose : String) (bytes : Bytes) :
    Except KeyError AuthenticateRequest := do
  check (validPurpose purpose && decide (bytes.length <= maxAuthenticatedBytes)) .invalid
  .ok { purpose := purpose, bytes := bytes }

structure VerifyAuthenticationRequest extends AuthenticateRequest where
  tag : AuthenticationTag

def VerifyAuthenticationRequest.new (purpose : String) (bytes : Bytes) (tag : AuthenticationTag) :
    Except KeyError VerifyAuthenticationRequest := do
  let authenticated <- AuthenticateRequest.new purpose bytes
  .ok { toAuthenticateRequest := authenticated, tag := tag }

/-- The calls of a key provider that sealing and tagging make. -/
structure KeyProvider where
  wrap : WrapKeyRequest -> Except KeyError WrappedKey
  unwrap : WrappedKey -> Except KeyError Bytes
  authenticate : AuthenticateRequest -> Except KeyError AuthenticationTag
  verify : VerifyAuthenticationRequest -> Except KeyError Unit

/--
A sealed key provider at a moment: `loaded` is the state its calls find under the lock,
or why they are refused, and `nonce` is what the generator gives for wrapping.
-/
def sealedKeyProvider (env : ProviderEnvironment) (keyId : OpaqueId) (keyMaterial nonce : Bytes)
    (loaded : Except KeyError JournalState) : KeyProvider where
  wrap request := do
    let state <- loaded
    wrapKey env keyId.text keyMaterial request nonce state
  unwrap wrapped := do
    let state <- loaded
    unwrapKey env keyId.text keyMaterial wrapped state
  authenticate request := do
    let _ <- loaded
    let tag <- authenticationBytes env.toDigest keyMaterial request.purpose request.bytes
    AuthenticationTag.new keyId.text tag
  verify request := do
    let _ <- loaded
    check (decide (request.tag.keyId.text = keyId.text)) .integrity
    verifyAuthenticationBytes env.toDigest keyMaterial request.purpose request.bytes
      request.tag.bytes

/-!
## Sealing and opening
-/

def maxEvidenceBytes : Nat := 16 * 1024 * 1024

def evidenceAlgorithm : String := "xchacha20poly1305"

/-- `EvidenceError::from`. -/
def evidenceErrorOf : KeyError -> EvidenceError
  | .unavailable => .unavailable
  | .invalid => .invalid
  | .integrity => .invalid
  | .conflict => .invalid
  | .storage => .invalid

structure EvidenceInput where
  localRef : EvidenceId
  mediaType : MediaType
  sensitivity : Sensitivity
  retentionClass : RetentionClass
  plaintext : Bytes

def EvidenceInput.new (localRef mediaType : String) (sensitivity : Sensitivity)
    (retentionClass : String) (plaintext : Bytes) : Except EvidenceError EvidenceInput := do
  check (decide (plaintext.length <= maxEvidenceBytes)) .tooLarge
  let localRef <- orRefuse (OpaqueId.parse localRef) .invalid
  let mediaType <- orRefuse (MediaType.parse mediaType) .invalid
  let retentionClass <- orRefuse (RetentionClass.parse retentionClass) .invalid
  .ok
    { localRef := localRef
      mediaType := mediaType
      sensitivity := sensitivity
      retentionClass := retentionClass
      plaintext := plaintext }

structure SealedEvidence where
  evidenceId : EvidenceId
  contentSha256 : RawSha256
  ciphertextSha256 : RawSha256
  scope : RepositoryScope
  mediaType : MediaType
  sensitivity : Sensitivity
  retentionClass : RetentionClass
  nonce : Bytes
  ciphertext : Bytes
  wrappedKey : WrappedKey
  nonceSize : nonce.length = 24
  ciphertextSize : 16 <= ciphertext.length ∧ ciphertext.length <= maxEvidenceBytes + 16

/-- `SealedEvidence::new`, for a reference of three parts. -/
def SealedEvidence.new (evidenceId : EvidenceId) (contentSha256 ciphertextSha256 : RawSha256)
    (scope : RepositoryScope) (mediaType : String) (sensitivity : Sensitivity)
    (retentionClass algorithm : String) (nonce ciphertext : Bytes) (wrappedKey : WrappedKey) :
    Except EvidenceError SealedEvidence :=
  if h : algorithm = evidenceAlgorithm ∧ nonce.length = 24 ∧ 16 <= ciphertext.length ∧
      ciphertext.length <= maxEvidenceBytes + 16 then do
    let mediaType <- orRefuse (MediaType.parse mediaType) .invalid
    let retentionClass <- orRefuse (RetentionClass.parse retentionClass) .invalid
    .ok
      { evidenceId := evidenceId
        contentSha256 := contentSha256
        ciphertextSha256 := ciphertextSha256
        scope := scope
        mediaType := mediaType
        sensitivity := sensitivity
        retentionClass := retentionClass
        nonce := nonce
        ciphertext := ciphertext
        wrappedKey := wrappedKey
        nonceSize := h.right.left
        ciphertextSize := h.right.right }
  else .error .invalid

def rawSha256 (digest : Digest) (bytes : Bytes) : RawSha256 :=
  { text := hexEncode (digest.sha256 bytes), valid := isRawSha256_hexEncode (digest.length bytes) }

/-- What the generator gives for one sealing: a key and a nonce. -/
structure Randomness where
  key : Bytes
  nonce : Bytes

def sealEvidence (env : ProviderEnvironment) (keys : KeyProvider) (random : Randomness)
    (scope : RepositoryScope) (input : EvidenceInput) : Except EvidenceError SealedEvidence := do
  check (decide (input.plaintext.length <= maxEvidenceBytes)) .tooLarge
  let contentSha256 := rawSha256 env.toDigest input.plaintext
  let aad <- orRefuse
    (evidenceAad scope input.localRef input.mediaType.text input.sensitivity
      input.retentionClass.text contentSha256.text) .invalid
  let ciphertext <- orRefuse (env.encrypt random.key random.nonce aad input.plaintext)
    .sealingFailed
  let ciphertextSha256 := rawSha256 env.toDigest ciphertext
  let request <- (newWrapKeyRequest input.localRef.text random.key aad).mapError evidenceErrorOf
  let wrappedKey <- (keys.wrap request).mapError evidenceErrorOf
  SealedEvidence.new input.localRef contentSha256 ciphertextSha256 scope input.mediaType.text
    input.sensitivity input.retentionClass.text evidenceAlgorithm random.nonce ciphertext wrappedKey

def openEvidence (env : ProviderEnvironment) (keys : KeyProvider) (scope : RepositoryScope)
    (evidence : SealedEvidence) : Except EvidenceError Bytes := do
  check
    (decide (scope = evidence.scope ∧
      evidence.wrappedKey.handle.text = evidence.evidenceId.text ∧
      rawSha256 env.toDigest evidence.ciphertext = evidence.ciphertextSha256)) .invalid
  let aad <- orRefuse
    (evidenceAad scope evidence.evidenceId evidence.mediaType.text evidence.sensitivity
      evidence.retentionClass.text evidence.contentSha256.text) .invalid
  check (decide ((rawSha256 env.toDigest aad).text = evidence.wrappedKey.aadSha256)) .invalid
  let key <- (keys.unwrap evidence.wrappedKey).mapError evidenceErrorOf
  let plaintext <- orRefuse (env.decrypt key evidence.nonce aad evidence.ciphertext) .invalid
  check
    (decide (plaintext.length <= maxEvidenceBytes ∧
      rawSha256 env.toDigest plaintext = evidence.contentSha256)) .invalid
  .ok plaintext

/-!
## What was sealed is what is opened
-/

def Inverts (cipher : WrappingCipher) : Prop :=
  forall {key nonce aad plaintext ciphertext}, cipher.encrypt key nonce aad plaintext = some ciphertext ->
    cipher.decrypt key nonce aad ciphertext = some plaintext

def openedBy (loaded : Except KeyError JournalState) (evidenceId : String) (value : Bytes) :
    Except EvidenceError Bytes :=
  match loaded with
  | .error error => .error (evidenceErrorOf error)
  | .ok state => if state.isRevoked evidenceId = true then .error .unavailable else .ok value

section RoundTrip

variable {env : ProviderEnvironment} {keyId : OpaqueId} {keyMaterial nonce : Bytes}
  {loaded : Except KeyError JournalState}

/-- What a wrapped key's constructor and its digest require. -/
structure KeyWellFormed (wrapped : WrappedKey) : Prop where
  nonce : wrapped.nonce.length = 24
  ciphertext : wrapped.ciphertext.length = 48
  aadSha256 : isRawSha256 wrapped.aadSha256 = true

structure Wraps (env : ProviderEnvironment) (keyId : OpaqueId) (keyMaterial : Bytes)
    (request : WrapKeyRequest) (wrapped : WrappedKey) : Prop where
  wellFormed : KeyWellFormed wrapped
  handle : wrapped.handle = request.handle
  aadSha256 : wrapped.aadSha256 = (rawSha256 env.toDigest request.aad).text
  unwrap : forall loaded nonce,
    ((sealedKeyProvider env keyId keyMaterial nonce loaded).unwrap wrapped).mapError
        evidenceErrorOf = openedBy loaded request.handle.text request.plaintextKey

theorem WrappedKey.eq_of_new {keyId handle aadSha256 : String} {nonce ciphertext : Bytes}
    {wrapped : WrappedKey}
    (h : WrappedKey.new keyId handle nonce ciphertext aadSha256 = .ok wrapped) :
    (nonce.length = 24 ∧ ciphertext.length = 48) ∧ wrapped.keyId.text = keyId ∧
      wrapped.handle.text = handle ∧ wrapped.nonce = nonce ∧ wrapped.ciphertext = ciphertext ∧
      wrapped.aadSha256 = aadSha256 := by
  rcases check_ok h with ⟨hsizes, h⟩
  rcases bind_ok h with ⟨parsedKey, hkey, h⟩
  rcases bind_ok h with ⟨parsedHandle, hhandle, h⟩
  cases h
  exact ⟨of_decide_eq_true hsizes, OpaqueId.text_of_parse (orRefuse_eq_ok.mp hkey),
    OpaqueId.text_of_parse (orRefuse_eq_ok.mp hhandle), rfl, rfl, rfl⟩

theorem wraps_of_wrap (hinverts : Inverts env.toWrappingCipher) {request : WrapKeyRequest}
    {wrapped : WrappedKey} (hsize : request.plaintextKey.length = 32)
    (h : (sealedKeyProvider env keyId keyMaterial nonce loaded).wrap request = .ok wrapped) :
    Wraps env keyId keyMaterial request wrapped := by
  rcases bind_ok h with ⟨state, _, h⟩
  rcases check_ok h with ⟨_, h⟩
  rcases bind_ok h with ⟨aad, haad, h⟩
  rcases bind_ok h with ⟨ciphertext, hencrypt, h⟩
  rcases WrappedKey.eq_of_new h with ⟨hsizes, hkeyId, hhandle, hnonce, hciphertext, hsha⟩
  constructor
  · constructor
    · rw [hnonce]
      exact hsizes.left
    · rw [hciphertext]
      exact hsizes.right
    · rw [hsha]
      exact (rawSha256 env.toDigest request.aad).valid
  · exact OpaqueId.text_injective hhandle
  · exact hsha
  · intro later again
    cases later with
    | error error => rfl
    | ok found =>
        show (unwrapKey env keyId.text keyMaterial wrapped found).mapError evidenceErrorOf =
          if found.isRevoked request.handle.text = true then .error .unavailable
          else .ok request.plaintextKey
        unfold unwrapKey
        rw [Except.check_bind (decide_eq_true hkeyId), hhandle, hsha]
        cases hrevoked : found.isRevoked request.handle.text with
        | true => rfl
        | false =>
            have hdecrypt := hinverts (orRefuse_eq_ok.mp hencrypt)
            simp only [Bool.not_false]
            rw [Except.check_bind rfl, haad, Except.ok_bind, hnonce, hciphertext,
              Except.orRefuse_bind hdecrypt, Except.check_bind (decide_eq_true hsize)]
            rfl

structure Seals (env : ProviderEnvironment) (keyId : OpaqueId) (keyMaterial : Bytes)
    (scope : RepositoryScope) (evidenceId : EvidenceId) (value : Bytes)
    (evidence : SealedEvidence) : Prop where
  named : evidence.evidenceId = evidenceId
  inScope : evidence.scope = scope
  wellFormed : KeyWellFormed evidence.wrappedKey
  opens : forall loaded nonce,
    openEvidence env (sealedKeyProvider env keyId keyMaterial nonce loaded) scope evidence =
      openedBy loaded evidenceId.text value

theorem SealedEvidence.eq_of_new {evidenceId : EvidenceId} {contentSha256 ciphertextSha256 : RawSha256}
    {scope : RepositoryScope} {mediaType : MediaType} {sensitivity : Sensitivity}
    {retentionClass : RetentionClass} {nonce ciphertext : Bytes} {wrappedKey : WrappedKey}
    {algorithm : String} {evidence : SealedEvidence}
    (h : SealedEvidence.new evidenceId contentSha256 ciphertextSha256 scope mediaType.text
      sensitivity retentionClass.text algorithm nonce ciphertext wrappedKey = .ok evidence) :
    exists hnonce hciphertext, evidence =
      { evidenceId := evidenceId
        contentSha256 := contentSha256
        ciphertextSha256 := ciphertextSha256
        scope := scope
        mediaType := mediaType
        sensitivity := sensitivity
        retentionClass := retentionClass
        nonce := nonce
        ciphertext := ciphertext
        wrappedKey := wrappedKey
        nonceSize := hnonce
        ciphertextSize := hciphertext } := by
  unfold SealedEvidence.new at h
  split at h
  · rename_i hsizes
    rw [Except.orRefuse_bind (MediaType.parse_text mediaType),
      Except.orRefuse_bind (RetentionClass.parse_text retentionClass)] at h
    exact ⟨hsizes.right.left, hsizes.right.right, (Except.ok.inj h).symm⟩
  · cases h

theorem seals_of_sealEvidence (hinverts : Inverts env.toWrappingCipher) {random : Randomness}
    {scope : RepositoryScope} {input : EvidenceInput} {evidence : SealedEvidence}
    (h : sealEvidence env (sealedKeyProvider env keyId keyMaterial nonce loaded) random scope input =
      .ok evidence) :
    Seals env keyId keyMaterial scope input.localRef input.plaintext evidence := by
  rcases check_ok h with ⟨hlength, h⟩
  rcases bind_ok h with ⟨aad, haad, h⟩
  rcases bind_ok h with ⟨ciphertext, hencrypt, h⟩
  rcases bind_ok h with ⟨request, hrequest, h⟩
  rcases bind_ok h with ⟨wrapped, hwrap, h⟩
  rcases SealedEvidence.eq_of_new h with ⟨hnonce, hsize, heq⟩
  rcases check_ok (Except.mapError_eq_ok.mp hrequest) with ⟨hkey, hrequest⟩
  rcases bind_ok hrequest with ⟨handle, hhandle, hrequest⟩
  have hhandle := orRefuse_eq_ok.mp hhandle
  rw [OpaqueId.parse_text] at hhandle
  cases hhandle
  cases hrequest
  have hwraps := wraps_of_wrap hinverts (of_decide_eq_true hkey).left (Except.mapError_eq_ok.mp hwrap)
  subst heq
  refine ⟨rfl, rfl, hwraps.wellFormed, ?_⟩
  intro later again
  have hhandle : wrapped.handle.text = input.localRef.text := congrArg OpaqueId.text hwraps.handle
  unfold openEvidence
  dsimp only
  rw [Except.check_bind (decide_eq_true ⟨rfl, hhandle, rfl⟩), haad, Except.ok_bind,
    Except.check_bind (decide_eq_true hwraps.aadSha256.symm), hwraps.unwrap]
  cases later with
  | error error => rfl
  | ok found =>
      unfold openedBy
      simp only
      split
      · rfl
      · rw [Except.ok_bind, Except.orRefuse_bind (hinverts (orRefuse_eq_ok.mp hencrypt)),
          Except.check_bind (decide_eq_true ⟨of_decide_eq_true hlength, rfl⟩)]

end RoundTrip

end Credentials
end GraphHelm
