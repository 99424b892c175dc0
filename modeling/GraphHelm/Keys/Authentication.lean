import GraphHelm.Library.Checks
import GraphHelm.Library.FlatObjects
import GraphHelm.Protocol.Vocabulary

/-!
# Authenticating with a derived key

The tags a sealed key provider puts on its own documents, and how it checks them
(`adapters/sealed-key-provider/src/lib.rs`, `core/events/src/key.rs`).
-/

namespace GraphHelm
namespace Keys

inductive KeyError where
  | invalid
  | unavailable
  | integrity
  | conflict
  | storage
deriving DecidableEq

structure Digest where
  sha256 : Bytes -> Bytes
  length : forall bytes, (sha256 bytes).length = 32

/-!
## Tags
-/

def hmacSha256 (digest : Digest) (key bytes : Bytes) : Bytes :=
  let key := if 64 < key.length then digest.sha256 key else key
  let pad := fun mask : UInt8 => (List.range 64).map fun index => mask ^^^ key.getD index 0
  digest.sha256 (pad 0x5c ++ digest.sha256 (pad 0x36 ++ bytes))

def pushField (output bytes : Bytes) : Except KeyError Bytes :=
  if bytes.length < 256 ^ 4 then .ok (output ++ framed bytes) else .error .invalid

def authenticationAad (purpose : String) (bytes : Bytes) : Except KeyError Bytes := do
  let aad <- pushField [] (utf8 "graphhelm-authentication-v1")
  let aad <- pushField aad (utf8 purpose)
  pushField aad bytes

/-- `with_derived_key` up to the operation on the key. -/
def derivedKey (digest : Digest) (keyMaterial domain : Bytes) : Bytes :=
  hmacSha256 digest keyMaterial
    (utf8 "graphhelm-subkey-derivation-v1" ++ bigEndian 8 domain.length ++ domain)

def authenticationBytes (digest : Digest) (keyMaterial : Bytes) (purpose : String) (bytes : Bytes) :
    Except KeyError Bytes := do
  let authenticated <- authenticationAad purpose bytes
  .ok (hmacSha256 digest (derivedKey digest keyMaterial (utf8 "graphhelm-authentication-key-v1"))
    authenticated)

def verifyAuthenticationBytes (digest : Digest) (keyMaterial : Bytes) (purpose : String)
    (bytes tag : Bytes) : Except KeyError Unit := do
  check (decide (tag.length = 32)) .integrity
  let authenticated <- authenticationAad purpose bytes
  check
    (decide (hmacSha256 digest
      (derivedKey digest keyMaterial (utf8 "graphhelm-authentication-key-v1")) authenticated = tag))
    .integrity

/-- Whether a purpose and the bytes tagged for it can be framed. -/
structure Taggable (purpose : String) (bytes : Bytes) : Prop where
  purpose : (utf8 purpose).length < 256 ^ 4
  bytes : bytes.length < 256 ^ 4

def tagOf (digest : Digest) (keyMaterial : Bytes) (purpose : String) (bytes : Bytes) : Bytes :=
  hmacSha256 digest (derivedKey digest keyMaterial (utf8 "graphhelm-authentication-key-v1"))
    (framed (utf8 "graphhelm-authentication-v1") ++ framed (utf8 purpose) ++ framed bytes)

section Tags

variable {digest : Digest} {keyMaterial bytes tag : Bytes} {purpose : String}

@[simp] theorem length_tagOf : (tagOf digest keyMaterial purpose bytes).length = 32 :=
  digest.length _

theorem pushField_ok {output : Bytes} (h : bytes.length < 256 ^ 4) :
    pushField output bytes = .ok (output ++ framed bytes) :=
  if_pos h

theorem authenticationAad_ok (h : Taggable purpose bytes) :
    authenticationAad purpose bytes =
      .ok (framed (utf8 "graphhelm-authentication-v1") ++ framed (utf8 purpose) ++ framed bytes) := by
  unfold authenticationAad
  rw [pushField_ok (by decide), Except.ok_bind, pushField_ok h.purpose, Except.ok_bind,
    pushField_ok h.bytes]
  rfl

theorem authenticationBytes_ok (h : Taggable purpose bytes) :
    authenticationBytes digest keyMaterial purpose bytes =
      .ok (tagOf digest keyMaterial purpose bytes) := by
  unfold authenticationBytes
  rw [authenticationAad_ok h]
  rfl

theorem verifyAuthenticationBytes_eq_ok (h : Taggable purpose bytes) :
    verifyAuthenticationBytes digest keyMaterial purpose bytes tag = .ok () <->
      tag = tagOf digest keyMaterial purpose bytes := by
  unfold verifyAuthenticationBytes
  rw [authenticationAad_ok h]
  constructor
  · intro haccepted
    rcases bind_ok haccepted with ⟨_, _, haccepted⟩
    exact (of_decide_eq_true (check_eq_ok.mp haccepted)).symm
  · rintro rfl
    rw [decide_eq_true length_tagOf]
    exact check_eq_ok.mpr (decide_eq_true rfl)

end Tags

/-!
## What is on a receipt
-/

structure AuthenticationTag where
  keyId : OpaqueId
  bytes : Bytes
deriving DecidableEq

/-- `AuthenticationTag::new` for `hmac-sha256`, the only algorithm it takes. -/
def AuthenticationTag.new (keyId : String) (bytes : Bytes) : Except KeyError AuthenticationTag := do
  check (decide (bytes.length = 32)) .invalid
  let keyId <- orRefuse (OpaqueId.parse keyId) .invalid
  .ok { keyId := keyId, bytes := bytes }

structure RevokeKeyRequest where
  handle : OpaqueId
  idempotencyKey : OpaqueId
deriving DecidableEq

structure RevocationReceipt where
  handle : OpaqueId
  idempotencyKey : OpaqueId
  epoch : Nat
  authenticationTag : AuthenticationTag
deriving DecidableEq

def maxWireSafeInteger : Nat := 9007199254740991

def RevocationReceipt.new (handle idempotencyKey : String) (epoch : Nat)
    (authenticationTag : AuthenticationTag) : Except KeyError RevocationReceipt := do
  check (decide (0 < epoch ∧ epoch <= maxWireSafeInteger)) .invalid
  let handle <- orRefuse (OpaqueId.parse handle) .invalid
  let idempotencyKey <- orRefuse (OpaqueId.parse idempotencyKey) .invalid
  .ok
    { handle := handle
      idempotencyKey := idempotencyKey
      epoch := epoch
      authenticationTag := authenticationTag }

end Keys
end GraphHelm
