import GraphHelm.Keys.Loading

/-!
# The sealed key provider

Creating and opening a directory of one key, and what a call on a provider does under
the directory's exclusive lock (`adapters/sealed-key-provider/src/lib.rs`,
`adapters/sealed-key-provider/src/keyring.rs`).
-/

namespace GraphHelm
namespace Keys

open Std

def maxKeyringBytes : Nat := 4 * 1024

/-- `KeyringDocument`, which has the members of a header. -/
abbrev KeyringDocument := JournalHeader

/-- `XChaCha20Poly1305`, under the key that is derived for wrapping. -/
structure WrappingCipher where
  encrypt : (key nonce aad plaintext : Bytes) -> Option Bytes
  decrypt : (key nonce aad ciphertext : Bytes) -> Option Bytes

/-- What a provider takes from outside. -/
structure ProviderEnvironment extends KeyEnvironment, WrappingCipher where
  /-- `serde_json::from_slice::<KeyringDocument>`. -/
  readKeyring : Bytes -> Option KeyringDocument

/-- The files of a provider. -/
structure Directory where
  keyring : Option Bytes
  journal : Option Bytes

/-!
## The keyring
-/

def canonicalKeyringBytes (keyId : String) : Except KeyError Bytes :=
  pushField (utf8 "graphhelm-keyring-v1") (utf8 keyId)

def verifyFile (env : ProviderEnvironment) (expectedKeyId : String) (keyMaterial file : Bytes) :
    Except KeyError Unit := do
  let bytes <- readBounded file maxKeyringBytes
  check (decide (bytes.getLast? = some newline)) .integrity
  let document <- orRefuse (env.readKeyring bytes.dropLast) .integrity
  check (decide (document.formatVersion = 1 ∧ document.keyId = expectedKeyId)) .integrity
  let tag <- decodeTag document.authenticationTag
  let canonical <- canonicalKeyringBytes expectedKeyId
  verifyAuthenticationBytes env.toDigest keyMaterial "keyring-v1" canonical tag

def newKeyring (env : ProviderEnvironment) (keyId : String) (keyMaterial : Bytes) :
    Except KeyError Bytes := do
  let canonical <- canonicalKeyringBytes keyId
  let tag <- authenticationBytes env.toDigest keyMaterial "keyring-v1" canonical
  let document : KeyringDocument :=
    { formatVersion := 1, keyId := keyId, authenticationTag := hexEncode tag }
  let bytes := document.bytes ++ [newline]
  check (decide (bytes.length <= maxKeyringBytes)) .invalid
  .ok bytes

def publish (env : ProviderEnvironment) (keyId : String) (keyMaterial : Bytes)
    (keyring : Option Bytes) : Except KeyError Unit × Option Bytes :=
  match keyring with
  | some _ => (.error .conflict, keyring)
  | none =>
      match newKeyring env keyId keyMaterial with
      | .error error => (.error error, none)
      | .ok bytes => (verifyFile env keyId keyMaterial bytes, some bytes)

/-!
## Creating and opening
-/

def createLocked (env : ProviderEnvironment) (keyId : String) (keyMaterial : Bytes)
    (directory : Directory) : Except KeyError JournalState × Directory :=
  match directory.keyring with
  | some _ => (.error .conflict, directory)
  | none =>
      let (created, journal) :=
        createOrRecoverEmpty env.toKeyEnvironment keyId keyMaterial directory.journal
      let directory := { directory with journal := journal }
      match created with
      | .error error => (.error error, directory)
      | .ok () =>
          let (published, keyring) := publish env keyId keyMaterial directory.keyring
          let directory := { directory with keyring := keyring }
          match published with
          | .error error => (.error error, directory)
          | .ok () =>
              let (loaded, journal) :=
                load env.toKeyEnvironment keyId keyMaterial (journal.getD [])
              (loaded, { directory with journal := some journal })

/-- `SealedKeyProvider::create` up to the joining of the floor. -/
def create (env : ProviderEnvironment) (keyId : String) (keyMaterial : Bytes)
    (directory : Directory) : Except KeyError JournalState × Directory :=
  if keyMaterial.length = 32 then
    match OpaqueId.parse keyId with
    | none => (.error .invalid, directory)
    | some keyId => createLocked env keyId.text keyMaterial directory
  else (.error .invalid, directory)

def openLocked (env : ProviderEnvironment) (keyId : String) (keyMaterial : Bytes)
    (directory : Directory) : Except KeyError JournalState × Directory :=
  match directory.keyring with
  | none => (.error .integrity, directory)
  | some keyring =>
      match verifyFile env keyId keyMaterial keyring with
      | .error error => (.error error, directory)
      | .ok () =>
          match directory.journal with
          | none => (.error .integrity, directory)
          | some file =>
              let (loaded, journal) := load env.toKeyEnvironment keyId keyMaterial file
              (loaded, { directory with journal := some journal })

/-!
## The shared floor
-/

/-- `SharedJournalFloor::join`, on the floor that the live providers of the process share. -/
def joinFloor (floor : Option JournalFloor) (state : JournalState) : Except KeyError JournalFloor := do
  let authenticated <- state.floor
  state.requireExtensionOf (floor.getD authenticated)
  .ok authenticated

def observeFloor (floor : JournalFloor) (state : JournalState) : Except KeyError JournalFloor := do
  let observed <- state.floor
  state.requireExtensionOf floor
  .ok observed

def confirmFloor (floor operation : JournalFloor) (state : JournalState) :
    Except KeyError JournalFloor := do
  state.requireExtensionOf operation
  let confirmed <- state.floor
  state.requireExtensionOf floor
  .ok confirmed

/-- What an operation under the lock answers, and what it leaves. -/
structure Locked (R : Type) where
  result : Except KeyError R
  file : Bytes
  floor : JournalFloor

def withLockedState {R : Type} (env : KeyEnvironment) (keyId : String) (keyMaterial : Bytes)
    (operation : JournalState -> Bytes -> Except KeyError R × Bytes) (floor : JournalFloor)
    (file : Bytes) : Locked R :=
  let (loaded, file) := load env keyId keyMaterial file
  match loaded with
  | .error error => { result := .error error, file := file, floor := floor }
  | .ok state =>
      match observeFloor floor state with
      | .error error => { result := .error error, file := file, floor := floor }
      | .ok observed =>
          let (result, file) := operation state file
          match result with
          | .error error => { result := .error error, file := file, floor := observed }
          | .ok answer =>
              let (confirmed, file) := load env keyId keyMaterial file
              match confirmed with
              | .error error => { result := .error error, file := file, floor := observed }
              | .ok confirmed =>
                  match confirmFloor observed observed confirmed with
                  | .error error => { result := .error error, file := file, floor := observed }
                  | .ok floor => { result := .ok answer, file := file, floor := floor }

/-!
## Calls
-/

structure WrapKeyRequest where
  handle : OpaqueId
  plaintextKey : Bytes
  aad : Bytes

structure WrappedKey where
  keyId : OpaqueId
  handle : OpaqueId
  nonce : Bytes
  ciphertext : Bytes
  aadSha256 : String

/-- `WrappedKey::new` for the only algorithm it takes. -/
def WrappedKey.new (keyId handle : String) (nonce ciphertext : Bytes) (aadSha256 : String) :
    Except KeyError WrappedKey := do
  check (decide (nonce.length = 24 ∧ ciphertext.length = 48)) .invalid
  let keyId <- orRefuse (OpaqueId.parse keyId) .invalid
  let handle <- orRefuse (OpaqueId.parse handle) .invalid
  .ok
    { keyId := keyId
      handle := handle
      nonce := nonce
      ciphertext := ciphertext
      aadSha256 := aadSha256 }

def wrappingAad (handle aadSha256 : String) : Except KeyError Bytes := do
  let aad <- pushField [] (utf8 "graphhelm-wrapped-dek-v1")
  let aad <- pushField aad (utf8 handle)
  pushField aad (utf8 aadSha256)

/-- What `wrap` does with the state; `nonce` is what the generator gave. -/
def wrapKey (env : ProviderEnvironment) (keyId : String) (keyMaterial : Bytes)
    (request : WrapKeyRequest) (nonce : Bytes) (state : JournalState) :
    Except KeyError WrappedKey := do
  check (!state.isRevoked request.handle.text) .unavailable
  let aadSha256 := hexEncode (env.sha256 request.aad)
  let aad <- wrappingAad request.handle.text aadSha256
  let key := derivedKey env.toDigest keyMaterial (utf8 "graphhelm-wrapping-key-v1")
  let ciphertext <- orRefuse (env.encrypt key nonce aad request.plaintextKey) .integrity
  WrappedKey.new keyId request.handle.text nonce ciphertext aadSha256

def unwrapKey (env : ProviderEnvironment) (keyId : String) (keyMaterial : Bytes)
    (wrapped : WrappedKey) (state : JournalState) : Except KeyError Bytes := do
  check (decide (wrapped.keyId.text = keyId)) .unavailable
  check (!state.isRevoked wrapped.handle.text) .unavailable
  let aad <- wrappingAad wrapped.handle.text wrapped.aadSha256
  let key := derivedKey env.toDigest keyMaterial (utf8 "graphhelm-wrapping-key-v1")
  let plaintext <- orRefuse (env.decrypt key wrapped.nonce aad wrapped.ciphertext) .integrity
  check (decide (plaintext.length = 32)) .integrity
  .ok plaintext

inductive Call where
  | metadata
  | wrap (request : WrapKeyRequest) (nonce : Bytes)
  | unwrap (wrapped : WrappedKey)
  | revoke (request : RevokeKeyRequest)

inductive Answer where
  /-- The current revocation epoch. -/
  | metadata (epoch : Nat)
  | wrapped (wrapped : WrappedKey)
  | unwrapped (plaintext : Bytes)
  | revoked (receipt : RevocationReceipt)

def operation (env : ProviderEnvironment) (keyId : String) (keyMaterial : Bytes) (call : Call)
    (state : JournalState) (file : Bytes) : Except KeyError Answer × Bytes :=
  match call with
  | .metadata =>
      (if state.epoch <= maxWireSafeInteger then .ok (.metadata state.epoch) else .error .invalid,
        file)
  | .wrap request nonce =>
      ((wrapKey env keyId keyMaterial request nonce state).map Answer.wrapped, file)
  | .unwrap wrapped => ((unwrapKey env keyId keyMaterial wrapped state).map Answer.unwrapped, file)
  | .revoke request =>
      let (revoked, file) :=
        appendRevocation env.toKeyEnvironment keyId keyMaterial state request file
      (revoked.map Answer.revoked, file)

def callProvider (env : ProviderEnvironment) (keyId : String) (keyMaterial : Bytes) (call : Call)
    (floor : JournalFloor) (file : Bytes) : Locked Answer :=
  withLockedState env.toKeyEnvironment keyId keyMaterial (operation env keyId keyMaterial call)
    floor file

end Keys
end GraphHelm
