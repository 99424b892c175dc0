import GraphHelm.Externalize.Authoring
import GraphHelm.Library.Base64Url

/-!
# Persisted references

The references that may be persisted and the one form they are persisted in
(`encode_persisted_reference` and `decode_persisted_reference` of
`core/graph/src/persistence.rs`).
-/

namespace GraphHelm
namespace Externalize

/-!
## Registered references
-/

def isAsciiLowercase (c : Char) : Bool := 'a' <= c && c <= 'z'

def nominalToken (value : List Char) (uppercase : Bool) : Bool :=
  decide (value.length <= 64) && value.head?.any isAsciiAlphanumeric &&
    value.all (fun c => isAsciiDigit c || isAsciiLowercase c ||
      (uppercase && ('A' <= c && c <= 'Z')) || isSeparator c) &&
    !containsText value "..".toList && value != ".".toList && value != "..".toList

def numericVersion (value : List Char) : Bool :=
  decide (value.length <= 10) && value.head?.any (fun c => c != '0') && value.all isAsciiDigit

def stripText (start : String) (value : List Char) : Option (List Char) :=
  if start.toList.isPrefixOf value then some (value.drop start.toList.length) else none

def stripEnd (tail : String) (value : List Char) : Option (List Char) :=
  if tail.toList.isSuffixOf value then some (value.take (value.length - tail.toList.length))
  else none

/-- `split_version`: what stands before the last `@` and after it. -/
def splitVersion (value : List Char) : List Char × Option (List Char) :=
  match value.reverse.span fun c => c != '@' with
  | (version, _ :: token) => (token.reverse, some version.reverse)
  | (_, []) => (value, none)

def referenceWithToken (value : List Char) (start : String) (versionOptional : Bool) : Bool :=
  (stripText start value).any fun tail =>
    let split := splitVersion tail
    nominalToken split.1 true && (split.2.map numericVersion).getD versionOptional

def slashReference (value : List Char) (start : String) (minimum maximum : Nat) : Bool :=
  (stripText start value).any fun tail =>
    let split := splitVersion tail
    let segments := split.1.splitOn '/'
    split.2.all numericVersion && segments.all (fun segment => nominalToken segment true) &&
      decide (minimum <= segments.length) && decide (segments.length <= maximum)

def isArtifactReference (value : List Char) : Bool :=
  ((stripText "artifact://sha256/" value).any fun digest =>
      decide (digest.length = 64) && digest.all fun c => isAsciiDigit c || ('a' <= c && c <= 'f')) ||
    (stripText "artifact://" value).any fun token =>
      nominalToken token true && decide ('/' ∉ token) && decide (':' ∉ token)

def exactSchemaIdentity (value : List Char) : Bool :=
  value = "https://json-schema.org/draft/2020-12/schema".toList ||
    (((stripText "https://p50.dev/schemas/" value).bind (stripEnd ".schema.json")).any fun name =>
      nominalToken name false)

def secretNames : List String :=
  ["secret", "password", "passwd", "credential", "token", "privatekey", "accesskey", "apikey",
    "databaseurl", "connectionstring"]

def compactContainsSecretName (text : List Char) : Bool :=
  let compact := text.filter isAsciiAlphanumeric
  secretNames.any fun marker => containsText compact marker.toList

def containsReferenceSecretName (text : List Char) : Bool :=
  (containsText text "://".toList || "project/".toList.isPrefixOf text ||
      "builtin/".toList.isPrefixOf text) &&
    compactContainsSecretName text

def environmentReference (value : List Char) : Bool :=
  (stripText "environment://" value).any fun token =>
    nominalToken token false && decide ('@' ∉ token) && !compactContainsSecretName token

def isRegisteredReference (value : String) : Bool :=
  let text := value.toList
  text.all (fun c => decide (c.toNat < 128)) && !containsReferenceSecretName text &&
    (isArtifactReference text || exactSchemaIdentity text ||
      referenceWithToken text "schema://" false ||
      referenceWithToken text "context-policy://" true ||
      referenceWithToken text "contract://" true ||
      referenceWithToken text "rules://" true ||
      referenceWithToken text "graph-template://" true ||
      referenceWithToken text "evaluator://" true ||
      referenceWithToken text "deploy://" true ||
      slashReference text "policy://" 2 3 ||
      slashReference text "project/" 1 2 ||
      slashReference text "builtin/" 1 2 ||
      slashReference text "context://" 1 4 ||
      slashReference text "document://" 1 4 ||
      environmentReference text)

/-!
## The codec
-/

def referencePrefix : String := "refv1:"

/-- The bytes a reference may have; with the prefix the digits of so many bytes fill the 128
bytes of a safe value. -/
def mostReferenceBytes : Nat := 91

def encodePersistedReference (value : String) : Option String := do
  guard (value.utf8ByteSize <= mostReferenceBytes && isRegisteredReference value)
  let encoded := referencePrefix ++ String.ofList (Base64Url.encode (utf8 value))
  guard (isSafeValue encoded)
  some encoded

def decodePersistedReference (encoded : String) : Option String := do
  guard (encoded.utf8ByteSize <= 128)
  let payload <- stripText referencePrefix encoded.toList
  guard (!(payload.isEmpty || (String.ofList payload).utf8ByteSize % 4 = 1 || '=' ∈ payload : Bool))
  let bytes <- Base64Url.decode payload
  let decoded <- String.fromUTF8? bytes.toByteArray
  guard (decoded.utf8ByteSize <= mostReferenceBytes && isRegisteredReference decoded)
  let canonical <- encodePersistedReference decoded
  guard (canonical = encoded)
  some decoded

/-!
## The encoded form
-/

def writtenReference (value : String) : String :=
  referencePrefix ++ String.ofList (Base64Url.encode (utf8 value))

theorem fromUTF8?_utf8 (text : String) : String.fromUTF8? (utf8 text).toByteArray = some text := by
  have hvalid : (utf8 text).toByteArray.IsValidUTF8 := ⟨text.toList, rfl⟩
  unfold String.fromUTF8?
  rw [dif_pos hvalid]
  congr 1
  apply String.toByteArray_inj.mp
  show (utf8 text).toByteArray = text.toByteArray
  rw [<- String.utf8Encode_toList]
  rfl

theorem size_of_single {chars : List Char} (h : forall c, c ∈ chars -> c.utf8Size = 1) :
    (String.ofList chars).utf8ByteSize = chars.length := by
  rw [<- length_utf8]
  unfold utf8
  rw [String.toList_ofList]
  induction chars with
  | nil => rfl
  | cons c rest ih =>
      rw [List.flatMap_cons, List.length_append, ih fun d hd => h d (List.mem_cons_of_mem c hd),
        String.length_utf8EncodeChar, h c List.mem_cons_self, List.length_cons, Nat.add_comm]

theorem digits_single {bytes : Bytes} {c : Char} (h : c ∈ Base64Url.encode bytes) :
    c.utf8Size = 1 := by
  have hall : Base64Url.alphabet.all (fun c => decide (c.utf8Size = 1)) = true := by decide
  exact of_decide_eq_true (List.all_eq_true.mp hall c (Base64Url.mem_alphabet h))

theorem size_payload (value : String) :
    (String.ofList (Base64Url.encode (utf8 value))).utf8ByteSize =
      (4 * value.utf8ByteSize + 2) / 3 := by
  rw [size_of_single fun c => digits_single, Base64Url.length_encode, length_utf8]

theorem size_writtenReference (value : String) :
    (writtenReference value).utf8ByteSize = 6 + (4 * value.utf8ByteSize + 2) / 3 := by
  rw [writtenReference, String.utf8ByteSize_append, size_payload]
  rfl

theorem toList_writtenReference (value : String) :
    (writtenReference value).toList =
      referencePrefix.toList ++ Base64Url.encode (utf8 value) := by
  rw [writtenReference, String.toList_append, String.toList_ofList]

variable {value encoded : String}

theorem isSafeValue_writtenReference (h : value.utf8ByteSize <= mostReferenceBytes) :
    isSafeValue (writtenReference value) = true := by
  have hsize : (writtenReference value).utf8ByteSize <= 128 := by
    rw [size_writtenReference]
    unfold mostReferenceBytes at h
    omega
  have hdigits : (Base64Url.encode (utf8 value)).all
      (fun c => isAsciiAlphanumeric c || isSeparator c || c = ':') = true := by
    apply List.all_eq_true.mpr
    intro c hc
    have hall : Base64Url.alphabet.all
        (fun c => isAsciiAlphanumeric c || isSeparator c || c = ':') = true := by decide
    exact List.all_eq_true.mp hall c (Base64Url.mem_alphabet hc)
  have hprefix : referencePrefix.toList = 'r' :: ['e', 'f', 'v', '1', ':'] := by decide
  unfold isSafeValue
  rw [toList_writtenReference, hprefix]
  simp only [List.cons_append, List.nil_append, List.all_cons, hdigits, decide_eq_true hsize]
  decide

theorem guard_eq_some {condition : Prop} [Decidable condition] {u : Unit} :
    (guard condition : Option Unit) = some u <-> condition := by
  unfold guard
  split
  · rename_i h
    exact Iff.intro (fun _ => h) fun _ => rfl
  · rename_i h
    constructor
    · intro hnone
      cases hnone
    · intro hcondition
      exact absurd hcondition h

theorem guard_bind_eq_some {A : Type} {condition : Prop} [Decidable condition]
    {f : Unit -> Option A} {a : A} :
    (guard condition >>= f) = some a <-> condition ∧ f () = some a := by
  rw [Option.bind_eq_bind, Option.bind_eq_some_iff]
  constructor
  · rintro ⟨u, hguard, hrest⟩
    exact And.intro (guard_eq_some.mp hguard) hrest
  · rintro ⟨hcondition, hrest⟩
    exact ⟨(), guard_eq_some.mpr hcondition, hrest⟩

theorem encodePersistedReference_eq_some :
    encodePersistedReference value = some encoded <->
      (value.utf8ByteSize <= mostReferenceBytes ∧ isRegisteredReference value = true) ∧
        encoded = writtenReference value := by
  unfold encodePersistedReference
  rw [guard_bind_eq_some, guard_bind_eq_some, Bool.and_eq_true, decide_eq_true_eq]
  apply and_congr_right
  intro hallowed
  constructor
  · rintro ⟨_, hsame⟩
    exact (Option.some.inj hsame).symm
  · intro heq
    rw [heq]
    exact And.intro (isSafeValue_writtenReference hallowed.left) rfl

/-- What the decoder reads off an encoded reference before it encodes it again. -/
structure Decoded (encoded : String) (payload : List Char) (value : String) : Prop where
  size : encoded.utf8ByteSize <= 128
  stripped : stripText referencePrefix encoded.toList = some payload
  wellFormed : (payload.isEmpty || (String.ofList payload).utf8ByteSize % 4 = 1 ||
    '=' ∈ payload : Bool) = false
  bytes : exists bytes, Base64Url.decode payload = some bytes ∧
    String.fromUTF8? bytes.toByteArray = some value
  canonical : encodePersistedReference value = some encoded

theorem decodePersistedReference_eq_some :
    decodePersistedReference encoded = some value <->
      exists payload, Decoded encoded payload value := by
  unfold decodePersistedReference
  rw [guard_bind_eq_some]
  constructor
  · rintro ⟨hsize, h⟩
    rcases Option.bind_eq_some_iff.mp h with ⟨payload, hpayload, h⟩
    rcases guard_bind_eq_some.mp h with ⟨hformed, h⟩
    rcases Option.bind_eq_some_iff.mp h with ⟨bytes, hbytes, h⟩
    rcases Option.bind_eq_some_iff.mp h with ⟨decoded, hdecoded, h⟩
    rcases guard_bind_eq_some.mp h with ⟨_, h⟩
    rcases Option.bind_eq_some_iff.mp h with ⟨canonical, hcanonical, h⟩
    rcases guard_bind_eq_some.mp h with ⟨hsame, h⟩
    cases h
    subst hsame
    exact ⟨payload, hsize, hpayload, by simpa using hformed, ⟨bytes, hbytes, hdecoded⟩, hcanonical⟩
  · rintro ⟨payload, h⟩
    rcases h.bytes with ⟨bytes, hbytes, hdecoded⟩
    refine And.intro h.size (Option.bind_eq_some_iff.mpr ⟨payload, h.stripped, ?_⟩)
    refine guard_bind_eq_some.mpr (And.intro (by rw [h.wellFormed]; rfl) ?_)
    refine Option.bind_eq_some_iff.mpr ⟨bytes, hbytes, ?_⟩
    refine Option.bind_eq_some_iff.mpr ⟨value, hdecoded, ?_⟩
    have hallowed := (encodePersistedReference_eq_some.mp h.canonical).left
    refine guard_bind_eq_some.mpr (And.intro (by simp [hallowed.left, hallowed.right]) ?_)
    refine Option.bind_eq_some_iff.mpr ⟨encoded, h.canonical, ?_⟩
    exact guard_bind_eq_some.mpr (And.intro rfl rfl)

theorem decoded_of_encoded (h : encodePersistedReference value = some encoded) :
    Decoded encoded (Base64Url.encode (utf8 value)) value := by
  rcases encodePersistedReference_eq_some.mp h with ⟨⟨hsize, hregistered⟩, heq⟩
  have hnonempty : value.utf8ByteSize ≠ 0 := by
    intro hzero
    rw [String.utf8ByteSize_eq_zero_iff.mp hzero] at hregistered
    revert hregistered
    decide
  constructor
  · rw [heq, size_writtenReference]
    unfold mostReferenceBytes at hsize
    omega
  · rw [heq, toList_writtenReference]
    unfold stripText
    rw [if_pos (List.isPrefixOf_iff_prefix.mpr (List.prefix_append _ _)), List.drop_left]
  · have hlength : (Base64Url.encode (utf8 value)).length ≠ 0 := by
      rw [Base64Url.length_encode, length_utf8]
      omega
    have hsome : (Base64Url.encode (utf8 value)).isEmpty = false := by
      rw [List.isEmpty_eq_false_iff]
      exact fun hnil => hlength (by rw [hnil]; rfl)
    have hclass : ¬ (4 * value.utf8ByteSize + 2) / 3 % 4 = 1 := by omega
    have hpadding : '=' ∉ Base64Url.encode (utf8 value) := by
      intro hmem
      have halphabet := Base64Url.mem_alphabet hmem
      revert halphabet
      decide
    simp [hsome, size_payload, hclass, hpadding]
  · exact ⟨utf8 value, Base64Url.decode_encode _, fromUTF8?_utf8 value⟩
  · exact h

theorem decode_iff_encode :
    decodePersistedReference encoded = some value <->
      encodePersistedReference value = some encoded := by
  rw [decodePersistedReference_eq_some]
  constructor
  · rintro ⟨payload, h⟩
    exact h.canonical
  · intro h
    exact ⟨_, decoded_of_encoded h⟩

theorem decode_prefixed {payload : List Char}
    (h : decodePersistedReference (referencePrefix ++ String.ofList payload) = some value) :
    Decoded (referencePrefix ++ String.ofList payload) payload value := by
  rcases decodePersistedReference_eq_some.mp h with ⟨other, hdecoded⟩
  have hsame : stripText referencePrefix (referencePrefix ++ String.ofList payload).toList =
      some payload := by
    rw [String.toList_append, String.toList_ofList]
    unfold stripText
    rw [if_pos (List.isPrefixOf_iff_prefix.mpr (List.prefix_append _ _)), List.drop_left]
  have hstripped := hdecoded.stripped
  rw [hsame] at hstripped
  cases hstripped
  exact hdecoded

/-- The codec is canonical: it encodes the registered references of at most 91 bytes, decodes
exactly what it encodes, and refuses what is too long, padded, of a length that no encoding has,
or has a digit with bits that stand for nothing. -/
theorem references_canonical :
    (forall value, (encodePersistedReference value).isSome = true <->
        value.utf8ByteSize <= mostReferenceBytes ∧ isRegisteredReference value = true) ∧
      (forall encoded value, decodePersistedReference encoded = some value <->
        encodePersistedReference value = some encoded) ∧
      (forall first second value, decodePersistedReference first = some value ->
        decodePersistedReference second = some value -> first = second) ∧
      (forall encoded : String, 128 < encoded.utf8ByteSize ->
        decodePersistedReference encoded = none) ∧
      forall payload : List Char,
        (String.ofList payload).utf8ByteSize % 4 = 1 ∨ '=' ∈ payload ∨
            (exists read, payload.mapM Base64Url.readDigit = some read ∧
              Base64Url.unusedBits read ≠ 0) ->
          decodePersistedReference (referencePrefix ++ String.ofList payload) = none := by
  refine ⟨?_, fun _ _ => decode_iff_encode, ?_, ?_, ?_⟩
  · intro value
    rw [Option.isSome_iff_exists]
    constructor
    · rintro ⟨encoded, h⟩
      exact (encodePersistedReference_eq_some.mp h).left
    · intro hallowed
      exact ⟨_, encodePersistedReference_eq_some.mpr (And.intro hallowed rfl)⟩
  · intro first second value hfirst hsecond
    have hsame := (decode_iff_encode.mp hfirst).symm.trans (decode_iff_encode.mp hsecond)
    exact Option.some.inj hsame
  · intro encoded hlong
    rw [Option.eq_none_iff_forall_ne_some]
    intro value hvalue
    rcases decodePersistedReference_eq_some.mp hvalue with ⟨_, hdecoded⟩
    have hsize := hdecoded.size
    omega
  · intro payload hrefused
    rw [Option.eq_none_iff_forall_ne_some]
    intro value hvalue
    have hdecoded := decode_prefixed hvalue
    have hformed := hdecoded.wellFormed
    simp only [Bool.or_eq_false_iff, decide_eq_false_iff_not] at hformed
    rcases hrefused with hclass | hpadding | ⟨read, hread, hunused⟩
    · exact hformed.left.right hclass
    · exact hformed.right hpadding
    · rcases hdecoded.bytes with ⟨bytes, hbytes, _⟩
      unfold Base64Url.decode Base64Url.bytesOfSextets at hbytes
      rw [hread, Option.bind_some, if_pos (by simp [hunused])] at hbytes
      cases hbytes

/-- A registered reference and what it is written as. -/
theorem references_canonical_of_project :
    encodePersistedReference "project/a" = some "refv1:cHJvamVjdC9h" ∧
      decodePersistedReference "refv1:cHJvamVjdC9h" = some "project/a" ∧
      decodePersistedReference "refv1:cHJvamVjdC9hL" = none := by
  have hencoded : encodePersistedReference "project/a" = some "refv1:cHJvamVjdC9h" := by decide
  refine ⟨hencoded, (references_canonical.right.left _ _).mpr hencoded, ?_⟩
  exact references_canonical.right.right.right.right "cHJvamVjdC9hL".toList (by decide)

end Externalize
end GraphHelm
