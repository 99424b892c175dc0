import GraphHelm.Keys.Handles

/-!
# Creating a provider

What a creation writes, what it takes over from one that a crash ended, and when it
succeeds.
-/

namespace GraphHelm
namespace Keys

open Std

/-- What the readers of all documents are relied on for. -/
structure ReadsDocuments (env : ProviderEnvironment) : Prop where
  journal : ReadsBack env.toKeyEnvironment
  keyring : forall document : KeyringDocument, GraphicMembers document.members ->
    document.formatVersion < 256 -> env.readKeyring document.bytes = some document

section Creating

variable {env : ProviderEnvironment} {keyId : OpaqueId} {keyMaterial : Bytes}

/-!
## The journal
-/

theorem newHeader_ok :
    newHeader env.toKeyEnvironment keyId.text keyMaterial =
      .ok (headerOf env.toDigest keyId keyMaterial) := by
  unfold newHeader
  rw [canonicalHeaderBytes_ok, Except.ok_bind, authenticationBytes_ok taggable_headerMaterial]
  rfl

theorem headerLine_eq :
    (headerOf env.toDigest keyId keyMaterial).bytes ++ [newline] =
      journalBytes env.toDigest keyId keyMaterial [] :=
  journalBytes_nil.symm

theorem journaled_nil : Journaled [] :=
  { keys := List.nodup_nil
    size := Nat.zero_le _ }

theorem createOrRecoverEmpty_none (hreads : ReadsBack env.toKeyEnvironment) :
    createOrRecoverEmpty env.toKeyEnvironment keyId.text keyMaterial none =
      (.ok (), some (journalBytes env.toDigest keyId keyMaterial [])) := by
  rcases @load_journal env.toKeyEnvironment keyId keyMaterial [] hreads journaled_nil with
    ⟨state, hstate, _⟩
  unfold createOrRecoverEmpty
  simp only [newHeader_ok, headerLine_eq, hstate]
  rfl

/-- A journal of nothing but its header is taken over. -/
theorem createOrRecoverEmpty_header (hreads : ReadsBack env.toKeyEnvironment) :
    createOrRecoverEmpty env.toKeyEnvironment keyId.text keyMaterial
        (some (journalBytes env.toDigest keyId keyMaterial [])) =
      (.ok (), some (journalBytes env.toDigest keyId keyMaterial [])) := by
  rcases @load_journal env.toKeyEnvironment keyId keyMaterial [] hreads journaled_nil with
    ⟨state, hstate, hrep⟩
  have hepoch : state.epoch = 0 := hrep.epoch_eq
  unfold createOrRecoverEmpty
  simp only [hstate, hepoch, if_true]

theorem create_ok (hreads : ReadsBack env.toKeyEnvironment) {state : JournalState}
    {directory : Directory}
    (h : create env keyId.text keyMaterial { keyring := none, journal := none } =
      (.ok state, directory)) :
    Represents env.toDigest keyId keyMaterial [] state ∧
      directory.journal = some (journalBytes env.toDigest keyId keyMaterial []) := by
  rcases @load_journal env.toKeyEnvironment keyId keyMaterial [] hreads journaled_nil with
    ⟨found, hfound, hrep⟩
  unfold create at h
  split at h
  · rw [OpaqueId.parse_text] at h
    unfold createLocked at h
    simp only [createOrRecoverEmpty_none hreads] at h
    cases hpublished : publish env keyId.text keyMaterial none with
    | mk published keyring =>
        rw [hpublished] at h
        cases published with
        | error error =>
            cases h
        | ok done =>
            simp only [Option.getD_some, hfound] at h
            cases h
            exact And.intro hrep rfl
  · cases h

/-!
## The keyring
-/

def keyringMaterial (keyId : OpaqueId) : Bytes :=
  utf8 "graphhelm-keyring-v1" ++ framed (utf8 keyId.text)

def keyringOf (digest : Digest) (keyId : OpaqueId) (keyMaterial : Bytes) : KeyringDocument :=
  { formatVersion := 1
    keyId := keyId.text
    authenticationTag := hexEncode (tagOf digest keyMaterial "keyring-v1" (keyringMaterial keyId)) }

theorem canonicalKeyringBytes_ok :
    canonicalKeyringBytes keyId.text = .ok (keyringMaterial keyId) :=
  pushField_ok (frames_text keyId)

theorem taggable_keyringMaterial : Taggable "keyring-v1" (keyringMaterial keyId) := by
  refine ⟨by decide, ?_⟩
  have hkey := frames_opaqueId keyId
  have hlabel : (utf8 "graphhelm-keyring-v1").length = 20 := by decide
  unfold keyringMaterial
  rw [List.length_append, length_framed]
  omega

theorem graphicMembers_keyringOf {digest : Digest} :
    GraphicMembers (keyringOf digest keyId keyMaterial).members := by
  intro entry hentry
  unfold JournalHeader.members keyringOf at hentry
  simp only [List.mem_cons, List.not_mem_nil, or_false] at hentry
  rcases hentry with rfl | rfl | rfl
  · exact ⟨(by decide : Graphic "formatVersion".toList), trivial⟩
  · exact ⟨(by decide : Graphic "keyId".toList), graphic_opaqueId keyId⟩
  · exact ⟨(by decide : Graphic "authenticationTag".toList), graphic_hexEncode _⟩

theorem length_header_le {header : JournalHeader} (hmembers : GraphicMembers header.members)
    (hversion : header.formatVersion = 1) (hkey : (quoted header.keyId).length <= 258)
    (htag : (quoted header.authenticationTag).length <= 130) : header.bytes.length <= 437 := by
  unfold JournalHeader.bytes
  rw [utf8_of_graphic (graphic_flatText hmembers), List.length_map]
  unfold flatText
  rw [String.toList_ofList, List.length_cons, List.length_append]
  have hnames : (quoted "formatVersion").length = 15 ∧ (quoted "keyId").length = 7 ∧
      (quoted "authenticationTag").length = 19 ∧ (Nat.toDigits 10 1).length = 1 := by
    decide
  simp only [JournalHeader.members, membersChars, memberChars, Scalar.chars,
    List.length_append, List.length_cons, List.length_nil, hversion]
  omega

theorem newKeyring_ok :
    newKeyring env keyId.text keyMaterial =
      .ok ((keyringOf env.toDigest keyId keyMaterial).bytes ++ [newline]) := by
  have hlength : ((keyringOf env.toDigest keyId keyMaterial).bytes ++ [newline]).length <=
      maxKeyringBytes := by
    have hdocument := length_header_le (@graphicMembers_keyringOf keyId keyMaterial env.toDigest)
      rfl (length_quoted_opaqueId keyId) (length_quoted_hexEncode length_tagOf)
    rw [List.length_append, List.length_singleton]
    unfold maxKeyringBytes
    omega
  unfold newKeyring
  rw [canonicalKeyringBytes_ok, Except.ok_bind, authenticationBytes_ok taggable_keyringMaterial,
    Except.ok_bind]
  exact Except.bind_eq_ok.mpr ⟨(), check_eq_ok.mpr (decide_eq_true hlength), rfl⟩

theorem verifyFile_ok (hreads : ReadsDocuments env) :
    verifyFile env keyId.text keyMaterial
      ((keyringOf env.toDigest keyId keyMaterial).bytes ++ [newline]) = .ok () := by
  have hlength : ¬ maxKeyringBytes <
      ((keyringOf env.toDigest keyId keyMaterial).bytes ++ [newline]).length := by
    have hdocument := length_header_le (@graphicMembers_keyringOf keyId keyMaterial env.toDigest)
      rfl (length_quoted_opaqueId keyId) (length_quoted_hexEncode length_tagOf)
    rw [List.length_append, List.length_singleton]
    unfold maxKeyringBytes
    omega
  have hread := hreads.keyring (keyringOf env.toDigest keyId keyMaterial) graphicMembers_keyringOf
    (by change 1 < 256; decide)
  have hmatches : (keyringOf env.toDigest keyId keyMaterial).formatVersion = 1 ∧
      (keyringOf env.toDigest keyId keyMaterial).keyId = keyId.text :=
    And.intro rfl rfl
  unfold verifyFile readBounded
  rw [if_neg hlength, Except.ok_bind, Except.check_bind (decide_eq_true List.getLast?_concat),
    List.dropLast_concat, Except.orRefuse_bind hread, Except.check_bind (decide_eq_true hmatches)]
  refine Except.bind_eq_ok.mpr ⟨_, decodeTag_hexEncode length_tagOf, ?_⟩
  refine Except.bind_eq_ok.mpr ⟨_, canonicalKeyringBytes_ok, ?_⟩
  exact verify_tagOf taggable_keyringMaterial

theorem publish_ok (hreads : ReadsDocuments env) :
    exists keyring, publish env keyId.text keyMaterial none = (.ok (), some keyring) := by
  refine ⟨(keyringOf env.toDigest keyId keyMaterial).bytes ++ [newline], ?_⟩
  unfold publish
  simp only [newKeyring_ok, verifyFile_ok hreads]

theorem create_finishes (hreads : ReadsDocuments env) (hmaterial : keyMaterial.length = 32)
    {journal : Option Bytes}
    (hjournal : createOrRecoverEmpty env.toKeyEnvironment keyId.text keyMaterial journal =
      (.ok (), some (journalBytes env.toDigest keyId keyMaterial []))) :
    exists state directory, create env keyId.text keyMaterial { keyring := none, journal := journal } =
      (.ok state, directory) := by
  rcases @load_journal env.toKeyEnvironment keyId keyMaterial [] hreads.journal journaled_nil with
    ⟨state, hstate, _⟩
  rcases @publish_ok env keyId keyMaterial hreads with ⟨keyring, hpublished⟩
  unfold create
  rw [if_pos hmaterial, OpaqueId.parse_text]
  unfold createLocked
  simp only [hjournal, hpublished, Option.getD_some, hstate]
  exact ⟨state, _, rfl⟩

end Creating

end Keys
end GraphHelm
