import GraphHelm.Credentials.Broker

/-!
# Entries and their tags

What the tag on an entry fixes, and that an index that was written loads as the
entries it was written from.
-/

namespace GraphHelm
namespace Credentials

open Keys Std
open Externalize (EvidenceError)

/-!
## Tags
-/

structure Tagged {File : Type} (broker : Broker File) (entry : Entry) : Prop where
  size : entry.authenticationBytes.length <= maxAuthenticatedBytes
  keyId : entry.macKeyId = broker.keyId.text
  tag : entry.macTag =
    tagOf broker.env.toDigest broker.keyMaterial entryMacPurpose entry.authenticationBytes

section Tags

variable {File : Type} {broker : Broker File} {surroundings : Surroundings} {entry : Entry}

theorem validPurpose_entryMac : validPurpose entryMacPurpose = true := by
  decide

theorem taggable_of_size {bytes : Bytes} (h : bytes.length <= maxAuthenticatedBytes) :
    Taggable entryMacPurpose bytes := by
  constructor
  · decide
  · unfold maxAuthenticatedBytes at h
    omega

theorem authenticateRequest_eq_ok {bytes : Bytes} {request : AuthenticateRequest} :
    AuthenticateRequest.new entryMacPurpose bytes = .ok request <->
      bytes.length <= maxAuthenticatedBytes ∧
        request = { purpose := entryMacPurpose, bytes := bytes } := by
  unfold AuthenticateRequest.new
  rw [check_bind_eq_ok, validPurpose_entryMac, Bool.true_and, decide_eq_true_iff, Except.ok.injEq]
  exact and_congr_right fun _ => eq_comm

theorem computeEntryMac_eq_ok {id provider : String} {usableBy : List String} {revoked : Bool}
    {evidence : SealedEvidence} {mac : EntryMac} :
    computeEntryMac (broker.keys surroundings) id provider usableBy revoked evidence = .ok mac <->
      (exists state, surroundings.loaded = .ok state) ∧
        (entryAuthenticationBytes id provider usableBy revoked evidence).length <=
          maxAuthenticatedBytes ∧
        mac = { keyId := broker.keyId.text
                tag := tagOf broker.env.toDigest broker.keyMaterial entryMacPurpose
                  (entryAuthenticationBytes id provider usableBy revoked evidence) } := by
  unfold computeEntryMac Broker.keys sealedKeyProvider
  constructor
  · intro h
    rcases bind_ok h with ⟨request, hrequest, h⟩
    rcases authenticateRequest_eq_ok.mp (Except.mapError_eq_ok.mp hrequest) with ⟨hsize, heq⟩
    subst heq
    rcases bind_ok h with ⟨tag, htag, h⟩
    rcases bind_ok (Except.mapError_eq_ok.mp htag) with ⟨state, hstate, htag⟩
    rw [authenticationBytes_ok (taggable_of_size hsize), Except.ok_bind] at htag
    rcases check_ok htag with ⟨_, htag⟩
    rw [Except.orRefuse_bind (OpaqueId.parse_text broker.keyId)] at htag
    cases htag
    cases h
    exact ⟨⟨state, hstate⟩, hsize, rfl⟩
  · rintro ⟨⟨state, hstate⟩, hsize, rfl⟩
    refine Except.bind_eq_ok.mpr
      ⟨_, Except.mapError_eq_ok.mpr (authenticateRequest_eq_ok.mpr ⟨hsize, rfl⟩), ?_⟩
    dsimp only
    rw [hstate, Except.ok_bind, authenticationBytes_ok (taggable_of_size hsize), Except.ok_bind]
    unfold AuthenticationTag.new
    rw [Except.check_bind (decide_eq_true length_tagOf),
      Except.orRefuse_bind (OpaqueId.parse_text broker.keyId)]
    rfl

theorem verifyEntryMac_eq_ok :
    verifyEntryMac (broker.keys surroundings) entry = .ok () <->
      (exists state, surroundings.loaded = .ok state) ∧ Tagged broker entry := by
  unfold verifyEntryMac Broker.keys sealedKeyProvider
  constructor
  · intro h
    rcases bind_ok h with ⟨tag, htag, h⟩
    rcases bind_ok h with ⟨request, hrequest, h⟩
    rcases bind_ok (Except.mapError_eq_ok.mp hrequest) with ⟨given, hgiven, heq⟩
    cases heq
    rcases authenticateRequest_eq_ok.mp hgiven with ⟨hsize, heq⟩
    subst heq
    rcases check_ok (Except.mapError_eq_ok.mp htag) with ⟨_, htag⟩
    rcases bind_ok htag with ⟨keyId, hkeyId, heq⟩
    cases heq
    rcases bind_ok (Except.mapError_eq_ok.mp h) with ⟨state, hstate, h⟩
    rcases check_ok h with ⟨hsame, h⟩
    refine ⟨⟨state, hstate⟩, hsize, ?_, ?_⟩
    · rw [← OpaqueId.text_of_parse (orRefuse_eq_ok.mp hkeyId)]
      exact of_decide_eq_true hsame
    · exact (verifyAuthenticationBytes_eq_ok (taggable_of_size hsize)).mp h
  · rintro ⟨⟨state, hstate⟩, htagged⟩
    have hlength : entry.macTag.length = 32 := by
      rw [htagged.tag]
      exact length_tagOf
    have htag : AuthenticationTag.new entry.macKeyId entry.macTag =
        .ok { keyId := broker.keyId, bytes := entry.macTag } := by
      unfold AuthenticationTag.new
      rw [Except.check_bind (decide_eq_true hlength), htagged.keyId,
        Except.orRefuse_bind (OpaqueId.parse_text broker.keyId)]
    refine Except.bind_eq_ok.mpr ⟨_, Except.mapError_eq_ok.mpr htag, ?_⟩
    refine Except.bind_eq_ok.mpr ⟨_, Except.mapError_eq_ok.mpr (Except.bind_eq_ok.mpr
      ⟨_, authenticateRequest_eq_ok.mpr ⟨htagged.size, rfl⟩, rfl⟩), ?_⟩
    apply Except.mapError_eq_ok.mpr
    dsimp only
    rw [hstate, Except.ok_bind, Except.check_bind (decide_eq_true rfl)]
    exact (verifyAuthenticationBytes_eq_ok (taggable_of_size htagged.size)).mpr htagged.tag

end Tags

/-!
## What a tag fixes
-/

/-- The facts of two entries that decide access: the order of the routes is not one of them. -/
structure SameFacts (a b : Entry) : Prop where
  id : a.id = b.id
  provider : a.provider = b.provider
  usableBy : a.usableBy.Perm b.usableBy
  revoked : a.revoked = b.revoked
  contentSha256 : a.evidence.contentSha256 = b.evidence.contentSha256
  ciphertextSha256 : a.evidence.ciphertextSha256 = b.evidence.ciphertextSha256

section Facts

variable {a b entry : Entry}

theorem frames_of_size (h : entry.authenticationBytes.length <= maxAuthenticatedBytes) :
    Frames (utf8 entry.id) ∧ Frames (utf8 entry.provider) ∧
      forall route, route ∈ sortedRoutes entry.usableBy -> Frames (utf8 route) := by
  unfold Entry.authenticationBytes entryAuthenticationBytes maxAuthenticatedBytes at h
  simp only [List.length_append, length_framed] at h
  unfold Frames
  refine ⟨by omega, by omega, ?_⟩
  intro route hroute
  have hpart : (framed (utf8 route)).length <=
      ((sortedRoutes entry.usableBy).flatMap fun route => framed (utf8 route)).length := by
    rw [List.flatMap_def]
    apply List.Sublist.length_le
    apply List.sublist_flatten_of_mem
    exact List.mem_map.mpr ⟨route, hroute, rfl⟩
  rw [length_framed] at hpart
  omega

theorem perm_of_routes {first second : List String}
    (hfirst : forall route, route ∈ sortedRoutes first -> Frames (utf8 route))
    (hsecond : forall route, route ∈ sortedRoutes second -> Frames (utf8 route))
    (h : (sortedRoutes first).flatMap (fun route => framed (utf8 route)) =
      (sortedRoutes second).flatMap fun route => framed (utf8 route)) : first.Perm second := by
  have hframed : ((sortedRoutes first).map utf8).flatMap framed =
      ((sortedRoutes second).map utf8).flatMap framed := by
    rw [List.flatMap_map, List.flatMap_map]
    exact h
  have hparts := flatMap_framed_injective
    (fun part hpart => by
      rcases List.mem_map.mp hpart with ⟨route, hroute, rfl⟩
      exact hfirst route hroute)
    (fun part hpart => by
      rcases List.mem_map.mp hpart with ⟨route, hroute, rfl⟩
      exact hsecond route hroute) hframed
  have hsorted : sortedRoutes first = sortedRoutes second :=
    List.map_injective_iff.mpr (fun _ _ => utf8_injective) hparts
  exact (List.perm_insertionSort _ first).symm.trans
    ((List.Perm.of_eq hsorted).trans (List.perm_insertionSort _ second))

theorem flag_injective {first second : Bool}
    (h : [if first = true then (1 : UInt8) else 0] = [if second = true then 1 else 0]) :
    first = second := by
  revert h
  revert first second
  decide

theorem digest_of_framed {first second : RawSha256}
    (h : framed (utf8 first.text) = framed (utf8 second.text)) : first = second := by
  apply RawSha256.text_injective
  apply utf8_injective
  apply framed_injective ?_ ?_ h
  · unfold Frames
    rw [RawSha256.length_text]
    omega
  · unfold Frames
    rw [RawSha256.length_text]
    omega

theorem sameFacts_of_bytes (ha : a.authenticationBytes.length <= maxAuthenticatedBytes)
    (hb : b.authenticationBytes.length <= maxAuthenticatedBytes)
    (h : a.authenticationBytes = b.authenticationBytes) : SameFacts a b := by
  rcases frames_of_size ha with ⟨haId, haProvider, haRoutes⟩
  rcases frames_of_size hb with ⟨hbId, hbProvider, hbRoutes⟩
  unfold Entry.authenticationBytes entryAuthenticationBytes at h
  simp only [List.append_assoc] at h
  rcases framed_append haId hbId (List.append_cancel_left h) with ⟨hid, h⟩
  rcases framed_append haProvider hbProvider h with ⟨hprovider, h⟩
  -- Behind the routes comes as much for one entry as for the other.
  have hlengths : (framed (utf8 a.evidence.evidenceId.text)).length =
      (framed (utf8 b.evidence.evidenceId.text)).length := by
    rw [length_framed, length_framed]
    exact congrArg (4 + List.length ·) hid
  rcases List.append_inj' h (by
      simp only [List.length_append, List.length_singleton, hlengths, length_framed,
        RawSha256.length_text]) with ⟨hroutes, h⟩
  rcases List.append_inj h rfl with ⟨hflag, h⟩
  rcases List.append_inj h hlengths with ⟨_, h⟩
  rcases List.append_inj h (by
    simp only [length_framed, RawSha256.length_text]) with ⟨hcontent, hciphertext⟩
  constructor
  · exact utf8_injective hid
  · exact utf8_injective hprovider
  · exact perm_of_routes haRoutes hbRoutes hroutes
  · exact flag_injective hflag
  · exact digest_of_framed hcontent
  · exact digest_of_framed hciphertext

end Facts

/-!
## An index is read back
-/

section Index

variable {File : Type} {broker : Broker File} {surroundings : Surroundings} {entry : Entry}
  {raw : PersistedEntry}

theorem parseExecutionId_text (executionId : Option OpaqueId) :
    parseExecutionId (executionId.map OpaqueId.text) = some executionId := by
  cases executionId with
  | none => rfl
  | some executionId =>
      show (OpaqueId.parse executionId.text).map some = _
      rw [OpaqueId.parse_text]
      rfl

theorem wrappedKeyOf_text {wrapped : WrappedKey} (h : KeyWellFormed wrapped) :
    wrappedKeyOf
        { keyId := wrapped.keyId.text
          handle := wrapped.handle.text
          algorithm := evidenceAlgorithm
          nonce := hexEncode wrapped.nonce
          ciphertext := hexEncode wrapped.ciphertext
          aadSha256 := wrapped.aadSha256 } = .ok wrapped := by
  have hdigest : RawSha256.parse wrapped.aadSha256 =
      some { text := wrapped.aadSha256, valid := h.aadSha256 } := dif_pos h.aadSha256
  unfold wrappedKeyOf
  rw [Except.orRefuse_bind (hexDecode_hexEncode _), Except.orRefuse_bind (hexDecode_hexEncode _),
    Except.orRefuse_bind hdigest, Except.check_bind (decide_eq_true rfl)]
  unfold WrappedKey.new
  rw [Except.check_bind (decide_eq_true ⟨h.nonce, h.ciphertext⟩),
    Except.orRefuse_bind (OpaqueId.parse_text _), Except.orRefuse_bind (OpaqueId.parse_text _)]
  rfl

theorem evidenceOf_toPersisted (h : KeyWellFormed entry.evidence.wrappedKey) :
    evidenceOf entry.toPersisted.evidence = .ok entry.evidence := by
  have hscope : scopeOf entry.toPersisted.evidence = .ok entry.evidence.scope := by
    unfold scopeOf Entry.toPersisted
    dsimp only
    rw [Except.orRefuse_bind (OpaqueId.parse_text _), Except.orRefuse_bind (OpaqueId.parse_text _),
      Except.orRefuse_bind (parseExecutionId_text _)]
  unfold evidenceOf
  rw [hscope]
  unfold Entry.toPersisted
  dsimp only
  rw [Except.orRefuse_bind (OpaqueId.parse_text _), Except.orRefuse_bind (RawSha256.parse_text _),
    Except.orRefuse_bind (RawSha256.parse_text _), Except.ok_bind,
    Except.orRefuse_bind (hexDecode_hexEncode _), Except.orRefuse_bind (hexDecode_hexEncode _),
    wrappedKeyOf_text h, Except.ok_bind]
  unfold SealedEvidence.new
  rw [dif_pos ⟨rfl, entry.evidence.nonceSize, entry.evidence.ciphertextSize⟩,
    Except.orRefuse_bind (MediaType.parse_text _),
    Except.orRefuse_bind (RetentionClass.parse_text _)]
  rfl

theorem fromPersisted_toPersisted (h : KeyWellFormed entry.evidence.wrappedKey) :
    Entry.fromPersisted entry.toPersisted = .ok entry := by
  unfold Entry.fromPersisted
  rw [evidenceOf_toPersisted h]
  unfold Entry.toPersisted
  have hid : decide (entry.id = entry.evidence.evidenceId.text) = true := decide_eq_true rfl
  dsimp only
  rw [Except.check_bind hid, Except.ok_bind, Except.orRefuse_bind (hexDecode_hexEncode _)]

/-- An entry that a store or a revocation of the broker left. -/
structure Kept (broker : Broker File) (entry : Entry) : Prop where
  tagged : Tagged broker entry
  wellFormed : KeyWellFormed entry.evidence.wrappedKey

structure Indexed (broker : Broker File) (entries : Entries) : Prop where
  named : forall (id : String) (entry : Entry), entries[id]? = some entry -> entry.id = id
  kept : forall (id : String) (entry : Entry), entries[id]? = some entry -> Kept broker entry

theorem Indexed.insert {entries : Entries} (h : Indexed broker entries) (hkept : Kept broker entry) :
    Indexed broker (entries.insert entry.id entry) := by
  constructor
  · intro id found hfound
    by_cases heq : entry.id = id
    · subst heq
      rw [ExtTreeMap.getElem?_insert_self] at hfound
      cases hfound
      rfl
    · rw [OrderedMap.getElem?_insert_of_ne heq] at hfound
      exact h.named id found hfound
  · intro id found hfound
    by_cases heq : entry.id = id
    · subst heq
      rw [ExtTreeMap.getElem?_insert_self] at hfound
      cases hfound
      exact hkept
    · rw [OrderedMap.getElem?_insert_of_ne heq] at hfound
      exact h.kept id found hfound

theorem loadEntry_toPersisted (hloaded : exists state, surroundings.loaded = .ok state)
    (h : Kept broker entry) :
    loadEntry (broker.keys surroundings) entry.toPersisted = .ok entry := by
  refine Except.bind_eq_ok.mpr ⟨entry, fromPersisted_toPersisted h.wellFormed, ?_⟩
  exact Except.bind_eq_ok.mpr ⟨(), verifyEntryMac_eq_ok.mpr ⟨hloaded, h.tagged⟩, rfl⟩

theorem load_serializeStore {entries : Entries} (h : Indexed broker entries)
    (hloaded : exists state, surroundings.loaded = .ok state) :
    broker.load surroundings (serializeStore broker.format entries) = .ok entries := by
  have hentries : (entries.toList.map fun binding => binding.2.toPersisted).mapM
      (loadEntry (broker.keys surroundings)) = .ok (entries.toList.map Prod.snd) := by
    apply Except.mapM_eq_ok.mpr
    rw [List.forall₂_map_left_iff, List.forall₂_map_right_iff, List.forall₂_same]
    intro binding hbinding
    apply loadEntry_toPersisted hloaded
    exact h.kept _ _ (ExtTreeMap.mem_toList_iff_getElem?_eq_some.mp hbinding)
  unfold Broker.load load serializeStore
  rw [Except.orRefuse_bind (broker.format.read_write _)]
  dsimp only
  rw [hentries, Except.ok_bind, OrderedMap.foldl_insert_toList h.named]

theorem load_eq_ok {index : File} {entries : Entries}
    (h : broker.load surroundings index = .ok entries) :
    exists store, broker.format.read index = some store ∧
      exists listed, List.Forall₂
          (fun raw entry => loadEntry (broker.keys surroundings) raw = .ok entry)
          store.entries listed ∧
        forall id, entries[id]? = listed.reverse.find? fun entry => decide (entry.id = id) := by
  rcases bind_ok h with ⟨store, hstore, h⟩
  rcases bind_ok h with ⟨listed, hlisted, h⟩
  refine ⟨store, orRefuse_eq_ok.mp hstore, listed, Except.mapM_eq_ok.mp hlisted, ?_⟩
  intro id
  rw [← Except.ok.inj h, OrderedMap.getElem?_foldl_insert, ExtTreeMap.getElem?_empty,
    Option.or_none]

theorem loadEntry_eq_ok (h : loadEntry (broker.keys surroundings) raw = .ok entry) :
    Entry.fromPersisted raw = .ok entry ∧ Tagged broker entry := by
  rcases bind_ok h with ⟨found, hfound, h⟩
  rcases bind_ok h with ⟨_, hverified, h⟩
  cases h
  exact And.intro hfound (verifyEntryMac_eq_ok.mp hverified).right

theorem evidenceId_of_evidenceOf {raw : PersistedEvidence} {evidence : SealedEvidence}
    (h : evidenceOf raw = .ok evidence) : evidence.evidenceId.text = raw.evidenceId := by
  rcases bind_ok h with ⟨evidenceId, hparsed, h⟩
  rcases bind_ok h with ⟨contentSha256, _, h⟩
  rcases bind_ok h with ⟨ciphertextSha256, _, h⟩
  rcases bind_ok h with ⟨scope, _, h⟩
  rcases bind_ok h with ⟨nonce, _, h⟩
  rcases bind_ok h with ⟨ciphertext, _, h⟩
  rcases bind_ok h with ⟨wrappedKey, _, h⟩
  have hnew := Except.mapError_eq_ok.mp h
  unfold SealedEvidence.new at hnew
  split at hnew
  · rcases bind_ok hnew with ⟨mediaType, _, hnew⟩
    rcases bind_ok hnew with ⟨retentionClass, _, hnew⟩
    cases hnew
    exact OpaqueId.text_of_parse (orRefuse_eq_ok.mp hparsed)
  · cases hnew

theorem fromPersisted_eq_ok (h : Entry.fromPersisted raw = .ok entry) :
    entry.id = raw.id ∧ hexDecode raw.entryMac.tag = some entry.macTag := by
  rcases check_ok h with ⟨hid, h⟩
  rcases bind_ok h with ⟨evidence, hevidence, h⟩
  rcases bind_ok h with ⟨tag, htag, h⟩
  cases h
  refine And.intro ?_ (orRefuse_eq_ok.mp htag)
  rw [of_decide_eq_true hid]
  exact evidenceId_of_evidenceOf hevidence

end Index

end Credentials
end GraphHelm
