import GraphHelm.Keys.Chain
import Mathlib.Data.List.Nodup

/-!
# Loading and appending

The journal of revocations is loaded as the state that tells them, and a revocation
is appended to it as one more of them.
-/

namespace GraphHelm
namespace Keys

open Std

section Loading

variable {env : KeyEnvironment} {keyId : OpaqueId} {keyMaterial previous : Bytes}
  {requests : List RevokeKeyRequest} {request : RevokeKeyRequest} {epoch : Nat}

/-!
## What the checks of a load find
-/

theorem decodeTag_hexEncode {tag : Bytes} (h : tag.length = 32) :
    decodeTag (hexEncode tag) = .ok tag := by
  unfold decodeTag
  rw [Except.orRefuse_bind (hexDecode_hexEncode tag), Except.check_bind (decide_eq_true h)]

theorem frames_text (id : OpaqueId) : (utf8 id.text).length < 256 ^ 4 :=
  Nat.lt_of_le_of_lt (frames_opaqueId id) (by decide)

theorem length_framed (bytes : Bytes) : (framed bytes).length = 4 + bytes.length := by
  unfold framed
  rw [List.length_append, bigEndian_length]

theorem canonicalHeaderBytes_ok :
    canonicalHeaderBytes keyId.text = .ok (headerMaterial keyId) :=
  pushField_ok (frames_text keyId)

theorem canonicalReceiptBytes_ok :
    canonicalReceiptBytes request.handle.text request.idempotencyKey.text epoch =
      .ok (receiptMaterial epoch request) := by
  unfold canonicalReceiptBytes
  rw [pushField_ok (frames_text request.handle), Except.ok_bind,
    pushField_ok (frames_text request.idempotencyKey)]
  rfl

theorem canonicalRecordBytes_ok {receipt : Bytes} (hprevious : previous.length = 32)
    (hreceipt : receipt.length = 32) :
    canonicalRecordBytes epoch request.handle.text request.idempotencyKey.text previous receipt =
      .ok (utf8 "graphhelm-revocation-journal-record-v1" ++ bigEndian 8 epoch ++
        framed (utf8 request.handle.text) ++ framed (utf8 request.idempotencyKey.text) ++
        framed previous ++ framed receipt) := by
  unfold canonicalRecordBytes
  simp only
  rw [pushField_ok (frames_text request.handle), Except.ok_bind,
    pushField_ok (frames_text request.idempotencyKey), Except.ok_bind,
    pushField_ok (by rw [hprevious]; decide), Except.ok_bind,
    pushField_ok (by rw [hreceipt]; decide)]

theorem taggable_headerMaterial : Taggable "revocation-journal-header" (headerMaterial keyId) := by
  refine ⟨by decide, ?_⟩
  have hkey := frames_opaqueId keyId
  have hlabel : (utf8 "graphhelm-revocation-journal-header-v1").length = 38 := by decide
  unfold headerMaterial
  rw [List.length_append, length_framed]
  omega

theorem taggable_receiptMaterial :
    Taggable "revocation-receipt" (receiptMaterial epoch request) := by
  refine ⟨by decide, ?_⟩
  have hhandle := frames_opaqueId request.handle
  have hkey := frames_opaqueId request.idempotencyKey
  have hlabel : (utf8 "graphhelm-revocation-receipt-v1").length = 31 := by decide
  unfold receiptMaterial
  rw [List.length_append, List.length_append, List.length_append, length_framed, length_framed,
    bigEndian_length]
  omega

theorem taggable_recordMaterial {digest : Digest} (hprevious : previous.length = 32) :
    Taggable "revocation-journal-record"
      (recordMaterial digest keyMaterial epoch previous request) := by
  refine ⟨by decide, ?_⟩
  have hhandle := frames_opaqueId request.handle
  have hkey := frames_opaqueId request.idempotencyKey
  have hlabel : (utf8 "graphhelm-revocation-journal-record-v1").length = 38 := by decide
  have hreceipt : (receiptTag digest keyMaterial epoch request).length = 32 := length_tagOf
  unfold recordMaterial
  simp only [List.length_append, length_framed, bigEndian_length]
  omega

theorem verify_tagOf {purpose : String} {bytes : Bytes} (h : Taggable purpose bytes) :
    verifyAuthenticationBytes env.toDigest keyMaterial purpose bytes
      (tagOf env.toDigest keyMaterial purpose bytes) = .ok () :=
  (verifyAuthenticationBytes_eq_ok h).mpr rfl

/-!
## The header
-/

theorem loadHeader_ok (hreads : ReadsBack env) :
    loadHeader env keyId.text keyMaterial (headerOf env.toDigest keyId keyMaterial).bytes =
      .ok (headerTag env.toDigest keyId keyMaterial) := by
  unfold loadHeader
  have hread := hreads.header (headerOf env.toDigest keyId keyMaterial) graphicMembers_headerOf
    (by change 1 < 256; decide)
  have hmatches : (headerOf env.toDigest keyId keyMaterial).formatVersion = 1 ∧
      (headerOf env.toDigest keyId keyMaterial).keyId = keyId.text :=
    And.intro rfl rfl
  have htag : decodeTag (headerOf env.toDigest keyId keyMaterial).authenticationTag =
      .ok (headerTag env.toDigest keyId keyMaterial) :=
    decodeTag_hexEncode length_tagOf
  have hverified : verifyAuthenticationBytes env.toDigest keyMaterial "revocation-journal-header"
      (headerMaterial keyId) (headerTag env.toDigest keyId keyMaterial) = .ok () :=
    verify_tagOf taggable_headerMaterial
  rw [Except.orRefuse_bind hread, Except.check_bind (decide_eq_true hmatches), htag, Except.ok_bind,
    canonicalHeaderBytes_ok, Except.ok_bind, hverified]
  rfl

/-!
## The records
-/

/-- What the loop has gathered of the revocations it has passed. -/
structure Gathered (digest : Digest) (keyId : OpaqueId) (keyMaterial : Bytes)
    (requests : List RevokeKeyRequest) (loading : Keys.Loading) : Prop where
  records : loading.records = recordsOf digest keyId keyMaterial requests
  idempotency : forall key, loading.idempotency[key]? =
    requests.findIdx? fun request => decide (request.idempotencyKey.text = key)
  revokedHandles : forall handle, loading.revokedHandles.contains handle =
    requests.any fun request => decide (request.handle.text = handle)
  previousTag : loading.previousTag = headOf digest keyId keyMaterial requests

theorem Journaled.of_concat (h : Journaled (requests ++ [request])) :
    Journaled requests ∧ requests.length < maxRecords ∧
      request.idempotencyKey ∉ requests.map RevokeKeyRequest.idempotencyKey := by
  have hkeys := h.keys
  have hsize := h.size
  rw [List.map_append, List.nodup_append] at hkeys
  rw [List.length_append, List.length_singleton] at hsize
  rcases hkeys with ⟨hkeys, _, hdisjoint⟩
  refine ⟨⟨hkeys, by omega⟩, by omega, ?_⟩
  intro hmem
  exact hdisjoint _ hmem _ (List.mem_singleton_self _) rfl

theorem Journaled.concat (h : Journaled requests) (hsize : requests.length < maxRecords)
    (hkey : request.idempotencyKey ∉ requests.map RevokeKeyRequest.idempotencyKey) :
    Journaled (requests ++ [request]) := by
  constructor
  · rw [List.map_append, List.nodup_append]
    refine ⟨h.keys, List.nodup_singleton _, ?_⟩
    intro key hmem other hother heq
    rw [List.map_singleton, List.mem_singleton] at hother
    exact hkey (hother ▸ heq ▸ hmem)
  · rw [List.length_append, List.length_singleton]
    omega

theorem findIdx?_eq_none_of_not_mem
    (h : request.idempotencyKey ∉ requests.map RevokeKeyRequest.idempotencyKey) :
    requests.findIdx? (fun other =>
      decide (other.idempotencyKey.text = request.idempotencyKey.text)) = none := by
  apply List.findIdx?_eq_none_iff.mpr
  intro other hother
  apply decide_eq_false
  intro heq
  exact h (List.mem_map.mpr ⟨other, hother, OpaqueId.text_injective heq⟩)

theorem Gathered.concat {loading : Keys.Loading}
    (h : Gathered env.toDigest keyId keyMaterial requests loading)
    (hkey : request.idempotencyKey ∉ requests.map RevokeKeyRequest.idempotencyKey) :
    Gathered env.toDigest keyId keyMaterial (requests ++ [request])
      { records := loading.records ++ [addedRecord env.toDigest keyId keyMaterial requests request]
        idempotency :=
          loading.idempotency.insert request.idempotencyKey.text loading.records.length
        revokedHandles := loading.revokedHandles.insert request.handle.text
        previousTag := recordTag env.toDigest keyMaterial (requests.length + 1)
          (headOf env.toDigest keyId keyMaterial requests) request } := by
  constructor
  · rw [recordsOf_concat, h.records]
  · intro key
    rw [TreeMap.getElem?_insert, List.findIdx?_append, h.idempotency key, h.records,
      length_recordsOf]
    by_cases heq : request.idempotencyKey.text = key
    · subst heq
      rw [findIdx?_eq_none_of_not_mem hkey]
      simp
    · have hne : compare request.idempotencyKey.text key ≠ .eq := by
        intro hcompare
        exact heq (LawfulEqCmp.eq_of_compare hcompare)
      rw [if_neg hne]
      simp [heq]
  · intro handle
    rw [TreeSet.contains_insert, List.any_append, h.revokedHandles handle]
    by_cases heq : request.handle.text = handle
    · simp [heq]
    · simp [heq]
  · rw [headOf_concat]

theorem loadRecord_ok (hreads : ReadsBack env) {loading : Keys.Loading}
    (h : Gathered env.toDigest keyId keyMaterial requests loading)
    (hsize : requests.length < maxRecords)
    (hkey : request.idempotencyKey ∉ requests.map RevokeKeyRequest.idempotencyKey) :
    exists after, loadRecord env keyMaterial loading
        (addedRecord env.toDigest keyId keyMaterial requests request).bytes = .ok after ∧
      Gathered env.toDigest keyId keyMaterial (requests ++ [request]) after := by
  refine ⟨_, ?_, h.concat hkey⟩
  have hlength : loading.records.length = requests.length := by
    rw [h.records, length_recordsOf]
  have hhead : (headOf env.toDigest keyId keyMaterial requests).length = 32 := length_headOf
  have hread := hreads.record (addedRecord env.toDigest keyId keyMaterial requests request)
    graphicMembers_chained (by
      change requests.length + 1 < 2 ^ 64
      unfold maxRecords at hsize
      omega)
  have hfresh : (!loading.idempotency.contains request.idempotencyKey.text) = true := by
    rw [TreeMap.contains_eq_isSome_getElem?, h.idempotency, findIdx?_eq_none_of_not_mem hkey]
    rfl
  have hreceiptVerified : verifyAuthenticationBytes env.toDigest keyMaterial "revocation-receipt"
      (receiptMaterial (requests.length + 1) request)
      (receiptTag env.toDigest keyMaterial (requests.length + 1) request) = .ok () :=
    verify_tagOf taggable_receiptMaterial
  have hrecordVerified : verifyAuthenticationBytes env.toDigest keyMaterial
      "revocation-journal-record"
      (recordMaterial env.toDigest keyMaterial (requests.length + 1)
        (headOf env.toDigest keyId keyMaterial requests) request)
      (recordTag env.toDigest keyMaterial (requests.length + 1)
        (headOf env.toDigest keyId keyMaterial requests) request) = .ok () :=
    verify_tagOf (taggable_recordMaterial hhead)
  unfold loadRecord
  rw [Except.check_bind (decide_eq_true (hlength.symm ▸ hsize)), Except.orRefuse_bind hread]
  -- The fields of the record are read off its definition, one check after the other.
  refine Except.bind_eq_ok.mpr ⟨(), check_eq_ok.mpr (decide_eq_true ?_), ?_⟩
  · exact congrArg (fun length => length + 1) hlength.symm
  refine Except.bind_eq_ok.mpr ⟨(), check_eq_ok.mpr request.handle.valid, ?_⟩
  refine Except.bind_eq_ok.mpr ⟨(), check_eq_ok.mpr request.idempotencyKey.valid, ?_⟩
  refine Except.bind_eq_ok.mpr ⟨(), check_eq_ok.mpr hfresh, ?_⟩
  refine Except.bind_eq_ok.mpr ⟨_, decodeTag_hexEncode hhead, ?_⟩
  refine Except.bind_eq_ok.mpr ⟨(), check_eq_ok.mpr (decide_eq_true h.previousTag.symm), ?_⟩
  refine Except.bind_eq_ok.mpr ⟨_, decodeTag_hexEncode length_tagOf, ?_⟩
  refine Except.bind_eq_ok.mpr ⟨_, canonicalReceiptBytes_ok, ?_⟩
  refine Except.bind_eq_ok.mpr ⟨(), hreceiptVerified, ?_⟩
  refine Except.bind_eq_ok.mpr ⟨_, decodeTag_hexEncode length_tagOf, ?_⟩
  rw [h.previousTag]
  refine Except.bind_eq_ok.mpr ⟨_, canonicalRecordBytes_ok hhead length_tagOf, ?_⟩
  exact Except.bind_eq_ok.mpr ⟨(), hrecordVerified, rfl⟩

theorem gathered_nil :
    Gathered env.toDigest keyId keyMaterial []
      { records := [], idempotency := ∅, revokedHandles := ∅
        previousTag := headerTag env.toDigest keyId keyMaterial } := by
  constructor
  · rfl
  · intro key
    exact TreeMap.getElem?_emptyc
  · intro handle
    exact TreeSet.contains_emptyc
  · rfl

theorem loadRecords_ok (hreads : ReadsBack env) (h : Journaled requests) :
    exists loading,
      ((recordsOf env.toDigest keyId keyMaterial requests).map JournalRecord.bytes).foldlM
          (loadRecord env keyMaterial)
          { records := [], idempotency := ∅, revokedHandles := ∅
            previousTag := headerTag env.toDigest keyId keyMaterial } = .ok loading ∧
        Gathered env.toDigest keyId keyMaterial requests loading := by
  induction requests using List.reverseRecOn with
  | nil =>
      exact ⟨_, rfl, gathered_nil⟩
  | append_singleton earlier last ih =>
      rcases h.of_concat with ⟨hearlier, hsize, hkey⟩
      rcases ih hearlier with ⟨loading, hloading, hgathered⟩
      rcases loadRecord_ok hreads hgathered hsize hkey with ⟨after, hafter, hnext⟩
      refine ⟨after, ?_, hnext⟩
      rw [recordsOf_concat, List.map_append, List.foldlM_append, hloading, Except.ok_bind]
      change (loadRecord env keyMaterial loading _ >>= fun after => .ok after) = _
      rw [hafter]
      rfl

theorem isEmpty_append_cons {byte : UInt8} {first rest : Bytes} :
    (!(first ++ byte :: rest).isEmpty) = true := by
  cases first with
  | nil =>
      rfl
  | cons head tail =>
      rfl

theorem loadCommitted_journal (hreads : ReadsBack env) (h : Journaled requests) :
    exists state, loadCommitted env keyId.text keyMaterial
        (journalBytes env.toDigest keyId keyMaterial requests) = .ok state ∧
      Represents env.toDigest keyId keyMaterial requests state := by
  rcases @loadRecords_ok env keyId keyMaterial requests hreads h with ⟨loading, hloading, hgathered⟩
  have hne : (!(journalBytes env.toDigest keyId keyMaterial requests).isEmpty) = true := by
    unfold journalBytes journalLines
    rw [unlines_cons]
    exact isEmpty_append_cons
  unfold loadCommitted
  rw [Except.check_bind hne, Except.check_bind validUtf8_journalBytes, textLines_journalBytes]
  unfold journalLines
  simp only
  rw [loadHeader_ok hreads, Except.ok_bind, hloading]
  refine ⟨_, rfl, ?_⟩
  constructor
  · rfl
  · exact hgathered.records
  · exact hgathered.idempotency
  · exact hgathered.revokedHandles
  · simp only

theorem load_journal (hreads : ReadsBack env) (h : Journaled requests) :
    exists state, load env keyId.text keyMaterial
        (journalBytes env.toDigest keyId keyMaterial requests) =
          (.ok state, journalBytes env.toDigest keyId keyMaterial requests) ∧
      Represents env.toDigest keyId keyMaterial requests state := by
  rcases @loadCommitted_journal env keyId keyMaterial requests hreads h with ⟨state, hstate, hrep⟩
  refine ⟨state, ?_, hrep⟩
  have hbounded : readBounded (journalBytes env.toDigest keyId keyMaterial requests)
      maxJournalBytes = .ok (journalBytes env.toDigest keyId keyMaterial requests) := by
    unfold readBounded
    rw [if_neg (Nat.not_lt.mpr (journalBytes_readable h.size))]
  unfold load
  rw [hbounded]
  unfold recoverTail
  simp only
  rw [if_pos isWhole_journalBytes]
  simp only
  rw [hstate]

end Loading

/-!
## Appending
-/

section Appending

variable {env : KeyEnvironment} {keyId : OpaqueId} {keyMaterial : Bytes}
  {requests : List RevokeKeyRequest} {request : RevokeKeyRequest} {state : JournalState}

def receiptOf (digest : Digest) (keyId : OpaqueId) (keyMaterial : Bytes) (index : Nat)
    (request : RevokeKeyRequest) : RevocationReceipt :=
  { handle := request.handle
    idempotencyKey := request.idempotencyKey
    epoch := index + 1
    authenticationTag :=
      { keyId := keyId, bytes := receiptTag digest keyMaterial (index + 1) request } }

theorem receiptFromRecord_ok {digest : Digest} {index : Nat} {previous : Bytes}
    (hindex : index < maxRecords) :
    receiptFromRecord keyId.text (chained digest keyMaterial (index + 1) previous request) =
      .ok (receiptOf digest keyId keyMaterial index request) := by
  unfold maxRecords at hindex
  unfold receiptFromRecord
  have htag : AuthenticationTag.new keyId.text (receiptTag digest keyMaterial (index + 1) request) =
      .ok { keyId := keyId, bytes := receiptTag digest keyMaterial (index + 1) request } := by
    have hlength : (receiptTag digest keyMaterial (index + 1) request).length = 32 := length_tagOf
    unfold AuthenticationTag.new
    rw [Except.check_bind (decide_eq_true hlength),
      Except.orRefuse_bind (OpaqueId.parse_text keyId)]
  have hepoch : 0 < index + 1 ∧ index + 1 <= maxWireSafeInteger := by
    unfold maxWireSafeInteger
    omega
  refine Except.bind_eq_ok.mpr ⟨_, decodeTag_hexEncode length_tagOf, ?_⟩
  refine Except.bind_eq_ok.mpr ⟨_, htag, ?_⟩
  refine Except.bind_eq_ok.mpr ⟨(), check_eq_ok.mpr (decide_eq_true hepoch), ?_⟩
  refine Except.bind_eq_ok.mpr ⟨_, orRefuse_eq_ok.mpr (OpaqueId.parse_text request.handle), ?_⟩
  exact Except.bind_eq_ok.mpr
    ⟨_, orRefuse_eq_ok.mpr (OpaqueId.parse_text request.idempotencyKey), rfl⟩

theorem Represents.getElem?_records
    (h : Represents env.toDigest keyId keyMaterial requests state) {index : Nat} :
    state.records[index]? = requests[index]?.map
      (addedRecord env.toDigest keyId keyMaterial (requests.take index)) := by
  rw [h.records, getElem?_recordsOf]

theorem Represents.epoch_eq (h : Represents env.toDigest keyId keyMaterial requests state) :
    state.epoch = requests.length := by
  unfold JournalState.epoch
  rw [h.records]
  rcases List.eq_nil_or_concat requests with hnil | ⟨earlier, last, hconcat⟩
  · rw [hnil]
    rfl
  · rw [hconcat, List.concat_eq_append, recordsOf_concat, List.getLast?_concat, List.length_append]
    rfl

theorem Represents.headTag_eq (h : Represents env.toDigest keyId keyMaterial requests state) :
    headTag state = .ok (headOf env.toDigest keyId keyMaterial requests) := by
  unfold headTag
  rw [h.records]
  rcases List.eq_nil_or_concat requests with hnil | ⟨earlier, last, hconcat⟩
  · rw [hnil]
    exact congrArg Except.ok h.headerTag
  · rw [hconcat, List.concat_eq_append, recordsOf_concat, List.getLast?_concat, headOf_concat]
    exact decodeTag_hexEncode length_tagOf

theorem newLine_ok (h : Represents env.toDigest keyId keyMaterial requests state)
    (hsize : requests.length < maxRecords) :
    newLine env keyMaterial state request =
      .ok (addedRecord env.toDigest keyId keyMaterial requests request,
        addedLine env.toDigest keyId keyMaterial requests request) := by
  have hhead : (headOf env.toDigest keyId keyMaterial requests).length = 32 := length_headOf
  have hlength : state.records.length < maxRecords := by
    rw [h.records, length_recordsOf]
    exact hsize
  have hepoch : state.epoch + 1 < 2 ^ 64 := by
    rw [h.epoch_eq]
    unfold maxRecords at hsize
    omega
  have hrecord : newRecord env keyMaterial state request =
      .ok (addedRecord env.toDigest keyId keyMaterial requests request) := by
    unfold newRecord
    refine Except.bind_eq_ok.mpr ⟨(), check_eq_ok.mpr (decide_eq_true hlength), ?_⟩
    refine Except.bind_eq_ok.mpr ⟨(), check_eq_ok.mpr (decide_eq_true hepoch), ?_⟩
    refine Except.bind_eq_ok.mpr ⟨_, h.headTag_eq, ?_⟩
    rw [h.epoch_eq]
    refine Except.bind_eq_ok.mpr ⟨_, canonicalReceiptBytes_ok, ?_⟩
    refine Except.bind_eq_ok.mpr ⟨_, authenticationBytes_ok taggable_receiptMaterial, ?_⟩
    refine Except.bind_eq_ok.mpr ⟨_, canonicalRecordBytes_ok hhead length_tagOf, ?_⟩
    exact Except.bind_eq_ok.mpr
      ⟨_, authenticationBytes_ok (taggable_recordMaterial hhead), rfl⟩
  have hline : (addedLine env.toDigest keyId keyMaterial requests request).length <=
      maxLineBytes := by
    have hadded := @length_addedLine env.toDigest keyId keyMaterial requests request hsize
    unfold maxLineBytes
    omega
  unfold newLine
  rw [hrecord, Except.ok_bind]
  simp only
  rw [← addedLine_eq]
  exact Except.check_bind (decide_eq_true hline)

theorem appendRevocation_known (h : Represents env.toDigest keyId keyMaterial requests state)
    (hsize : requests.length <= maxRecords) {index : Nat} {known : RevokeKeyRequest} {file : Bytes}
    (hfound : requests.findIdx? (fun other =>
      decide (other.idempotencyKey.text = request.idempotencyKey.text)) = some index)
    (hknown : requests[index]? = some known) :
    appendRevocation env keyId.text keyMaterial state request file =
      (if known.handle = request.handle then
        .ok (receiptOf env.toDigest keyId keyMaterial index known) else .error .conflict, file) := by
  have hindex : index < maxRecords := by
    have hlt := (List.getElem?_eq_some_iff.mp hknown).1
    omega
  have htake : (requests.take index).length = index := by
    have hlt := (List.getElem?_eq_some_iff.mp hknown).1
    rw [List.length_take]
    omega
  unfold appendRevocation
  rw [h.idempotency, hfound]
  simp only
  rw [h.getElem?_records, hknown]
  simp only [Option.map_some]
  by_cases hhandle : known.handle = request.handle
  · have hreceipt := @receiptFromRecord_ok keyId keyMaterial known env.toDigest index
      (headOf env.toDigest keyId keyMaterial (requests.take index)) hindex
    have htext : (addedRecord env.toDigest keyId keyMaterial (requests.take index) known).handle =
        request.handle.text :=
      congrArg OpaqueId.text hhandle
    rw [if_pos htext, if_pos hhandle]
    unfold addedRecord
    rw [htake, hreceipt]
  · have htext : (addedRecord env.toDigest keyId keyMaterial (requests.take index) known).handle ≠
        request.handle.text :=
      fun heq => hhandle (OpaqueId.text_injective heq)
    rw [if_neg htext, if_neg hhandle]

theorem appendRevocation_full (h : Represents env.toDigest keyId keyMaterial requests state)
    (hkey : request.idempotencyKey ∉ requests.map RevokeKeyRequest.idempotencyKey)
    (hsize : maxRecords <= requests.length) {file : Bytes} :
    appendRevocation env keyId.text keyMaterial state request file = (.error .invalid, file) := by
  have hlength : decide (state.records.length < maxRecords) = false := by
    rw [h.records, length_recordsOf]
    exact decide_eq_false (Nat.not_lt.mpr hsize)
  unfold appendRevocation newLine newRecord
  rw [h.idempotency, findIdx?_eq_none_of_not_mem hkey, hlength]
  rfl

theorem appendRevocation_new (h : Represents env.toDigest keyId keyMaterial requests state)
    (hkey : request.idempotencyKey ∉ requests.map RevokeKeyRequest.idempotencyKey)
    (hsize : requests.length < maxRecords) :
    appendRevocation env keyId.text keyMaterial state request
        (journalBytes env.toDigest keyId keyMaterial requests) =
      (.ok (receiptOf env.toDigest keyId keyMaterial requests.length request),
        journalBytes env.toDigest keyId keyMaterial (requests ++ [request])) := by
  unfold appendRevocation
  rw [h.idempotency, findIdx?_eq_none_of_not_mem hkey, newLine_ok h hsize]
  simp only
  rw [if_pos h.byteLength.symm, h.byteLength, List.take_length, journalBytes_concat]
  unfold addedRecord
  rw [receiptFromRecord_ok hsize]

end Appending

end Keys
end GraphHelm
