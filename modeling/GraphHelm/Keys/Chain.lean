import GraphHelm.Keys.Journal
import GraphHelm.Library.HashChain

/-!
# The journal of a list of revocations

What a journal is, told by the revocations in it: the bytes, the records and the state
that a load of them gives.
-/

namespace GraphHelm
namespace Keys

open Std

section Chain

variable (digest : Digest) (keyId : OpaqueId) (keyMaterial : Bytes)

/-!
## Records
-/

def headerMaterial : Bytes :=
  utf8 "graphhelm-revocation-journal-header-v1" ++ framed (utf8 keyId.text)

def headerTag : Bytes :=
  tagOf digest keyMaterial "revocation-journal-header" (headerMaterial keyId)

def receiptMaterial (epoch : Nat) (request : RevokeKeyRequest) : Bytes :=
  utf8 "graphhelm-revocation-receipt-v1" ++ framed (utf8 request.handle.text) ++
    framed (utf8 request.idempotencyKey.text) ++ bigEndian 8 epoch

def receiptTag (epoch : Nat) (request : RevokeKeyRequest) : Bytes :=
  tagOf digest keyMaterial "revocation-receipt" (receiptMaterial epoch request)

def recordMaterial (epoch : Nat) (previous : Bytes) (request : RevokeKeyRequest) : Bytes :=
  utf8 "graphhelm-revocation-journal-record-v1" ++ bigEndian 8 epoch ++
    framed (utf8 request.handle.text) ++ framed (utf8 request.idempotencyKey.text) ++
    framed previous ++ framed (receiptTag digest keyMaterial epoch request)

def recordTag (epoch : Nat) (previous : Bytes) (request : RevokeKeyRequest) : Bytes :=
  tagOf digest keyMaterial "revocation-journal-record"
    (recordMaterial digest keyMaterial epoch previous request)

def chained (epoch : Nat) (previous : Bytes) (request : RevokeKeyRequest) : JournalRecord :=
  { epoch := epoch
    handle := request.handle.text
    idempotencyKey := request.idempotencyKey.text
    previousTag := hexEncode previous
    receiptTag := hexEncode (receiptTag digest keyMaterial epoch request)
    recordTag := hexEncode (recordTag digest keyMaterial epoch previous request) }

def chainFrom : Nat -> Bytes -> List RevokeKeyRequest -> List JournalRecord
  | _, _, [] => []
  | epoch, previous, request :: rest =>
      chained digest keyMaterial epoch previous request ::
        chainFrom (epoch + 1) (recordTag digest keyMaterial epoch previous request) rest

def headFrom : Nat -> Bytes -> List RevokeKeyRequest -> Bytes
  | _, previous, [] => previous
  | epoch, previous, request :: rest =>
      headFrom (epoch + 1) (recordTag digest keyMaterial epoch previous request) rest

def recordsOf (requests : List RevokeKeyRequest) : List JournalRecord :=
  chainFrom digest keyMaterial 1 (headerTag digest keyId keyMaterial) requests

def headOf (requests : List RevokeKeyRequest) : Bytes :=
  headFrom digest keyMaterial 1 (headerTag digest keyId keyMaterial) requests

def headerOf : JournalHeader :=
  { formatVersion := 1
    keyId := keyId.text
    authenticationTag := hexEncode (headerTag digest keyId keyMaterial) }

/-!
## Bytes
-/

def headerLine : Bytes :=
  (headerOf digest keyId keyMaterial).bytes ++ [newline]

def journalLines (requests : List RevokeKeyRequest) : List Bytes :=
  (headerOf digest keyId keyMaterial).bytes ::
    (recordsOf digest keyId keyMaterial requests).map JournalRecord.bytes

def journalBytes (requests : List RevokeKeyRequest) : Bytes :=
  unlines newline (journalLines digest keyId keyMaterial requests)

def addedRecord (requests : List RevokeKeyRequest) (request : RevokeKeyRequest) : JournalRecord :=
  chained digest keyMaterial (requests.length + 1) (headOf digest keyId keyMaterial requests) request

def addedLine (requests : List RevokeKeyRequest) (request : RevokeKeyRequest) : Bytes :=
  (addedRecord digest keyId keyMaterial requests request).bytes ++ [newline]

/-!
## States
-/

/-- The state that tells the revocations. -/
structure Represents (requests : List RevokeKeyRequest) (state : JournalState) : Prop where
  headerTag : state.headerTag = Keys.headerTag digest keyId keyMaterial
  records : state.records = recordsOf digest keyId keyMaterial requests
  idempotency : forall key, state.idempotency[key]? =
    requests.findIdx? fun request => decide (request.idempotencyKey.text = key)
  revokedHandles : forall handle, state.isRevoked handle =
    requests.any fun request => decide (request.handle.text = handle)
  byteLength : state.byteLength = (journalBytes digest keyId keyMaterial requests).length

end Chain

/-- What every journal keeps: no key twice, and no more records than a load takes. -/
structure Journaled (requests : List RevokeKeyRequest) : Prop where
  keys : (requests.map RevokeKeyRequest.idempotencyKey).Nodup
  size : requests.length <= maxRecords

/-- What the reader of the documents is relied on for. -/
structure ReadsBack (env : KeyEnvironment) : Prop where
  header : forall header : JournalHeader, GraphicMembers header.members ->
    header.formatVersion < 256 -> env.readHeader header.bytes = some header
  record : forall record : JournalRecord, GraphicMembers record.members ->
    record.epoch < 2 ^ 64 -> env.readRecord record.bytes = some record
  cut : forall (record : JournalRecord) (length : Nat), GraphicMembers record.members ->
    length < record.bytes.length -> env.readRecord (record.bytes.take length) = none

section Lemmas

variable {digest : Digest} {keyId : OpaqueId} {keyMaterial previous : Bytes}
  {requests : List RevokeKeyRequest} {request : RevokeKeyRequest} {epoch : Nat}

/-!
## One more revocation
-/

theorem chainFrom_append {more : List RevokeKeyRequest} :
    chainFrom digest keyMaterial epoch previous (requests ++ more) =
      chainFrom digest keyMaterial epoch previous requests ++
        chainFrom digest keyMaterial (epoch + requests.length)
          (headFrom digest keyMaterial epoch previous requests) more := by
  induction requests generalizing epoch previous with
  | nil =>
      rfl
  | cons first rest ih =>
      rw [List.cons_append]
      change chained digest keyMaterial epoch previous first ::
          chainFrom digest keyMaterial (epoch + 1) _ (rest ++ more) =
        (chained digest keyMaterial epoch previous first ::
          chainFrom digest keyMaterial (epoch + 1) _ rest) ++
          chainFrom digest keyMaterial (epoch + (rest.length + 1))
            (headFrom digest keyMaterial (epoch + 1) _ rest) more
      rw [ih, List.cons_append, Nat.add_right_comm epoch 1, Nat.add_assoc epoch]

theorem headFrom_append {more : List RevokeKeyRequest} :
    headFrom digest keyMaterial epoch previous (requests ++ more) =
      headFrom digest keyMaterial (epoch + requests.length)
        (headFrom digest keyMaterial epoch previous requests) more := by
  induction requests generalizing epoch previous with
  | nil =>
      rfl
  | cons first rest ih =>
      rw [List.cons_append]
      change headFrom digest keyMaterial (epoch + 1) _ (rest ++ more) =
        headFrom digest keyMaterial (epoch + (rest.length + 1))
          (headFrom digest keyMaterial (epoch + 1) _ rest) more
      rw [ih, Nat.add_right_comm epoch 1, Nat.add_assoc epoch]

theorem length_chainFrom :
    (chainFrom digest keyMaterial epoch previous requests).length = requests.length := by
  induction requests generalizing epoch previous with
  | nil =>
      rfl
  | cons first rest ih =>
      unfold chainFrom
      rw [List.length_cons, List.length_cons, ih]

@[simp] theorem length_recordsOf :
    (recordsOf digest keyId keyMaterial requests).length = requests.length :=
  length_chainFrom

theorem recordsOf_concat :
    recordsOf digest keyId keyMaterial (requests ++ [request]) =
      recordsOf digest keyId keyMaterial requests ++
        [addedRecord digest keyId keyMaterial requests request] := by
  unfold recordsOf addedRecord headOf
  rw [chainFrom_append, Nat.add_comm 1]
  rfl

theorem headOf_concat :
    headOf digest keyId keyMaterial (requests ++ [request]) =
      recordTag digest keyMaterial (requests.length + 1) (headOf digest keyId keyMaterial requests)
        request := by
  unfold headOf
  rw [headFrom_append, Nat.add_comm 1]
  rfl

theorem journalBytes_concat :
    journalBytes digest keyId keyMaterial (requests ++ [request]) =
      journalBytes digest keyId keyMaterial requests ++
        addedLine digest keyId keyMaterial requests request := by
  unfold journalBytes journalLines addedLine
  rw [recordsOf_concat, List.map_append, ← List.cons_append, unlines_append]
  exact congrArg _ unlines_singleton

theorem journalBytes_nil :
    journalBytes digest keyId keyMaterial [] = headerLine digest keyId keyMaterial :=
  unlines_singleton

theorem getElem?_recordsOf {index : Nat} :
    (recordsOf digest keyId keyMaterial requests)[index]? =
      requests[index]?.map (addedRecord digest keyId keyMaterial (requests.take index)) := by
  induction requests using List.reverseRecOn with
  | nil =>
      rfl
  | append_singleton earlier last ih =>
      rw [recordsOf_concat]
      by_cases hindex : index < earlier.length
      · rw [List.getElem?_append_left (by rw [length_recordsOf]; exact hindex), ih,
          List.getElem?_append_left hindex, List.take_append_of_le_length (Nat.le_of_lt hindex)]
      · rw [List.getElem?_append_right (by rw [length_recordsOf]; omega), length_recordsOf,
          List.getElem?_append_right (by omega)]
        by_cases hlast : index = earlier.length
        · subst hlast
          rw [Nat.sub_self, List.take_left]
          rfl
        · have hout : 1 <= index - earlier.length := by omega
          rw [List.getElem?_eq_none hout, List.getElem?_eq_none hout]
          rfl

/-!
## Sizes
-/

theorem graphic_opaqueId (id : OpaqueId) : Graphic id.text.toList := by
  have hvalid := id.valid
  unfold isOpaqueId at hvalid
  rw [Bool.and_eq_true] at hvalid
  intro c hc
  have hchar := List.all_eq_true.mp hvalid.right c hc
  simp only [Bool.or_eq_true, Bool.and_eq_true, decide_eq_true_eq] at hchar
  omega

theorem length_opaqueId (id : OpaqueId) : id.text.toList.length <= 128 := by
  have hvalid := id.valid
  unfold isOpaqueId at hvalid
  simp only [Bool.and_eq_true, decide_eq_true_eq] at hvalid
  have hbytes := length_utf8 id.text
  rw [utf8_of_graphic (graphic_opaqueId id), List.length_map] at hbytes
  omega

theorem frames_opaqueId (id : OpaqueId) : (utf8 id.text).length <= 128 := by
  rw [utf8_of_graphic (graphic_opaqueId id), List.length_map]
  exact length_opaqueId id

theorem graphic_hexEncode (bytes : Bytes) : Graphic (hexEncode bytes).toList :=
  fun _ hc => mem_hexEncode hc

theorem graphicMembers_chained :
    GraphicMembers (chained digest keyMaterial epoch previous request).members := by
  intro entry hentry
  unfold JournalRecord.members chained at hentry
  simp only [List.mem_cons, List.not_mem_nil, or_false] at hentry
  rcases hentry with rfl | rfl | rfl | rfl | rfl | rfl
  · exact ⟨(by decide : Graphic "epoch".toList), trivial⟩
  · exact ⟨(by decide : Graphic "handle".toList), graphic_opaqueId request.handle⟩
  · exact ⟨(by decide : Graphic "idempotencyKey".toList), graphic_opaqueId request.idempotencyKey⟩
  · exact ⟨(by decide : Graphic "previousTag".toList), graphic_hexEncode _⟩
  · exact ⟨(by decide : Graphic "receiptTag".toList), graphic_hexEncode _⟩
  · exact ⟨(by decide : Graphic "recordTag".toList), graphic_hexEncode _⟩

theorem graphicMembers_headerOf :
    GraphicMembers (headerOf digest keyId keyMaterial).members := by
  intro entry hentry
  unfold JournalHeader.members headerOf at hentry
  simp only [List.mem_cons, List.not_mem_nil, or_false] at hentry
  rcases hentry with rfl | rfl | rfl
  · exact ⟨(by decide : Graphic "formatVersion".toList), trivial⟩
  · exact ⟨(by decide : Graphic "keyId".toList), graphic_opaqueId keyId⟩
  · exact ⟨(by decide : Graphic "authenticationTag".toList), graphic_hexEncode _⟩

theorem length_quoted_hexEncode {bytes : Bytes} (h : bytes.length = 32) :
    (quoted (hexEncode bytes)).length <= 130 := by
  have hquoted := length_quoted_le (graphic_hexEncode bytes).plain
  rw [length_hexEncode, h] at hquoted
  exact hquoted

theorem length_quoted_opaqueId (id : OpaqueId) : (quoted id.text).length <= 258 := by
  have hquoted := length_quoted_le (graphic_opaqueId id).plain
  have hid := length_opaqueId id
  omega

/-- A record fits into a line with room to spare. -/
theorem length_chained (hepoch : epoch < 10 ^ 5) (hprevious : previous.length = 32) :
    (chained digest keyMaterial epoch previous request).bytes.length <= 991 := by
  unfold JournalRecord.bytes
  rw [utf8_of_graphic (graphic_flatText graphicMembers_chained), List.length_map]
  unfold flatText
  rw [String.toList_ofList, List.length_cons, List.length_append]
  have hnumber : (Nat.toDigits 10 epoch).length <= 5 :=
    (Nat.length_toDigits_le_iff (by decide) (by decide)).mpr hepoch
  have hhandle := length_quoted_opaqueId request.handle
  have hkey := length_quoted_opaqueId request.idempotencyKey
  have hprevious := length_quoted_hexEncode hprevious
  have hreceipt := length_quoted_hexEncode
    (@length_tagOf digest keyMaterial (receiptMaterial epoch request) "revocation-receipt")
  have hrecord := length_quoted_hexEncode
    (@length_tagOf digest keyMaterial (recordMaterial digest keyMaterial epoch previous request)
      "revocation-journal-record")
  have hnames : (quoted "epoch").length = 7 ∧ (quoted "handle").length = 8 ∧
      (quoted "idempotencyKey").length = 16 ∧ (quoted "previousTag").length = 13 ∧
      (quoted "receiptTag").length = 12 ∧ (quoted "recordTag").length = 11 := by
    decide
  simp only [chained, JournalRecord.members, membersChars, memberChars, Scalar.chars,
    List.length_append, List.length_cons, List.length_nil]
  unfold receiptTag recordTag
  omega

theorem length_headerOf : (headerOf digest keyId keyMaterial).bytes.length <= 437 := by
  unfold JournalHeader.bytes
  rw [utf8_of_graphic (graphic_flatText graphicMembers_headerOf), List.length_map]
  unfold flatText
  rw [String.toList_ofList, List.length_cons, List.length_append]
  have hkey := length_quoted_opaqueId keyId
  have htag := length_quoted_hexEncode
    (@length_tagOf digest keyMaterial (headerMaterial keyId) "revocation-journal-header")
  have hnames : (quoted "formatVersion").length = 15 ∧ (quoted "keyId").length = 7 ∧
      (quoted "authenticationTag").length = 19 ∧ (Nat.toDigits 10 1).length = 1 := by
    decide
  simp only [headerOf, JournalHeader.members, membersChars, memberChars, Scalar.chars,
    List.length_append, List.length_cons, List.length_nil]
  unfold headerTag
  omega

theorem length_headFrom (h : previous.length = 32) :
    (headFrom digest keyMaterial epoch previous requests).length = 32 := by
  induction requests generalizing epoch previous with
  | nil =>
      exact h
  | cons first rest ih =>
      exact ih length_tagOf

theorem length_headOf : (headOf digest keyId keyMaterial requests).length = 32 :=
  length_headFrom length_tagOf

theorem length_addedLine (h : requests.length < maxRecords) :
    (addedLine digest keyId keyMaterial requests request).length <= 992 := by
  unfold addedLine addedRecord
  have hepoch : requests.length + 1 < 10 ^ 5 := by
    unfold maxRecords at h
    omega
  have hrecord := @length_chained digest keyMaterial _ request _ hepoch
    (@length_headOf digest keyId keyMaterial requests)
  rw [List.length_append, List.length_singleton]
  omega

theorem length_journalBytes (h : requests.length <= maxRecords) :
    (journalBytes digest keyId keyMaterial requests).length <= 438 + 992 * requests.length := by
  induction requests using List.reverseRecOn with
  | nil =>
      rw [journalBytes_nil]
      unfold headerLine
      have hheader := @length_headerOf digest keyId keyMaterial
      rw [List.length_append, List.length_singleton, List.length_nil]
      omega
  | append_singleton earlier last ih =>
      rw [List.length_append, List.length_singleton] at h ⊢
      have hearlier := ih (by omega)
      have hline := @length_addedLine digest keyId keyMaterial earlier last (by omega)
      rw [journalBytes_concat, List.length_append]
      omega

theorem journalBytes_readable (h : requests.length <= maxRecords) :
    (journalBytes digest keyId keyMaterial requests).length <= maxJournalBytes := by
  have hlength := @length_journalBytes digest keyId keyMaterial requests h
  unfold maxRecords at h
  unfold maxJournalBytes
  omega

/-!
## Lines
-/

theorem mem_recordsOf {record : JournalRecord}
    (h : record ∈ recordsOf digest keyId keyMaterial requests) : GraphicMembers record.members := by
  rcases List.mem_iff_getElem?.mp h with ⟨index, hindex⟩
  rw [getElem?_recordsOf] at hindex
  rcases Option.map_eq_some_iff.mp hindex with ⟨request, _, rfl⟩
  exact graphicMembers_chained

theorem mem_journalLines {line : Bytes}
    (h : line ∈ journalLines digest keyId keyMaterial requests) :
    exists entries, GraphicMembers entries ∧ line = utf8 (flatText entries) := by
  unfold journalLines at h
  rcases List.mem_cons.mp h with heq | hline
  · exact ⟨_, graphicMembers_headerOf, heq⟩
  · rcases List.mem_map.mp hline with ⟨record, hrecord, heq⟩
    exact ⟨_, mem_recordsOf hrecord, heq.symm⟩

theorem separate_journalLines :
    Separate newline (journalLines digest keyId keyMaterial requests) := by
  intro line hline
  rcases mem_journalLines hline with ⟨entries, hentries, heq⟩
  rw [heq]
  exact newline_not_mem_utf8 (graphic_flatText hentries)

theorem isWhole_journalBytes :
    isWhole newline (journalBytes digest keyId keyMaterial requests) = true :=
  isWhole_unlines

theorem stripReturn_flatText {entries : List (String × Scalar)} (h : GraphicMembers entries) :
    stripReturn (utf8 (flatText entries)) = utf8 (flatText entries) := by
  unfold stripReturn
  rw [utf8_of_graphic (graphic_flatText h), if_neg]
  unfold flatText
  rw [String.toList_ofList, ← List.cons_append, List.map_append, List.map_singleton,
    List.getLast?_concat]
  decide

theorem textLines_journalBytes :
    textLines (journalBytes digest keyId keyMaterial requests) =
      journalLines digest keyId keyMaterial requests := by
  unfold textLines journalBytes
  have hsplit := @splitOn_unlines UInt8 newline [] (journalLines digest keyId keyMaterial requests)
    _ separate_journalLines
  rw [List.append_nil] at hsplit
  rw [hsplit]
  change (journalLines digest keyId keyMaterial requests ++ [[]]).dropLast.map stripReturn = _
  rw [List.dropLast_concat]
  conv_rhs => rw [← List.map_id (journalLines digest keyId keyMaterial requests)]
  apply List.map_congr_left
  intro line hline
  rcases mem_journalLines hline with ⟨entries, hentries, heq⟩
  rw [heq]
  exact stripReturn_flatText hentries

theorem exists_text_of_unlines {lines : List Bytes}
    (h : forall line, line ∈ lines -> exists text, line = utf8 text) :
    exists text, unlines newline lines = utf8 text := by
  induction lines with
  | nil =>
      exact ⟨"", rfl⟩
  | cons line rest ih =>
      rcases h line List.mem_cons_self with ⟨text, htext⟩
      rcases ih fun other hother => h other (List.mem_cons_of_mem line hother) with ⟨later, hlater⟩
      refine ⟨text ++ "\n" ++ later, ?_⟩
      rw [unlines_cons, htext, hlater]
      unfold utf8
      rw [String.toList_append, String.toList_append, List.flatMap_append, List.flatMap_append,
        List.append_assoc]
      rfl

theorem validUtf8_journalBytes :
    validUtf8 (journalBytes digest keyId keyMaterial requests) = true := by
  have htexts : forall line, line ∈ journalLines digest keyId keyMaterial requests ->
      exists text, line = utf8 text := by
    intro line hline
    rcases mem_journalLines hline with ⟨entries, _, heq⟩
    exact ⟨flatText entries, heq⟩
  rcases exists_text_of_unlines htexts with ⟨text, heq⟩
  unfold journalBytes
  rw [heq]
  exact validUtf8_utf8 text

end Lemmas

theorem addedLine_eq {digest : Digest} {keyId : OpaqueId} {keyMaterial : Bytes}
    {requests : List RevokeKeyRequest} {request : RevokeKeyRequest} :
    addedLine digest keyId keyMaterial requests request =
      (addedRecord digest keyId keyMaterial requests request).bytes ++ [newline] :=
  rfl

-- The bytes of a journal are told apart by their lemmas, never by computing them.
attribute [irreducible] journalBytes addedLine

end Keys
end GraphHelm
