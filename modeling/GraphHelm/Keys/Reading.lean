import GraphHelm.Keys.Creating

/-!
# A reader of the documents

A concrete provider whose reader takes the documents in the layout they are written in.
-/

namespace GraphHelm
namespace Keys

def readHeaderText (bytes : Bytes) : Option JournalHeader :=
  match readFlat ["formatVersion", "keyId", "authenticationTag"] (asciiChars bytes) with
  | some [.number formatVersion, .text keyId, .text authenticationTag] =>
      some
        { formatVersion := formatVersion
          keyId := keyId
          authenticationTag := authenticationTag }
  | _ => none

def readRecordText (bytes : Bytes) : Option JournalRecord :=
  match readFlat
      ["epoch", "handle", "idempotencyKey", "previousTag", "receiptTag", "recordTag"]
      (asciiChars bytes) with
  | some [.number epoch, .text handle, .text idempotencyKey, .text previousTag, .text receiptTag,
      .text recordTag] =>
      some
        { epoch := epoch
          handle := handle
          idempotencyKey := idempotencyKey
          previousTag := previousTag
          receiptTag := receiptTag
          recordTag := recordTag }
  | _ => none

/-- A provider whose digest folds the bytes and whose cipher adds a tag of zeros. -/
def sampleProvider : ProviderEnvironment where
  sha256 bytes := List.replicate 32 (bytes.foldl (fun sum byte => sum * 31 + byte) 7)
  length _ := List.length_replicate
  readHeader := readHeaderText
  readRecord := readRecordText
  readKeyring := readHeaderText
  encrypt _ _ _ plaintext := some (plaintext ++ List.replicate 16 0)
  decrypt _ _ _ ciphertext := some (ciphertext.take (ciphertext.length - 16))

theorem readHeaderText_bytes {header : JournalHeader} (h : GraphicMembers header.members) :
    readHeaderText header.bytes = some header := by
  unfold readHeaderText JournalHeader.bytes
  rw [asciiChars_utf8 (graphic_flatText h)]
  have hread := readFlat_flatText h.plain
  change readFlat ["formatVersion", "keyId", "authenticationTag"] _ = _ at hread
  rw [hread]
  rfl

theorem readRecordText_bytes {record : JournalRecord} (h : GraphicMembers record.members) :
    readRecordText record.bytes = some record := by
  unfold readRecordText JournalRecord.bytes
  rw [asciiChars_utf8 (graphic_flatText h)]
  have hread := readFlat_flatText h.plain
  change readFlat ["epoch", "handle", "idempotencyKey", "previousTag", "receiptTag", "recordTag"]
    _ = _ at hread
  rw [hread]
  rfl

theorem readRecordText_take {record : JournalRecord} (h : GraphicMembers record.members)
    {length : Nat} (hlength : length < record.bytes.length) :
    readRecordText (record.bytes.take length) = none := by
  unfold JournalRecord.bytes at hlength ⊢
  have hchars : asciiChars ((utf8 (flatText record.members)).take length) =
      (flatText record.members).toList.take length := by
    have hall := asciiChars_utf8 (graphic_flatText h)
    unfold asciiChars at hall ⊢
    rw [List.map_take, hall]
  have hshort : length < (flatText record.members).toList.length := by
    rw [utf8_of_graphic (graphic_flatText h), List.length_map] at hlength
    exact hlength
  have hnone := readFlat_take h.plain hshort
  change readFlat ["epoch", "handle", "idempotencyKey", "previousTag", "receiptTag", "recordTag"]
    _ = _ at hnone
  unfold readRecordText
  rw [hchars, hnone]

theorem sampleProvider_readHeader : sampleProvider.readHeader = readHeaderText := rfl

theorem sampleProvider_readRecord : sampleProvider.readRecord = readRecordText := rfl

theorem sampleProvider_readKeyring : sampleProvider.readKeyring = readHeaderText := rfl

theorem sampleProvider_journal : ReadsBack sampleProvider.toKeyEnvironment := by
  constructor
  · intro header hmembers _
    rw [sampleProvider_readHeader]
    exact readHeaderText_bytes hmembers
  · intro record hmembers _
    rw [sampleProvider_readRecord]
    exact readRecordText_bytes hmembers
  · intro record length hmembers hlength
    rw [sampleProvider_readRecord]
    exact readRecordText_take hmembers hlength

theorem sampleProvider_reads : ReadsDocuments sampleProvider := by
  constructor
  · exact sampleProvider_journal
  · intro document hmembers _
    rw [sampleProvider_readKeyring]
    exact readHeaderText_bytes hmembers

def sampleId : OpaqueId :=
  { text := "key", valid := by decide }

def sampleMaterial : Bytes :=
  List.replicate 32 1

theorem room_for_one : ([] : List RevokeKeyRequest).length < maxRecords := by
  unfold maxRecords
  rw [List.length_nil]
  omega

theorem length_sampleMaterial : sampleMaterial.length = 32 :=
  List.length_replicate

def sampleRevocation : RevokeKeyRequest :=
  { handle := { text := "handle", valid := by decide }
    idempotencyKey := { text := "operation", valid := by decide } }

end Keys
end GraphHelm
