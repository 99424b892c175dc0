import GraphHelm.Keys.Custody

/-!
# Crashes of a writer

What a crash leaves of a record line or of the header line, and what the next load or
the next creation makes of it.
-/

namespace GraphHelm
namespace Keys

open Std

/-!
## What a crash leaves
-/

/-- A journal that a creation and accepted revocations have written. -/
inductive Committed (env : KeyEnvironment) (keyId : String) (keyMaterial : Bytes) : Bytes -> Prop where
  | created {file : Bytes} :
      createOrRecoverEmpty env keyId keyMaterial none = (.ok (), some file) ->
      Committed env keyId keyMaterial file
  | appended {file after : Bytes} {state : JournalState} {request : RevokeKeyRequest}
      {receipt : RevocationReceipt} :
      Committed env keyId keyMaterial file ->
      load env keyId keyMaterial file = (.ok state, file) ->
      appendRevocation env keyId keyMaterial state request file = (.ok receipt, after) ->
      Committed env keyId keyMaterial after

/-- After a crash that left `cut` bytes of the line, the journal loads with the records it had,
and with the line's record when the whole of it was left. -/
def SurvivesAppend (env : KeyEnvironment) (keyId : String) (keyMaterial file : Bytes)
    (state : JournalState) (line : Bytes) (cut : Nat) : Prop :=
  if cut < line.length then
    exists recovered, load env keyId keyMaterial (file ++ line.take cut) = (.ok recovered, file) ∧
      recovered.records = state.records
  else
    exists recovered record, load env keyId keyMaterial (file ++ line) =
        (.ok recovered, file ++ line) ∧
      recovered.records = state.records ++ [record] ∧ line = record.bytes ++ [newline]

/-- What a number of creations leaves of a directory. -/
def createRepeatedly (env : ProviderEnvironment) (keyId : String) (keyMaterial : Bytes) :
    Nat -> Directory -> Directory
  | 0, directory => directory
  | attempts + 1, directory =>
      createRepeatedly env keyId keyMaterial attempts (create env keyId keyMaterial directory).2

/-- After a crash that left `cut` bytes of the header line, some later creation succeeds. -/
def SurvivesCreate (env : ProviderEnvironment) (keyId : String) (keyMaterial header : Bytes)
    (cut : Nat) : Prop :=
  exists attempts state, (create env keyId keyMaterial
    (createRepeatedly env keyId keyMaterial attempts
      { keyring := none, journal := some (header.take cut) })).1 = .ok state

section Crashes

variable {env : ProviderEnvironment} {keyId : OpaqueId} {keyMaterial file : Bytes}
  {requests : List RevokeKeyRequest} {request : RevokeKeyRequest}

theorem Committed.exists_requests (hreads : ReadsBack env.toKeyEnvironment)
    (h : Committed env.toKeyEnvironment keyId.text keyMaterial file) :
    exists requests, Journaled requests ∧ file = journalBytes env.toDigest keyId keyMaterial requests := by
  induction h with
  | created hcreated =>
      rw [createOrRecoverEmpty_none hreads] at hcreated
      exact ⟨[], journaled_nil, (Option.some.inj (Prod.mk.inj hcreated).2).symm⟩
  | @appended file after state request receipt _ hload happend ih =>
      rcases ih with ⟨requests, hjournaled, hfile⟩
      rcases @load_journal env.toKeyEnvironment keyId keyMaterial requests hreads hjournaled with
        ⟨found, hfound, hrep⟩
      rw [hfile, hfound] at hload
      have hstate := Except.ok.inj (Prod.mk.inj hload).1
      rw [← hstate, hfile, appendRevocation_eq hrep hjournaled] at happend
      exact ⟨_, journaled_withRevocation hjournaled, (Prod.mk.inj happend).2.symm⟩

theorem load_torn (hreads : ReadsBack env.toKeyEnvironment) (hjournaled : Journaled requests)
    {torn : Bytes} (hnewline : newline ∉ torn) (hread : env.readRecord torn = none)
    (hlength : (journalBytes env.toDigest keyId keyMaterial requests ++ torn).length <=
      maxJournalBytes) :
    exists state, load env.toKeyEnvironment keyId.text keyMaterial
        (journalBytes env.toDigest keyId keyMaterial requests ++ torn) =
          (.ok state, journalBytes env.toDigest keyId keyMaterial requests) ∧
      Represents env.toDigest keyId keyMaterial requests state := by
  rcases @loadCommitted_journal env.toKeyEnvironment keyId keyMaterial requests hreads hjournaled with
    ⟨state, hstate, hrep⟩
  refine ⟨state, ?_, hrep⟩
  have hwhole : wholePart newline (journalBytes env.toDigest keyId keyMaterial requests ++ torn) =
      journalBytes env.toDigest keyId keyMaterial requests :=
    wholePart_append isWhole_journalBytes hnewline
  have htail : tornPart newline (journalBytes env.toDigest keyId keyMaterial requests ++ torn) =
      torn :=
    tornPart_append isWhole_journalBytes hnewline
  have hrecovered : recoverTail env.toKeyEnvironment
      (journalBytes env.toDigest keyId keyMaterial requests ++ torn) =
        .ok (journalBytes env.toDigest keyId keyMaterial requests) := by
    unfold recoverTail
    rw [htail, hread, hwhole]
    by_cases hempty : torn = []
    · subst hempty
      rw [List.append_nil, if_pos isWhole_journalBytes]
    · have hnot : ¬ isWhole newline
          (journalBytes env.toDigest keyId keyMaterial requests ++ torn) = true := by
        unfold journalBytes
        rw [isWhole_unlines_append hnewline, List.isEmpty_iff]
        exact hempty
      rw [if_neg hnot]
      rfl
  unfold load readBounded
  rw [if_neg (Nat.not_lt.mpr hlength)]
  simp only
  rw [hrecovered]
  simp only
  rw [hstate]

theorem load_stripped {torn : Bytes} {record : JournalRecord} (hnewline : newline ∉ torn)
    (hne : torn ≠ []) (hread : env.readRecord torn = some record) :
    load env.toKeyEnvironment keyId.text keyMaterial
        (journalBytes env.toDigest keyId keyMaterial requests ++ torn) =
      (.error .integrity, journalBytes env.toDigest keyId keyMaterial requests ++ torn) := by
  have htail : tornPart newline (journalBytes env.toDigest keyId keyMaterial requests ++ torn) =
      torn :=
    tornPart_append isWhole_journalBytes hnewline
  have hnot : ¬ isWhole newline
      (journalBytes env.toDigest keyId keyMaterial requests ++ torn) = true := by
    unfold journalBytes
    rw [isWhole_unlines_append hnewline, List.isEmpty_iff]
    exact hne
  have hrecovered : recoverTail env.toKeyEnvironment
      (journalBytes env.toDigest keyId keyMaterial requests ++ torn) = .error .integrity := by
    unfold recoverTail
    rw [htail, hread, if_neg hnot]
    rfl
  unfold load
  cases hbounded : readBounded
      (journalBytes env.toDigest keyId keyMaterial requests ++ torn) maxJournalBytes with
  | error error =>
      unfold readBounded at hbounded
      split at hbounded
      · cases hbounded
        rfl
      · cases hbounded
  | ok bytes =>
      unfold readBounded at hbounded
      split at hbounded
      · cases hbounded
      · cases hbounded
        simp only
        rw [hrecovered]

theorem survivesAppend_iff (hreads : ReadsBack env.toKeyEnvironment)
    (hjournaled : Journaled requests) (hsize : requests.length < maxRecords)
    (hkey : request.idempotencyKey ∉ requests.map RevokeKeyRequest.idempotencyKey)
    {state : JournalState} (hrep : Represents env.toDigest keyId keyMaterial requests state)
    {cut : Nat} (hcut : cut <= (addedLine env.toDigest keyId keyMaterial requests request).length) :
    SurvivesAppend env.toKeyEnvironment keyId.text keyMaterial
        (journalBytes env.toDigest keyId keyMaterial requests) state
        (addedLine env.toDigest keyId keyMaterial requests request) cut <->
      cut + 1 ≠ (addedLine env.toDigest keyId keyMaterial requests request).length := by
  have hnext : Journaled (requests ++ [request]) := hjournaled.concat hsize hkey
  have hmembers : GraphicMembers
      (addedRecord env.toDigest keyId keyMaterial requests request).members :=
    graphicMembers_chained
  have hnewline : newline ∉ (addedRecord env.toDigest keyId keyMaterial requests request).bytes :=
    newline_not_mem_utf8 (graphic_flatText hmembers)
  have hepoch : (addedRecord env.toDigest keyId keyMaterial requests request).epoch < 2 ^ 64 := by
    change requests.length + 1 < 2 ^ 64
    unfold maxRecords at hsize
    omega
  have hlength : (addedLine env.toDigest keyId keyMaterial requests request).length =
      (addedRecord env.toDigest keyId keyMaterial requests request).bytes.length + 1 := by
    rw [addedLine_eq, List.length_append, List.length_singleton]
  have htake : cut <= (addedRecord env.toDigest keyId keyMaterial requests request).bytes.length ->
      (addedLine env.toDigest keyId keyMaterial requests request).take cut =
        (addedRecord env.toDigest keyId keyMaterial requests request).bytes.take cut := by
    intro hle
    rw [addedLine_eq, List.take_append_of_le_length hle]
  unfold SurvivesAppend
  by_cases hwhole : cut < (addedLine env.toDigest keyId keyMaterial requests request).length
  · rw [if_pos hwhole, htake (by omega)]
    by_cases hlast : cut + 1 =
        (addedLine env.toDigest keyId keyMaterial requests request).length
    · -- The cut right before the newline leaves a text that reads as the record.
      have hall : (addedRecord env.toDigest keyId keyMaterial requests request).bytes.take cut =
          (addedRecord env.toDigest keyId keyMaterial requests request).bytes :=
        List.take_of_length_le (by omega)
      have hread := hreads.record _ hmembers hepoch
      have hne : (addedRecord env.toDigest keyId keyMaterial requests request).bytes ≠ [] := by
        intro hnil
        have hcutRecord := hreads.record _ hmembers hepoch
        unfold JournalRecord.bytes at hnil
        rw [utf8_of_graphic (graphic_flatText hmembers), List.map_eq_nil_iff] at hnil
        unfold flatText at hnil
        rw [String.toList_ofList] at hnil
        cases hnil
      have hstripped := @load_stripped env keyId keyMaterial requests _ _ hnewline hne hread
      rw [hall]
      constructor
      · rintro ⟨recovered, hload, _⟩
        rw [hstripped] at hload
        cases (Prod.mk.inj hload).1
      · intro hne
        exact absurd hlast hne
    · have hshort : cut < (addedRecord env.toDigest keyId keyMaterial requests request).bytes.length := by
        omega
      have htorn : newline ∉
          (addedRecord env.toDigest keyId keyMaterial requests request).bytes.take cut :=
        fun hmem => hnewline (List.mem_of_mem_take hmem)
      have hbytes : (journalBytes env.toDigest keyId keyMaterial requests ++
          (addedRecord env.toDigest keyId keyMaterial requests request).bytes.take cut).length <=
            maxJournalBytes := by
        have hreadable := @journalBytes_readable env.toDigest keyId keyMaterial _ hnext.size
        rw [journalBytes_concat, List.length_append] at hreadable
        rw [List.length_append, List.length_take]
        omega
      rcases load_torn hreads hjournaled htorn (hreads.cut _ cut hmembers hshort) hbytes with
        ⟨recovered, hload, hrecovered⟩
      refine iff_of_true ⟨recovered, hload, ?_⟩ hlast
      rw [hrecovered.records, hrep.records]
  · rw [if_neg hwhole]
    have hnot : cut + 1 ≠ (addedLine env.toDigest keyId keyMaterial requests request).length := by
      omega
    rcases @load_journal env.toKeyEnvironment keyId keyMaterial _ hreads hnext with
      ⟨recovered, hload, hrecovered⟩
    rw [journalBytes_concat] at hload
    refine iff_of_true ⟨recovered, _, hload, ?_, addedLine_eq⟩ hnot
    rw [hrecovered.records, recordsOf_concat, hrep.records]

theorem length_addedLine_pos :
    0 < (addedLine env.toDigest keyId keyMaterial requests request).length := by
  rw [addedLine_eq, List.length_append, List.length_singleton]
  omega

theorem not_survivesAppend (hreads : ReadsBack env.toKeyEnvironment)
    (hjournaled : Journaled requests) (hsize : requests.length < maxRecords)
    (hkey : request.idempotencyKey ∉ requests.map RevokeKeyRequest.idempotencyKey)
    {state : JournalState} (hrep : Represents env.toDigest keyId keyMaterial requests state) :
    ¬ SurvivesAppend env.toKeyEnvironment keyId.text keyMaterial
      (journalBytes env.toDigest keyId keyMaterial requests) state
      (addedLine env.toDigest keyId keyMaterial requests request)
      ((addedLine env.toDigest keyId keyMaterial requests request).length - 1) := by
  have hpositive := @length_addedLine_pos env keyId keyMaterial requests request
  intro hsurvives
  have hnot := (survivesAppend_iff hreads hjournaled hsize hkey hrep (Nat.sub_le _ 1)).mp hsurvives
  omega

/-!
## A torn header
-/

theorem load_headless {env : KeyEnvironment} {keyId : String} (h : newline ∉ file) :
    exists error after, load env keyId keyMaterial file = (.error error, after) ∧
      newline ∉ after := by
  have hparts := @wholePart_append_tornPart UInt8 newline file _
  have hwhole : wholePart newline file = [] := by
    rcases @exists_lines_of_isWhole UInt8 newline (wholePart newline file) _ isWhole_wholePart with
      ⟨lines, _, hlines⟩
    cases lines with
    | nil =>
        exact hlines
    | cons line rest =>
        have hmem : newline ∈ wholePart newline file := by
          rw [hlines, unlines_cons]
          exact List.mem_append_right line List.mem_cons_self
        exact absurd (hparts ▸ List.mem_append_left _ hmem) h
  have hempty : loadCommitted env keyId keyMaterial [] = .error .integrity := rfl
  unfold load readBounded
  split
  · exact ⟨_, file, rfl, h⟩
  · rename_i bytes hbounded
    split at hbounded
    · cases hbounded
    · cases hbounded
      unfold recoverTail
      split
      · exact ⟨_, file, rfl, h⟩
      · rename_i committed hrecovered
        split at hrecovered
        · rename_i hisWhole
          cases hrecovered
          have hnil : file = [] := by
            rcases exists_lines_of_isWhole hisWhole with ⟨lines, _, hlines⟩
            cases lines with
            | nil =>
                exact hlines
            | cons line rest =>
                rw [hlines, unlines_cons] at h
                exact absurd (List.mem_append_right line List.mem_cons_self) h
          rw [hnil, hempty]
          exact ⟨_, [], rfl, List.not_mem_nil⟩
        · split at hrecovered
          · cases hrecovered
          · cases hrecovered
            rw [hwhole, hempty]
            exact ⟨_, [], rfl, List.not_mem_nil⟩

/-- No creation gets past a header that was never finished. -/
theorem create_headless (h : newline ∉ file) :
    exists error after, create env keyId.text keyMaterial { keyring := none, journal := some file } =
        (.error error, { keyring := none, journal := some after }) ∧ newline ∉ after := by
  rcases @load_headless keyMaterial file env.toKeyEnvironment keyId.text h with
    ⟨error, after, hload, hafter⟩
  unfold create
  split
  · rw [OpaqueId.parse_text]
    unfold createLocked createOrRecoverEmpty
    simp only [hload]
    exact ⟨error, after, rfl, hafter⟩
  · exact ⟨_, file, rfl, h⟩

theorem createRepeatedly_headless (h : newline ∉ file) (attempts : Nat) :
    exists after, createRepeatedly env keyId.text keyMaterial attempts
        { keyring := none, journal := some file } = { keyring := none, journal := some after } ∧
      newline ∉ after := by
  induction attempts generalizing file with
  | zero =>
      exact ⟨file, rfl, h⟩
  | succ attempts ih =>
      rcases @create_headless env keyId keyMaterial file h with ⟨error, after, hcreate, hafter⟩
      unfold createRepeatedly
      rw [hcreate]
      exact ih hafter

theorem survivesCreate_iff (hreads : ReadsDocuments env) (hmaterial : keyMaterial.length = 32)
    {cut : Nat} (hcut : cut <= (headerLine env.toDigest keyId keyMaterial).length) :
    SurvivesCreate env keyId.text keyMaterial (headerLine env.toDigest keyId keyMaterial) cut <->
      cut = (headerLine env.toDigest keyId keyMaterial).length := by
  constructor
  · rintro ⟨attempts, state, hcreate⟩
    by_contra hshort
    have hnewline : newline ∉ (headerLine env.toDigest keyId keyMaterial).take cut := by
      have hheader : newline ∉ (headerOf env.toDigest keyId keyMaterial).bytes :=
        newline_not_mem_utf8 (graphic_flatText graphicMembers_headerOf)
      have hlength : (headerLine env.toDigest keyId keyMaterial).length =
          (headerOf env.toDigest keyId keyMaterial).bytes.length + 1 :=
        List.length_append
      unfold headerLine
      rw [List.take_append_of_le_length (by omega)]
      exact fun hmem => hheader (List.mem_of_mem_take hmem)
    rcases @createRepeatedly_headless env keyId keyMaterial _ hnewline attempts with
      ⟨after, hrepeated, hafter⟩
    rcases @create_headless env keyId keyMaterial after hafter with ⟨error, last, hlast, _⟩
    rw [hrepeated, hlast] at hcreate
    cases hcreate
  · intro hall
    rcases create_finishes hreads hmaterial
      (@createOrRecoverEmpty_header env keyId keyMaterial hreads.journal) with
      ⟨state, directory, hcreate⟩
    refine ⟨0, state, ?_⟩
    unfold createRepeatedly
    rw [hall, List.take_length, ← journalBytes_nil, hcreate]

/-- A crash is survived exactly when it does not leave a record without its newline, nor less
than the whole header line. -/
theorem crash_survived_iff (hreads : ReadsDocuments env) (hmaterial : keyMaterial.length = 32)
    (hcommitted : Committed env.toKeyEnvironment keyId.text keyMaterial file) {state : JournalState}
    (hload : load env.toKeyEnvironment keyId.text keyMaterial file = (.ok state, file))
    {receipt : RevocationReceipt} {line : Bytes} (hline : line ≠ [])
    (happend : appendRevocation env.toKeyEnvironment keyId.text keyMaterial state request file =
      (.ok receipt, file ++ line)) {header : Bytes}
    (hcreated : createOrRecoverEmpty env.toKeyEnvironment keyId.text keyMaterial none =
      (.ok (), some header)) :
    (forall cut, cut <= line.length ->
      (SurvivesAppend env.toKeyEnvironment keyId.text keyMaterial file state line cut <->
        cut + 1 ≠ line.length)) ∧
    forall cut, cut <= header.length ->
      (SurvivesCreate env keyId.text keyMaterial header cut <-> cut = header.length) := by
  rcases hcommitted.exists_requests hreads.journal with ⟨requests, hjournaled, hfile⟩
  subst hfile
  rcases @load_journal env.toKeyEnvironment keyId keyMaterial requests hreads.journal hjournaled with
    ⟨found, hfound, hrep⟩
  rw [hfound] at hload
  have hstate := Except.ok.inj (Prod.mk.inj hload).1
  subst hstate
  rw [appendRevocation_eq hrep hjournaled] at happend
  have hafter := (Prod.mk.inj happend).2
  constructor
  · intro cut hcut
    unfold withRevocation at hafter
    split at hafter
    · exact absurd (List.append_right_eq_self.mp hafter.symm) hline
    · rename_i hkey
      split at hafter
      · rename_i hsize
        rw [journalBytes_concat] at hafter
        have hadded := List.append_cancel_left hafter
        subst hadded
        exact survivesAppend_iff hreads.journal hjournaled hsize hkey hrep hcut
      · exact absurd (List.append_right_eq_self.mp hafter.symm) hline
  · rw [createOrRecoverEmpty_none hreads.journal, journalBytes_nil] at hcreated
    have hheader := Option.some.inj (Prod.mk.inj hcreated).2
    subst hheader
    intro cut hcut
    exact survivesCreate_iff hreads hmaterial hcut

end Crashes

/-!
## A record cut right before its newline
-/

theorem sample_append :
    exists state,
      load sampleProvider.toKeyEnvironment sampleId.text sampleMaterial
          (headerLine sampleProvider.toDigest sampleId sampleMaterial) =
        (.ok state, headerLine sampleProvider.toDigest sampleId sampleMaterial) ∧
      Represents sampleProvider.toDigest sampleId sampleMaterial [] state ∧
      appendRevocation sampleProvider.toKeyEnvironment sampleId.text sampleMaterial state
          sampleRevocation (headerLine sampleProvider.toDigest sampleId sampleMaterial) =
        (.ok (receiptOf sampleProvider.toDigest sampleId sampleMaterial 0 sampleRevocation),
          headerLine sampleProvider.toDigest sampleId sampleMaterial ++
            addedLine sampleProvider.toDigest sampleId sampleMaterial [] sampleRevocation) := by
  rcases @load_journal sampleProvider.toKeyEnvironment sampleId sampleMaterial []
    sampleProvider_journal journaled_nil with ⟨state, hload, hrep⟩
  have happend := appendRevocation_new hrep (@List.not_mem_nil _ sampleRevocation.idempotencyKey)
    room_for_one
  rw [List.nil_append] at happend
  have hconcat := @journalBytes_concat sampleProvider.toDigest sampleId sampleMaterial []
    sampleRevocation
  rw [List.nil_append] at hconcat
  rw [hconcat, journalBytes_nil] at happend
  rw [journalBytes_nil] at hload
  exact ⟨state, hload, hrep, happend⟩

theorem sample_created :
    createOrRecoverEmpty sampleProvider.toKeyEnvironment sampleId.text sampleMaterial none =
      (.ok (), some (headerLine sampleProvider.toDigest sampleId sampleMaterial)) := by
  rw [createOrRecoverEmpty_none sampleProvider_journal, journalBytes_nil]

/-- A crash right before the newline of a first revocation, and one that left an empty journal
file: nothing loads and nothing is created any more. -/
theorem crash_not_survived :
    exists file state receipt line,
      Committed sampleProvider.toKeyEnvironment sampleId.text sampleMaterial file ∧
      load sampleProvider.toKeyEnvironment sampleId.text sampleMaterial file = (.ok state, file) ∧
      appendRevocation sampleProvider.toKeyEnvironment sampleId.text sampleMaterial state
        sampleRevocation file = (.ok receipt, file ++ line) ∧
      line.length - 1 < line.length ∧
      ¬ SurvivesAppend sampleProvider.toKeyEnvironment sampleId.text sampleMaterial file state line
        (line.length - 1) ∧
      ¬ SurvivesCreate sampleProvider sampleId.text sampleMaterial file 0 := by
  rcases sample_append with ⟨state, hload, hrep, happend⟩
  have hpositive := @length_addedLine_pos sampleProvider sampleId sampleMaterial [] sampleRevocation
  have hnot := not_survivesAppend sampleProvider_journal journaled_nil room_for_one
    (@List.not_mem_nil _ sampleRevocation.idempotencyKey) hrep
  rw [journalBytes_nil] at hnot
  refine ⟨_, state, _, _, .created sample_created, hload, happend, ?_, hnot, ?_⟩
  · exact Nat.sub_lt hpositive Nat.one_pos
  · intro hsurvives
    have hcut := (survivesCreate_iff sampleProvider_reads length_sampleMaterial
      (Nat.zero_le _)).mp hsurvives
    unfold headerLine at hcut
    rw [List.length_append, List.length_singleton] at hcut
    omega

theorem sample_crash_survived_iff :
    exists file state line,
      load sampleProvider.toKeyEnvironment sampleId.text sampleMaterial file = (.ok state, file) ∧
      line ≠ [] ∧
      forall cut, cut <= line.length ->
        (SurvivesAppend sampleProvider.toKeyEnvironment sampleId.text sampleMaterial file state line
          cut <-> cut + 1 ≠ line.length) := by
  rcases sample_append with ⟨state, hload, _, happend⟩
  have hline : addedLine sampleProvider.toDigest sampleId sampleMaterial [] sampleRevocation ≠ [] := by
    rw [addedLine_eq]
    exact List.append_ne_nil_of_right_ne_nil _ (List.cons_ne_nil _ _)
  exact ⟨_, state, _, hload, hline, (crash_survived_iff sampleProvider_reads
    length_sampleMaterial (.created sample_created) hload hline happend
    sample_created).left⟩

end Keys
end GraphHelm
