import GraphHelm.Keys.Authentication
import GraphHelm.Runtime.SealedItems

/-!
# Replaying the sealed session records

`verify_session_provenance` of `core/runtime/src/session.rs`: every turn that a
session record says was replayed is compared with the record that the turn's own
attempt sealed.
-/

namespace GraphHelm

open Std
open Keys (Digest)

/-!
## The records
-/

structure TurnDigest where
  nodeId : String
  attempt : Nat
  promptDigest : String
  replyDigest : String
deriving DecidableEq

structure SessionProvenanceRecord where
  schema : String
  subagentId : String
  nodeId : String
  attempt : Nat
  promptDigest : String
  replyDigest : Option String
  replayed : List TurnDigest
deriving DecidableEq

structure SessionReaders where
  digest : Digest
  readRecord : Bytes -> Option SessionProvenanceRecord
  readReply : Bytes -> Option String

def textDigest (digest : Digest) (text : String) : String :=
  "sha256:" ++ hexEncode (digest.sha256 (utf8 text))

def sessionProvenanceSuffix : String := "session-provenance"

def replySuffix : String := "-reply"

/-- The evidence an attempt left, as the replay reads it. -/
structure SealedTurn where
  promptDigest : String
  replyDigest : Option String
deriving DecidableEq

structure SessionReplay where
  records : Nat
  replayedTurns : Nat
deriving DecidableEq

/-!
## The replay
-/

/-- The id without its last `count` characters; the ids are ASCII. -/
def cut (count : Nat) (id : String) : String :=
  String.ofList (id.toList.take (id.toList.length - count))

def recordPrefix (id : String) : Option String :=
  if id.toList.length < sessionProvenanceSuffix.toList.length + 1 then none
  else some (cut (sessionProvenanceSuffix.toList.length + 1) id)

def replyPrefix (id : String) : String :=
  cut replySuffix.toList.length id

section Replay

variable (access : EvidenceAccess) (readers : SessionReaders)

def readSealedRecord (entry : String × SealedEvidence) :
    Except SessionReplayError (String × SessionProvenanceRecord) := do
  let bytes <- orRefuse (access.openBytes entry.2) .unreadable
  let record <- orRefuse (readers.readRecord bytes) .unreadable
  .ok (entry.2.reference.evidenceId.text, record)

def readSealedReply (entry : String × SealedEvidence) :
    Except SessionReplayError (String × String) := do
  let bytes <- orRefuse (access.openBytes entry.2) .unreadable
  let text <- orRefuse (readers.readReply bytes) .unreadable
  .ok (replyPrefix entry.2.reference.evidenceId.text, textDigest readers.digest text)

def readRecords (history : List EventEnvelope) :
    Except SessionReplayError (List (String × SessionProvenanceRecord)) := do
  let items <- sealedItems access sessionProvenanceSuffix history
  items.mapM (readSealedRecord access readers)

/-- The digest of the sealed reply of each attempt, by the prefix of its evidence. -/
def readReplies (history : List EventEnvelope) :
    Except SessionReplayError (ExtTreeMap String String) := do
  let items <- sealedItems access replySuffix history
  let replies <- items.mapM (readSealedReply access readers)
  .ok (replies.foldl (fun filled reply => filled.insert reply.1 reply.2) ∅)

/-- The turn each attempt is known by; a later record of the attempt replaces an earlier one. -/
abbrev TurnTable := String × Nat -> Option SealedTurn

def keepTurn (replies : ExtTreeMap String String) (turns : TurnTable)
    (entry : String × SessionProvenanceRecord) : Except SessionReplayError TurnTable := do
  let idPrefix <- orRefuse (recordPrefix entry.1) .panicked
  .ok
    (Function.update turns (entry.2.nodeId, entry.2.attempt)
      (some { promptDigest := entry.2.promptDigest, replyDigest := replies[idPrefix]? }))

def checkTurn (turns : TurnTable) (replayedTurns : Nat) (turn : TurnDigest) :
    Except SessionReplayError Nat :=
  match turns (turn.nodeId, turn.attempt) with
  | none => .error (.missingTurn turn.nodeId turn.attempt)
  | some held =>
      if held.promptDigest ≠ turn.promptDigest then
        .error (.promptMismatch turn.nodeId turn.attempt)
      else if held.replyDigest ≠ some turn.replyDigest then
        .error (.replyMismatch turn.nodeId turn.attempt)
      else
        .ok (replayedTurns + 1)

def replayedTurns (records : List (String × SessionProvenanceRecord)) : List TurnDigest :=
  records.flatMap fun entry => entry.2.replayed

def verifySessionProvenance (history : List EventEnvelope) :
    Except SessionReplayError SessionReplay := do
  let records <- readRecords access readers history
  let replies <- readReplies access readers history
  let turns <- records.foldlM (keepTurn replies) fun _ => none
  let checked <- (replayedTurns records).foldlM (checkTurn turns) 0
  .ok { records := records.length, replayedTurns := checked }

/-!
## What a history seals
-/

def SealsRecord (event : EventEnvelope) (id : String) (record : SessionProvenanceRecord) : Prop :=
  exists node item bytes, SealsItem access sessionProvenanceSuffix event node item ∧
    item.reference.evidenceId.text = id ∧ access.openBytes item = some bytes ∧
      readers.readRecord bytes = some record

def SealsReply (event : EventEnvelope) (idPrefix digest : String) : Prop :=
  exists node item bytes text, SealsItem access replySuffix event node item ∧
    replyPrefix item.reference.evidenceId.text = idPrefix ∧
      access.openBytes item = some bytes ∧ readers.readReply bytes = some text ∧
        textDigest readers.digest text = digest

/-- An event of `before` seals the attempt that the turn names, under the subagent and with the
prompt of the turn, and the history seals a reply of it with the digest of the turn. -/
def SealedEarlier (history before : List EventEnvelope) (subagentId : String)
    (turn : TurnDigest) : Prop :=
  exists event id record idPrefix, event ∈ before ∧ SealsRecord access readers event id record ∧
    record.nodeId = turn.nodeId ∧ record.attempt = turn.attempt ∧
      record.subagentId = subagentId ∧ record.promptDigest = turn.promptDigest ∧
        recordPrefix id = some idPrefix ∧
          exists sealing, sealing ∈ history ∧
            SealsReply access readers sealing idPrefix turn.replyDigest

/-- What an accepted replay is to mean. -/
structure ReplaysEarlierTurns (history : List EventEnvelope) (replay : SessionReplay) : Prop where
  counted : forall {records : List (String × SessionProvenanceRecord)},
    readRecords access readers history = .ok records ->
      replay = { records := records.length, replayedTurns := (replayedTurns records).length }
  earlier : forall {before after : List EventEnvelope} {event : EventEnvelope} {id : String}
    {record : SessionProvenanceRecord} {turn : TurnDigest}, history = before ++ event :: after ->
      SealsRecord access readers event id record -> turn ∈ record.replayed ->
        SealedEarlier access readers history before record.subagentId turn

def AcceptsEarlierTurnsOnly (history : List EventEnvelope) : Prop :=
  forall replay, verifySessionProvenance access readers history = .ok replay ->
    ReplaysEarlierTurns access readers history replay

/-!
## What the check looks at
-/

def lastRecord (records : List (String × SessionProvenanceRecord)) (key : String × Nat) :
    Option (String × SessionProvenanceRecord) :=
  records.reverse.find? fun entry => decide ((entry.2.nodeId, entry.2.attempt) = key)

def replyOf (replies : ExtTreeMap String String) (id : String) : Option String :=
  (recordPrefix id).bind fun idPrefix => replies[idPrefix]?

def TurnAgrees (records : List (String × SessionProvenanceRecord))
    (replies : ExtTreeMap String String) (turn : TurnDigest) : Prop :=
  exists last, lastRecord records (turn.nodeId, turn.attempt) = some last ∧
    last.2.promptDigest = turn.promptDigest ∧ replyOf replies last.1 = some turn.replyDigest

/-- An event of `before` seals, under the subagent, a record of the turn's node and attempt that
carries the digests of the last such record. -/
def OwnedBefore (records : List (String × SessionProvenanceRecord))
    (replies : ExtTreeMap String String) (before : List EventEnvelope) (subagentId : String)
    (turn : TurnDigest) : Prop :=
  exists event id record last, event ∈ before ∧ SealsRecord access readers event id record ∧
    record.nodeId = turn.nodeId ∧ record.attempt = turn.attempt ∧
      record.subagentId = subagentId ∧
        lastRecord records (turn.nodeId, turn.attempt) = some last ∧
          record.promptDigest = last.2.promptDigest ∧ replyOf replies id = replyOf replies last.1

/-- Where the evidence can be read, a turn disagrees with the last record of its attempt, or every
turn is owned by an earlier record of the same subagent. -/
def TurnsOwnedBefore (history : List EventEnvelope) : Prop :=
  forall records replies, readRecords access readers history = .ok records ->
    readReplies access readers history = .ok replies ->
      (forall entry, entry ∈ records -> (recordPrefix entry.1).isSome = true) ->
        (exists turn, turn ∈ replayedTurns records ∧ ¬ TurnAgrees records replies turn) ∨
          forall before event after, history = before ++ event :: after ->
            forall id record turn, SealsRecord access readers event id record ->
              turn ∈ record.replayed ->
                OwnedBefore access readers records replies before record.subagentId turn

end Replay

/-!
## What is read
-/

section Read

variable {access : EvidenceAccess} {readers : SessionReaders} {history : List EventEnvelope}
  {records : List (String × SessionProvenanceRecord)} {replies : ExtTreeMap String String}

theorem mem_readRecords (h : readRecords access readers history = .ok records) {id : String}
    {record : SessionProvenanceRecord} : (id, record) ∈ records <->
      exists event, event ∈ history ∧ SealsRecord access readers event id record := by
  unfold readRecords at h
  rcases bind_ok h with ⟨items, hitems, h⟩
  constructor
  · intro hmem
    rcases Except.mem_of_mapM h hmem with ⟨⟨node, item⟩, hitem, hread⟩
    unfold readSealedRecord at hread
    rcases bind_ok hread with ⟨bytes, hbytes, hread⟩
    rcases bind_ok hread with ⟨record, hrecord, hread⟩
    cases hread
    rcases (mem_sealedItems hitems).mp hitem with ⟨event, hevent, hseals⟩
    exact ⟨event, hevent, node, item, bytes, hseals, rfl, orRefuse_eq_ok.mp hbytes,
      orRefuse_eq_ok.mp hrecord⟩
  · intro hseals
    rcases hseals with ⟨event, hevent, node, item, bytes, hitem, hid, hbytes, hrecord⟩
    have hlisted := (mem_sealedItems hitems).mpr ⟨event, hevent, hitem⟩
    rcases Except.answered_of_mapM h hlisted with ⟨answer, hanswer, hread⟩
    unfold readSealedRecord at hread
    rw [Except.orRefuse_bind hbytes, Except.orRefuse_bind hrecord, hid] at hread
    cases hread
    exact hanswer

theorem mem_replayedTurns {turn : TurnDigest} : turn ∈ replayedTurns records <->
    exists id record, (id, record) ∈ records ∧ turn ∈ record.replayed := by
  unfold replayedTurns
  rw [List.mem_flatMap]
  constructor
  · intro h
    rcases h with ⟨entry, hentry, hturn⟩
    exact ⟨entry.1, entry.2, hentry, hturn⟩
  · intro h
    rcases h with ⟨id, record, hentry, hturn⟩
    exact ⟨(id, record), hentry, hturn⟩

theorem cut_injective {suffix a b : String} (ha : endsWith suffix a = true)
    (hb : endsWith suffix b = true)
    (h : cut suffix.toList.length a = cut suffix.toList.length b) : a = b := by
  have hsplit : forall {text : String}, endsWith suffix text = true ->
      text.toList = (cut suffix.toList.length text).toList ++ suffix.toList := by
    intro text hends
    unfold endsWith at hends
    rcases List.isSuffixOf_iff_suffix.mp hends with ⟨front, hfront⟩
    unfold cut
    rw [String.toList_ofList, <- hfront, List.length_append, Nat.add_sub_cancel,
      List.take_left]
  have hlist : a.toList = b.toList := by
    rw [hsplit ha, hsplit hb, h]
  exact String.toList_injective hlist

theorem SealsReply.unique {event event' : EventEnvelope} {idPrefix digest digest' : String}
    (h : SealsReply access readers event idPrefix digest)
    (h' : SealsReply access readers event' idPrefix digest') : digest = digest' := by
  rcases h with ⟨node, item, bytes, text, hitem, hbegins, hbytes, htext, hdigest⟩
  rcases h' with ⟨node', item', bytes', text', hitem', hbegins', hbytes', htext', hdigest'⟩
  have hid := cut_injective hitem.endsWith hitem'.endsWith (hbegins.trans hbegins'.symm)
  have hsame := hitem.eq_of_id hitem' hid
  rw [hsame, hbytes'] at hbytes
  cases hbytes
  rw [htext'] at htext
  cases htext
  rw [<- hdigest, hdigest']

theorem readReplies_eq_some (h : readReplies access readers history = .ok replies)
    {idPrefix digest : String} : replies[idPrefix]? = some digest <->
      exists event, event ∈ history ∧ SealsReply access readers event idPrefix digest := by
  unfold readReplies at h
  rcases bind_ok h with ⟨items, hitems, h⟩
  rcases bind_ok h with ⟨pairs, hpairs, h⟩
  have hseals : forall {key value : String}, (key, value) ∈ pairs <->
      exists event, event ∈ history ∧ SealsReply access readers event key value := by
    intro key value
    constructor
    · intro hmem
      rcases Except.mem_of_mapM hpairs hmem with ⟨⟨node, item⟩, hitem, hread⟩
      unfold readSealedReply at hread
      rcases bind_ok hread with ⟨bytes, hbytes, hread⟩
      rcases bind_ok hread with ⟨text, htext, hread⟩
      cases hread
      rcases (mem_sealedItems hitems).mp hitem with ⟨event, hevent, hseals⟩
      exact ⟨event, hevent, node, item, bytes, text, hseals, rfl, orRefuse_eq_ok.mp hbytes,
        orRefuse_eq_ok.mp htext, rfl⟩
    · intro hreply
      rcases hreply with ⟨event, hevent, node, item, bytes, text, hitem, hbegins, hbytes, htext,
        hdigest⟩
      have hlisted := (mem_sealedItems hitems).mpr ⟨event, hevent, hitem⟩
      rcases Except.answered_of_mapM hpairs hlisted with ⟨answer, hanswer, hread⟩
      unfold readSealedReply at hread
      rw [Except.orRefuse_bind hbytes, Except.orRefuse_bind htext, hbegins, hdigest] at hread
      cases hread
      exact hanswer
  rw [<- Except.ok.inj h, OrderedMap.getElem?_foldl_insert_of, ExtTreeMap.getElem?_empty,
    Option.or_none]
  constructor
  · intro hfound
    rcases Option.map_eq_some_iff.mp hfound with ⟨pair, hpair, hdigest⟩
    have hkey : pair.1 = idPrefix := by simpa using List.find?_some hpair
    have hmem := List.mem_reverse.mp (List.mem_of_find?_eq_some hpair)
    rw [<- hkey, <- hdigest]
    exact hseals.mp hmem
  · intro hreply
    have hmem := hseals.mpr hreply
    cases hpair : pairs.reverse.find? (fun pair => decide (pair.1 = idPrefix)) with
    | none =>
        have hnot := List.find?_eq_none.mp hpair _ (List.mem_reverse.mpr hmem)
        exact absurd (decide_eq_true rfl) hnot
    | some pair =>
        have hkey : pair.1 = idPrefix := by simpa using List.find?_some hpair
        have hother := List.mem_reverse.mp (List.mem_of_find?_eq_some hpair)
        rcases hseals.mp hother with ⟨event, _, hseal⟩
        rcases hreply with ⟨event', _, hseal'⟩
        rw [hkey] at hseal
        rw [Option.map_some, hseal.unique hseal']

end Read

/-!
## What is checked
-/

section Checked

variable {access : EvidenceAccess} {readers : SessionReaders} {history : List EventEnvelope}
  {records : List (String × SessionProvenanceRecord)} {replies : ExtTreeMap String String}
  {turns : TurnTable}

def turnOf (replies : ExtTreeMap String String) (entry : String × SessionProvenanceRecord) :
    SealedTurn :=
  { promptDigest := entry.2.promptDigest, replyDigest := replyOf replies entry.1 }

theorem keepTurns_eq_ok {start : TurnTable} :
    records.foldlM (keepTurn replies) start = .ok turns <->
      (forall entry, entry ∈ records -> (recordPrefix entry.1).isSome = true) ∧
        turns = fun key => ((lastRecord records key).map (turnOf replies)).or (start key) := by
  induction records generalizing start with
  | nil =>
      constructor
      · intro h
        cases h
        exact And.intro (fun _ hmem => absurd hmem List.not_mem_nil) rfl
      · intro h
        rw [h.right]
        rfl
  | cons entry rest ih =>
      rw [List.foldlM_cons]
      unfold keepTurn
      cases hbegins : recordPrefix entry.1 with
      | none =>
          constructor
          · intro h
            cases h
          · intro h
            have hsome := h.left entry List.mem_cons_self
            rw [hbegins] at hsome
            cases hsome
      | some idPrefix =>
          have hturn : turnOf replies entry =
              { promptDigest := entry.2.promptDigest, replyDigest := replies[idPrefix]? } := by
            unfold turnOf replyOf
            rw [hbegins]
            rfl
          have hkept : forall key, ((lastRecord (entry :: rest) key).map (turnOf replies)).or
              (start key) = ((lastRecord rest key).map (turnOf replies)).or
                (Function.update start (entry.2.nodeId, entry.2.attempt)
                  (some (turnOf replies entry)) key) := by
            intro key
            unfold lastRecord
            rw [List.reverse_cons, List.find?_append, List.find?_singleton]
            cases rest.reverse.find?
                (fun entry => decide ((entry.2.nodeId, entry.2.attempt) = key)) with
            | some found => rfl
            | none =>
                rcases Decidable.em ((entry.2.nodeId, entry.2.attempt) = key) with hsame | hother
                · rw [<- hsame, Function.update_self, if_pos (decide_eq_true rfl)]
                  rfl
                · rw [Function.update_of_ne (Ne.symm hother), decide_eq_false hother]
                  rfl
          have hstep := @ih (Function.update start (entry.2.nodeId, entry.2.attempt)
            (some (turnOf replies entry)))
          rw [hturn] at hstep
          constructor
          · intro h
            rcases hstep.mp h with ⟨hrest, hturns⟩
            constructor
            · intro other hmem
              rcases List.mem_cons.mp hmem with hfirst | hlater
              · rw [hfirst, hbegins]
                rfl
              · exact hrest other hlater
            · rw [hturns]
              funext key
              rw [hkept key, hturn]
          · intro h
            refine hstep.mpr (And.intro ?_ ?_)
            · intro other hmem
              exact h.left other (List.mem_cons_of_mem _ hmem)
            · rw [h.right]
              funext key
              rw [hkept key, hturn]

theorem checkTurn_eq_ok {start count : Nat} {turn : TurnDigest}
    (hturns : turns = fun key => (lastRecord records key).map (turnOf replies)) :
    checkTurn turns start turn = .ok count <->
      TurnAgrees records replies turn ∧ count = start + 1 := by
  unfold checkTurn TurnAgrees
  rw [hturns]
  dsimp only
  cases hlast : lastRecord records (turn.nodeId, turn.attempt) with
  | none =>
      constructor
      · intro h
        cases h
      · intro h
        rcases h.left with ⟨last, hnone, _⟩
        cases hnone
  | some last =>
      rw [Option.map_some]
      unfold turnOf
      dsimp only
      constructor
      · intro h
        split at h
        · cases h
        · rename_i hprompt
          split at h
          · cases h
          · rename_i hreply
            cases h
            exact And.intro ⟨last, rfl, not_not.mp hprompt, not_not.mp hreply⟩ rfl
      · intro h
        rcases h with ⟨⟨other, hother, hprompt, hreply⟩, hcount⟩
        cases hother
        rw [if_neg (not_not.mpr hprompt), if_neg (not_not.mpr hreply), hcount]

theorem checkTurns_eq_ok {start count : Nat} {checked : List TurnDigest}
    (hturns : turns = fun key => (lastRecord records key).map (turnOf replies)) :
    checked.foldlM (checkTurn turns) start = .ok count <->
      (forall turn, turn ∈ checked -> TurnAgrees records replies turn) ∧
        count = start + checked.length := by
  induction checked generalizing start with
  | nil =>
      constructor
      · intro h
        cases h
        exact And.intro (fun _ hmem => absurd hmem List.not_mem_nil) rfl
      · intro h
        rw [h.right]
        rfl
  | cons turn rest ih =>
      rw [List.foldlM_cons, Except.bind_eq_ok, List.length_cons]
      constructor
      · intro h
        rcases h with ⟨middle, hfirst, hrest⟩
        rcases (checkTurn_eq_ok hturns).mp hfirst with ⟨hagrees, hmiddle⟩
        rcases ih.mp hrest with ⟨hall, hcount⟩
        constructor
        · intro other hmem
          rcases List.mem_cons.mp hmem with hsame | hlater
          · exact hsame ▸ hagrees
          · exact hall other hlater
        · omega
      · intro h
        have hfirst := h.left turn List.mem_cons_self
        refine ⟨start + 1, (checkTurn_eq_ok hturns).mpr (And.intro hfirst rfl), ih.mpr ?_⟩
        constructor
        · intro other hmem
          exact h.left other (List.mem_cons_of_mem _ hmem)
        · omega

theorem verifySessionProvenance_eq_ok {replay : SessionReplay} :
    verifySessionProvenance access readers history = .ok replay <->
      exists records replies, readRecords access readers history = .ok records ∧
        readReplies access readers history = .ok replies ∧
          (forall entry, entry ∈ records -> (recordPrefix entry.1).isSome = true) ∧
            (forall turn, turn ∈ replayedTurns records -> TurnAgrees records replies turn) ∧
              replay = { records := records.length
                         replayedTurns := (replayedTurns records).length } := by
  unfold verifySessionProvenance
  constructor
  · intro h
    rcases bind_ok h with ⟨records, hrecords, h⟩
    rcases bind_ok h with ⟨replies, hreplies, h⟩
    rcases bind_ok h with ⟨turns, hturns, h⟩
    rcases bind_ok h with ⟨checked, hchecked, h⟩
    cases h
    rcases keepTurns_eq_ok.mp hturns with ⟨hprefixes, hturns⟩
    simp only [Option.or_none] at hturns
    rcases (checkTurns_eq_ok hturns).mp hchecked with ⟨hagree, hcount⟩
    rw [Nat.zero_add] at hcount
    exact ⟨records, replies, hrecords, hreplies, hprefixes, hagree, hcount ▸ rfl⟩
  · intro h
    rcases h with ⟨records, replies, hrecords, hreplies, hprefixes, hagree, hreplay⟩
    refine Except.bind_eq_ok.mpr ⟨records, hrecords, ?_⟩
    refine Except.bind_eq_ok.mpr ⟨replies, hreplies, ?_⟩
    refine Except.bind_eq_ok.mpr ⟨_, keepTurns_eq_ok.mpr (And.intro hprefixes rfl), ?_⟩
    have hchecked := (checkTurns_eq_ok (funext fun key => Option.or_none)).mpr
      (And.intro hagree (Nat.zero_add (replayedTurns records).length).symm)
    refine Except.bind_eq_ok.mpr ⟨_, hchecked, ?_⟩
    rw [hreplay]

theorem sealedEarlier_iff {before : List EventEnvelope} {subagentId : String}
    {turn : TurnDigest} (hreplies : readReplies access readers history = .ok replies)
    (hagrees : TurnAgrees records replies turn) :
    SealedEarlier access readers history before subagentId turn <->
      OwnedBefore access readers records replies before subagentId turn := by
  rcases hagrees with ⟨last, hlast, hprompt, hreply⟩
  have hreplyOf : forall {id : String}, replyOf replies id = some turn.replyDigest <->
      exists idPrefix, recordPrefix id = some idPrefix ∧ exists sealing, sealing ∈ history ∧
        SealsReply access readers sealing idPrefix turn.replyDigest := by
    intro id
    unfold replyOf
    rw [Option.bind_eq_some_iff]
    constructor
    · intro h
      rcases h with ⟨idPrefix, hbegins, hheld⟩
      exact ⟨idPrefix, hbegins, (readReplies_eq_some hreplies).mp hheld⟩
    · intro h
      rcases h with ⟨idPrefix, hbegins, hseals⟩
      exact ⟨idPrefix, hbegins, (readReplies_eq_some hreplies).mpr hseals⟩
  constructor
  · intro h
    rcases h with ⟨event, id, record, idPrefix, hevent, hseals, hnode, hattempt, howner, hsame,
      hbegins, hsealing⟩
    have hid := hreplyOf.mpr ⟨idPrefix, hbegins, hsealing⟩
    exact ⟨event, id, record, last, hevent, hseals, hnode, hattempt, howner, hlast,
      hsame.trans hprompt.symm, hid.trans hreply.symm⟩
  · intro h
    rcases h with ⟨event, id, record, other, hevent, hseals, hnode, hattempt, howner, hother,
      hsame, hid⟩
    rw [hlast] at hother
    cases hother
    rcases hreplyOf.mp (hid.trans hreply) with ⟨idPrefix, hbegins, hsealing⟩
    exact ⟨event, id, record, idPrefix, hevent, hseals, hnode, hattempt, howner,
      hsame.trans hprompt, hbegins, hsealing⟩

end Checked

/-!
## A turn that replays itself
-/

namespace Sample

/-- The hash of `done`, in its place. -/
def doneDigest : Digest :=
  { sha256 := fun bytes =>
      if bytes = utf8 "done" then
        [0xa4, 0xc3, 0xed, 0x04, 0xa9, 0x5a, 0x3d, 0xa1, 0x4a, 0x9d, 0x23, 0x5c, 0x83, 0xd8, 0x68,
          0xbe, 0xd7, 0xc0, 0xf4, 0x5c, 0xf7, 0xf3, 0xfa, 0xa7, 0x51, 0xee, 0x8f, 0x50, 0x59, 0x8d,
          0x22, 0x11]
      else
        List.replicate 32 0
    length := by
      intro bytes
      split
      · rfl
      · rfl }

/-- The prompt of the turn, `briefing`, and its reply, `done`. -/
def ownTurn : TurnDigest :=
  { nodeId := "a"
    attempt := 1
    promptDigest := "sha256:714e51bab9a4176cef278e85dccf1de3acfa2ff12c24d9dae9fbad5926f35205"
    replyDigest := "sha256:a4c3ed04a95a3da14a9d235c83d868bed7c0f45cf7f3faa751ee8f50598d2211" }

def replayingItself : SessionProvenanceRecord :=
  { schema := "session-provenance@1"
    subagentId := "sa-1"
    nodeId := ownTurn.nodeId
    attempt := ownTurn.attempt
    promptDigest := ownTurn.promptDigest
    replyDigest := some ownTurn.replyDigest
    replayed := [ownTurn] }

def turnMembers : String :=
  "\"nodeId\":\"a\",\"attempt\":1,\"promptDigest\":\"" ++ ownTurn.promptDigest ++
    "\",\"replyDigest\":\"" ++ ownTurn.replyDigest ++ "\""

def recordJson : Bytes :=
  utf8 ("\x7b\"schema\":\"session-provenance@1\",\"subagentId\":\"sa-1\"," ++ turnMembers ++
    ",\"replayed\":[\x7b" ++ turnMembers ++ "\x7d]\x7d")

def replyJson : Bytes :=
  utf8 "\x7b\"text\":\"done\",\"usage\":\x7b\"inputTokens\":null,\"outputTokens\":null\x7d\x7d"

def readRecordJson (bytes : Bytes) : Option SessionProvenanceRecord :=
  if bytes = recordJson then some replayingItself else none

def readReplyJson (bytes : Bytes) : Option String :=
  if bytes = replyJson then some "done" else none

def sessionReaders : SessionReaders :=
  { digest := doneDigest, readRecord := readRecordJson, readReply := readReplyJson }

def sealedReference (id : EvidenceId) : EvidenceReference :=
  { evidenceId := id, contentSha256 := "", ciphertextSha256 := "" }

def sealedAs (id : EvidenceId) : SealedEvidence :=
  { scope := scope, reference := sealedReference id, ciphertextLength := 0, body := "" }

def openedBytes (item : SealedEvidence) : Bytes :=
  if endsWith replySuffix item.reference.evidenceId.text = true then replyJson else recordJson

def sessionAccess : EvidenceAccess :=
  { sealedEvidence := fun id => .ok (.available (sealedAs id))
    openBytes := fun item => some (openedBytes item)
    servedAsAsked := by
      intro id item h
      cases h
      rfl }

def selfReplayed : List EventEnvelope :=
  history
    [{ event "outcome" (.nodeOutcomeRecorded
        { executionId := id "execution"
          nodeId := id "a"
          outcome := .succeeded
          nextState := .succeeded
          cause := "" }) with
        evidenceRefs :=
          [sealedReference (id "exec-e-a-a1-session-provenance"),
            sealedReference (id "exec-e-a-a1-reply")] }]

end Sample

namespace Sample

theorem selfReplayed_records : readRecords sessionAccess sessionReaders selfReplayed =
    .ok [("exec-e-a-a1-session-provenance", replayingItself)] := by
  have hitems : sealedItems sessionAccess sessionProvenanceSuffix selfReplayed =
      .ok [("a", sealedAs (id "exec-e-a-a1-session-provenance"))] := rfl
  have hopened : openedBytes (sealedAs (id "exec-e-a-a1-session-provenance")) = recordJson := by
    unfold openedBytes
    exact if_neg (by decide)
  have hbytes : sessionAccess.openBytes (sealedAs (id "exec-e-a-a1-session-provenance")) =
      some recordJson := congrArg some hopened
  have hrecord : sessionReaders.readRecord recordJson = some replayingItself := by
    have hreader : sessionReaders.readRecord = readRecordJson := rfl
    rw [hreader]
    unfold readRecordJson
    exact if_pos rfl
  unfold readRecords
  rw [hitems, Except.ok_bind, List.mapM_cons, List.mapM_nil]
  unfold readSealedRecord
  rw [Except.orRefuse_bind hbytes, Except.orRefuse_bind hrecord]
  rfl

theorem selfReplayed_replies : readReplies sessionAccess sessionReaders selfReplayed =
    .ok ((∅ : ExtTreeMap String String).insert "exec-e-a-a1" ownTurn.replyDigest) := by
  have hitems : sealedItems sessionAccess replySuffix selfReplayed =
      .ok [("a", sealedAs (id "exec-e-a-a1-reply"))] := rfl
  have hopened : openedBytes (sealedAs (id "exec-e-a-a1-reply")) = replyJson := by
    unfold openedBytes
    exact if_pos (by decide)
  have hbytes : sessionAccess.openBytes (sealedAs (id "exec-e-a-a1-reply")) = some replyJson :=
    congrArg some hopened
  have htext : sessionReaders.readReply replyJson = some "done" := by
    have hreader : sessionReaders.readReply = readReplyJson := rfl
    rw [hreader]
    unfold readReplyJson
    exact if_pos rfl
  have hdigest : textDigest sessionReaders.digest "done" = ownTurn.replyDigest := rfl
  unfold readReplies
  rw [hitems, Except.ok_bind, List.mapM_cons, List.mapM_nil]
  unfold readSealedReply
  rw [Except.orRefuse_bind hbytes, Except.orRefuse_bind htext, hdigest]
  rfl

theorem selfReplayed_accepted : verifySessionProvenance sessionAccess sessionReaders selfReplayed =
    .ok { records := 1, replayedTurns := 1 } := by
  refine verifySessionProvenance_eq_ok.mpr
    ⟨_, _, selfReplayed_records, selfReplayed_replies, ?_, ?_, rfl⟩
  · intro entry hentry
    rw [List.mem_singleton.mp hentry]
    rfl
  · intro turn hturn
    rw [List.mem_singleton.mp hturn]
    refine ⟨_, rfl, rfl, ?_⟩
    have hbegins : recordPrefix "exec-e-a-a1-session-provenance" = some "exec-e-a-a1" := rfl
    unfold replyOf
    rw [hbegins, Option.bind_some, ExtTreeMap.getElem?_insert_self]

end Sample

end GraphHelm
