import GraphHelm.Store.Loaded

/-!
# The sealed items of a history

`sealed_items` of `core/runtime/src/session.rs`: the sealed evidence that the
outcomes of a stream refer to under a suffix of its id, in journal order, with
the node each was recorded against.
-/

namespace GraphHelm

open Std

inductive EvidenceRead where
  | available (item : SealedEvidence)
  | unavailable
deriving DecidableEq

/--
What reads sealed evidence for one scope: `LocalEventRepository::sealed_evidence`,
which serves an item only as the one it was asked for, and an `EvidenceOpener`.
-/
structure EvidenceAccess where
  sealedEvidence : EvidenceId -> Except EventRepositoryError EvidenceRead
  openBytes : SealedEvidence -> Option Bytes
  servedAsAsked : forall {id : EvidenceId} {item : SealedEvidence},
    sealedEvidence id = .ok (.available item) -> item.reference.evidenceId = id

def readSealedEvidence (blobs : Blobs) (state : LoadedState) (scope : RepositoryScope)
    (id : EvidenceId) : Except EventRepositoryError EvidenceRead := do
  let key : ObjectKey := { scope := scope, id := id }
  check (state.reachableEvidence.contains key) .invalid
  let stored <- orRefuse blobs[key]? .storage
  check (decide (stored.scope = scope) && decide (stored.reference.evidenceId = id)) .integrity
  .ok (.available stored)

def localAccess (blobs : Blobs) (state : LoadedState) (scope : RepositoryScope)
    (openBytes : SealedEvidence -> Option Bytes) : EvidenceAccess :=
  { sealedEvidence := readSealedEvidence blobs state scope
    openBytes := openBytes
    servedAsAsked := by
      intro id item h
      unfold readSealedEvidence at h
      rcases check_ok h with ⟨_, h⟩
      rcases bind_ok h with ⟨stored, _, h⟩
      rcases check_ok h with ⟨hsame, h⟩
      cases h
      rw [Bool.and_eq_true] at hsame
      exact of_decide_eq_true hsame.right }

/-!
## Why a replay is refused
-/

/-- `panicked` stands for a slice out of bounds; the others are the source's. -/
inductive SessionReplayError where
  | repository (error : EventRepositoryError)
  | evidenceUnavailable
  | unreadable
  | missingTurn (nodeId : String) (attempt : Nat)
  | promptMismatch (nodeId : String) (attempt : Nat)
  | replyMismatch (nodeId : String) (attempt : Nat)
  | panicked
deriving DecidableEq

/-!
## The items
-/

def endsWith (suffix text : String) : Bool :=
  suffix.toList.isSuffixOf text.toList

def itemReferences (suffix : String) (event : EventEnvelope) :
    List (String × EvidenceReference) :=
  match event.kind with
  | .nodeOutcomeRecorded recorded =>
      (event.evidenceRefs.filter fun reference => endsWith suffix reference.evidenceId.text).map
        fun reference => (recorded.nodeId.text, reference)
  | _ => []

def sealedItem (access : EvidenceAccess) (entry : String × EvidenceReference) :
    Except SessionReplayError (String × SealedEvidence) :=
  match access.sealedEvidence entry.2.evidenceId with
  | .error error => .error (.repository error)
  | .ok (.available item) => .ok (entry.1, item)
  | .ok .unavailable => .error .evidenceUnavailable

def sealedItems (access : EvidenceAccess) (suffix : String) (history : List EventEnvelope) :
    Except SessionReplayError (List (String × SealedEvidence)) :=
  (history.flatMap (itemReferences suffix)).mapM (sealedItem access)

def SealsItem (access : EvidenceAccess) (suffix : String) (event : EventEnvelope)
    (node : String) (item : SealedEvidence) : Prop :=
  exists reference, (node, reference) ∈ itemReferences suffix event ∧
    access.sealedEvidence reference.evidenceId = .ok (.available item)

variable {access : EvidenceAccess} {suffix node : String} {history : List EventEnvelope}
  {event : EventEnvelope} {items : List (String × SealedEvidence)} {item : SealedEvidence}

theorem sealedItem_eq_ok {entry : String × EvidenceReference} :
    sealedItem access entry = .ok (node, item) <->
      entry.1 = node ∧ access.sealedEvidence entry.2.evidenceId = .ok (.available item) := by
  unfold sealedItem
  cases hread : access.sealedEvidence entry.2.evidenceId with
  | error error =>
      constructor
      · intro h
        cases h
      · intro h
        cases h.right
  | ok answer =>
      cases answer with
      | available other =>
          constructor
          · intro h
            cases h
            exact And.intro rfl rfl
          · intro h
            cases h.left
            cases h.right
            rfl
      | unavailable =>
          constructor
          · intro h
            cases h
          · intro h
            cases h.right

theorem mem_sealedItems (h : sealedItems access suffix history = .ok items) :
    (node, item) ∈ items <->
      exists event, event ∈ history ∧ SealsItem access suffix event node item := by
  constructor
  · intro hmem
    rcases Except.mem_of_mapM h hmem with ⟨entry, hentry, hitem⟩
    rcases List.mem_flatMap.mp hentry with ⟨event, hevent, hreference⟩
    rcases sealedItem_eq_ok.mp hitem with ⟨hnode, hread⟩
    exact ⟨event, hevent, entry.2, hnode ▸ hreference, hread⟩
  · intro hseals
    rcases hseals with ⟨event, hevent, reference, hreference, hread⟩
    have hentry := List.mem_flatMap.mpr ⟨event, hevent, hreference⟩
    rcases Except.answered_of_mapM h hentry with ⟨answer, hanswer, hitem⟩
    have hexpected : sealedItem access (node, reference) = .ok (node, item) :=
      sealedItem_eq_ok.mpr (And.intro rfl hread)
    rw [hexpected] at hitem
    cases hitem
    exact hanswer

theorem SealsItem.endsWith (h : SealsItem access suffix event node item) :
    GraphHelm.endsWith suffix item.reference.evidenceId.text = true := by
  rcases h with ⟨reference, hreference, hread⟩
  rw [access.servedAsAsked hread]
  unfold itemReferences at hreference
  split at hreference
  · rcases List.mem_map.mp hreference with ⟨listed, hlisted, hentry⟩
    cases hentry
    exact (List.mem_filter.mp hlisted).right
  · exact absurd hreference List.not_mem_nil

theorem SealsItem.eq_of_id {other : SealedEvidence} {event' : EventEnvelope} {node' : String}
    (h : SealsItem access suffix event node item)
    (h' : SealsItem access suffix event' node' other)
    (hid : item.reference.evidenceId.text = other.reference.evidenceId.text) : item = other := by
  rcases h with ⟨reference, _, hread⟩
  rcases h' with ⟨reference', _, hread'⟩
  rw [access.servedAsAsked hread, access.servedAsAsked hread'] at hid
  rw [OpaqueId.text_injective hid, hread'] at hread
  cases hread
  rfl

end GraphHelm
