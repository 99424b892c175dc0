import GraphHelm.Projection.Subagents

/-!
# The delegation and subagent decisions at dispatch

`core/policy/src/delegation.rs` and `core/runtime/src/delegation.rs`, with the
session store of `core/runtime/src/session.rs` the second decision is held to.
Each subagent is judged by the node it took most recently among the other nodes.
-/

namespace GraphHelm

open Std
open ErrorState OrderedMap

/-!
## The delegation policy
-/

/-- What `GraphNode::delegation` reads of a node's `delegation` block. -/
inductive DelegationBlock where
  | absent
  | malformed
  | declared (kind : SubagentKind)
deriving DecidableEq

/-- `raised`: the tier, `steps` up, capped at the largest. -/
def raised (tier : DelegationTier) (steps : Nat) : DelegationTier :=
  let index :=
    match tier with
    | .small => 0
    | .standard => 1
    | .large => 2
  match min (index + steps) 2 with
  | 0 => .small
  | 1 => .standard
  | _ => .large

structure DelegationRule where
  tier : DelegationTier
  effort : DelegationEffort
deriving DecidableEq

structure DelegationPolicy where
  id : DelegationPolicyId
  explorer : DelegationRule
  implementer : DelegationRule
  reviewer : DelegationRule
  verifier : DelegationRule
  escalateOnRedCheck : Bool

namespace DelegationPolicy

def routed : DelegationPolicy :=
  { id := .routed
    explorer := { tier := .small, effort := .low }
    implementer := { tier := .standard, effort := .medium }
    reviewer := { tier := .standard, effort := .high }
    verifier := { tier := .small, effort := .medium }
    escalateOnRedCheck := true }

def rule (policy : DelegationPolicy) : SubagentKind -> DelegationRule
  | .explorer => policy.explorer
  | .implementer => policy.implementer
  | .reviewer => policy.reviewer
  | .verifier => policy.verifier

end DelegationPolicy

structure DelegationChoice where
  kind : SubagentKind
  tier : DelegationTier
  effort : DelegationEffort
  escalated : Bool
deriving DecidableEq

/-- Who takes a node that has failed `redChecks` mechanical checks. -/
def choose (policy : DelegationPolicy) (kind : SubagentKind) (redChecks : Nat) :
    DelegationChoice :=
  let rule := policy.rule kind
  if !policy.escalateOnRedCheck || redChecks = 0 then
    { kind := kind
      tier := rule.tier
      effort := rule.effort
      escalated := false }
  else
    let tier := raised rule.tier redChecks
    let effort := .high
    { kind := kind
      tier := tier
      effort := effort
      escalated := tier != rule.tier || effort != rule.effort }

inductive DelegationError where
  | malformed
  | nodeId
deriving DecidableEq

def delegationEvent (node : String) (block : DelegationBlock)
    (projection : ExecutionProjection) : Except DelegationError (Option DelegationChosen) :=
  match block with
  | .malformed => .error .malformed
  | .absent => .ok none
  | .declared kind => do
      let redChecks := projection.redChecks[node]?.getD 0
      let policy := DelegationPolicy.routed
      let choice := choose policy kind redChecks
      let nodeId <- orRefuse (OpaqueId.parse node) .nodeId
      .ok
        (some
          { nodeId := nodeId
            policy := policy.id
            kind := choice.kind
            tier := choice.tier
            effort := choice.effort
            escalated := choice.escalated
            redChecks := redChecks })

theorem delegationEvent_eq_some {node : String} {block : DelegationBlock}
    {projection : ExecutionProjection} {chosen : DelegationChosen}
    (h : delegationEvent node block projection = .ok (some chosen)) :
    block = .declared chosen.kind ∧ chosen.nodeId.text = node := by
  unfold delegationEvent at h
  cases block with
  | absent =>
      cases h
  | malformed =>
      cases h
  | declared kind =>
      dsimp only at h
      rcases bind_ok h with ⟨nodeId, hnode, h⟩
      cases h
      refine And.intro ?_ (OpaqueId.text_of_parse (orRefuse_eq_ok.mp hnode))
      unfold choose
      dsimp only
      split <;> rfl

theorem delegationEvent_eq_none {node : String} {block : DelegationBlock}
    {projection : ExecutionProjection} (h : delegationEvent node block projection = .ok none) :
    block = .absent := by
  unfold delegationEvent at h
  cases block with
  | absent =>
      rfl
  | malformed =>
      cases h
  | declared kind =>
      dsimp only at h
      rcases bind_ok h with ⟨nodeId, _, h⟩
      cases h

/-!
## The sessions a drive holds
-/

structure SessionTurn where
  nodeId : String
  attempt : Nat
  prompt : String
  reply : String
deriving DecidableEq

/-- The session store of one model executor, for one drive. -/
structure SubagentSessions where
  supported : Bool
  allocated : Option Nat
  held : ExtTreeMap String (List SessionTurn)
  overflowed : ExtTreeSet String

namespace SubagentSessions

def new (allocated : Option Nat) : SubagentSessions :=
  { supported := true
    allocated := allocated
    held := ∅
    overflowed := ∅ }

/-- A copy of the turns a session holds, oldest first. -/
def history (sessions : SubagentSessions) (subagentId : String) : Option (List SessionTurn) :=
  sessions.held[subagentId]?

def record (sessions : SubagentSessions) (subagentId : String) (turn : SessionTurn) :
    SubagentSessions :=
  if sessions.supported then
    { sessions with
      held :=
        sessions.held.insert subagentId (sessions.held[subagentId]?.getD [] ++ [turn]) }
  else
    sessions

/-- The provider refused the replayed history as too large. -/
def overflow (sessions : SubagentSessions) (subagentId : String) : SubagentSessions :=
  { sessions with
    held := sessions.held.erase subagentId
    overflowed := sessions.overflowed.insert subagentId }

def dropAll (sessions : SubagentSessions) : SubagentSessions :=
  { sessions with held := ∅ }

def Holds (sessions : SubagentSessions) (subagentId : String) : Prop :=
  (sessions.history subagentId).isSome = true

variable {sessions : SubagentSessions} {subagentId : String}

theorem not_holds_dropAll :
    ¬ sessions.dropAll.Holds subagentId := by
  simp [Holds, history, dropAll]

theorem holds_of_record {other : String} {turn : SessionTurn}
    (h : (sessions.record subagentId turn).Holds other) :
    other = subagentId ∨ sessions.Holds other := by
  unfold Holds history record at h
  split at h
  · rcases Decidable.em (subagentId = other) with hsame | hother
    · exact Or.inl hsame.symm
    · dsimp only at h
      rw [getElem?_insert_of_ne hother] at h
      exact Or.inr h
  · exact Or.inr h

theorem holds_of_overflow {other : String} (h : (sessions.overflow subagentId).Holds other) :
    sessions.Holds other := by
  unfold Holds history overflow at h
  dsimp only at h
  rcases Decidable.em (subagentId = other) with hsame | hother
  · rw [hsame, ExtTreeMap.getElem?_erase_self] at h
    cases h
  · rw [getElem?_erase_of_ne hother] at h
    exact h

end SubagentSessions

/-!
## The bound
-/

/-- What the reuse decision compares, and which sessions are held. -/
structure ReuseBound where
  allocated : Option Nat
  used : ExtTreeMap String (Option Nat)
  held : ExtTreeSet String
  overflowed : ExtTreeSet String

def ReuseBound.unmeasured : ReuseBound :=
  { allocated := none
    used := ∅
    held := ∅
    overflowed := ∅ }

/-- What the accounting receipts read back: the node of each, and its counted tokens. -/
abbrev ReceiptReadings := List (String × Option Nat)

/-- One receipt of the chain of its node's subagent; once unavailable, the whole chain is. -/
def countReceipt (taken : ExtTreeMap String String)
    (counted : ExtTreeMap String (Option Nat) × ExtTreeSet String)
    (reading : String × Option Nat) : ExtTreeMap String (Option Nat) × ExtTreeSet String :=
  match taken[reading.1]? with
  | none => counted
  | some subagent =>
      let slot := counted.1[subagent]?.getD (some 0)
      let value :=
        match counted.2.contains subagent, slot, reading.2 with
        | true, none, _ => none
        | _, _, none => none
        | _, _, some total => some total
      (counted.1.insert subagent value, counted.2.insert subagent)

/-- `measured_bound`; the receipts are `none` where they cannot be opened or read. -/
def measuredBound (sessions : SubagentSessions) (projection : ExecutionProjection)
    (receipts : Option ReceiptReadings) : ReuseBound :=
  if !sessions.supported then
    ReuseBound.unmeasured
  else
    let bound : ReuseBound :=
      { allocated := sessions.allocated
        used := ∅
        held := ExtTreeSet.ofList sessions.held.keys
        overflowed := sessions.overflowed }
    let taken := projection.subagents.map fun _ record => record.record.subagentId.text
    let unavailable : ExtTreeMap String (Option Nat) :=
      taken.foldl (fun used _ subagent => used.insert subagent none) ∅
    match receipts with
    | none => { bound with used := unavailable }
    | some readings =>
        let started : ExtTreeMap String (Option Nat) :=
          taken.foldl (fun used _ subagent => used.insertIfNew subagent (some 0)) ∅
        let counted := readings.foldl (countReceipt taken) (started, ∅)
        { bound with
          used :=
            counted.1.map fun subagent used =>
              if counted.2.contains subagent then used else none }

/-!
## The reuse decision
-/

/-- `REUSE_ALLOWLIST`: previous kind, receiving kind. -/
def reuseAllowlist : List (SubagentKind × SubagentKind) :=
  [(.explorer, .explorer), (.explorer, .implementer), (.implementer, .implementer)]

inductive SubagentError where
  | graphVersion
deriving DecidableEq

def otherRecords (projection : ExecutionProjection) (node : String) : List SubagentRecord :=
  (projection.subagents.toList.filter fun entry => entry.1 != node).map Prod.snd

def keepLatest (latest : ExtTreeMap String SubagentRecord) (record : SubagentRecord) :
    ExtTreeMap String SubagentRecord :=
  let id := record.record.subagentId.text
  if latest[id]?.all fun held => held.atSequence < record.atSequence then
    latest.insert id record
  else
    latest

/-- `latest`: each subagent by the node it took most recently. -/
def latestRecords (records : List SubagentRecord) : ExtTreeMap String SubagentRecord :=
  records.foldl keepLatest ∅

/-- The last of the newest records; `max_by_key` of the source. -/
def newestRecord (records : List SubagentRecord) : Option SubagentRecord :=
  records.foldl
    (fun best record =>
      match best with
      | none => some record
      | some held => if record.atSequence < held.atSequence then some held else some record)
    none

/-- Whether a subagent may be taken over: the key, and that its node finished. -/
def qualifies (chosen : DelegationChosen) (projection : ExecutionProjection)
    (graphVersion : Nat) (record : SubagentRecord) : Bool :=
  record.record.graphVersion = graphVersion &&
    reuseAllowlist.contains (record.record.kind, chosen.kind) &&
      projection.nodeStates[record.record.nodeId.text]? = some .succeeded

def reuseCandidate (chosen : DelegationChosen) (projection : ExecutionProjection)
    (graphVersion : Nat) : Option SubagentRecord :=
  newestRecord
    (((latestRecords (otherRecords projection chosen.nodeId.text)).toList.map Prod.snd).filter
      (qualifies chosen projection graphVersion))

def isReviewing : SubagentKind -> Bool
  | .reviewer | .verifier => true
  | _ => false

def subagentEvent (chosen : DelegationChosen) (projection : ExecutionProjection)
    (bound : ReuseBound) (freshId : OpaqueId) : Except SubagentError SubagentReused := do
  let graphVersion <- orRefuse projection.startedGraphVersion .graphVersion
  let fresh (basis : SubagentBasis) (used allocated : Option Nat) : SubagentReused :=
    { nodeId := chosen.nodeId
      subagentId := freshId
      kind := chosen.kind
      graphVersion := graphVersion
      basis := basis
      fromNodeId := none
      fromKind := none
      tokensUsed := used
      tokensAllocated := allocated }
  if isReviewing chosen.kind then
    let basis :=
      if (otherRecords projection chosen.nodeId.text).isEmpty then
        .noEligibleSubagent
      else
        .authorUnderReview
    .ok (fresh basis none none)
  else
    match reuseCandidate chosen projection graphVersion with
    | none => .ok (fresh .noEligibleSubagent none none)
    | some candidate =>
        let id := candidate.record.subagentId.text
        let used := bound.used[id]?.bind fun used => used
        if bound.overflowed.contains id then
          .ok (fresh .boundExceeded used bound.allocated)
        else
          match used, bound.allocated with
          | some used, some allocated =>
              if used < allocated && !bound.held.contains id then
                .ok (fresh .sessionUnavailable (some used) (some allocated))
              else if used < allocated then
                .ok
                  { nodeId := chosen.nodeId
                    subagentId := candidate.record.subagentId
                    kind := chosen.kind
                    graphVersion := graphVersion
                    basis := .reused
                    fromNodeId := some candidate.record.nodeId
                    fromKind := some candidate.record.kind
                    tokensUsed := some used
                    tokensAllocated := some allocated }
              else
                .ok (fresh .boundExceeded (some used) (some allocated))
          | used, allocated => .ok (fresh .boundUnavailable used allocated)

/-!
## What a decision establishes
-/

structure KeepsNewest (records : List SubagentRecord)
    (latest : ExtTreeMap String SubagentRecord) : Prop where
  listed : forall {id : String} {held : SubagentRecord}, latest[id]? = some held ->
    held ∈ records ∧ held.record.subagentId.text = id
  newest : forall {record : SubagentRecord}, record ∈ records ->
    exists held, latest[record.record.subagentId.text]? = some held ∧
      record.atSequence <= held.atSequence

variable {records : List SubagentRecord}

theorem KeepsNewest.keepLatest {record : SubagentRecord}
    {latest : ExtTreeMap String SubagentRecord} (h : KeepsNewest records latest) :
    KeepsNewest (records ++ [record]) (keepLatest latest record) := by
  unfold GraphHelm.keepLatest
  dsimp only
  split
  · rename_i hnewer
    constructor
    · intro id held hheld
      rcases Decidable.em (record.record.subagentId.text = id) with hsame | hother
      · rw [hsame, ExtTreeMap.getElem?_insert_self] at hheld
        cases hheld
        exact And.intro (List.mem_append_right _ List.mem_cons_self) hsame
      · rw [getElem?_insert_of_ne hother] at hheld
        exact And.intro (List.mem_append_left _ (h.listed hheld).left) (h.listed hheld).right
    · intro other hmem
      rcases Decidable.em
          (record.record.subagentId.text = other.record.subagentId.text) with hsame | hother
      · refine ⟨record, by rw [hsame, ExtTreeMap.getElem?_insert_self], ?_⟩
        rcases List.mem_append.mp hmem with hold | hnew
        · rcases h.newest hold with ⟨held, hheld, hle⟩
          rw [hsame, hheld, Option.all_some] at hnewer
          have hlt := of_decide_eq_true hnewer
          omega
        · exact Nat.le_of_eq (by rw [List.mem_singleton.mp hnew])
      · rcases List.mem_append.mp hmem with hold | hnew
        · rcases h.newest hold with ⟨held, hheld, hle⟩
          exact ⟨held, by rw [getElem?_insert_of_ne hother, hheld], hle⟩
        · rw [List.mem_singleton.mp hnew] at hother
          exact absurd rfl hother
  · rename_i hkept
    constructor
    · intro id held hheld
      exact And.intro (List.mem_append_left _ (h.listed hheld).left) (h.listed hheld).right
    · intro other hmem
      rcases List.mem_append.mp hmem with hold | hnew
      · exact h.newest hold
      · rw [List.mem_singleton.mp hnew]
        cases hheld : latest[record.record.subagentId.text]? with
        | none =>
            rw [hheld] at hkept
            exact absurd rfl hkept
        | some held =>
            rw [hheld, Option.all_some, decide_eq_true_eq] at hkept
            exact ⟨held, rfl, by omega⟩

theorem latestRecords_keepsNewest (records : List SubagentRecord) :
    KeepsNewest records (latestRecords records) := by
  induction records using List.reverseRecOn with
  | nil =>
      constructor
      · intro id held hheld
        simp [latestRecords] at hheld
      · intro record hmem
        exact absurd hmem List.not_mem_nil
  | append_singleton earlier record ih =>
      unfold latestRecords at ih ⊢
      rw [List.foldl_append]
      exact ih.keepLatest

theorem newestRecord_concat {record : SubagentRecord} :
    newestRecord (records ++ [record]) =
      match newestRecord records with
      | none => some record
      | some held => if record.atSequence < held.atSequence then some held else some record := by
  unfold newestRecord
  rw [List.foldl_append]
  rfl

theorem newestRecord_mem {newest : SubagentRecord} (h : newestRecord records = some newest) :
    newest ∈ records := by
  induction records using List.reverseRecOn generalizing newest with
  | nil =>
      cases h
  | append_singleton earlier record ih =>
      rw [newestRecord_concat] at h
      split at h
      · cases h
        exact List.mem_append_right _ List.mem_cons_self
      · rename_i held hheld
        split at h
        · cases h
          exact List.mem_append_left _ (ih hheld)
        · cases h
          exact List.mem_append_right _ List.mem_cons_self

theorem mem_otherRecords {projection : ExecutionProjection} {node : String}
    {record : SubagentRecord} : record ∈ otherRecords projection node <->
      exists other, other ≠ node ∧ projection.subagents[other]? = some record := by
  unfold otherRecords
  simp only [List.mem_map, List.mem_filter, bne_iff_ne, Prod.exists,
    ExtTreeMap.mem_toList_iff_getElem?_eq_some, exists_eq_right]
  constructor
  · rintro ⟨other, hheld, hne⟩
    exact ⟨other, hne, hheld⟩
  · rintro ⟨other, hne, hheld⟩
    exact ⟨other, hheld, hne⟩

structure NewestAmongOthers (projection : ExecutionProjection) (node : String)
    (candidate : SubagentRecord) : Prop where
  listed : candidate ∈ otherRecords projection node
  newest : forall {other : String} {held : SubagentRecord}, other ≠ node ->
    projection.subagents[other]? = some held ->
      held.record.subagentId = candidate.record.subagentId ->
        held.atSequence <= candidate.atSequence

section Decision

variable {chosen : DelegationChosen} {projection : ExecutionProjection} {bound : ReuseBound}
  {freshId : OpaqueId} {record : SubagentReused} {candidate : SubagentRecord}
  {graphVersion : Nat}

theorem reuseCandidate_eq_some
    (h : reuseCandidate chosen projection graphVersion = some candidate) :
    NewestAmongOthers projection chosen.nodeId.text candidate ∧
      qualifies chosen projection graphVersion candidate = true := by
  unfold reuseCandidate at h
  rcases List.mem_filter.mp (newestRecord_mem h) with ⟨hmem, hqualifies⟩
  rcases List.mem_map.mp hmem with ⟨⟨id, held⟩, hheld, rfl⟩
  have hkept := latestRecords_keepsNewest (otherRecords projection chosen.nodeId.text)
  have hheld := ExtTreeMap.mem_toList_iff_getElem?_eq_some.mp hheld
  rcases hkept.listed hheld with ⟨hlisted, hid⟩
  refine And.intro ⟨hlisted, ?_⟩ hqualifies
  intro other another hother hanother hsame
  rcases hkept.newest (mem_otherRecords.mpr ⟨other, hother, hanother⟩) with
    ⟨latest, hlatest, hle⟩
  rw [hsame, hid, hheld] at hlatest
  cases hlatest
  exact hle

theorem subagentEvent_names (h : subagentEvent chosen projection bound freshId = .ok record) :
    record.nodeId = chosen.nodeId ∧ record.kind = chosen.kind := by
  unfold subagentEvent at h
  rcases bind_ok h with ⟨graphVersion, _, h⟩
  dsimp only at h
  split at h
  · cases h
    exact And.intro rfl rfl
  · split at h
    · cases h
      exact And.intro rfl rfl
    · split at h
      · cases h
        exact And.intro rfl rfl
      · split at h
        · split at h
          · cases h
            exact And.intro rfl rfl
          · split at h
            · cases h
              exact And.intro rfl rfl
            · cases h
              exact And.intro rfl rfl
        · cases h
          exact And.intro rfl rfl

theorem subagentEvent_fresh (h : subagentEvent chosen projection bound freshId = .ok record)
    (hbasis : record.basis ≠ .reused) : record.subagentId = freshId := by
  unfold subagentEvent at h
  rcases bind_ok h with ⟨graphVersion, _, h⟩
  dsimp only at h
  split at h
  · cases h
    rfl
  · split at h
    · cases h
      rfl
    · split at h
      · cases h
        rfl
      · split at h
        · split at h
          · cases h
            rfl
          · split at h
            · cases h
              exact absurd rfl hbasis
            · cases h
              rfl
        · cases h
          rfl

/-- What a decision to reuse was taken on. -/
structure ReusedFrom (chosen : DelegationChosen) (projection : ExecutionProjection)
    (graphVersion : Nat) (candidate : SubagentRecord) (record : SubagentReused) : Prop where
  started : projection.startedGraphVersion = some graphVersion
  chosenFrom : reuseCandidate chosen projection graphVersion = some candidate
  subagent : record.subagentId = candidate.record.subagentId
  «from» : record.fromNodeId = some candidate.record.nodeId
  reviewing : isReviewing chosen.kind = false

theorem subagentEvent_reused (h : subagentEvent chosen projection bound freshId = .ok record)
    (hbasis : record.basis = .reused) :
    exists graphVersion candidate, ReusedFrom chosen projection graphVersion candidate record ∧
      bound.held.contains candidate.record.subagentId.text = true := by
  unfold subagentEvent at h
  rcases bind_ok h with ⟨graphVersion, hversion, h⟩
  dsimp only at h
  split at h
  · cases h
    simp only at hbasis
    split at hbasis <;> cases hbasis
  · rename_i hreviewing
    split at h
    · cases h
      cases hbasis
    · rename_i candidate hcandidate
      split at h
      · cases h
        cases hbasis
      · split at h
        · rename_i used allocated hused hallocated
          split at h
          · cases h
            cases hbasis
          · rename_i hunheld
            split at h
            · rename_i hunder
              cases h
              refine ⟨graphVersion, candidate, ?_, ?_⟩
              · exact
                  { started := orRefuse_eq_ok.mp hversion
                    chosenFrom := hcandidate
                    subagent := rfl
                    «from» := rfl
                    reviewing := Bool.eq_false_iff.mpr hreviewing }
              · simpa [hunder] using hunheld
            · cases h
              cases hbasis
        · cases h
          cases hbasis

end Decision

end GraphHelm
