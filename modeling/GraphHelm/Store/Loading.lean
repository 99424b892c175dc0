import GraphHelm.Library.Runs
import GraphHelm.Store.Loads

/-!
# What an append leaves to be loaded

The writer counts the batches and the events an open would find; the loader
counts eight more things.  An accepted append leaves a store that loads exactly
when all ten counters have room for its batch, or when it only returned a batch
that was there.
-/

namespace GraphHelm

open Std ErrorState

/-!
## Runs of calls
-/

/-- What happens to a store: a call of some handle, or an opening that recovers. -/
inductive StoreAction where
  | append (call : Call) (request : PreparedAppend)
  | recover

def Store.step (env : SealEnvironment) (store : Store) : StoreAction -> Option Store
  | .append call request => some (stateAfter (appendLocked env call request) store)
  | .recover => some (recoverTornTail env.toStoreEnvironment store)

section Runs

variable {env : SealEnvironment} {store after : Store} {action : StoreAction}
  {actions : List StoreAction}

theorem recoverTornTail_eq (env : StoreEnvironment) (store : Store) :
    recoverTornTail env store = store ∨
      recoverTornTail env store = { store with torn := false } := by
  unfold recoverTornTail
  split
  · exact Or.inr rfl
  · exact Or.inl rfl

theorem Store.step_sound (h : store.Sound env.toStoreEnvironment)
    (hstep : Store.step env store action = some after) : after.Sound env.toStoreEnvironment := by
  cases action with
  | append call request =>
      cases hstep
      cases appendLocked_left h with
      | unwritten hunwritten =>
          exact hunwritten.sound
      | written _ _ hwritten =>
          exact hwritten.sound
  | recover =>
      cases hstep
      rcases recoverTornTail_eq env.toStoreEnvironment store with heq | heq
      · rw [heq]
        exact h
      · rw [heq]
        exact ⟨h.committed, h.seals, h.supported, h.filed⟩

theorem Store.Sound.of_run (hrun : run (Store.step env) Store.empty actions = some store) :
    store.Sound env.toStoreEnvironment :=
  run_invariant (fun h hstep => Store.step_sound h hstep)
    (Store.empty_sound env.toStoreEnvironment) hrun

def HasRoom (env : SealEnvironment) (store : Store) : StoreAction -> Prop
  | .append call request =>
      Recorded store request ∨ RoomToOpen env.toStoreEnvironment call.rotateAt store request
  | .recover => True

theorem Store.step_loads (h : store.Sound env.toStoreEnvironment)
    (hloads : store.Loads env.toStoreEnvironment) (hroom : HasRoom env store action)
    (hstep : Store.step env store action = some after) :
    after.Loads env.toStoreEnvironment := by
  cases action with
  | append call request =>
      cases hstep
      cases appendLocked_left h with
      | unwritten hunwritten =>
          exact hloads.of_same hunwritten.segments hunwritten.retained
      | written hopened hadmission hwritten =>
          refine (written_loads_iff hopened.kept.sound hopened.loads hadmission hwritten).mpr ?_
          refine (hopened.room_iff hwritten).mp (hroom.resolve_left fun hrecorded => ?_)
          have hheld := hopened.recorded_iff.mp hrecorded
          rw [(admit_eq_ok hadmission).unheld] at hheld
          cases hheld
  | recover =>
      cases hstep
      rcases recoverTornTail_eq env.toStoreEnvironment store with heq | heq
      · rw [heq]
        exact hloads
      · rw [heq]
        exact hloads

theorem Store.Loads.of_run
    (hmeet : StepsMeet (Store.step env) (HasRoom env) Store.empty actions)
    (hrun : run (Store.step env) Store.empty actions = some store) :
    store.Loads env.toStoreEnvironment := by
  have hkeep : forall {s : Store} {action : StoreAction} {s' : Store},
      s.Sound env.toStoreEnvironment ∧ s.Loads env.toStoreEnvironment ->
        HasRoom env s action -> Store.step env s action = some s' ->
          s'.Sound env.toStoreEnvironment ∧ s'.Loads env.toStoreEnvironment :=
    fun h hroom hstep => And.intro (Store.step_sound h.left hstep)
      (Store.step_loads h.left h.right hroom hstep)
  exact (run_invariant_of_steps hkeep
    (And.intro (Store.empty_sound env.toStoreEnvironment) (Store.Loads.of_nil rfl))
    hmeet hrun).right

end Runs

/-!
## A journal that its own writer fills up

Each request records a signal that refers to the same five artifacts, which the
first of them registers.
-/

namespace Sample

def digit (n : Nat) : Char :=
  Char.ofNat (48 + n % 10)

theorem digit_utf8Size (n : Nat) : (digit n).utf8Size = 1 := by
  have hall : forall d, d < 10 -> (Char.ofNat (48 + d)).utf8Size = 1 := by decide
  exact hall (n % 10) (Nat.mod_lt n (by decide))

theorem digit_injective {a b : Nat} (h : digit a = digit b) : a % 10 = b % 10 := by
  have hall : forall c, c < 10 -> forall d, d < 10 ->
      Char.ofNat (48 + c) = Char.ofNat (48 + d) -> c = d := by decide
  exact hall (a % 10) (Nat.mod_lt a (by decide)) (b % 10) (Nat.mod_lt b (by decide)) h

/-- The five last decimal digits of a number. -/
def numeral (n : Nat) : String :=
  String.singleton (digit (n / 10000)) ++ String.singleton (digit (n / 1000)) ++
    String.singleton (digit (n / 100)) ++ String.singleton (digit (n / 10)) ++
    String.singleton (digit n)

theorem isOpaqueId_numeral (n : Nat) : isOpaqueId (numeral n) = true := by
  have hall : forall d, d < 10 ->
      (0x30 <= (Char.ofNat (48 + d)).toNat && (Char.ofNat (48 + d)).toNat <= 0x39) = true := by
    decide
  have hdigit (n : Nat) : (0x30 <= (digit n).toNat && (digit n).toNat <= 0x39) = true :=
    hall (n % 10) (Nat.mod_lt n (by decide))
  have hsize : (numeral n).utf8ByteSize = 5 := by
    unfold numeral
    simp only [String.utf8ByteSize_append, String.utf8ByteSize_singleton, digit_utf8Size]
  unfold isOpaqueId
  rw [hsize]
  unfold numeral
  simp only [String.toList_append, String.toList_singleton, List.cons_append, List.nil_append,
    List.all_cons, List.all_nil, hdigit]
  simp

def numbered (n : Nat) : OpaqueId :=
  { text := numeral n
    valid := isOpaqueId_numeral n }

theorem numbered_injective {a b : Nat} (ha : a < 100000) (hb : b < 100000)
    (h : numbered a = numbered b) : a = b := by
  have htext : (numeral a).toList = (numeral b).toList :=
    congrArg (fun item => item.text.toList) h
  unfold numeral at htext
  simp only [String.toList_append, String.toList_singleton, List.cons_append, List.nil_append,
    List.cons.injEq, and_true] at htext
  rcases htext with ⟨h5, h4, h3, h2, h1⟩
  have h5 := digit_injective h5
  have h4 := digit_injective h4
  have h3 := digit_injective h3
  have h2 := digit_injective h2
  have h1 := digit_injective h1
  omega

def artifact (name : String) : ArtifactReference :=
  { artifactId := id name
    locator := "blob"
    contentSha256 := "sha256:content"
    mediaType := "text/plain"
    byteLength := 64
    sensitivity := .internal
    metadataVersion := "1" }

def artifacts : List ArtifactReference :=
  ["a", "b", "c", "d", "e"].map artifact

def signal (n : Nat) : NewEvent :=
  { idempotencyKey := numbered n
    actor := { actorType := .owner, id := "owner" }
    sensitivity := .internal
    kind := .signalRecorded
      { executionId := id "execution"
        signalId := numbered n
        body := "" }
    evidenceRefs := []
    artifactRefs := artifacts }

/-- The request for the event at sequence `n + 1`. -/
def request (n : Nat) : PreparedAppend :=
  { scope := scope
    streamId := streamId
    expectedNextSequence := n % 100000 + 1
    events := [signal n]
    evidence := []
    artifacts :=
      if n = 0 then
        artifacts.map fun reference =>
          { reference := reference, producerIdempotencyKey := numbered 0 }
      else
        []
    allowed := by
      have hsafe : n % 100000 + 1 <= maxSafeInteger :=
        Nat.le_trans (Nat.succ_le_of_lt (Nat.mod_lt n (by decide))) (by decide)
      unfold newRequestAllowed
      split
      · simp [hsafe, artifacts, maxBatchEvents, maxEvidenceItems, maxArtifacts,
          maxEvidenceBatchBytes]
      · simp [hsafe, maxBatchEvents, maxEvidenceItems, maxArtifacts, maxEvidenceBatchBytes] }

def quiet : Call :=
  { rotateAt := (segmentRotateBytes, segmentRotateEvents)
    stamps :=
      { occurredAt := some 1000000000
        eventId := fun _ => some (id "event") }
    fault := none }

/-!
### The counters
-/

/-- What the counters read after `n` of the requests, once there is one. -/
def filledMeter (n : Nat) : Meter LoadCounter
  | .batches => n
  | .events => n
  | .artifactRefs => 5 * n
  | .artifactRegistrations => 5
  | .uniqueArtifacts => 5
  | .workUnits => 7 * n + 10
  | _ => 0

structure Counts (n : Nat) (tally : Tally) : Prop where
  meter : tally.meter = filledMeter n
  artifacts : forall reference, reference ∈ artifacts ->
    tally.artifacts.contains { scope := scope, id := reference.artifactId } = true
  metadataBytes : tally.metadataBytes = 0
  metadataFits : tally.metadataFits = true

theorem Counts.first (metadata : ObjectKey -> Nat) :
    Counts 1 (Tally.zero.count metadata (request 0).load) := by
  -- No evidence is registered, so its metadata is never asked for.
  rw [show Tally.zero.count metadata (request 0).load =
    Tally.zero.count (fun _ => 0) (request 0).load from rfl]
  refine
    { meter := ?_
      artifacts := ?_
      metadataBytes := by decide +kernel
      metadataFits := by decide +kernel }
  · funext counter
    cases counter
    all_goals decide +kernel
  · decide +kernel

theorem countArtifacts_of_counted {references : List ArtifactReference} {tally : Tally}
    (h : forall reference, reference ∈ references ->
      tally.artifacts.contains { scope := scope, id := reference.artifactId } = true) :
    references.foldl
      (fun tally artifact => tally.countArtifact { scope := scope, id := artifact.artifactId })
      tally = tally := by
  induction references with
  | nil =>
      rfl
  | cons reference rest ih =>
      rw [List.foldl_cons]
      have hcounted : tally.countArtifact { scope := scope, id := reference.artifactId } =
          tally := by
        unfold Tally.countArtifact
        rw [if_pos (h reference List.mem_cons_self)]
      rw [hcounted]
      exact ih fun other hother => h other (List.mem_cons_of_mem reference hother)

theorem Counts.next {n : Nat} {tally : Tally} {metadata : ObjectKey -> Nat}
    (h : Counts (n + 1) tally) :
    Counts (n + 2) (tally.count metadata (request (n + 1)).load) := by
  let charges : List (LoadCounter × Nat) := (request (n + 1)).load.charges
  have hcount : tally.count metadata (request (n + 1)).load = tally.charge charges :=
    @countArtifacts_of_counted Sample.artifacts (tally.charge charges) h.artifacts
  rw [hcount]
  refine
    { meter := ?_
      artifacts := h.artifacts
      metadataBytes := h.metadataBytes
      metadataFits := h.metadataFits }
  have hcharges : charges =
      [(.batches, 1), (.events, 1), (.workUnits, 2), (.evidenceRegistrations, 0),
        (.workUnits, 0), (.artifactRefs, 5), (.artifactRegistrations, 0), (.workUnits, 5),
        (.evidenceRefs, 0), (.workUnits, 0)] := rfl
  show tally.meter.total charges = _
  rw [h.meter, hcharges]
  funext counter
  unfold Meter.total
  simp only [List.foldl_cons, List.foldl_nil, Meter.plus]
  cases counter
  all_goals simp [filledMeter]
  all_goals omega

theorem Counts.within_iff {n : Nat} {tally : Tally} (h : Counts n tally) (hn : n < 100000) :
    tally.Within <-> n <= 50000 := by
  constructor
  · intro hwithin
    have hreferences := hwithin.meter .artifactRefs
    rw [h.meter] at hreferences
    change 5 * n <= 250000 at hreferences
    omega
  · intro hroom
    refine
      { meter := fun counter => ?_
        metadataBytes := by rw [h.metadataBytes]; exact Nat.zero_le _
        metadataFits := h.metadataFits }
    rw [h.meter]
    cases counter
    all_goals simp [filledMeter, defaultLoadLimits, maxReadAll, maxLoadWorkUnits]
    all_goals omega

/-!
### The journal
-/

structure Filled (n : Nat) (store : Store) : Prop where
  reached : exists actions, run (Store.step storeEnv) Store.empty actions = some store
  loads : store.Loads storeEnv.toStoreEnvironment
  unsealed : store.sealed = []
  torn : store.torn = false
  lines : store.active.map PhysicalBatch.load =
    (List.range n).map fun i => (request i).load
  owned : forall batch, batch ∈ store.active -> batch.key = { scope := scope, id := streamId }
  registered : 0 < n -> exists batch, batch ∈ store.active ∧
    batch.artifacts = (request 0).storedArtifacts

section Filled

variable {n : Nat} {store : Store} {state : LoadedState} {batch : PhysicalBatch}

theorem Filled.sound (h : Filled n store) : store.Sound storeEnv.toStoreEnvironment := by
  rcases h.reached with ⟨actions, hrun⟩
  exact Store.Sound.of_run hrun

theorem Filled.history (h : Filled n store) : store.history = store.active := by
  unfold Store.history Store.sealedBatches
  rw [h.unsealed]
  rfl

theorem Filled.length (h : Filled n store) : store.active.length = n := by
  have hlength := congrArg List.length h.lines
  rwa [List.length_map, List.length_map, List.length_range] at hlength

theorem Filled.events_length (h : Filled n store) :
    (store.active.map fun batch => batch.events.length).sum = n := by
  have hone : (store.active.map fun batch => batch.events.length) = List.replicate n 1 := by
    calc
      (store.active.map fun batch => batch.events.length)
          = (store.active.map PhysicalBatch.load).map fun load => load.events.length := by
            rw [List.map_map]
            exact List.map_congr_left fun batch _ => (List.length_map _).symm
      _ = List.replicate n 1 := by
            rw [h.lines, List.map_map, List.eq_replicate_iff]
            refine And.intro (by simp) ?_
            rintro length hlength
            rcases List.mem_map.mp hlength with ⟨i, _, rfl⟩
            rfl
  rw [hone, List.sum_replicate_nat, Nat.mul_one]

theorem Filled.bytes (h : Filled n store) :
    journalLength storeEnv.toStoreEnvironment store.active = n * 2401 := by
  have hconst : (store.active.map fun batch =>
      storeEnv.canonicalBatchLen batch + 1) = List.replicate n 2401 := by
    rw [List.eq_replicate_iff, List.length_map, h.length]
    refine And.intro rfl fun length hlength => ?_
    rcases List.mem_map.mp hlength with ⟨batch, _, rfl⟩
    rfl
  unfold journalLength
  rw [hconst, List.sum_replicate_nat]

theorem Filled.unrotated (h : Filled n store) (hn : n <= 50000) :
    shouldRotate storeEnv.toStoreEnvironment quiet.rotateAt store.active = false := by
  have hbytes : ¬ segmentRotateBytes <= n * 2401 := by
    unfold segmentRotateBytes maxJournalBytes
    omega
  have hevents : ¬ segmentRotateEvents <= n := by
    unfold segmentRotateEvents
    omega
  unfold shouldRotate
  rw [h.bytes, h.events_length]
  show (!_ && (decide (segmentRotateBytes <= _) || decide (segmentRotateEvents <= _))) = _
  rw [decide_eq_false hbytes, decide_eq_false hevents]
  exact Bool.and_false _

theorem Filled.signal_of_mem (h : Filled n store) (hbatch : batch ∈ store.active)
    {event : EventEnvelope} (hevent : event ∈ batch.events) :
    exists i, i < n ∧ event.toNewEvent = signal i := by
  have hline : batch.load ∈ (List.range n).map fun i => (request i).load :=
    h.lines ▸ List.mem_map_of_mem hbatch
  rcases List.mem_map.mp hline with ⟨i, hi, hload⟩
  refine ⟨i, List.mem_range.mp hi, ?_⟩
  have hnew : event.toNewEvent ∈ batch.load.events := List.mem_map_of_mem hevent
  rw [← hload] at hnew
  exact List.mem_singleton.mp hnew

theorem Filled.within_iff (h : Filled n store) (hn : n <= 50000)
    {metadata : ObjectKey -> Nat} :
    ((Tally.zero.countAll metadata store.active).count metadata (request n).load).Within <->
      n + 1 <= 50000 := by
  have hfold : Tally.zero.countAll metadata store.active =
      ((List.range n).map fun i => (request i).load).foldl (Tally.count metadata) Tally.zero := by
    rw [← h.lines, List.foldl_map]
    rfl
  have hcounts : Counts (n + 1)
      ((Tally.zero.countAll metadata store.active).count metadata (request n).load) := by
    rw [hfold]
    clear hfold h hn
    induction n with
    | zero =>
        exact Counts.first metadata
    | succ n ih =>
        rw [List.range_succ, List.map_append, List.foldl_append]
        exact ih.next
  exact hcounts.within_iff (by omega)

theorem Filled.grow (h : Filled n store) (hn : n <= 50000)
    (hload : loadState storeEnv.toStoreEnvironment store = .ok state)
    (hadmission : admitAppend storeEnv.toStoreEnvironment quiet.stamps store state (request n) =
      .ok (.fresh batch)) :
    appendLocked storeEnv quiet (request n) store =
        .ok batch.events { store with active := store.active ++ [batch] } ∧
      (Store.Loads storeEnv.toStoreEnvironment
          { store with active := store.active ++ [batch] } <-> n + 1 <= 50000) ∧
      (n + 1 <= 50000 -> Filled (n + 1) { store with active := store.active ++ [batch] }) := by
  have hadmitted := admit_eq_ok hadmission
  have hloaded := h.sound.of_loadState hload
  have hroom : journalLength storeEnv.toStoreEnvironment store.active +
      (storeEnv.canonicalBatchLen batch + 1) <= maxJournalBytes := by
    rw [h.bytes]
    show n * 2401 + 2401 <= 256 * 1024 * 1024
    omega
  have happend : appendLocked storeEnv quiet (request n) store =
      .ok batch.events { store with active := store.active ++ [batch] } := by
    have hunrotated := h.unrotated hn
    rw [← hloaded.right] at hunrotated
    rw [appendLocked_of_admitAppend (loadForAppend_of_unrotated hload rfl hunrotated) hadmission]
    exact settleAdmission_of_fresh rfl rfl hroom
  have hpublished : Published store.blobs (request n) store.blobs :=
    { retained := fun _ _ hblob => hblob
      staged := fun _ hitem => absurd hitem List.not_mem_nil }
  have hwritten : Written storeEnv.toStoreEnvironment store (request n) batch
      { store with active := store.active ++ [batch] } :=
    { room := hroom
      store := rfl
      published := hpublished
      sound := h.sound.writing hloaded.left hadmitted hpublished h.sound.filed }
  have hloads := written_loads_iff h.sound hload hadmission hwritten
  rw [h.within_iff hn] at hloads
  refine ⟨happend, hloads, fun hnext => ?_⟩
  rcases h.reached with ⟨actions, hrun⟩
  refine
    { reached := ⟨actions ++ [.append quiet (request n)], ?_⟩
      loads := hloads.mpr hnext
      unsealed := h.unsealed
      torn := h.torn
      lines := ?_
      owned := ?_
      registered := ?_ }
  · rw [run_append, hrun, Option.bind_some, run_singleton]
    show some (stateAfter (appendLocked storeEnv quiet (request n)) store) = _
    rw [stateAfter_of_ok happend]
  · rw [List.map_append, h.lines, List.range_succ, List.map_append, List.map_singleton,
      List.map_singleton, hadmitted.load]
  · intro other hother
    rcases List.mem_append.mp hother with hold | hnew
    · exact h.owned other hold
    · rw [List.mem_singleton.mp hnew]
      exact hadmitted.key
  · intro _
    cases hn' : n with
    | zero =>
        subst hn'
        exact ⟨batch, List.mem_append_right _ (List.mem_singleton_self batch),
          hadmitted.artifacts⟩
    | succ m =>
        rcases h.registered (by omega) with ⟨first, hfirst, hregistered⟩
        exact ⟨first, List.mem_append_left _ hfirst, hregistered⟩

/-!
### Letting the requests through
-/

theorem prepared (n : Nat) :
    validatePreparedAppend storeEnv.toStoreEnvironment (request (n + 1)) = .ok () := by
  have hproduced : artifactsProduced (request (n + 1)).events (request (n + 1)).streamId
      (request (n + 1)).storedArtifacts = true := by
    have hdistinct : ((producedArtifacts (request (n + 1)).events).map Prod.fst).Nodup := by
      have hids : (artifacts.map ArtifactReference.artifactId).Nodup := by decide +kernel
      have hkeys : (producedArtifacts (request (n + 1)).events).map Prod.fst =
          (artifacts.map ArtifactReference.artifactId).map fun id => (numbered (n + 1), id) := rfl
      rw [hkeys]
      exact hids.map fun _ _ heq => congrArg Prod.snd heq
    unfold artifactsProduced
    rw [decide_eq_true hdistinct]
    rfl
  refine Except.bind_eq_ok.mpr ⟨(), rfl, check_bind_eq_ok.mpr ⟨?_, ?_⟩⟩
  · exact decide_eq_true (List.nodup_singleton _)
  refine Except.bind_eq_ok.mpr ⟨(), rfl, check_bind_eq_ok.mpr ⟨rfl, ?_⟩⟩
  refine Except.bind_eq_ok.mpr ⟨(), rfl, check_bind_eq_ok.mpr ⟨rfl, ?_⟩⟩
  exact Except.bind_eq_ok.mpr ⟨(), rfl, check_bind_eq_ok.mpr ⟨hproduced, rfl⟩⟩

theorem Filled.artifactCommitted (h : Filled (n + 1) store)
    (hdescribes : Describes storeEnv.toStoreEnvironment state store.history)
    {reference : ArtifactReference} (hreference : reference ∈ artifacts) :
    GraphHelm.artifactCommitted state (request (n + 1)) reference = true := by
  rcases h.registered (Nat.succ_pos n) with ⟨first, hfirst, hregistered⟩
  let item : StoredArtifactRegistration :=
    { reference := reference
      producerStreamId := streamId
      producerIdempotencyKey := numbered 0 }
  have hitem : item ∈ first.artifacts := by
    rw [hregistered]
    exact List.mem_map.mpr
      ⟨{ reference := reference, producerIdempotencyKey := numbered 0 },
        List.mem_map.mpr ⟨reference, hreference, rfl⟩, rfl⟩
  have hscope : first.scope = scope := congrArg ObjectKey.scope (h.owned first hfirst)
  have hfound := (hdescribes.artifacts { scope := scope, id := reference.artifactId } item).mpr
    ⟨first, h.history ▸ hfirst, hitem, by rw [hscope]⟩
  unfold GraphHelm.artifactCommitted
  show (state.artifacts[({ scope := scope, id := reference.artifactId } : ObjectKey)]?.any
    fun item => decide (item.producerStreamId = streamId) && decide (item.reference = reference)) =
      true
  rw [hfound]
  show (decide (streamId = streamId) && decide (reference = reference)) = true
  rw [decide_eq_true rfl, decide_eq_true rfl]
  rfl

theorem enveloped (n : Nat) (previousHash : EventHash) :
    exists envelopes, buildEnvelopes storeEnv.toEnvironment scope streamId quiet.stamps
      (n % 100000 + 1) 0 previousHash [signal n] = .ok envelopes := by
  have hsafe : n % 100000 + 1 + 0 <= maxSafeInteger :=
    Nat.le_trans (Nat.succ_le_of_lt (Nat.mod_lt n (by decide))) (by decide)
  refine Except.bind_passes rfl (check_bind_passes (decide_eq_true hsafe) ?_)
  refine Except.bind_passes rfl (Except.bind_passes (a := ()) rfl ?_)
  exact Except.bind_passes (a := ()) rfl ⟨_, rfl⟩

/-- Every request after the first is let through. -/
theorem Filled.admits (h : Filled (n + 1) store) (hn : n + 1 <= 50000)
    (hload : loadState storeEnv.toStoreEnvironment store = .ok state) :
    exists batch, admitAppend storeEnv.toStoreEnvironment quiet.stamps store state (request (n + 1)) =
      .ok (.fresh batch) := by
  have hloaded := h.sound.of_loadState hload
  have hposition : (n + 1) % 100000 = n + 1 := Nat.mod_eq_of_lt (by omega)
  have hcommitted : forall reference, reference ∈ artifacts ->
      GraphHelm.artifactCommitted state (request (n + 1)) reference = true :=
    fun reference hreference => h.artifactCommitted hloaded.left hreference
  have hrelated : artifactRelationsHold state (request (n + 1)) = true := by
    unfold artifactRelationsHold
    show (true && ([signal (n + 1)].all fun event => event.artifactRefs.all fun reference =>
      false || GraphHelm.artifactCommitted state (request (n + 1)) reference)) = true
    simp only [Bool.true_and, Bool.false_or, List.all_cons, List.all_nil, Bool.and_true,
      List.all_eq_true]
    exact hcommitted
  have havailable : validateReferenceAvailability store.blobs (request (n + 1)) state =
      .ok () := by
    refine Except.bind_eq_ok.mpr ⟨(), rfl, check_eq_ok.mpr ?_⟩
    show ([signal (n + 1)].all fun event => event.artifactRefs.all fun reference =>
      false || GraphHelm.artifactCommitted state (request (n + 1)) reference) = true
    simp only [Bool.false_or, List.all_cons, List.all_nil, Bool.and_true, List.all_eq_true]
    exact hcommitted
  have hunheld : batchHoldingKeys store state (request (n + 1)).key
      ((request (n + 1)).events.map NewEvent.idempotencyKey) = none := by
    rw [h.sound.batchHoldingKeys hloaded.left, List.find?_eq_none]
    intro batch hbatch hholds
    rcases holdsKeys_iff.mp hholds with ⟨_, event, hevent, hkey⟩
    rcases h.signal_of_mem (h.history ▸ hbatch) hevent with ⟨i, hi, hsignal⟩
    have hsame : numbered i = numbered (n + 1) := by
      rw [show event.idempotencyKey = numbered i from
        congrArg NewEvent.idempotencyKey hsignal] at hkey
      exact List.mem_singleton.mp hkey
    have := numbered_injective (by omega) (by omega) hsame
    omega
  have hroom : ensureLoadRoom state.batches (request (n + 1)).events.length = .ok () := by
    unfold ensureLoadRoom
    rw [hloaded.right, h.length, h.events_length]
    rw [check_eq_ok, Bool.and_eq_true, decide_eq_true_eq, decide_eq_true_eq]
    show n + 1 + 1 <= 250000 ∧ n + 1 + 1 <= 250000
    omega
  have hexpected : state.expectedSequence (request (n + 1)).key =
      (request (n + 1)).expectedNextSequence := by
    have hall : (store.active.filter fun batch => batch.key = (request (n + 1)).key) =
        store.active :=
      List.filter_eq_self.mpr fun batch hbatch => decide_eq_true (h.owned batch hbatch)
    have hlength : (streamEvents (request (n + 1)).key store.history).length = n + 1 := by
      unfold streamEvents
      rw [h.history, hall, List.length_flatMap]
      exact h.events_length
    rw [hloaded.left.sequences, hlength]
    show n + 1 + 1 = (n + 1) % 100000 + 1
    rw [hposition]
  rcases enveloped (n + 1) (state.previousHash (request (n + 1)).key) with
    ⟨envelopes, henvelopes⟩
  exact ⟨_, admit_of_fresh (prepared n) hrelated havailable rfl hunheld rfl hroom hexpected
    henvelopes (show 2400 <= maxBatchBytes by decide) rfl
    (show 2400 + 1 <= maxBatchBytes by decide)⟩

def isFresh : Admission -> Bool
  | .fresh _ => true
  | .retry _ => false

theorem admits_first :
    exists batch, admitAppend storeEnv.toStoreEnvironment quiet.stamps Store.empty
      LoadedState.default (request 0) = .ok (.fresh batch) := by
  have hadmits : (admitAppend storeEnv.toStoreEnvironment quiet.stamps Store.empty
      LoadedState.default (request 0)).toOption.elim false isFresh = true := by
    decide +kernel
  cases hadmission : admitAppend storeEnv.toStoreEnvironment quiet.stamps Store.empty
      LoadedState.default (request 0) with
  | error error =>
      rw [hadmission] at hadmits
      cases hadmits
  | ok admission =>
      cases admission with
      | fresh batch => exact ⟨batch, rfl⟩
      | _ =>
          rw [hadmission] at hadmits
          cases hadmits

theorem filled_zero : Filled 0 Store.empty :=
  { reached := ⟨[], rfl⟩
    loads := Store.Loads.of_nil rfl
    unsealed := rfl
    torn := rfl
    lines := rfl
    owned := fun _ hbatch => absurd hbatch List.not_mem_nil
    registered := fun hpositive => absurd hpositive (Nat.lt_irrefl 0) }

/-- Fifty thousand of the requests are accepted, and the journal they make loads. -/
theorem filled (hn : n + 1 <= 50000) : exists store, Filled (n + 1) store := by
  induction n with
  | zero =>
      rcases admits_first with ⟨batch, hadmission⟩
      exact ⟨_, (filled_zero.grow (by omega) rfl hadmission).right.right hn⟩
  | succ n ih =>
      rcases ih (by omega) with ⟨store, h⟩
      rcases loadState_passes_iff.mpr (And.intro h.torn h.loads) with ⟨state, hload⟩
      rcases h.admits (by omega) hload with ⟨batch, hadmission⟩
      exact ⟨_, (h.grow (by omega) hload hadmission).right.right hn⟩

end Filled

end Sample

/-!
## What accepted appends leave
-/

/-- An accepted append leaves a store that loads exactly when its batch was there already or
the counters of a load have room for it, and a run all of whose appends are such never leads
to a store that does not load. -/
theorem append_leaves_loadable_iff_room {env : SealEnvironment} {store : Store}
    {actions : List StoreAction} (hrun : run (Store.step env) Store.empty actions = some store) :
    (forall call request events after,
      appendLocked env call request store = .ok events after ->
        ((exists state, loadState env.toStoreEnvironment after = .ok state) <->
          Recorded store request ∨
            RoomToOpen env.toStoreEnvironment call.rotateAt store request)) ∧
      (StepsMeet (Store.step env) (HasRoom env) Store.empty actions ->
        exists state,
          loadState env.toStoreEnvironment { store with torn := false } = .ok state) := by
  have h := Store.Sound.of_run hrun
  refine And.intro ?_ fun hmeet => ?_
  · intro call request events after hok
    rcases (appendLocked_triple h).ok rfl hok with
      ⟨opened, state, batch, hopened, hsettled, _⟩
    have htorn := loadState_passes_iff.mp ⟨state, hopened.loads⟩
    cases hsettled with
    | retried hadmission hafter =>
        refine iff_of_true (hafter ▸ ⟨state, hopened.loads⟩) (Or.inl ?_)
        rw [hopened.recorded_iff, (admit_eq_ok hadmission).left]
        rfl
    | written hadmission hwritten =>
        have hfresh : ¬ Recorded store request := by
          rw [hopened.recorded_iff, (admit_eq_ok hadmission).unheld]
          exact Bool.false_ne_true
        have hafter : after.torn = false := by
          rw [hwritten.store]
          exact htorn.left
        rw [loadState_passes_iff, and_iff_right hafter, or_iff_right hfresh,
          hopened.room_iff hwritten]
        exact written_loads_iff hopened.kept.sound hopened.loads hadmission hwritten
  · have hloads := Store.Loads.of_run hmeet hrun
    exact loadState_passes_iff.mpr (And.intro rfl hloads)

theorem append_leaves_loadable_after_the_first_signal :
    exists store,
      run (Store.step Sample.storeEnv) Store.empty [.append Sample.quiet (Sample.request 0)] =
          some store ∧
        exists state, loadState Sample.storeEnv.toStoreEnvironment { store with torn := false } =
          .ok state := by
  have hroom : RoomToOpen Sample.storeEnv.toStoreEnvironment Sample.quiet.rotateAt Store.empty
      (Sample.request 0) :=
    (Sample.filled_zero.within_iff (Nat.zero_le _)).mpr (by decide)
  have hrun : run (Store.step Sample.storeEnv) Store.empty
      [.append Sample.quiet (Sample.request 0)] =
        some (stateAfter (appendLocked Sample.storeEnv Sample.quiet (Sample.request 0))
          Store.empty) := rfl
  exact ⟨_, hrun, (append_leaves_loadable_iff_room hrun).right
    (And.intro (Or.inr hroom) fun _ _ => trivial)⟩

/-- The request that carries the references to artifacts past their limit is accepted, and
the store it leaves never loads again. -/
theorem append_fills_a_journal_past_loading :
    ¬ forall (env : SealEnvironment) (actions : List StoreAction) (store after : Store)
      (call : Call) (request : PreparedAppend) (events : List EventEnvelope),
        run (Store.step env) Store.empty actions = some store ->
        appendLocked env call request store = .ok events after ->
        exists state, loadState env.toStoreEnvironment after = .ok state := by
  intro hclaim
  rcases @Sample.filled 49999 (Nat.le_refl 50000) with ⟨store, h⟩
  rcases loadState_passes_iff.mpr (And.intro h.torn h.loads) with ⟨state, hload⟩
  rcases h.admits (Nat.le_refl 50000) hload with ⟨batch, hadmission⟩
  rcases h.grow (Nat.le_refl 50000) hload hadmission with ⟨happend, hloads, _⟩
  rcases h.reached with ⟨actions, hrun⟩
  have hafter := hclaim Sample.storeEnv actions store _ Sample.quiet (Sample.request 50000)
    batch.events hrun happend
  have hroom := hloads.mp (loadState_passes_iff.mp hafter).right
  omega

end GraphHelm
