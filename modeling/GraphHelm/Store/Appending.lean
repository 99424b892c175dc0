import GraphHelm.Store.Admitted

/-!
# What a call does to the store

Triples for the steps of an append, and from them what a whole call can leave
behind: the history as it was, with at most some evidence published and part of
a line written, or the history with the batch of the request at its end.
-/

namespace GraphHelm

open Std ErrorState StoreM

/-!
## Primitive steps
-/

section Primitives

variable {α : Type} {pre : Store -> Prop} {call : Call}

theorem read_triple {fail : EventRepositoryError -> Store -> Prop} :
    Triple pre read (fun store s => store = s ∧ pre s) fail :=
  fun _ hs => And.intro rfl hs

theorem change_triple {f : Store -> Store} {post : Store -> Prop}
    {fail : EventRepositoryError -> Store -> Prop} (h : forall s, pre s -> post (f s)) :
    Triple pre (change f) (fun _ => post) fail :=
  fun s hs => h s hs

theorem lift_triple {result : Except EventRepositoryError α} :
    Triple pre (lift result) (fun a s => result = .ok a ∧ pre s)
      (fun error s => result = .error error ∧ pre s) := by
  intro s hs
  unfold lift
  cases result with
  | ok a =>
      exact And.intro rfl hs
  | error error =>
      exact And.intro rfl hs

theorem site_triple {fault : Fault} :
    Triple pre (site call fault) (fun _ => pre) (fun _ s => call.fault = some fault ∧ pre s) := by
  intro s hs
  unfold site lift check
  by_cases hfault : call.fault = some fault
  · simp [hfault, hs]
  · simp [hfault, hs]

theorem site_of_ne {fault : Fault} {store : Store} (h : call.fault ≠ some fault) :
    site call fault store = .ok () store := by
  unfold site lift check
  rw [decide_eq_true h]
  rfl

end Primitives

/-!
## Loading
-/

/-- Nothing has changed, but that the active segment may have been sealed. -/
structure Kept (env : StoreEnvironment) (before after : Store) : Prop where
  history : after.history = before.history
  segments : (after.sealed = before.sealed ∧ after.active = before.active) ∨ after.active = []
  torn : after.torn = before.torn
  blobs : after.blobs = before.blobs
  sound : after.Sound env

theorem Kept.refl {env : StoreEnvironment} {store : Store} (h : store.Sound env) :
    Kept env store store :=
  ⟨rfl, Or.inl (And.intro rfl rfl), rfl, rfl, h⟩

theorem Kept.rotated {env : SealEnvironment} {store : Store}
    (h : store.Sound env.toStoreEnvironment) {state : LoadedState}
    (hdescribes : Describes env.toStoreEnvironment state store.history) :
    Kept env.toStoreEnvironment store (store.rotated env state) :=
  ⟨(h.rotated hdescribes).left, Or.inr rfl, rfl, rfl, (h.rotated hdescribes).right⟩

/-- The active segment an append finds once a full one has been sealed. -/
def activeAfterRotation (env : StoreEnvironment) (rotateAt : Nat × Nat) (store : Store) :
    List PhysicalBatch :=
  if shouldRotate env rotateAt store.active then [] else store.active

structure LoadedFor (env : StoreEnvironment) (call : Call) (before : Store)
    (state : LoadedState) (after : Store) : Prop where
  kept : Kept env before after
  active : after.active = activeAfterRotation env call.rotateAt before
  loads : loadState env after = .ok state

section Loading

variable {env : SealEnvironment} {call : Call} {store : Store}

theorem loadCurrent_triple {pre : Store -> Prop} :
    Triple pre (loadCurrent env)
      (fun state s => loadState env.toStoreEnvironment s = .ok state ∧ pre s)
      (fun _ s => pre s) := by
  apply Triple.bind read_triple
  intro found
  refine lift_triple.imp (fun _ hs => hs) ?_ fun _ s hs => hs.right.right
  rintro state s ⟨hload, rfl, hs⟩
  exact And.intro hload hs

theorem syncLoadedJournal_triple {pre : Store -> Prop} {state : LoadedState} :
    Triple pre (syncLoadedJournal call state) (fun _ => pre) (fun _ => pre) := by
  refine Triple.ite (fun _ => Triple.pure fun _ hs => hs) fun _ => ?_
  exact site_triple.imp (fun _ hs => hs) (fun _ _ hs => hs) fun _ _ hs => hs.right

theorem rotateSegment_triple (h : store.Sound env.toStoreEnvironment) {state : LoadedState}
    (hdescribes : Describes env.toStoreEnvironment state store.history) :
    Triple (fun s => s = store) (rotateSegment env call state)
      (fun _ s => s = store.rotated env state)
      (fun _ s => Kept env.toStoreEnvironment store s) := by
  have hhere : forall s, s = store -> Kept env.toStoreEnvironment store s := by
    rintro s rfl
    exact Kept.refl h
  have hbound (error : EventRepositoryError) (within : Bool) :
      Triple (fun s => s = store) (lift (check within error)) (fun _ s => s = store)
        (fun _ s => Kept env.toStoreEnvironment store s) :=
    lift_triple.imp (fun _ hs => hs) (fun _ _ hs => hs.right) fun _ s hs => hhere s hs.right
  have hsite : Triple (fun s => s = store) (site call .sealPublication) (fun _ s => s = store)
      (fun _ s => Kept env.toStoreEnvironment store s) :=
    site_triple.imp (fun _ hs => hs) (fun _ _ hs => hs) fun _ s hs => hhere s hs.right
  have hseal : Triple (fun s => s = store) (change fun s => s.rotated env state)
      (fun _ s => s = store.rotated env state)
      (fun _ s => Kept env.toStoreEnvironment store s) := by
    apply change_triple
    rintro s rfl
    rfl
  have hnext : Triple (fun s => s = store.rotated env state) (site call .nextSegment)
      (fun _ s => s = store.rotated env state)
      (fun _ s => Kept env.toStoreEnvironment store s) := by
    refine site_triple.imp (fun _ hs => hs) (fun _ _ hs => hs) ?_
    rintro _ s ⟨_, rfl⟩
    exact Kept.rotated h hdescribes
  apply Triple.bind read_triple
  rintro found s ⟨rfl, hs⟩
  exact Triple.bind (hbound _ _) (fun _ => Triple.bind (hbound _ _) fun _ =>
    Triple.bind hsite fun _ => Triple.bind hseal fun _ => hnext) _ hs

theorem loadForAppend_triple (h : store.Sound env.toStoreEnvironment) :
    Triple (fun s => s = store) (loadForAppend env call)
      (LoadedFor env.toStoreEnvironment call store)
      (fun _ s => Kept env.toStoreEnvironment store s) := by
  have hhere : forall s, s = store -> Kept env.toStoreEnvironment store s := by
    rintro s rfl
    exact Kept.refl h
  apply Triple.bind (loadCurrent_triple.imp (fun _ hs => hs) (fun _ _ hs => hs)
    fun _ s hs => hhere s hs)
  intro state
  apply Triple.bind (syncLoadedJournal_triple.imp (fun _ hs => hs) (fun _ _ hs => hs)
    fun _ s hs => hhere s hs.right)
  -- The thresholds are judged on the lines of the active segment.
  rintro _ s ⟨hload, rfl⟩
  have hloaded := h.of_loadState hload
  rw [hloaded.right]
  by_cases hrotate : shouldRotate env.toStoreEnvironment call.rotateAt s.active = true
  · rw [if_pos hrotate]
    have hkept := Kept.rotated h hloaded.left
    have hactive : activeAfterRotation env.toStoreEnvironment call.rotateAt s = [] := by
      unfold activeAfterRotation
      rw [if_pos hrotate]
    have hreload : Triple (fun t => t = s.rotated env state) (loadCurrent env)
        (LoadedFor env.toStoreEnvironment call s)
        (fun _ t => Kept env.toStoreEnvironment s t) := by
      refine loadCurrent_triple.imp (fun _ ht => ht) ?_ ?_
      · rintro state' t ⟨hagain, rfl⟩
        exact { kept := hkept, active := hactive.symm, loads := hagain }
      · rintro _ t rfl
        exact hkept
    exact Triple.bind (rotateSegment_triple h hloaded.left) (fun _ => hreload) s rfl
  · rw [if_neg hrotate]
    have hactive : activeAfterRotation env.toStoreEnvironment call.rotateAt s = s.active := by
      unfold activeAfterRotation
      rw [if_neg hrotate]
    exact { kept := Kept.refl h, active := hactive.symm, loads := hload }

end Loading

/-!
## Publishing evidence
-/

/-- The blobs once an item has been published: one that is there stays as it is. -/
def fileBlob (blobs : Blobs) (item : SealedEvidence) : Blobs :=
  match blobs[item.key]? with
  | some _ => blobs
  | none => blobs.insert item.key item

def fileBlobs (blobs : Blobs) (items : List SealedEvidence) : Blobs :=
  items.foldl fileBlob blobs

section Publishing

variable {blobs : Blobs} {item stored : SealedEvidence} {items : List SealedEvidence}
  {key : ObjectKey} {call : Call} {store : Store}

theorem fileBlob_retains (h : blobs[key]? = some stored) :
    (fileBlob blobs item)[key]? = some stored := by
  unfold fileBlob
  split
  · exact h
  · rename_i hnone
    rw [OrderedMap.getElem?_insert_of_ne, h]
    rintro rfl
    rw [hnone] at h
    cases h

theorem fileBlobs_retains (h : blobs[key]? = some stored) :
    (fileBlobs blobs items)[key]? = some stored := by
  unfold fileBlobs
  induction items generalizing blobs with
  | nil =>
      exact h
  | cons item rest ih =>
      exact ih (fileBlob_retains h)

theorem fileBlob_origin (h : (fileBlob blobs item)[key]? = some stored) :
    blobs[key]? = some stored ∨ (stored = item ∧ key = item.key) := by
  unfold fileBlob at h
  split at h
  · exact Or.inl h
  · by_cases hkey : item.key = key
    · rw [hkey, ExtTreeMap.getElem?_insert_self] at h
      cases h
      exact Or.inr (And.intro rfl hkey.symm)
    · rw [OrderedMap.getElem?_insert_of_ne hkey] at h
      exact Or.inl h

theorem fileBlobs_origin (h : (fileBlobs blobs items)[key]? = some stored) :
    blobs[key]? = some stored ∨ (stored ∈ items ∧ key = stored.key) := by
  unfold fileBlobs at h
  induction items generalizing blobs with
  | nil =>
      exact Or.inl h
  | cons item rest ih =>
      rcases ih h with hbefore | ⟨hmem, hkey⟩
      · rcases fileBlob_origin hbefore with hold | ⟨rfl, hkey⟩
        · exact Or.inl hold
        · exact Or.inr (And.intro List.mem_cons_self hkey)
      · exact Or.inr (And.intro (List.mem_cons_of_mem item hmem) hkey)

theorem publishBlob_triple :
    Triple (fun s => s = store) (publishBlob item)
      (fun _ s => s = { store with blobs := fileBlob store.blobs item } ∧
        s.blobs[item.key]? = some item)
      (fun _ s => s = store) := by
  apply Triple.bind read_triple
  rintro found s ⟨rfl, rfl⟩
  cases hblob : found.blobs[item.key]? with
  | some existing =>
      have hsame : fileBlob found.blobs item = found.blobs := by
        unfold fileBlob
        rw [hblob]
      by_cases heq : existing = item
      · dsimp only [lift, check]
        rw [decide_eq_true heq]
        exact And.intro (by rw [hsame]) (hblob.trans (congrArg some heq))
      · dsimp only [lift, check]
        rw [decide_eq_false heq]
        rfl
  | none =>
      have hsame : fileBlob found.blobs item = found.blobs.insert item.key item := by
        unfold fileBlob
        rw [hblob]
      exact And.intro (by rw [hsame]) ExtTreeMap.getElem?_insert_self

theorem publishStaged_triple {published : Nat} :
    Triple (fun s => s = store) (publishStaged call published items)
      (fun _ s => s = { store with blobs := fileBlobs store.blobs items } ∧
        forall item, item ∈ items -> s.blobs[item.key]? = some item)
      (fun _ s => exists done, done <+: items ∧
        s = { store with blobs := fileBlobs store.blobs done }) := by
  induction items generalizing store published with
  | nil =>
      refine site_triple.imp (fun _ hs => hs) ?_ ?_
      · rintro _ s rfl
        exact And.intro rfl (by simp)
      · rintro _ s ⟨_, rfl⟩
        exact ⟨[], List.nil_prefix, rfl⟩
  | cons item rest ih =>
      apply Triple.bind
      · refine site_triple.imp (fun _ hs => hs) (fun _ _ hs => hs) ?_
        rintro _ s ⟨_, rfl⟩
        exact ⟨[], List.nil_prefix, rfl⟩
      intro _
      apply Triple.bind
      · refine publishBlob_triple.imp (fun _ hs => hs) (fun _ _ hs => hs) ?_
        rintro _ s rfl
        exact ⟨[], List.nil_prefix, rfl⟩
      rintro _ s ⟨rfl, hfiled⟩
      refine Triple.imp (@ih _ (published + 1)) (fun _ hs => hs) ?_ ?_ _ rfl
      · rintro _ s ⟨rfl, hrest⟩
        refine And.intro rfl fun other hother => ?_
        rcases List.mem_cons.mp hother with rfl | hlater
        · exact fileBlobs_retains hfiled
        · exact hrest other hlater
      · rintro _ s ⟨done, hprefixed, rfl⟩
        exact ⟨item :: done, List.cons_prefix_cons.mpr (And.intro rfl hprefixed), rfl⟩

theorem Store.Sound.filing {env : StoreEnvironment} (h : store.Sound env)
    (hvalid : forall item, item ∈ items -> env.validateSealedMetadata item = true) :
    Store.Sound env { store with blobs := fileBlobs store.blobs items } := by
  refine { committed := h.committed, seals := h.seals, supported := ?_, filed := ?_ }
  · intro batch hbatch event hevent reference hreference
    rcases h.supported batch hbatch event hevent reference hreference with
      ⟨stored, hblob, hstands⟩
    exact ⟨stored, fileBlobs_retains hblob, hstands⟩
  · intro key stored hblob
    rcases fileBlobs_origin hblob with hold | ⟨hmem, hkey⟩
    · exact h.filed key stored hold
    · exact And.intro hkey.symm (hvalid stored hmem)

end Publishing

/-!
## Writing the line
-/

/-- The faults that can strike once the whole line is in the journal. -/
def Fault.afterWrite : Fault -> Bool
  | .journalSync | .rootSync | .activeMarker => true
  | _ => false

structure Written (env : StoreEnvironment) (before : Store) (request : PreparedAppend)
    (batch : PhysicalBatch) (after : Store) : Prop where
  room : journalLength env before.active + (env.canonicalBatchLen batch + 1) <= maxJournalBytes
  store : after =
    { before with
      active := before.active ++ [batch]
      blobs := fileBlobs before.blobs request.evidence }
  published : Published before.blobs request after.blobs
  sound : after.Sound env

/-- No whole line was written, whatever evidence may have been published. -/
structure Unwritten (env : StoreEnvironment) (call : Call) (before after : Store) : Prop where
  history : after.history = before.history
  segments : (after.sealed = before.sealed ∧ after.active = before.active) ∨ after.active = []
  torn : after.torn = before.torn ∨ (call.fault = some .lineWrite ∧ after.torn = true)
  retained : forall (key : ObjectKey) (stored : SealedEvidence),
    before.blobs[key]? = some stored -> after.blobs[key]? = some stored
  sound : after.Sound env

theorem Kept.unwritten {env : StoreEnvironment} {call : Call} {before after : Store}
    (h : Kept env before after) : Unwritten env call before after :=
  { history := h.history
    segments := h.segments
    torn := Or.inl h.torn
    retained := fun key stored hblob => h.blobs ▸ hblob
    sound := h.sound }

theorem Written.history {env : StoreEnvironment} {before after : Store}
    {request : PreparedAppend} {batch : PhysicalBatch}
    (h : Written env before request batch after) : after.history = before.history ++ [batch] := by
  rw [h.store]
  exact (List.append_assoc before.sealedBatches before.active [batch]).symm

section Writing

variable {env : StoreEnvironment} {call : Call} {store : Store} {state : LoadedState}
  {request : PreparedAppend} {batch : PhysicalBatch} {stamps : Stamps}

theorem Store.Sound.writing (h : store.Sound env)
    (hdescribes : Describes env state store.history)
    (hadmitted : Admitted env stamps store state request batch)
    {blobs : Blobs} (hpublished : Published store.blobs request blobs)
    (hfiled : forall key stored, blobs[key]? = some stored ->
      stored.key = key ∧ env.validateSealedMetadata stored = true) :
    Store.Sound env { store with active := store.active ++ [batch], blobs := blobs } := by
  have hhistory : Store.history { store with active := store.active ++ [batch], blobs := blobs } =
      store.history ++ [batch] :=
    (List.append_assoc store.sealedBatches store.active [batch]).symm
  refine { committed := ?_, seals := h.seals, supported := ?_, filed := hfiled }
  · rw [hhistory]
    exact h.committed.append hdescribes (hadmitted.follows h hdescribes)
  · rw [hhistory]
    intro other hother event hevent reference hreference
    rcases List.mem_append.mp hother with hold | hnew
    · rcases h.supported other hold event hevent reference hreference with
        ⟨stored, hblob, hstands⟩
      exact ⟨stored, hpublished.retained _ _ hblob, hstands⟩
    · rw [List.mem_singleton.mp hnew] at hevent ⊢
      exact (hadmitted.referenced h hpublished hevent hreference).left

theorem unwritten_filing (h : store.Sound env) {items : List SealedEvidence}
    (hvalid : forall item, item ∈ items -> env.validateSealedMetadata item = true) :
    Unwritten env call store { store with blobs := fileBlobs store.blobs items } :=
  { history := rfl
    segments := Or.inl (And.intro rfl rfl)
    torn := Or.inl rfl
    retained := fun _ _ hblob => fileBlobs_retains hblob
    sound := h.filing hvalid }

theorem writeLine_triple :
    Triple (fun s => s = store) (writeLine env call batch)
      (fun _ s => s = { store with active := store.active ++ [batch] } ∧
        journalLength env store.active + (env.canonicalBatchLen batch + 1) <= maxJournalBytes)
      (fun _ s => s = store ∨
        (call.fault = some .lineWrite ∧ s = { store with torn := true })) := by
  apply Triple.bind read_triple
  rintro found s ⟨rfl, rfl⟩
  refine Triple.bind (lift_triple.imp (fun _ hs => hs) (fun _ _ hs => hs) ?_) (fun _ => ?_) _ rfl
  · rintro _ s ⟨_, rfl⟩
    exact Or.inl rfl
  rintro s ⟨hroom, rfl⟩
  by_cases hfault : call.fault = some .lineWrite
  · rw [if_pos hfault]
    exact Or.inr (And.intro hfault rfl)
  · rw [if_neg hfault]
    exact And.intro rfl (of_decide_eq_true (check_eq_ok.mp hroom))

theorem publishActiveMarker_triple {pre : Store -> Prop} {envelopes : List EventEnvelope} :
    Triple pre (publishActiveMarker call envelopes) (fun _ => pre)
      (fun _ s => call.fault = some .activeMarker ∧ pre s) :=
  Triple.ite (fun _ => site_triple) fun _ => Triple.pure fun _ hs => hs

theorem commit_triple (h : store.Sound env) (hdescribes : Describes env state store.history)
    (hadmitted : Admitted env stamps store state request batch) :
    Triple (fun s => s = store) (commit env call request batch)
      (fun _ s => Written env store request batch s)
      (fun _ s => Unwritten env call store s ∨
        ((call.fault.any Fault.afterWrite) = true ∧ Written env store request batch s)) := by
  have hprepared := validatePreparedAppend_prepared hadmitted.prepared
  have hvalid : forall item, item ∈ request.evidence ->
      env.validateSealedMetadata item = true :=
    fun item hitem => (hprepared.evidence item hitem).right
  have hfiled := @unwritten_filing env call store h _ hvalid
  apply Triple.bind
  · refine site_triple.imp (fun _ hs => hs) (fun _ _ hs => hs) ?_
    rintro _ s ⟨_, rfl⟩
    exact Or.inl (Kept.refl h).unwritten
  intro _
  apply Triple.bind
  · refine publishStaged_triple.imp (fun _ hs => hs) (fun _ _ hs => hs) ?_
    rintro _ s ⟨done, hprefixed, rfl⟩
    exact Or.inl (unwritten_filing h fun item hitem => hvalid item (hprefixed.subset hitem))
  rintro _ s ⟨hs, hstaged⟩
  -- From here on the evidence is published, whatever happens to the line.
  refine Triple.bind (writeLine_triple.imp (fun _ ht => ht) (fun _ _ ht => ht) ?_) ?_ s rfl
  · rintro _ t (rfl | ⟨hfault, rfl⟩)
    · exact Or.inl (hs ▸ hfiled)
    · refine Or.inl ?_
      rw [hs]
      exact
        { history := rfl
          segments := Or.inl (And.intro rfl rfl)
          torn := Or.inr (And.intro hfault rfl)
          retained := hfiled.retained
          sound := ⟨hfiled.sound.committed, hfiled.sound.seals, hfiled.sound.supported,
            hfiled.sound.filed⟩ }
  rintro _ t ⟨ht, hroom⟩
  have hpublished : Published store.blobs request t.blobs := by
    rw [ht]
    refine { retained := ?_, staged := hstaged }
    rw [hs]
    exact fun key stored hblob => fileBlobs_retains hblob
  have hwritten : Written env store request batch t := by
    refine { room := ?_, store := ?_, published := hpublished, sound := ?_ }
    · rw [hs] at hroom
      exact hroom
    · rw [ht, hs]
    · rw [ht, hs] at hpublished ⊢
      exact h.writing hdescribes hadmitted hpublished hfiled.sound.filed
  have hafter (fault : Fault) (hfault : fault.afterWrite = true) :
      Triple (fun u => Written env store request batch u) (site call fault)
        (fun _ u => Written env store request batch u)
        (fun _ u => Unwritten env call store u ∨
          ((call.fault.any Fault.afterWrite) = true ∧ Written env store request batch u)) := by
    refine site_triple.imp (fun _ hu => hu) (fun _ _ hu => hu) ?_
    rintro _ u ⟨hstruck, hu⟩
    exact Or.inr (And.intro (by rw [hstruck]; exact hfault) hu)
  refine Triple.bind (hafter .journalSync rfl) (fun _ => Triple.bind (hafter .rootSync rfl)
    fun _ => publishActiveMarker_triple.imp (fun _ hu => hu) (fun _ _ hu => hu) ?_) t hwritten
  rintro _ u ⟨hstruck, hu⟩
  exact Or.inr (And.intro (by rw [hstruck]; rfl) hu)

end Writing

/-!
## A whole call
-/

/-- What came of a call that was let through in the store `opened`. -/
inductive Settled (env : StoreEnvironment) (call : Call) (opened : Store) (state : LoadedState)
    (request : PreparedAppend) (batch : PhysicalBatch) (after : Store) : Prop where
  | retried (hadmission : admitAppend env call.stamps opened state request = .ok (.retry batch))
      (hafter : after = opened)
  | written (hadmission : admitAppend env call.stamps opened state request = .ok (.fresh batch))
      (hwritten : Written env opened request batch after)

/-- What a call leaves behind: no line of it, or its batch as the last of the history. -/
inductive Left (env : StoreEnvironment) (call : Call) (before : Store)
    (request : PreparedAppend) (after : Store) : Prop where
  | unwritten (hunwritten : Unwritten env call before after)
  | written {opened : Store} {state : LoadedState} {batch : PhysicalBatch}
      (hopened : LoadedFor env call before state opened)
      (hadmission : admitAppend env call.stamps opened state request = .ok (.fresh batch))
      (hwritten : Written env opened request batch after)

section Calls

variable {env : SealEnvironment} {call : Call} {store : Store} {request : PreparedAppend}

theorem appendLocked_triple (h : store.Sound env.toStoreEnvironment) :
    Triple (fun s => s = store) (appendLocked env call request)
      (fun events s => exists opened state batch,
        LoadedFor env.toStoreEnvironment call store state opened ∧
          Settled env.toStoreEnvironment call opened state request batch s ∧
          events = batch.events)
      (fun _ s => Unwritten env.toStoreEnvironment call store s ∨
        ((call.fault.any Fault.afterWrite) = true ∧ exists opened state batch,
          LoadedFor env.toStoreEnvironment call store state opened ∧
            admitAppend env.toStoreEnvironment call.stamps opened state request =
              .ok (.fresh batch) ∧
            Written env.toStoreEnvironment opened request batch s)) := by
  apply Triple.bind ((loadForAppend_triple h).imp (fun _ hs => hs) (fun _ _ hs => hs)
    fun _ s hs => Or.inl hs.unwritten)
  intro state
  apply Triple.bind read_triple
  rintro found opened ⟨rfl, hopened⟩
  have hkept := hopened.kept
  have hloaded := hkept.sound.of_loadState hopened.loads
  refine Triple.bind (lift_triple.imp (fun _ hs => hs) (fun _ _ hs => hs) ?_) (fun admission => ?_)
    _ rfl
  · rintro _ s ⟨_, rfl⟩
    exact Or.inl hkept.unwritten
  rintro s ⟨hadmission, rfl⟩
  cases admission with
  | retry batch =>
      refine Triple.bind (publishActiveMarker_triple.imp (fun _ hs => hs) (fun _ _ hs => hs) ?_)
        (fun _ => Triple.pure ?_) _ rfl
      · rintro _ t ⟨_, rfl⟩
        exact Or.inl hkept.unwritten
      · rintro t rfl
        exact ⟨_, state, batch, hopened, Settled.retried hadmission rfl, rfl⟩
  | fresh batch =>
      have hadmitted := admit_eq_ok hadmission
      refine Triple.bind ((commit_triple hkept.sound hloaded.left hadmitted).imp
        (fun _ hs => hs) (fun _ _ hs => hs) ?_) (fun _ => Triple.pure ?_) _ rfl
      · rintro _ t (hunwritten | ⟨hfault, hwritten⟩)
        · refine Or.inl ?_
          exact
            { history := hunwritten.history.trans hkept.history
              segments := by
                rcases hunwritten.segments with ⟨hsealed, hactive⟩ | hactive
                · rw [hsealed, hactive]
                  exact hkept.segments
                · exact Or.inr hactive
              torn := hunwritten.torn.imp (fun htorn => htorn.trans hkept.torn) id
              retained := fun key stored hblob =>
                hunwritten.retained key stored (hkept.blobs ▸ hblob)
              sound := hunwritten.sound }
        · exact Or.inr (And.intro hfault ⟨_, state, batch, hopened, hadmission, hwritten⟩)
      · intro t hwritten
        exact ⟨_, state, batch, hopened, Settled.written hadmission hwritten, rfl⟩

theorem appendLocked_left (h : store.Sound env.toStoreEnvironment) :
    Left env.toStoreEnvironment call store request
      (stateAfter (appendLocked env call request) store) := by
  have hboth : Triple (fun s => s = store) (appendLocked env call request)
      (fun _ => Left env.toStoreEnvironment call store request)
      (fun _ => Left env.toStoreEnvironment call store request) := by
    refine (appendLocked_triple h).imp (fun _ hs => hs) ?_ ?_
    · rintro _ s ⟨opened, state, batch, hopened, hsettled, _⟩
      cases hsettled with
      | retried _ hafter =>
          rw [hafter]
          exact Left.unwritten hopened.kept.unwritten
      | written hadmission hwritten =>
          exact Left.written hopened hadmission hwritten
    · rintro _ s (hunwritten | ⟨_, opened, state, batch, hopened, hadmission, hwritten⟩)
      · exact Left.unwritten hunwritten
      · exact Left.written hopened hadmission hwritten
  exact hboth.stateAfter rfl

variable {state : LoadedState}

theorem appendLocked_of_admitAppend {opened : Store} {admission : Admission}
    (hload : loadForAppend env call store = .ok state opened)
    (hadmission : admitAppend env.toStoreEnvironment call.stamps opened state request = .ok admission) :
    appendLocked env call request store =
      settleAdmission env.toStoreEnvironment call request admission opened := by
  change EStateM.bind (loadForAppend env call) _ store = _
  unfold EStateM.bind
  rw [hload]
  show EStateM.bind (lift (admitAppend env.toStoreEnvironment call.stamps opened state request)) _
    opened = _
  rw [hadmission]
  rfl

theorem appendLocked_of_refused {opened : Store} {error : EventRepositoryError}
    (hload : loadForAppend env call store = .ok state opened)
    (hrefused : admitAppend env.toStoreEnvironment call.stamps opened state request = .error error) :
    appendLocked env call request store = .error error opened := by
  refine bind_eq_error.mpr (Or.inr ⟨state, opened, hload, ?_⟩)
  refine bind_eq_error.mpr (Or.inr ⟨opened, opened, rfl, ?_⟩)
  refine bind_eq_error.mpr (Or.inl ?_)
  unfold lift
  rw [hrefused]

theorem loadForAppend_of_unrotated (hload : loadState env.toStoreEnvironment store = .ok state)
    (hfault : call.fault = none)
    (hrotate : shouldRotate env.toStoreEnvironment call.rotateAt state.batches = false) :
    loadForAppend env call store = .ok state store := by
  have hsync : syncLoadedJournal call state store = .ok () store := by
    unfold syncLoadedJournal
    by_cases hempty : state.batches.isEmpty = true
    · rw [if_pos hempty]
      rfl
    · rw [if_neg hempty]
      exact site_of_ne (by rw [hfault]; simp)
  change EStateM.bind (loadCurrent env) _ store = _
  unfold EStateM.bind
  have hcurrent : loadCurrent env store = .ok state store := by
    show lift (loadState env.toStoreEnvironment store) store = _
    rw [hload]
    rfl
  rw [hcurrent]
  show EStateM.bind (syncLoadedJournal call state) _ store = _
  unfold EStateM.bind
  rw [hsync]
  simp only [hrotate, Bool.false_eq_true, if_false]
  rfl

theorem settleAdmission_of_fresh {env : StoreEnvironment} {batch : PhysicalBatch}
    (hfault : call.fault = none) (hevidence : request.evidence = [])
    (hroom : journalLength env store.active + (env.canonicalBatchLen batch + 1) <=
      maxJournalBytes) :
    settleAdmission env call request (.fresh batch) store =
      .ok batch.events { store with active := store.active ++ [batch] } := by
  have hwrite : writeLine env call batch store =
      .ok () { store with active := store.active ++ [batch] } := by
    show EStateM.bind (lift (check _ _)) _ store = _
    unfold EStateM.bind lift
    rw [(check_eq_ok (u := ())).mpr (decide_eq_true hroom)]
    dsimp only
    rw [hfault, if_neg (by simp)]
    rfl
  have hsite (fault : Fault) (s : Store) : site call fault s = .ok () s :=
    site_of_ne (by rw [hfault]; simp)
  have hmarker (s : Store) : publishActiveMarker call batch.events s = .ok () s := by
    unfold publishActiveMarker
    by_cases hpublishes : (batch.events.any fun event => isPublication event.kind) = true
    · rw [if_pos hpublishes]
      exact hsite _ s
    · rw [if_neg hpublishes]
      rfl
  have hcommit : commit env call request batch store =
      .ok () { store with active := store.active ++ [batch] } := by
    unfold commit
    rw [hevidence]
    refine bind_eq_ok.mpr ⟨(), store, hsite _ _, bind_eq_ok.mpr ⟨(), store, hsite _ _, ?_⟩⟩
    refine bind_eq_ok.mpr ⟨(), _, hwrite, bind_eq_ok.mpr ⟨(), _, hsite _ _, ?_⟩⟩
    exact bind_eq_ok.mpr ⟨(), _, hsite _ _, hmarker _⟩
  exact bind_eq_ok.mpr ⟨(), _, hcommit, rfl⟩

end Calls

end GraphHelm
