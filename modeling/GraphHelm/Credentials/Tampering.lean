import GraphHelm.Credentials.Leases

/-!
# A tampered index

What loads from an index that someone has put together without the key, from anything the
broker ever wrote.
-/

namespace GraphHelm
namespace Credentials

open Keys Std

/-- Two entries give the same access: to the same routes, for the same sealed value. -/
structure SameAccess (a b : Entry) : Prop where
  provider : a.provider = b.provider
  usableBy : forall route, route ∈ a.usableBy <-> route ∈ b.usableBy
  revoked : a.revoked = b.revoked
  contentSha256 : a.evidence.contentSha256 = b.evidence.contentSha256
  ciphertextSha256 : a.evidence.ciphertextSha256 = b.evidence.ciphertextSha256

theorem SameFacts.sameAccess {a b : Entry} (h : SameFacts a b) : SameAccess a b where
  provider := h.provider
  usableBy _ := h.usableBy.mem_iff
  revoked := h.revoked
  contentSha256 := h.contentSha256
  ciphertextSha256 := h.ciphertextSha256

theorem SameAccess.symm {a b : Entry} (h : SameAccess a b) : SameAccess b a where
  provider := h.provider.symm
  usableBy route := (h.usableBy route).symm
  revoked := h.revoked.symm
  contentSha256 := h.contentSha256.symm
  ciphertextSha256 := h.ciphertextSha256.symm

theorem SameAccess.trans {a b c : Entry} (h : SameAccess a b) (h' : SameAccess b c) :
    SameAccess a c where
  provider := h.provider.trans h'.provider
  usableBy route := (h.usableBy route).trans (h'.usableBy route)
  revoked := h.revoked.trans h'.revoked
  contentSha256 := h.contentSha256.trans h'.contentSha256
  ciphertextSha256 := h.ciphertextSha256.trans h'.ciphertextSha256

section Tampering

variable {File : Type} {broker : Broker File} {s : System File}

def LastPersisted (broker : Broker File) (s : System File) (id : String) (last : Entry) : Prop :=
  exists (surroundings : Surroundings) (current : Entries),
    broker.load surroundings s.index = .ok current ∧ current[id]? = some last

/-- Nobody without the key has made a tag: one that verifies was written by the broker, and
over nothing else. -/
def Unforged (broker : Broker File) (s : System File) (store : PersistedStore) : Prop :=
  forall raw entry, raw ∈ store.entries -> Entry.fromPersisted raw = .ok entry ->
    Tagged broker entry ->
    (exists other, other ∈ s.written ∧ other.macTag = entry.macTag) ∧
      forall other, other ∈ s.written -> other.macTag = entry.macTag ->
        other.authenticationBytes = entry.authenticationBytes

def AsPersisted (broker : Broker File) (s : System File) (entries : Entries) : Prop :=
  forall (id : String) (entry : Entry), entries[id]? = some entry ->
    exists last, LastPersisted broker s id last ∧ SameAccess entry last

/-- The entry of an index that counts among those with its id. -/
def LastListed (store : PersistedStore) (raw : PersistedEntry) : Prop :=
  (store.entries.reverse.find? fun other => decide (other.id = raw.id)) = some raw

def TagsOfLast (broker : Broker File) (s : System File) (store : PersistedStore) : Prop :=
  forall raw, LastListed store raw ->
    exists last other, LastPersisted broker s raw.id last ∧ other ∈ s.written ∧
      hexDecode raw.entryMac.tag = some other.macTag ∧ SameAccess other last

theorem loaded_of_listed {surroundings : Surroundings} {index : File} {store : PersistedStore}
    {entries : Entries} (hread : broker.format.read index = some store)
    (hload : broker.load surroundings index = .ok entries) :
    (forall (id : String) (entry : Entry), entries[id]? = some entry ->
      exists raw, LastListed store raw ∧ raw.id = id ∧
        loadEntry (broker.keys surroundings) raw = .ok entry) ∧
    (forall raw, LastListed store raw ->
      exists entry, entries[raw.id]? = some entry ∧
        loadEntry (broker.keys surroundings) raw = .ok entry) := by
  rcases load_eq_ok hload with ⟨found, hfound, listed, hlisted, hentries⟩
  rw [hread] at hfound
  cases hfound
  have hsearch := fun id : String =>
    find?_of_forall₂ (List.rel_reverse hlisted) (p := fun raw => decide (raw.id = id))
      (q := fun entry => decide (entry.id = id)) (fun raw entry hentry => by
        rw [(fromPersisted_eq_ok (loadEntry_eq_ok hentry).left).left])
  constructor
  · intro id entry hentry
    rw [hentries id] at hentry
    rcases hsearch id with ⟨_, hnone⟩ | ⟨raw, other, hraw, hother, hloaded⟩
    · rw [hnone] at hentry
      cases hentry
    · rw [hother] at hentry
      cases hentry
      have hid := List.find?_some hraw
      have hid : raw.id = id := of_decide_eq_true hid
      refine ⟨raw, ?_, hid, hloaded⟩
      unfold LastListed
      rw [hid]
      exact hraw
  · intro raw hraw
    rcases hsearch raw.id with ⟨hnone, _⟩ | ⟨other, entry, hother, hentry, hloaded⟩
    · unfold LastListed at hraw
      rw [hraw] at hnone
      cases hnone
    · unfold LastListed at hraw
      rw [hraw] at hother
      cases hother
      refine ⟨entry, ?_, hloaded⟩
      rw [hentries raw.id]
      exact hentry

theorem sameFacts_of_tag {store : PersistedStore} (hsound : Sound broker s)
    (hunforged : Unforged broker s store) {raw : PersistedEntry} {entry other : Entry}
    (hraw : raw ∈ store.entries) (hparsed : Entry.fromPersisted raw = .ok entry)
    (htagged : Tagged broker entry) (hother : other ∈ s.written)
    (htag : other.macTag = entry.macTag) : SameFacts other entry :=
  sameFacts_of_bytes (hsound.written other hother).tagged.size htagged.size
    ((hunforged raw entry hraw hparsed htagged).right other hother htag)

/-- After every run, an index that loads gives the access that was persisted last exactly when
its entries carry the tags of the access that was persisted last. -/
theorem loaded_as_persisted_iff (hinverts : Inverts broker.env.toWrappingCipher) {first : Nat}
    {actions : List Action}
    (hrun : run (System.step broker) (System.created broker first) actions = some s)
    {index : File} {store : PersistedStore} {surroundings : Surroundings} {entries : Entries}
    (hread : broker.format.read index = some store) (hunforged : Unforged broker s store)
    (hload : broker.load surroundings index = .ok entries) :
    AsPersisted broker s entries <-> TagsOfLast broker s store := by
  have hsound := Sound.after_run hinverts hrun
  rcases loaded_of_listed hread hload with ⟨hlisted, hloaded⟩
  constructor
  · intro hpersisted raw hraw
    rcases hloaded raw hraw with ⟨entry, hentry, hfrom⟩
    rcases loadEntry_eq_ok hfrom with ⟨hparsed, htagged⟩
    have hmem : raw ∈ store.entries := List.mem_reverse.mp (List.mem_of_find?_eq_some hraw)
    rcases hpersisted raw.id entry hentry with ⟨last, hlast, hsame⟩
    rcases (hunforged raw entry hmem hparsed htagged).left with ⟨other, hother, htag⟩
    have hfacts := sameFacts_of_tag hsound hunforged hmem hparsed htagged hother htag
    refine ⟨last, other, hlast, hother, ?_, hfacts.sameAccess.trans hsame⟩
    rw [(fromPersisted_eq_ok hparsed).right, htag]
  · intro htags id entry hentry
    rcases hlisted id entry hentry with ⟨raw, hraw, hid, hfrom⟩
    rcases loadEntry_eq_ok hfrom with ⟨hparsed, htagged⟩
    have hmem : raw ∈ store.entries := List.mem_reverse.mp (List.mem_of_find?_eq_some hraw)
    rcases htags raw hraw with ⟨last, other, hlast, hother, htag, hsame⟩
    rw [(fromPersisted_eq_ok hparsed).right] at htag
    have hfacts := sameFacts_of_tag hsound hunforged hmem hparsed htagged hother
      (Option.some.inj htag).symm
    rw [hid] at hlast
    exact ⟨last, hlast, hfacts.sameAccess.symm.trans hsame⟩

end Tampering

/-!
## An earlier index is put back
-/

def sampleRevoked : List Action :=
  [.store 0 sampleSurroundings .done sampleReference (utf8 "value"),
    .revoke 0 sampleSurroundings .done "openai"]

structure Replaced (s : System PersistedStore) (before : Entries) (entry : Entry) : Prop where
  index : s.index =
    serializeStore sampleBroker.format (before.insert "openai" (revokedEntry sampleBroker entry))
  written : s.written = before.toList.map Prod.snd ++
    (before.insert "openai" (revokedEntry sampleBroker entry)).toList.map Prod.snd
  indexed : Indexed sampleBroker before
  afterIndexed : Indexed sampleBroker
    (before.insert "openai" (revokedEntry sampleBroker entry))
  only : forall (id : String) (other : Entry), before[id]? = some other ->
    id = "openai" ∧ other = entry
  listed : before["openai"]? = some entry
  granted : entry.revoked = false
  retagged : (revokedEntry sampleBroker entry).macTag ≠ entry.macTag

theorem sampleRevoked_run :
    exists s before entry, run (System.step sampleBroker) sampleCreated sampleRevoked = some s ∧
      Replaced s before entry := by
  rcases sampleCandidate_ok with ⟨before, hbefore, hretagged⟩
  have hstored := changes_of_store sampleBroker_inverts indexed_empty hbefore
  have hsays := hstored.represented [] represented_empty
  rcases hsays "openai" with ⟨entry, hentry, hreflects⟩
  have hafter := @revokeCandidate_ok PersistedStore sampleBroker sampleSurroundings before entry
    "openai" hstored.indexed hentry ⟨sampleState, rfl⟩
  have hrevoked := changes_of_revoke hstored.indexed hafter
  have hstep := step_revoke (rfl : (sampleStored before).held 0 = some before) hafter
  refine ⟨_, before, entry, run_cons_eq_some.mpr ⟨_, step_sampleStore hbefore,
    run_cons_eq_some.mpr ⟨_, hstep, rfl⟩⟩, ?_⟩
  refine ⟨rfl, rfl, hstored.indexed, hrevoked.indexed, ?_, hentry, hreflects.revoked,
    hretagged "openai" entry hentry⟩
  intro id other hother
  by_cases heq : id = "openai"
  · subst heq
    rw [hentry] at hother
    exact And.intro rfl (Option.some.inj hother).symm
  · have hnone := hsays id
    have hgrant : grantOf ([] ++ [.stored sampleReference (utf8 "value")]) id = none :=
      if_neg (Ne.symm heq)
    rw [hgrant] at hnone
    rw [show before[id]? = none from hnone] at hother
    cases hother

/-- The index that the sample's store wrote. -/
def earlierStore (before : Entries) : PersistedStore where
  storeVersion := storeVersion
  entries := before.toList.map fun binding => binding.2.toPersisted

theorem Replaced.unforged {s : System PersistedStore} {before : Entries} {entry : Entry}
    (h : Replaced s before entry) : Unforged sampleBroker s (earlierStore before) := by
  intro raw parsed hraw hparsed _
  rcases List.mem_map.mp hraw with ⟨binding, hbinding, rfl⟩
  have hget := ExtTreeMap.mem_toList_iff_getElem?_eq_some.mp hbinding
  rw [fromPersisted_toPersisted (h.indexed.kept _ _ hget).wellFormed] at hparsed
  rw [← Except.ok.inj hparsed, (h.only _ _ hget).right, h.written]
  constructor
  · refine ⟨entry, List.mem_append_left _ ?_, rfl⟩
    exact List.mem_map.mpr ⟨("openai", entry),
      ExtTreeMap.mem_toList_iff_getElem?_eq_some.mpr h.listed, rfl⟩
  · intro other hother htag
    rcases List.mem_append.mp hother with hfirst | hsecond
    · rcases List.mem_map.mp hfirst with ⟨found, hfound, rfl⟩
      rw [(h.only _ _ (ExtTreeMap.mem_toList_iff_getElem?_eq_some.mp hfound)).right]
    · rcases List.mem_map.mp hsecond with ⟨found, hfound, rfl⟩
      have hfound := ExtTreeMap.mem_toList_iff_getElem?_eq_some.mp hfound
      by_cases heq : "openai" = found.1
      · rw [← heq, ExtTreeMap.getElem?_insert_self] at hfound
        rw [← Option.some.inj hfound] at htag
        exact absurd htag h.retagged
      · rw [OrderedMap.getElem?_insert_of_ne heq] at hfound
        exact absurd (h.only _ _ hfound).left.symm heq

theorem sample_loaded_as_persisted_iff :
    exists s before, run (System.step sampleBroker) sampleCreated sampleRevoked = some s ∧
      Unforged sampleBroker s (earlierStore before) ∧
      (AsPersisted sampleBroker s before <->
        TagsOfLast sampleBroker s (earlierStore before)) := by
  rcases sampleRevoked_run with ⟨s, before, entry, hrun, h⟩
  have hload := @load_serializeStore PersistedStore sampleBroker sampleSurroundings before h.indexed
    ⟨sampleState, rfl⟩
  exact ⟨s, before, hrun, h.unforged,
    loaded_as_persisted_iff sampleBroker_inverts hrun rfl h.unforged hload⟩

/-- Putting back the index from before a revocation gives the revoked credential back. -/
theorem earlier_index_put_back :
    ¬ forall actions s, run (System.step sampleBroker) sampleCreated actions = some s ->
      forall index store surroundings entries, sampleBroker.format.read index = some store ->
        Unforged sampleBroker s store -> sampleBroker.load surroundings index = .ok entries ->
        AsPersisted sampleBroker s entries := by
  intro hall
  rcases sampleRevoked_run with ⟨s, before, entry, hrun, h⟩
  have hload := @load_serializeStore PersistedStore sampleBroker sampleSurroundings before h.indexed
    ⟨sampleState, rfl⟩
  have hpersisted := hall sampleRevoked s hrun _ _ sampleSurroundings before rfl h.unforged hload
  rcases hpersisted "openai" entry h.listed with ⟨last, ⟨again, current, hcurrent, hlast⟩, hsame⟩
  rw [h.index] at hcurrent
  rw [load_serializeStore_eq h.afterIndexed hcurrent, ExtTreeMap.getElem?_insert_self] at hlast
  have hflags := hsame.revoked
  rw [h.granted, ← Option.some.inj hlast] at hflags
  cases hflags

end Credentials
end GraphHelm
