import GraphHelm.Credentials.Handles
import GraphHelm.Keys.Reading

/-!
# Leases over whole runs

Which leases see the last store and the last revocation of a credential, and that no
store and no revocation is lost.
-/

namespace GraphHelm
namespace Credentials

open Keys Std

section Leases

variable {File : Type} {broker : Broker File} {s : System File}

/-- The index loads, whenever the key provider can be used, and says what was committed. -/
def NothingLost (broker : Broker File) (s : System File) : Prop :=
  exists entries,
    (forall surroundings : Surroundings, (exists state, surroundings.loaded = .ok state) ->
      broker.load surroundings s.index = .ok entries) ∧
    Represented broker s.commits entries

/-- A value is what the last store under an id gave, for a route that the last store of it
allows, and it has not been revoked since. -/
def Granted (commits : List Commit) (id routeId : String) (value : Bytes) : Prop :=
  exists grant, grantOf commits id = some grant ∧ grant.revoked = false ∧
    routeId ∈ grant.usableBy ∧ value = grant.value

/-- What a handle holds under an id is what loading the index would give it. -/
def Fresh (broker : Broker File) (s : System File) (held : Entries) (id : String) : Prop :=
  exists surroundings current, broker.load surroundings s.index = .ok current ∧
    held[id]? = current[id]?

def FreshLeasesGranted (broker : Broker File) (s : System File) : Prop :=
  forall handle held surroundings id routeId value, s.held handle = some held ->
    Fresh broker s held id -> lease broker surroundings held id routeId = .ok value ->
    Granted s.commits id routeId value

def LeasesGranted (broker : Broker File) (s : System File) : Prop :=
  forall handle held surroundings id routeId value, s.held handle = some held ->
    lease broker surroundings held id routeId = .ok value -> Granted s.commits id routeId value

def LeasesOnceGranted (broker : Broker File) (s : System File) : Prop :=
  forall handle held, s.held handle = some held ->
    exists earlier, earlier <+: s.commits ∧
      forall surroundings id routeId value,
        lease broker surroundings held id routeId = .ok value <->
          Granted earlier id routeId value ∧
            exists state, surroundings.loaded = .ok state ∧ state.isRevoked id = false

variable {id : String} {surroundings : Surroundings} {handle : Nat}

theorem lease_iff_granted {entries : Entries} {commits : List Commit} {routeId : String}
    {value : Bytes} (h : Indexed broker entries)
    (hreads : Reads broker (grantOf commits id) entries[id]?) :
    lease broker surroundings entries id routeId = .ok value <->
      Granted commits id routeId value ∧
        exists state, surroundings.loaded = .ok state ∧ state.isRevoked id = false := by
  rw [lease_eq_ok h hreads]
  constructor
  · rintro ⟨state, grant, hstate, hkey, hgrant⟩
    exact And.intro ⟨grant, hgrant⟩ ⟨state, hstate, hkey⟩
  · rintro ⟨⟨grant, hgrant⟩, state, hstate, hkey⟩
    exact ⟨state, grant, hstate, hkey, hgrant⟩

theorem Sound.nothingLost (h : Sound broker s) : NothingLost broker s := by
  rcases h.current with ⟨entries, hindex, hindexed, hrepresented, _⟩
  refine ⟨entries, ?_, hrepresented⟩
  intro surroundings hloaded
  rw [hindex]
  exact load_serializeStore hindexed hloaded

theorem Sound.freshLeasesGranted (h : Sound broker s) : FreshLeasesGranted broker s := by
  intro handle held surroundings id routeId value hheld hfresh hlease
  rcases hfresh with ⟨again, current, hload, hsame⟩
  rcases h.current with ⟨entries, hindex, hindexed, hrepresented, _⟩
  rw [hindex] at hload
  have hreads := hrepresented id
  rw [← load_serializeStore_eq hindexed hload, ← hsame] at hreads
  exact ((lease_iff_granted (h.held handle held hheld).left hreads).mp hlease).left

theorem Sound.leasesOnceGranted (h : Sound broker s) : LeasesOnceGranted broker s := by
  intro handle held hheld
  rcases h.held handle held hheld with ⟨hindexed, earlier, hearlier, hrepresented⟩
  refine ⟨earlier, hearlier, ?_⟩
  intro surroundings id routeId value
  exact lease_iff_granted hindexed (hrepresented id)

/-- In every run of calls by any handles: nothing that was committed is lost, a lease through a
handle whose copy is fresh gives what is granted, and any lease what was granted once. -/
theorem leases_over_runs (hinverts : Inverts broker.env.toWrappingCipher) {first : Nat}
    {actions : List Action}
    (hrun : run (System.step broker) (System.created broker first) actions = some s) :
    NothingLost broker s ∧ FreshLeasesGranted broker s ∧ LeasesOnceGranted broker s := by
  have hsound := Sound.after_run hinverts hrun
  exact ⟨hsound.nothingLost, hsound.freshLeasesGranted, hsound.leasesOnceGranted⟩

/-!
## A revocation through another handle
-/

theorem length_entryAuthenticationBytes {provider : String} {usableBy : List String}
    {evidence : SealedEvidence} (revoked again : Bool) :
    (entryAuthenticationBytes id provider usableBy revoked evidence).length =
      (entryAuthenticationBytes id provider usableBy again evidence).length := by
  unfold entryAuthenticationBytes
  simp only [List.length_append, List.length_singleton]

def revokedEntry (broker : Broker File) (entry : Entry) : Entry :=
  { entry with
    revoked := true
    macKeyId := broker.keyId.text
    macTag := tagOf broker.env.toDigest broker.keyMaterial entryMacPurpose
      (entryAuthenticationBytes entry.id entry.provider entry.usableBy true entry.evidence) }

/-- A credential that is known can be revoked, whenever the key provider can be used. -/
theorem revokeCandidate_ok {surroundings : Surroundings} {entries : Entries} {entry : Entry}
    {id : String} (h : Indexed broker entries) (hentry : entries[id]? = some entry)
    (hloaded : exists state, surroundings.loaded = .ok state) :
    revokeCandidate broker surroundings (serializeStore broker.format entries) id =
      .ok (entries.insert id (revokedEntry broker entry), ()) := by
  have hsize := (h.kept id entry hentry).tagged.size
  unfold Entry.authenticationBytes at hsize
  rw [length_entryAuthenticationBytes entry.revoked true] at hsize
  have hmac := @computeEntryMac_eq_ok File broker surroundings entry.id entry.provider
    entry.usableBy true entry.evidence _ |>.mpr ⟨hloaded, hsize, rfl⟩
  unfold revokeCandidate
  rw [load_serializeStore h hloaded, Except.ok_bind, Except.orRefuse_bind hentry, hmac]
  rfl

theorem step_revoke {held after : Entries} (hheld : s.held handle = some held)
    (hcandidate : revokeCandidate broker surroundings s.index id = .ok (after, ())) :
    s.step broker (.revoke handle surroundings .done id) =
      some
        { index := serializeStore broker.format after
          held := Function.update s.held handle (some after)
          commits := s.commits ++ [.revoked id]
          written := s.written ++ after.toList.map Prod.snd } := by
  simp only [System.step]
  rw [hheld, hcandidate]
  rfl

theorem step_store {held after : Entries} {reference stored : SecretReference} {value : Bytes}
    (hheld : s.held handle = some held)
    (hcandidate : storeCandidate broker surroundings s.index reference value =
      .ok (after, stored)) :
    s.step broker (.store handle surroundings .done reference value) =
      some
        { index := serializeStore broker.format after
          held := Function.update s.held handle (some after)
          commits := s.commits ++ [.stored stored value]
          written := s.written ++ after.toList.map Prod.snd } := by
  simp only [System.step]
  rw [hheld, hcandidate]
  rfl

theorem step_opening {loaded : Entries} (hfree : s.held handle = none)
    (hload : broker.load surroundings s.index = .ok loaded) :
    s.step broker (.opening handle surroundings) =
      some { s with held := Function.update s.held handle (some loaded) } := by
  simp only [System.step]
  rw [hfree, hload]
  rfl

theorem Sound.lease_after_revocation (h : Sound broker s) {other : Nat} {mine held : Entries}
    {routeId : String} {value : Bytes} (hmine : s.held handle = some mine)
    (hheld : s.held other = some held) (hother : other ≠ handle)
    (hlease : lease broker surroundings held id routeId = .ok value) :
    exists t, s.step broker (.revoke handle surroundings .done id) = some t ∧
      t.held other = some held ∧ ¬ Granted t.commits id routeId value := by
  rcases h.current with ⟨entries, hindex, hindexed, hrepresented, _⟩
  rcases h.held other held hheld with ⟨hkept, earlier, hprefix, hearlier⟩
  rcases (lease_iff_granted hkept (hearlier id)).mp hlease with
    ⟨⟨grant, hgrant, _⟩, state, hstate, _⟩
  rcases exists_grantOf_of_prefix hprefix hgrant with ⟨known, hknown⟩
  have hreads := hrepresented id
  rw [hknown] at hreads
  rcases hreads with ⟨entry, hentry, _⟩
  have hafter := @revokeCandidate_ok File broker surroundings entries entry id hindexed hentry
    ⟨state, hstate⟩
  rw [← hindex] at hafter
  refine ⟨_, step_revoke hmine hafter, ?_, ?_⟩
  · rw [← hheld]
    exact Function.update_of_ne hother _ _
  · rintro ⟨last, hlast, hopen, _⟩
    simp only at hlast
    rw [grantOf_revoked, hknown] at hlast
    rw [← Option.some.inj hlast] at hopen
    exact Bool.false_ne_true hopen.symm

end Leases

/-!
## A broker at work
-/

def sampleBroker : Broker PersistedStore where
  env :=
    { sampleProvider with
      sha256 := fun bytes => bytes.foldl (· + ·) 7 :: List.replicate 31 0
      length := fun _ => rfl }
  keyId := sampleId
  keyMaterial := sampleMaterial
  format :=
    { write := fun store => store
      read := some
      read_write := fun _ => rfl }

def sampleState : JournalState where
  headerTag := []
  records := []
  idempotency := ∅
  revokedHandles := ∅
  byteLength := 0

def sampleSurroundings : Surroundings where
  loaded := .ok sampleState
  random := { key := List.replicate 32 2, nonce := List.replicate 24 3 }
  wrappingNonce := List.replicate 24 4

def sampleReference : SecretReference where
  id := "openai"
  provider := "openai"
  usableBy := ["main"]

def sampleCreated : System PersistedStore :=
  System.created sampleBroker 0

/-- The first handle stores, and a second one is opened. -/
def sampleRun : List Action :=
  [.store 0 sampleSurroundings .done sampleReference (utf8 "value"),
    .opening 1 sampleSurroundings]

theorem sampleBroker_inverts : Inverts sampleBroker.env.toWrappingCipher := by
  intro key nonce aad plaintext ciphertext h
  have heq : ciphertext = plaintext ++ List.replicate 16 0 := (Option.some.inj h).symm
  show some (ciphertext.take (ciphertext.length - 16)) = some plaintext
  rw [heq, List.length_append, List.length_replicate, Nat.add_sub_cancel, List.take_left]

def sampleRetags : Bool :=
  match storeCandidate sampleBroker sampleSurroundings sampleCreated.index sampleReference
      (utf8 "value") with
  | .error _ => false
  | .ok (after, _) =>
      after.toList.all fun binding => decide ((revokedEntry sampleBroker binding.2).macTag ≠ binding.2.macTag)

theorem sampleRetags_eq : sampleRetags = true := by
  decide +kernel

theorem sampleCandidate_ok :
    exists after, storeCandidate sampleBroker sampleSurroundings sampleCreated.index
        sampleReference (utf8 "value") = .ok (after, sampleReference) ∧
      forall (id : String) (entry : Entry), after[id]? = some entry ->
        (revokedEntry sampleBroker entry).macTag ≠ entry.macTag := by
  have hretags := sampleRetags_eq
  unfold sampleRetags at hretags
  split at hretags
  · cases hretags
  · rename_i after stored hcandidate
    have hstored := hcandidate
    rcases bind_ok hstored with ⟨_, _, hstored⟩
    rcases bind_ok hstored with ⟨_, _, hstored⟩
    rcases bind_ok hstored with ⟨_, _, hstored⟩
    rcases bind_ok hstored with ⟨_, _, hstored⟩
    cases hstored
    refine ⟨_, hcandidate, ?_⟩
    intro id entry hentry
    exact of_decide_eq_true (List.all_eq_true.mp hretags (id, entry)
      (ExtTreeMap.mem_toList_iff_getElem?_eq_some.mpr hentry))

def sampleStored (after : Entries) : System PersistedStore where
  index := serializeStore sampleBroker.format after
  held := Function.update sampleCreated.held 0 (some after)
  commits := [.stored sampleReference (utf8 "value")]
  written := after.toList.map Prod.snd

theorem step_sampleStore {after : Entries}
    (h : storeCandidate sampleBroker sampleSurroundings sampleCreated.index sampleReference
      (utf8 "value") = .ok (after, sampleReference)) :
    sampleCreated.step sampleBroker
      (.store 0 sampleSurroundings .done sampleReference (utf8 "value")) =
      some (sampleStored after) :=
  step_store (rfl : sampleCreated.held 0 = some ∅) h

theorem sampleRun_leases :
    exists s mine held, run (System.step sampleBroker) sampleCreated sampleRun = some s ∧
      s.held 0 = some mine ∧ s.held 1 = some held ∧
      lease sampleBroker sampleSurroundings held "openai" "main" = .ok (utf8 "value") := by
  rcases sampleCandidate_ok with ⟨after, hafter, _⟩
  have hsound : Sound sampleBroker (sampleStored after) :=
    Sound.step sampleBroker_inverts Sound.created (step_sampleStore hafter)
  rcases hsound.nothingLost with ⟨held, hload, hrepresented⟩
  have hloaded := hload sampleSurroundings ⟨sampleState, rfl⟩
  have hfree : (sampleStored after).held 1 = none := rfl
  have hopen := step_opening hfree hloaded
  have hrun : run (System.step sampleBroker) sampleCreated sampleRun = some _ :=
    run_cons_eq_some.mpr ⟨_, step_sampleStore hafter, run_cons_eq_some.mpr ⟨_, hopen, rfl⟩⟩
  refine ⟨_, after, held, hrun, rfl, rfl, ?_⟩
  have hindexed := ((Sound.after_run sampleBroker_inverts hrun).held 1 held rfl).left
  apply (lease_iff_granted hindexed (hrepresented "openai")).mpr
  exact ⟨⟨_, rfl, rfl, List.mem_singleton_self _, rfl⟩, sampleState, rfl, rfl⟩

theorem sample_leases_over_runs :
    exists s, run (System.step sampleBroker) sampleCreated sampleRun = some s ∧
      NothingLost sampleBroker s ∧ FreshLeasesGranted sampleBroker s ∧
        LeasesOnceGranted sampleBroker s := by
  rcases sampleRun_leases with ⟨s, _, _, hrun, _⟩
  exact ⟨s, hrun, leases_over_runs sampleBroker_inverts hrun⟩

/-- A handle that was opened before a revocation goes on leasing. -/
theorem revocation_unseen :
    ¬ forall actions s, run (System.step sampleBroker) sampleCreated actions = some s ->
      LeasesGranted sampleBroker s := by
  intro hall
  rcases sampleRun_leases with ⟨s, mine, held, hrun, hmine, hheld, hlease⟩
  have hsound := Sound.after_run sampleBroker_inverts hrun
  rcases hsound.lease_after_revocation hmine hheld (by decide) hlease with
    ⟨t, hstep, hstill, hnot⟩
  have hlater : run (System.step sampleBroker) sampleCreated
      (sampleRun ++ [.revoke 0 sampleSurroundings .done "openai"]) = some t := by
    rw [run_append, hrun]
    exact run_singleton.trans hstep
  exact hnot (hall _ t hlater 1 held _ _ _ _ hstill hlease)

end Credentials
end GraphHelm
