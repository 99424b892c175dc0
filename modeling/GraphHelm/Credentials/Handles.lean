import GraphHelm.Credentials.Entries
import GraphHelm.Library.Runs

/-!
# Handles over one index

Any number of brokers over one directory. A call that changes the index reads and
replaces it under the directory's lock; a lease answers from what the handle holds.
-/

namespace GraphHelm
namespace Credentials

open Keys Std
open Externalize (EvidenceError)

/-!
## What has been committed
-/

inductive Commit where
  | stored (reference : SecretReference) (value : Bytes)
  | revoked (id : String)

/-- What a credential is for: who it is from, which routes may have it, and its value. -/
structure Grant where
  provider : String
  usableBy : List String
  revoked : Bool
  value : Bytes

def grantAfter (id : String) (grant : Option Grant) : Commit -> Option Grant
  | .stored reference value =>
      if reference.id = id then
        some
          { provider := reference.provider
            usableBy := reference.usableBy
            revoked := false
            value := value }
      else grant
  | .revoked other =>
      if other = id then grant.map fun grant => { grant with revoked := true } else grant

def grantOf (commits : List Commit) (id : String) : Option Grant :=
  commits.foldl (grantAfter id) none

theorem grantOf_concat (commits : List Commit) (commit : Commit) (id : String) :
    grantOf (commits ++ [commit]) id = grantAfter id (grantOf commits id) commit := by
  unfold grantOf
  rw [List.foldl_append]
  rfl

variable {commits : List Commit} {id : String} {reference : SecretReference} {value : Bytes}

/-- A credential that has been stored stays known. -/
theorem exists_grantOf_of_prefix {earlier : List Commit} {grant : Grant}
    (hearlier : earlier <+: commits) (h : grantOf earlier id = some grant) :
    exists later, grantOf commits id = some later := by
  rcases hearlier with ⟨rest, rfl⟩
  unfold grantOf at h ⊢
  rw [List.foldl_append, h]
  clear h
  induction rest generalizing grant with
  | nil => exact ⟨grant, rfl⟩
  | cons commit rest ih =>
      rw [List.foldl_cons]
      cases commit with
      | stored reference value =>
          simp only [grantAfter]
          split
          · exact ih
          · exact ih
      | revoked other =>
          simp only [grantAfter]
          split
          · exact ih
          · exact ih

theorem grantOf_revoked (commits : List Commit) (id : String) :
    grantOf (commits ++ [.revoked id]) id =
      (grantOf commits id).map fun grant => { grant with revoked := true } := by
  rw [grantOf_concat]
  simp only [grantAfter, if_true]

/-!
## The system
-/

structure System (File : Type) where
  index : File
  /-- The entries that a live handle holds. -/
  held : Nat -> Option Entries
  /-- The stores and revocations that replaced the index, in order. -/
  commits : List Commit
  /-- Every entry that was ever written into the directory. -/
  written : List Entry

inductive Action where
  | opening (handle : Nat) (surroundings : Surroundings)
  | close (handle : Nat)
  | store (handle : Nat) (surroundings : Surroundings) (writing : Writing)
      (reference : SecretReference) (value : Bytes)
  | storePreserving (handle : Nat) (surroundings : Surroundings) (writing : Writing)
      (reference : SecretReference) (value : Bytes) (endpointPeers : List String)
  | revoke (handle : Nat) (surroundings : Surroundings) (writing : Writing) (id : String)
  | lease (handle : Nat) (surroundings : Surroundings) (id routeId : String)

namespace System

variable {File R : Type} (broker : Broker File)

/-- The state right after the first broker was created. -/
def created (first : Nat) : System File where
  index := serializeStore broker.format ∅
  held := Function.update (fun _ => none) first (some ∅)
  commits := []
  written := []

/-- What a call leaves that has come to `candidate` under the lock. -/
def persisted (s : System File) (handle : Nat) (writing : Writing)
    (candidate : Except BrokerError (Entries × R)) (commit : R -> Commit) : System File :=
  match candidate with
  | .error _ => s
  | .ok (entries, answer) =>
      let outcome := persist broker entries answer writing s.index
      { index := outcome.index
        held :=
          match outcome.result with
          | .ok _ => Function.update s.held handle (some entries)
          | .error _ => s.held
        commits := if outcome.replaced then s.commits ++ [commit answer] else s.commits
        written := s.written ++ entries.toList.map Prod.snd }

def step (s : System File) : Action -> Option (System File)
  | .opening handle surroundings =>
      if (s.held handle).isSome then none
      else
        some
          { s with
            held := Function.update s.held handle (broker.load surroundings s.index).toOption }
  | .close handle => some { s with held := Function.update s.held handle none }
  | .store handle surroundings writing reference value =>
      (s.held handle).map fun _ =>
        s.persisted broker handle writing
          (storeCandidate broker surroundings s.index reference value) fun stored =>
            .stored stored value
  | .storePreserving handle surroundings writing reference value endpointPeers =>
      (s.held handle).map fun _ =>
        s.persisted broker handle writing
          (storePreservingCandidate broker surroundings s.index reference value endpointPeers)
          fun stored => .stored stored value
  | .revoke handle surroundings writing id =>
      (s.held handle).map fun _ =>
        s.persisted broker handle writing (revokeCandidate broker surroundings s.index id)
          fun _ => .revoked id
  | .lease handle _ _ _ => (s.held handle).map fun _ => s

end System

/-!
## What entries say of grants
-/

section Reflection

variable {File : Type} {broker : Broker File} {surroundings : Surroundings} {entries : Entries}

structure Reflects (broker : Broker File) (grant : Grant) (entry : Entry) : Prop where
  provider : entry.provider = grant.provider
  usableBy : entry.usableBy = grant.usableBy
  revoked : entry.revoked = grant.revoked
  seals : Seals broker.env broker.keyId broker.keyMaterial gatewayScope entry.evidence.evidenceId
    grant.value entry.evidence

def Reads (broker : Broker File) : Option Grant -> Option Entry -> Prop
  | none, entry => entry = none
  | some grant, entry => exists found, entry = some found ∧ Reflects broker grant found

/-- Entries say what commits have left, and nothing else. -/
def Represented (broker : Broker File) (commits : List Commit) (entries : Entries) : Prop :=
  forall id : String, Reads broker (grantOf commits id) entries[id]?

theorem represented_empty : Represented broker [] ∅ := by
  intro id
  exact ExtTreeMap.getElem?_empty

theorem Represented.stored {entry : Entry} (h : Represented broker commits entries)
    (hid : entry.id = reference.id) (hentry : Reflects broker
      { provider := reference.provider
        usableBy := reference.usableBy
        revoked := false
        value := value } entry) :
    Represented broker (commits ++ [.stored reference value]) (entries.insert entry.id entry) := by
  intro id
  rw [grantOf_concat]
  simp only [grantAfter]
  by_cases heq : reference.id = id
  · rw [if_pos heq, ← heq, ← hid, ExtTreeMap.getElem?_insert_self]
    exact ⟨entry, rfl, hentry⟩
  · rw [if_neg heq, OrderedMap.getElem?_insert_of_ne (hid ▸ heq)]
    exact h id

theorem Represented.revoked {entry again : Entry} (h : Represented broker commits entries)
    (hentry : entries[id]? = some entry)
    (hagain : again = { entry with revoked := true, macKeyId := again.macKeyId,
                                   macTag := again.macTag }) :
    Represented broker (commits ++ [.revoked id]) (entries.insert id again) := by
  intro other
  rw [grantOf_concat]
  simp only [grantAfter]
  by_cases heq : id = other
  · subst heq
    rw [if_pos rfl, ExtTreeMap.getElem?_insert_self]
    have hreads := h id
    rw [hentry] at hreads
    cases hgrant : grantOf commits id with
    | none =>
        rw [hgrant] at hreads
        cases hreads
    | some grant =>
        rw [hgrant] at hreads
        rcases hreads with ⟨found, hfound, hreflects⟩
        cases hfound
        refine ⟨again, rfl, ?_⟩
        rw [hagain]
        exact ⟨hreflects.provider, hreflects.usableBy, rfl, hreflects.seals⟩
  · rw [if_neg heq, OrderedMap.getElem?_insert_of_ne heq]
    exact h other

end Reflection

/-!
## One call
-/

/-- What a call that comes to something under the lock does to entries and commits. -/
structure Changes {File : Type} (broker : Broker File) (entries after : Entries)
    (commit : Commit) : Prop where
  indexed : Indexed broker after
  represented : forall commits, Represented broker commits entries ->
    Represented broker (commits ++ [commit]) after

section Calls

variable {File : Type} {broker : Broker File} {surroundings : Surroundings}
  {entries after : Entries}

theorem indexed_empty : Indexed broker ∅ := by
  constructor
  · intro id entry hentry
    rw [ExtTreeMap.getElem?_empty] at hentry
    cases hentry
  · intro id entry hentry
    rw [ExtTreeMap.getElem?_empty] at hentry
    cases hentry

theorem load_serializeStore_eq {loaded : Entries} (h : Indexed broker entries)
    (hload : broker.load surroundings (serializeStore broker.format entries) = .ok loaded) :
    loaded = entries := by
  rcases bind_ok hload with ⟨store, hstore, hread⟩
  rcases bind_ok hread with ⟨listed, hlisted, hfilled⟩
  have hwritten := orRefuse_eq_ok.mp hstore
  unfold serializeStore at hwritten
  rw [broker.format.read_write] at hwritten
  cases hwritten
  dsimp only at hlisted
  rw [List.mapM_map] at hlisted
  have hlist : listed = entries.toList.map Prod.snd := by
    apply Except.eq_map_of_mapM ?_ hlisted
    intro binding hbinding entry hentry
    have hkept := h.kept _ _ (ExtTreeMap.mem_toList_iff_getElem?_eq_some.mp hbinding)
    have hread := (loadEntry_eq_ok hentry).left
    rw [fromPersisted_toPersisted hkept.wellFormed] at hread
    exact (Except.ok.inj hread).symm
  rw [← Except.ok.inj hfilled, hlist, OrderedMap.foldl_insert_toList h.named]

theorem seals_of_sealValue (hinverts : Inverts broker.env.toWrappingCipher)
    {evidence : SealedEvidence} (h : sealValue broker surroundings id value = .ok evidence) :
    evidence.evidenceId.text = id ∧
      Seals broker.env broker.keyId broker.keyMaterial gatewayScope evidence.evidenceId value
        evidence := by
  rcases bind_ok h with ⟨input, hinput, h⟩
  rcases check_ok (Except.mapError_eq_ok.mp hinput) with ⟨_, hinput⟩
  rcases bind_ok hinput with ⟨localRef, hparsed, hinput⟩
  rcases bind_ok hinput with ⟨mediaType, _, hinput⟩
  rcases bind_ok hinput with ⟨retentionClass, _, hinput⟩
  cases hinput
  have hseals := seals_of_sealEvidence hinverts (Except.mapError_eq_ok.mp h)
  rw [hseals.named]
  exact And.intro (OpaqueId.text_of_parse (orRefuse_eq_ok.mp hparsed)) hseals

theorem storedEntry_of_mac {reference : SecretReference} {value : Bytes}
    {evidence : SealedEvidence} {mac : EntryMac}
    (hid : evidence.evidenceId.text = reference.id)
    (hseals : Seals broker.env broker.keyId broker.keyMaterial gatewayScope evidence.evidenceId value
      evidence)
    (hmac : computeEntryMac (broker.keys surroundings) reference.id reference.provider
      reference.usableBy false evidence = .ok mac)
    (hentries : Indexed broker entries) :
    Changes broker entries (entries.insert reference.id (storedEntry reference evidence mac))
      (.stored reference value) := by
  rcases computeEntryMac_eq_ok.mp hmac with ⟨_, hsize, heq⟩
  have hbytes : (storedEntry reference evidence mac).authenticationBytes =
      entryAuthenticationBytes reference.id reference.provider reference.usableBy false
        evidence := by
    unfold Entry.authenticationBytes
    rw [show (storedEntry reference evidence mac).id = reference.id from hid]
    rfl
  have hkept : Kept broker (storedEntry reference evidence mac) := by
    refine ⟨⟨?_, ?_, ?_⟩, hseals.wellFormed⟩
    · rw [hbytes]
      exact hsize
    · rw [heq]
      rfl
    · rw [hbytes, heq]
      rfl
  have hindexed := hentries.insert hkept
  have hstored : (storedEntry reference evidence mac).id = reference.id := hid
  rw [← hstored]
  constructor
  · exact hindexed
  · intro commits hrepresented
    exact hrepresented.stored hstored ⟨rfl, rfl, rfl, hseals⟩

theorem changes_of_store (hinverts : Inverts broker.env.toWrappingCipher)
    (h : Indexed broker entries) {stored : SecretReference}
    (hstore : storeCandidate broker surroundings (serializeStore broker.format entries) reference
      value = .ok (after, stored)) : Changes broker entries after (.stored stored value) := by
  rcases bind_ok hstore with ⟨_, _, hstore⟩
  rcases bind_ok hstore with ⟨evidence, hevidence, hstore⟩
  rcases bind_ok hstore with ⟨mac, hmac, hstore⟩
  rcases bind_ok hstore with ⟨candidate, hcandidate, hstore⟩
  rcases seals_of_sealValue hinverts hevidence with ⟨hid, hseals⟩
  rw [load_serializeStore_eq h hcandidate] at hstore
  cases hstore
  exact storedEntry_of_mac hid hseals hmac h

theorem changes_of_storePreserving (hinverts : Inverts broker.env.toWrappingCipher)
    (h : Indexed broker entries) {stored : SecretReference} {endpointPeers : List String}
    (hstore : storePreservingCandidate broker surroundings (serializeStore broker.format entries)
      reference value endpointPeers = .ok (after, stored)) :
    Changes broker entries after (.stored stored value) := by
  rcases bind_ok hstore with ⟨_, _, hstore⟩
  rcases bind_ok hstore with ⟨evidence, hevidence, hstore⟩
  rcases bind_ok hstore with ⟨candidate, hcandidate, hstore⟩
  rcases check_ok hstore with ⟨_, hstore⟩
  rcases bind_ok hstore with ⟨mac, hmac, hstore⟩
  rcases seals_of_sealValue hinverts hevidence with ⟨hid, hseals⟩
  rw [load_serializeStore_eq h hcandidate] at hstore hmac
  cases hstore
  exact @storedEntry_of_mac File broker surroundings entries { reference with usableBy := _ } value
    evidence mac hid hseals hmac h

theorem changes_of_revoke (h : Indexed broker entries) {answer : Unit}
    (hrevoke : revokeCandidate broker surroundings (serializeStore broker.format entries) id =
      .ok (after, answer)) : Changes broker entries after (.revoked id) := by
  rcases bind_ok hrevoke with ⟨candidate, hcandidate, hrevoke⟩
  rcases bind_ok hrevoke with ⟨existing, hexisting, hrevoke⟩
  rcases bind_ok hrevoke with ⟨mac, hmac, hrevoke⟩
  rw [load_serializeStore_eq h hcandidate] at hexisting hrevoke
  have hfound := orRefuse_eq_ok.mp hexisting
  rcases computeEntryMac_eq_ok.mp hmac with ⟨_, hsize, heq⟩
  cases hrevoke
  have hkept : Kept broker
      { existing with revoked := true, macKeyId := mac.keyId, macTag := mac.tag } := by
    refine ⟨⟨hsize, ?_, ?_⟩, (h.kept id existing hfound).wellFormed⟩
    · rw [heq]
    · rw [heq]
      rfl
  constructor
  · have hindexed := h.insert hkept
    rw [show Entry.id { existing with revoked := true, macKeyId := mac.keyId, macTag := mac.tag } = id
      from h.named id existing hfound] at hindexed
    exact hindexed
  · intro commits hrepresented
    exact hrepresented.revoked hfound rfl

theorem lease_eq_ok {grant : Option Grant} {routeId : String} (h : Indexed broker entries)
    (hreads : Reads broker grant entries[id]?) :
    lease broker surroundings entries id routeId = .ok value <->
      exists state found, surroundings.loaded = .ok state ∧ state.isRevoked id = false ∧
        grant = some found ∧ found.revoked = false ∧ routeId ∈ found.usableBy ∧
        value = found.value := by
  constructor
  · intro hlease
    rcases bind_ok hlease with ⟨entry, hentry, hlease⟩
    rcases bind_ok hlease with ⟨_, hverified, hlease⟩
    rcases check_ok hlease with ⟨hrevoked, hlease⟩
    rcases check_ok hlease with ⟨hroute, hlease⟩
    have hfound := orRefuse_eq_ok.mp hentry
    rcases (verifyEntryMac_eq_ok.mp hverified).left with ⟨state, hstate⟩
    rw [hfound] at hreads
    cases grant with
    | none => cases hreads
    | some grant =>
        rcases hreads with ⟨_, heq, hreflects⟩
        cases heq
        have hopened := Except.mapError_eq_ok.mp hlease
        have hid : entry.evidence.evidenceId.text = id := h.named id entry hfound
        unfold Broker.keys at hopened
        rw [hreflects.seals.opens, hstate, hid] at hopened
        unfold openedBy at hopened
        simp only at hopened
        split at hopened
        · cases hopened
        · rename_i hkey
          refine ⟨state, grant, hstate, Bool.eq_false_iff.mpr hkey, rfl, ?_, ?_,
            (Except.ok.inj hopened).symm⟩
          · rw [← hreflects.revoked]
            exact Bool.not_eq_true' _ |>.mp hrevoked
          · rw [← hreflects.usableBy]
            rcases List.any_eq_true.mp hroute with ⟨usable, husable, heq⟩
            rw [← of_decide_eq_true heq]
            exact husable
  · rintro ⟨state, found, hstate, hkey, rfl, hrevoked, hroute, rfl⟩
    rcases hreads with ⟨entry, hentry, hreflects⟩
    have hid : entry.evidence.evidenceId.text = id := h.named id entry hentry
    have hverified : verifyEntryMac (broker.keys surroundings) entry = .ok () :=
      verifyEntryMac_eq_ok.mpr ⟨⟨state, hstate⟩, (h.kept id entry hentry).tagged⟩
    unfold lease
    rw [Except.orRefuse_bind hentry, hverified, Except.ok_bind, Except.check_bind,
      Except.check_bind]
    · apply Except.mapError_eq_ok.mpr
      unfold Broker.keys
      rw [hreflects.seals.opens, hstate, hid]
      unfold openedBy
      simp only
      rw [hkey]
      rfl
    · rw [hreflects.usableBy]
      exact List.any_eq_true.mpr ⟨routeId, hroute, decide_eq_true rfl⟩
    · rw [hreflects.revoked, hrevoked]
      rfl

end Calls

/-!
## Runs
-/

/-- What every system keeps: its index says what was committed, its handles what had been
committed at some moment before. -/
structure Sound {File : Type} (broker : Broker File) (s : System File) : Prop where
  current : exists entries, s.index = serializeStore broker.format entries ∧
    Indexed broker entries ∧ Represented broker s.commits entries ∧
    forall (id : String) (entry : Entry), entries[id]? = some entry -> entry ∈ s.written
  held : forall handle entries, s.held handle = some entries ->
    Indexed broker entries ∧
      exists earlier, earlier <+: s.commits ∧ Represented broker earlier entries
  written : forall entry, entry ∈ s.written -> Kept broker entry

section Runs

variable {File R : Type} {broker : Broker File} {s t : System File}

theorem Sound.created {first : Nat} : Sound broker (System.created broker first) := by
  have hindexed : Indexed broker ∅ := indexed_empty
  constructor
  · refine ⟨∅, rfl, hindexed, represented_empty, ?_⟩
    intro id entry hentry
    rw [ExtTreeMap.getElem?_empty] at hentry
    cases hentry
  · intro handle entries hheld
    simp only [System.created] at hheld
    by_cases heq : handle = first
    · subst heq
      rw [Function.update_self] at hheld
      cases hheld
      exact And.intro hindexed ⟨[], List.prefix_refl [], represented_empty⟩
    · rw [Function.update_of_ne heq] at hheld
      cases hheld
  · intro entry hentry
    cases hentry

theorem Sound.persisted (h : Sound broker s) {handle : Nat} {writing : Writing}
    {candidate : Except BrokerError (Entries × R)} {commit : R -> Commit}
    (hchanges : forall entries after answer,
      s.index = serializeStore broker.format entries -> Indexed broker entries ->
      candidate = .ok (after, answer) -> Changes broker entries after (commit answer)) :
    Sound broker (s.persisted broker handle writing candidate commit) := by
  cases hcandidate : candidate with
  | error error => exact h
  | ok changed =>
      rcases changed with ⟨after, answer⟩
      rcases h.current with ⟨entries, hindex, hindexed, hrepresented, hwritten⟩
      have hchange := hchanges entries after answer hindex hindexed hcandidate
      have hlater := hchange.represented s.commits hrepresented
      have hkept : forall entry, entry ∈ s.written ++ after.toList.map Prod.snd ->
          Kept broker entry := by
        intro entry hentry
        rcases List.mem_append.mp hentry with hold | hnew
        · exact h.written entry hold
        · rcases List.mem_map.mp hnew with ⟨binding, hbinding, rfl⟩
          exact hchange.indexed.kept _ _ (ExtTreeMap.mem_toList_iff_getElem?_eq_some.mp hbinding)
      have hnew : forall (id : String) (entry : Entry), after[id]? = some entry ->
          entry ∈ s.written ++ after.toList.map Prod.snd := by
        intro id entry hentry
        exact List.mem_append_right _ (List.mem_map.mpr
          ⟨(id, entry), ExtTreeMap.mem_toList_iff_getElem?_eq_some.mpr hentry, rfl⟩)
      have hearlier : forall handle held, s.held handle = some held ->
          Indexed broker held ∧ exists earlier, earlier <+: s.commits ++ [commit answer] ∧
            Represented broker earlier held := by
        intro handle held hheld
        rcases h.held handle held hheld with ⟨hkept, earlier, hprefix, hearlier⟩
        exact And.intro hkept
          ⟨earlier, hprefix.trans (List.prefix_append s.commits [commit answer]), hearlier⟩
      cases writing with
      | done =>
          refine ⟨⟨after, rfl, hchange.indexed, hlater, hnew⟩, ?_, hkept⟩
          intro other held hheld
          simp only [System.persisted, persist] at hheld
          by_cases heq : other = handle
          · subst heq
            rw [Function.update_self] at hheld
            cases hheld
            exact And.intro hchange.indexed ⟨_, List.prefix_refl _, hlater⟩
          · rw [Function.update_of_ne heq] at hheld
            exact hearlier other held hheld
      | failed operation =>
          refine ⟨⟨entries, hindex, hindexed, hrepresented, ?_⟩, h.held, hkept⟩
          intro id entry hentry
          exact List.mem_append_left _ (hwritten id entry hentry)
      | unsynced =>
          exact ⟨⟨after, rfl, hchange.indexed, hlater, hnew⟩, hearlier, hkept⟩

theorem Sound.step (hinverts : Inverts broker.env.toWrappingCipher) (h : Sound broker s)
    {action : Action} (hstep : s.step broker action = some t) : Sound broker t := by
  cases action with
  | opening handle surroundings =>
      simp only [System.step] at hstep
      split at hstep
      · cases hstep
      · cases hstep
        refine ⟨h.current, ?_, h.written⟩
        intro other held hheld
        by_cases heq : other = handle
        · subst heq
          simp only [Function.update_self] at hheld
          rcases h.current with ⟨entries, hindex, hindexed, hrepresented, _⟩
          rw [hindex] at hheld
          cases hload : broker.load surroundings (serializeStore broker.format entries) with
          | error error =>
              rw [hload] at hheld
              cases hheld
          | ok loaded =>
              rw [hload] at hheld
              cases hheld
              rw [load_serializeStore_eq hindexed hload]
              exact And.intro hindexed ⟨s.commits, List.prefix_refl _, hrepresented⟩
        · simp only [Function.update_of_ne heq] at hheld
          exact h.held other held hheld
  | close handle =>
      cases hstep
      refine ⟨h.current, ?_, h.written⟩
      intro other held hheld
      by_cases heq : other = handle
      · subst heq
        simp only [Function.update_self] at hheld
        cases hheld
      · simp only [Function.update_of_ne heq] at hheld
        exact h.held other held hheld
  | store handle surroundings writing reference value =>
      rcases Option.map_eq_some_iff.mp hstep with ⟨_, _, rfl⟩
      apply h.persisted
      intro entries after answer hindex hindexed hcandidate
      rw [hindex] at hcandidate
      exact changes_of_store hinverts hindexed hcandidate
  | storePreserving handle surroundings writing reference value endpointPeers =>
      rcases Option.map_eq_some_iff.mp hstep with ⟨_, _, rfl⟩
      apply h.persisted
      intro entries after answer hindex hindexed hcandidate
      rw [hindex] at hcandidate
      exact changes_of_storePreserving hinverts hindexed hcandidate
  | revoke handle surroundings writing id =>
      rcases Option.map_eq_some_iff.mp hstep with ⟨_, _, rfl⟩
      apply h.persisted
      intro entries after answer hindex hindexed hcandidate
      rw [hindex] at hcandidate
      exact changes_of_revoke hindexed hcandidate
  | lease handle surroundings id routeId =>
      rcases Option.map_eq_some_iff.mp hstep with ⟨_, _, rfl⟩
      exact h

theorem Sound.after_run (hinverts : Inverts broker.env.toWrappingCipher) {first : Nat}
    {actions : List Action}
    (hrun : run (System.step broker) (System.created broker first) actions = some s) :
    Sound broker s :=
  run_invariant (fun hsound hstep => Sound.step hinverts hsound hstep) Sound.created hrun

end Runs

end Credentials
end GraphHelm
