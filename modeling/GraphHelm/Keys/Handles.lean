import GraphHelm.Keys.Provider
import GraphHelm.Library.Runs

/-!
# Handles over one directory

Any number of providers, in any number of processes, over the directory of one key.
Each call holds the directory's lock from its first load to its last, and the providers
of a process share one floor; a provider that is being opened joins the floor after it
has given the lock back.
-/

namespace GraphHelm
namespace Keys

open Std

structure Handle where
  process : Nat
  number : Nat
deriving DecidableEq

structure System where
  directory : Directory
  /-- The floor that the live providers of a process share. -/
  floors : Nat -> Option JournalFloor
  /-- What a provider that has not joined its floor yet has loaded. -/
  opening : Handle -> Option JournalState
  live : List Handle

inductive Action where
  | load (handle : Handle)
  | join (handle : Handle)
  | drop (handle : Handle)
  | call (handle : Handle) (call : Call)

namespace System

/-- The state right after the first provider was created. -/
def created (directory : Directory) (first : Handle) (floor : JournalFloor) : System :=
  { directory := directory
    floors := Function.update (fun _ => none) first.process (some floor)
    opening := fun _ => none
    live := [first] }

def answer (env : ProviderEnvironment) (keyId : String) (keyMaterial : Bytes) (s : System)
    (handle : Handle) (call : Call) : Option (Locked Answer) :=
  if handle ∈ s.live then
    match s.floors handle.process, s.directory.journal with
    | some floor, some file => some (callProvider env keyId keyMaterial call floor file)
    | _, _ => none
  else none

/-- Dropping the last provider of a process drops the floor. -/
def dropped (s : System) (handle : Handle) : System :=
  let live := s.live.erase handle
  { s with
    live := live
    floors :=
      if live.any fun other => decide (other.process = handle.process) then s.floors
      else Function.update s.floors handle.process none }

def step (env : ProviderEnvironment) (keyId : String) (keyMaterial : Bytes) (s : System) :
    Action -> Option System
  | .load handle =>
      if handle ∈ s.live then none
      else
        let (loaded, directory) := openLocked env keyId keyMaterial s.directory
        some
          { s with
            directory := directory
            opening := Function.update s.opening handle
              (match loaded with
              | .ok state => some state
              | .error _ => none) }
  | .join handle =>
      match s.opening handle with
      | none => none
      | some state =>
          let s := { s with opening := Function.update s.opening handle none }
          match joinFloor (s.floors handle.process) state with
          | .error _ => some s
          | .ok floor =>
              some
                { s with
                  floors := Function.update s.floors handle.process (some floor)
                  live := handle :: s.live }
  | .drop handle => if handle ∈ s.live then some (s.dropped handle) else none
  | .call handle call =>
      (s.answer env keyId keyMaterial handle call).map fun locked =>
        { s with
          directory := { s.directory with journal := some locked.file }
          floors := Function.update s.floors handle.process (some locked.floor) }

end System

/-!
## Floors of the past
-/

section Floors

variable {env : ProviderEnvironment} {keyId : OpaqueId} {keyMaterial : Bytes}
  {requests earlier : List RevokeKeyRequest} {state : JournalState}

def floorAt (digest : Digest) (keyId : OpaqueId) (keyMaterial : Bytes)
    (requests : List RevokeKeyRequest) : JournalFloor :=
  { epoch := requests.length, authenticatedHead := headOf digest keyId keyMaterial requests }

theorem authenticatedHeadAt_of_prefix
    (h : Represents env.toDigest keyId keyMaterial requests state) (hearlier : earlier <+: requests) :
    state.authenticatedHeadAt earlier.length =
      .ok (headOf env.toDigest keyId keyMaterial earlier) := by
  rcases List.eq_nil_or_concat earlier with hnil | ⟨first, last, hconcat⟩
  · subst hnil
    unfold JournalState.authenticatedHeadAt
    have hlength : state.headerTag.length = 32 := by
      rw [h.headerTag]
      exact length_tagOf
    exact Except.bind_eq_ok.mpr
      ⟨(), check_eq_ok.mpr (decide_eq_true hlength), congrArg Except.ok h.headerTag⟩
  · rw [List.concat_eq_append] at hconcat
    subst hconcat
    rcases hearlier with ⟨rest, hrest⟩
    have hlast : requests[first.length]? = some last := by
      rw [← hrest, List.append_assoc, List.getElem?_append_right (Nat.le_refl _), Nat.sub_self]
      rfl
    have hfirst : requests.take first.length = first := by
      rw [← hrest, List.append_assoc, List.take_left]
    rw [List.length_append, List.length_singleton, headOf_concat]
    unfold JournalState.authenticatedHeadAt
    have hrecord : state.records[first.length]? =
        some (addedRecord env.toDigest keyId keyMaterial first last) := by
      rw [h.getElem?_records, hlast, hfirst]
      rfl
    simp only
    rw [Except.orRefuse_bind hrecord]
    exact decodeTag_hexEncode length_tagOf

theorem floor_ok (h : Represents env.toDigest keyId keyMaterial requests state) :
    state.floor = .ok (floorAt env.toDigest keyId keyMaterial requests) := by
  unfold JournalState.floor
  rw [h.epoch_eq, authenticatedHeadAt_of_prefix h (List.prefix_refl requests)]
  rfl

theorem requireExtensionOf_ok (h : Represents env.toDigest keyId keyMaterial requests state)
    (hearlier : earlier <+: requests) :
    state.requireExtensionOf (floorAt env.toDigest keyId keyMaterial earlier) = .ok () := by
  have hepoch : earlier.length <= state.epoch := by
    rw [h.epoch_eq]
    exact hearlier.length_le
  unfold JournalState.requireExtensionOf
  refine Except.bind_eq_ok.mpr ⟨(), check_eq_ok.mpr (decide_eq_true hepoch), ?_⟩
  refine Except.bind_eq_ok.mpr ⟨_, authenticatedHeadAt_of_prefix h hearlier, ?_⟩
  exact check_eq_ok.mpr (decide_eq_true rfl)

theorem observeFloor_ok (h : Represents env.toDigest keyId keyMaterial requests state)
    (hearlier : earlier <+: requests) :
    observeFloor (floorAt env.toDigest keyId keyMaterial earlier) state =
      .ok (floorAt env.toDigest keyId keyMaterial requests) := by
  unfold observeFloor
  rw [floor_ok h, Except.ok_bind, requireExtensionOf_ok h hearlier]
  rfl

theorem confirmFloor_ok (h : Represents env.toDigest keyId keyMaterial requests state)
    (hearlier : earlier <+: requests) :
    confirmFloor (floorAt env.toDigest keyId keyMaterial earlier)
        (floorAt env.toDigest keyId keyMaterial earlier) state =
      .ok (floorAt env.toDigest keyId keyMaterial requests) := by
  unfold confirmFloor
  rw [requireExtensionOf_ok h hearlier, Except.ok_bind, floor_ok h, Except.ok_bind]
  rfl

end Floors

/-!
## One call
-/

section Calls

variable {env : ProviderEnvironment} {keyId : OpaqueId} {keyMaterial : Bytes}
  {requests earlier : List RevokeKeyRequest}

def revokeAnswer (digest : Digest) (keyId : OpaqueId) (keyMaterial : Bytes)
    (requests : List RevokeKeyRequest) (request : RevokeKeyRequest) :
    Except KeyError RevocationReceipt :=
  match requests.findIdx? fun other =>
      decide (other.idempotencyKey.text = request.idempotencyKey.text) with
  | some index =>
      match requests[index]? with
      | some known =>
          if known.handle = request.handle then
            .ok (receiptOf digest keyId keyMaterial index known)
          else .error .conflict
      | none => .error .integrity
  | none =>
      if requests.length < maxRecords then
        .ok (receiptOf digest keyId keyMaterial requests.length request)
      else .error .invalid

/-- A revocation on top of others, unless its key was used or the journal is full. -/
def withRevocation (requests : List RevokeKeyRequest) (request : RevokeKeyRequest) :
    List RevokeKeyRequest :=
  if request.idempotencyKey ∈ requests.map RevokeKeyRequest.idempotencyKey then requests
  else if requests.length < maxRecords then requests ++ [request]
  else requests

def revokedAfter (requests : List RevokeKeyRequest) : Call -> List RevokeKeyRequest
  | .revoke request => withRevocation requests request
  | _ => requests

variable {request : RevokeKeyRequest}

theorem prefix_withRevocation :
    requests <+: withRevocation requests request := by
  unfold withRevocation
  split
  · exact List.prefix_refl requests
  · split
    · exact List.prefix_append requests [request]
    · exact List.prefix_refl requests

theorem journaled_withRevocation (h : Journaled requests) :
    Journaled (withRevocation requests request) := by
  unfold withRevocation
  split
  · exact h
  · rename_i hkey
    split
    · rename_i hsize
      exact h.concat hsize hkey
    · exact h

theorem prefix_revokedAfter (call : Call) : requests <+: revokedAfter requests call := by
  cases call with
  | revoke request => exact prefix_withRevocation
  | _ => exact List.prefix_refl requests

theorem journaled_revokedAfter (h : Journaled requests) (call : Call) :
    Journaled (revokedAfter requests call) := by
  cases call with
  | revoke request => exact journaled_withRevocation h
  | _ => exact h

theorem exists_findIdx?_of_mem
    (h : request.idempotencyKey ∈ requests.map RevokeKeyRequest.idempotencyKey) :
    exists index known, requests.findIdx? (fun other =>
        decide (other.idempotencyKey.text = request.idempotencyKey.text)) = some index ∧
      requests[index]? = some known ∧ known.idempotencyKey = request.idempotencyKey := by
  rcases List.mem_map.mp h with ⟨other, hother, hkey⟩
  cases hfound : requests.findIdx? (fun other =>
      decide (other.idempotencyKey.text = request.idempotencyKey.text)) with
  | none =>
      have hnone := List.findIdx?_eq_none_iff.mp hfound other hother
      exact absurd (congrArg OpaqueId.text hkey) (of_decide_eq_false hnone)
  | some index =>
      rcases List.findIdx?_eq_some_iff_getElem.mp hfound with ⟨hindex, hmatches, _⟩
      exact ⟨index, requests[index], rfl, List.getElem?_eq_getElem hindex,
        OpaqueId.text_injective (of_decide_eq_true hmatches)⟩

theorem appendRevocation_eq {state : JournalState}
    (h : Represents env.toDigest keyId keyMaterial requests state)
    (hjournaled : Journaled requests) :
    appendRevocation env.toKeyEnvironment keyId.text keyMaterial state request
        (journalBytes env.toDigest keyId keyMaterial requests) =
      (revokeAnswer env.toDigest keyId keyMaterial requests request,
        journalBytes env.toDigest keyId keyMaterial (withRevocation requests request)) := by
  unfold revokeAnswer withRevocation
  by_cases hkey : request.idempotencyKey ∈ requests.map RevokeKeyRequest.idempotencyKey
  · rcases exists_findIdx?_of_mem hkey with ⟨index, known, hfound, hknown, _⟩
    rw [if_pos hkey, hfound]
    simp only
    rw [hknown]
    exact appendRevocation_known h hjournaled.size hfound hknown
  · rw [if_neg hkey, findIdx?_eq_none_of_not_mem hkey]
    simp only
    by_cases hsize : requests.length < maxRecords
    · rw [if_pos hsize, if_pos hsize]
      exact appendRevocation_new h hkey hsize
    · rw [if_neg hsize, if_neg hsize]
      exact appendRevocation_full h hkey (Nat.not_lt.mp hsize)

def answerOf (env : ProviderEnvironment) (keyId : OpaqueId) (keyMaterial : Bytes)
    (requests : List RevokeKeyRequest) (state : JournalState) : Call -> Except KeyError Answer
  | .metadata => .ok (.metadata requests.length)
  | .wrap request nonce =>
      (wrapKey env keyId.text keyMaterial request nonce state).map Answer.wrapped
  | .unwrap wrapped => (unwrapKey env keyId.text keyMaterial wrapped state).map Answer.unwrapped
  | .revoke request =>
      (revokeAnswer env.toDigest keyId keyMaterial requests request).map Answer.revoked

theorem operation_eq {state : JournalState} (call : Call)
    (h : Represents env.toDigest keyId keyMaterial requests state) (hjournaled : Journaled requests) :
    operation env keyId.text keyMaterial call state
        (journalBytes env.toDigest keyId keyMaterial requests) =
      (answerOf env keyId keyMaterial requests state call,
        journalBytes env.toDigest keyId keyMaterial (revokedAfter requests call)) := by
  cases call with
  | metadata =>
      have hepoch : state.epoch <= maxWireSafeInteger := by
        have hsize := hjournaled.size
        rw [h.epoch_eq]
        unfold maxRecords at hsize
        unfold maxWireSafeInteger
        omega
      unfold operation
      simp only
      rw [if_pos hepoch, h.epoch_eq]
      rfl
  | wrap request nonce => rfl
  | unwrap wrapped => rfl
  | revoke request =>
      simp only [operation, answerOf, revokedAfter, appendRevocation_eq h hjournaled]

theorem callProvider_eq (hreads : ReadsBack env.toKeyEnvironment) (hjournaled : Journaled requests)
    (hearlier : earlier <+: requests) (call : Call) :
    exists state after, Represents env.toDigest keyId keyMaterial requests state ∧
      after <+: revokedAfter requests call ∧
      callProvider env keyId.text keyMaterial call
          (floorAt env.toDigest keyId keyMaterial earlier)
          (journalBytes env.toDigest keyId keyMaterial requests) =
        { result := answerOf env keyId keyMaterial requests state call
          file := journalBytes env.toDigest keyId keyMaterial (revokedAfter requests call)
          floor := floorAt env.toDigest keyId keyMaterial after } := by
  rcases @load_journal env.toKeyEnvironment keyId keyMaterial requests hreads hjournaled with
    ⟨state, hstate, hrep⟩
  rcases @load_journal env.toKeyEnvironment keyId keyMaterial (revokedAfter requests call) hreads
    (journaled_revokedAfter hjournaled call) with ⟨confirmed, hconfirmed, hafter⟩
  unfold callProvider withLockedState
  simp only [hstate, observeFloor_ok hrep hearlier, operation_eq call hrep hjournaled]
  cases hanswer : answerOf env keyId keyMaterial requests state call with
  | error error =>
      refine ⟨state, requests, hrep, prefix_revokedAfter call, ?_⟩
      rw [hanswer]
  | ok value =>
      simp only
      rw [hconfirmed]
      simp only
      rw [confirmFloor_ok hafter (prefix_revokedAfter call)]
      refine ⟨state, revokedAfter requests call, hrep, List.prefix_refl _, ?_⟩
      rw [hanswer]

end Calls

end Keys
end GraphHelm
