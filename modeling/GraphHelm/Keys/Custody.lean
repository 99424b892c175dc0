import GraphHelm.Keys.Reading

/-!
# Custody over whole runs

What every run of calls by any number of handles keeps: the journal that loads again as
a chain of revocations which only grows, and the answers that follow from it.
-/

namespace GraphHelm
namespace Keys

open Std

/-!
## What every system keeps
-/

structure Sound (env : ProviderEnvironment) (keyId : OpaqueId) (keyMaterial : Bytes)
    (requests : List RevokeKeyRequest) (s : System) : Prop where
  journal : s.directory.journal = some (journalBytes env.toDigest keyId keyMaterial requests)
  journaled : Journaled requests
  floors : forall process floor, s.floors process = some floor ->
    exists earlier, earlier <+: requests ∧ floor = floorAt env.toDigest keyId keyMaterial earlier
  opening : forall handle state, s.opening handle = some state ->
    exists earlier, earlier <+: requests ∧ Represents env.toDigest keyId keyMaterial earlier state
  live : forall handle, handle ∈ s.live -> exists floor, s.floors handle.process = some floor

variable {handle : Handle}

section Steps

variable {env : ProviderEnvironment} {keyId : OpaqueId} {keyMaterial : Bytes}
  {requests : List RevokeKeyRequest} {s t : System}

theorem openLocked_sound (hreads : ReadsBack env.toKeyEnvironment)
    (h : Sound env keyId keyMaterial requests s) :
    exists loaded, openLocked env keyId.text keyMaterial s.directory = (loaded, s.directory) ∧
      forall state, loaded = .ok state -> Represents env.toDigest keyId keyMaterial requests state := by
  have hdirectory : s.directory =
      { keyring := s.directory.keyring
        journal := some (journalBytes env.toDigest keyId keyMaterial requests) } := by
    rw [← h.journal]
  rcases @load_journal env.toKeyEnvironment keyId keyMaterial requests hreads h.journaled with
    ⟨state, hstate, hrep⟩
  rw [hdirectory]
  unfold openLocked
  simp only
  cases hkeyring : s.directory.keyring with
  | none =>
      refine ⟨.error .integrity, rfl, ?_⟩
      intro state hok
      cases hok
  | some keyring =>
      simp only
      cases hverified : verifyFile env keyId.text keyMaterial keyring with
      | error error =>
          refine ⟨.error error, rfl, ?_⟩
          intro state hok
          cases hok
      | ok verified =>
          simp only [hstate]
          refine ⟨.ok state, rfl, ?_⟩
          intro other hok
          cases hok
          exact hrep

theorem joinFloor_eq {floor : Option JournalFloor} {state : JournalState} {joined : JournalFloor}
    (h : Represents env.toDigest keyId keyMaterial requests state)
    (hjoin : joinFloor floor state = .ok joined) :
    joined = floorAt env.toDigest keyId keyMaterial requests := by
  unfold joinFloor at hjoin
  rw [floor_ok h, Except.ok_bind] at hjoin
  rcases bind_ok hjoin with ⟨_, _, hjoined⟩
  exact (Except.ok.inj hjoined).symm

theorem answer_eq (hreads : ReadsBack env.toKeyEnvironment)
    (h : Sound env keyId keyMaterial requests s) {call : Call} {locked : Locked Answer}
    (hanswer : s.answer env keyId.text keyMaterial handle call = some locked) :
    exists state after, Represents env.toDigest keyId keyMaterial requests state ∧
      after <+: revokedAfter requests call ∧
      locked.result = answerOf env keyId keyMaterial requests state call ∧
      locked.file = journalBytes env.toDigest keyId keyMaterial (revokedAfter requests call) ∧
      locked.floor = floorAt env.toDigest keyId keyMaterial after := by
  unfold System.answer at hanswer
  split at hanswer
  · rename_i hlive
    rcases h.live handle hlive with ⟨floor, hfloor⟩
    rcases h.floors handle.process floor hfloor with ⟨earlier, hearlier, heq⟩
    rw [hfloor, h.journal] at hanswer
    simp only at hanswer
    rw [heq] at hanswer
    rcases callProvider_eq hreads h.journaled hearlier call with ⟨state, after, hrep, hafter, hcall⟩
    rw [hcall] at hanswer
    have heq := Option.some.inj hanswer
    exact ⟨state, after, hrep, hafter, by rw [← heq], by rw [← heq], by rw [← heq]⟩
  · cases hanswer

theorem answer_of_live (h : Sound env keyId keyMaterial requests s) {handle : Handle}
    (hlive : handle ∈ s.live) (call : Call) :
    exists locked, s.answer env keyId.text keyMaterial handle call = some locked := by
  rcases h.live handle hlive with ⟨floor, hfloor⟩
  unfold System.answer
  rw [if_pos hlive, hfloor, h.journal]
  exact ⟨_, rfl⟩

theorem Sound.load (hreads : ReadsBack env.toKeyEnvironment)
    (h : Sound env keyId keyMaterial requests s)
    (hstep : s.step env keyId.text keyMaterial (.load handle) = some t) :
    Sound env keyId keyMaterial requests t := by
  rcases openLocked_sound hreads h with ⟨loaded, hopen, hloaded⟩
  unfold System.step at hstep
  simp only at hstep
  rw [hopen] at hstep
  split at hstep
  · cases hstep
  · cases hstep
    constructor
    · exact h.journal
    · exact h.journaled
    · exact h.floors
    · intro other state hopening
      by_cases heq : other = handle
      · subst heq
        simp only [Function.update_self] at hopening
        cases loaded with
        | error error =>
            cases hopening
        | ok found =>
            cases hopening
            exact ⟨requests, List.prefix_refl requests, hloaded _ rfl⟩
      · simp only [Function.update_of_ne heq] at hopening
        exact h.opening other state hopening
    · exact h.live

theorem floors_update (h : Sound env keyId keyMaterial requests s) {process : Nat}
    {later earlier : List RevokeKeyRequest} (hlater : requests <+: later) (hearlier : earlier <+: later)
    {other : Nat} {floor : JournalFloor}
    (hfloor : Function.update s.floors process
      (some (floorAt env.toDigest keyId keyMaterial earlier)) other = some floor) :
    exists past, past <+: later ∧ floor = floorAt env.toDigest keyId keyMaterial past := by
  by_cases heq : other = process
  · subst heq
    rw [Function.update_self] at hfloor
    exact ⟨earlier, hearlier, (Option.some.inj hfloor).symm⟩
  · rw [Function.update_of_ne heq] at hfloor
    rcases h.floors other floor hfloor with ⟨past, hpast, hfloor⟩
    exact ⟨past, hpast.trans hlater, hfloor⟩

theorem live_update {floors : Nat -> Option JournalFloor} {process : Nat} {floor : JournalFloor}
    (h : handle.process ≠ process -> exists f, floors handle.process = some f) :
    exists f, Function.update floors process (some floor) handle.process = some f := by
  by_cases heq : handle.process = process
  · rw [heq, Function.update_self]
    exact ⟨floor, rfl⟩
  · rw [Function.update_of_ne heq]
    exact h heq

theorem Sound.forget (h : Sound env keyId keyMaterial requests s) {handle : Handle} :
    Sound env keyId keyMaterial requests
      { s with opening := Function.update s.opening handle none } := by
  constructor
  · exact h.journal
  · exact h.journaled
  · exact h.floors
  · intro other state hopening
    by_cases heq : other = handle
    · subst heq
      simp only [Function.update_self] at hopening
      cases hopening
    · simp only [Function.update_of_ne heq] at hopening
      exact h.opening other state hopening
  · exact h.live

theorem Sound.join (h : Sound env keyId keyMaterial requests s)
    (hstep : s.step env keyId.text keyMaterial (.join handle) = some t) :
    Sound env keyId keyMaterial requests t := by
  unfold System.step at hstep
  simp only at hstep
  cases hopening : s.opening handle with
  | none =>
      rw [hopening] at hstep
      cases hstep
  | some state =>
      rw [hopening] at hstep
      simp only at hstep
      have hforget := @Sound.forget env keyId keyMaterial requests s h handle
      cases hjoin : joinFloor (s.floors handle.process) state with
      | error error =>
          rw [hjoin] at hstep
          cases hstep
          exact hforget
      | ok floor =>
          rw [hjoin] at hstep
          cases hstep
          rcases h.opening handle state hopening with ⟨earlier, hearlier, hrep⟩
          rw [joinFloor_eq hrep hjoin]
          constructor
          · exact h.journal
          · exact h.journaled
          · intro process joined hfloor
            exact floors_update h (List.prefix_refl requests) hearlier hfloor
          · exact hforget.opening
          · intro other hother
            apply live_update
            intro hne
            rcases List.mem_cons.mp hother with heq | hlive
            · exact absurd (congrArg Handle.process heq) hne
            · exact h.live other hlive

theorem Sound.drop (h : Sound env keyId keyMaterial requests s)
    (hstep : s.step env keyId.text keyMaterial (.drop handle) = some t) :
    Sound env keyId keyMaterial requests t := by
  unfold System.step at hstep
  simp only at hstep
  split at hstep
  · cases hstep
    constructor
    · exact h.journal
    · exact h.journaled
    · intro process floor hfloor
      unfold System.dropped at hfloor
      simp only at hfloor
      split at hfloor
      · exact h.floors process floor hfloor
      · by_cases heq : process = handle.process
        · subst heq
          rw [Function.update_self] at hfloor
          cases hfloor
        · rw [Function.update_of_ne heq] at hfloor
          exact h.floors process floor hfloor
    · exact h.opening
    · intro other hother
      have hlive : other ∈ s.live := List.mem_of_mem_erase hother
      unfold System.dropped
      simp only
      split
      · exact h.live other hlive
      · rename_i hnone
        have hne : other.process ≠ handle.process := by
          intro heq
          exact hnone (List.any_eq_true.mpr ⟨other, hother, decide_eq_true heq⟩)
        rw [Function.update_of_ne hne]
        exact h.live other hlive
  · cases hstep

theorem Sound.call (hreads : ReadsBack env.toKeyEnvironment)
    (h : Sound env keyId keyMaterial requests s) {call : Call}
    (hstep : s.step env keyId.text keyMaterial (.call handle call) = some t) :
    Sound env keyId keyMaterial (revokedAfter requests call) t := by
  unfold System.step at hstep
  rcases Option.map_eq_some_iff.mp hstep with ⟨locked, hanswer, rfl⟩
  rcases answer_eq hreads h hanswer with ⟨state, after, hrep, hafter, _, hfile, hlocked⟩
  have hgrows : requests <+: revokedAfter requests call := prefix_revokedAfter call
  rw [hfile, hlocked]
  constructor
  · simp only
  · exact journaled_revokedAfter h.journaled call
  · intro process floor hfloor
    exact floors_update h hgrows hafter hfloor
  · intro other found hopening
    rcases h.opening other found hopening with ⟨earlier, hearlier, hfound⟩
    exact ⟨earlier, hearlier.trans hgrows, hfound⟩
  · intro other hother
    exact live_update fun _ => h.live other hother

/-- Whatever a system does, its journal only grows. -/
theorem Sound.step (hreads : ReadsBack env.toKeyEnvironment)
    (h : Sound env keyId keyMaterial requests s) {action : Action}
    (hstep : s.step env keyId.text keyMaterial action = some t) :
    exists later, requests <+: later ∧ Sound env keyId keyMaterial later t := by
  cases action with
  | load handle => exact ⟨requests, List.prefix_refl requests, h.load hreads hstep⟩
  | join handle => exact ⟨requests, List.prefix_refl requests, h.join hstep⟩
  | drop handle => exact ⟨requests, List.prefix_refl requests, h.drop hstep⟩
  | call handle call => exact ⟨_, prefix_revokedAfter call, h.call hreads hstep⟩

theorem Sound.run (hreads : ReadsBack env.toKeyEnvironment)
    (h : Sound env keyId keyMaterial requests s) {actions : List Action}
    (hrun : run (System.step env keyId.text keyMaterial) s actions = some t) :
    exists later, requests <+: later ∧ Sound env keyId keyMaterial later t := by
  refine @run_invariant System Action (System.step env keyId.text keyMaterial)
    (fun u => exists later, requests <+: later ∧ Sound env keyId keyMaterial later u) ?_ s t actions
    ⟨requests, List.prefix_refl requests, h⟩ hrun
  rintro u action v ⟨later, hlater, hsound⟩ hstep
  rcases hsound.step hreads hstep with ⟨last, hlast, hnext⟩
  exact ⟨last, hlater.trans hlast, hnext⟩

end Steps

/-!
## Creation
-/

section Creation

variable {env : ProviderEnvironment} {keyId : OpaqueId} {keyMaterial : Bytes}

theorem Sound.created (hreads : ReadsBack env.toKeyEnvironment) {state : JournalState}
    {directory : Directory} {first : Handle} {floor : JournalFloor}
    (hcreate : create env keyId.text keyMaterial { keyring := none, journal := none } =
      (.ok state, directory))
    (hjoin : joinFloor none state = .ok floor) :
    Sound env keyId keyMaterial [] (System.created directory first floor) := by
  rcases create_ok hreads hcreate with ⟨hrep, hjournal⟩
  have hfloor := joinFloor_eq hrep hjoin
  constructor
  · exact hjournal
  · exact journaled_nil
  · intro process other hother
    unfold System.created at hother
    simp only at hother
    by_cases heq : process = first.process
    · subst heq
      rw [Function.update_self] at hother
      exact ⟨[], List.prefix_refl [], (Option.some.inj hother).symm.trans hfloor⟩
    · rw [Function.update_of_ne heq] at hother
      cases hother
  · intro handle found hopening
    cases hopening
  · intro handle hlive
    unfold System.created at hlive ⊢
    simp only at hlive ⊢
    rw [List.mem_singleton.mp hlive, Function.update_self]
    exact ⟨floor, rfl⟩

end Creation

/-!
## The chain of records
-/

def recordChain (digest : Digest) (keyMaterial : Bytes) :
    HashChain JournalRecord (Option Bytes) where
  link record := hexDecode record.previousTag
  «seal» record := hexDecode record.recordTag
  digest record previous := do
    let previous <- previous
    let receipt <- hexDecode record.receiptTag
    let canonical <- (canonicalRecordBytes record.epoch record.handle record.idempotencyKey previous
      receipt).toOption
    (authenticationBytes digest keyMaterial "revocation-journal-record" canonical).toOption

section Records

variable {digest : Digest} {keyId : OpaqueId} {keyMaterial previous : Bytes} {epoch : Nat}
  {requests : List RevokeKeyRequest}

theorem linked_chainFrom (h : previous.length = 32) :
    (recordChain digest keyMaterial).Linked (some previous)
      (chainFrom digest keyMaterial epoch previous requests) := by
  induction requests generalizing epoch previous with
  | nil =>
      trivial
  | cons request rest ih =>
      have hseal : (recordChain digest keyMaterial).seal
          (chained digest keyMaterial epoch previous request) =
            some (recordTag digest keyMaterial epoch previous request) :=
        hexDecode_hexEncode _
      have hdigest : (recordChain digest keyMaterial).digest
          (chained digest keyMaterial epoch previous request) (some previous) =
            some (recordTag digest keyMaterial epoch previous request) := by
        refine Option.bind_eq_some_iff.mpr ⟨_, hexDecode_hexEncode _, ?_⟩
        have hcanonical := @canonicalRecordBytes_ok previous request epoch
          (receiptTag digest keyMaterial epoch request) h length_tagOf
        refine Option.bind_eq_some_iff.mpr ⟨_, congrArg Except.toOption hcanonical, ?_⟩
        exact congrArg Except.toOption
          (authenticationBytes_ok (@taggable_recordMaterial keyMaterial previous request epoch digest h))
      refine ⟨hexDecode_hexEncode previous, hdigest.trans hseal.symm, ?_⟩
      rw [hseal]
      exact ih length_tagOf

theorem epochs_chainFrom :
    (chainFrom digest keyMaterial epoch previous requests).map JournalRecord.epoch =
      List.range' epoch requests.length := by
  induction requests generalizing epoch previous with
  | nil =>
      rfl
  | cons request rest ih =>
      unfold chainFrom
      rw [List.map_cons, ih, List.length_cons, List.range'_succ]
      rfl

end Records

structure Chained (env : KeyEnvironment) (keyId : String) (keyMaterial file : Bytes)
    (state : JournalState) : Prop where
  loads : load env keyId keyMaterial file = (.ok state, file)
  epochs : state.records.map JournalRecord.epoch = List.range' 1 state.records.length
  linked : (recordChain env.toDigest keyMaterial).Linked (some state.headerTag) state.records

section Runs

variable {env : ProviderEnvironment} {keyId : OpaqueId} {keyMaterial : Bytes}
  {requests : List RevokeKeyRequest} {s t : System}

theorem Sound.chained (hreads : ReadsBack env.toKeyEnvironment)
    (h : Sound env keyId keyMaterial requests s) :
    exists file state, s.directory.journal = some file ∧
      Chained env.toKeyEnvironment keyId.text keyMaterial file state ∧
      state.epoch = requests.length := by
  rcases @load_journal env.toKeyEnvironment keyId keyMaterial requests hreads h.journaled with
    ⟨state, hstate, hrep⟩
  refine ⟨_, state, h.journal, ?_, hrep.epoch_eq⟩
  constructor
  · exact hstate
  · rw [hrep.records, length_recordsOf]
    exact epochs_chainFrom
  · rw [hrep.records, hrep.headerTag]
    exact linked_chainFrom length_tagOf

/-!
## Revocations that were accepted
-/

structure Accepted (digest : Digest) (keyId : OpaqueId) (keyMaterial : Bytes)
    (requests : List RevokeKeyRequest) (request : RevokeKeyRequest) (receipt : RevocationReceipt) :
    Prop where
  known : exists index known, requests.findIdx? (fun other =>
      decide (other.idempotencyKey.text = request.idempotencyKey.text)) = some index ∧
    requests[index]? = some known ∧ known.handle = request.handle ∧
    receipt = receiptOf digest keyId keyMaterial index known

variable {receipt : RevocationReceipt} {request : RevokeKeyRequest}

theorem Accepted.later {later : List RevokeKeyRequest}
    (h : Accepted env.toDigest keyId keyMaterial requests request receipt)
    (hlater : requests <+: later) :
    Accepted env.toDigest keyId keyMaterial later request receipt := by
  rcases h.known with ⟨index, known, hfound, hknown, hhandle, hreceipt⟩
  rcases hlater with ⟨more, rfl⟩
  refine ⟨index, known, ?_, ?_, hhandle, hreceipt⟩
  · rw [List.findIdx?_append, hfound]
    rfl
  · rw [List.getElem?_append_left (List.getElem?_eq_some_iff.mp hknown).1]
    exact hknown

theorem accepted_of_revokeAnswer
    (h : revokeAnswer env.toDigest keyId keyMaterial requests request = .ok receipt) :
    Accepted env.toDigest keyId keyMaterial (withRevocation requests request) request receipt := by
  by_cases hkey : request.idempotencyKey ∈ requests.map RevokeKeyRequest.idempotencyKey
  · rcases exists_findIdx?_of_mem hkey with ⟨index, known, hfound, hknown, _⟩
    unfold revokeAnswer at h
    rw [hfound] at h
    simp only [hknown] at h
    split at h
    · rename_i hhandle
      unfold withRevocation
      rw [if_pos hkey]
      exact ⟨index, known, hfound, hknown, hhandle, (Except.ok.inj h).symm⟩
    · cases h
  · have hnone := findIdx?_eq_none_of_not_mem hkey
    unfold revokeAnswer at h
    rw [hnone] at h
    simp only at h
    split at h
    · rename_i hsize
      unfold withRevocation
      rw [if_neg hkey, if_pos hsize]
      refine ⟨requests.length, request, ?_, ?_, rfl, (Except.ok.inj h).symm⟩
      · rw [List.findIdx?_append, hnone]
        simp
      · rw [List.getElem?_append_right (Nat.le_refl _), Nat.sub_self]
        rfl
    · cases h

theorem Accepted.mem_keys (h : Accepted env.toDigest keyId keyMaterial requests request receipt) :
    request.idempotencyKey ∈ requests.map RevokeKeyRequest.idempotencyKey := by
  rcases h.known with ⟨index, known, hfound, hknown, _⟩
  rcases List.findIdx?_eq_some_iff_getElem.mp hfound with ⟨hindex, hmatches, _⟩
  exact List.mem_map.mpr ⟨requests[index], List.getElem_mem hindex,
    OpaqueId.text_injective (of_decide_eq_true hmatches)⟩

theorem Accepted.revokeAnswer_eq {again : RevokeKeyRequest}
    (h : Accepted env.toDigest keyId keyMaterial requests request receipt)
    (hkey : again.idempotencyKey = request.idempotencyKey) :
    revokeAnswer env.toDigest keyId keyMaterial requests again =
      if again.handle = request.handle then .ok receipt else .error .conflict := by
  rcases h.known with ⟨index, known, hfound, hknown, hhandle, hreceipt⟩
  unfold revokeAnswer
  rw [hkey, hfound]
  simp only [hknown]
  rw [hhandle, hreceipt]
  by_cases heq : again.handle = request.handle
  · rw [if_pos heq.symm, if_pos heq]
  · rw [if_neg heq, if_neg fun hsame => heq hsame.symm]

theorem Accepted.withRevocation_eq {again : RevokeKeyRequest}
    (h : Accepted env.toDigest keyId keyMaterial requests request receipt)
    (hkey : again.idempotencyKey = request.idempotencyKey) :
    withRevocation requests again = requests := by
  unfold withRevocation
  rw [hkey, if_pos h.mem_keys]

theorem Accepted.isRevoked {state : JournalState}
    (h : Accepted env.toDigest keyId keyMaterial requests request receipt)
    (hrep : Represents env.toDigest keyId keyMaterial requests state) :
    state.isRevoked request.handle.text = true := by
  rcases h.known with ⟨index, known, _, hknown, hhandle, _⟩
  rw [hrep.revokedHandles]
  exact List.any_eq_true.mpr ⟨known, List.mem_of_getElem? hknown,
    decide_eq_true (congrArg OpaqueId.text hhandle)⟩

/-!
## Answers of a system
-/

def AnswersUnchanged (env : ProviderEnvironment) (keyId : String) (keyMaterial : Bytes) (s : System)
    (handle : Handle) (call : Call) (result : Except KeyError Answer) : Prop :=
  exists locked, s.answer env keyId keyMaterial handle call = some locked ∧
    locked.result = result ∧ s.directory.journal = some locked.file

theorem answersUnchanged (hreads : ReadsBack env.toKeyEnvironment)
    (h : Sound env keyId keyMaterial requests s) (hlive : handle ∈ s.live) {call : Call}
    {result : Except KeyError Answer} (hsame : revokedAfter requests call = requests)
    (hresult : forall state, Represents env.toDigest keyId keyMaterial requests state ->
      answerOf env keyId keyMaterial requests state call = result) :
    AnswersUnchanged env keyId.text keyMaterial s handle call result := by
  rcases @answer_of_live env keyId keyMaterial requests s h handle hlive call with ⟨locked, hanswer⟩
  rcases answer_eq hreads h hanswer with ⟨state, after, hrep, _, hanswered, hfile, _⟩
  refine ⟨locked, hanswer, ?_, ?_⟩
  · rw [hanswered]
    exact hresult state hrep
  · rw [hfile, hsame]
    exact h.journal

structure Settled (env : ProviderEnvironment) (keyId : String) (keyMaterial : Bytes) (t : System)
    (request : RevokeKeyRequest) (receipt : RevocationReceipt) : Prop where
  repeated : forall handle, handle ∈ t.live ->
    AnswersUnchanged env keyId keyMaterial t handle (.revoke request) (.ok (.revoked receipt))
  otherHandle : forall handle again, handle ∈ t.live ->
    again.idempotencyKey = request.idempotencyKey -> again.handle ≠ request.handle ->
    AnswersUnchanged env keyId keyMaterial t handle (.revoke again) (.error .conflict)
  wrap : forall handle (wrapping : WrapKeyRequest) nonce, handle ∈ t.live ->
    wrapping.handle = request.handle ->
    AnswersUnchanged env keyId keyMaterial t handle (.wrap wrapping nonce) (.error .unavailable)
  unwrap : forall handle (wrapped : WrappedKey), handle ∈ t.live ->
    wrapped.handle = request.handle ->
    AnswersUnchanged env keyId keyMaterial t handle (.unwrap wrapped) (.error .unavailable)

theorem settled_of_accepted (hreads : ReadsBack env.toKeyEnvironment)
    (h : Sound env keyId keyMaterial requests s)
    (haccepted : Accepted env.toDigest keyId keyMaterial requests request receipt) :
    Settled env keyId.text keyMaterial s request receipt := by
  constructor
  · intro handle hlive
    have hsame : revokedAfter requests (.revoke request) = requests :=
      haccepted.withRevocation_eq rfl
    apply answersUnchanged hreads h hlive hsame
    intro state _
    unfold answerOf
    simp only
    rw [haccepted.revokeAnswer_eq rfl, if_pos rfl]
    rfl
  · intro handle again hlive hkey hother
    have hsame : revokedAfter requests (.revoke again) = requests :=
      haccepted.withRevocation_eq hkey
    apply answersUnchanged hreads h hlive hsame
    intro state _
    unfold answerOf
    simp only
    rw [haccepted.revokeAnswer_eq hkey, if_neg hother]
    rfl
  · intro handle wrapping nonce hlive hhandle
    apply answersUnchanged hreads h hlive rfl
    intro state hrep
    have hrevoked := haccepted.isRevoked hrep
    unfold answerOf wrapKey
    simp only
    rw [hhandle, hrevoked]
    rfl
  · intro handle wrapped hlive hhandle
    apply answersUnchanged hreads h hlive rfl
    intro state hrep
    have hrevoked := haccepted.isRevoked hrep
    unfold answerOf unwrapKey
    simp only
    rw [hhandle, hrevoked]
    -- A key of another provider is refused with the same error.
    cases decide (wrapped.keyId.text = keyId.text) with
    | true => rfl
    | false => rfl

structure Legible (env : ProviderEnvironment) (keyId : String) (keyMaterial : Bytes) (s : System)
    (epoch : Nat) : Prop where
  chained : exists file state, s.directory.journal = some file ∧
    Chained env.toKeyEnvironment keyId keyMaterial file state ∧ state.epoch = epoch
  observed : forall handle, handle ∈ s.live ->
    AnswersUnchanged env keyId keyMaterial s handle .metadata (.ok (.metadata epoch))

theorem Sound.legible (hreads : ReadsBack env.toKeyEnvironment)
    (h : Sound env keyId keyMaterial requests s) :
    Legible env keyId.text keyMaterial s requests.length := by
  constructor
  · exact h.chained hreads
  · intro handle hlive
    exact answersUnchanged hreads h hlive rfl fun _ _ => rfl

/-- From a creation on, in every run: the journal loads as a chain whose epoch never goes
back for anyone, and a revocation that was answered is settled for good. -/
theorem custody_over_runs (hreads : ReadsBack env.toKeyEnvironment) {directory : Directory}
    {first : Handle} {state : JournalState} {floor : JournalFloor}
    (hcreate : create env keyId.text keyMaterial { keyring := none, journal := none } =
      (.ok state, directory))
    (hjoin : joinFloor none state = .ok floor) {actions : List Action}
    (hrun : run (System.step env keyId.text keyMaterial) (System.created directory first floor)
      actions = some s) :
    (exists epoch, Legible env keyId.text keyMaterial s epoch ∧
      forall more t, run (System.step env keyId.text keyMaterial) s more = some t ->
        exists later, Legible env keyId.text keyMaterial t later ∧ epoch <= later) ∧
    forall handle request locked receipt,
      s.answer env keyId.text keyMaterial handle (.revoke request) = some locked ->
      locked.result = .ok (.revoked receipt) ->
      forall more t, run (System.step env keyId.text keyMaterial) s
          (.call handle (.revoke request) :: more) = some t ->
        Settled env keyId.text keyMaterial t request receipt := by
  rcases (Sound.created hreads hcreate hjoin).run hreads hrun with ⟨requests, _, hsound⟩
  constructor
  · refine ⟨requests.length, hsound.legible hreads, ?_⟩
    intro more t hmore
    rcases hsound.run hreads hmore with ⟨later, hgrows, hlater⟩
    exact ⟨later.length, hlater.legible hreads, hgrows.length_le⟩
  · intro handle request locked receipt hanswer hresult more t hmore
    rcases answer_eq hreads hsound hanswer with ⟨found, after, _, _, heq, _⟩
    have hreceipt : revokeAnswer env.toDigest keyId keyMaterial requests request = .ok receipt := by
      rw [heq] at hresult
      unfold answerOf at hresult
      simp only at hresult
      cases hrevoke : revokeAnswer env.toDigest keyId keyMaterial requests request with
      | error error =>
          rw [hrevoke] at hresult
          cases hresult
      | ok given =>
          rw [hrevoke] at hresult
          cases hresult
          rfl
    rcases run_cons_eq_some.mp hmore with ⟨middle, hstep, hrest⟩
    have hmiddle := hsound.call hreads hstep
    rcases hmiddle.run hreads hrest with ⟨later, hgrows, hlater⟩
    exact settled_of_accepted hreads hlater ((accepted_of_revokeAnswer hreceipt).later hgrows)

end Runs

/-- A provider is created, a key is revoked, and the journal loads as a chain. -/
theorem sample_custody_over_runs :
    exists directory state floor s,
      create sampleProvider sampleId.text sampleMaterial { keyring := none, journal := none } =
        (.ok state, directory) ∧
      joinFloor none state = .ok floor ∧
      run (System.step sampleProvider sampleId.text sampleMaterial)
        (System.created directory ⟨0, 0⟩ floor) [.call ⟨0, 0⟩ (.revoke sampleRevocation)] = some s ∧
      exists epoch, Legible sampleProvider sampleId.text sampleMaterial s epoch := by
  rcases create_finishes sampleProvider_reads length_sampleMaterial
    (@createOrRecoverEmpty_none sampleProvider sampleId sampleMaterial sampleProvider_journal) with
    ⟨state, directory, hcreate⟩
  rcases create_ok sampleProvider_journal hcreate with ⟨hrep, _⟩
  have hjoin : joinFloor none state =
      .ok (floorAt sampleProvider.toDigest sampleId sampleMaterial []) := by
    unfold joinFloor
    rw [floor_ok hrep, Except.ok_bind, Option.getD_none,
      requireExtensionOf_ok hrep (List.prefix_refl [])]
    rfl
  have hsound := @Sound.created sampleProvider sampleId sampleMaterial sampleProvider_journal state
    directory ⟨0, 0⟩ _ hcreate hjoin
  rcases answer_of_live hsound (List.mem_singleton_self _) (.revoke sampleRevocation) with
    ⟨locked, hlocked⟩
  have hstep : exists s, run (System.step sampleProvider sampleId.text sampleMaterial)
      (System.created directory ⟨0, 0⟩
        (floorAt sampleProvider.toDigest sampleId sampleMaterial []))
      [.call ⟨0, 0⟩ (.revoke sampleRevocation)] = some s := by
    rw [run_singleton]
    exact ⟨_, congrArg (Option.map _) hlocked⟩
  rcases hstep with ⟨s, hrun⟩
  rcases (custody_over_runs sampleProvider_journal hcreate hjoin hrun).left with
    ⟨epoch, hlegible, _⟩
  exact ⟨directory, state, _, s, hcreate, hjoin, hrun, epoch, hlegible⟩

end Keys
end GraphHelm
