import GraphHelm.Library.Lines
import GraphHelm.Projection.Replay
import GraphHelm.Store.Contract

/-!
# The journal, byte by byte

The file of an active segment, the prefix of it that a handle has verified, and
the two computations on them in `core/events/src/local.rs`: `load_state`, which
verifies what follows the prefix, and `trim_torn_tail`, which cuts off a line
that was never finished.
-/

namespace GraphHelm

open ErrorState

/-- How lines are written and parsed. -/
structure JournalEnvironment extends StoreEnvironment where
  /-- A JSON document. -/
  Raw : Type
  /-- `serde_json::from_slice`. -/
  fromSlice : Bytes -> Option Raw
  /-- `canonical_bytes` of a document. -/
  rawBytes : Raw -> Bytes
  validateRaw : Raw -> ValidationAttempt
  /-- `serde_json::from_value`. -/
  fromValue : Raw -> Option PhysicalBatch
  /-- `canonical_bytes` of a batch. -/
  canonicalBytes : PhysicalBatch -> Bytes

def parseLine (env : JournalEnvironment) (line : Bytes) :
    Except EventRepositoryError PhysicalBatch := do
  let raw <- orRefuse (env.fromSlice line) .integrity
  check (decide (env.rawBytes raw = line)) .integrity
  match env.validateRaw raw with
  | .refused => .error .limitExceeded
  | .ran clean => do
      check clean .integrity
      orRefuse (env.fromValue raw) .integrity

/-!
## The walk over the lines
-/

structure Walk where
  ctx : VerifyCtx
  walked : Nat
  consumed : Nat

structure LineVerifier where
  env : JournalEnvironment
  blobs : Blobs
  readBudget : ReadBudget

namespace LineVerifier

def readLine (env : JournalEnvironment) (line : Bytes) :
    Except EventRepositoryError PhysicalBatch := do
  check (decide (line.length <= maxBatchBytes)) .limitExceeded
  parseLine env line

/-- What the loop asks of a batch; `verifyBatch` asks once more what was asked before. -/
def proveBatch (env : JournalEnvironment) (blobs : Blobs) (ctx : VerifyCtx) (line : Bytes)
    (batch : PhysicalBatch) : Except EventRepositoryError VerifyCtx := do
  check (decide (batch.checksum = batchChecksum env.toStoreEnvironment batch)) .corruptBatch
  check (decide (env.canonicalBytes batch = line)) .integrity
  verifyBatch env.toStoreEnvironment blobs ctx batch

def spendBudget (budget : ReadBudget) (before after : Nat) : Except EventRepositoryError Unit :=
  match budget.checkProgress before after with
  | .error (.budgetExceeded walked limitMillis) => .error (.readBudgetExceeded walked limitMillis)
  | _ => .ok ()

/-- One turn of the loop; the budget is asked before the batch touches the context. -/
def verifyLine (verifier : LineVerifier) (walk : Walk) (line : Bytes) :
    Except EventRepositoryError Walk := do
  let batch <- readLine verifier.env line
  let walked := walk.walked + batch.events.length
  spendBudget verifier.readBudget walk.walked walked
  let ctx <- proveBatch verifier.env verifier.blobs walk.ctx line batch
  .ok { walk with ctx := ctx, walked := walked }

/-- `verify_lines`, over the pieces that newlines cut a text into; `start` is where the first
of them starts.  An error leaves what was verified before it. -/
def verifyLines (verifier : LineVerifier) :
    Nat -> List Bytes -> Walk -> EStateM.Result EventRepositoryError Walk Unit
  | _, [], walk => .ok () walk
  | start, line :: rest, walk =>
      let stop := start + line.length + 1
      if line.isEmpty then
        verifyLines verifier stop rest walk
      else
        match verifyLine verifier walk line with
        | .error error => .error error walk
        | .ok next => verifyLines verifier stop rest { next with consumed := stop }

def verifyText (verifier : LineVerifier) (ctx : VerifyCtx) (text : Bytes) :
    EStateM.Result EventRepositoryError Walk Unit :=
  verifyLines verifier 0 (text.splitOn newline) { ctx := ctx, walked := 0, consumed := 0 }

end LineVerifier

/-!
## Loading
-/

/-- The refusals of a load, with the sites that its callers tell apart. -/
inductive JournalError where
  | tornTail
  | tornTailAwaits
  | tailOversized
  | refused (error : EventRepositoryError)
deriving DecidableEq

/-- What a handle has verified of the journal. -/
structure VerifiedPrefix where
  verifiedOffset : Nat
  genesisWalkPending : Bool
  ctx : VerifyCtx

/-- The journal's file, and the prefix that a handle keeps of it. -/
structure Journal where
  bytes : Bytes
  verified : Option VerifiedPrefix

namespace Journal

/-- The prefix a load may go on from. -/
def reusable (journal : Journal) : Option VerifiedPrefix :=
  journal.verified.filter fun verified => verified.verifiedOffset <= journal.bytes.length

def extend (verifier : LineVerifier) (journal : Journal) (ctx : VerifyCtx) (offset : Nat)
    (genesisWalk : Bool) : EStateM.Result JournalError Journal LoadedState :=
  let text := journal.bytes.drop offset
  if isWhole newline text then
    match verifier.verifyText ctx text with
    | .ok _ walk =>
        .ok walk.ctx.state
          { journal with
            verified := some
              { verifiedOffset := journal.bytes.length
                genesisWalkPending := false
                ctx := walk.ctx } }
    | .error error walk =>
        match error with
        | .readBudgetExceeded _ _ =>
            .error (.refused error)
              { journal with
                verified :=
                  if 0 < walk.consumed then
                    some
                      { verifiedOffset := offset + walk.consumed
                        genesisWalkPending := genesisWalk
                        ctx := walk.ctx }
                  else
                    none }
        | _ => .error (.refused error) { journal with verified := none }
  else
    .error .tornTail { journal with verified := none }

def load (verifier : LineVerifier) (seeded : LoadedState) :
    EStateM JournalError Journal LoadedState := fun journal =>
  if journal.bytes.length <= maxJournalBytes then
    match journal.reusable with
    | some verified =>
        if verified.verifiedOffset = journal.bytes.length ∧ verified.genesisWalkPending = false then
          .ok verified.ctx.state journal
        else
          journal.extend verifier verified.ctx verified.verifiedOffset verified.genesisWalkPending
    | none => journal.extend verifier (VerifyCtx.seeded seeded) 0 true
  else
    .error (.refused .limitExceeded) journal

/-!
## Recovery
-/

def trimTornTail (verifier : LineVerifier) (seeded : LoadedState) :
    EStateM JournalError Journal Bool := fun journal =>
  if journal.bytes.length <= maxJournalBytes then
    if isWhole newline journal.bytes then
      .ok false journal
    else if (tornPart newline journal.bytes).length <= maxBatchBytes then
      match verifier.verifyText (VerifyCtx.seeded seeded) (wholePart newline journal.bytes) with
      | .ok _ _ => .ok true { bytes := wholePart newline journal.bytes, verified := none }
      | .error error _ => .error (.refused error) journal
    else
      .error .tailOversized journal
  else
    .error (.refused .limitExceeded) journal

def loadTrimming (verifier : LineVerifier) (seeded : LoadedState) (recoverTornTail : Bool) :
    EStateM JournalError Journal LoadedState := fun journal =>
  match load verifier seeded journal with
  | .error .tornTail loaded =>
      if recoverTornTail then
        match trimTornTail verifier seeded loaded with
        | .ok true trimmed => load verifier seeded trimmed
        | .ok false kept => .error .tornTail kept
        | .error error kept => .error error kept
      else
        .error .tornTailAwaits loaded
  | result => result

end Journal

end GraphHelm
