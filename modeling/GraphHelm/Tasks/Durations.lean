import GraphHelm.Library.OrderedMap
import GraphHelm.Tasks.State
import Mathlib.Data.List.GetD

/-!
# Durations

How long each PR slice spent in the steps of its delivery, and the counts that account
for every slice that was left out (`tasks.rs`).
-/

namespace GraphHelm
namespace Tasks

open Std

/-- The steps of a delivery, in the order a slice meets them. -/
def durationSteps : List String :=
  ["implement", "review_wait", "fix", "merge_wait", "total"]

/-- How long one PR slice spent in each step, in seconds. -/
structure SliceDurations where
  key : String
  pr : Nat
  merged : Bool
  mergedAt : Option PersistedTimestamp
  steps : ExtTreeMap String Int

structure StepSummary where
  count : Nat
  medianSeconds : Int
  p90Seconds : Int
deriving DecidableEq

structure DurationStepCoverage where
  eligible : Nat
  included : Nat
  missing : Nat
deriving DecidableEq

/-- Slices that are outside the merged population. -/
structure DurationExclusions where
  beforeWindow : Nat := 0
  absorbed : Nat := 0
  noPr : Nat := 0
  «open» : Nat := 0
  closed : Nat := 0
  duplicate : Nat := 0
  mergedWithoutTimestamp : Nat := 0
  mergedWithoutMatchingEvent : Nat := 0

structure DurationPopulation where
  scannedRawSlices : Nat := 0
  uniquePrCandidates : Nat := 0
  merged : Nat := 0
  «open» : Nat := 0
  eligibleMerged : Nat := 0

structure TaskDurations where
  timeSource : String
  since : Option PersistedTimestamp
  slices : List SliceDurations
  summary : ExtTreeMap String StepSummary
  coverage : ExtTreeMap String DurationStepCoverage
  excluded : DurationExclusions
  population : DurationPopulation

def durationTimeSource : String :=
  "runtime_event_append_time"

/-!
## One slice
-/

/-- Whole seconds of an instant since the epoch. -/
def timestamp (instant : PersistedTimestamp) : Int :=
  instant / 1000000000

def secondsBetween («from» «to» : PersistedTimestamp) : Int :=
  max (timestamp «to» - timestamp «from») 0

def timedRecords (records : List TaskEventRecord) (kind : TaskEventKind) :
    List (TaskEventRecord × PersistedTimestamp) :=
  (records.filter fun record => record.kind = kind).filterMap fun record =>
    record.occurredAt.map fun «at» => (record, «at»)

def mine (state : TaskState) (pr : Nat) (record : TaskEventRecord) : Bool :=
  record.taskId = state.taskId && record.pr = some pr

def mergeEvents (records : List TaskEventRecord) (state : TaskState) (pr : Nat) :
    List TaskEventRecord :=
  records.filter fun record => record.kind = .merged && mine state pr record

def putDuration (steps : ExtTreeMap String Int) (step : String)
    («from» «to» : Option PersistedTimestamp) : ExtTreeMap String Int :=
  match «from», «to» with
  | some start, some finish => steps.insert step (secondsBetween start finish)
  | _, _ => steps

def sliceDurations (records : List TaskEventRecord) (state : TaskState) (pr : Nat) :
    SliceDurations :=
  let opens := (timedRecords records .prOpened).filter fun entry => mine state pr entry.1
  let verdicts :=
    ((timedRecords records .reviewVerdict).filter fun entry => mine state pr entry.1).map Prod.snd
  let mergeAt := ((mergeEvents records state pr).filterMap TaskEventRecord.occurredAt).head?
  let firstOpen := minByKey (fun entry => (entry.1.sequence : Int)) opens
  let claimAt :=
    firstOpen.bind fun opening =>
      (maxByKey (fun entry => (entry.1.sequence : Int))
        ((timedRecords records .claimed).filter fun entry =>
          entry.1.taskId = state.taskId && entry.1.lane = state.lane &&
            entry.1.sequence < opening.1.sequence)).map Prod.snd
  let firstVerdict := minByKey id verdicts
  let lastVerdict := maxByKey id verdicts
  let steps := putDuration ∅ "implement" claimAt (firstOpen.map Prod.snd)
  let steps := putDuration steps "review_wait" (firstOpen.map Prod.snd) firstVerdict
  let steps :=
    match firstVerdict with
    | none => steps
    | some first =>
        let lastPush := maxByKey id (opens.map Prod.snd)
        steps.insert "fix" ((lastPush.map (secondsBetween first)).getD 0)
  let steps := putDuration steps "merge_wait" lastVerdict mergeAt
  let steps := putDuration steps "total" claimAt mergeAt
  { key := state.key
    pr := pr
    merged := mergeAt.isSome
    mergedAt := mergeAt
    steps := steps }

/-!
## All slices
-/

/-- What the loop over the slices carries. -/
structure DurationScan where
  eligibleRows : List (SliceDurations × Bool) := []
  excluded : DurationExclusions := {}
  population : DurationPopulation := {}
  seen : List String := []

def isEligible (since : Option PersistedTimestamp) (row : SliceDurations) : Bool :=
  row.merged &&
    since.all fun window => row.mergedAt.any fun «at» => window <= «at»

/-- What a PR slice that is seen for the first time adds. -/
def scanCandidate (records : List TaskEventRecord) (since : Option PersistedTimestamp)
    (slice : FoldSlice) (pr : Nat) (scan : DurationScan) : DurationScan :=
  let row := sliceDurations records slice.state pr
  let events := mergeEvents records slice.state pr
  let mergedPopulation := slice.state.step = .merged || !events.isEmpty
  let eligible := isEligible since row
  let population :=
    { scan.population with uniquePrCandidates := scan.population.uniquePrCandidates + 1 }
  let (population, excluded) :=
    if mergedPopulation then
      ({ population with merged := population.merged + 1 }, scan.excluded)
    else if slice.ended then
      (population, { scan.excluded with closed := scan.excluded.closed + 1 })
    else
      ({ population with «open» := population.open + 1 },
        { scan.excluded with «open» := scan.excluded.open + 1 })
  let excluded :=
    if row.merged then
      if !eligible then
        { excluded with beforeWindow := excluded.beforeWindow + 1 }
      else
        excluded
    else if mergedPopulation then
      if events.isEmpty then
        { excluded with mergedWithoutMatchingEvent := excluded.mergedWithoutMatchingEvent + 1 }
      else
        { excluded with mergedWithoutTimestamp := excluded.mergedWithoutTimestamp + 1 }
    else
      excluded
  { scan with
      eligibleRows := scan.eligibleRows ++ [(row, eligible)]
      excluded := excluded
      population := population }

/-- One turn of the loop over the slices. -/
def scanSlice (records : List TaskEventRecord) (since : Option PersistedTimestamp)
    (scan : DurationScan) (slice : FoldSlice) : DurationScan :=
  if slice.absorbed then
    { scan with
        excluded := { scan.excluded with absorbed := scan.excluded.absorbed + 1 } }
  else if scan.seen.contains slice.state.key then
    { scan with
        excluded := { scan.excluded with duplicate := scan.excluded.duplicate + 1 } }
  else
    let scan := { scan with seen := slice.state.key :: scan.seen }
    match slice.state.pr with
    | none =>
        { scan with excluded := { scan.excluded with noPr := scan.excluded.noPr + 1 } }
    | some pr => scanCandidate records since slice pr scan

def summarize (values : List Int) : Option StepSummary :=
  if values.isEmpty then
    none
  else
    let sorted := values.insertionSort fun first second => first <= second
    let n := sorted.length
    let median :=
      if n % 2 = 1 then
        sorted.getD (n / 2) 0
      else
        (sorted.getD (n / 2 - 1) 0 + sorted.getD (n / 2) 0).tdiv 2
    let rank := (n * 9 + 9) / 10
    some
      { count := n
        medianSeconds := median
        p90Seconds := sorted.getD (rank - 1) 0 }

def stepValues (rows : List SliceDurations) (step : String) : List Int :=
  (rows.filter SliceDurations.merged).filterMap fun row => row.steps[step]?

def coverStep (eligibleRows : List (SliceDurations × Bool)) (step : String) :
    DurationStepCoverage :=
  let eligible := (eligibleRows.filter fun entry => entry.2).length
  let included :=
    (eligibleRows.filter fun entry => entry.2 && entry.1.steps.contains step).length
  { eligible := eligible
    included := included
    missing := eligible - included }

def taskDurations (records : List TaskEventRecord) (slices : List FoldSlice)
    (since : Option PersistedTimestamp) : TaskDurations :=
  let scan :=
    slices.foldl (scanSlice records since)
      { population := { scannedRawSlices := slices.length } }
  let rows :=
    (scan.eligibleRows.filter fun entry => entry.2 || !entry.1.merged).map Prod.fst
  { timeSource := durationTimeSource
    since := since
    slices := rows
    summary :=
      durationSteps.foldl (fun summary step =>
        OrderedMap.insertSome summary step (summarize (stepValues rows step))) ∅
    coverage :=
      durationSteps.foldl (fun coverage step =>
        coverage.insert step (coverStep scan.eligibleRows step)) ∅
    excluded := scan.excluded
    population :=
      { scan.population with
          eligibleMerged := (scan.eligibleRows.filter fun entry => entry.2).length } }

/-!
## The counts reconcile
-/

section Reconciling

variable {records : List TaskEventRecord} {since : Option PersistedTimestamp}
  {scan : DurationScan} {slice : FoldSlice} {state : TaskState} {pr scanned : Nat}
  {row : SliceDurations}

theorem merged_of_isEligible (h : isEligible since row = true) : row.merged = true := by
  unfold isEligible at h
  exact (Bool.and_eq_true _ _ ▸ h).left

theorem mergeEvents_of_merged (h : (sliceDurations records state pr).merged = true) :
    (mergeEvents records state pr).isEmpty = false := by
  rw [Bool.eq_false_iff]
  intro hempty
  have hmerged : (((mergeEvents records state pr).filterMap
    TaskEventRecord.occurredAt).head?).isSome = true := h
  rw [List.isEmpty_iff.mp hempty] at hmerged
  cases hmerged

def eligibleCount (eligibleRows : List (SliceDurations × Bool)) : Nat :=
  (eligibleRows.filter fun entry => entry.2).length

variable {eligibleRows : List (SliceDurations × Bool)}

theorem eligibleCount_concat {eligible : Bool} :
    eligibleCount (eligibleRows ++ [(row, eligible)]) =
      eligibleCount eligibleRows + if eligible then 1 else 0 := by
  unfold eligibleCount
  rw [List.filter_append, List.length_append]
  cases eligible with
  | true => rfl
  | false => rfl

structure Reconciles (scanned : Nat) (scan : DurationScan) : Prop where
  scanned : scanned = scan.excluded.absorbed + scan.excluded.duplicate + scan.excluded.noPr +
    scan.population.uniquePrCandidates
  candidates : scan.population.uniquePrCandidates =
    scan.population.merged + scan.excluded.closed + scan.population.open
  «open» : scan.excluded.open = scan.population.open
  merged : scan.population.merged = eligibleCount scan.eligibleRows +
    scan.excluded.beforeWindow + scan.excluded.mergedWithoutTimestamp +
      scan.excluded.mergedWithoutMatchingEvent
  eligible : forall entry, entry ∈ scan.eligibleRows -> entry.2 = true -> entry.1.merged = true

theorem Reconciles.candidate (h : Reconciles scanned scan) :
    Reconciles (scanned + 1) (scanCandidate records since slice pr scan) := by
  rcases h with ⟨hscanned, hcandidates, hopen, hmerged, heligible⟩
  have hrow := @merged_of_isEligible since (sliceDurations records slice.state pr)
  have hevents := @mergeEvents_of_merged records slice.state pr
  have hrows : forall entry,
      entry ∈ (scanCandidate records since slice pr scan).eligibleRows -> entry.2 = true ->
        entry.1.merged = true := by
    intro entry hmem
    rcases List.mem_append.mp hmem with hbefore | hnew
    · exact heligible entry hbefore
    · rw [List.mem_singleton.mp hnew]
      exact hrow
  refine ⟨?_, ?_, ?_, ?_, hrows⟩
  all_goals
    simp only [scanCandidate, eligibleCount_concat]
    generalize isEligible since (sliceDurations records slice.state pr) = eligible at *
    generalize (sliceDurations records slice.state pr).merged = merged at *
    generalize (mergeEvents records slice.state pr).isEmpty = empty at *
    generalize decide (slice.state.step = .merged) = folded at *
    cases merged with
    | true =>
        rw [hevents rfl]
        cases eligible with
        | true => simp; omega
        | false => simp; omega
    | false =>
        cases eligible with
        | true => cases hrow rfl
        | false =>
            cases folded with
            | true =>
                cases empty with
                | true => simp; omega
                | false => simp; omega
            | false =>
                cases empty with
                | true =>
                    cases slice.ended with
                    | true => simp; omega
                    | false => simp; omega
                | false => simp; omega

theorem Reconciles.turn (h : Reconciles scanned scan) :
    Reconciles (scanned + 1) (scanSlice records since scan slice) := by
  unfold scanSlice
  have hscanned := h.scanned
  split
  · exact { h with scanned := by dsimp only; omega }
  · split
    · exact { h with scanned := by dsimp only; omega }
    · have hseen : Reconciles scanned { scan with seen := slice.state.key :: scan.seen } :=
        { scanned := h.scanned
          candidates := h.candidates
          «open» := h.open
          merged := h.merged
          eligible := h.eligible }
      dsimp only
      split
      · exact { hseen with scanned := by dsimp only; omega }
      · exact hseen.candidate

theorem scannedRawSlices_scanSlice :
    (scanSlice records since scan slice).population.scannedRawSlices =
      scan.population.scannedRawSlices := by
  unfold scanSlice scanCandidate
  split
  · rfl
  · split
    · rfl
    · dsimp only
      split
      · rfl
      · dsimp only
        split
        · rfl
        · split
          · rfl
          · rfl

theorem Reconciles.slices (h : Reconciles scanned scan) (slices : List FoldSlice) :
    Reconciles (scanned + slices.length) (slices.foldl (scanSlice records since) scan) ∧
      (slices.foldl (scanSlice records since) scan).population.scannedRawSlices =
        scan.population.scannedRawSlices := by
  induction slices generalizing scanned scan with
  | nil =>
      exact And.intro h rfl
  | cons slice rest ih =>
      rw [List.foldl_cons, List.length_cons, Nat.add_comm rest.length, ← Nat.add_assoc]
      rcases ih (@Reconciles.turn _ _ _ slice _ h) with ⟨hcounts, hkept⟩
      exact And.intro hcounts (hkept.trans scannedRawSlices_scanSlice)

/-!
## Summaries
-/

theorem length_stepValues {eligibleRows : List (SliceDurations × Bool)} {step : String}
    (heligible : forall entry, entry ∈ eligibleRows -> entry.2 = true -> entry.1.merged = true) :
    (stepValues ((eligibleRows.filter fun entry => entry.2 || !entry.1.merged).map Prod.fst)
      step).length = (coverStep eligibleRows step).included := by
  unfold stepValues coverStep
  induction eligibleRows with
  | nil =>
      rfl
  | cons entry rest ih =>
      have hrest := ih fun other hmem => heligible other (List.mem_cons_of_mem entry hmem)
      have hentry := heligible entry List.mem_cons_self
      dsimp only at hrest ⊢
      cases hin : entry.2 with
      | true =>
          have hmerged := hentry hin
          rw [List.filter_cons_of_pos (by rw [hin]; rfl), List.map_cons,
            List.filter_cons_of_pos hmerged, List.filterMap_cons]
          cases hstep : entry.1.steps[step]? with
          | none =>
              have hout : entry.1.steps.contains step = false := by
                rw [ExtTreeMap.contains_eq_isSome_getElem?, hstep]
                rfl
              rw [List.filter_cons_of_neg (by rw [hin, hout]; exact Bool.false_ne_true)]
              exact hrest
          | some value =>
              have hcontains : entry.1.steps.contains step = true := by
                rw [ExtTreeMap.contains_eq_isSome_getElem?, hstep]
                rfl
              rw [List.filter_cons_of_pos (by rw [hin, hcontains]; rfl), List.length_cons,
                List.length_cons, hrest]
      | false =>
          rw [List.filter_cons_of_neg (p := fun entry : SliceDurations × Bool =>
            entry.2 && entry.1.steps.contains step) (by rw [hin]; exact Bool.false_ne_true),
            ← hrest]
          cases hmerged : entry.1.merged with
          | true =>
              rw [List.filter_cons_of_neg (by rw [hin, hmerged]; exact Bool.false_ne_true)]
          | false =>
              rw [List.filter_cons_of_pos (by rw [hin, hmerged]; rfl), List.map_cons,
                List.filter_cons_of_neg (by rw [hmerged]; exact Bool.false_ne_true)]

def Between (values : List Int) (value : Int) : Prop :=
  exists least, least ∈ values ∧ exists greatest, greatest ∈ values ∧
    (forall other, other ∈ values -> least <= other ∧ other <= greatest) ∧
      least <= value ∧ value <= greatest

theorem exists_extremes {values : List Int} (h : values ≠ []) :
    exists least, least ∈ values ∧ exists greatest, greatest ∈ values ∧
      forall other, other ∈ values -> least <= other ∧ other <= greatest := by
  induction values with
  | nil =>
      exact absurd rfl h
  | cons value rest ih =>
      rcases Decidable.em (rest = []) with rfl | hne
      · refine ⟨value, List.mem_cons_self, value, List.mem_cons_self, ?_⟩
        intro other hmem
        rw [List.mem_singleton.mp hmem]
        exact And.intro (Int.le_refl value) (Int.le_refl value)
      · rcases ih hne with ⟨least, hleast, greatest, hgreatest, hall⟩
        have hlow : min value least ∈ value :: rest := by
          rcases Int.le_total value least with hle | hle
          · rw [Int.min_eq_left hle]
            exact List.mem_cons_self
          · rw [Int.min_eq_right hle]
            exact List.mem_cons_of_mem value hleast
        have hhigh : max value greatest ∈ value :: rest := by
          rcases Int.le_total value greatest with hle | hle
          · rw [Int.max_eq_right hle]
            exact List.mem_cons_of_mem value hgreatest
          · rw [Int.max_eq_left hle]
            exact List.mem_cons_self
        refine ⟨min value least, hlow, max value greatest, hhigh, ?_⟩
        intro other hmem
        rcases List.mem_cons.mp hmem with rfl | hlater
        · exact And.intro (Int.min_le_left _ _) (Int.le_max_left _ _)
        · have hbounds := hall other hlater
          omega

theorem between_mean {least greatest first second : Int} (hfirst : least <= first)
    (hfirst' : first <= greatest) (hsecond : least <= second) (hsecond' : second <= greatest) :
    least <= (first + second).tdiv 2 ∧ (first + second).tdiv 2 <= greatest := by
  have hlow : least * 2 <= first + second := by omega
  have hhigh : first + second <= greatest * 2 := by omega
  constructor
  · rw [← Int.mul_tdiv_cancel least (by decide : (2 : Int) ≠ 0)]
    exact Int.tdiv_le_tdiv (by decide) hlow
  · rw [← Int.mul_tdiv_cancel greatest (by decide : (2 : Int) ≠ 0)]
    exact Int.tdiv_le_tdiv (by decide) hhigh

structure Summarizes (values : List Int) (stat : StepSummary) : Prop where
  count : stat.count = values.length
  median : Between values stat.medianSeconds
  p90 : Between values stat.p90Seconds

theorem summarizes_of_eq_some {values : List Int} {stat : StepSummary}
    (h : summarize values = some stat) : Summarizes values stat := by
  unfold summarize at h
  split at h
  · cases h
  · rename_i hempty
    have hne : values ≠ [] := fun hnil => hempty (List.isEmpty_iff.mpr hnil)
    have hpos : 0 < values.length := List.length_pos_of_ne_nil hne
    rcases exists_extremes hne with ⟨least, hleast, greatest, hgreatest, hall⟩
    have hlength : (values.insertionSort fun first second => first <= second).length =
        values.length := List.length_insertionSort _ _
    have hat : forall index, index < values.length ->
        least <= (values.insertionSort fun first second => first <= second).getD index 0 ∧
          (values.insertionSort fun first second => first <= second).getD index 0 <=
            greatest := by
      intro index hindex
      rw [← hlength] at hindex
      rw [List.getD_eq_getElem _ _ hindex]
      exact hall _ ((List.mem_insertionSort _).mp (List.getElem_mem hindex))
    cases h
    refine
      { count := hlength
        median := ⟨least, hleast, greatest, hgreatest, hall, ?_⟩
        p90 := ⟨least, hleast, greatest, hgreatest, hall, hat _ ?_⟩ }
    · dsimp only
      rw [hlength]
      split
      · exact hat _ (by omega)
      · have hlow := hat (values.length / 2 - 1) (by omega)
        have hhigh := hat (values.length / 2) (by omega)
        exact between_mean hlow.left hlow.right hhigh.left hhigh.right
    · rw [hlength]
      omega

theorem summarize_eq_none {values : List Int} (h : summarize values = none) : values = [] := by
  unfold summarize at h
  split at h
  · rename_i hempty
    exact List.isEmpty_iff.mp hempty
  · cases h

theorem getElem?_summary {rows : List SliceDurations} {step : String}
    (hstep : step ∈ durationSteps) :
    (durationSteps.foldl (fun summary step =>
      OrderedMap.insertSome summary step (summarize (stepValues rows step)))
        (∅ : ExtTreeMap String StepSummary))[step]? =
      summarize (stepValues rows step) := by
  have hfold := @OrderedMap.getElem?_foldl_insertSome String StepSummary _ _ _
    (fun step => summarize (stepValues rows step)) durationSteps ∅ step _
  rw [if_pos hstep, ExtTreeMap.getElem?_empty, Option.or_none] at hfold
  exact hfold

theorem getElem?_coverage {step : String} (hstep : step ∈ durationSteps) :
    (durationSteps.foldl (fun coverage step =>
      coverage.insert step (coverStep eligibleRows step))
        (∅ : ExtTreeMap String DurationStepCoverage))[step]? =
      some (coverStep eligibleRows step) := by
  have hfold := @OrderedMap.getElem?_foldl_insertSome String DurationStepCoverage _ _ _
    (fun step => some (coverStep eligibleRows step)) durationSteps ∅ step _
  rw [if_pos hstep] at hfold
  exact hfold

theorem coverStep_eligible {step : String} :
    (coverStep eligibleRows step).eligible =
      (coverStep eligibleRows step).included + (coverStep eligibleRows step).missing := by
  have hle : (eligibleRows.filter fun entry => entry.2 && entry.1.steps.contains step).length <=
      (eligibleRows.filter fun entry => entry.2).length := by
    rw [← List.countP_eq_length_filter, ← List.countP_eq_length_filter]
    apply List.countP_mono_left
    intro entry _ hboth
    exact (Bool.and_eq_true _ _ ▸ hboth).left
  unfold coverStep
  dsimp only
  omega

structure StepAccounted (durations : TaskDurations) (step : String) : Prop where
  covered : exists cover, durations.coverage[step]? = some cover ∧
    cover.eligible = durations.population.eligibleMerged ∧
      cover.eligible = cover.included + cover.missing ∧
        cover.included = ((durations.summary[step]?).map StepSummary.count).getD 0
  summarized : forall stat, durations.summary[step]? = some stat ->
    Summarizes (stepValues durations.slices step) stat

/-- The counts of a duration projection reconcile, and its summaries are of what they count. -/
structure Accounted (slices : List FoldSlice) (durations : TaskDurations) : Prop where
  raw : durations.population.scannedRawSlices = slices.length
  scanned : durations.population.scannedRawSlices =
    durations.excluded.absorbed + durations.excluded.duplicate + durations.excluded.noPr +
      durations.population.uniquePrCandidates
  candidates : durations.population.uniquePrCandidates =
    durations.population.merged + durations.excluded.closed + durations.population.open
  «open» : durations.excluded.open = durations.population.open
  merged : durations.population.merged = durations.population.eligibleMerged +
    durations.excluded.beforeWindow + durations.excluded.mergedWithoutTimestamp +
      durations.excluded.mergedWithoutMatchingEvent
  steps : forall step, step ∈ durationSteps -> StepAccounted durations step

theorem taskDurations_accounted (records : List TaskEventRecord) (slices : List FoldSlice)
    (since : Option PersistedTimestamp) :
    Accounted slices (taskDurations records slices since) := by
  have hinitial : Reconciles 0 { population := { scannedRawSlices := slices.length } } :=
    { scanned := rfl
      candidates := rfl
      «open» := rfl
      merged := rfl
      eligible := fun entry hmem => absurd hmem List.not_mem_nil }
  rcases @Reconciles.slices records since _ _ hinitial slices with ⟨hcounts, hraw⟩
  rw [Nat.zero_add] at hcounts
  refine
    { raw := hraw
      scanned := hraw.trans hcounts.scanned
      candidates := hcounts.candidates
      «open» := hcounts.open
      merged := hcounts.merged
      steps := ?_ }
  intro step hstep
  have hsummary := @getElem?_summary (taskDurations records slices since).slices _ hstep
  have hlength := @length_stepValues _ step hcounts.eligible
  constructor
  · refine ⟨_, getElem?_coverage hstep, rfl, coverStep_eligible, ?_⟩
    rw [← hlength]
    show (stepValues (taskDurations records slices since).slices step).length =
      (((taskDurations records slices since).summary[step]?).map StepSummary.count).getD 0
    rw [show (taskDurations records slices since).summary[step]? = _ from hsummary]
    cases hstat : summarize (stepValues (taskDurations records slices since).slices step) with
    | none =>
        rw [summarize_eq_none hstat]
        rfl
    | some stat =>
        exact (summarizes_of_eq_some hstat).count.symm
  · intro stat hstat
    exact summarizes_of_eq_some (hsummary.symm.trans hstat)

end Reconciling

end Tasks
end GraphHelm
