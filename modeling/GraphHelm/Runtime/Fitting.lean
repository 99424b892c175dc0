import GraphHelm.Library.Greedy
import GraphHelm.Runtime.Capsules

/-!
# Fitting context to a budget

`fit_within_budget` of `core/runtime/src/context_compiler.rs`, and `compile_items`,
`refit_rendered` and the budget fit of a node's context of
`core/runtime/src/context.rs`. Optional items are fitted twice, first by the sum of
their bytes and then by the bytes of the capsule rendered with them.
-/

namespace GraphHelm

inductive DevelopmentRefusalCode where
  | contextBudgetInsufficient
deriving DecidableEq

structure ExpansionRequest where
  requiredBudget : Nat
deriving DecidableEq

inductive BudgetOutcome where
  | fits (included : List String) (droppedOptional : Nat)
  | refused (code : DevelopmentRefusalCode) (expansion : ExpansionRequest)
deriving DecidableEq

/-- How far the walk over the optional items has come. -/
structure SumFit where
  included : List String
  used : Nat
  droppedOptional : Nat

def totalBytes (items : List String) : Nat :=
  (items.map String.utf8ByteSize).sum

def sumStep (budget : Nat) (fit : SumFit) (item : String) : SumFit :=
  if fit.used + item.utf8ByteSize <= budget then
    { fit with
      included := fit.included ++ [item]
      used := fit.used + item.utf8ByteSize }
  else
    { fit with droppedOptional := fit.droppedOptional + 1 }

def fitWithinBudget (required optional : List String) (budget : Nat) : BudgetOutcome :=
  let requiredBudget := totalBytes required
  if budget < requiredBudget then
    .refused .contextBudgetInsufficient { requiredBudget := requiredBudget }
  else
    let fit :=
      optional.foldl (sumStep budget)
        { included := required
          used := requiredBudget
          droppedOptional := 0 }
    .fits fit.included fit.droppedOptional

def render (capsuleId : String) (items : List String) : Bytes :=
  compileCapsule capsuleId 1 [("evidence", items)]

/-- The kept items, the bytes of the last capsule that fit, and the drop count. -/
structure Refit where
  kept : List String
  bytes : Bytes
  dropped : Nat

def refitStep (capsuleId : String) (budget : Nat) (refit : Refit) (item : String) : Refit :=
  let candidate := render capsuleId (refit.kept ++ [item])
  if budget < candidate.length then
    { refit with dropped := refit.dropped + 1 }
  else
    { refit with
      kept := refit.kept ++ [item]
      bytes := candidate }

def refitRendered (capsuleId : String) (required fittedBySum : List String) (budget : Nat) :
    Refit :=
  let bytes := render capsuleId required
  if budget < bytes.length then
    { kept := required
      bytes := bytes
      dropped := fittedBySum.length }
  else
    fittedBySum.foldl (refitStep capsuleId budget)
      { kept := required
        bytes := bytes
        dropped := 0 }

structure CompiledItems where
  digest : String
  capsuleBytes : Nat
  compiledInputTokens : Nat
  droppedOptional : Nat
deriving DecidableEq

def estimateTokens (bytes : Nat) : Nat :=
  bytes / 4

def compileItems (baseDigest : Bytes -> String) (capsuleId : String)
    (required optional : List String) (budget : Nat) :
    Except (DevelopmentRefusalCode × ExpansionRequest) CompiledItems :=
  match fitWithinBudget required optional budget with
  | .fits included droppedOptional =>
      let refit := refitRendered capsuleId required (included.drop required.length) budget
      let droppedOptional := droppedOptional + refit.dropped
      if budget < refit.bytes.length ∧ required ≠ [] then
        .error (.contextBudgetInsufficient, { requiredBudget := refit.bytes.length })
      else
        .ok
          { digest := baseDigest refit.bytes
            capsuleBytes := refit.bytes.length
            compiledInputTokens := estimateTokens refit.bytes.length
            droppedOptional := droppedOptional }
  | .refused code expansion => .error (code, expansion)

/-- The budget fit of `retrieve_and_compile_in_cached`; nothing where it ships no capsule. -/
def compileCandidates (capsuleId : String) (items : List String) (budget : Nat) :
    Option Refit :=
  let fitted :=
    match fitWithinBudget [] items budget with
    | .fits included droppedOptional => (included, droppedOptional)
    | .refused _ _ => ([], 0)
  let refit := refitRendered capsuleId [] fitted.1 budget
  if refit.kept.isEmpty then
    none
  else
    some { refit with dropped := fitted.2 + refit.dropped }

/-!
## The bytes a capsule takes
-/

theorem totalBytes_append (first second : List String) :
    totalBytes (first ++ second) = totalBytes first + totalBytes second := by
  unfold totalBytes
  rw [List.map_append, List.sum_append]

theorem totalBytes_concat (items : List String) (item : String) :
    totalBytes (items ++ [item]) = totalBytes items + item.utf8ByteSize := by
  rw [totalBytes_append]
  rfl

def segmentedBytes (items : List String) : Nat :=
  (items.map fun item => (segment (utf8 item)).length).sum

theorem segmentedBytes_append (first second : List String) :
    segmentedBytes (first ++ second) = segmentedBytes first + segmentedBytes second := by
  unfold segmentedBytes
  rw [List.map_append, List.sum_append]

theorem totalBytes_le_segmentedBytes (items : List String) :
    totalBytes items <= segmentedBytes items := by
  induction items with
  | nil =>
      exact Nat.le_refl 0
  | cons item rest ih =>
      have hitem := length_lt_length_segment (utf8 item)
      rw [length_utf8] at hitem
      unfold totalBytes segmentedBytes at ih ⊢
      rw [List.map_cons, List.sum_cons, List.map_cons, List.sum_cons]
      omega

def framing (capsuleId : String) : Nat :=
  (segment (utf8 capsuleId)).length + (segment (decimal 1)).length +
    (segment (decimal 1)).length + (segment (utf8 "evidence")).length

theorem length_render (capsuleId : String) (items : List String) :
    (render capsuleId items).length =
      framing capsuleId + (segment (decimal items.length)).length + segmentedBytes items := by
  unfold render framing segmentedBytes
  rw [compileCapsule_eq, List.mergeSort_singleton]
  unfold encodeSections encodeSection encodeItems
  simp only [List.length_append, List.length_flatMap, List.length_singleton,
    List.flatMap_cons, List.flatMap_nil, List.append_nil]
  omega

theorem totalBytes_lt_length_render (capsuleId : String) (items : List String) :
    totalBytes items < (render capsuleId items).length := by
  have hitems := totalBytes_le_segmentedBytes items
  have hcount := length_lt_length_segment (decimal items.length)
  rw [length_render]
  omega

theorem length_render_le (capsuleId : String) (before more : List String) (item : String) :
    (render capsuleId (before ++ [item])).length <=
      (render capsuleId (before ++ more ++ [item])).length := by
  have hcount : (before ++ [item]).length <= (before ++ more ++ [item]).length := by
    simp only [List.length_append]
    omega
  have hdecimal := length_segment_decimal_le hcount
  rw [length_render, length_render, segmentedBytes_append, segmentedBytes_append,
    segmentedBytes_append]
  omega

theorem length_render_le_concat (capsuleId : String) (items : List String) (item : String) :
    (render capsuleId items).length <= (render capsuleId (items ++ [item])).length := by
  have hcount : items.length <= (items ++ [item]).length := by
    simp only [List.length_append]
    omega
  have hdecimal := length_segment_decimal_le hcount
  rw [length_render, length_render, segmentedBytes_append]
  omega

/-!
## The two walks as greedy fits
-/

def sumsWithin (budget : Nat) (items : List String) : Bool :=
  totalBytes items <= budget

def rendersWithin (capsuleId : String) (budget : Nat) (items : List String) : Bool :=
  (render capsuleId items).length <= budget

theorem foldl_sumStep {budget : Nat} {fit : SumFit} (h : fit.used = totalBytes fit.included)
    (optional : List String) :
    optional.foldl (sumStep budget) fit =
      { included := Greedy.keeps (sumsWithin budget) fit.included optional
        used := totalBytes (Greedy.keeps (sumsWithin budget) fit.included optional)
        droppedOptional := fit.droppedOptional +
          (Greedy.leaves (sumsWithin budget) fit.included optional).length } := by
  induction optional generalizing fit with
  | nil =>
      rcases fit with ⟨included, used, dropped⟩
      rw [show used = totalBytes included from h]
      rfl
  | cons item rest ih =>
      have htotal := totalBytes_concat fit.included item
      rw [← h] at htotal
      cases hfits : sumsWithin budget (fit.included ++ [item]) with
      | true =>
          have hwithin := of_decide_eq_true hfits
          rw [htotal] at hwithin
          have hstep : sumStep budget fit item =
              { fit with
                included := fit.included ++ [item]
                used := fit.used + item.utf8ByteSize } := if_pos hwithin
          rw [Greedy.keeps_cons_of_fits hfits, Greedy.leaves_cons_of_fits hfits, List.foldl_cons,
            hstep, ih htotal.symm]
      | false =>
          have hover := of_decide_eq_false hfits
          rw [htotal] at hover
          have hstep : sumStep budget fit item =
              { fit with droppedOptional := fit.droppedOptional + 1 } := if_neg hover
          have hrest := @ih { fit with droppedOptional := fit.droppedOptional + 1 } h
          rw [Greedy.keeps_cons_of_refused hfits, Greedy.leaves_cons_of_refused hfits,
            List.foldl_cons, hstep, hrest, List.length_cons, Nat.add_right_comm, Nat.add_assoc]

theorem foldl_refitStep {capsuleId : String} {budget : Nat} {refit : Refit}
    (h : refit.bytes = render capsuleId refit.kept) (items : List String) :
    items.foldl (refitStep capsuleId budget) refit =
      { kept := Greedy.keeps (rendersWithin capsuleId budget) refit.kept items
        bytes := render capsuleId
          (Greedy.keeps (rendersWithin capsuleId budget) refit.kept items)
        dropped := refit.dropped +
          (Greedy.leaves (rendersWithin capsuleId budget) refit.kept items).length } := by
  induction items generalizing refit with
  | nil =>
      rcases refit with ⟨kept, bytes, dropped⟩
      rw [show bytes = render capsuleId kept from h]
      rfl
  | cons item rest ih =>
      cases hfits : rendersWithin capsuleId budget (refit.kept ++ [item]) with
      | true =>
          have hstep : refitStep capsuleId budget refit item =
              { refit with
                kept := refit.kept ++ [item]
                bytes := render capsuleId (refit.kept ++ [item]) } :=
            if_neg (Nat.not_lt.mpr (of_decide_eq_true hfits))
          rw [Greedy.keeps_cons_of_fits hfits, Greedy.leaves_cons_of_fits hfits, List.foldl_cons,
            hstep, ih rfl]
      | false =>
          have hstep : refitStep capsuleId budget refit item =
              { refit with dropped := refit.dropped + 1 } :=
            if_pos (Nat.lt_of_not_le (of_decide_eq_false hfits))
          have hrest := @ih { refit with dropped := refit.dropped + 1 } h
          rw [Greedy.keeps_cons_of_refused hfits, Greedy.leaves_cons_of_refused hfits,
            List.foldl_cons, hstep, hrest, List.length_cons, Nat.add_right_comm, Nat.add_assoc]

theorem rendersWithin_concat_of_over {capsuleId : String} {budget : Nat} {items : List String}
    (h : budget < (render capsuleId items).length) (item : String) :
    rendersWithin capsuleId budget (items ++ [item]) = false := by
  apply decide_eq_false
  have hmore := length_render_le_concat capsuleId items item
  omega

theorem refitRendered_eq (capsuleId : String) (required fittedBySum : List String)
    (budget : Nat) :
    refitRendered capsuleId required fittedBySum budget =
      { kept := Greedy.keeps (rendersWithin capsuleId budget) required fittedBySum
        bytes := render capsuleId
          (Greedy.keeps (rendersWithin capsuleId budget) required fittedBySum)
        dropped :=
          (Greedy.leaves (rendersWithin capsuleId budget) required fittedBySum).length } := by
  unfold refitRendered
  dsimp only
  split
  · rename_i hover
    rcases Greedy.keeps_of_refused fun item (_ : item ∈ fittedBySum) =>
      rendersWithin_concat_of_over hover item with ⟨hkeeps, hleaves⟩
    rw [hkeeps, hleaves]
  · have hfold := @foldl_refitStep capsuleId budget
      { kept := required, bytes := render capsuleId required, dropped := 0 } rfl fittedBySum
    rw [hfold, Nat.zero_add]

/-!
## The items that fit by sum
-/

def fittedBySum (required optional : List String) (budget : Nat) : List String :=
  (Greedy.keeps (sumsWithin budget) required optional).drop required.length

def leftBySum (required optional : List String) (budget : Nat) : List String :=
  Greedy.leaves (sumsWithin budget) required optional

theorem perm_fittedBySum (required optional : List String) (budget : Nat) :
    Greedy.keeps (sumsWithin budget) required optional =
        required ++ fittedBySum required optional budget ∧
      (fittedBySum required optional budget).Sublist optional ∧
      List.Perm optional
        (fittedBySum required optional budget ++ leftBySum required optional budget) := by
  unfold fittedBySum leftBySum
  rcases @Greedy.keeps_eq_append _ (sumsWithin budget) required optional with
    ⟨took, hkeeps, hsub, hperm⟩
  rw [hkeeps, List.drop_left]
  exact ⟨rfl, hsub, hperm⟩

theorem fitWithinBudget_of_le {required optional : List String} {budget : Nat}
    (h : totalBytes required <= budget) :
    fitWithinBudget required optional budget =
      .fits (required ++ fittedBySum required optional budget)
        (leftBySum required optional budget).length := by
  have hfold := @foldl_sumStep budget
    { included := required, used := totalBytes required, droppedOptional := 0 } rfl optional
  unfold fitWithinBudget
  dsimp only
  rw [if_neg (Nat.not_lt.mpr h), hfold, (perm_fittedBySum required optional budget).left,
    Nat.zero_add]
  rfl

theorem fitWithinBudget_of_lt {required optional : List String} {budget : Nat}
    (h : budget < totalBytes required) :
    fitWithinBudget required optional budget =
      .refused .contextBudgetInsufficient { requiredBudget := totalBytes required } :=
  if_pos h

def shippedItems (capsuleId : String) (required optional : List String) (budget : Nat) :
    List String :=
  Greedy.keeps (rendersWithin capsuleId budget) required (fittedBySum required optional budget)

def leftByFraming (capsuleId : String) (required optional : List String) (budget : Nat) :
    List String :=
  Greedy.leaves (rendersWithin capsuleId budget) required (fittedBySum required optional budget)

/-- The capsule both producers come to. -/
def shipped (capsuleId : String) (required optional : List String) (budget : Nat) : Refit :=
  { kept := shippedItems capsuleId required optional budget
    bytes := render capsuleId (shippedItems capsuleId required optional budget)
    dropped := (leftBySum required optional budget).length +
      (leftByFraming capsuleId required optional budget).length }

section Producers

variable {baseDigest : Bytes -> String} {capsuleId : String} {required optional : List String}
  {budget : Nat}

theorem compileItems_of_over_sum (h : budget < totalBytes required) :
    compileItems baseDigest capsuleId required optional budget =
      .error (.contextBudgetInsufficient, { requiredBudget := totalBytes required }) := by
  unfold compileItems
  rw [fitWithinBudget_of_lt h]

theorem compileItems_of_within_sum (h : totalBytes required <= budget) :
    compileItems baseDigest capsuleId required optional budget =
      if budget < (shipped capsuleId required optional budget).bytes.length ∧ required ≠ [] then
        .error (.contextBudgetInsufficient,
          { requiredBudget := (shipped capsuleId required optional budget).bytes.length })
      else
        .ok
          { digest := baseDigest (shipped capsuleId required optional budget).bytes
            capsuleBytes := (shipped capsuleId required optional budget).bytes.length
            compiledInputTokens :=
              estimateTokens (shipped capsuleId required optional budget).bytes.length
            droppedOptional := (shipped capsuleId required optional budget).dropped } := by
  unfold compileItems
  rw [fitWithinBudget_of_le h]
  dsimp only
  rw [List.drop_left, refitRendered_eq]
  rfl

theorem compileCandidates_eq (items : List String) :
    compileCandidates capsuleId items budget =
      if (shippedItems capsuleId [] items budget).isEmpty then none
      else some (shipped capsuleId [] items budget) := by
  unfold compileCandidates
  rw [fitWithinBudget_of_le (Nat.zero_le budget), List.nil_append]
  dsimp only
  rw [refitRendered_eq]
  rfl

theorem shippedItems_of_over (h : budget < (render capsuleId required).length) :
    shippedItems capsuleId required optional budget = required :=
  (Greedy.keeps_of_refused fun item _ => rendersWithin_concat_of_over h item).left

theorem length_shipped_le_iff :
    (render capsuleId (shippedItems capsuleId required optional budget)).length <= budget <->
      (render capsuleId required).length <= budget := by
  constructor
  · intro h
    rcases Nat.lt_or_ge budget (render capsuleId required).length with hover | hwithin
    · rw [shippedItems_of_over hover] at h
      omega
    · exact hwithin
  · intro h
    have hfits : rendersWithin capsuleId budget required = true := decide_eq_true h
    exact of_decide_eq_true (Greedy.fits_keeps hfits)

/-!
## The budget a refusal names
-/

structure LeastBudget (baseDigest : Bytes -> String) (capsuleId : String)
    (required optional : List String) (budget : Nat) : Prop where
  compiles : exists compiled,
    compileItems baseDigest capsuleId required optional budget = .ok compiled
  refuses : forall smaller, smaller < budget ->
    exists refusal, compileItems baseDigest capsuleId required optional smaller = .error refusal

theorem compileItems_isOk_iff (h : required ≠ []) :
    (exists compiled, compileItems baseDigest capsuleId required optional budget = .ok compiled)
      <-> (render capsuleId required).length <= budget := by
  have hframing := totalBytes_lt_length_render capsuleId required
  rcases Nat.lt_or_ge budget (totalBytes required) with hover | hwithin
  · rw [compileItems_of_over_sum hover]
    constructor
    · rintro ⟨compiled, hcompiled⟩
      cases hcompiled
    · intro hrendered
      omega
  · have hshipped := @length_shipped_le_iff capsuleId required optional budget
    rw [compileItems_of_within_sum hwithin]
    constructor
    · rintro ⟨compiled, hcompiled⟩
      split at hcompiled
      · cases hcompiled
      · rename_i hfits
        apply hshipped.mp
        apply Nat.le_of_not_lt
        exact fun hlt => hfits (And.intro hlt h)
    · intro hrendered
      have hfits : ¬ (budget < (shipped capsuleId required optional budget).bytes.length ∧
          required ≠ []) := fun hboth => Nat.not_lt.mpr (hshipped.mpr hrendered) hboth.left
      rw [if_neg hfits]
      exact ⟨_, rfl⟩

theorem leastBudget_render (h : required ≠ []) :
    LeastBudget baseDigest capsuleId required optional (render capsuleId required).length := by
  constructor
  · exact (compileItems_isOk_iff h).mpr (Nat.le_refl _)
  · intro smaller hsmaller
    cases hresult : compileItems baseDigest capsuleId required optional smaller with
    | ok compiled =>
        have hwithin := (compileItems_isOk_iff h).mp ⟨compiled, hresult⟩
        omega
    | error refusal =>
        exact ⟨refusal, rfl⟩

/-- A refusal names the least budget exactly when the items were within the one given. -/
theorem refusal_names_least_budget_iff {code : DevelopmentRefusalCode}
    {expansion : ExpansionRequest}
    (hrefused : compileItems baseDigest capsuleId required optional budget =
      .error (code, expansion)) :
    LeastBudget baseDigest capsuleId required optional expansion.requiredBudget <->
      totalBytes required <= budget := by
  rcases Nat.lt_or_ge budget (totalBytes required) with hover | hwithin
  · rw [compileItems_of_over_sum hover] at hrefused
    cases hrefused
    have hnonempty : required ≠ [] := by
      intro hempty
      rw [hempty] at hover
      exact Nat.not_lt_zero budget hover
    refine iff_of_false ?_ (Nat.not_le.mpr hover)
    intro hleast
    have hframing := totalBytes_lt_length_render capsuleId required
    have hrendered := (compileItems_isOk_iff hnonempty).mp hleast.compiles
    exact absurd hrendered (Nat.not_le.mpr hframing)
  · refine iff_of_true ?_ hwithin
    rw [compileItems_of_within_sum hwithin] at hrefused
    split at hrefused
    · rename_i hover
      cases hrefused
      have hrequired : budget < (render capsuleId required).length := by
        apply Nat.lt_of_not_le
        exact fun hle => Nat.not_lt.mpr (length_shipped_le_iff.mpr hle) hover.left
      unfold shipped
      dsimp only
      rw [shippedItems_of_over hrequired]
      exact leastBudget_render hover.right
    · cases hrefused

/-!
## What a capsule leaves out
-/

inductive Ships (baseDigest : Bytes -> String) (capsuleId : String)
    (required optional : List String) (budget : Nat) : Refit -> Prop where
  | items {included : List String} {droppedOptional : Nat} {refit : Refit}
      {compiled : CompiledItems} (hrequired : required ≠ [])
      (hcompiled : compileItems baseDigest capsuleId required optional budget = .ok compiled)
      (hfits : fitWithinBudget required optional budget = .fits included droppedOptional)
      (hrefit : refitRendered capsuleId required (included.drop required.length) budget =
        refit) :
      Ships baseDigest capsuleId required optional budget
        { refit with dropped := droppedOptional + refit.dropped }
  | node {refit : Refit} (hrequired : required = [])
      (hcompiled : compileCandidates capsuleId optional budget = some refit) :
      Ships baseDigest capsuleId required optional budget refit

/-- The capsule holds what it must, within the budget, and nothing left out would still fit. -/
structure GreedyMaximal (capsuleId : String) (required optional : List String) (budget : Nat)
    (refit : Refit) (took left : List String) : Prop where
  rendered : refit.bytes = render capsuleId refit.kept
  bounded : refit.bytes.length <= budget
  kept : refit.kept = required ++ took
  part : took.Sublist optional
  listed : List.Perm optional (took ++ left)
  counted : refit.dropped = left.length
  maximal : forall item, item ∈ left ->
    budget < (render capsuleId (refit.kept ++ [item])).length

/-- The rendered walk, gone on over the items that the sum left out, would keep none of them. -/
def SumRefusalsStand (capsuleId : String) (required optional : List String) (budget : Nat) :
    Prop :=
  Greedy.keeps (rendersWithin capsuleId budget) required
      (fittedBySum required optional budget ++ leftBySum required optional budget) =
    Greedy.keeps (rendersWithin capsuleId budget) required
      (fittedBySum required optional budget)

theorem Ships.eq_shipped {refit : Refit}
    (h : Ships baseDigest capsuleId required optional budget refit) :
    refit = shipped capsuleId required optional budget ∧ refit.bytes.length <= budget := by
  cases h with
  | items hrequired hcompiled hfits hrefit =>
      rcases Nat.lt_or_ge budget (totalBytes required) with hover | hwithin
      · rw [fitWithinBudget_of_lt hover] at hfits
        cases hfits
      · rw [fitWithinBudget_of_le hwithin] at hfits
        cases hfits
        rw [List.drop_left, refitRendered_eq] at hrefit
        cases hrefit
        refine And.intro rfl ?_
        have hrendered := (compileItems_isOk_iff hrequired).mp ⟨_, hcompiled⟩
        exact length_shipped_le_iff.mpr hrendered
  | node hrequired hcompiled =>
      rw [hrequired]
      rw [compileCandidates_eq] at hcompiled
      split at hcompiled
      · cases hcompiled
      · rename_i hnonempty
        cases hcompiled
        refine And.intro rfl ?_
        apply length_shipped_le_iff.mpr
        apply Nat.le_of_not_lt
        intro hover
        apply hnonempty
        rw [shippedItems_of_over hover]
        rfl

theorem sumRefusalsStand_iff : SumRefusalsStand capsuleId required optional budget <->
    forall item, item ∈ leftBySum required optional budget ->
      budget < (render capsuleId
        (shippedItems capsuleId required optional budget ++ [item])).length := by
  unfold SumRefusalsStand
  rw [Greedy.keeps_append, Greedy.keeps_eq_self_iff]
  constructor
  · intro h item hmem
    exact Nat.lt_of_not_le (of_decide_eq_false (h item hmem))
  · intro h item hmem
    exact decide_eq_false (Nat.not_le.mpr (h item hmem))

theorem lt_length_of_mem_leftByFraming {item : String}
    (h : item ∈ leftByFraming capsuleId required optional budget) :
    budget < (render capsuleId
      (shippedItems capsuleId required optional budget ++ [item])).length := by
  apply Nat.lt_of_not_le
  refine of_decide_eq_false (Greedy.refused_of_mem_leaves ?_ h)
  intro before more other hrefused
  have hover := Nat.lt_of_not_le (of_decide_eq_false hrefused)
  have hmore := length_render_le capsuleId before more other
  exact decide_eq_false (Nat.not_le.mpr (Nat.lt_of_lt_of_le hover hmore))

theorem exists_took : exists took,
    shippedItems capsuleId required optional budget = required ++ took ∧
      took.Sublist optional ∧
      List.Perm optional
        (took ++ (leftByFraming capsuleId required optional budget ++
          leftBySum required optional budget)) := by
  rcases perm_fittedBySum required optional budget with ⟨_, hsub, hperm⟩
  rcases @Greedy.keeps_eq_append _ (rendersWithin capsuleId budget) required
    (fittedBySum required optional budget) with ⟨took, hkeeps, htook, hleft⟩
  refine ⟨took, hkeeps, htook.trans hsub, ?_⟩
  rw [← List.append_assoc]
  exact hperm.trans (hleft.append_right _)

theorem GreedyMaximal.stands {took left : List String}
    (h : GreedyMaximal capsuleId required optional budget
      (shipped capsuleId required optional budget) took left) :
    SumRefusalsStand capsuleId required optional budget := by
  rcases @exists_took capsuleId required optional budget with ⟨other, hkeeps, _, hrest⟩
  have hsame : took = other := List.append_cancel_left (h.kept.symm.trans hkeeps)
  have hall := h.listed.symm.trans hrest
  rw [hsame] at hall
  have hleft := (List.perm_append_left_iff other).mp hall
  rw [sumRefusalsStand_iff]
  intro item hmem
  exact h.maximal item (hleft.mem_iff.mpr (List.mem_append_right _ hmem))

end Producers

theorem ships_of_compiles {required optional included : List String} {budget : Nat}
    {droppedOptional : Nat} (hrequired : required ≠ [])
    (hcompiles : (compileItems (fun _ => "") "c" required optional budget).isOk = true)
    (hfits : fitWithinBudget required optional budget = .fits included droppedOptional) :
    exists refit, Ships (fun _ => "") "c" required optional budget refit := by
  cases hresult : compileItems (fun _ => "") "c" required optional budget with
  | ok compiled =>
      exact ⟨_, Ships.items hrequired hresult hfits rfl⟩
  | error refusal =>
      rw [hresult] at hcompiles
      cases hcompiles

namespace Sample

/-- Thirty bytes fit by sum and not by framing; ten more do not fit by sum behind them. -/
def crowding : List String :=
  ["aaaaaaaaaaaaaaaaaaaaaaaaaaaaaa", "cccccccccc"]

end Sample

theorem refusal_names_least_budget_within_the_sum : exists expansion,
    compileItems (fun _ => "") "c" ["r"] [] 3 = .error (.contextBudgetInsufficient, expansion) ∧
      LeastBudget (fun _ => "") "c" ["r"] [] expansion.requiredBudget := by
  have hrefused : compileItems (fun _ => "") "c" ["r"] [] 3 =
      .error (.contextBudgetInsufficient, { requiredBudget := 25 }) := by decide +kernel
  exact ⟨_, hrefused, (refusal_names_least_budget_iff hrefused).mpr (by decide)⟩

/-- A budget below the sum of the required items: the budget named refuses again. -/
theorem refusal_names_a_budget_that_refuses :
    compileItems (fun _ => "") "c" ["r"] [] 0 =
        .error (.contextBudgetInsufficient, { requiredBudget := 1 }) ∧
      ¬ LeastBudget (fun _ => "") "c" ["r"] [] 1 := by
  have hrefused : compileItems (fun _ => "") "c" ["r"] [] 0 =
      .error (.contextBudgetInsufficient, { requiredBudget := 1 }) := by decide +kernel
  have hagain : compileItems (fun _ => "") "c" ["r"] [] 1 =
      .error (.contextBudgetInsufficient, { requiredBudget := 25 }) := by decide +kernel
  refine And.intro hrefused ?_
  intro hleast
  rcases hleast.compiles with ⟨compiled, hcompiled⟩
  rw [hagain] at hcompiled
  cases hcompiled

end GraphHelm
