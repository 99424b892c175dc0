import GraphHelm.Externalize.Publication
import GraphHelm.Externalize.Sealed

/-!
# What a persisted version discloses

Two graphs that are alike when their content is left out are persisted alike: one
topology, and slots that differ in the digests of their content and in the evidence
that is named after those digests.
-/

namespace GraphHelm
namespace Externalize

variable {env : Surroundings}

/-!
## Positions decide slots
-/

theorem ownerKind_rank_injective {a b : ContentOwnerKind} (h : a.rank = b.rank) : a = b := by
  cases a <;> cases b <;> first | rfl | cases h

theorem fieldKind_rank_injective {a b : ContentFieldKind} (h : a.rank = b.rank) : a = b := by
  cases a <;> cases b <;> first | rfl | cases h

theorem orderKey_injective {a b : SlotPosition} (h : a.orderKey = b.orderKey) : a = b := by
  have hkey := toLex.injective h
  simp only [Prod.mk.injEq] at hkey
  rcases hkey with ⟨howner, hrest⟩
  have hrest := toLex.injective hrest
  simp only [Prod.mk.injEq] at hrest
  rcases hrest with ⟨hid, hfield⟩
  have hfield := toLex.injective hfield
  simp only [Prod.mk.injEq] at hfield
  cases a
  cases b
  cases ownerKind_rank_injective howner
  cases fieldKind_rank_injective hfield.left
  cases hid
  cases hfield.right
  rfl

theorem slotAt_blind {position : SlotPosition} {digest : RawSha256} {slot : ContentSlot}
    (h : slotAt env position digest = .ok slot) : slotAt env position "" = .ok slot.blind := by
  unfold slotAt at h ⊢
  rcases bind_ok h with ⟨owner, howner, h⟩
  rcases bind_ok h with ⟨slotId, hslot, h⟩
  rcases bind_ok h with ⟨profile, hprofile, h⟩
  rcases bind_ok h with ⟨evidenceId, hevidence, h⟩
  cases h
  rw [howner, hslot, hprofile, Except.ok_bind, Except.ok_bind, Except.ok_bind, hevidence]
  rfl

theorem registered_blind {item : PendingContent} {entry : SlotPosition × Json}
    (h : RegisteredAs env item entry) :
    slotAt env item.slot.position "" = .ok item.slot.blind ∧ item.slot.position = entry.1 := by
  have hposition := (slotAt_position h.slotted).left
  constructor
  · rw [hposition]
    exact slotAt_blind h.slotted
  · exact hposition

variable {entries : List (SlotPosition × Json)} {registered items : List PendingContent}
    {graph : ExecutionGraph}

theorem mem_registered (h : List.Forall₂ (RegisteredAs env) registered entries) :
    forall item, item ∈ registered -> exists entry, entry ∈ entries ∧ RegisteredAs env item entry := by
  induction h with
  | nil =>
      intro item hitem
      cases hitem
  | cons hhead htail ih =>
      intro item hitem
      rcases List.mem_cons.mp hitem with heq | hlater
      · exact ⟨_, List.mem_cons_self, heq ▸ hhead⟩
      · rcases ih item hlater with ⟨entry, hentry, hregistered⟩
        exact ⟨entry, List.mem_cons_of_mem _ hentry, hregistered⟩

theorem registered_mem (h : List.Forall₂ (RegisteredAs env) registered entries) :
    forall entry, entry ∈ entries -> exists item, item ∈ registered ∧ RegisteredAs env item entry := by
  induction h with
  | nil =>
      intro entry hentry
      cases hentry
  | cons hhead htail ih =>
      intro entry hentry
      rcases List.mem_cons.mp hentry with heq | hlater
      · exact ⟨_, List.mem_cons_self, heq ▸ hhead⟩
      · rcases ih entry hlater with ⟨item, hitem, hregistered⟩
        exact ⟨item, List.mem_cons_of_mem _ hitem, hregistered⟩

theorem registered_positions (h : List.Forall₂ (RegisteredAs env) registered entries) :
    registered.map (fun item => item.slot.position) = entries.map Prod.fst := by
  induction h with
  | nil => rfl
  | cons hhead htail ih =>
      rw [List.map_cons, List.map_cons, ih, (registered_blind hhead).right]

theorem collectContent_sorted (h : collectContent env graph = .ok items) :
    (items.map fun item => item.slot.position).Pairwise fun a b => a.orderKey <= b.orderKey := by
  unfold collectContent at h
  rcases bind_ok h with ⟨collector, _, h⟩
  rcases bind_ok h with ⟨_, _, h⟩
  cases h
  rw [List.pairwise_map]
  exact List.pairwise_insertionSort _ collector.items

theorem collectContent_positions {other : ExecutionGraph} {others : List PendingContent}
    (hpositions : (authoredContent graph).map Prod.fst = (authoredContent other).map Prod.fst)
    (hgraph : collectContent env graph = .ok items)
    (hother : collectContent env other = .ok others) :
    items.map (fun item => item.slot.position) = others.map fun item => item.slot.position := by
  rcases collectContent_registered hgraph with ⟨registered, hperm, hregistered, _, _⟩
  rcases collectContent_registered hother with ⟨registered', hperm', hregistered', _, _⟩
  have hsame : (items.map fun item => item.slot.position).Perm
      (others.map fun item => item.slot.position) := by
    apply (hperm.map _).trans
    rw [registered_positions hregistered, hpositions, ← registered_positions hregistered']
    exact (hperm'.map _).symm
  apply hsame.eq_of_pairwise _ (collectContent_sorted hgraph) (collectContent_sorted hother)
  intro a b _ _ hab hba
  exact orderKey_injective (le_antisymm hab hba)

theorem collectContent_slotAt (h : collectContent env graph = .ok items) :
    forall item, item ∈ items ->
      slotAt env item.slot.position "" = .ok item.slot.blind := by
  intro item hitem
  rcases collectContent_registered h with ⟨registered, hperm, hregistered, _, _⟩
  rcases mem_registered hregistered item (hperm.mem_iff.mp hitem) with ⟨entry, _, hentry⟩
  exact (registered_blind hentry).left

theorem blind_eq_of_positions {others : List PendingContent}
    (hitems : forall item, item ∈ items -> slotAt env item.slot.position "" = .ok item.slot.blind)
    (hothers : forall item, item ∈ others ->
      slotAt env item.slot.position "" = .ok item.slot.blind)
    (h : items.map (fun item => item.slot.position) =
      others.map fun item => item.slot.position) :
    (contentSlots items).map ContentSlot.blind = (contentSlots others).map ContentSlot.blind := by
  induction items generalizing others with
  | nil =>
      cases others with
      | nil => rfl
      | cons _ _ => cases h
  | cons item rest ih =>
      cases others with
      | nil => cases h
      | cons other more =>
          rw [List.map_cons, List.map_cons, List.cons.injEq] at h
          have hitem := hitems item List.mem_cons_self
          have hother := hothers other List.mem_cons_self
          rw [h.left, hother] at hitem
          have hslot : other.slot.blind = item.slot.blind := Except.ok.inj hitem
          have hrest := ih (fun item hmem => hitems item (List.mem_cons_of_mem _ hmem))
            (fun item hmem => hothers item (List.mem_cons_of_mem _ hmem)) h.right
          show item.slot.blind :: _ = other.slot.blind :: _
          rw [hslot]
          exact congrArg (List.cons item.slot.blind) hrest

/-!
## The same graph to the topology
-/

/-- What a topology may learn of a content: of a path, whether it is one. -/
def pathMask (position : SlotPosition) (value : Json) : Json :=
  if position.fieldKind.isPath && isNonemptyText value then .string "path" else .null

/-- What it learns where the content was collected. -/
def blankMask (position : SlotPosition) (_ : Json) : Json :=
  if position.fieldKind.isPath then .string "path" else .null

theorem pathMask_keepsPaths : KeepsPaths pathMask := by
  intro position value hpath
  unfold pathMask
  rw [hpath, Bool.true_and]
  cases htext : isNonemptyText value with
  | true => rfl
  | false => rfl

theorem pathMask_of_collected (h : collectContent env graph = .ok items) :
    masked pathMask graph = masked blankMask (redacted graph) := by
  unfold redacted
  rw [masked_masked]
  apply masked_congr
  intro entry hentry
  rcases collectContent_registered h with ⟨registered, _, hregistered, _, _⟩
  rcases registered_mem hregistered entry hentry with ⟨item, _, hitem⟩
  unfold pathMask blankMask
  cases hpath : entry.1.fieldKind.isPath with
  | true =>
      rw [hitem.pathText hpath]
      rfl
  | false => rfl

theorem positions_of_redacted {other : ExecutionGraph} (h : redacted graph = redacted other) :
    (authoredContent graph).map Prod.fst = (authoredContent other).map Prod.fst := by
  have hgraph := positions_masked (fun _ _ => .null) graph
  have hother := positions_masked (fun _ _ => .null) other
  rw [← hgraph, ← hother]
  exact congrArg (fun graph => (authoredContent graph).map Prod.fst) h

/-!
## The law
-/

/-- A slot less the digest of its content and less the evidence named after the digests. -/
def ContentSlot.veiled (slot : ContentSlot) : ContentSlot :=
  { slot.blind with evidenceId := slot.slotId }

theorem veiled_of_bound {scope : RepositoryScope} {number : Nat} {semanticHash : WireHash}
    {bound : List PendingContent}
    (h : bindPublicationEvidenceIds env scope number semanticHash items = .ok bound) :
    (contentSlots bound).map ContentSlot.veiled = (contentSlots items).map ContentSlot.veiled := by
  unfold bindPublicationEvidenceIds at h
  induction Except.mapM_eq_ok.mp h with
  | nil => rfl
  | cons hitem hrest ih =>
      rcases bind_ok hitem with ⟨evidenceId, _, hbound⟩
      cases hbound
      exact congrArg (List.cons _) (ih (Except.mapM_eq_ok.mpr hrest))

theorem veiled_of_blind {slots others : List ContentSlot}
    (h : slots.map ContentSlot.blind = others.map ContentSlot.blind) :
    slots.map ContentSlot.veiled = others.map ContentSlot.veiled := by
  have hveiled : forall slot : ContentSlot, slot.veiled = slot.blind.veiled := fun _ => rfl
  have hmap := congrArg (List.map ContentSlot.veiled) h
  rw [List.map_map, List.map_map] at hmap
  exact hmap

/--
Graphs that are equal up to their content are persisted with equal topologies, and
with slots that are equal up to the digests of the content and, once bound, up to the
evidence named after the digests.
-/
theorem content_discloses_digests {graph other : ExecutionGraph}
    {items others : List PendingContent} (hsame : redacted graph = redacted other)
    (hgraph : collectContent env graph = .ok items)
    (hother : collectContent env other = .ok others) :
    buildTopology env graph (contentSlots items) = buildTopology env other (contentSlots others) ∧
      (contentSlots items).map ContentSlot.blind = (contentSlots others).map ContentSlot.blind ∧
      forall scope number semanticHash otherHash bound otherBound,
        bindPublicationEvidenceIds env scope number semanticHash items = .ok bound ->
        bindPublicationEvidenceIds env scope number otherHash others = .ok otherBound ->
        (contentSlots bound).map ContentSlot.veiled =
          (contentSlots otherBound).map ContentSlot.veiled := by
  have hpositions := collectContent_positions (positions_of_redacted hsame) hgraph hother
  have hblind := blind_eq_of_positions (collectContent_slotAt hgraph)
    (collectContent_slotAt hother) hpositions
  constructor
  · calc buildTopology env graph (contentSlots items)
        = buildTopology env (masked pathMask graph) (contentSlots items) :=
          (buildTopology_masked pathMask_keepsPaths graph).symm
      _ = buildTopology env (masked blankMask (redacted graph)) (contentSlots items) := by
          rw [pathMask_of_collected hgraph]
      _ = buildTopology env (masked blankMask (redacted other)) (contentSlots others) := by
          rw [hsame, buildTopology_blind hblind]
      _ = buildTopology env (masked pathMask other) (contentSlots others) := by
          rw [pathMask_of_collected hother]
      _ = buildTopology env other (contentSlots others) :=
          buildTopology_masked pathMask_keepsPaths other
  · constructor
    · exact hblind
    · intro scope number semanticHash otherHash bound otherBound hbound hotherBound
      rw [veiled_of_bound hbound, veiled_of_bound hotherBound]
      exact veiled_of_blind hblind

/-!
## A decision with two prompts
-/

def sampleDigest (bytes : List UInt8) : RawSha256 :=
  toString (bytes.foldl (fun digest byte => (digest * 257 + byte.toNat + 1) % 1000000007) 0)

def sampleJsonText : Json -> List UInt8
  | .string text => utf8 text
  | _ => []

def sampleSurroundings : Surroundings where
  rawContentSha256 := sampleDigest
  jsonText := sampleJsonText
  structureWithinLimits _ := true
  encodePersistedReference := some
  parsePersistedBinding := some
  parseNominalIdentifier := some
  contextIncludeReferenceValid _ _ := true
  controlReferencesValid _ := true
  compileInlineSchema _ := .ok ()
  validateDurableContent _ := .ok ()
  readCustoms _ := none

def sampleGraph (text : String) : ExecutionGraph :=
  { metadata :=
      { id := "graph", name := text, executionId := "execution", version := 1, labels := []
        properties := [] }
    spec :=
      { entrypoints := ["decide"]
        nodes := [("decide",
          { nodeType := .humanDecision, name := text, objective := text, optionality := .required
            properties := [("prompt", .string text)] })]
        edges := []
        budgets := ⟨none, none, none, none, none, none, none⟩
        policies := []
        completion := .object [("allowWaivers", .bool false)] } }

def sampleItems (text : String) : List PendingContent :=
  match collectContent sampleSurroundings (sampleGraph text) with
  | .ok items => items
  | .error _ => []

def isDone {A : Type} : Except GovernorError A -> Bool
  | .ok _ => true
  | .error _ => false

theorem sampleItems_collected {text : String}
    (h : isDone (collectContent sampleSurroundings (sampleGraph text)) = true) :
    collectContent sampleSurroundings (sampleGraph text) = .ok (sampleItems text) := by
  unfold sampleItems
  cases hcollect : collectContent sampleSurroundings (sampleGraph text) with
  | ok items => rfl
  | error e =>
      rw [hcollect] at h
      cases h

/-- The two decisions are published, and nothing but digests tells them apart. -/
theorem prompts_disclose_digests :
    isDone (buildTopology sampleSurroundings (sampleGraph "ship")
      (contentSlots (sampleItems "ship"))) = true ∧
    (contentSlots (sampleItems "ship")).map ContentSlot.contentSha256 ≠
      (contentSlots (sampleItems "wait")).map ContentSlot.contentSha256 ∧
    buildTopology sampleSurroundings (sampleGraph "ship") (contentSlots (sampleItems "ship")) =
      buildTopology sampleSurroundings (sampleGraph "wait") (contentSlots (sampleItems "wait")) ∧
    (contentSlots (sampleItems "ship")).map ContentSlot.blind =
      (contentSlots (sampleItems "wait")).map ContentSlot.blind := by
  have h := @content_discloses_digests sampleSurroundings (sampleGraph "ship")
    (sampleGraph "wait") _ _ rfl (sampleItems_collected (by decide +kernel))
    (sampleItems_collected (by decide +kernel))
  constructor
  · decide +kernel
  · constructor
    · decide +kernel
    · exact And.intro h.left h.right.left

end Externalize
end GraphHelm
