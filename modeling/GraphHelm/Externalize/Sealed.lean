import GraphHelm.Externalize.Registered

/-!
# The topology knows no content

A topology is built from what is left of a graph when its content is left out, and
from the slots less their digests. Two graphs that differ in their content alone are
therefore persisted alike (`build_topology` of `core/governor/src/externalize.rs`).
-/

namespace GraphHelm
namespace Externalize

open Positions
open ControlBuilder

variable {env : Surroundings}

/-!
## Slots without their digests
-/

def ContentSlot.blind (slot : ContentSlot) : ContentSlot :=
  { slot with contentSha256 := "" }

theorem slotId_of_blind {s t : ContentSlot} (h : s.blind = t.blind) : s.slotId = t.slotId := by
  have hid : s.blind.slotId = t.blind.slotId := congrArg ContentSlot.slotId h
  exact hid

variable {B : Type} {change : Json -> Json} {key nodeId : String} {ownerKind : ContentOwnerKind}

section Slots

variable {slots others : List ContentSlot}

theorem findSlot_bind_eq (h : slots.map ContentSlot.blind = others.map ContentSlot.blind)
    (position : SlotPosition) (use : ContentSlot -> Except GovernorError B)
    (huse : forall s t : ContentSlot, s.blind = t.blind -> use s = use t) :
    (findSlot slots position >>= use) = (findSlot others position >>= use) := by
  have hfilter : (slots.filter fun slot => decide (slot.position = position)).map
      ContentSlot.blind =
      (others.filter fun slot => decide (slot.position = position)).map ContentSlot.blind := by
    have hslots := congrArg
      (List.filter fun slot : ContentSlot => decide (slot.position = position)) h
    rw [List.filter_map, List.filter_map] at hslots
    exact hslots
  unfold findSlot
  generalize slots.filter (fun slot => decide (slot.position = position)) = found at hfilter
  generalize others.filter (fun slot => decide (slot.position = position)) = found' at hfilter
  rcases found with _ | ⟨s, _ | ⟨s', more⟩⟩ <;> rcases found' with _ | ⟨t, _ | ⟨t', more'⟩⟩ <;>
    simp only [List.map_cons, List.map_nil, List.cons.injEq, reduceCtorEq, and_false] at hfilter
  · rfl
  · exact huse s t hfilter.left
  · rfl

theorem slot_of_blind {s t : ContentSlot} (h : s.blind = t.blind) (key : String)
    (builder : ControlBuilder) : builder.slot key s = builder.slot key t := by
  unfold ControlBuilder.slot
  rw [slotId_of_blind h]

variable (h : slots.map ContentSlot.blind = others.map ContentSlot.blind)

include h

theorem slotEntries_blind : slotEntries slots = slotEntries others := by
  funext nodeId fieldKind ordinal countKey slotKey paths builder
  unfold slotEntries
  congr 1
  funext builder
  congr 1
  funext builder index
  cases ordinal index with
  | error e => rfl
  | ok ordinal =>
      exact findSlot_bind_eq h _ _ fun s t hst => slot_of_blind hst _ _

theorem contextMember_blind : contextMember env slots = contextMember env others := by
  funext nodeId key value builder
  unfold contextMember buildContextIncludes contextInclude
  rw [slotEntries_blind h]

theorem permissionEntry_blind : permissionEntry slots = permissionEntry others := by
  funext nodeId index value builder
  unfold permissionEntry permissionMember buildPermissionScope permissionScopeMember
  rw [slotEntries_blind h]

theorem isolationMember_blind : isolationMember slots = isolationMember others := by
  funext nodeId key value builder
  unfold isolationMember filesystemMember
  rw [slotEntries_blind h]

theorem completionItem_blind : completionItem env slots = completionItem env others := by
  funext nodeId group base index item builder
  unfold completionItem
  split
  · rfl
  · split
    · rfl
    · rfl
    · cases ordinalOf (base + index) with
      | error e => rfl
      | ok ordinal =>
          exact findSlot_bind_eq h _ _ fun s t hst => slot_of_blind hst _ _
    · rfl
    · rfl
  · rfl

theorem policyText_blind : policyText slots = policyText others := by
  funext graphId ordinal offset key builder
  unfold policyText
  cases policyTextOrdinal ordinal offset with
  | error e => rfl
  | ok position =>
      exact findSlot_bind_eq h _ _ fun s t hst => slot_of_blind hst _ _

theorem decisionPrompt_blind : decisionPrompt slots = decisionPrompt others := by
  funext nodeId builder
  exact findSlot_bind_eq h _ _ fun s t hst => slot_of_blind hst _ _

theorem buildNodeControls_blind : buildNodeControls env slots = buildNodeControls env others := by
  funext nodeId node
  unfold buildNodeControls buildContextControl buildPermissionsControl buildIsolationControl
    buildNodeCompletion completionMember completionGroup buildNodeKindControl
  rw [contextMember_blind h, permissionEntry_blind h, isolationMember_blind h,
    completionItem_blind h, decisionPrompt_blind h]

theorem ownedBy_blind (nodeId : String) :
    (slots.filter (ContentSlot.ownedBy nodeId)).map ContentSlot.slotId =
      (others.filter (ContentSlot.ownedBy nodeId)).map ContentSlot.slotId := by
  have hfilter := congrArg (fun list => (List.filter (ContentSlot.ownedBy nodeId) list).map
    ContentSlot.slotId) h
  simp only [List.filter_map, List.map_map] at hfilter
  exact hfilter

theorem buildNode_blind : buildNode env slots = buildNode env others := by
  funext nodeId node
  unfold buildNode
  rw [buildNodeControls_blind h, ownedBy_blind h]

theorem edgeSlot_bind_blind (edgeId : String) (ordinal : Nat) (text : Option Json)
    (use : Option ContentSlot -> Except GovernorError B)
    (huse : forall s t : Option ContentSlot, s.map ContentSlot.blind = t.map ContentSlot.blind ->
      use s = use t) :
    (edgeSlot slots edgeId ordinal text >>= use) = (edgeSlot others edgeId ordinal text >>= use) := by
  cases text with
  | none => rfl
  | some value =>
      have hfind := findSlot_bind_eq h (edgePosition edgeId ordinal) (fun slot => use (some slot))
        fun s t hst => huse (some s) (some t) (congrArg some hst)
      have hmap : forall list : List ContentSlot,
          (edgeSlot list edgeId ordinal (some value) >>= use) =
            findSlot list (edgePosition edgeId ordinal) >>= fun slot => use (some slot) := by
        intro list
        show ((findSlot list (edgePosition edgeId ordinal)).map some >>= use) = _
        cases findSlot list (edgePosition edgeId ordinal) <;> rfl
      rw [hmap, hmap]
      exact hfind

omit h in
theorem insertSlotIdentifier_of_blind {s t : Option ContentSlot}
    (hst : s.map ContentSlot.blind = t.map ContentSlot.blind) (key : String) :
    insertSlotIdentifier key s = insertSlotIdentifier key t := by
  funext identifiers
  cases s with
  | none =>
      cases t with
      | none => rfl
      | some t => cases hst
  | some s =>
      cases t with
      | none => cases hst
      | some t =>
          have hblind : s.blind = t.blind := by
            simpa using hst
          unfold insertSlotIdentifier
          simp only [slotId_of_blind hblind]

omit h in
theorem buildEdgeCondition_of_blind {edge : GraphEdge} {s t s' t' : Option ContentSlot}
    (hst : s.map ContentSlot.blind = t.map ContentSlot.blind)
    (hst' : s'.map ContentSlot.blind = t'.map ContentSlot.blind) :
    buildEdgeCondition env edge s s' = buildEdgeCondition env edge t t' := by
  have hsome : s.isSome = t.isSome := by
    simpa using congrArg Option.isSome hst
  have hsome' : s'.isSome = t'.isSome := by
    simpa using congrArg Option.isSome hst'
  unfold buildEdgeCondition
  rw [insertSlotIdentifier_of_blind hst, insertSlotIdentifier_of_blind hst', hsome, hsome']

theorem buildEdge_blind : buildEdge env slots = buildEdge env others := by
  funext edge
  unfold buildEdge
  congr 1
  funext id
  congr 1
  funext bindings
  apply Eq.trans
  · apply edgeSlot_bind_blind h
    intro s t hst
    congr 1
    funext s'
    rw [buildEdgeCondition_of_blind hst rfl]
  · congr 1
    funext t
    apply edgeSlot_bind_blind h
    intro s' t' hst'
    rw [buildEdgeCondition_of_blind rfl hst']

theorem buildPolicyControl_blind :
    buildPolicyControl env slots = buildPolicyControl env others := by
  funext graphId ordinal value
  unfold buildPolicyControl inlineConstraintMember
  rw [policyText_blind h]

theorem buildTopology_blind (graph : ExecutionGraph) :
    buildTopology env graph slots = buildTopology env graph others := by
  unfold buildTopology
  rw [buildNode_blind h, buildEdge_blind h, buildPolicyControl_blind h]

end Slots

/-!
## Changed content
-/

/-- A change of content that leaves every path the text, or the other value, it was. -/
def KeepsPaths (f : SlotPosition -> Json -> Json) : Prop :=
  forall i value, i.fieldKind.isPath = true -> isNonemptyText (f i value) = isNonemptyText value

section Loops

variable {f : SlotPosition -> Json -> Json} {builder : ControlBuilder}

theorem forEachMember_alter
    {step : String -> Json -> ControlBuilder -> Except GovernorError ControlBuilder}
    (hstep : forall value builder, step key (change value) builder = step key value builder)
    (members : List (String × Json)) :
    builder.forEachMember (alter key change members) step = builder.forEachMember members step := by
  unfold forEachMember
  induction members generalizing builder with
  | nil => rfl
  | cons member rest ih =>
      rw [alter]
      split
      · next heq =>
          rw [List.foldlM_cons, List.foldlM_cons, heq, hstep]
      · rw [List.foldlM_cons, List.foldlM_cons]
        simp only [ih]

theorem forEachMember_keyed {p : String -> ContentPositions}
    {step : String -> Json -> ControlBuilder -> Except GovernorError ControlBuilder}
    (hstep : forall key value builder, step key ((p key).put f value) builder =
      step key value builder) (members : List (String × Json)) :
    builder.forEachMember ((keyed p).put f members) step =
      builder.forEachMember members step := by
  show List.foldlM _ builder (List.map _ members) = List.foldlM _ builder members
  rw [List.foldlM_map]
  congr 1
  funext builder member
  exact hstep member.1 member.2 builder

theorem forEachIndexed_listed {p : Nat -> ContentPositions}
    {step : Nat -> Json -> ControlBuilder -> Except GovernorError ControlBuilder}
    (hstep : forall index value builder, step index ((p index).put f value) builder =
      step index value builder) (items : List Json) :
    builder.forEachIndexed ((listed p).put f items) step = builder.forEachIndexed items step := by
  unfold forEachIndexed
  show List.foldlM _ builder (putFrom p f 0 items).zipIdx = _
  generalize 0 = start
  induction items generalizing start builder with
  | nil => rfl
  | cons item rest ih =>
      rw [putFrom, List.zipIdx_cons, List.zipIdx_cons, List.foldlM_cons, List.foldlM_cons, hstep]
      simp only [ih]

theorem nonemptyObject_bind_put {p : Positions (List (String × Json)) SlotPosition Json}
    {use use' : List (String × Json) -> Except GovernorError B}
    (hlength : forall members, (p.put f members).length = members.length)
    (huse : forall members, use (p.put f members) = use' members) (value : Json) :
    (nonemptyObject ((object p).put f value) >>= use) = (nonemptyObject value >>= use') := by
  cases value with
  | object members =>
      have hover := huse members
      have hsame := hlength members
      show (nonemptyObject (.object (p.put f members)) >>= use) = _
      generalize p.put f members = changed at hover hsame
      cases members with
      | nil =>
          cases changed with
          | nil => rfl
          | cons _ _ => cases hsame
      | cons _ _ =>
          cases changed with
          | nil => cases hsame
          | cons _ _ => exact hover
  | _ => rfl

theorem arrayOf_bind_put {p : Nat -> ContentPositions}
    {use use' : List Json -> Except GovernorError B}
    (huse : forall items, use ((listed p).put f items) = use' items) (value : Json) :
    (arrayOf ((array (listed p)).put f value) >>= use) = (arrayOf value >>= use') := by
  cases value with
  | array items => exact huse items
  | _ => rfl

theorem length_listed (p : Nat -> ContentPositions) (items : List Json) :
    ((listed p).put f items).length = items.length :=
  overFrom_length p f 0 items

theorem all_listed_here {p : Nat -> SlotPosition} {accepted : Json -> Bool}
    (haccepted : forall index value, accepted (f (p index) value) = accepted value)
    (items : List Json) :
    ((listed fun index => here (p index)).put f items).all accepted = items.all accepted := by
  show (putFrom (fun index => here (p index)) f 0 items).all accepted = _
  generalize 0 = start
  induction items generalizing start with
  | nil => rfl
  | cons item rest ih =>
      rw [putFrom, List.all_cons, List.all_cons, ih, here_put, haccepted]

end Loops

section Builders

variable {f : SlotPosition -> Json -> Json} {slots : List ContentSlot}

theorem registeredPathArray_bind_put (hf : KeepsPaths f) {fieldKind : ContentFieldKind}
    {place : Nat -> Nat} (hkind : fieldKind.isPath = true)
    {use : List Json -> Except GovernorError B}
    (huse : forall paths others : List Json, paths.length = others.length -> use paths = use others)
    (value : Json) :
    (registeredPathArray ((pathContent nodeId fieldKind place).put f value) >>= use) =
      (registeredPathArray value >>= use) := by
  unfold registeredPathArray
  rw [bind_assoc, bind_assoc]
  apply arrayOf_bind_put
  intro items
  have hlength := length_listed (f := f)
    (fun index => here { ownerKind := .node, ownerId := nodeId, fieldKind, ordinal := place index })
    items
  have hall := all_listed_here (f := f)
    (p := fun index =>
      { ownerKind := .node, ownerId := nodeId, fieldKind, ordinal := place index })
    (fun index path => hf _ path hkind) items
  have hempty : (List.isEmpty ((listed fun index => here
      { ownerKind := .node, ownerId := nodeId, fieldKind, ordinal := place index }).put f items)) =
      items.isEmpty := by
    cases items <;> rfl
  rw [hlength, hall, hempty]
  cases check (!items.isEmpty) GovernorError.invalidAuthoring with
  | error e => rfl
  | ok _ =>
      cases check (decide (items.length <= 64)) GovernorError.limitExceeded with
      | error e => rfl
      | ok _ =>
          cases check (items.all isNonemptyText) GovernorError.invalidAuthoring with
          | error e => rfl
          | ok _ => exact huse _ _ hlength

theorem slotEntries_of_length {fieldKind : ContentFieldKind}
    {ordinal : Nat -> Except GovernorError Nat} {countKey : String} {slotKey : Nat -> String}
    {paths others : List Json} (h : paths.length = others.length) (builder : ControlBuilder) :
    slotEntries slots nodeId fieldKind ordinal countKey slotKey paths builder =
      slotEntries slots nodeId fieldKind ordinal countKey slotKey others builder := by
  unfold slotEntries
  rw [h]

variable {index base place ordinal : Nat} {members : List (String × Json)}
    {group graphId : String}

theorem contextInclude_put (hf : KeepsPaths f) (value : Json) (builder : ControlBuilder) :
    contextInclude env slots nodeId index ((includeContent nodeId index).put f value) builder =
      contextInclude env slots nodeId index value builder := by
  unfold contextInclude
  apply nonemptyObject_bind_put
  · intro members
    show (List.length ((scopePaths nodeId index (isSourceScope members)).put f members)) = _
    cases isSourceScope members with
    | true => exact length_alter _ _ _
    | false => rfl
  · intro members
    rw [shaped_put]
    cases isSourceScope members with
    | false => rfl
    | true =>
        rw [scopePaths, if_pos rfl, field_put, lookup_alter_of_ne (by decide)]
        apply forEachMember_alter
        intro paths builder
        cases check ((members.lookup "type").bind Json.asString == some "source_scope")
            GovernorError.invalidAuthoring with
        | error e => rfl
        | ok _ =>
            exact registeredPathArray_bind_put hf rfl
              (fun _ _ hlength => slotEntries_of_length hlength builder) paths

theorem contextMember_put (hf : KeepsPaths f) (value : Json) (builder : ControlBuilder) :
    contextMember env slots nodeId "include" ((array (listed (includeContent nodeId))).put f value)
      builder = contextMember env slots nodeId "include" value builder := by
  show buildContextIncludes env slots nodeId _ builder =
    buildContextIncludes env slots nodeId value builder
  unfold buildContextIncludes
  apply arrayOf_bind_put
  intro items
  have hitems : forall builder : ControlBuilder,
      builder.forEachIndexed ((listed (includeContent nodeId)).put f items)
        (contextInclude env slots nodeId) =
      builder.forEachIndexed items (contextInclude env slots nodeId) := fun builder =>
    forEachIndexed_listed (fun index item builder => contextInclude_put hf item builder) items
  simp only [length_listed, hitems]

theorem buildContextControl_put (hf : KeepsPaths f) (value : Json) :
    buildContextControl env slots nodeId ((contextContent nodeId).put f value) =
      buildContextControl env slots nodeId value := by
  unfold buildContextControl
  apply nonemptyObject_bind_put
  · intro members
    exact length_alter _ _ _
  · intro members
    rw [field_put, forEachMember_alter (contextMember_put hf)]

theorem permissionEntry_object (h : members ≠ []) (builder : ControlBuilder) :
    permissionEntry slots nodeId index (.object members) builder =
      builder.forEachMember members (permissionMember slots nodeId index) := by
  cases members with
  | nil => exact absurd rfl h
  | cons member rest => rfl

theorem alter_ne_nil (h : members ≠ []) : alter key change members ≠ [] := by
  intro hnil
  apply h
  apply List.length_eq_zero_iff.mp
  rw [← length_alter key change members, hnil]
  rfl

theorem buildPermissionScope_put (hf : KeepsPaths f) (value : Json) (builder : ControlBuilder) :
    buildPermissionScope slots nodeId index
      ((object (field "paths"
        (pathContent nodeId .permissionPath fun path => index * 64 + path))).put f value) builder =
      buildPermissionScope slots nodeId index value builder := by
  unfold buildPermissionScope
  apply nonemptyObject_bind_put
  · intro members
    exact length_alter _ _ _
  · intro members
    apply forEachMember_alter
    intro paths builder
    exact registeredPathArray_bind_put hf rfl
      (fun _ _ hlength => slotEntries_of_length hlength builder) paths

theorem permissionEntry_put (hf : KeepsPaths f) (value : Json) (builder : ControlBuilder) :
    permissionEntry slots nodeId index ((permissionContent nodeId index).put f value) builder =
      permissionEntry slots nodeId index value builder := by
  cases value with
  | object members =>
      cases hempty : members with
      | nil => rfl
      | cons member rest =>
          have hne : members ≠ [] := by
            rw [hempty]
            exact List.cons_ne_nil _ _
          rw [← hempty, permissionEntry_object hne, permissionContent, object_put, field_put,
            permissionEntry_object (alter_ne_nil hne)]
          exact forEachMember_alter
            (fun scope builder => buildPermissionScope_put hf scope builder) members
  | _ => rfl

theorem buildPermissionsControl_put (hf : KeepsPaths f) (value : Json) :
    buildPermissionsControl env slots nodeId ((permissionsContent nodeId).put f value) =
      buildPermissionsControl env slots nodeId value := by
  unfold buildPermissionsControl
  apply arrayOf_bind_put
  intro items
  rw [length_listed]
  have hentries : forall builder : ControlBuilder,
      builder.forEachIndexed ((listed (permissionContent nodeId)).put f items)
        (permissionEntry slots nodeId) =
      builder.forEachIndexed items (permissionEntry slots nodeId) := fun builder =>
    forEachIndexed_listed (fun index item builder => permissionEntry_put hf item builder) items
  simp only [hentries]

theorem isolationMember_put (hf : KeepsPaths f) (value : Json) (builder : ControlBuilder) :
    isolationMember slots nodeId "filesystem"
      ((object (field "writablePaths" (pathContent nodeId .isolationPath id))).put f value)
      builder = isolationMember slots nodeId "filesystem" value builder := by
  show isolationCompartment "filesystemPresent" "filesystemMode" _ (filesystemMember slots nodeId)
    builder = isolationCompartment "filesystemPresent" "filesystemMode" value
      (filesystemMember slots nodeId) builder
  unfold isolationCompartment
  apply nonemptyObject_bind_put
  · intro members
    exact length_alter _ _ _
  · intro members
    rw [field_put]
    congr 1
    funext builder
    apply forEachMember_alter
    intro paths builder
    exact registeredPathArray_bind_put hf rfl
      (fun _ _ hlength => slotEntries_of_length hlength builder) paths

theorem buildIsolationControl_put (hf : KeepsPaths f) (value : Json) :
    buildIsolationControl env slots nodeId ((isolationContent nodeId).put f value) =
      buildIsolationControl env slots nodeId value := by
  unfold buildIsolationControl
  apply nonemptyObject_bind_put
  · intro members
    exact length_alter _ _ _
  · intro members
    rw [field_put, forEachMember_alter (isolationMember_put hf)]

/-!
The other builders do not look at a content at all.
-/

theorem completionItem_of_length (h : members.length ≠ 1) (builder : ControlBuilder) :
    completionItem env slots nodeId group base index (.object members) builder = refused := by
  rcases members with _ | ⟨_, _ | ⟨_, _⟩⟩
  · rfl
  · exact absurd rfl h
  · rfl

theorem alter_singleton {other : String} {value : Json} :
    alter key change [(other, value)] = [(other, if other = key then change value else value)] := by
  rw [alter]
  split
  · rfl
  · rfl

theorem completionItem_expression (value : Json) (builder : ControlBuilder) :
    completionItem env slots nodeId group base index
      (.object [(key, if key = "expression" then change value else value)]) builder =
      completionItem env slots nodeId group base index (.object [(key, value)]) builder := by
  split
  · next heq =>
      rw [heq]
      rfl
  · rfl

theorem completionItem_put (item : Json) (builder : ControlBuilder) :
    completionItem env slots nodeId group base index
      ((object (field "expression" (here
        { ownerKind, ownerId := nodeId, fieldKind := .completionContract, ordinal := place
          }))).put f item) builder =
      completionItem env slots nodeId group base index item builder := by
  cases item with
  | object members =>
      rw [object_put, field_put]
      by_cases hone : members.length = 1
      · rcases List.length_eq_one_iff.mp hone with ⟨⟨key, value⟩, hmembers⟩
        rw [hmembers, alter_singleton, completionItem_expression]
      · rw [completionItem_of_length hone, completionItem_of_length]
        rw [length_alter]
        exact hone
  | _ => rfl

theorem completionGroup_put (value : Json) (builder : ControlBuilder) :
    completionGroup env slots nodeId group base
      ((expressionContent .node nodeId place).put f value) builder =
      completionGroup env slots nodeId group base value builder := by
  unfold completionGroup
  apply arrayOf_bind_put
  intro items
  rw [length_listed]
  have hitems : forall builder : ControlBuilder,
      builder.forEachIndexed ((listed fun index => object (field "expression" (here
        { ownerKind := .node, ownerId := nodeId, fieldKind := .completionContract,
          ordinal := place + index }))).put f items)
        (completionItem env slots nodeId group base) =
      builder.forEachIndexed items (completionItem env slots nodeId group base) := fun builder =>
    forEachIndexed_listed (fun index item builder => completionItem_put item builder) items
  simp only [hitems]

theorem completionGroups_length {ownerId : String} (members : List (String × Json)) :
    ((completionGroups ownerKind ownerId base).put f members).length = members.length := by
  show (alter "forbids" _ (alter "requires" _ members)).length = _
  rw [length_alter, length_alter]

theorem completionMember_put {requiresLen : Nat} (hkey : key = "requires" ∨ key = "forbids")
    (value : Json) (builder : ControlBuilder) :
    completionMember env slots nodeId requiresLen key
      ((expressionContent .node nodeId place).put f value) builder =
      completionMember env slots nodeId requiresLen key value builder := by
  rcases hkey with hkey | hkey
  · rw [hkey]
    simp only [completionMember, completionGroup_put]
  · rw [hkey]
    simp only [completionMember, completionGroup_put]

theorem buildNodeCompletion_put (value : Json) :
    buildNodeCompletion env slots nodeId ((completionContent .node nodeId).put f value) =
      buildNodeCompletion env slots nodeId value := by
  unfold buildNodeCompletion
  apply nonemptyObject_bind_put
  · intro members
    rw [shaped_put]
    exact completionGroups_length members
  · intro members
    rw [shaped_put, requirementCount_put, completionGroups, both_put, field_put, field_put,
      forEachMember_alter (completionMember_put (Or.inr rfl)),
      forEachMember_alter (completionMember_put (Or.inl rfl))]

theorem textOf_object_put {p : Positions (List (String × Json)) SlotPosition Json}
    (value : Json) : textOf ((object p).put f value) = textOf value := by
  cases value <;> rfl

theorem referenceArray_put {ownerId name : String} (value : Json) (builder : ControlBuilder) :
    builder.referenceArray env name ((expressionContent .graph ownerId place).put f value) =
      builder.referenceArray env name value := by
  unfold ControlBuilder.referenceArray ControlBuilder.stringArray
  apply arrayOf_bind_put
  intro items
  rw [length_listed]
  have hitems : forall builder : ControlBuilder,
      builder.forEachIndexed ((listed fun index => object (field "expression" (here
        { ownerKind := .graph, ownerId, fieldKind := .completionContract,
          ordinal := place + index }))).put f items)
        (fun index item builder => do
          let text <- textOf item
          builder.insertIdentifier (<- indexedKey name index) (<- encodeSafeReference env text)) =
      builder.forEachIndexed items (fun index item builder => do
          let text <- textOf item
          builder.insertIdentifier (<- indexedKey name index)
            (<- encodeSafeReference env text)) := fun builder =>
    forEachIndexed_listed (fun index item builder => by rw [textOf_object_put]) items
  congr 1
  funext _
  congr 1
  funext builder
  exact hitems builder

theorem graphCompletionMember_requires (value : Json) (builder : ControlBuilder) :
    graphCompletionMember env "requires"
      ((expressionContent .graph graphId place).put f value) builder =
      graphCompletionMember env "requires" value builder := by
  simp only [graphCompletionMember, referenceArray_put]

theorem graphCompletionMember_forbids (value : Json) (builder : ControlBuilder) :
    graphCompletionMember env "forbids" (change value) builder =
      graphCompletionMember env "forbids" value builder := rfl

theorem buildGraphCompletion_put (value : Json) (terminals : Option (List String)) :
    buildGraphCompletion env ((completionContent .graph graphId).put f value) terminals =
      buildGraphCompletion env value terminals := by
  unfold buildGraphCompletion
  apply nonemptyObject_bind_put
  · intro members
    rw [shaped_put]
    exact completionGroups_length members
  · intro members
    have hmembers : forall builder : ControlBuilder,
        builder.forEachMember
          ((completionGroups .graph graphId (requirementCount members)).put f members)
          (graphCompletionMember env) =
        builder.forEachMember members (graphCompletionMember env) := by
      intro builder
      rw [completionGroups, both_put, field_put, field_put,
        forEachMember_alter graphCompletionMember_forbids,
        forEachMember_alter graphCompletionMember_requires]
    rw [shaped_put]
    simp only [hmembers]

theorem inlineConstraintMember_put (key : String) (value : Json) (builder : ControlBuilder) :
    inlineConstraintMember slots graphId ordinal key
      ((constraintContent graphId ordinal key).put f value) builder =
      inlineConstraintMember slots graphId ordinal key value builder := by
  unfold constraintContent
  split <;> rfl

theorem isKey_keyed_put {p : String -> ContentPositions} (members : List (String × Json))
    (key : String) : isKey ((keyed p).put f members) key = isKey members key := by
  unfold isKey
  rw [lookup_keyed_put, Option.isSome_map]

theorem buildPolicyControl_of_length (h : members.length ≠ 1) :
    buildPolicyControl env slots graphId ordinal (.object members) = refused := by
  unfold buildPolicyControl
  split
  · next heq => cases heq
  · next heq =>
      cases heq
      exact absurd rfl h
  · next heq =>
      cases heq
      exact absurd rfl h
  · rfl

theorem buildPolicyControl_inline (constraint : Json) :
    buildPolicyControl env slots graphId ordinal (.object [("inlineConstraint",
      (object (keyed (constraintContent graphId ordinal))).put f constraint)]) =
      buildPolicyControl env slots graphId ordinal
        (.object [("inlineConstraint", constraint)]) := by
  simp only [buildPolicyControl]
  congr 1
  funext builder
  apply nonemptyObject_bind_put
  · intro members
    exact length_keyed_put _ _ _
  · intro members
    rw [isKey_keyed_put, isKey_keyed_put, length_keyed_put,
      forEachMember_keyed inlineConstraintMember_put]

theorem buildPolicyControl_put (value : Json) :
    buildPolicyControl env slots graphId ordinal ((policyContent graphId ordinal).put f value) =
      buildPolicyControl env slots graphId ordinal value := by
  cases value with
  | object members =>
      rw [policyContent, object_put, field_put]
      by_cases hone : members.length = 1
      · rcases List.length_eq_one_iff.mp hone with ⟨⟨key, constraint⟩, hmembers⟩
        rw [hmembers, alter_singleton]
        split
        · next heq =>
            rw [heq]
            exact buildPolicyControl_inline constraint
        · rfl
      · rw [buildPolicyControl_of_length hone, buildPolicyControl_of_length]
        rw [length_alter]
        exact hone
  | _ => rfl

theorem ephemeralMember_put (key : String) (value : Json)
    (built : ControlBuilder × List PersistedControl) :
    ephemeralMember env key ((ephemeralContent nodeId key).put f value) built =
      ephemeralMember env key value built := by
  unfold ephemeralContent
  split <;> rfl

theorem ephemeralMembers_put (members : List (String × Json))
    (built : ControlBuilder × List PersistedControl) :
    ((keyed (ephemeralContent nodeId)).put f members).foldlM
      (fun built member => ephemeralMember env member.1 member.2 built) built =
      members.foldlM (fun built member => ephemeralMember env member.1 member.2 built) built := by
  show List.foldlM _ built (List.map _ members) = _
  rw [List.foldlM_map]
  congr 1
  funext built member
  exact ephemeralMember_put member.1 member.2 built

theorem buildAgentControls_put (value : Json) :
    buildAgentControls env ((agentContent nodeId).put f value) =
      buildAgentControls env value := by
  cases value with
  | object members =>
      rw [agentContent, object_put, field_put]
      unfold buildAgentControls objectOf
      simp only [Json.asObject, orRefuse, Except.ok_bind, lookup_alter_of_ne (show "ref" ≠ "ephemeral" by decide),
        length_alter, lookup_alter]
      cases members.lookup "ref" with
      | some reference => rfl
      | none =>
          cases members.lookup "ephemeral" with
          | none => rfl
          | some ephemeral =>
              cases ephemeral with
              | object inner =>
                  simp only [Option.map_some, object_put, Option.bind_some, Json.asObject,
                    Except.ok_bind, ephemeralMembers_put]
              | _ => rfl
  | _ => rfl

end Builders

/-!
## Nodes, edges and graphs
-/

section Graphs

variable {f : SlotPosition -> Json -> Json} {slots : List ContentSlot}

variable {node : GraphNode}

theorem property_masked (key : String) :
    (maskedNode f (nodeId, node)).2.property key =
      (node.property key).map ((nodeContent nodeId key).put f) :=
  lookup_keyed_put (nodeContent nodeId) f node.properties key

/-- The properties of a node that hold content. -/
def contentKeys : List String :=
  ["description", "completion", "agent", "prompt", "context", "permissions", "isolation"]

theorem nodeContent_of_not_mem (hkey : key ∉ contentKeys) :
    nodeContent nodeId key = nowhere := by
  unfold nodeContent
  split
  · exact absurd (by decide) hkey
  · exact absurd (by decide) hkey
  · exact absurd (by decide) hkey
  · exact absurd (by decide) hkey
  · exact absurd (by decide) hkey
  · exact absurd (by decide) hkey
  · exact absurd (by decide) hkey
  · rfl

theorem property_masked_of_not_mem (hkey : key ∉ contentKeys) :
    (maskedNode f (nodeId, node)).2.property key = node.property key := by
  rw [property_masked, nodeContent_of_not_mem hkey]
  cases node.property key <;> rfl

theorem propertyControls_masked (key : String)
    {build : Json -> Except GovernorError (List PersistedControl)}
    (hbuild : forall value, build ((nodeContent nodeId key).put f value) = build value) :
    propertyControls (maskedNode f (nodeId, node)).2 key build =
      propertyControls node key build := by
  unfold propertyControls
  rw [property_masked]
  cases node.property key with
  | none => rfl
  | some value => exact hbuild value

theorem propertyControl_masked (key : String)
    {build : Json -> Except GovernorError PersistedControl}
    (hbuild : forall value, build ((nodeContent nodeId key).put f value) = build value) :
    propertyControl (maskedNode f (nodeId, node)).2 key build =
      propertyControl node key build :=
  propertyControls_masked key fun value => by rw [hbuild]

theorem propertyControl_of_not_mem {build : Json -> Except GovernorError PersistedControl}
    (hkey : key ∉ contentKeys) :
    propertyControl (maskedNode f (nodeId, node)).2 key build =
      propertyControl node key build :=
  propertyControl_masked key fun value => by rw [nodeContent_of_not_mem hkey, nowhere_put]

theorem whenPresent_masked {step : Json -> ControlBuilder -> Except GovernorError ControlBuilder}
    (hkey : key ∉ contentKeys) :
    whenPresent (maskedNode f (nodeId, node)).2 key step = whenPresent node key step := by
  funext builder
  unfold whenPresent
  rw [property_masked_of_not_mem hkey]

theorem whenPresent_prompt {step : ControlBuilder -> Except GovernorError ControlBuilder} :
    whenPresent (maskedNode f (nodeId, node)).2 "prompt" (fun _ => step) =
      whenPresent node "prompt" fun _ => step := by
  funext builder
  unfold whenPresent
  rw [property_masked]
  cases node.property "prompt" <;> rfl

theorem buildNodeKindControl_masked :
    buildNodeKindControl env slots nodeId (maskedNode f (nodeId, node)).2 =
      buildNodeKindControl env slots nodeId node := by
  unfold buildNodeKindControl
  rw [show (maskedNode f (nodeId, node)).2.nodeType = node.nodeType from rfl]
  simp (disch := decide) only [whenPresent_masked, whenPresent_prompt]

theorem validateNodeKindPropertyOwnership_masked :
    validateNodeKindPropertyOwnership (maskedNode f (nodeId, node)).2 =
      validateNodeKindPropertyOwnership node := by
  unfold validateNodeKindPropertyOwnership
  rw [show (maskedNode f (nodeId, node)).2.nodeType = node.nodeType from rfl,
    show (maskedNode f (nodeId, node)).2.properties.map Prod.fst = node.properties.map Prod.fst
      from keys_keyed_put _ _ _]

theorem buildNodeControls_masked (hf : KeepsPaths f) :
    buildNodeControls env slots nodeId (maskedNode f (nodeId, node)).2 =
      buildNodeControls env slots nodeId node := by
  unfold buildNodeControls buildCommonControl buildConfigurationControl
  rw [validateNodeKindPropertyOwnership_masked, buildNodeKindControl_masked,
    propertyControls_masked "agent" buildAgentControls_put,
    propertyControl_masked "context" (buildContextControl_put hf),
    propertyControl_masked "permissions" (buildPermissionsControl_put hf),
    propertyControl_masked "isolation" (buildIsolationControl_put hf),
    propertyControl_masked "completion" buildNodeCompletion_put]
  simp (disch := decide) only [propertyControl_of_not_mem, whenPresent_masked]

theorem completion_get {ownerId : String} (hrequires : key ≠ "requires")
    (hforbids : key ≠ "forbids") (completion : Json) :
    ((completionContent ownerKind ownerId).put f completion).get key = completion.get key := by
  cases completion with
  | object members =>
      rw [completionContent, object_put, shaped_put]
      unfold Json.get
      simp only [Json.asObject, Option.bind_some]
      rw [completionGroups, both_put, field_put, field_put, lookup_alter_of_ne hforbids,
        lookup_alter_of_ne hrequires]
  | _ => rfl

theorem customs_masked :
    (maskedNode f (nodeId, node)).2.customs env = node.customs env := by
  have hcustoms : ((maskedNode f (nodeId, node)).2.property "completion").bind
      (fun completion => completion.get "customs") =
      (node.property "completion").bind fun completion => completion.get "customs" := by
    rw [property_masked]
    cases node.property "completion" with
    | none => rfl
    | some completion => exact completion_get (by decide) (by decide) completion
  unfold GraphNode.customs
  rw [hcustoms]

theorem buildNode_masked (hf : KeepsPaths f) :
    buildNode env slots nodeId (maskedNode f (nodeId, node)).2 =
      buildNode env slots nodeId node := by
  unfold buildNode declaredTimeoutSeconds
  rw [buildNodeControls_masked hf, customs_masked, property_masked_of_not_mem (by decide)]
  rfl

theorem buildEdge_masked (edge : GraphEdge) :
    buildEdge env slots (maskedEdge f edge) = buildEdge env slots edge := by
  rcases edge with ⟨_, _, _, _, _, _ | _, _ | _, _, _, _⟩ <;> rfl

theorem derivedTerminals_masked (graph : ExecutionGraph) :
    derivedTerminals (masked f graph) = derivedTerminals graph := by
  have hget : (masked f graph).spec.completion.get "terminalNodes" =
      graph.spec.completion.get "terminalNodes" :=
    completion_get (by decide) (by decide) graph.spec.completion
  have hnodes : (masked f graph).spec.nodes.map Prod.fst = graph.spec.nodes.map Prod.fst := by
    show (graph.spec.nodes.map (maskedNode f)).map Prod.fst = _
    rw [List.map_map]
    rfl
  have hedges : forall kept : GraphEdge -> Bool, (forall edge, kept (maskedEdge f edge) = kept edge) ->
      ((masked f graph).spec.edges.filter kept).map GraphEdge.source =
        (graph.spec.edges.filter kept).map GraphEdge.source := by
    intro kept hkept
    show ((graph.spec.edges.map (maskedEdge f)).filter kept).map GraphEdge.source = _
    rw [List.filter_map, List.map_map]
    congr 1
    apply List.filter_congr
    intro edge _
    exact hkept edge
  unfold derivedTerminals
  rw [hget, hnodes]
  cases graph.spec.completion.get "terminalNodes" with
  | some _ => rfl
  | none =>
      dsimp only
      rw [hedges _ fun _ => rfl]

theorem buildTopology_masked (hf : KeepsPaths f) (graph : ExecutionGraph) :
    buildTopology env (masked f graph) slots = buildTopology env graph slots := by
  have hnodes : (masked f graph).spec.nodes.mapM (fun entry => buildNode env slots entry.1 entry.2) =
      graph.spec.nodes.mapM fun entry => buildNode env slots entry.1 entry.2 := by
    show (graph.spec.nodes.map (maskedNode f)).mapM _ = _
    rw [List.mapM_map]
    congr 1
    funext entry
    exact buildNode_masked hf
  have hedges : (masked f graph).spec.edges.mapM (buildEdge env slots) =
      graph.spec.edges.mapM (buildEdge env slots) := by
    show (graph.spec.edges.map (maskedEdge f)).mapM _ = _
    rw [List.mapM_map]
    congr 1
    funext edge
    exact buildEdge_masked edge
  have hpolicies : (masked f graph).spec.policies.zipIdx.mapM (fun entry =>
      buildPolicyControl env slots graph.metadata.id entry.2 entry.1) =
      graph.spec.policies.zipIdx.mapM fun entry =>
        buildPolicyControl env slots graph.metadata.id entry.2 entry.1 := by
    show (putFrom (policyContent graph.metadata.id) f 0 graph.spec.policies).zipIdx.mapM _ = _
    generalize 0 = start
    generalize graph.spec.policies = policies
    induction policies generalizing start with
    | nil => rfl
    | cons policy rest ih =>
        rw [putFrom, List.zipIdx_cons, List.zipIdx_cons, List.mapM_cons, List.mapM_cons, ih,
          buildPolicyControl_put]
  have hcompletion : buildGraphCompletion env (masked f graph).spec.completion
      (derivedTerminals (masked f graph)) =
      buildGraphCompletion env graph.spec.completion (derivedTerminals graph) := by
    rw [derivedTerminals_masked]
    exact buildGraphCompletion_put graph.spec.completion _
  unfold buildTopology
  rw [hnodes, hedges, hcompletion]
  simp only [show (masked f graph).metadata.id = graph.metadata.id from rfl]
  rw [hpolicies]
  rfl

end Graphs

end Externalize
end GraphHelm
