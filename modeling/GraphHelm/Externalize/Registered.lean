import GraphHelm.Externalize.Content

/-!
# What the collector registers

A collection that succeeds registers each authored content at its position, once and
in order, and nothing else (`collect_graph_content` of
`core/governor/src/externalize.rs`).
-/

namespace GraphHelm
namespace Externalize

open Positions

variable {env : Surroundings}

/-!
## Items and entries
-/

structure RegisteredAs (env : Surroundings) (item : PendingContent) (entry : SlotPosition × Json) :
    Prop where
  encoded : canonicalContentBytes env entry.2 = some item.plaintext
  slotted : slotAt env entry.1 (env.rawContentSha256 item.plaintext) = .ok item.slot
  pathText : entry.1.fieldKind.isPath = true -> isNonemptyText entry.2 = true
  ordinalSize : entry.1.ordinal < 2 ^ 32

structure Collected (env : Surroundings) (before after : ContentCollector)
    (entries : List (SlotPosition × Json)) : Prop where
  items : exists added, after.items = before.items ++ added ∧
    List.Forall₂ (RegisteredAs env) added entries
  bytes : after.totalBytes =
    before.totalBytes + (entries.map fun e => (env.jsonText e.2).length).sum
  /-- The batch keeps within its limit, where it did so before. -/
  bounded : before.totalBytes <= maxContentBatchBytes -> after.totalBytes <= maxContentBatchBytes

namespace Collected

variable {a b c : ContentCollector} {first second : List (SlotPosition × Json)}

theorem nothing (a : ContentCollector) : Collected env a a [] where
  items := ⟨[], (List.append_nil _).symm, List.Forall₂.nil⟩
  bytes := rfl
  bounded h := h

theorem append (hab : Collected env a b first) (hbc : Collected env b c second) :
    Collected env a c (first ++ second) := by
  rcases hab.items with ⟨added, hb, hadded⟩
  rcases hbc.items with ⟨more, hc, hmore⟩
  constructor
  · exact ⟨added ++ more, by rw [hc, hb, List.append_assoc], List.rel_append hadded hmore⟩
  · rw [hbc.bytes, hab.bytes, List.map_append, List.sum_append, Nat.add_assoc]
  · intro h
    exact hbc.bounded (hab.bounded h)

end Collected

variable {position : SlotPosition} {value : Json} {members : List (String × Json)}
    {ordinal : Nat} {key graphId nodeId : String} {ownerKind : ContentOwnerKind}

theorem slotAt_position {digest : RawSha256} {slot : ContentSlot}
    (h : slotAt env position digest = .ok slot) :
    slot.position = position ∧ slot.contentSha256 = digest := by
  unfold slotAt at h
  rcases bind_ok h with ⟨_, _, h⟩
  rcases bind_ok h with ⟨_, _, h⟩
  rcases bind_ok h with ⟨_, _, h⟩
  rcases bind_ok h with ⟨_, _, h⟩
  cases h
  exact And.intro rfl rfl

theorem register_collected {a b : ContentCollector}
    (hpath : position.fieldKind.isPath = true -> isNonemptyText value = true)
    (hordinal : position.ordinal < 2 ^ 32) (h : register env position value a = .ok b) :
    Collected env a b [(position, value)] := by
  unfold register at h
  rcases bind_ok h with ⟨_, _, h⟩
  rcases bind_ok h with ⟨_, _, h⟩
  rcases bind_ok h with ⟨_, htotal, h⟩
  rcases bind_ok h with ⟨bytes, hbytes, h⟩
  rcases bind_ok h with ⟨_, _, h⟩
  rcases bind_ok h with ⟨slot, hslot, h⟩
  cases h
  constructor
  · refine ⟨[{ slot, plaintext := bytes }], rfl, List.Forall₂.cons ?_ List.Forall₂.nil⟩
    exact { encoded := orRefuse_eq_ok.mp hbytes, slotted := hslot, pathText := hpath,
            ordinalSize := hordinal }
  · simp
  · intro _
    exact of_decide_eq_true (check_eq_ok.mp htotal)

theorem register_collected_of_not_path {a b : ContentCollector}
    (hkind : position.fieldKind.isPath = false) (hordinal : position.ordinal < 2 ^ 32)
    (h : register env position value a = .ok b) : Collected env a b [(position, value)] :=
  register_collected (fun hpath => absurd hpath (by rw [hkind]; decide)) hordinal h

/-!
## Loops
-/

theorem collectItems_collected {A : Type} {p : Nat -> Positions A SlotPosition Json}
    {step : Nat -> A -> ContentCollector -> Except GovernorError ContentCollector}
    {items : List A} {a b : ContentCollector}
    (hstep : forall index item c d, item ∈ items -> step index item c = .ok d ->
      Collected env c d ((p index).entries item))
    (h : collectItems items step a = .ok b) : Collected env a b ((listed p).entries items) := by
  unfold collectItems at h
  show Collected env a b (entriesFrom p 0 items)
  generalize 0 = start at h
  induction items generalizing start a with
  | nil =>
      cases h
      exact Collected.nothing _
  | cons item rest ih =>
      rw [List.zipIdx_cons, List.foldlM_cons] at h
      rcases bind_ok h with ⟨c, hitem, hrest⟩
      exact (hstep start item a c List.mem_cons_self hitem).append
        (ih (fun index item c d hmem => hstep index item c d (List.mem_cons_of_mem _ hmem))
          _ hrest)

theorem collectMembers_collected {A : Type} {p : String -> Positions A SlotPosition Json}
    {step : String -> A -> ContentCollector -> Except GovernorError ContentCollector}
    {members : List (String × A)} {a b : ContentCollector}
    (hstep : forall key value c d, step key value c = .ok d ->
      Collected env c d ((p key).entries value))
    (h : collectMembers members step a = .ok b) :
    Collected env a b ((keyed p).entries members) := by
  unfold collectMembers at h
  show Collected env a b (members.flatMap fun m => (p m.1).entries m.2)
  induction members generalizing a with
  | nil =>
      cases h
      exact Collected.nothing _
  | cons member rest ih =>
      rw [List.foldlM_cons] at h
      rcases bind_ok h with ⟨c, hmember, hrest⟩
      rw [List.flatMap_cons]
      exact (hstep member.1 member.2 a c hmember).append (ih hrest)

theorem foldlM_collected {A : Type} (entriesOf : A -> List (SlotPosition × Json))
    {step : ContentCollector -> A -> Except GovernorError ContentCollector}
    {items : List A} {a b : ContentCollector}
    (hstep : forall item c d, step c item = .ok d -> Collected env c d (entriesOf item))
    (h : items.foldlM step a = .ok b) : Collected env a b (items.flatMap entriesOf) := by
  induction items generalizing a with
  | nil =>
      cases h
      exact Collected.nothing _
  | cons item rest ih =>
      rw [List.foldlM_cons] at h
      rcases bind_ok h with ⟨c, hitem, hrest⟩
      rw [List.flatMap_cons]
      exact (hstep item a c hitem).append (ih hrest)

/-!
## Shapes
-/

theorem nonemptyObject_eq_ok (h : nonemptyObject value = .ok members) :
    value = .object members := by
  cases value with
  | object found =>
      cases found with
      | nil => cases h
      | cons member rest =>
          cases h
          rfl
  | _ => cases h

theorem objectOf_eq_ok (h : objectOf value = .ok members) : value = .object members := by
  have hobject := orRefuse_eq_ok.mp h
  cases value with
  | object found =>
      cases hobject
      rfl
  | _ => cases hobject

theorem arrayOf_eq_ok {items : List Json} (h : arrayOf value = .ok items) :
    value = .array items := by
  have harray := orRefuse_eq_ok.mp h
  cases value with
  | array found =>
      cases harray
      rfl
  | _ => cases harray

theorem registeredPathArray_eq_ok {paths : List Json}
    (h : registeredPathArray value = .ok paths) :
    value = .array paths ∧ forall path, path ∈ paths -> isNonemptyText path = true := by
  unfold registeredPathArray at h
  rcases bind_ok h with ⟨items, hitems, h⟩
  rcases bind_ok h with ⟨_, _, h⟩
  rcases bind_ok h with ⟨_, _, h⟩
  rcases bind_ok h with ⟨_, htexts, h⟩
  cases h
  exact And.intro (arrayOf_eq_ok hitems) (List.all_eq_true.mp (check_eq_ok.mp htexts))

theorem ordinalOf_eq_ok {value : Nat} (h : ordinalOf value = .ok ordinal) :
    ordinal = value ∧ value < 2 ^ 32 := by
  unfold ordinalOf at h
  split at h
  · next hsize =>
      cases h
      exact And.intro rfl hsize
  · cases h

theorem field_entries {p : ContentPositions} (h : members.lookup key = some value) :
    (field key p).entries members = p.entries value := by
  show ((List.lookup key members).map p.entries).getD [] = _
  rw [h]
  rfl

theorem field_entries_of_none {p : ContentPositions} (h : members.lookup key = none) :
    (field key p).entries members = [] := by
  show ((List.lookup key members).map p.entries).getD [] = _
  rw [h]
  rfl

theorem lookup_of_length_one (other : String) (hlength : members.length = 1)
    (h : members.lookup key = some value) (hne : other ≠ key) :
    members.lookup other = none := by
  rcases members with _ | ⟨⟨first, found⟩, _ | ⟨_, _⟩⟩
  · cases h
  · rw [List.lookup_cons] at h ⊢
    cases hkey : key == first with
    | false =>
        rw [hkey] at h
        cases h
    | true =>
        have hother : (other == first) = false := by
          rw [← eq_of_beq hkey]
          simpa using hne
        rw [hother]
        rfl
  · cases hlength

/-!
## Completions, policies and agents
-/

theorem collectExpression_collected {ownerId : String} {base index : Nat} {item : Json}
    {a b : ContentCollector}
    (h : collectExpression env ownerKind ownerId base index item a = .ok b) :
    Collected env a b ((object (field "expression" (here
      { ownerKind, ownerId, fieldKind := .completionContract, ordinal := base + index }
      ))).entries item) := by
  unfold collectExpression at h
  cases item with
  | object members =>
      show Collected env a b ((field "expression" _).entries members)
      cases hexpression : members.lookup "expression" with
      | none =>
          simp only [Json.get, Json.asObject, Option.bind_some, hexpression] at h
          cases h
          rw [field_entries_of_none hexpression]
          exact Collected.nothing _
      | some expression =>
          simp only [Json.get, Json.asObject, Option.bind_some, hexpression] at h
          rcases bind_ok h with ⟨_, _, h⟩
          rcases bind_ok h with ⟨ordinal, hordinal, h⟩
          rcases ordinalOf_eq_ok hordinal with ⟨heq, hsize⟩
          cases heq
          rw [field_entries hexpression]
          exact register_collected_of_not_path rfl hsize h
  | _ =>
      cases h
      exact Collected.nothing _

theorem collectCompletionGroup_collected {ownerId : String} {base : Nat} {a b : ContentCollector}
    (h : collectCompletionGroup env ownerKind ownerId base (members.lookup key) a = .ok b) :
    Collected env a b
      ((field key (expressionContent ownerKind ownerId base)).entries members) := by
  unfold collectCompletionGroup at h
  cases hgroup : members.lookup key with
  | none =>
      rw [hgroup] at h
      cases h
      rw [field_entries_of_none hgroup]
      exact Collected.nothing _
  | some value =>
      rw [hgroup] at h
      rcases bind_ok h with ⟨items, hitems, h⟩
      rcases bind_ok h with ⟨_, _, h⟩
      rw [field_entries hgroup, arrayOf_eq_ok hitems]
      exact collectItems_collected (fun _ _ _ _ _ hitem => collectExpression_collected hitem) h

theorem collectCompletionContent_collected {ownerId : String} {a b : ContentCollector}
    (h : collectCompletionContent env ownerKind ownerId value a = .ok b) :
    Collected env a b ((completionContent ownerKind ownerId).entries value) := by
  unfold collectCompletionContent at h
  rcases bind_ok h with ⟨members, hmembers, h⟩
  rcases bind_ok h with ⟨c, hrequires, hforbids⟩
  rw [objectOf_eq_ok hmembers]
  exact (collectCompletionGroup_collected hrequires).append
    (collectCompletionGroup_collected hforbids)

theorem collectPolicyText_collected {offset : Nat} {a b : ContentCollector}
    (h : collectPolicyText env graphId ordinal offset value a = .ok b) :
    Collected env a b [(policyTextPosition graphId ordinal offset, value)] := by
  unfold collectPolicyText at h
  rcases bind_ok h with ⟨_, _, h⟩
  rcases bind_ok h with ⟨position, hposition, h⟩
  rcases ordinalOf_eq_ok hposition with ⟨heq, hsize⟩
  cases heq
  exact register_collected_of_not_path rfl hsize h

theorem collectConstraintMember_collected {a b : ContentCollector}
    (h : collectConstraintMember env graphId ordinal key value a = .ok b) :
    Collected env a b ((constraintContent graphId ordinal key).entries value) := by
  unfold collectConstraintMember at h
  split at h
  · exact collectPolicyText_collected h
  · exact collectPolicyText_collected h
  · cases h
    exact Collected.nothing _
  · cases h
    exact Collected.nothing _
  · cases h
    exact Collected.nothing _
  · cases h

theorem collectPolicyContent_collected {policy : Json} {a b : ContentCollector}
    (h : collectPolicyContent env graphId ordinal policy a = .ok b) :
    Collected env a b ((policyContent graphId ordinal).entries policy) := by
  unfold collectPolicyContent at h
  split at h
  · cases h
    exact Collected.nothing _
  · rcases bind_ok h with ⟨members, hmembers, h⟩
    rw [nonemptyObject_eq_ok hmembers]
    show Collected env a b ((field "inlineConstraint" _).entries members)
    cases hreference : members.lookup "ref" with
    | some reference =>
        simp only [hreference] at h
        rcases bind_ok h with ⟨_, hlength, h⟩
        rcases bind_ok h with ⟨_, _, h⟩
        cases h
        have hnone := lookup_of_length_one "inlineConstraint"
          (of_decide_eq_true (check_eq_ok.mp hlength)) hreference (by decide)
        rw [field_entries_of_none hnone]
        exact Collected.nothing _
    | none =>
        simp only [hreference] at h
        rcases bind_ok h with ⟨_, _, h⟩
        rcases bind_ok h with ⟨constraint, hconstraint, h⟩
        rcases bind_ok h with ⟨inline, hinline, h⟩
        rcases bind_ok h with ⟨_, _, h⟩
        rw [field_entries (orRefuse_eq_ok.mp hconstraint), nonemptyObject_eq_ok hinline]
        exact collectMembers_collected
          (fun _ _ _ _ hmember => collectConstraintMember_collected hmember) h

theorem validated_collected {validation : Except GovernorError Unit} {a b : ContentCollector}
    (h : (do validation; Except.ok a) = .ok b) : Collected env a b [] := by
  rcases bind_ok h with ⟨_, _, h⟩
  cases h
  exact Collected.nothing _

theorem unchanged_collected {a b : ContentCollector}
    (h : (Except.ok a : Except GovernorError ContentCollector) = .ok b) :
    Collected env a b [] := by
  cases h
  exact Collected.nothing _

theorem collectEphemeralMember_collected {a b : ContentCollector}
    (h : collectEphemeralMember env nodeId key value a = .ok b) :
    Collected env a b ((ephemeralContent nodeId key).entries value) := by
  unfold collectEphemeralMember at h
  split at h
  · exact register_collected_of_not_path rfl (by decide : 0 < 2 ^ 32) h
  · exact register_collected_of_not_path rfl (by decide : 0 < 2 ^ 32) h
  · exact register_collected_of_not_path rfl (by decide : 0 < 2 ^ 32) h
  · exact validated_collected h
  · exact validated_collected h
  · exact validated_collected h
  · exact validated_collected h
  · exact validated_collected h
  · exact validated_collected h
  · exact validated_collected h
  · exact unchanged_collected h
  · exact unchanged_collected h
  · exact unchanged_collected h
  · exact unchanged_collected h
  · cases h

theorem lookup_eq_none_of_keys {only : String}
    (hkeys : ((members.map Prod.fst).all fun other => other == only) = true) (hne : key ≠ only) :
    members.lookup key = none := by
  induction members with
  | nil => rfl
  | cons member rest ih =>
      rw [List.map_cons, List.all_cons, Bool.and_eq_true] at hkeys
      rcases member with ⟨first, value⟩
      have hfirst : (key == first) = false := by
        rw [show first = only from eq_of_beq hkeys.left]
        simpa using hne
      rw [List.lookup_cons, hfirst]
      exact ih hkeys.right

theorem collectAgentContent_collected {a b : ContentCollector}
    (h : collectAgentContent env nodeId value a = .ok b) :
    Collected env a b ((agentContent nodeId).entries value) := by
  unfold collectAgentContent at h
  rcases bind_ok h with ⟨members, hmembers, h⟩
  rw [objectOf_eq_ok hmembers]
  show Collected env a b ((field "ephemeral" _).entries members)
  cases hreference : members.lookup "ref" with
  | some reference =>
      simp only [hreference] at h
      rcases bind_ok h with ⟨_, _, h⟩
      rcases bind_ok h with ⟨_, hkeys, h⟩
      cases h
      rw [field_entries_of_none (lookup_eq_none_of_keys (check_eq_ok.mp hkeys) (by decide))]
      exact Collected.nothing _
  | none =>
      simp only [hreference] at h
      rcases bind_ok h with ⟨ephemeral, hephemeral, h⟩
      rcases bind_ok h with ⟨_, _, h⟩
      have hfound := orRefuse_eq_ok.mp hephemeral
      cases hinner : members.lookup "ephemeral" with
      | none =>
          rw [hinner] at hfound
          cases hfound
      | some inner =>
          rw [hinner] at hfound
          cases inner with
          | object found =>
              cases hfound
              rw [field_entries hinner]
              exact collectMembers_collected
                (fun _ _ _ _ hmember => collectEphemeralMember_collected hmember) h
          | _ => cases hfound

/-!
## Paths
-/

theorem collectPaths_collected {fieldKind : ContentFieldKind}
    {ordinal : Nat -> Except GovernorError Nat} {place : Nat -> Nat} {a b : ContentCollector}
    (hordinal : forall index found, ordinal index = .ok found ->
      found = place index ∧ place index < 2 ^ 32)
    (h : collectPaths env nodeId fieldKind ordinal value a = .ok b) :
    Collected env a b ((pathContent nodeId fieldKind place).entries value) := by
  unfold collectPaths at h
  rcases bind_ok h with ⟨paths, hpaths, h⟩
  rcases registeredPathArray_eq_ok hpaths with ⟨heq, htexts⟩
  rw [heq]
  apply collectItems_collected (p := fun index => here
    { ownerKind := .node, ownerId := nodeId, fieldKind, ordinal := place index }) _ h
  intro index path c d hmem hstep
  rcases bind_ok hstep with ⟨found, hfound, hstep⟩
  rcases hordinal index found hfound with ⟨heq, hsize⟩
  cases heq
  exact register_collected (fun _ => htexts path hmem) hsize hstep

theorem collectContextInclude_collected {index : Nat} {a b : ContentCollector}
    (h : collectContextInclude env nodeId index value a = .ok b) :
    Collected env a b ((includeContent nodeId index).entries value) := by
  unfold collectContextInclude at h
  rcases bind_ok h with ⟨members, hmembers, h⟩
  rw [nonemptyObject_eq_ok hmembers]
  show Collected env a b ((scopePaths nodeId index (isSourceScope members)).entries members)
  cases hscope : isSourceScope members with
  | true =>
      rw [hscope, if_pos rfl] at h
      rcases bind_ok h with ⟨paths, hpaths, h⟩
      show Collected env a b ((field "paths" _).entries members)
      rw [field_entries (orRefuse_eq_ok.mp hpaths)]
      exact collectPaths_collected (fun _ _ hfound => ordinalOf_eq_ok hfound) h
  | false =>
      rw [hscope, if_neg Bool.false_ne_true] at h
      rcases bind_ok h with ⟨_, _, h⟩
      exact unchanged_collected h

theorem collectContextPaths_collected {a b : ContentCollector}
    (h : collectContextPaths env nodeId value a = .ok b) :
    Collected env a b ((contextContent nodeId).entries value) := by
  unfold collectContextPaths at h
  rcases bind_ok h with ⟨members, hmembers, h⟩
  rw [nonemptyObject_eq_ok hmembers]
  show Collected env a b ((field "include" _).entries members)
  cases hinclude : members.lookup "include" with
  | none =>
      simp only [hinclude] at h
      rw [field_entries_of_none hinclude]
      exact unchanged_collected h
  | some includes =>
      simp only [hinclude] at h
      rcases bind_ok h with ⟨items, hitems, h⟩
      rw [field_entries hinclude, arrayOf_eq_ok hitems]
      exact collectItems_collected
        (fun _ _ _ _ _ hitem => collectContextInclude_collected hitem) h

theorem collectPermission_collected {index : Nat} {permission : Json} {a b : ContentCollector}
    (h : collectPermission env nodeId index permission a = .ok b) :
    Collected env a b ((permissionContent nodeId index).entries permission) := by
  unfold collectPermission at h
  cases permission with
  | object members =>
      show Collected env a b ((field "scope" _).entries members)
      cases hscope : members.lookup "scope" with
      | none =>
          simp only [Json.get, Json.asObject, Option.bind_some, hscope] at h
          rw [field_entries_of_none hscope]
          exact unchanged_collected h
      | some scope =>
          simp only [Json.get, Json.asObject, Option.bind_some, hscope] at h
          rcases bind_ok h with ⟨inner, hinner, h⟩
          rw [field_entries hscope, nonemptyObject_eq_ok hinner]
          show Collected env a b ((field "paths" _).entries inner)
          cases hpaths : inner.lookup "paths" with
          | none =>
              simp only [hpaths] at h
              rw [field_entries_of_none hpaths]
              exact unchanged_collected h
          | some paths =>
              simp only [hpaths] at h
              rw [field_entries hpaths]
              exact collectPaths_collected (fun _ _ hfound => ordinalOf_eq_ok hfound) h
  | _ => exact unchanged_collected h

theorem collectPermissionPaths_collected {a b : ContentCollector}
    (h : collectPermissionPaths env nodeId value a = .ok b) :
    Collected env a b ((permissionsContent nodeId).entries value) := by
  unfold collectPermissionPaths at h
  rcases bind_ok h with ⟨items, hitems, h⟩
  rw [arrayOf_eq_ok hitems]
  exact collectItems_collected (fun _ _ _ _ _ hitem => collectPermission_collected hitem) h

theorem collectIsolationPaths_collected {a b : ContentCollector}
    (h : collectIsolationPaths env nodeId value a = .ok b) :
    Collected env a b ((isolationContent nodeId).entries value) := by
  unfold collectIsolationPaths at h
  rcases bind_ok h with ⟨members, hmembers, h⟩
  rw [nonemptyObject_eq_ok hmembers]
  show Collected env a b ((field "filesystem" _).entries members)
  cases hfilesystem : members.lookup "filesystem" with
  | none =>
      simp only [hfilesystem] at h
      rw [field_entries_of_none hfilesystem]
      exact unchanged_collected h
  | some filesystem =>
      simp only [hfilesystem] at h
      rcases bind_ok h with ⟨inner, hinner, h⟩
      rw [field_entries hfilesystem, nonemptyObject_eq_ok hinner]
      show Collected env a b ((field "writablePaths" _).entries inner)
      cases hpaths : inner.lookup "writablePaths" with
      | none =>
          simp only [hpaths] at h
          rw [field_entries_of_none hpaths]
          exact unchanged_collected h
      | some paths =>
          simp only [hpaths] at h
          rw [field_entries hpaths]
          exact collectPaths_collected (fun _ _ hfound => ordinalOf_eq_ok hfound) h

/-!
## Graphs
-/

theorem collectNodeProperty_collected {a b : ContentCollector}
    (h : collectNodeProperty env nodeId key value a = .ok b) :
    Collected env a b ((nodeContent nodeId key).entries value) := by
  unfold collectNodeProperty at h
  split at h
  · exact register_collected_of_not_path rfl (by decide : 0 < 2 ^ 32) h
  · exact collectCompletionContent_collected h
  · exact collectAgentContent_collected h
  · exact validated_collected h
  · exact validated_collected h
  · exact validated_collected h
  · exact validated_collected h
  · rcases bind_ok h with ⟨_, _, h⟩
    exact register_collected_of_not_path rfl (by decide : 0 < 2 ^ 32) h
  · exact collectContextPaths_collected h
  · exact collectPermissionPaths_collected h
  · exact collectIsolationPaths_collected h
  · exact validated_collected h
  · exact validated_collected h
  · exact validated_collected h
  · exact validated_collected h
  · exact validated_collected h
  · have hnowhere : nodeContent nodeId key = nowhere := by
      unfold nodeContent
      split <;> first | rfl | contradiction
    rw [hnowhere]
    split at h
    · exact unchanged_collected h
    · cases h

theorem collectNode_collected (nodeId : String) {node : GraphNode} {a b : ContentCollector}
    (h : collectNode env nodeId node a = .ok b) :
    Collected env a b (nodeEntries (nodeId, node)) := by
  unfold collectNode at h
  rcases bind_ok h with ⟨c, hname, h⟩
  rcases bind_ok h with ⟨d, hobjective, h⟩
  have hproperties := collectMembers_collected (p := nodeContent nodeId)
    (fun _ _ _ _ hmember => collectNodeProperty_collected hmember) h
  exact (register_collected_of_not_path rfl (by decide : 0 < 2 ^ 32) hname).append
    ((register_collected_of_not_path rfl (by decide : 0 < 2 ^ 32) hobjective).append hproperties)

theorem collectEdgeText_collected {edgeId : String} {text : Option Json} {a b : ContentCollector}
    (hordinal : ordinal < 2 ^ 32) (h : collectEdgeText env edgeId ordinal text a = .ok b) :
    Collected env a b (text.map fun value => (edgePosition edgeId ordinal, value)).toList := by
  cases text with
  | none => exact unchanged_collected h
  | some value => exact register_collected_of_not_path rfl hordinal h

theorem collectEdge_collected {edge : GraphEdge} {a b : ContentCollector}
    (h : collectEdge env edge a = .ok b) : Collected env a b (edgeEntries edge) := by
  unfold collectEdge at h
  rcases bind_ok h with ⟨c, hcondition, honFalse⟩
  exact (collectEdgeText_collected (by decide) hcondition).append
    (collectEdgeText_collected (by decide) honFalse)

theorem collectMetadataProperty_collected {a b : ContentCollector}
    (h : collectMetadataProperty env graphId key value a = .ok b) :
    Collected env a b ((metadataContent graphId key).entries value) := by
  unfold collectMetadataProperty at h
  split at h
  · exact register_collected_of_not_path rfl (by decide : 0 < 2 ^ 32) h
  · have hnowhere : metadataContent graphId key = nowhere := by
      unfold metadataContent
      split <;> first | rfl | contradiction
    rw [hnowhere]
    split at h
    · exact unchanged_collected h
    · cases h

theorem collectGraphContent_collected {graph : ExecutionGraph} {a b : ContentCollector}
    (h : collectGraphContent env graph a = .ok b) :
    Collected env a b (authoredContent graph) := by
  unfold collectGraphContent at h
  rcases bind_ok h with ⟨c, hname, h⟩
  rcases bind_ok h with ⟨d, hmetadata, h⟩
  rcases bind_ok h with ⟨e, hcompletion, h⟩
  rcases bind_ok h with ⟨g, hpolicies, h⟩
  rcases bind_ok h with ⟨k, hnodes, hedges⟩
  have hmetadata' := collectMembers_collected (p := metadataContent graph.metadata.id)
    (fun _ _ _ _ hmember => collectMetadataProperty_collected hmember) hmetadata
  have hpolicies' := collectItems_collected (p := policyContent graph.metadata.id)
    (fun _ _ _ _ _ hitem => collectPolicyContent_collected hitem) hpolicies
  have hnodes' := foldlM_collected nodeEntries
    (fun entry _ _ hnode => collectNode_collected entry.1 hnode) hnodes
  have hedges' := foldlM_collected edgeEntries
    (fun _ _ _ hedge => collectEdge_collected hedge) hedges
  exact ((((((register_collected_of_not_path rfl (by decide : 0 < 2 ^ 32) hname).append hmetadata').append
    (collectCompletionContent_collected hcompletion)).append hpolicies').append hnodes').append
    hedges')

theorem collectContent_registered {graph : ExecutionGraph} {items : List PendingContent}
    (h : collectContent env graph = .ok items) :
    exists registered, items.Perm registered ∧
      List.Forall₂ (RegisteredAs env) registered (authoredContent graph) ∧
      (items.map fun item => item.slot.position).Nodup ∧
      ((authoredContent graph).map fun e => (env.jsonText e.2).length).sum <=
        maxContentBatchBytes := by
  unfold collectContent at h
  rcases bind_ok h with ⟨collector, hcollector, h⟩
  have hcollected := collectGraphContent_collected hcollector
  rcases hcollected.items with ⟨registered, hitems, hregistered⟩
  rcases bind_ok h with ⟨_, hdistinct, h⟩
  cases h
  refine ⟨registered, ?_, hregistered, of_decide_eq_true (check_eq_ok.mp hdistinct), ?_⟩
  · have hregisteredItems : collector.items = registered := hitems
    rw [← hregisteredItems]
    exact List.perm_insertionSort _ _
  · have hbytes := hcollected.bytes
    have hbounded := hcollected.bounded (Nat.zero_le _)
    simp only [ContentCollector.fresh, Nat.zero_add] at hbytes
    rw [← hbytes]
    exact hbounded

end Externalize
end GraphHelm
