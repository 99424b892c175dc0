import GraphHelm.Governor.Overrides

/-!
# Protected nodes

The governor keeps a gate or a required node in its graph until the owner waives
it.  What it compares is only whether the node is there: a draft that is accepted
without a waiver keeps the protection exactly when the last of its operations
that write the protecting field write the protecting value.
-/

namespace GraphHelm

open Std

/-!
## Members written over members
-/

@[simp] theorem writtenOver_cons (first : ExtTreeMap String Json) (entry : String × Json)
    (rest : List (String × Json)) :
    writtenOver first (entry :: rest) = writtenOver (first.insert entry.1 entry.2) rest := rfl

theorem writtenOver_append (first : ExtTreeMap String Json)
    (second third : List (String × Json)) :
    writtenOver first (second ++ third) = writtenOver (writtenOver first second) third :=
  List.foldl_append

theorem getElem?_writtenOver (first : ExtTreeMap String Json) (second : List (String × Json))
    (key : String) :
    (writtenOver first second)[key]? = ((writtenOver ∅ second)[key]?).or first[key]? := by
  induction second generalizing first with
  | nil => simp [writtenOver]
  | cons entry rest ih =>
      have hfirst := ih (first.insert entry.1 entry.2)
      have hempty := ih (ExtTreeMap.insert ∅ entry.1 entry.2)
      rw [writtenOver_cons, writtenOver_cons, hfirst, hempty, Option.or_assoc]
      congr 1
      by_cases heq : entry.1 = key
      · rw [heq, ExtTreeMap.getElem?_insert_self, ExtTreeMap.getElem?_insert_self]
        rfl
      · rw [OrderedMap.getElem?_insert_of_ne heq, OrderedMap.getElem?_insert_of_ne heq]
        simp

theorem getElem?_writtenOver_eq_none {entries : List (String × Json)} {key : String}
    (h : forall entry, entry ∈ entries -> entry.1 ≠ key) :
    (writtenOver ∅ entries)[key]? = none := by
  induction entries with
  | nil => simp [writtenOver]
  | cons entry rest ih =>
      rw [writtenOver_cons, getElem?_writtenOver,
        ih fun other hmem => h other (List.mem_cons_of_mem entry hmem),
        OrderedMap.getElem?_insert_of_ne (h entry List.mem_cons_self)]
      simp

theorem getElem?_writtenOver_of_mem {entries : List (String × Json)}
    (hdistinct : (entries.map Prod.fst).Nodup) {entry : String × Json} (hmem : entry ∈ entries) :
    (writtenOver ∅ entries)[entry.1]? = some entry.2 := by
  induction entries with
  | nil => cases hmem
  | cons head rest ih =>
      rw [List.map_cons, List.nodup_cons] at hdistinct
      rcases hdistinct with ⟨hnew, hrest⟩
      rw [writtenOver_cons, getElem?_writtenOver]
      rcases List.mem_cons.mp hmem with hhead | hlater
      · have hnone : (writtenOver ∅ rest)[head.1]? = none := by
          apply getElem?_writtenOver_eq_none
          intro other hother heq
          exact hnew (heq ▸ List.mem_map_of_mem hother)
        rw [hhead, hnone, ExtTreeMap.getElem?_insert_self]
        rfl
      · rw [ih hrest hlater]
        rfl

theorem getElem?_writtenOver_toList (map : ExtTreeMap String Json) (key : String) :
    (writtenOver ∅ map.toList)[key]? = map[key]? := by
  have hdistinct : (map.toList.map Prod.fst).Nodup := by
    rw [ExtTreeMap.map_fst_toList_eq_keys]
    exact ExtTreeMap.nodup_keys
  cases hget : map[key]? with
  | some value =>
      have hmem := ExtTreeMap.mem_toList_iff_getElem?_eq_some.mpr hget
      exact getElem?_writtenOver_of_mem hdistinct hmem
  | none =>
      apply getElem?_writtenOver_eq_none
      intro entry hmem heq
      have hlisted := ExtTreeMap.mem_toList_iff_getElem?_eq_some.mp hmem
      rw [heq, hget] at hlisted
      cases hlisted

/-!
## Protections
-/

/-- Why a node may not be dropped without a waiver. -/
inductive Protection where
  | gate
  | required
deriving DecidableEq

namespace Protection

/-- The member a protection is written under. -/
def field : Protection -> String
  | .gate => "type"
  | .required => "optionality"

def reads : Protection -> Json -> Bool
  | .gate, value => readNodeType value = some .gate
  | .required, value => readOptionality value = some .required

def holds : Protection -> AuthoredNode -> Bool
  | .gate, node => node.nodeType = .gate
  | .required, node => node.optionality = .required

def holdsIn (protection : Protection) (id : String) (version : GraphVersion) : Prop :=
  exists node, version.graph.nodes[id]? = some node ∧ protection.holds node = true

/-- Whether a node has the protection, and whether it still has it once it is written as an
object, where a property of the same name would stand in the way of the field. -/
structure Standing where
  held : Bool
  written : Bool
deriving DecidableEq

def standing (protection : Protection) (node : AuthoredNode) : Standing :=
  { held := protection.holds node
    written := (node.properties[protection.field]?).elim (protection.holds node) protection.reads }

def after (protection : Protection) (id : String) (before : Standing) :
    DraftOperation -> Standing
  | .addNode other node => if other = id then protection.standing node else before
  | .patchNode other patch =>
      if other = id then
        let members := writtenOver ∅ (patch.asObject.getD [])
        let read := (members[protection.field]?).elim before.written protection.reads
        { held := read, written := read }
      else
        before
  | _ => before

def survives (protection : Protection) (id : String) (version : GraphVersion)
    (operations : List DraftOperation) : Bool :=
  (version.graph.nodes[id]?).any fun node =>
    (operations.foldl (protection.after id) (protection.standing node)).held

end Protection

/-!
## What one operation does to a node
-/

theorem readNodeType_asStr (nodeType : NodeType) :
    readNodeType (.string nodeType.asStr) = some nodeType := by
  cases nodeType <;> rfl

theorem readOptionality_asStr (optionality : Optionality) :
    readOptionality (.string optionality.asStr) = some optionality := by
  cases optionality <;> rfl

theorem reads_toMembers (protection : Protection) (node : AuthoredNode) :
    ((node.toMembers)[protection.field]?).any protection.reads =
      (protection.standing node).written := by
  unfold AuthoredNode.toMembers
  rw [writtenOver_append, getElem?_writtenOver, getElem?_writtenOver_toList]
  unfold Protection.standing
  cases hproperty : node.properties[protection.field]? with
  | some value => rfl
  | none =>
      cases protection with
      | gate =>
          have hown := @getElem?_writtenOver_of_mem
            [("type", .string node.nodeType.asStr), ("name", .string node.name),
              ("objective", .string node.objective),
              ("optionality", .string node.optionality.asStr)]
            (by simp) ("type", .string node.nodeType.asStr) (by simp)
          rw [Protection.field, hown]
          simp [Protection.reads, Protection.holds, readNodeType_asStr]
      | required =>
          have hown := @getElem?_writtenOver_of_mem
            [("type", .string node.nodeType.asStr), ("name", .string node.name),
              ("objective", .string node.objective),
              ("optionality", .string node.optionality.asStr)]
            (by simp) ("optionality", .string node.optionality.asStr) (by simp)
          rw [Protection.field, hown]
          simp [Protection.reads, Protection.holds, readOptionality_asStr]

variable {node : AuthoredNode} {requirement : String}

theorem standing_of_fromMembers (protection : Protection) {members : ExtTreeMap String Json}
    (h : AuthoredNode.fromMembers members = some node) :
    protection.standing node =
      { held := (members[protection.field]?).any protection.reads
        written := (members[protection.field]?).any protection.reads } := by
  unfold AuthoredNode.fromMembers at h
  rcases Option.bind_eq_some_iff.mp h with ⟨nodeType, htype, h⟩
  rcases Option.bind_eq_some_iff.mp h with ⟨name, _, h⟩
  rcases Option.bind_eq_some_iff.mp h with ⟨objective, _, h⟩
  rcases Option.bind_eq_some_iff.mp h with ⟨optionality, hoptionality, h⟩
  cases h
  rcases Option.bind_eq_some_iff.mp htype with ⟨typeMember, htypeMember, hreadType⟩
  rcases Option.bind_eq_some_iff.mp hoptionality with ⟨member, hmember, hread⟩
  cases protection with
  | gate =>
      simp [Protection.standing, Protection.field, Protection.holds, Protection.reads,
        htypeMember, hreadType]
  | required =>
      simp [Protection.standing, Protection.field, Protection.holds, Protection.reads,
        hmember, hread]

section Steps

variable {env : GovernorEnvironment} {protection : Protection} {id : String}

theorem standing_of_patchNode {patched : AuthoredNode} {patch : Json}
    (h : patchNode env node patch = .ok patched) :
    protection.standing patched =
      protection.after id (protection.standing node) (.patchNode id patch) := by
  unfold patchNode at h
  rcases bind_ok h with ⟨written, hwritten, h⟩
  have hobject := orRefuse_eq_ok.mp hwritten
  have hread := standing_of_fromMembers protection (orRefuse_eq_ok.mp h)
  rw [hread, getElem?_writtenOver]
  have hmembers := reads_toMembers protection node
  simp only [Protection.after, if_true, hobject, Option.getD_some]
  cases hpatched : (writtenOver ∅ written)[protection.field]? with
  | some value => rfl
  | none =>
      simp only [Option.none_or, Option.elim_none]
      rw [hmembers]

/-- What the fold over the operations says of a node, once the node is there. -/
def StandsAs (protection : Protection) (id : String) (graph : ExecutionGraph)
    (standing : Protection.Standing) : Prop :=
  forall node, graph.nodes[id]? = some node -> protection.standing node = standing

theorem StandsAs.step {graph after : ExecutionGraph} {standing : Protection.Standing}
    {operation : DraftOperation} (hstands : StandsAs protection id graph standing)
    (h : applyOperation env graph operation = .ok after) :
    StandsAs protection id after (protection.after id standing operation) := by
  intro node hnode
  cases operation with
  | addNode other added =>
      rcases check_ok h with ⟨_, h⟩
      cases h
      by_cases heq : other = id
      · subst heq
        rw [ExtTreeMap.getElem?_insert_self] at hnode
        cases hnode
        simp only [Protection.after, if_true]
      · rw [OrderedMap.getElem?_insert_of_ne heq] at hnode
        simp only [Protection.after, heq, if_false]
        exact hstands node hnode
  | removeNode other =>
      rcases check_ok h with ⟨_, h⟩
      cases h
      by_cases heq : other = id
      · subst heq
        simp at hnode
      · rw [OrderedMap.getElem?_erase_of_ne heq] at hnode
        exact hstands node hnode
  | patchNode other patch =>
      rcases bind_ok h with ⟨found, hfound, h⟩
      rcases bind_ok h with ⟨patched, hpatched, h⟩
      cases h
      by_cases heq : other = id
      · subst heq
        rw [ExtTreeMap.getElem?_insert_self] at hnode
        cases hnode
        rw [<- hstands found (orRefuse_eq_ok.mp hfound)]
        exact standing_of_patchNode hpatched
      · rw [OrderedMap.getElem?_insert_of_ne heq] at hnode
        simp only [Protection.after, heq, if_false]
        exact hstands node hnode
  | addEdge edge =>
      rcases check_ok h with ⟨_, h⟩
      cases h
      exact hstands node hnode
  | removeEdge other =>
      rcases check_ok h with ⟨_, h⟩
      cases h
      exact hstands node hnode

theorem StandsAs.operations {graph after : ExecutionGraph} {standing : Protection.Standing}
    {operations : List DraftOperation} (hstands : StandsAs protection id graph standing)
    (h : applyOperations env graph operations = .ok after) :
    StandsAs protection id after (operations.foldl (protection.after id) standing) := by
  induction operations generalizing graph standing with
  | nil =>
      cases h
      exact hstands
  | cons operation rest ih =>
      unfold applyOperations at h
      rw [List.foldlM_cons] at h
      rcases bind_ok h with ⟨middle, hfirst, h⟩
      exact ih (hstands.step hfirst) h

end Steps

/-!
## What an accepted draft does to a node
-/

def GraphDraft.waives (draft : GraphDraft) (requirement : String) : Bool :=
  draft.manualOverride.any fun request =>
    request.actor.isOwner && request.waivedRequirements.contains requirement

section Accepted

variable {env : GovernorEnvironment} {base : GraphVersion} {candidate : ExecutionGraph}
  {protection : Protection} {id : String}

variable {obligation : PolicyObligation} {obligations : Obligations}

theorem unblocked_of_mem {report : PolicyReport} (hfree : blockingError report = none)
    (hmem : obligation ∈ report.obligations) :
    isImpossible obligation = false ∧ isUnsatisfied obligation = false := by
  unfold blockingError at hfree
  split at hfree
  · cases hfree
  · rename_i himpossible
    split at hfree
    · cases hfree
    · rename_i hunsatisfied
      rw [Bool.not_eq_true, List.any_eq_false] at himpossible hunsatisfied
      exact ⟨Bool.eq_false_iff.mpr (himpossible obligation hmem),
        Bool.eq_false_iff.mpr (hunsatisfied obligation hmem)⟩

/-- The obligations hold a node's own, unless an error of the lint took its name. -/
def Owed (candidate : ExecutionGraph) (id : String) (obligations : Obligations) : Prop :=
  exists found, obligations[id]? = some found ∧
    (found = requiredObligation candidate id ∨ isImpossible found = true)

/-- The turn of `evaluate_transition` for one node of the base. -/
def oweNode (candidate : ExecutionGraph) (obligations : Obligations)
    (entry : String × AuthoredNode) : Obligations :=
  if entry.2.nodeType = .gate || entry.2.optionality = .required then
    obligations.insert entry.1 (requiredObligation candidate entry.1)
  else
    obligations

theorem owed_of_getElem? (h : obligations[id]? = some (requiredObligation candidate id)) :
    Owed candidate id obligations :=
  ⟨requiredObligation candidate id, h, Or.inl rfl⟩

theorem Owed.insert_impossible (h : Owed candidate id obligations)
    (himpossible : isImpossible obligation = true) :
    Owed candidate id (obligations.insert requirement obligation) := by
  rcases h with ⟨found, hfound, howed⟩
  by_cases heq : requirement = id
  · rw [heq]
    exact ⟨obligation, ExtTreeMap.getElem?_insert_self, Or.inr himpossible⟩
  · exact ⟨found, (OrderedMap.getElem?_insert_of_ne heq).trans hfound, howed⟩

theorem Owed.insertIfNew (h : Owed candidate id obligations) :
    Owed candidate id (obligations.insertIfNew requirement obligation) := by
  rcases h with ⟨found, hfound, howed⟩
  refine ⟨found, ?_, howed⟩
  rw [ExtTreeMap.getElem?_insertIfNew, if_neg]
  · exact hfound
  · intro hnew
    rcases hnew with ⟨hcompare, hnew⟩
    have heq := LawfulEqOrd.eq_of_compare hcompare
    apply hnew
    rw [heq, <- ExtTreeMap.isSome_getElem?_iff_mem, hfound]
    rfl

theorem owed_oweNode {entry : String × AuthoredNode}
    (h : obligations[id]? = some (requiredObligation candidate id)) :
    (oweNode candidate obligations entry)[id]? = some (requiredObligation candidate id) := by
  unfold oweNode
  split
  · by_cases heq : entry.1 = id
    · rw [heq, ExtTreeMap.getElem?_insert_self]
    · rw [OrderedMap.getElem?_insert_of_ne heq]
      exact h
  · exact h

theorem owed_foldl_oweNode {entries : List (String × AuthoredNode)} {node : AuthoredNode}
    (hmem : (id, node) ∈ entries)
    (hprotected : (node.nodeType = .gate || node.optionality = .required : Bool) = true)
    (obligations : Obligations) :
    (entries.foldl (oweNode candidate) obligations)[id]? =
      some (requiredObligation candidate id) := by
  induction entries generalizing obligations with
  | nil => cases hmem
  | cons entry rest ih =>
      rw [List.foldl_cons]
      rcases List.mem_cons.mp hmem with heq | hlater
      · have hfirst : (oweNode candidate obligations entry)[id]? =
            some (requiredObligation candidate id) := by
          rw [<- heq]
          unfold oweNode
          rw [if_pos hprotected, ExtTreeMap.getElem?_insert_self]
        exact List.foldlRecOn rest (oweNode candidate)
          (motive := fun obligations => obligations[id]? = some (requiredObligation candidate id))
          hfirst fun _ howed _ _ => owed_oweNode howed
      · exact ih hlater (oweNode candidate obligations entry)

theorem required_of_protected (h : protection.holds node = true) :
    (node.nodeType = .gate || node.optionality = .required : Bool) = true := by
  cases protection with
  | gate => simpa [Protection.holds] using Or.inl (of_decide_eq_true h)
  | required => simpa [Protection.holds] using Or.inr (of_decide_eq_true h)

/-- A protected node is owed its obligation, unless an error of the lint took its name. -/
theorem discovered_of_protected (h : protection.holdsIn id base) :
    Owed candidate id (discoveredObligations env base candidate) := by
  rcases h with ⟨node, hnode, hholds⟩
  have hmem := ExtTreeMap.mem_toList_iff_getElem?_eq_some.mpr hnode
  have hrequired := @owed_foldl_oweNode candidate id base.graph.nodes.toList node hmem
    (required_of_protected hholds) ∅
  unfold discoveredObligations
  apply List.foldlRecOn
  · apply List.foldlRecOn
    · exact owed_of_getElem? hrequired
    · intro obligations howed requirement _
      exact howed.insertIfNew
  · intro obligations howed diagnostic _
    exact howed.insert_impossible rfl

theorem kept_of_unblocked {manualOverride : Option ManualOverride} (h : protection.holdsIn id base)
    (hunwaived : (manualOverride.any fun request =>
      request.actor.isOwner && request.waivedRequirements.contains id) = false)
    (hfree : blockingError (evaluateTransition env base candidate manualOverride) = none) :
    exists node, candidate.nodes[id]? = some node := by
  have hlimits : manualOverride.bind overrideLimitPath = none := by
    cases hpath : manualOverride.bind overrideLimitPath with
    | none => rfl
    | some path =>
        rcases Option.bind_eq_some_iff.mp hpath with ⟨request, hrequest, hrefused⟩
        subst hrequest
        rw [(refused_override hrefused).right] at hfree
        cases hfree
  rcases @discovered_of_protected env base candidate protection id h with ⟨found, hfound, howed⟩
  have hdecided : (decidedObligations env base candidate manualOverride)[id]? = some found := by
    unfold decidedObligations
    split
    · rename_i request hrequest
      rcases Option.filter_eq_some_iff.mp hrequest with ⟨hsome, hcomplete⟩
      subst hsome
      have hkey := discoveredObligations_keyed env base candidate id found hfound
      have howner : request.actor.isOwner = true := by
        unfold completeOwnerOverride at hcomplete
        simp only [Bool.and_eq_true] at hcomplete
        exact hcomplete.left.left.left
      have hunnamed : request.waivedRequirements.contains id = false := by
        simpa [howner] using hunwaived
      have hkept : waive request found = found := by
        unfold waive
        rw [hkey, hunnamed, Bool.and_false]
        rfl
      rw [getElem?_overriddenObligations, hfound]
      exact congrArg some hkept
    · exact hfound
  have hkey := decidedObligations_keyed manualOverride id found hdecided
  have hmem : found ∈ (evaluateTransition env base candidate manualOverride).obligations := by
    rw [evaluateTransition_obligations hlimits, mem_obligations (decidedObligations_keyed manualOverride),
      hkey]
    exact hdecided
  rcases unblocked_of_mem hfree hmem with ⟨hpossible, hsatisfied⟩
  rcases howed with hrequired | himpossible
  · subst hrequired
    unfold requiredObligation at hsatisfied
    split at hsatisfied
    · rename_i hcontains
      exact Option.isSome_iff_exists.mp (ExtTreeMap.isSome_getElem?_eq_contains.trans hcontains)
    · cases hsatisfied
  · rw [himpossible] at hpossible
    cases hpossible

end Accepted

/-!
## Runs of accepted drafts
-/

structure Submission (env : GovernorEnvironment) (requirement : String) where
  services : ApplyServices
  stream : GovernedStream env.toEnvironment services.scope services.streamId
  call : ApplyCall
  draft : GraphDraft
  acceptance : Option ExecutionDraftAcceptance
  unwaived : draft.waives requirement = false

def Submission.publish {env : GovernorEnvironment} (base : GraphVersion)
    (submission : Submission env requirement) : Option GraphVersion :=
  match (applyDraftWithAcceptance env submission.services submission.stream submission.call base
      submission.draft submission.acceptance).answer with
  | .ok result => some result.version
  | .error _ => none

section Runs

variable {env : GovernorEnvironment} {protection : Protection} {id : String}

theorem published_iff {base version : GraphVersion} {submission : Submission env id}
    (h : protection.holdsIn id base) (hpublish : submission.publish base = some version) :
    protection.holdsIn id version <->
      protection.survives id base submission.draft.operations = true := by
  unfold Submission.publish at hpublish
  split at hpublish
  · rename_i result hanswer
    cases hpublish
    rcases accepted_version hanswer with ⟨graph, number, hgraph, hversion, hfree⟩
    have hunwaived : ((authoritativeOverride submission.draft submission.services.actor).any
        fun request => request.actor.isOwner && request.waivedRequirements.contains id) = false := by
      have hdraft := submission.unwaived
      unfold GraphDraft.waives at hdraft
      unfold authoritativeOverride
      cases hoverride : submission.draft.manualOverride with
      | none => rfl
      | some request =>
          rw [hoverride] at hdraft
          rw [Option.filter_some]
          split
          · exact hdraft
          · rfl
    rcases kept_of_unblocked h hunwaived hfree with ⟨node, hnode⟩
    rcases h with ⟨before, hbefore, hholds⟩
    have hstart : StandsAs protection id base.graph (protection.standing before) := by
      intro other hother
      rw [hbefore] at hother
      cases hother
      rfl
    have hstands := hstart.operations hgraph node hnode
    unfold Protection.survives
    rw [hbefore, Option.any_some, <- hstands]
    constructor
    · intro hafter
      rcases hafter with ⟨other, hother, hheld⟩
      rw [hversion] at hother
      have hsame : node = other := Option.some.inj (hnode.symm.trans hother)
      rw [hsame]
      exact hheld
    · intro hheld
      refine ⟨node, ?_, hheld⟩
      rw [hversion]
      exact hnode
  · cases hpublish

/--
In a run of accepted drafts that do not waive a node, a node that is protected in
the first version is protected in every version exactly when every draft leaves
it its protection.
-/
theorem protection_kept_iff {first last : GraphVersion} {submissions : List (Submission env id)}
    (h : protection.holdsIn id first)
    (hrun : run Submission.publish first submissions = some last) :
    Throughout Submission.publish (protection.holdsIn id) first submissions <->
      StepsMeet Submission.publish
        (fun version submission =>
          protection.survives id version submission.draft.operations = true)
        first submissions :=
  throughout_iff_stepsMeet published_iff h hrun

end Runs

namespace Sample

def patching (member : String) (value : Json) : Submission governorEnv "review" :=
  { services := applyServices
    stream := plannedStream
    call := applyCall 1
    draft := draftOf "patch" [.patchNode "review" (.object [(member, value)])] none
    acceptance := none
    unwaived := rfl }

theorem planned_required : Protection.required.holdsIn "review" plannedVersion := by
  refine ⟨_, ExtTreeMap.getElem?_insert_self, ?_⟩
  rfl

end Sample

/-- A required node that is renamed stays required. -/
theorem protection_kept_when_renamed :
    exists last,
      run Submission.publish Sample.plannedVersion
          [Sample.patching "name" (.string "Second review")] = some last ∧
        Throughout Submission.publish (Protection.required.holdsIn "review")
          Sample.plannedVersion [Sample.patching "name" (.string "Second review")] := by
  have haccepted : (run Submission.publish Sample.plannedVersion
      [Sample.patching "name" (.string "Second review")]).isSome = true := by decide +kernel
  rcases Option.isSome_iff_exists.mp haccepted with ⟨last, hrun⟩
  refine ⟨last, hrun, (protection_kept_iff Sample.planned_required hrun).mpr ?_⟩
  constructor
  · decide +kernel
  · intro version _
    trivial

/-- A required node can be made optional by a patch that nobody waives. -/
theorem protection_lost_to_a_patch :
    ¬ (forall (env : GovernorEnvironment) (id : String) (protection : Protection)
        (first last : GraphVersion) (submissions : List (Submission env id)),
        protection.holdsIn id first ->
          run Submission.publish first submissions = some last -> protection.holdsIn id last) := by
  intro hclaim
  have haccepted : ((run Submission.publish Sample.plannedVersion
      [Sample.patching "optionality" (.string "optional")]).any fun last =>
        (last.graph.nodes["review"]?).all fun node => !Protection.required.holds node) = true := by
    decide +kernel
  rcases (Option.any_eq_true _ _).mp haccepted with ⟨last, hrun, hlost⟩
  rcases hclaim Sample.governorEnv "review" .required Sample.plannedVersion last
    [Sample.patching "optionality" (.string "optional")] Sample.planned_required hrun with
    ⟨node, hnode, hholds⟩
  rw [hnode, Option.all_some, hholds] at hlost
  cases hlost

end GraphHelm
