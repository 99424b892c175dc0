import GraphHelm.Evolution.RemoteReferences
import GraphHelm.Library.Walks
import Mathlib.Data.List.Chain

/-!
# Planning a chain of migrations

`plan_migration_chain` (`migration.rs`): the edges of a schema are collected from the
list of manifests, and the only edge out of each version is followed to the target.
-/

namespace GraphHelm
namespace Evolution
namespace Migration

open Walks

/-- The edges of a schema by the version they start at, each with its place in the list. -/
abbrev Outgoing := List (Nat × MigrationManifest)

section Planning

variable [LinearOrder Version]

def manifestPath (index : Nat) (field : String) : String :=
  s!"/manifests/{index}/{field}"

def collectOutgoing (schema : String) :
    Nat -> List MigrationManifest -> Outgoing -> Except (List Diagnostic) Outgoing
  | _, [], outgoing => .ok outgoing
  | index, manifest :: rest, outgoing =>
      if manifest.schema ≠ schema then
        collectOutgoing schema (index + 1) rest outgoing
      else if manifest.formatVersion ≠ 1 then
        .error
          [unsupported "migration format version is unsupported"
            (manifestPath index "formatVersion")]
      else if !increases manifest then
        .error
          [unsupported "migration edge must be a stable, strictly increasing version transition"
            (manifestPath index "toVersion")]
      else if outgoing.any fun entry => entry.2.fromVersion = manifest.fromVersion then
        .error
          [unsupported "multiple outgoing migrations are not supported"
            (manifestPath index "fromVersion")]
      else
        collectOutgoing schema (index + 1) rest (outgoing ++ [(index, manifest)])

/-- The edges that have not been followed. -/
def unvisited (outgoing : Outgoing) (visited : List Version) : Outgoing :=
  outgoing.filter fun entry => !visited.contains entry.2.fromVersion

omit [LinearOrder Version] in
theorem unvisited_lt {outgoing : Outgoing} {visited : List Version} {current : Version}
    {entry : Nat × MigrationManifest} (hvisited : visited.contains current = false)
    (hfind : outgoing.find? (fun entry => entry.2.fromVersion = current) = some entry) :
    (unvisited outgoing (current :: visited)).length < (unvisited outgoing visited).length := by
  have hmem := List.mem_of_find?_eq_some hfind
  have hsource : (entry.2.fromVersion == current) = true :=
    @List.find?_some _ (fun entry : Nat × MigrationManifest => entry.2.fromVersion = current) _ _
      hfind
  have hrefine : unvisited outgoing (current :: visited) =
      (unvisited outgoing visited).filter fun entry => entry.2.fromVersion != current := by
    unfold unvisited
    rw [List.filter_filter]
    apply List.filter_congr
    intro other _
    rw [List.contains_cons, Bool.not_or]
    rfl
  rw [hrefine]
  apply List.length_filter_lt_length_iff_exists.mpr
  refine ⟨entry, ?_, ?_⟩
  · refine List.mem_filter.mpr (And.intro hmem ?_)
    rw [eq_of_beq hsource, hvisited]
    rfl
  · rw [bne, hsource]
    exact Bool.false_ne_true

def follow (outgoing : Outgoing) («to» current : Version) (visited : List Version)
    (chain : List MigrationManifest) : Except (List Diagnostic) (List MigrationManifest) :=
  if current = «to» then
    .ok chain
  else if hvisited : visited.contains current = true then
    .error [unsupported "migration chain contains a cycle" "/fromVersion"]
  else
    match hfind : outgoing.find? fun entry => entry.2.fromVersion = current with
    | none => .error [unsupported "migration chain contains a gap" "/fromVersion"]
    | some (index, migration) =>
        if «to» < migration.toVersion then
          .error
            [unsupported "migration chain overshoots the requested target"
              (manifestPath index "toVersion")]
        else if chain.getLast?.any fun previous =>
            previous.targetSchemaHash ≠ migration.sourceSchemaHash then
          .error
            [unsupported "adjacent migration schema digests do not match"
              s!"/chain/{chain.length}/sourceSchemaHash"]
        else
          follow outgoing «to» migration.toVersion (current :: visited) (chain ++ [migration])
termination_by (unvisited outgoing visited).length
decreasing_by exact unvisited_lt (Bool.eq_false_iff.mpr hvisited) hfind

def planMigrationChain (schema : String) («from» «to» : Version)
    (manifests : List MigrationManifest) :
    Except (List Diagnostic) (List MigrationManifest) :=
  if «to» < «from» then
    .error [unsupported "migration downgrades are not supported" "/toVersion"]
  else if «from» = «to» then
    .ok []
  else do
    let outgoing ← collectOutgoing schema 0 manifests []
    follow outgoing «to» «from» [] []

/-!
## What a plan is
-/

/-- A well-formed edge. -/
structure IsEdge (manifest : MigrationManifest) : Prop where
  format : manifest.formatVersion = 1
  stableFrom : stable manifest.fromVersion = true
  stableTo : stable manifest.toVersion = true
  increasing : manifest.fromVersion < manifest.toVersion

def ofSchema (schema : String) (manifests : List MigrationManifest) : List MigrationManifest :=
  manifests.filter fun manifest => manifest.schema = schema

structure WellFormed (schema : String) (manifests : List MigrationManifest) : Prop where
  edges : forall manifest, manifest ∈ ofSchema schema manifests -> IsEdge manifest
  single : ((ofSchema schema manifests).map MigrationManifest.fromVersion).Nodup

def Matched (chain : List MigrationManifest) : Prop :=
  chain.IsChain fun previous next => previous.targetSchemaHash = next.sourceSchemaHash

structure IsPlan (schema : String) («from» «to» : Version) (manifests chain :
    List MigrationManifest) : Prop where
  listed : forall manifest, manifest ∈ chain -> manifest ∈ ofSchema schema manifests
  leads : Walks.Leads MigrationManifest.fromVersion MigrationManifest.toVersion «from» chain «to»
  matched : Matched chain

/-!
## Following the edges
-/

/-- What the collecting loop leaves: increasing edges, no two of one version. -/
structure Collected (outgoing : Outgoing) : Prop where
  increasing : forall manifest, manifest ∈ outgoing.map Prod.snd ->
    manifest.fromVersion < manifest.toVersion
  single : ((outgoing.map Prod.snd).map MigrationManifest.fromVersion).Nodup

variable {outgoing : Outgoing} {current «to» : Version} {visited : List Version}
  {chain rest result : List MigrationManifest} {entry : Nat × MigrationManifest}

omit [LinearOrder Version] in
theorem mem_of_find (hfind : outgoing.find? (fun entry => entry.2.fromVersion = current) =
    some entry) : entry.2 ∈ outgoing.map Prod.snd ∧ entry.2.fromVersion = current := by
  have hsource : (entry.2.fromVersion == current) = true :=
    @List.find?_some _ (fun entry : Nat × MigrationManifest => entry.2.fromVersion = current) _ _
      hfind
  exact And.intro (List.mem_map_of_mem (List.mem_of_find?_eq_some hfind)) (eq_of_beq hsource)

/-- A walk that is not at its goal goes along the edge that is found. -/
theorem Collected.follows (h : Collected outgoing)
    (hfind : outgoing.find? (fun entry => entry.2.fromVersion = current) = some entry)
    (hne : current ≠ «to») (hlisted : forall manifest, manifest ∈ rest ->
      manifest ∈ outgoing.map Prod.snd)
    (hleads : Walks.Leads MigrationManifest.fromVersion MigrationManifest.toVersion current rest «to») :
    exists later, rest = entry.2 :: later ∧
      Walks.Leads MigrationManifest.fromVersion MigrationManifest.toVersion entry.2.toVersion later
        «to» := by
  cases rest with
  | nil =>
      exact absurd hleads hne
  | cons first later =>
      rcases mem_of_find hfind with ⟨hmem, hsource⟩
      have hsame : first = entry.2 :=
        List.inj_on_of_nodup_map h.single (hlisted first List.mem_cons_self) hmem
          (hleads.left.trans hsource.symm)
      refine ⟨later, by rw [hsame], ?_⟩
      rw [← hsame]
      exact hleads.right

def Ahead (outgoing : Outgoing) («to» current : Version) (chain rest : List MigrationManifest) :
    Prop :=
  (forall manifest, manifest ∈ rest -> manifest ∈ outgoing.map Prod.snd) ∧
    Walks.Leads MigrationManifest.fromVersion MigrationManifest.toVersion current rest «to» ∧
      Matched (chain ++ rest)

omit [LinearOrder Version] in
theorem matched_concat_iff {migration : MigrationManifest} (h : Matched chain) :
    Matched (chain ++ [migration]) <->
      (chain.getLast?.any fun previous =>
        previous.targetSchemaHash ≠ migration.sourceSchemaHash) = false := by
  unfold Matched
  rw [List.isChain_append]
  cases chain.getLast? with
  | none =>
      refine iff_of_true ⟨h, List.isChain_singleton _, ?_⟩ rfl
      intro previous hprevious
      cases hprevious
  | some last =>
      rw [Option.any_some]
      constructor
      · intro hchain
        have hdigest := hchain.right.right last rfl migration rfl
        exact decide_eq_false (fun hne => hne hdigest)
      · intro hdigest
        refine ⟨h, List.isChain_singleton _, ?_⟩
        intro previous hprevious next hnext
        cases hprevious
        cases hnext
        exact Decidable.not_not.mp (of_decide_eq_false hdigest)

/-- The loop answers with the only walk ahead, and with an error where there is none. -/
theorem follow_eq_ok_iff (h : Collected outgoing) (hmatched : Matched chain)
    (hvisited : forall version, version ∈ visited -> version < current) :
    follow outgoing «to» current visited chain = .ok result <->
      exists rest, result = chain ++ rest ∧ Ahead outgoing «to» current chain rest := by
  fun_induction follow outgoing «to» current visited chain with
  | case1 visited chain =>
      constructor
      · intro hresult
        cases hresult
        refine ⟨[], (List.append_nil _).symm, ?_, rfl, ?_⟩
        · exact fun manifest hmem => absurd hmem List.not_mem_nil
        · rw [List.append_nil]
          exact hmatched
      · rintro ⟨rest, hresult, hlisted, hleads, _⟩
        cases rest with
        | nil =>
            rw [hresult, List.append_nil]
        | cons edge later =>
            have hup := h.increasing edge (hlisted edge List.mem_cons_self)
            have hle := le_of_leads
              (fun other hmem =>
                h.increasing other (hlisted other (List.mem_cons_of_mem edge hmem)))
              hleads.right
            rw [hleads.left] at hup
            exact absurd hup (not_lt_of_ge hle)
  | case2 current visited chain hne hcycle =>
      have hless := hvisited current (List.contains_iff_mem.mp hcycle)
      exact absurd hless (lt_irrefl current)
  | case3 current visited chain hne hunvisited hfind =>
      refine iff_of_false (fun hresult => nomatch hresult) ?_
      rintro ⟨rest, _, hlisted, hleads, _⟩
      cases rest with
      | nil =>
          exact hne hleads
      | cons edge later =>
          rcases List.mem_map.mp (hlisted edge List.mem_cons_self) with ⟨held, hheld, heq⟩
          have hnone := List.find?_eq_none.mp hfind held hheld
          apply hnone
          rw [heq, hleads.left]
          exact decide_eq_true rfl
  | case4 current visited chain hne hunvisited index migration hfind hover =>
      refine iff_of_false (fun hresult => nomatch hresult) ?_
      rintro ⟨rest, _, hlisted, hleads, _⟩
      rcases h.follows hfind hne hlisted hleads with ⟨later, hrest, hlater⟩
      have hle := le_of_leads
        (fun other hmem =>
          h.increasing other (hlisted other (hrest ▸ List.mem_cons_of_mem migration hmem)))
        hlater
      exact absurd hover (not_lt_of_ge hle)
  | case5 current visited chain hne hunvisited index migration hfind hwithin hdigest =>
      refine iff_of_false (fun hresult => nomatch hresult) ?_
      rintro ⟨rest, _, hlisted, hleads, hchain⟩
      rcases h.follows hfind hne hlisted hleads with ⟨later, hrest, hlater⟩
      rw [hrest, ← List.singleton_append, ← List.append_assoc] at hchain
      have hconcat := (List.isChain_append.mp hchain).left
      rw [(matched_concat_iff hmatched).mp hconcat] at hdigest
      cases hdigest
  | case6 current visited chain hne hunvisited index migration hfind hwithin hdigest ih =>
      have hconcat := (matched_concat_iff hmatched).mpr (Bool.eq_false_iff.mpr hdigest)
      rcases mem_of_find hfind with ⟨hmem, hsource⟩
      have hup := h.increasing migration hmem
      have hbehind : forall version, version ∈ current :: visited ->
          version < migration.toVersion := by
        intro version hversion
        rw [show migration.fromVersion = current from hsource] at hup
        rcases List.mem_cons.mp hversion with rfl | hearlier
        · exact hup
        · exact lt_trans (hvisited version hearlier) hup
      rw [ih hconcat hbehind]
      constructor
      · rintro ⟨later, hresult, hlisted, hleads, hchain⟩
        rw [List.append_assoc, List.singleton_append] at hresult hchain
        refine ⟨migration :: later, hresult, ?_, And.intro hsource hleads, hchain⟩
        intro manifest hmanifest
        rcases List.mem_cons.mp hmanifest with rfl | hlater
        · exact hmem
        · exact hlisted manifest hlater
      · rintro ⟨rest, hresult, hlisted, hleads, hchain⟩
        rcases h.follows hfind hne hlisted hleads with ⟨later, hrest, hlater⟩
        rw [hrest] at hresult hlisted hchain
        refine ⟨later, ?_, ?_, hlater, ?_⟩
        · rw [List.append_assoc, List.singleton_append]
          exact hresult
        · exact fun manifest hmanifest =>
            hlisted manifest (List.mem_cons_of_mem migration hmanifest)
        · rw [List.append_assoc, List.singleton_append]
          exact hchain

/-!
## Collecting the edges
-/

variable {manifest : MigrationManifest} {other : List MigrationManifest}

theorem isEdge_iff :
    IsEdge manifest <-> manifest.formatVersion = 1 ∧ increases manifest = true := by
  unfold increases
  rw [Bool.and_eq_true, Bool.and_eq_true, decide_eq_true_eq]
  constructor
  · intro hedge
    exact ⟨hedge.format, ⟨hedge.stableFrom, hedge.stableTo⟩, hedge.increasing⟩
  · rintro ⟨hformat, ⟨hfrom, hto⟩, hincreasing⟩
    exact { format := hformat, stableFrom := hfrom, stableTo := hto, increasing := hincreasing }

omit [LinearOrder Version] in
theorem ofSchema_cons_of_ne {schema : String} {manifests : List MigrationManifest}
    (h : manifest.schema ≠ schema) :
    ofSchema schema (manifest :: manifests) = ofSchema schema manifests :=
  List.filter_cons_of_neg (by rwa [decide_eq_true_eq])

omit [LinearOrder Version] in
theorem ofSchema_cons_of_eq {schema : String} {manifests : List MigrationManifest}
    (h : manifest.schema = schema) :
    ofSchema schema (manifest :: manifests) = manifest :: ofSchema schema manifests :=
  List.filter_cons_of_pos (decide_eq_true h)

/-- The versions the edges start at. -/
def sources (outgoing : Outgoing) : List Version :=
  (outgoing.map Prod.snd).map MigrationManifest.fromVersion

omit [LinearOrder Version] in
theorem any_source_iff {version : Version} :
    (outgoing.any fun entry => entry.2.fromVersion = version) = true <->
      version ∈ sources outgoing := by
  unfold sources
  rw [List.any_eq_true, List.map_map, List.mem_map]
  constructor
  · rintro ⟨held, hmem, hsource⟩
    exact ⟨held, hmem, of_decide_eq_true hsource⟩
  · rintro ⟨held, hmem, hsource⟩
    exact ⟨held, hmem, decide_eq_true hsource⟩

omit [LinearOrder Version] in
theorem sources_concat {index : Nat} :
    sources (outgoing ++ [(index, manifest)]) = sources outgoing ++ [manifest.fromVersion] := by
  unfold sources
  rw [List.map_append, List.map_append]
  rfl

theorem collectOutgoing_ok_iff {schema : String} {index : Nat}
    {manifests : List MigrationManifest} (hsingle : (sources outgoing).Nodup) :
    (exists collected, collectOutgoing schema index manifests outgoing = .ok collected) <->
      (forall manifest, manifest ∈ ofSchema schema manifests -> IsEdge manifest) ∧
        (sources outgoing ++
          (ofSchema schema manifests).map MigrationManifest.fromVersion).Nodup := by
  fun_induction collectOutgoing schema index manifests outgoing with
  | case1 index outgoing =>
      refine iff_of_true ⟨outgoing, rfl⟩ (And.intro ?_ ?_)
      · exact fun manifest hmem => absurd hmem List.not_mem_nil
      · rw [show ofSchema schema [] = [] from rfl, List.map_nil, List.append_nil]
        exact hsingle
  | case2 index manifest rest outgoing hne ih =>
      rw [ih hsingle, ofSchema_cons_of_ne hne]
  | case3 index manifest rest outgoing heq hformat =>
      refine iff_of_false (fun ⟨_, hresult⟩ => nomatch hresult) ?_
      rintro ⟨hedges, _⟩
      rw [ofSchema_cons_of_eq (Decidable.not_not.mp heq)] at hedges
      exact hformat (hedges manifest List.mem_cons_self).format
  | case4 index manifest rest outgoing heq hformat hdown =>
      refine iff_of_false (fun ⟨_, hresult⟩ => nomatch hresult) ?_
      rintro ⟨hedges, _⟩
      rw [ofSchema_cons_of_eq (Decidable.not_not.mp heq)] at hedges
      rw [(isEdge_iff.mp (hedges manifest List.mem_cons_self)).right] at hdown
      cases hdown
  | case5 index manifest rest outgoing heq hformat hup htaken =>
      refine iff_of_false (fun ⟨_, hresult⟩ => nomatch hresult) ?_
      rintro ⟨_, hnodup⟩
      rw [ofSchema_cons_of_eq (Decidable.not_not.mp heq), List.map_cons] at hnodup
      exact (List.nodup_append.mp hnodup).right.right _ (any_source_iff.mp htaken) _
        List.mem_cons_self rfl
  | case6 index manifest rest outgoing heq hformat hup hfree ih =>
      have hedge : IsEdge manifest :=
        isEdge_iff.mpr (And.intro (Decidable.not_not.mp hformat) (by simpa using hup))
      have hnew : manifest.fromVersion ∉ sources outgoing :=
        fun hmem => hfree (any_source_iff.mpr hmem)
      have hgrown : (sources (outgoing ++ [(index, manifest)])).Nodup := by
        rw [sources_concat]
        exact List.Nodup.append hsingle (List.nodup_singleton _)
          (List.disjoint_singleton.mpr hnew)
      rw [ih hgrown, ofSchema_cons_of_eq (Decidable.not_not.mp heq), List.forall_mem_cons,
        sources_concat, List.append_assoc, List.map_cons, List.singleton_append]
      constructor
      · rintro ⟨hedges, hnodup⟩
        exact ⟨⟨hedge, hedges⟩, hnodup⟩
      · rintro ⟨⟨_, hedges⟩, hnodup⟩
        exact ⟨hedges, hnodup⟩

theorem collectOutgoing_keeps {schema : String} {index : Nat}
    {manifests : List MigrationManifest} {collected : Outgoing}
    (h : collectOutgoing schema index manifests outgoing = .ok collected) :
    collected.map Prod.snd = outgoing.map Prod.snd ++ ofSchema schema manifests := by
  fun_induction collectOutgoing schema index manifests outgoing with
  | case1 index outgoing =>
      cases h
      exact (List.append_nil _).symm
  | case2 index manifest rest outgoing hne ih =>
      rw [ih h, ofSchema_cons_of_ne hne]
  | case3 | case4 | case5 =>
      cases h
  | case6 index manifest rest outgoing heq hformat hup hfree ih =>
      rw [ih h, ofSchema_cons_of_eq (Decidable.not_not.mp heq), List.map_append,
        List.append_assoc]
      rfl

/-!
## Planning
-/

variable {schema : String} {«from» : Version} {manifests : List MigrationManifest}

theorem plan_eq_ok_iff (hlt : «from» < «to») :
    planMigrationChain schema «from» «to» manifests = .ok chain <->
      WellFormed schema manifests ∧ IsPlan schema «from» «to» manifests chain := by
  have hcollects := @collectOutgoing_ok_iff _ [] schema 0 manifests List.nodup_nil
  rw [planMigrationChain, if_neg (not_lt_of_gt hlt), if_neg (ne_of_lt hlt)]
  cases hcollected : collectOutgoing schema 0 manifests [] with
  | error diagnostics =>
      refine iff_of_false (fun hresult => nomatch hresult) ?_
      rintro ⟨hwell, _⟩
      rcases hcollects.mpr ⟨hwell.edges, hwell.single⟩ with ⟨collected, hok⟩
      cases hcollected.symm.trans hok
  | ok collected =>
      rcases hcollects.mp ⟨collected, hcollected⟩ with ⟨hedges, hsingle⟩
      have hkept : collected.map Prod.snd = ofSchema schema manifests :=
        collectOutgoing_keeps hcollected
      have hsound : Collected collected := by
        constructor
        · rw [hkept]
          exact fun manifest hmem => (hedges manifest hmem).increasing
        · rw [hkept]
          exact hsingle
      have hfollow := @follow_eq_ok_iff _ _ «from» «to» [] [] chain hsound
        List.isChain_nil (fun version hmem => absurd hmem List.not_mem_nil)
      unfold Ahead at hfollow
      rw [hkept] at hfollow
      refine hfollow.trans ?_
      constructor
      · rintro ⟨rest, rfl, hlisted, hleads, hmatched⟩
        exact And.intro { edges := hedges, single := hsingle }
          { listed := hlisted, leads := hleads, matched := hmatched }
      · rintro ⟨_, hplan⟩
        exact ⟨chain, rfl, hplan.listed, hplan.leads, hplan.matched⟩

omit [LinearOrder Version] in
theorem perm_ofSchema {other : List MigrationManifest} (h : other.Perm manifests) :
    (ofSchema schema other).Perm (ofSchema schema manifests) :=
  h.filter _

theorem wellFormed_perm (h : other.Perm manifests) :
    WellFormed schema other <-> WellFormed schema manifests := by
  have hperm := @perm_ofSchema schema _ _ h
  have hsingle := (hperm.map MigrationManifest.fromVersion).nodup_iff
  constructor
  · intro hwell
    exact { edges := fun manifest hmem => hwell.edges manifest (hperm.mem_iff.mpr hmem)
            single := hsingle.mp hwell.single }
  · intro hwell
    exact { edges := fun manifest hmem => hwell.edges manifest (hperm.mem_iff.mp hmem)
            single := hsingle.mpr hwell.single }

omit [LinearOrder Version] in
theorem isPlan_perm (h : other.Perm manifests) :
    IsPlan schema «from» «to» other chain <-> IsPlan schema «from» «to» manifests chain := by
  have hperm := @perm_ofSchema schema _ _ h
  constructor
  · rintro ⟨hlisted, hleads, hmatched⟩
    exact ⟨fun manifest hmem => hperm.mem_iff.mp (hlisted manifest hmem), hleads, hmatched⟩
  · rintro ⟨hlisted, hleads, hmatched⟩
    exact ⟨fun manifest hmem => hperm.mem_iff.mpr (hlisted manifest hmem), hleads, hmatched⟩

theorem WellFormed.unique (hwell : WellFormed schema manifests)
    (h : IsPlan schema «from» «to» manifests chain)
    (h' : IsPlan schema «from» «to» manifests other) : chain = other :=
  leads_unique hwell.single (fun manifest hmem => (hwell.edges manifest hmem).increasing)
    h.listed h'.listed h.leads h'.leads

theorem WellFormed.increasing (hwell : WellFormed schema manifests)
    (h : IsPlan schema «from» «to» manifests chain) :
    («from» :: chain.map MigrationManifest.toVersion).Pairwise
      (fun first second => first < second) :=
  increasing_of_leads
    (fun manifest hmem => (hwell.edges manifest (h.listed manifest hmem)).increasing) h.leads

/-- Between equal versions the plan is empty, whatever the manifests are. Upwards the
planner answers exactly with the only path of well-formed manifests; its versions
increase strictly up to the target, and the order of the list does not matter. -/
theorem plan_exact (hle : «from» <= «to») :
    («from» = «to» -> planMigrationChain schema «from» «to» manifests = .ok []) ∧
    («from» < «to» ->
      (forall chain, planMigrationChain schema «from» «to» manifests = .ok chain <->
        WellFormed schema manifests ∧ IsPlan schema «from» «to» manifests chain) ∧
      (forall chain, planMigrationChain schema «from» «to» manifests = .ok chain ->
        (forall other, IsPlan schema «from» «to» manifests other -> other = chain) ∧
        («from» :: chain.map MigrationManifest.toVersion).Pairwise
          (fun first second => first < second) ∧
        («from» :: chain.map MigrationManifest.toVersion).getLast? = some «to»)) ∧
    (forall other, other.Perm manifests -> forall chain,
      planMigrationChain schema «from» «to» other = .ok chain <->
        planMigrationChain schema «from» «to» manifests = .ok chain) := by
  have hsame : «from» = «to» -> forall manifests,
      planMigrationChain schema «from» «to» manifests = .ok [] := by
    intro heq manifests
    rw [planMigrationChain, if_neg (not_lt_of_ge hle), if_pos heq]
  refine ⟨fun heq => hsame heq manifests, ?_, ?_⟩
  · intro hlt
    refine And.intro (fun chain => plan_eq_ok_iff hlt) ?_
    intro chain hresult
    rcases (plan_eq_ok_iff hlt).mp hresult with ⟨hwell, hplan⟩
    exact ⟨fun other hother => hwell.unique hother hplan, hwell.increasing hplan,
      getLast?_of_leads hplan.leads⟩
  · intro other hperm chain
    rcases lt_or_eq_of_le hle with hlt | heq
    · rw [plan_eq_ok_iff hlt, plan_eq_ok_iff hlt, wellFormed_perm hperm, isPlan_perm hperm]
    · rw [hsame heq other, hsame heq manifests]

/-- A plan through a version is a plan to it and a plan from it that match in their digests. -/
theorem plan_splits {middle : Version} {first second : List MigrationManifest}
    (hlow : «from» < middle) (hhigh : middle < «to») :
    planMigrationChain schema «from» «to» manifests = .ok (first ++ second) ∧
        Walks.Leads MigrationManifest.fromVersion MigrationManifest.toVersion «from» first middle <->
      planMigrationChain schema «from» middle manifests = .ok first ∧
        planMigrationChain schema middle «to» manifests = .ok second ∧
          Matched (first ++ second) := by
  rw [plan_eq_ok_iff (hlow.trans hhigh), plan_eq_ok_iff hlow, plan_eq_ok_iff hhigh]
  constructor
  · rintro ⟨⟨hwell, hlisted, hleads, hmatched⟩, hfirst⟩
    rcases leads_append.mp hleads with ⟨reached, hreached, hsecond⟩
    cases leads_target_unique hreached hfirst
    rcases List.isChain_append.mp hmatched with ⟨hbefore, hafter, _⟩
    refine ⟨⟨hwell, ?_, hfirst, hbefore⟩, ⟨hwell, ?_, hsecond, hafter⟩, hmatched⟩
    · exact fun manifest hmem => hlisted manifest (List.mem_append_left _ hmem)
    · exact fun manifest hmem => hlisted manifest (List.mem_append_right _ hmem)
  · rintro ⟨⟨hwell, hfirst⟩, ⟨_, hsecond⟩, hmatched⟩
    have hleads := leads_append.mpr ⟨middle, hfirst.leads, hsecond.leads⟩
    refine ⟨⟨hwell, ?_, hleads, hmatched⟩, hfirst.leads⟩
    intro manifest hmem
    exact (List.mem_append.mp hmem).elim (hfirst.listed manifest) (hsecond.listed manifest)

end Planning

namespace Sample

/-- Two edges that lead from the first version to the third, listed backwards. -/
def edges : List MigrationManifest :=
  [{ manifest [] with fromVersion := Version.new 2 0 0, toVersion := Version.new 3 0 0 },
    manifest []]

def plan («from» «to» : Nat) (manifests : List MigrationManifest) :
    Except (List Diagnostic) (List MigrationManifest) :=
  @planMigrationChain stableOrder "graph" (Version.new «from» 0 0) (Version.new «to» 0 0) manifests

/-- An edge of an unknown format. -/
def malformed : MigrationManifest :=
  { manifest [] with formatVersion := 2 }

end Sample

theorem plan_exact_of_two_edges : Sample.plan 1 3 Sample.edges = .ok Sample.edges.reverse := by
  let := Sample.stableOrder
  have hedges : forall manifest, manifest ∈ Sample.edges -> IsEdge manifest := by
    intro manifest hmem
    rw [isEdge_iff]
    revert manifest
    decide
  have hplan : IsPlan "graph" (Version.new 1 0 0) (Version.new 3 0 0) Sample.edges
      Sample.edges.reverse := by
    constructor
    · decide
    · exact ⟨rfl, rfl, rfl⟩
    · unfold Matched
      decide
  have hle : Version.new 1 0 0 <= Version.new 3 0 0 := by decide
  have hlt : Version.new 1 0 0 < Version.new 3 0 0 := by decide
  refine ((plan_exact hle).right.left hlt).left Sample.edges.reverse |>.mpr (And.intro ?_ hplan)
  exact { edges := by rwa [show ofSchema "graph" Sample.edges = Sample.edges by decide]
          single := by decide }

theorem plan_splits_at_the_second_version :
    Sample.plan 1 3 Sample.edges = .ok (Sample.edges.drop 1 ++ Sample.edges.take 1) ∧
        Walks.Leads MigrationManifest.fromVersion MigrationManifest.toVersion (Version.new 1 0 0)
          (Sample.edges.drop 1) (Version.new 2 0 0) <->
      Sample.plan 1 2 Sample.edges = .ok (Sample.edges.drop 1) ∧
        Sample.plan 2 3 Sample.edges = .ok (Sample.edges.take 1) ∧
          Matched (Sample.edges.drop 1 ++ Sample.edges.take 1) := by
  let := Sample.stableOrder
  have hlow : Version.new 1 0 0 < Version.new 2 0 0 := by decide
  have hhigh : Version.new 2 0 0 < Version.new 3 0 0 := by decide
  exact plan_splits hlow hhigh

/-- No plan is needed between equal versions, so nothing is checked. -/
theorem plan_of_a_malformed_manifest :
    Sample.plan 1 1 [Sample.malformed] = .ok [] ∧
      Not (@WellFormed Sample.stableOrder "graph" [Sample.malformed]) := by
  let := Sample.stableOrder
  refine And.intro rfl ?_
  intro hwell
  have hformat := (hwell.edges Sample.malformed (by decide)).format
  cases hformat

end Migration
end Evolution
end GraphHelm
