import GraphHelm.Evolution.Compatibility
import GraphHelm.Evolution.Validity

/-!
# Disjoint branches

The proofs that two branches of a `oneOf` share no instance (`compatibility.rs`) against
what a schema accepts: two branches that are read as disjoint accept nothing together.
-/

namespace GraphHelm
namespace Evolution

open Std

/-- Whether every pair of branches in a `oneOf` is provably disjoint. -/
def oneOfBranchesAreProvablyDisjoint (branches : List Json) : Bool :=
  branches.zipIdx.all fun entry =>
    (branches.drop (entry.2 + 1)).all (branchesAreProvablyDisjoint entry.1)

/-!
## What an accepting schema says of its instance
-/

def ValidUnder (texts : TextAssertions) (resources : CatalogResources) (owner : String)
    (schema value : Json) : Prop :=
  exists enough : Nat, forall levels, enough <= levels ->
    (readSchema texts resources levels owner schema value).isSome = true

variable {constraint : Json} {keyword name : String} {members : List (String × Json)}
    {branches : List Json}

section Reads

variable {texts : TextAssertions} {resources : CatalogResources} {owner : String}
  {schema value : Json} {keywords : List (String × Json)} {levels : Nat}

def Reads (texts : TextAssertions) (resources : CatalogResources) (owner : String)
    (schema value : Json) : Prop :=
  exists levels, (readSchema texts resources levels owner schema value).isSome = true

theorem ValidUnder.reads (h : ValidUnder texts resources owner schema value) :
    Reads texts resources owner schema value := by
  rcases h with ⟨enough, hlevels⟩
  exact ⟨enough, hlevels enough (Nat.le_refl _)⟩

theorem isSome_of_mem_allOfThem {readings : List (Option (List String))}
    {reading : Option (List String)} (h : (allOfThem readings).isSome = true)
    (hmem : reading ∈ readings) : reading.isSome = true := by
  unfold allOfThem at h
  rw [Option.isSome_map] at h
  induction readings with
  | nil =>
      cases hmem
  | cons first rest ih =>
      rw [List.mapM_cons] at h
      cases first with
      | none =>
          cases h
      | some evaluated =>
          rcases List.mem_cons.mp hmem with rfl | hrest
          · rfl
          · refine ih ?_ hrest
            cases hlater : rest.mapM id with
            | none =>
                rw [hlater] at h
                cases h
            | some later =>
                rfl

theorem Reads.parts (h : Reads texts resources owner (.object keywords) value) :
    exists below, meetsAssertions texts keywords value = true ∧
      (readReference (fun reference =>
        ((absoluteReference resources owner reference).bind (referencedValue resources)).bind
          fun target => readSchema texts resources below target.1 target.2 value)
        keywords).isSome = true ∧
      (readProperties (readSchema texts resources below owner) keywords value).isSome = true ∧
      (readOneOf (readSchema texts resources below owner) keywords value).isSome = true := by
  rcases h with ⟨levels, hread⟩
  cases levels with
  | zero =>
      cases hread
  | succ below =>
      refine ⟨below, ?_⟩
      unfold readSchema at hread
      unfold readKeywords at hread
      split at hread
      · rename_i hassertions
        rcases Option.isSome_iff_exists.mp hread with ⟨_, hevaluated⟩
        rcases Option.bind_eq_some_iff.mp hevaluated with ⟨evaluated, heq, _⟩
        have hall : (allOfThem _).isSome = true := Option.isSome_iff_exists.mpr ⟨evaluated, heq⟩
        refine ⟨hassertions, ?_, ?_, ?_⟩
        · exact isSome_of_mem_allOfThem hall (by simp)
        · exact isSome_of_mem_allOfThem hall (by simp)
        · exact isSome_of_mem_allOfThem hall (by simp)
      · cases hread

theorem meets_of_mem {meets : Json -> Json -> Bool}
    (h : meetsAssertions texts keywords value = true) (hmem : (keyword, meets) ∈ assertions texts)
    (hlookup : keywords.lookup keyword = some constraint) : meets value constraint = true := by
  have hmeets := List.all_eq_true.mp h (keyword, meets) hmem
  dsimp only at hmeets
  rw [hlookup, Option.all_some] at hmeets
  exact hmeets

theorem object_of_get (h : schema.get keyword = some constraint) :
    exists keywords, schema = .object keywords ∧ keywords.lookup keyword = some constraint := by
  cases schema with
  | object keywords => exact ⟨keywords, rfl, h⟩
  | null => cases h
  | bool _ => cases h
  | number _ => cases h
  | string _ => cases h
  | array _ => cases h

theorem eq_array_of_asArray {items : List Json} (h : value.asArray = some items) :
    value = .array items := by
  cases value with
  | array held => exact congrArg Json.array (Option.some.inj h)
  | null => cases h
  | bool _ => cases h
  | number _ => cases h
  | string _ => cases h
  | object _ => cases h

theorem eq_string_of_asString {text : String} (h : value.asString = some text) :
    value = .string text := by
  cases value with
  | string held => exact congrArg Json.string (Option.some.inj h)
  | null => cases h
  | bool _ => cases h
  | number _ => cases h
  | array _ => cases h
  | object _ => cases h

theorem mem_of_mapM_asString {names : List Json} {texts : List String}
    (h : names.mapM Json.asString = some texts) {name : Json} (hmem : name ∈ names) :
    exists text, text ∈ texts ∧ name.asString = some text := by
  induction names generalizing texts with
  | nil =>
      cases hmem
  | cons first rest ih =>
      rw [List.mapM_cons] at h
      rcases Option.bind_eq_some_iff.mp h with ⟨text, hfirst, hlater⟩
      rcases Option.bind_eq_some_iff.mp hlater with ⟨later, hrest, heq⟩
      cases heq
      rcases List.mem_cons.mp hmem with rfl | hmemRest
      · exact ⟨text, List.mem_cons_self, hfirst⟩
      · rcases ih hrest hmemRest with ⟨found, hfound, hname⟩
        exact ⟨found, List.mem_cons_of_mem _ hfound, hname⟩

theorem Reads.hasType {types : List String} (h : Reads texts resources owner schema value)
    (htypes : branchTypeSet schema = some types) :
    exists name, name ∈ types ∧ hasType value name = true := by
  unfold branchTypeSet at htypes
  rcases Option.bind_eq_some_iff.mp htypes with ⟨named, hget, hnamed⟩
  rcases object_of_get hget with ⟨keywords, rfl, hlookup⟩
  rcases h.parts with ⟨_, hassertions, _⟩
  have hmeets : meetsType value named = true :=
    meets_of_mem hassertions (by unfold assertions; exact List.mem_cons_self) hlookup
  cases named with
  | string name =>
      cases hnamed
      exact ⟨name, List.mem_singleton.mpr rfl, hmeets⟩
  | array names =>
      rcases List.any_eq_true.mp hmeets with ⟨name, hmem, hany⟩
      rcases mem_of_mapM_asString hnamed hmem with ⟨text, htext, hname⟩
      rw [hname, Option.any_some] at hany
      exact ⟨text, htext, hany⟩
  | null => cases hnamed
  | bool _ => cases hnamed
  | number _ => cases hnamed
  | object _ => cases hnamed

theorem not_hasType_of_disjoint {left right : String} (h : typesAreDisjoint left right = true)
    (hleft : hasType value left = true) : Evolution.hasType value right = false := by
  unfold typesAreDisjoint at h
  rw [Bool.and_eq_true, decide_eq_true_eq, Bool.not_eq_true', Bool.or_eq_false_iff] at h
  rcases h with ⟨hne, hmixed, hswapped⟩
  unfold Evolution.hasType at hleft ⊢
  rw [Bool.eq_false_iff]
  intro hright
  cases value with
  | number number =>
      simp only [Bool.or_eq_true, decide_eq_true_eq, Bool.and_eq_true] at hleft hright
      simp only [Bool.and_eq_false_iff, decide_eq_false_iff_not] at hmixed hswapped
      grind
  | null =>
      exact hne ((of_decide_eq_true hleft).trans (of_decide_eq_true hright).symm)
  | bool _ =>
      exact hne ((of_decide_eq_true hleft).trans (of_decide_eq_true hright).symm)
  | string _ =>
      exact hne ((of_decide_eq_true hleft).trans (of_decide_eq_true hright).symm)
  | array _ =>
      exact hne ((of_decide_eq_true hleft).trans (of_decide_eq_true hright).symm)
  | object _ =>
      exact hne ((of_decide_eq_true hleft).trans (of_decide_eq_true hright).symm)

theorem Reads.isObject (h : Reads texts resources owner schema value)
    (honly : branchIsObjectOnly schema = true) : exists members, value = .object members := by
  unfold branchIsObjectOnly at honly
  split at honly
  · rename_i types htypes
    rcases h.hasType htypes with ⟨name, hmem, htype⟩
    rw [Bool.and_eq_true] at honly
    have hname : name = "object" := of_decide_eq_true (List.all_eq_true.mp honly.right name hmem)
    rw [hname] at htype
    cases value with
    | object members => exact ⟨members, rfl⟩
    | null => cases htype
    | bool _ => cases htype
    | number _ => cases htype
    | string _ => cases htype
    | array _ => cases htype
  · cases honly

theorem Reads.carries (h : Reads texts resources owner schema (.object members))
    (hmem : name ∈ requiredPropertyNames schema) :
    exists held, members.lookup name = some held := by
  unfold requiredPropertyNames at hmem
  split at hmem
  · rename_i names hrequired
    rcases Option.bind_eq_some_iff.mp hrequired with ⟨required, hget, hnames⟩
    rcases object_of_get hget with ⟨keywords, rfl, hlookup⟩
    rcases h.parts with ⟨_, hassertions, _⟩
    have hmeets : meetsRequired (.object members) required = true :=
      meets_of_mem hassertions (by unfold assertions; simp) hlookup
    rw [eq_array_of_asArray hnames] at hmeets
    rcases List.mem_filterMap.mp hmem with ⟨named, hnamed, htext⟩
    have hcarried := List.all_eq_true.mp hmeets named hnamed
    rw [htext, Option.all_some] at hcarried
    exact Option.isSome_iff_exists.mp hcarried
  · cases hmem

theorem Reads.property {properties : List (String × Json)} {held nested : Json}
    (h : Reads texts resources owner schema (.object members))
    (hproperties : (schema.get "properties").bind Json.asObject = some properties)
    (hschema : properties.lookup name = some nested) (hheld : members.lookup name = some held) :
    Reads texts resources owner nested held := by
  rcases Option.bind_eq_some_iff.mp hproperties with ⟨children, hget, hchildren⟩
  rcases object_of_get hget with ⟨keywords, rfl, hlookup⟩
  rcases h.parts with ⟨below, _, _, hread, _⟩
  have hnamed : propertiesOf keywords = properties := by
    unfold propertiesOf
    rw [hlookup, Option.bind_some, hchildren, Option.getD_some]
  unfold readProperties readMembers at hread
  dsimp only at hread
  rw [hnamed] at hread
  split at hread
  · rename_i hall
    rcases List.lookup_eq_some_iff.mp hheld with ⟨before, after, hsplit, _⟩
    have hmem : (name, held) ∈ membersOf (.object members) := by
      show (name, held) ∈ members
      rw [hsplit]
      exact List.mem_append_right _ List.mem_cons_self
    have haccepted := List.all_eq_true.mp hall (name, held)
      (List.mem_filter.mpr (And.intro hmem (by rw [hschema, Option.isSome_some])))
    dsimp only at haccepted
    rw [hschema, Option.all_some] at haccepted
    exact ⟨below, haccepted⟩
  · cases hread

theorem Reads.pinned {tag : String} (h : Reads texts resources owner schema value)
    (hconst : schema.get "const" = some (.string tag)) : value = .string tag := by
  rcases object_of_get hconst with ⟨keywords, rfl, hlookup⟩
  rcases h.parts with ⟨_, hassertions, _⟩
  have hmeets : sameInstance value (.string tag) = true :=
    meets_of_mem hassertions (by unfold assertions; simp) hlookup
  cases value with
  | string text =>
      unfold sameInstance at hmeets
      rw [of_decide_eq_true hmeets]
  | null => cases hmeets
  | bool _ => cases hmeets
  | number _ => cases hmeets
  | array _ => cases hmeets
  | object _ => cases hmeets

end Reads

/-!
## Branches read on their own
-/

section Branches

variable {texts : TextAssertions} {resources resources' : CatalogResources}
  {owner owner' : String} {left right value : Json}

theorem tags_of_tagsDiffer {first second : Option Json} (h : tagsDiffer first second = true) :
    exists firstTag secondTag, first = some (.string firstTag) ∧
      second = some (.string secondTag) ∧ firstTag ≠ secondTag := by
  unfold tagsDiffer at h
  split at h
  · rename_i firstTag secondTag
    exact ⟨firstTag, secondTag, rfl, rfl, of_decide_eq_true h⟩
  · cases h

/-- A branch that pins a property pins what its instances carry there. -/
theorem Reads.tagged {tag : String} {held : Json}
    (h : Reads texts resources owner left (.object members))
    (hconst : constOfProperty left name = some (.string tag))
    (hheld : members.lookup name = some held) : held = .string tag := by
  unfold constOfProperty at hconst
  rcases Option.bind_eq_some_iff.mp hconst with ⟨children, hget, hrest⟩
  rcases Option.bind_eq_some_iff.mp hrest with ⟨properties, hobject, hlater⟩
  rcases Option.bind_eq_some_iff.mp hlater with ⟨nested, hlookup, hpinned⟩
  have hproperties : (left.get "properties").bind Json.asObject = some properties := by
    rw [hget, Option.bind_some, hobject]
  exact (h.property hproperties hlookup hheld).pinned hpinned

/-- Both branches require one property of an object and pin it to different texts. -/
theorem discriminators_sound (h : discriminatorsAreDisjoint left right = true)
    (hleft : Reads texts resources owner left value) :
    ¬Reads texts resources' owner' right value := by
  intro hright
  unfold discriminatorsAreDisjoint at h
  simp only [Bool.and_eq_true] at h
  rcases h with ⟨⟨_, honly⟩, hany⟩
  rcases List.any_eq_true.mp hany with ⟨name, hname, htags⟩
  rw [Bool.and_eq_true, List.contains_iff_mem] at htags
  rcases tags_of_tagsDiffer htags.right with ⟨leftTag, rightTag, hleftTag, hrightTag, hne⟩
  rcases hright.isObject honly with ⟨members, rfl⟩
  rcases hleft.carries hname with ⟨held, hheld⟩
  have hsame := (hleft.tagged hleftTag hheld).symm.trans (hright.tagged hrightTag hheld)
  exact hne (Json.string.inj hsame)

theorem types_sound (h : branchTypesAreDisjoint left right = true)
    (hleft : Reads texts resources owner left value) :
    ¬Reads texts resources' owner' right value := by
  intro hright
  unfold branchTypesAreDisjoint at h
  split at h
  · rename_i leftTypes rightTypes hleftTypes hrightTypes
    rcases hleft.hasType hleftTypes with ⟨leftType, hleftMem, hleftHas⟩
    rcases hright.hasType hrightTypes with ⟨rightType, hrightMem, hrightHas⟩
    have hdisjoint := List.all_eq_true.mp (List.all_eq_true.mp h leftType hleftMem) rightType
      hrightMem
    rw [not_hasType_of_disjoint hdisjoint hleftHas] at hrightHas
    cases hrightHas
  · cases h

theorem branches_sound (h : branchesAreProvablyDisjoint left right = true)
    (hleft : Reads texts resources owner left value) :
    ¬Reads texts resources' owner' right value := by
  unfold branchesAreProvablyDisjoint at h
  rcases Bool.or_eq_true_iff.mp h with hdiscriminators | htypes
  · exact discriminators_sound hdiscriminators hleft
  · exact types_sound htypes hleft

theorem branches_of_oneOf {first second : Nat}
    (h : oneOfBranchesAreProvablyDisjoint branches = true) (hlt : first < second)
    (hfirst : branches[first]? = some left) (hsecond : branches[second]? = some right) :
    branchesAreProvablyDisjoint left right = true := by
  unfold oneOfBranchesAreProvablyDisjoint at h
  have hentry : (left, first) ∈ branches.zipIdx :=
    List.mem_zipIdx_iff_getElem?.mpr hfirst
  have hall := List.all_eq_true.mp h (left, first) hentry
  refine List.all_eq_true.mp hall right (List.mem_iff_getElem?.mpr ⟨second - (first + 1), ?_⟩)
  rw [List.getElem?_drop, ← hsecond]
  congr 1
  omega

end Branches

/-!
## Branches read with their document
-/

/-- The keywords beside a document's union that the nested proof reads. -/
def siblingKeywords (document : Json) : Json :=
  .object ((membersOf document).filter fun member =>
    member.1 = "type" || member.1 = "required" || member.1 = "properties")

section Documents

variable {texts : TextAssertions} {resources : CatalogResources} {owner : String}
  {document left right value : Json}

theorem lookup_filter {keeps : String × Json -> Bool}
    (h : forall member, keeps (keyword, member) = true) :
    (members.filter keeps).lookup keyword = members.lookup keyword := by
  induction members with
  | nil =>
      rfl
  | cons member rest ih =>
      rcases member with ⟨other, held⟩
      rw [List.filter_cons]
      rcases Decidable.em (keyword = other) with rfl | hne
      · rw [h held, if_pos rfl, List.lookup_cons_self, List.lookup_cons_self]
      · have hother : (keyword == other) = false := beq_eq_false_iff_ne.mpr hne
        split
        · rw [List.lookup_cons, List.lookup_cons, hother, ih]
        · rw [List.lookup_cons, hother, ih]

theorem get_siblingKeywords
    (hkeyword : keyword = "type" ∨ keyword = "required" ∨ keyword = "properties")
    (h : document.get keyword = some constraint) :
    (siblingKeywords document).get keyword = some constraint := by
  rcases object_of_get h with ⟨members, rfl, hlookup⟩
  unfold siblingKeywords
  show List.lookup keyword (List.filter _ members) = some constraint
  rw [lookup_filter, hlookup]
  intro held
  rcases hkeyword with rfl | rfl | rfl
  · rfl
  · rfl
  · rfl

theorem Reads.referenced {schema : Json} {reference absolute : String} {target : String × Json}
    (h : Reads texts resources owner schema value)
    (hget : (schema.get "$ref").bind Json.asString = some reference)
    (hresolve : resolveReference resources owner reference = some absolute)
    (htarget : referencedValue resources absolute = some target) :
    Reads texts resources target.1 target.2 value := by
  rcases Option.bind_eq_some_iff.mp hget with ⟨named, hlookup, hstring⟩
  rcases object_of_get hlookup with ⟨keywords, rfl, hkeyword⟩
  rcases h.parts with ⟨below, _, hreference, _⟩
  unfold resolveReference at hresolve
  have habsolute := (Option.filter_eq_some_iff.mp hresolve).left
  unfold readReference at hreference
  rw [hkeyword] at hreference
  dsimp only at hreference
  rw [hstring, Option.bind_some, habsolute, Option.bind_some, htarget, Option.bind_some]
    at hreference
  exact ⟨below, hreference⟩

theorem Reads.branch {schema : Json} (h : Reads texts resources owner schema value)
    (hbranches : (schema.get "oneOf").bind Json.asArray = some branches) :
    exists branch, branch ∈ branches ∧ Reads texts resources owner branch value := by
  rcases Option.bind_eq_some_iff.mp hbranches with ⟨union, hget, hitems⟩
  rcases object_of_get hget with ⟨keywords, rfl, hlookup⟩
  rcases h.parts with ⟨below, _, _, _, hread⟩
  unfold readOneOf branchesOf at hread
  rw [hlookup, Option.bind_some, hitems] at hread
  dsimp only at hread
  split at hread
  · rename_i evaluated haccepted
    have hmem : evaluated ∈ branches.filterMap fun branch =>
        readSchema texts resources below owner branch value := by
      rw [haccepted]
      exact List.mem_singleton.mpr rfl
    rcases List.mem_filterMap.mp hmem with ⟨branch, hbranch, hsome⟩
    exact ⟨branch, hbranch, below, Option.isSome_iff_exists.mpr ⟨evaluated, hsome⟩⟩
  · cases hread

theorem mem_commonRequirements {branch : Json} (h : name ∈ commonRequirements branches)
    (hbranch : branch ∈ branches) :
    name ∈ requiredPropertyNames branch := by
  cases branches with
  | nil =>
      cases hbranch
  | cons first rest =>
      unfold commonRequirements at h
      rw [List.mem_filter] at h
      rcases List.mem_cons.mp hbranch with rfl | hrest
      · exact h.left
      · exact List.contains_iff_mem.mp (List.all_eq_true.mp h.right branch hrest)

theorem Reads.union {properties : List (String × Json)} {outer inner : String} {property : Json}
    (h : Reads texts resources owner property value)
    (hproperty : properties.lookup outer = some property)
    (hunion : referencedUnion resources owner properties outer = some branches)
    (hinner : inner ∈ commonRequirements branches) :
    exists nested held, value = .object nested ∧ nested.lookup inner = some held := by
  unfold referencedUnion at hunion
  rcases Option.bind_eq_some_iff.mp hunion with ⟨found, hfound, hunion⟩
  cases hproperty.symm.trans hfound
  rcases Option.bind_eq_some_iff.mp hunion with ⟨referring, hreferring, hunion⟩
  rcases Option.bind_eq_some_iff.mp hunion with ⟨reference, hreference, hunion⟩
  rcases Option.bind_eq_some_iff.mp hunion with ⟨absolute, habsolute, hunion⟩
  rcases Option.bind_eq_some_iff.mp hunion with ⟨target, htarget, hunion⟩
  rcases Option.bind_eq_some_iff.mp hunion with ⟨listed, hlisted, hunion⟩
  rcases Option.bind_eq_some_iff.mp hunion with ⟨members, hmembers, hguard⟩
  split at hguard
  · rename_i honly
    cases hguard
    have hget : (property.get "$ref").bind Json.asString = some reference := by
      rw [hreferring, Option.bind_some, hreference]
    have hbranches : (target.2.get "oneOf").bind Json.asArray = some branches := by
      rw [hlisted, Option.bind_some, hmembers]
    have htargetReads := h.referenced hget habsolute htarget
    rcases htargetReads.branch hbranches with ⟨branch, hbranch, hbranchReads⟩
    have hobject : exists nested, value = .object nested := by
      rw [Bool.and_eq_true, Bool.or_eq_true] at honly
      rcases honly.right with htargetOnly | hbranchesOnly
      · exact htargetReads.isObject htargetOnly
      · exact hbranchReads.isObject (List.all_eq_true.mp hbranchesOnly branch hbranch)
    rcases hobject with ⟨nested, rfl⟩
    rcases hbranchReads.carries (mem_commonRequirements hinner hbranch) with ⟨held, hheld⟩
    exact ⟨nested, held, rfl, hheld⟩
  · cases hguard

theorem carries_pair {pairs : List (String × String)} {outer inner : String}
    (hpairs : documentRequiredNestedPairs resources owner = some pairs)
    (hmem : (outer, inner) ∈ pairs) (hdocument : resources.schemas[owner]? = some document)
    (h : Reads texts resources owner (siblingKeywords document) value) :
    exists members nested held, value = .object members ∧
      members.lookup outer = some (.object nested) ∧ nested.lookup inner = some held := by
  unfold documentRequiredNestedPairs at hpairs
  rcases Option.bind_eq_some_iff.mp hpairs with ⟨found, hfound, hpairs⟩
  cases hdocument.symm.trans hfound
  split at hpairs
  · rename_i htype
    rcases Option.bind_eq_some_iff.mp hpairs with ⟨listed, hlisted, hpairs⟩
    rcases Option.bind_eq_some_iff.mp hpairs with ⟨required, hrequired, hpairs⟩
    rcases Option.bind_eq_some_iff.mp hpairs with ⟨children, hchildren, hpairs⟩
    rcases Option.bind_eq_some_iff.mp hpairs with ⟨properties, hproperties, hpairs⟩
    cases hpairs
    rcases List.mem_flatMap.mp hmem with ⟨name, hname, hpair⟩
    rcases Option.bind_eq_some_iff.mp htype with ⟨typed, htyped, htypeText⟩
    rw [eq_string_of_asString htypeText] at htyped
    -- the document's own keywords make the instance an object that carries the outer name
    have honly : branchIsObjectOnly (siblingKeywords document) = true := by
      unfold branchIsObjectOnly branchTypeSet
      rw [get_siblingKeywords (Or.inl rfl) htyped]
      rfl
    have hnamed : name ∈ requiredPropertyNames (siblingKeywords document) := by
      unfold requiredPropertyNames
      rw [get_siblingKeywords (Or.inr (Or.inl rfl)) hlisted, Option.bind_some, hrequired]
      exact hname
    have hpropertiesHere :
        ((siblingKeywords document).get "properties").bind Json.asObject = some properties := by
      rw [get_siblingKeywords (Or.inr (Or.inr rfl)) hchildren, Option.bind_some, hproperties]
    rcases h.isObject honly with ⟨members, rfl⟩
    rcases h.carries hnamed with ⟨nested, hnested⟩
    split at hpair
    · cases hpair
    · rename_i branches hunion
      rcases List.mem_map.mp hpair with ⟨common, hcommon, heq⟩
      cases heq
      have hschema : exists property, properties.lookup outer = some property := by
        unfold referencedUnion at hunion
        rcases Option.bind_eq_some_iff.mp hunion with ⟨property, hproperty, _⟩
        exact ⟨property, hproperty⟩
      rcases hschema with ⟨property, hproperty⟩
      have hread := h.property hpropertiesHere hproperty hnested
      rcases hread.union hproperty hunion hcommon with ⟨inside, held, rfl, hheld⟩
      exact ⟨members, inside, held, rfl, hnested, hheld⟩
  · cases hpairs

/-- What a branch pins two properties down is what its instances carry there. -/
theorem Reads.taggedAtPath {nested : List (String × Json)} {outer inner tag : String}
    {held : Json} (h : Reads texts resources owner left (.object members))
    (hconst : constAtPath left outer inner = some (.string tag))
    (houter : members.lookup outer = some (.object nested))
    (hinner : nested.lookup inner = some held) : held = .string tag := by
  unfold constAtPath at hconst
  rcases Option.bind_eq_some_iff.mp hconst with ⟨children, hget, hconst⟩
  rcases Option.bind_eq_some_iff.mp hconst with ⟨properties, hobject, hconst⟩
  rcases Option.bind_eq_some_iff.mp hconst with ⟨first, hfirst, hconst⟩
  have hproperties : (left.get "properties").bind Json.asObject = some properties := by
    rw [hget, Option.bind_some, hobject]
  exact (h.property hproperties hfirst houter).tagged hconst hinner

theorem nested_sound {baseline candidate resources' : CatalogResources} {owner' : String}
    (h : nestedDiscriminatorsAreDisjoint baseline candidate owner left right = true)
    (hdocument : baseline.schemas[owner]? = some document)
    (hsiblings : Reads texts baseline owner (siblingKeywords document) value)
    (hleft : Reads texts baseline owner left value) :
    ¬Reads texts resources' owner' right value := by
  intro hright
  unfold nestedDiscriminatorsAreDisjoint at h
  split at h
  · rename_i leftPairs rightPairs hleftPairs hrightPairs
    rcases List.any_eq_true.mp h with ⟨⟨outer, inner⟩, hmem, htags⟩
    rw [Bool.and_eq_true] at htags
    rcases tags_of_tagsDiffer htags.right with ⟨leftTag, rightTag, hleftTag, hrightTag, hne⟩
    rcases carries_pair hleftPairs hmem hdocument hsiblings with
      ⟨members, nested, held, rfl, houter, hinner⟩
    have hsame := (hleft.taggedAtPath hleftTag houter hinner).symm.trans
      (hright.taggedAtPath hrightTag houter hinner)
    exact hne (Json.string.inj hsame)
  · cases h

end Documents

namespace Sample

def eventId : String := "https://p50.dev/schemas/event-envelope.schema.json"

def eventBranch (tag : String) : Json :=
  .object [("properties", .object [("kind", .object [("properties",
    .object [("type", .object [("const", .string tag)])])])])]

def eventDocument : Json :=
  .object [("$defs", .object [("eventKind", .object [("oneOf",
      .array [.object [("required", .array [.string "type"]), ("type", .string "object")]])])]),
    ("oneOf", .array [eventBranch "started", eventBranch "stopped"]),
    ("properties", .object [("kind", .object [("$ref", .string "#/$defs/eventKind")])]),
    ("required", .array [.string "kind"]), ("type", .string "object")]

def eventEntry : CatalogEntry :=
  { id := eventId
    documentVersion := Version.new 1 0 0 }

def events : CatalogResources :=
  { catalogSource := "schemas/catalog.json"
    catalog :=
      { releaseVersion := Version.new 1 0 0
        schemas := ExtTreeMap.ofList [("event-envelope", eventEntry)] }
    schemas := ExtTreeMap.ofList [("event-envelope", eventDocument)] }

def startedEvent : Json :=
  .object [("kind", .object [("type", .string "started")])]

def plainTexts : TextAssertions :=
  { pattern := fun _ _ => true
    format := fun _ _ => true }

end Sample

end Evolution
end GraphHelm
