import GraphHelm.Evolution.Compatibility

/-!
# The edits that narrow a document

The edits of a schema document that the design of the comparison lists as
breaking, as a relation between two documents: what one keyword loses, at any
position the comparison goes into. Every such edit is a breaking change of the
comparison, however deep it stands.
-/

namespace GraphHelm
namespace Evolution

/-- Something in a comparison is breaking. -/
def Breaks (findings : List Finding) : Prop :=
  exists finding, finding ∈ findings ∧ finding.kind = .breaking

theorem breaks_breaking (pointer left right : String) : Breaks [breaking pointer left right] :=
  ⟨_, List.mem_singleton_self _, rfl⟩

variable {key : String} {value : Json} {left right : List (String × Json)}

theorem Breaks.flatMap {keys : List String} {compare : String -> List Finding} (hkey : key ∈ keys)
    (h : Breaks (compare key)) : Breaks (keys.flatMap compare) := by
  rcases h with ⟨finding, hfinding, hkind⟩
  exact ⟨finding, List.mem_flatMap.mpr ⟨key, hkey, hfinding⟩, hkind⟩

/-!
## Keys of two objects
-/

theorem mem_keys_of_lookup {members : List (String × Json)}
    (h : members.lookup key = some value) : key ∈ members.map Prod.fst := by
  induction members with
  | nil =>
      cases h
  | cons member rest ih =>
      rcases member with ⟨name, first⟩
      rw [List.lookup_cons] at h
      by_cases heq : key = name
      · exact List.mem_cons.mpr (Or.inl heq)
      · rw [beq_eq_false_iff_ne.mpr heq] at h
        exact List.mem_cons_of_mem _ (ih h)

theorem mem_keysOf :
    key ∈ keysOf left right <-> key ∈ left.map Prod.fst ∨ key ∈ right.map Prod.fst := by
  unfold keysOf
  rw [Std.ExtTreeSet.mem_toList, Std.ExtTreeSet.mem_ofList, List.contains_iff_mem,
    List.mem_append]

theorem mem_keysOf_left (h : left.lookup key = some value) : key ∈ keysOf left right :=
  mem_keysOf.mpr (Or.inl (mem_keys_of_lookup h))

theorem mem_keysOf_of_ne (h : left.lookup key ≠ right.lookup key) : key ∈ keysOf left right := by
  cases hleft : left.lookup key with
  | some value =>
      exact mem_keysOf_left hleft
  | none =>
      cases hright : right.lookup key with
      | some value =>
          exact mem_keysOf.mpr (Or.inr (mem_keys_of_lookup hright))
      | none =>
          rw [hleft, hright] at h
          exact absurd rfl h

/-!
## One keyword
-/

/-- A schema, or a policy for extra properties, that was opened and is not any more. -/
inductive Closed : Json -> Json -> Prop
  | rejectsAll : Closed (.bool true) (.bool false)
  | constrained {keywords : List (String × Json)} : Closed (.bool true) (.object keywords)
  | emptied {keywords : List (String × Json)} : Closed (.object keywords) (.bool false)

namespace KeywordArm

def constrains : KeywordArm -> Bool
  | .validationSet | .const | .bound _ | .opaqueConstraint | .items | .prefixItems
  | .composition | .negation => true
  | _ => false

/-- A keyword whose values are not compared with each other. -/
def exact : KeywordArm -> Bool
  | .const | .opaqueConstraint | .negation => true
  | _ => false

end KeywordArm

section Edits

variable (baseline candidate : CatalogResources) (owner : String)

/-- What an edit takes away under one keyword, between its baseline and its candidate value. -/
inductive KeywordNarrowed : String -> Option Json -> Option Json -> Prop
  | requirementAdded {left right : Option Json} {lefts rights : List String} {name : String}
      (hleft : stringSetOrEmpty left = some lefts)
      (hright : stringSetOrEmpty right = some rights)
      (hadded : name ∈ rights) (hnew : name ∉ lefts) :
      KeywordNarrowed "required" left right
  | introduced {keyword : String} {value : Json}
      (harm : (keywordArm keyword).constrains = true) :
      KeywordNarrowed keyword none (some value)
  | replaced {keyword : String} {left right : Json}
      (harm : (keywordArm keyword).exact = true) :
      KeywordNarrowed keyword (some left) (some right)
  | typeRemoved {left right : Json} {lefts rights : List String}
      (hleft : typeValueSet left = some lefts) (hright : typeValueSet right = some rights)
      (hremoved : typeDomainIsSubset lefts rights = false) :
      KeywordNarrowed "type" (some left) (some right)
  | valueRemoved {left right value : Json} {lefts rights : List Json}
      (hleft : validationSet (some left) = some lefts)
      (hright : validationSet (some right) = some rights)
      (hvalue : value ∈ lefts) (hremoved : value ∉ rights) :
      KeywordNarrowed "enum" (some left) (some right)
  | boundTightened {keyword : String} {direction : BoundDirection} {left right : Json}
      {leftBound rightBound : Rat} (harm : keywordArm keyword = .bound direction)
      (hleft : asDouble left = some leftBound) (hright : asDouble right = some rightBound)
      (htight : relaxed direction leftBound rightBound = false) :
      KeywordNarrowed keyword (some left) (some right)
  | tailClosed {keyword : String} {left right : Option Json}
      (harm : keywordArm keyword = .tailSchema)
      (hclosed : Closed (left.getD (.bool true)) (right.getD (.bool true))) :
      KeywordNarrowed keyword left right
  | branchRemoved {keyword : String} {left right branch : Json} {lefts rights : List Json}
      (harm : keywordArm keyword = .composition) (hkeyword : keyword ≠ "allOf")
      (hleft : compositionSet baseline owner left = some lefts)
      (hright : compositionSet candidate owner right = some rights)
      (hbranch : branch ∈ lefts) (hremoved : branch ∉ rights) :
      KeywordNarrowed keyword (some left) (some right)
  | branchAdded {left right branch : Json} {lefts rights : List Json}
      (hleft : compositionSet baseline owner left = some lefts)
      (hright : compositionSet candidate owner right = some rights)
      (hbranch : branch ∈ rights) (hadded : branch ∉ lefts) :
      KeywordNarrowed "allOf" (some left) (some right)
  | rebound {left right : Option Json}
      (hresolved : resolvedReference baseline owner left ≠ resolvedReference candidate owner right) :
      KeywordNarrowed "$ref" left right
  | renamed {left right : Option Json} : KeywordNarrowed "$id" left right
  | unproven {keyword : String} {left right : Option Json}
      (harm : keywordArm keyword = .unproven) : KeywordNarrowed keyword left right

/-!
## Documents
-/

def membersUnder (keywords : List (String × Json)) (keyword : String) : List (String × Json) :=
  ((keywords.lookup keyword).bind Json.asObject).getD []

inductive Narrowed : Json -> Json -> Prop
  | closed {left right : Json} (hclosed : Closed left right) : Narrowed left right
  | keyword {left right : List (String × Json)} {keyword : String}
      (hchanged : left.lookup keyword ≠ right.lookup keyword)
      (hconst : keyword = "enum" -> stringConstExpansion left right = false)
      (hkeyword : KeywordNarrowed baseline candidate owner keyword (left.lookup keyword)
        (right.lookup keyword)) :
      Narrowed (.object left) (.object right)
  | propertyRemoved {left right : List (String × Json)} {property : String} {schema : Json}
      (hleft : (membersUnder left "properties").lookup property = some schema)
      (hremoved : (membersUnder right "properties").lookup property = none) :
      Narrowed (.object left) (.object right)
  | property {left right : List (String × Json)} {property : String} {leftSchema rightSchema : Json}
      (hleft : (membersUnder left "properties").lookup property = some leftSchema)
      (hright : (membersUnder right "properties").lookup property = some rightSchema)
      (hschema : Narrowed leftSchema rightSchema) :
      Narrowed (.object left) (.object right)
  | definitionRemoved {left right : List (String × Json)} {keyword name : String} {schema : Json}
      (harm : keywordArm keyword = .definitions)
      (hleft : (membersUnder left keyword).lookup name = some schema)
      (hremoved : (membersUnder right keyword).lookup name = none) :
      Narrowed (.object left) (.object right)
  | definition {left right : List (String × Json)} {keyword name : String}
      {leftSchema rightSchema : Json} (harm : keywordArm keyword = .definitions)
      (hleft : (membersUnder left keyword).lookup name = some leftSchema)
      (hright : (membersUnder right keyword).lookup name = some rightSchema)
      (hschema : Narrowed leftSchema rightSchema) :
      Narrowed (.object left) (.object right)
  | extra {left right leftTail rightTail : List (String × Json)} {keyword : String}
      (harm : keywordArm keyword = .tailSchema)
      (hleft : left.lookup keyword = some (.object leftTail))
      (hright : right.lookup keyword = some (.object rightTail))
      (hschema : Narrowed (.object leftTail) (.object rightTail)) :
      Narrowed (.object left) (.object right)
  | items {left right : List (String × Json)} {leftSchema rightSchema : Json}
      (hleft : left.lookup "items" = some leftSchema)
      (hright : right.lookup "items" = some rightSchema)
      (hschema : Narrowed leftSchema rightSchema) :
      Narrowed (.object left) (.object right)
  | positionAdded {left right : List (String × Json)} {leftPositions rightPositions : List Json}
      (hleft : left.lookup "prefixItems" = some (.array leftPositions))
      (hright : right.lookup "prefixItems" = some (.array rightPositions))
      (hlonger : leftPositions.length < rightPositions.length) :
      Narrowed (.object left) (.object right)
  | position {left right : List (String × Json)} {leftPositions rightPositions : List Json}
      {index : Nat} {leftSchema rightSchema : Json}
      (hleft : left.lookup "prefixItems" = some (.array leftPositions))
      (hright : right.lookup "prefixItems" = some (.array rightPositions))
      (hleftSchema : leftPositions[index]? = some leftSchema)
      (hrightSchema : rightPositions[index]? = some rightSchema)
      (hschema : Narrowed leftSchema rightSchema) :
      Narrowed (.object left) (.object right)

variable {baseline candidate owner}

/-!
## Every such edit is breaking
-/

theorem asSet_of_mem {α : Type} [BEq α] [LawfulBEq α] {left right : List α} {value : α}
    (hleft : value ∈ left) (hright : value ∉ right) : asSet left right = false := by
  cases hset : asSet left right with
  | false =>
      rfl
  | true =>
      unfold asSet at hset
      rw [Bool.and_eq_true, List.all_eq_true] at hset
      exact absurd (List.contains_iff_mem.mp (hset.1 value hleft)) hright

theorem asSet_comm {α : Type} [BEq α] (left right : List α) :
    asSet left right = asSet right left := Bool.and_comm _ _

theorem isSubset_of_mem {α : Type} [BEq α] [LawfulBEq α] {left right : List α} {value : α}
    (hleft : value ∈ left) (hright : value ∉ right) : isSubset left right = false := by
  cases hset : isSubset left right with
  | false =>
      rfl
  | true =>
      unfold isSubset at hset
      rw [List.all_eq_true] at hset
      exact absurd (List.contains_iff_mem.mp (hset value hleft)) hright

theorem breaks_ite {c : Prop} [Decidable c] {yes no : List Finding} (hyes : Breaks yes)
    (hno : Breaks no) : Breaks (if c then yes else no) := by
  split
  · exact hyes
  · exact hno

theorem compareRequired_breaks {left right : Option Json} {lefts rights : List String}
    {name : String} (pointer : String) (hleft : stringSetOrEmpty left = some lefts)
    (hright : stringSetOrEmpty right = some rights) (hadded : name ∈ rights) (hnew : name ∉ lefts) :
    Breaks (compareRequired pointer left right) := by
  unfold compareRequired
  rw [hleft, hright]
  simp only [asSet_comm lefts rights, asSet_of_mem hadded hnew, isSubset_of_mem hadded hnew,
    Bool.false_eq_true, if_false]
  exact breaks_ite (breaks_breaking _ _ _) (breaks_breaking _ _ _)

theorem compareTypeDomain_breaks {left right : Json} {lefts rights : List String}
    (pointer : String) (hleft : typeValueSet left = some lefts)
    (hright : typeValueSet right = some rights)
    (hremoved : typeDomainIsSubset lefts rights = false) :
    Breaks (compareTypeDomain pointer left right) := by
  unfold compareTypeDomain
  rw [hleft, hright]
  simp only [hremoved, Bool.false_and, Bool.false_eq_true, if_false]
  exact breaks_ite (breaks_breaking _ _ _) (breaks_breaking _ _ _)

theorem compareEnum_breaks {left right : Json} {lefts rights : List Json} (pointer : String)
    (hleft : validationSet (some left) = some lefts)
    (hright : validationSet (some right) = some rights) (hvalue : value ∈ lefts)
    (hremoved : value ∉ rights) :
    Breaks (compareSet "enum" pointer (some left) (some right)) := by
  have henum : ¬"enum" = "type" := by decide
  simp only [compareSet, henum, hleft, hright, asSet_of_mem hvalue hremoved,
    isSubset_of_mem hvalue hremoved, Bool.false_eq_true, if_false]
  exact breaks_ite (breaks_breaking _ _ _) (breaks_breaking _ _ _)

theorem compareBound_breaks {direction : BoundDirection} {left right : Json}
    {leftBound rightBound : Rat} (pointer : String) (hleft : asDouble left = some leftBound)
    (hright : asDouble right = some rightBound)
    (htight : relaxed direction leftBound rightBound = false) :
    Breaks (compareBound direction pointer (some left) (some right)) := by
  simp only [compareBound, hleft, hright, htight, Bool.false_eq_true, if_false]
  exact breaks_breaking _ _ _

theorem compareTailSchema_breaks {compare : String -> Json -> Json -> List Finding}
    {left right : Option Json} (pointer : String)
    (hclosed : Closed (left.getD (.bool true)) (right.getD (.bool true))) :
    Breaks (compareTailSchema compare pointer left right) := by
  unfold compareTailSchema
  generalize left.getD (.bool true) = leftPolicy at hclosed
  generalize right.getD (.bool true) = rightPolicy at hclosed
  cases hclosed with
  | rejectsAll => exact breaks_breaking _ _ _
  | constrained => exact breaks_breaking _ _ _
  | emptied => exact breaks_breaking _ _ _

variable {keyword : String}

theorem compareBranches_breaks {pointer : String} {leftValue rightValue : Json}
    {left right : List Json}
    (hnot : (if keyword = "allOf" then isSubset right left else isSubset left right) = false) :
    Breaks (compareBranches baseline candidate owner keyword pointer leftValue rightValue left
      right) := by
  unfold compareBranches
  simp only [hnot, Bool.false_and, Bool.false_eq_true, if_false]
  exact breaks_ite (breaks_breaking _ _ _) (breaks_breaking _ _ _)

theorem compareComposition_breaks {pointer : String} {leftValue rightValue : Json}
    {left right : List Json} (hleft : compositionSet baseline owner leftValue = some left)
    (hright : compositionSet candidate owner rightValue = some right)
    (hset : asSet left right = false)
    (hnot : (if keyword = "allOf" then isSubset right left else isSubset left right) = false) :
    Breaks (compareComposition baseline candidate owner keyword pointer (some leftValue)
      (some rightValue)) := by
  simp only [compareComposition, hleft, hright, hset, Bool.false_and, Bool.false_eq_true, if_false]
  exact compareBranches_breaks hnot

theorem compareRef_breaks {left right : Option Json} (pointer : String)
    (hresolved :
      resolvedReference baseline owner left ≠ resolvedReference candidate owner right) :
    Breaks (compareRef baseline candidate owner pointer left right) := by
  unfold compareRef
  split
  · rename_i hleft hright
    rw [hleft, hright] at hresolved
    rw [if_neg (fun heq => hresolved (congrArg some heq))]
    exact breaks_breaking _ _ _
  · exact breaks_breaking _ _ _
  · exact breaks_breaking _ _ _

section OneLevel

variable {compare : String -> Json -> Json -> List Finding} {pointer : String}

theorem compareKeyword_introduced (harm : (keywordArm keyword).constrains = true) :
    Breaks (compareKeyword baseline candidate compare owner keyword pointer none (some value)) := by
  unfold compareKeyword
  cases hkeyword : keywordArm keyword with
  | validationSet => exact breaks_breaking _ _ _
  | const => exact breaks_breaking _ _ _
  | bound direction => exact breaks_breaking _ _ _
  | opaqueConstraint => exact breaks_breaking _ _ _
  | items => exact breaks_breaking _ _ _
  | prefixItems => exact breaks_breaking _ _ _
  | composition => exact breaks_breaking _ _ _
  | negation => exact breaks_breaking _ _ _
  | annotation => rw [hkeyword] at harm; cases harm
  | schemaVersion => rw [hkeyword] at harm; cases harm
  | properties => rw [hkeyword] at harm; cases harm
  | definitions => rw [hkeyword] at harm; cases harm
  | required => rw [hkeyword] at harm; cases harm
  | identity => rw [hkeyword] at harm; cases harm
  | reference => rw [hkeyword] at harm; cases harm
  | tailSchema => rw [hkeyword] at harm; cases harm
  | unproven => rw [hkeyword] at harm; cases harm

theorem compareKeyword_replaced {left right : Json} (harm : (keywordArm keyword).exact = true) :
    Breaks (compareKeyword baseline candidate compare owner keyword pointer (some left)
      (some right)) := by
  unfold compareKeyword
  cases hkeyword : keywordArm keyword with
  | const => exact breaks_breaking _ _ _
  | opaqueConstraint => exact breaks_breaking _ _ _
  | negation => exact breaks_breaking _ _ _
  | _ => rw [hkeyword] at harm; cases harm

theorem keywordNarrowed_breaks {left right : Option Json}
    (h : KeywordNarrowed baseline candidate owner keyword left right) :
    Breaks (compareKeyword baseline candidate compare owner keyword pointer left right) := by
  cases h with
  | requirementAdded hleft hright hadded hnew =>
      exact compareRequired_breaks pointer hleft hright hadded hnew
  | introduced harm =>
      exact compareKeyword_introduced harm
  | replaced harm =>
      exact compareKeyword_replaced harm
  | typeRemoved hleft hright hremoved =>
      exact compareTypeDomain_breaks pointer hleft hright hremoved
  | valueRemoved hleft hright hvalue hremoved =>
      exact compareEnum_breaks pointer hleft hright hvalue hremoved
  | boundTightened harm hleft hright htight =>
      unfold compareKeyword
      rw [harm]
      exact compareBound_breaks pointer hleft hright htight
  | tailClosed harm hclosed =>
      unfold compareKeyword
      rw [harm]
      exact compareTailSchema_breaks pointer hclosed
  | branchRemoved harm hkeyword hleft hright hbranch hremoved =>
      unfold compareKeyword
      rw [harm]
      apply compareComposition_breaks hleft hright (asSet_of_mem hbranch hremoved)
      rw [if_neg hkeyword]
      exact isSubset_of_mem hbranch hremoved
  | branchAdded hleft hright hbranch hadded =>
      apply compareComposition_breaks hleft hright
      · rw [asSet_comm]
        exact asSet_of_mem hbranch hadded
      · exact isSubset_of_mem hbranch hadded
  | rebound hresolved =>
      exact compareRef_breaks pointer hresolved
  | renamed =>
      exact breaks_breaking _ _ _
  | unproven harm =>
      unfold compareKeyword
      rw [harm]
      exact breaks_breaking _ _ _

theorem compareForms_breaks (hchanged : left.lookup keyword ≠ right.lookup keyword)
    (hconst : keyword = "enum" -> stringConstExpansion left right = false)
    (h : Breaks (compareKeyword baseline candidate compare owner keyword
      (joinPointer pointer keyword) (left.lookup keyword) (right.lookup keyword))) :
    Breaks (compareForms baseline candidate compare owner pointer (.object left)
      (.object right)) := by
  apply Breaks.flatMap (mem_keysOf_of_ne hchanged)
  have hno : ¬(decide (keyword = "enum") && stringConstExpansion left right) = true := by
    intro hboth
    rw [Bool.and_eq_true, decide_eq_true_eq] at hboth
    rw [hconst hboth.1] at hboth
    cases hboth.2
  unfold compareMember
  simp only [if_neg hchanged, if_neg hno]
  exact h

theorem compareProperties_breaks {left right : Option Json} {leftMembers : List (String × Json)}
    {property : String} {schema : Json} (hleft : left.bind Json.asObject = some leftMembers)
    (hproperty : leftMembers.lookup property = some schema)
    (h : forall rightMembers, right.bind Json.asObject = some rightMembers ->
      Breaks (compareProperty compare pointer leftMembers rightMembers property)) :
    Breaks (compareProperties compare pointer left right) := by
  unfold compareProperties
  rw [hleft]
  cases hright : right.bind Json.asObject with
  | some rightMembers =>
      exact Breaks.flatMap (mem_keysOf_left hproperty) (h rightMembers hright)
  | none =>
      cases right with
      | some value =>
          exact breaks_breaking _ _ _
      | none =>
          rcases List.mem_map.mp (mem_keys_of_lookup hproperty) with ⟨member, hmember, _⟩
          exact ⟨_, List.mem_map.mpr ⟨member, hmember, rfl⟩, rfl⟩

theorem compareSchemaMap_breaks {left right : Option Json} {leftMembers : List (String × Json)}
    {name : String} {schema : Json} (hleft : left.bind Json.asObject = some leftMembers)
    (hname : leftMembers.lookup name = some schema)
    (h : forall rightMembers, right.bind Json.asObject = some rightMembers ->
      Breaks (compareDefinition compare pointer leftMembers rightMembers name)) :
    Breaks (compareSchemaMap compare pointer left right) := by
  unfold compareSchemaMap
  rw [hleft]
  cases hright : right.bind Json.asObject with
  | some rightMembers =>
      exact Breaks.flatMap (mem_keysOf_left hname) (h rightMembers hright)
  | none =>
      exact breaks_breaking _ _ _

theorem comparePrefixItems_breaks {left right : List Json} {index : Nat}
    (hindex : index < Nat.max left.length right.length)
    (h : Breaks (comparePosition compare pointer left right index)) :
    Breaks (comparePrefixItems compare pointer (some (.array left)) (some (.array right))) := by
  rcases h with ⟨finding, hfinding, hkind⟩
  exact ⟨finding, List.mem_flatMap.mpr ⟨index, List.mem_range.mpr hindex, hfinding⟩, hkind⟩

theorem comparePrefixItems_longer {left right : List Json} (hlonger : left.length < right.length) :
    Breaks (comparePrefixItems compare pointer (some (.array left)) (some (.array right))) := by
  apply comparePrefixItems_breaks (Nat.lt_of_lt_of_le hlonger (Nat.le_max_right _ _))
  unfold comparePosition
  rw [List.getElem?_eq_none (Nat.le_refl _), List.getElem?_eq_getElem hlonger]
  exact breaks_breaking _ _ _

theorem comparePrefixItems_position {left right : List Json} {index : Nat}
    {leftSchema rightSchema : Json} (hleft : left[index]? = some leftSchema)
    (hright : right[index]? = some rightSchema)
    (h : Breaks (compare (joinPointer pointer (toString index)) leftSchema rightSchema)) :
    Breaks (comparePrefixItems compare pointer (some (.array left)) (some (.array right))) := by
  rcases List.getElem?_eq_some_iff.mp hleft with ⟨hindex, _⟩
  apply comparePrefixItems_breaks (Nat.lt_of_lt_of_le hindex (Nat.le_max_left _ _))
  unfold comparePosition
  rw [hleft, hright]
  exact h

end OneLevel

theorem membersUnder_lookup {keywords : List (String × Json)} {name : String} {schema : Json}
    (h : (membersUnder keywords keyword).lookup name = some schema) :
    exists members, (keywords.lookup keyword).bind Json.asObject = some members ∧
      members.lookup name = some schema := by
  unfold membersUnder at h
  cases hmembers : (keywords.lookup keyword).bind Json.asObject with
  | none =>
      rw [hmembers] at h
      cases h
  | some members =>
      rw [hmembers] at h
      exact ⟨members, rfl, h⟩

theorem membersUnder_eq {keywords members : List (String × Json)}
    (h : (keywords.lookup keyword).bind Json.asObject = some members) :
    membersUnder keywords keyword = members := by
  unfold membersUnder
  rw [h]
  rfl

theorem Narrowed.ne {left right : Json} (h : Narrowed baseline candidate owner left right) :
    left ≠ right := by
  intro heq
  induction h with
  | closed hclosed =>
      cases hclosed <;> cases heq
  | keyword hchanged _ _ =>
      cases heq
      exact hchanged rfl
  | propertyRemoved hleft hremoved =>
      cases heq
      rw [hleft] at hremoved
      cases hremoved
  | property hleft hright _ ih =>
      cases heq
      rw [hleft] at hright
      exact ih (Option.some.inj hright)
  | definitionRemoved _ hleft hremoved =>
      cases heq
      rw [hleft] at hremoved
      cases hremoved
  | definition _ hleft hright _ ih =>
      cases heq
      rw [hleft] at hright
      exact ih (Option.some.inj hright)
  | extra _ hleft hright _ ih =>
      cases heq
      rw [hleft] at hright
      exact ih (Option.some.inj hright)
  | items hleft hright _ ih =>
      cases heq
      rw [hleft] at hright
      exact ih (Option.some.inj hright)
  | positionAdded hleft hright hlonger =>
      cases heq
      rw [hleft] at hright
      cases hright
      exact Nat.lt_irrefl _ hlonger
  | position hleft hright hleftSchema hrightSchema _ ih =>
      cases heq
      rw [hleft] at hright
      cases hright
      rw [hleftSchema] at hrightSchema
      exact ih (Option.some.inj hrightSchema)

theorem membersUnder_ne (h : membersUnder left keyword ≠ membersUnder right keyword) :
    left.lookup keyword ≠ right.lookup keyword := by
  intro heq
  unfold membersUnder at h
  rw [heq] at h
  exact h rfl

theorem compareValue_breaks {left right : Json} (hne : left ≠ right)
    (h : forall (room : Nat) (pointer : String),
      Breaks (compareForms baseline candidate (compareValue baseline candidate owner room) owner
        pointer left right))
    (room : Nat) (pointer : String) :
    Breaks (compareValue baseline candidate owner room pointer left right) := by
  unfold compareValue
  rw [if_neg hne]
  cases room with
  | zero => exact breaks_breaking _ _ _
  | succ room => exact h room pointer

/-- By the position of the edit: each one on the way down is a keyword that changed. -/
theorem narrowed_forms_break {left right : Json}
    (h : Narrowed baseline candidate owner left right) :
    forall (room : Nat) (pointer : String),
      Breaks (compareForms baseline candidate (compareValue baseline candidate owner room) owner
        pointer left right) := by
  induction h with
  | closed hclosed =>
      intro room pointer
      cases hclosed with
      | rejectsAll => exact breaks_breaking _ _ _
      | constrained => exact breaks_breaking _ _ _
      | emptied => exact breaks_breaking _ _ _
  | keyword hchanged hconst hkeyword =>
      intro room pointer
      exact compareForms_breaks hchanged hconst (keywordNarrowed_breaks hkeyword)
  | propertyRemoved hleft hremoved =>
      intro room pointer
      rcases membersUnder_lookup hleft with ⟨members, hmembers, hproperty⟩
      apply compareForms_breaks (membersUnder_ne fun heq => by
        rw [heq, hremoved] at hleft
        cases hleft) (fun heq => absurd heq (by decide))
      apply compareProperties_breaks hmembers hproperty
      intro rightMembers hright
      rw [membersUnder_eq hright] at hremoved
      unfold compareProperty
      rw [hproperty, hremoved]
      exact breaks_breaking _ _ _
  | property hleft hright hschema ih =>
      intro room pointer
      rcases membersUnder_lookup hleft with ⟨members, hmembers, hproperty⟩
      apply compareForms_breaks (membersUnder_ne fun heq => by
        rw [heq, hright] at hleft
        exact hschema.ne (Option.some.inj hleft).symm) (fun heq => absurd heq (by decide))
      apply compareProperties_breaks hmembers hproperty
      intro rightMembers hrightMembers
      rw [membersUnder_eq hrightMembers] at hright
      unfold compareProperty
      rw [hproperty, hright]
      exact compareValue_breaks hschema.ne ih room _
  | definitionRemoved harm hleft hremoved =>
      intro room pointer
      rcases membersUnder_lookup hleft with ⟨members, hmembers, hname⟩
      apply compareForms_breaks (membersUnder_ne fun heq => by
        rw [heq, hremoved] at hleft
        cases hleft) (fun heq => by
          rw [heq] at harm
          cases harm)
      unfold compareKeyword
      rw [harm]
      apply compareSchemaMap_breaks hmembers hname
      intro rightMembers hright
      rw [membersUnder_eq hright] at hremoved
      unfold compareDefinition
      rw [hname, hremoved]
      exact breaks_breaking _ _ _
  | definition harm hleft hright hschema ih =>
      intro room pointer
      rcases membersUnder_lookup hleft with ⟨members, hmembers, hname⟩
      apply compareForms_breaks (membersUnder_ne fun heq => by
        rw [heq, hright] at hleft
        exact hschema.ne (Option.some.inj hleft).symm) (fun heq => by
          rw [heq] at harm
          cases harm)
      unfold compareKeyword
      rw [harm]
      apply compareSchemaMap_breaks hmembers hname
      intro rightMembers hrightMembers
      rw [membersUnder_eq hrightMembers] at hright
      unfold compareDefinition
      rw [hname, hright]
      exact compareValue_breaks hschema.ne ih room _
  | extra harm hleft hright hschema ih =>
      intro room pointer
      apply compareForms_breaks (fun heq => by
        rw [hleft, hright] at heq
        exact hschema.ne (Option.some.inj heq)) (fun heq => by
          rw [heq] at harm
          cases harm)
      unfold compareKeyword
      rw [harm, hleft, hright]
      exact compareValue_breaks hschema.ne ih room _
  | items hleft hright hschema ih =>
      intro room pointer
      apply compareForms_breaks (fun heq => by
        rw [hleft, hright] at heq
        exact hschema.ne (Option.some.inj heq)) (fun heq => absurd heq (by decide))
      rw [hleft, hright]
      exact compareValue_breaks hschema.ne ih room _
  | positionAdded hleft hright hlonger =>
      intro room pointer
      apply compareForms_breaks (fun heq => by
        rw [hleft, hright] at heq
        cases heq
        exact Nat.lt_irrefl _ hlonger) (fun heq => absurd heq (by decide))
      rw [hleft, hright]
      exact comparePrefixItems_longer hlonger
  | position hleft hright hleftSchema hrightSchema hschema ih =>
      intro room pointer
      apply compareForms_breaks (fun heq => by
        rw [hleft, hright] at heq
        cases heq
        rw [hleftSchema] at hrightSchema
        exact hschema.ne (Option.some.inj hrightSchema)) (fun heq => absurd heq (by decide))
      rw [hleft, hright]
      exact comparePrefixItems_position hleftSchema hrightSchema
        (compareValue_breaks hschema.ne ih room _)

/-- An edit of the design's list is breaking, at whatever position and depth it stands. -/
theorem narrowed_breaks {left right : Json} (h : Narrowed baseline candidate owner left right)
    (room : Nat) (pointer : String) :
    Breaks (compareValue baseline candidate owner room pointer left right) :=
  compareValue_breaks h.ne (narrowed_forms_break h) room pointer

end Edits

end Evolution
end GraphHelm
