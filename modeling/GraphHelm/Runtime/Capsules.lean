import GraphHelm.Library.Segments
import Mathlib.Data.List.Nodup
import Mathlib.Data.String.Basic

/-!
# Compiled capsules

`compile_capsule` of `core/runtime/src/context_compiler.rs`: the sections of a
capsule in their declared order, every part behind its length.
-/

namespace GraphHelm

abbrev CapsuleSection := String × List String

/-- `push_segment` of `core/runtime/src/context_accounting.rs`. -/
def pushSegment (out value : String) : String :=
  out ++ toString value.utf8ByteSize ++ ":" ++ value

def declaredSectionOrder : List String :=
  ["projectKernel", "task", "node", "evidence", "dependencyOutputs", "agentExperience"]

def sectionBefore (left right : CapsuleSection) : Bool :=
  let declared := declaredSectionOrder.idxOf left.1
  let other := declaredSectionOrder.idxOf right.1
  declared < other || (declared = other && left.1 <= right.1)

def pushSection (out : String) (entry : CapsuleSection) : String :=
  entry.2.foldl pushSegment (pushSegment (pushSegment out entry.1) (toString entry.2.length))

def compileCapsule (capsuleId : String) (capsuleVersion : Nat)
    (sections : List CapsuleSection) : Bytes :=
  let out := pushSegment "" capsuleId
  let out := pushSegment out (toString capsuleVersion)
  let out := pushSegment out (toString sections.length)
  let ordered := sections.mergeSort sectionBefore
  utf8 (ordered.foldl pushSection out)

/-!
## The bytes of a capsule
-/

theorem utf8_append (a b : String) : utf8 (a ++ b) = utf8 a ++ utf8 b := by
  unfold utf8
  rw [String.toList_append, List.flatMap_append]

theorem utf8_pushSegment (out value : String) :
    utf8 (pushSegment out value) = utf8 out ++ segment (utf8 value) := by
  unfold pushSegment segment decimal
  rw [utf8_append, utf8_append, utf8_append, length_utf8, List.append_assoc, List.append_assoc]
  rfl

theorem utf8_foldl {α : Type} {push : String -> α -> String} {encode : α -> Bytes}
    (h : forall out a, utf8 (push out a) = utf8 out ++ encode a) (items : List α)
    (out : String) : utf8 (items.foldl push out) = utf8 out ++ items.flatMap encode := by
  induction items generalizing out with
  | nil =>
      rw [List.foldl_nil, List.flatMap_nil, List.append_nil]
  | cons a rest ih =>
      rw [List.foldl_cons, ih, h, List.flatMap_cons, List.append_assoc]

/-- The items of a section behind their number. -/
def encodeItems (items : List String) : Bytes :=
  segment (decimal items.length) ++ items.flatMap fun item => segment (utf8 item)

def encodeSection (entry : CapsuleSection) : Bytes :=
  segment (utf8 entry.1) ++ encodeItems entry.2

def encodeSections (ordered : List CapsuleSection) : Bytes :=
  segment (decimal ordered.length) ++ ordered.flatMap encodeSection

theorem utf8_pushSection (out : String) (entry : CapsuleSection) :
    utf8 (pushSection out entry) = utf8 out ++ encodeSection entry := by
  unfold pushSection encodeSection encodeItems
  rw [utf8_foldl utf8_pushSegment, utf8_pushSegment, utf8_pushSegment, List.append_assoc,
    List.append_assoc]
  rfl

theorem compileCapsule_eq (capsuleId : String) (capsuleVersion : Nat)
    (sections : List CapsuleSection) :
    compileCapsule capsuleId capsuleVersion sections =
      segment (utf8 capsuleId) ++
        (segment (decimal capsuleVersion) ++
          encodeSections (sections.mergeSort sectionBefore)) := by
  unfold compileCapsule encodeSections
  dsimp only
  rw [utf8_foldl utf8_pushSection, utf8_pushSegment, utf8_pushSegment, utf8_pushSegment,
    List.length_mergeSort, List.append_assoc, List.append_assoc, List.append_assoc]
  rfl

theorem encodeItems_selfDelimiting : SelfDelimiting encodeItems :=
  segment_utf8_selfDelimiting.counted segment_decimal_selfDelimiting

theorem encodeSection_selfDelimiting : SelfDelimiting encodeSection :=
  segment_utf8_selfDelimiting.pair encodeItems_selfDelimiting

theorem encodeSections_selfDelimiting : SelfDelimiting encodeSections :=
  encodeSection_selfDelimiting.counted segment_decimal_selfDelimiting

/-!
## The order of the sections
-/

theorem sectionBefore_iff {left right : CapsuleSection} :
    sectionBefore left right = true <->
      declaredSectionOrder.idxOf left.1 < declaredSectionOrder.idxOf right.1 ∨
        declaredSectionOrder.idxOf left.1 = declaredSectionOrder.idxOf right.1 ∧
          left.1 <= right.1 := by
  simp [sectionBefore]

theorem sectionBefore_trans {first second third : CapsuleSection}
    (h : sectionBefore first second = true) (h' : sectionBefore second third = true) :
    sectionBefore first third = true := by
  rw [sectionBefore_iff] at h h' ⊢
  rcases h with hless | ⟨hsame, hle⟩
  · rcases h' with hless' | ⟨hsame', _⟩
    · exact Or.inl (Nat.lt_trans hless hless')
    · exact Or.inl (hsame' ▸ hless)
  · rcases h' with hless' | ⟨hsame', hle'⟩
    · exact Or.inl (hsame ▸ hless')
    · exact Or.inr (And.intro (hsame.trans hsame') (le_trans hle hle'))

theorem sectionBefore_total (left right : CapsuleSection) :
    (sectionBefore left right || sectionBefore right left) = true := by
  rw [Bool.or_eq_true, sectionBefore_iff, sectionBefore_iff]
  rcases Nat.lt_trichotomy (declaredSectionOrder.idxOf left.1)
      (declaredSectionOrder.idxOf right.1) with hless | hsame | hmore
  · exact Or.inl (Or.inl hless)
  · rcases le_total left.1 right.1 with hle | hle
    · exact Or.inl (Or.inr (And.intro hsame hle))
    · exact Or.inr (Or.inr (And.intro hsame.symm hle))
  · exact Or.inr (Or.inl hmore)

theorem sectionBefore_antisymm {left right : CapsuleSection}
    (h : sectionBefore left right = true) (h' : sectionBefore right left = true) :
    left.1 = right.1 := by
  rw [sectionBefore_iff] at h h'
  rcases h with hless | ⟨_, hle⟩
  · rcases h' with hmore | ⟨hsame, _⟩
    · omega
    · omega
  · rcases h' with hmore | ⟨_, hle'⟩
    · omega
    · exact String.le_antisymm hle hle'

theorem mergeSort_eq_of_mem_iff {sections sections' : List CapsuleSection}
    (hnames : (sections.map Prod.fst).Nodup) (hnames' : (sections'.map Prod.fst).Nodup)
    (hsame : forall entry, entry ∈ sections <-> entry ∈ sections') :
    sections.mergeSort sectionBefore = sections'.mergeSort sectionBefore := by
  have hperm : List.Perm sections sections' :=
    (List.perm_ext_iff_of_nodup (List.Nodup.of_map _ hnames) (List.Nodup.of_map _ hnames')).mpr
      hsame
  have hsorted : forall entries : List CapsuleSection,
      (entries.mergeSort sectionBefore).Pairwise fun left right =>
        sectionBefore left right = true :=
    List.pairwise_mergeSort (fun _ _ _ => sectionBefore_trans) sectionBefore_total
  have hsorts : List.Perm (sections.mergeSort sectionBefore)
      (sections'.mergeSort sectionBefore) :=
    (List.mergeSort_perm sections sectionBefore).trans
      (hperm.trans (List.mergeSort_perm sections' sectionBefore).symm)
  refine hsorts.eq_of_pairwise ?_ (hsorted sections) (hsorted sections')
  intro left right hleft hright hbefore hafter
  have hname := sectionBefore_antisymm hbefore hafter
  have hleft := List.mem_mergeSort.mp hleft
  have hright := (hsame right).mpr (List.mem_mergeSort.mp hright)
  exact List.inj_on_of_nodup_map hnames hleft hright hname

/--
Two capsules whose sections have distinct names share their bytes exactly when they
are one capsule, in whatever order its sections are listed.
-/
theorem compileCapsule_eq_iff {capsuleId capsuleId' : String}
    {capsuleVersion capsuleVersion' : Nat} {sections sections' : List CapsuleSection}
    (hnames : (sections.map Prod.fst).Nodup) (hnames' : (sections'.map Prod.fst).Nodup) :
    compileCapsule capsuleId capsuleVersion sections =
        compileCapsule capsuleId' capsuleVersion' sections' <->
      capsuleId = capsuleId' ∧ capsuleVersion = capsuleVersion' ∧
        forall entry, entry ∈ sections <-> entry ∈ sections' := by
  rw [compileCapsule_eq, compileCapsule_eq]
  constructor
  · intro h
    rcases segment_utf8_selfDelimiting h with ⟨hid, hlater⟩
    rcases segment_decimal_selfDelimiting hlater with ⟨hversion, hsections⟩
    have hordered := encodeSections_selfDelimiting.injective hsections
    refine ⟨hid, hversion, ?_⟩
    intro entry
    calc
      entry ∈ sections <-> entry ∈ sections.mergeSort sectionBefore := List.mem_mergeSort.symm
      _ <-> entry ∈ sections'.mergeSort sectionBefore := by rw [hordered]
      _ <-> entry ∈ sections' := List.mem_mergeSort
  · rintro ⟨hid, hversion, hsame⟩
    rw [hid, hversion, mergeSort_eq_of_mem_iff hnames hnames' hsame]

/-- Two sections listed either way round, one of them with an item that looks like a segment. -/
theorem compileCapsule_eq_iff_listed_either_way :
    compileCapsule "c" 1 [("task", ["1:a"]), ("zeta", [])] =
        compileCapsule "c" 1 [("zeta", []), ("task", ["1:a"])] :=
  (compileCapsule_eq_iff (by decide) (by decide)).mpr
    ⟨rfl, rfl, fun entry => by simp [or_comm]⟩

end GraphHelm
