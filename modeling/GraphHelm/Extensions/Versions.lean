import GraphHelm.Library.Checks
import Mathlib.Data.List.Induction
import Mathlib.Logic.Function.Basic

/-!
# Installed versions of an extension

`core/extension-host/src/install.rs` and `uninstall.rs`: packages are adopted under the digest of
their bytes, and one pointer names the version that is active and the one before it.
-/

namespace GraphHelm
namespace Extensions

inductive InstallRefusal where
  | invalid
  | adoptedBytesChanged
  | unknownVersion
  | noPreviousVersion
  | corruptPointer
  | unsafePackagePath
  | versionRetained
  | unsafeLayoutPath
  | unwritable
deriving DecidableEq

structure ActiveVersions where
  current : String
  previous : Option String
deriving DecidableEq

structure PersistedPointer where
  version : Nat
  current : String
  previous : Option String

def pointerVersion : Nat := 1

/-- The validator of a package's tree, and the JSON the pointer is persisted in. -/
structure InstallEnvironment (Tree Text : Type) where
  packageDigest : Tree -> Option String
  pointerJson : PersistedPointer -> Text
  parsePointer : Text -> Option PersistedPointer
  parse_json : forall pointer, parsePointer (pointerJson pointer) = some pointer

/-- What the file system answers while a call runs. -/
structure Disk where
  unlinked : Except InstallRefusal Unit
  writes : Bool

/-- What lies under an install root: the adopted trees by directory, and the pointer file. -/
structure Layout (Tree Text : Type) where
  versions : String -> Option Tree
  pointer : Option Text

def digestPrefix : List Char := "sha256:".toList

def isLowerHex (c : Char) : Bool :=
  decide ('0' <= c ∧ c <= '9') || decide ('a' <= c ∧ c <= 'f')

def directoryForDigest (digest : String) : Except InstallRefusal String := do
  check (digestPrefix.isPrefixOf digest.toList) .unknownVersion
  let hex := digest.toList.drop digestPrefix.length
  check (decide (hex.length = 64) && hex.all isLowerHex) .unknownVersion
  .ok (String.ofList ("sha256-".toList ++ hex))

/-- One directory is the directory of one digest. -/
theorem directoryForDigest_injective {first second directory : String}
    (hfirst : directoryForDigest first = .ok directory)
    (hsecond : directoryForDigest second = .ok directory) : first = second := by
  have hspelled : forall {digest : String}, directoryForDigest digest = .ok directory ->
      digest.toList = digestPrefix ++ directory.toList.drop digestPrefix.length := by
    intro digest h
    unfold directoryForDigest at h
    rcases check_ok h with ⟨hbegins, h⟩
    rcases check_ok h with ⟨_, h⟩
    cases h
    rcases List.isPrefixOf_iff_prefix.mp hbegins with ⟨hex, hex_eq⟩
    rw [← hex_eq, List.drop_left, String.toList_ofList]
    rfl
  exact String.toList_inj.mp ((hspelled hfirst).trans (hspelled hsecond).symm)

/-!
## The calls
-/

section Calls

variable {Tree Text : Type} (env : InstallEnvironment Tree Text) (disk : Disk)

def readPointer (layout : Layout Tree Text) : Except InstallRefusal (Option ActiveVersions) :=
  match layout.pointer with
  | none => .ok none
  | some text => do
      let persisted <- orRefuse (env.parsePointer text) .corruptPointer
      check (decide (persisted.version = pointerVersion)) .corruptPointer
      .ok (some { current := persisted.current, previous := persisted.previous })

/-- The pointer is renamed into place as a whole, or stays as it was. -/
def writePointer (layout : Layout Tree Text) (next : ActiveVersions) :
    Except InstallRefusal (Layout Tree Text) := do
  check disk.writes .unwritable
  let persisted : PersistedPointer :=
    { version := pointerVersion, current := next.current, previous := next.previous }
  .ok { layout with pointer := some (env.pointerJson persisted) }

def requireDigest (tree : Tree) (digest : String) : Except InstallRefusal Unit := do
  let derived <- orRefuse (env.packageDigest tree) .invalid
  check (decide (derived = digest)) .adoptedBytesChanged

/-- `staged` is what copying the package's tree came to. -/
def installPackage (package : Tree) (staged : Except InstallRefusal Tree)
    (layout : Layout Tree Text) : Except InstallRefusal (String × Layout Tree Text) := do
  disk.unlinked
  let digest <- orRefuse (env.packageDigest package) .invalid
  let directory <- directoryForDigest digest
  check disk.writes .unwritable
  match layout.versions directory with
  | some _ => .ok (digest, layout)
  | none => do
      let tree <- staged
      requireDigest env tree digest
      .ok (digest, { layout with versions := Function.update layout.versions directory (some tree) })

def switchActive (digest : String) (layout : Layout Tree Text) :
    Except InstallRefusal (ActiveVersions × Layout Tree Text) := do
  disk.unlinked
  let directory <- directoryForDigest digest
  let tree <- orRefuse (layout.versions directory) .unknownVersion
  requireDigest env tree digest
  let pointer <- readPointer env layout
  match pointer.filter fun active => decide (active.current = digest) with
  | some active => .ok (active, layout)
  | none => do
      let next : ActiveVersions :=
        { current := digest, previous := pointer.map ActiveVersions.current }
      let layout <- writePointer env disk layout next
      .ok (next, layout)

def rollBack (layout : Layout Tree Text) :
    Except InstallRefusal (ActiveVersions × Layout Tree Text) := do
  disk.unlinked
  let pointer <- readPointer env layout
  let active <- orRefuse pointer .noPreviousVersion
  let previous <- orRefuse active.previous .noPreviousVersion
  let directory <- directoryForDigest previous
  let tree <- orRefuse (layout.versions directory) .unknownVersion
  requireDigest env tree previous
  let next : ActiveVersions := { current := previous, previous := some active.current }
  let layout <- writePointer env disk layout next
  .ok (next, layout)

def uninstallTarget (digest : String) (layout : Layout Tree Text) :
    Except InstallRefusal String := do
  disk.unlinked
  let directory <- directoryForDigest digest
  let _ <- orRefuse (layout.versions directory) .unknownVersion
  let pointer <- readPointer env layout
  let retained := pointer.any fun active =>
    decide (active.current = digest) || decide (active.previous = some digest)
  check (!retained) .versionRetained
  .ok directory

/-- `remains` is what a removal that fails half-way leaves of the tree. -/
def uninstallVersion (digest : String) (remains : Option Tree) (layout : Layout Tree Text) :
    Except InstallRefusal Unit × Layout Tree Text :=
  match uninstallTarget env disk digest layout with
  | .error refusal => (.error refusal, layout)
  | .ok directory =>
      (if remains.isNone then .ok () else .error .unwritable,
        { layout with versions := Function.update layout.versions directory remains })

end Calls

/-!
## Runs
-/

/--
What happens to a layout.  A call that is cut short leaves what it leaves when it is refused, or
what it leaves when it answers.
-/
inductive Action (Tree : Type) where
  | install (disk : Disk) (package : Tree) (staged : Except InstallRefusal Tree)
  | switchActive (disk : Disk) (digest : String)
  | rollBack (disk : Disk)
  | uninstall (disk : Disk) (digest : String) (remains : Option Tree)
  /-- The bytes of an adopted tree are changed by somebody else. -/
  | alter (directory : String) (tree : Tree)

section Runs

variable {Tree Text α : Type} (env : InstallEnvironment Tree Text)

def leaves (layout : Layout Tree Text) (answer : Except InstallRefusal (α × Layout Tree Text)) :
    Layout Tree Text :=
  (answer.toOption.map Prod.snd).getD layout

def perform (layout : Layout Tree Text) : Action Tree -> Layout Tree Text
  | .install disk package staged => leaves layout (installPackage env disk package staged layout)
  | .switchActive disk digest => leaves layout (switchActive env disk digest layout)
  | .rollBack disk => leaves layout (rollBack env disk layout)
  | .uninstall disk digest remains => (uninstallVersion env disk digest remains layout).2
  | .alter directory tree =>
      if (layout.versions directory).isSome then
        { layout with versions := Function.update layout.versions directory (some tree) }
      else layout

/-- The layout that a fresh install root comes to. -/
def layoutAfter (actions : List (Action Tree)) : Layout Tree Text :=
  actions.foldl (perform env) { versions := fun _ => none, pointer := none }

def Adopted (layout : Layout Tree Text) (digest : String) : Prop :=
  exists directory, directoryForDigest digest = .ok directory ∧
    (layout.versions directory).isSome = true

/-- The pointer names two versions, if it names a second one, and both are adopted. -/
structure Retains (layout : Layout Tree Text) (active : ActiveVersions) : Prop where
  current : Adopted layout active.current
  previous : forall digest, active.previous = some digest ->
    digest ≠ active.current ∧ Adopted layout digest

/-- Nothing is active yet, or the pointer can be read and what it names is retained. -/
def PointerStands (layout : Layout Tree Text) : Prop :=
  layout.pointer = none ∨
    exists active, readPointer env layout = .ok (some active) ∧ Retains layout active

variable {env} {disk : Disk} {layout after : Layout Tree Text}

theorem PointerStands.retains {active : ActiveVersions} (h : PointerStands env layout)
    (hread : readPointer env layout = .ok (some active)) : Retains layout active := by
  rcases h with hnone | ⟨found, hfound, hretains⟩
  · unfold readPointer at hread
    rw [hnone] at hread
    cases hread
  · cases hfound.symm.trans hread
    exact hretains

theorem Retains.mono {active : ActiveVersions} (h : Retains layout active)
    (hadopted : forall digest, Adopted layout digest -> Adopted after digest) :
    Retains after active := by
  constructor
  · exact hadopted _ h.current
  · intro digest hprevious
    rcases h.previous digest hprevious with ⟨hne, hkept⟩
    exact And.intro hne (hadopted digest hkept)

theorem readPointer_congr (h : after.pointer = layout.pointer) :
    readPointer env after = readPointer env layout := by
  unfold readPointer
  rw [h]

theorem readPointer_written {next : ActiveVersions}
    (h : writePointer env disk layout next = .ok after) :
    readPointer env after = .ok (some next) ∧ after.versions = layout.versions := by
  unfold writePointer at h
  rcases check_ok h with ⟨_, h⟩
  cases h
  unfold readPointer
  refine And.intro ?_ rfl
  dsimp only
  rw [env.parse_json]
  rfl

theorem adopted_update {directory digest : String} {remains : Option Tree}
    (hspared : remains.isSome = true ∨ directoryForDigest digest ≠ .ok directory)
    (h : Adopted layout digest) :
    Adopted { layout with versions := Function.update layout.versions directory remains }
      digest := by
  rcases h with ⟨named, hnamed, hpresent⟩
  refine ⟨named, hnamed, ?_⟩
  dsimp only
  rcases Decidable.em (named = directory) with rfl | hne
  · rw [Function.update_self]
    exact hspared.resolve_right (not_not_intro hnamed)
  · rw [Function.update_of_ne hne]
    exact hpresent

/-- What one action can do to a layout. -/
inductive Changes (env : InstallEnvironment Tree Text) (layout : Layout Tree Text) :
    Layout Tree Text -> Prop where
  | kept (after : Layout Tree Text) (hpointer : after.pointer = layout.pointer)
      (hadopted : forall digest, Adopted layout digest -> Adopted after digest) :
      Changes env layout after
  | pointed (disk : Disk) (next : ActiveVersions) (after : Layout Tree Text)
      (hnext : PointerStands env layout -> Retains layout next)
      (hwritten : writePointer env disk layout next = .ok after) : Changes env layout after
  | removed (digest directory : String) (remains : Option Tree)
      (hdirectory : directoryForDigest digest = .ok directory)
      (hspared : forall active, readPointer env layout = .ok (some active) ->
        active.current ≠ digest ∧ active.previous ≠ some digest) :
      Changes env layout
        { layout with versions := Function.update layout.versions directory remains }

theorem Changes.refl (layout : Layout Tree Text) : Changes env layout layout :=
  Changes.kept layout rfl fun _ h => h

theorem Changes.leaves {α : Type} {answer : Except InstallRefusal (α × Layout Tree Text)}
    (h : forall value after, answer = .ok (value, after) -> Changes env layout after) :
    Changes env layout (leaves layout answer) := by
  cases answer with
  | error refusal => exact Changes.refl layout
  | ok settled => exact h settled.1 settled.2 rfl

theorem installPackage_changes {package : Tree} {staged : Except InstallRefusal Tree}
    {digest : String} (h : installPackage env disk package staged layout = .ok (digest, after)) :
    Changes env layout after := by
  unfold installPackage at h
  rcases bind_ok h with ⟨_, _, h⟩
  rcases bind_ok h with ⟨_, _, h⟩
  rcases bind_ok h with ⟨directory, _, h⟩
  rcases check_ok h with ⟨_, h⟩
  split at h
  · cases h
    exact Changes.refl layout
  · rcases bind_ok h with ⟨tree, _, h⟩
    rcases bind_ok h with ⟨_, _, h⟩
    cases h
    exact Changes.kept _ rfl fun _ => adopted_update (Or.inl rfl)

/-- A switch that answers finds the version active, or makes it so and retires the last one. -/
theorem switchActive_eq_ok {digest : String} {next : ActiveVersions}
    (h : switchActive env disk digest layout = .ok (next, after)) :
    after = layout ∨ exists pointer, readPointer env layout = .ok pointer ∧
      Adopted layout digest ∧ (forall active, pointer = some active -> active.current ≠ digest) ∧
      next = { current := digest, previous := pointer.map ActiveVersions.current } ∧
      writePointer env disk layout next = .ok after := by
  unfold switchActive at h
  rcases bind_ok h with ⟨_, _, h⟩
  rcases bind_ok h with ⟨directory, hdirectory, h⟩
  rcases bind_ok h with ⟨tree, htree, h⟩
  rcases bind_ok h with ⟨_, _, h⟩
  rcases bind_ok h with ⟨pointer, hread, h⟩
  split at h
  · cases h
    exact Or.inl rfl
  · rename_i hnone
    rcases bind_ok h with ⟨written, hwritten, h⟩
    cases h
    refine Or.inr ⟨pointer, hread, ⟨directory, hdirectory, ?_⟩, ?_, rfl, hwritten⟩
    · rw [orRefuse_eq_ok.mp htree]
      rfl
    · intro active hactive hsame
      rw [hactive, Option.filter_some, if_pos (decide_eq_true hsame)] at hnone
      cases hnone

theorem switchActive_changes {digest : String} {next : ActiveVersions}
    (h : switchActive env disk digest layout = .ok (next, after)) : Changes env layout after := by
  rcases switchActive_eq_ok h with rfl | ⟨pointer, hread, hadopted, hother, rfl, hwritten⟩
  · exact Changes.refl after
  · refine Changes.pointed disk _ after (fun hstands => ⟨hadopted, ?_⟩) hwritten
    intro previous hprevious
    rcases Option.map_eq_some_iff.mp hprevious with ⟨active, hactive, rfl⟩
    rw [hactive] at hread
    exact And.intro (hother active hactive) (hstands.retains hread).current

theorem rollBack_changes {next : ActiveVersions}
    (h : rollBack env disk layout = .ok (next, after)) : Changes env layout after := by
  unfold rollBack at h
  rcases bind_ok h with ⟨_, _, h⟩
  rcases bind_ok h with ⟨pointer, hread, h⟩
  rcases bind_ok h with ⟨active, hactive, h⟩
  rcases bind_ok h with ⟨previous, hprevious, h⟩
  rcases bind_ok h with ⟨_, _, h⟩
  rcases bind_ok h with ⟨_, _, h⟩
  rcases bind_ok h with ⟨_, _, h⟩
  rcases bind_ok h with ⟨written, hwritten, h⟩
  cases h
  refine Changes.pointed disk _ after (fun hstands => ?_) hwritten
  rw [orRefuse_eq_ok.mp hactive] at hread
  have hretains := hstands.retains hread
  rcases hretains.previous previous (orRefuse_eq_ok.mp hprevious) with ⟨hne, hadopted⟩
  refine ⟨hadopted, fun digest hdigest => ?_⟩
  cases hdigest
  exact And.intro (Ne.symm hne) hretains.current

theorem uninstallVersion_changes {digest : String} {remains : Option Tree} :
    Changes env layout (uninstallVersion env disk digest remains layout).2 := by
  unfold uninstallVersion
  cases htarget : uninstallTarget env disk digest layout with
  | error refusal => exact Changes.refl layout
  | ok directory =>
      unfold uninstallTarget at htarget
      rcases bind_ok htarget with ⟨_, _, htarget⟩
      rcases bind_ok htarget with ⟨found, hdirectory, htarget⟩
      rcases bind_ok htarget with ⟨_, _, htarget⟩
      rcases bind_ok htarget with ⟨pointer, hread, htarget⟩
      rcases check_ok htarget with ⟨hfree, htarget⟩
      cases htarget
      refine Changes.removed digest directory remains hdirectory ?_
      intro active hactive
      cases hactive.symm.trans hread
      simpa using hfree

theorem perform_changes (action : Action Tree) : Changes env layout (perform env layout action) := by
  cases action with
  | install disk package staged => exact Changes.leaves fun _ _ => installPackage_changes
  | switchActive disk digest => exact Changes.leaves fun _ _ => switchActive_changes
  | rollBack disk => exact Changes.leaves fun _ _ => rollBack_changes
  | uninstall disk digest remains => exact uninstallVersion_changes
  | alter directory tree =>
      dsimp only [perform]
      split
      · exact Changes.kept _ rfl fun _ => adopted_update (Or.inl rfl)
      · exact Changes.refl layout

theorem Changes.stands (h : Changes env layout after) (hstands : PointerStands env layout) :
    PointerStands env after := by
  cases h with
  | kept after hpointer hadopted =>
      rcases hstands with hnone | ⟨active, hread, hretains⟩
      · exact Or.inl (hpointer.trans hnone)
      · exact Or.inr ⟨active, (readPointer_congr hpointer).trans hread, hretains.mono hadopted⟩
  | pointed disk next after hnext hwritten =>
      rcases readPointer_written hwritten with ⟨hread, hversions⟩
      refine Or.inr ⟨next, hread, (hnext hstands).mono ?_⟩
      intro digest hadopted
      unfold Adopted
      rw [hversions]
      exact hadopted
  | removed digest directory remains hdirectory hspared =>
      rcases hstands with hnone | ⟨active, hread, hretains⟩
      · exact Or.inl hnone
      · rcases hspared active hread with ⟨hcurrent, hprevious⟩
        -- what is removed is the directory of another digest, so not one of theirs
        have hother : forall {kept : String}, kept ≠ digest ->
            directoryForDigest kept ≠ .ok directory := fun hne hkept =>
          hne (directoryForDigest_injective hkept hdirectory)
        refine Or.inr ⟨active, hread, adopted_update (Or.inr (hother hcurrent)) hretains.current, ?_⟩
        intro previous hsome
        rcases hretains.previous previous hsome with ⟨hne, hadopted⟩
        have hkept : previous ≠ digest := fun heq => hprevious (heq ▸ hsome)
        exact And.intro hne (adopted_update (Or.inr (hother hkept)) hadopted)

theorem Changes.active (h : Changes env layout after) (hactive : layout.pointer.isSome = true) :
    after.pointer.isSome = true := by
  cases h with
  | kept after hpointer hadopted => rw [hpointer]; exact hactive
  | pointed disk next after hnext hwritten =>
      unfold writePointer at hwritten
      rcases check_ok hwritten with ⟨_, hwritten⟩
      cases hwritten
      rfl
  | removed digest directory remains hdirectory hspared => exact hactive

theorem layoutAfter_concat (actions : List (Action Tree)) (action : Action Tree) :
    layoutAfter env (actions ++ [action]) = perform env (layoutAfter env actions) action :=
  List.foldl_concat _ _ _ _

theorem pointerStands_after (actions : List (Action Tree)) :
    PointerStands env (layoutAfter env actions) := by
  induction actions using List.reverseRecOn with
  | nil => exact Or.inl rfl
  | append_singleton before action ih =>
      rw [layoutAfter_concat]
      exact (perform_changes action).stands ih

variable (env)

/--
Whatever calls are made, refused or cut short, and whatever happens to the adopted trees
meanwhile: the pointer names versions that are adopted, and once one is active there is always one.
-/
theorem active_version_survives (before later : List (Action Tree)) :
    PointerStands env (layoutAfter env before) ∧
      ((layoutAfter env before).pointer.isSome = true ->
        (layoutAfter env (before ++ later)).pointer.isSome = true) := by
  refine And.intro (pointerStands_after before) fun hactive => ?_
  induction later using List.reverseRecOn with
  | nil => rwa [List.append_nil]
  | append_singleton rest action ih =>
      rw [← List.append_assoc, layoutAfter_concat]
      exact (perform_changes action).active ih

/--
A roll-back takes back a switch that moved the pointer, however the layout came about: it answers
the version that was active as the active one and the other as the one before, and refuses only
where the bytes of that version are no longer those it was adopted under.
-/
theorem roll_back_undoes_switch (actions : List (Action Tree)) (disk back : Disk)
    (digest : String) (active : ActiveVersions)
    (hread : (readPointer env (layoutAfter env actions)).toOption = some (some active))
    (hmoved : (readPointer env
      (layoutAfter env (actions ++ [.switchActive disk digest]))).toOption ≠ some (some active))
    (hunlinked : back.unlinked = .ok ()) (hwrites : back.writes = true) :
    exists directory tree, directoryForDigest active.current = .ok directory ∧
      (layoutAfter env actions).versions directory = some tree ∧
      (rollBack env back (layoutAfter env (actions ++ [.switchActive disk digest]))).map Prod.fst =
        (requireDigest env tree active.current).map
          fun _ => { current := active.current, previous := some digest } := by
  have hread := Except.toOption_eq_some hread
  have hretains := (pointerStands_after actions).retains hread
  rw [layoutAfter_concat] at hmoved ⊢
  dsimp only [perform] at hmoved ⊢
  cases hswitch : switchActive env disk digest (layoutAfter env actions) with
  | error refusal =>
      rw [hswitch] at hmoved
      exact absurd (congrArg Except.toOption hread) hmoved
  | ok settled =>
      rw [hswitch] at hmoved
      rcases settled with ⟨next, switched⟩
      change (readPointer env switched).toOption ≠ _ at hmoved
      change exists directory tree, _ ∧ _ ∧ (rollBack env back switched).map Prod.fst = _
      rcases switchActive_eq_ok hswitch with rfl | ⟨pointer, hpointer, _, _, rfl, hwritten⟩
      · exact absurd (congrArg Except.toOption hread) hmoved
      · cases hpointer.symm.trans hread
        rcases readPointer_written hwritten with ⟨hnext, hversions⟩
        rcases hretains.current with ⟨directory, hdirectory, hpresent⟩
        rcases Option.isSome_iff_exists.mp hpresent with ⟨tree, htree⟩
        refine ⟨directory, tree, hdirectory, htree, ?_⟩
        unfold rollBack
        rw [hunlinked, hnext, hversions]
        simp only [Except.ok_bind, orRefuse, Option.map_some, hdirectory, htree, writePointer,
          hwrites, check]
        cases requireDigest env tree active.current with
        | error refusal => rfl
        | ok _ => rfl

end Runs

namespace Sample

def digestOf (c : Char) : String :=
  String.ofList (digestPrefix ++ List.replicate 64 c)

/-- A tree is its digest, and the pointer is persisted as it is. -/
def installEnv : InstallEnvironment String PersistedPointer :=
  { packageDigest := some
    pointerJson := id
    parsePointer := some
    parse_json := fun _ => rfl }

def healthy : Disk :=
  { unlinked := .ok (), writes := true }

def adopting : List (Action String) :=
  [.install healthy (digestOf 'a') (.ok (digestOf 'a')),
    .install healthy (digestOf 'b') (.ok (digestOf 'b')), .switchActive healthy (digestOf 'a')]

end Sample

theorem roll_back_undoes_switch_to_second :
    exists directory tree, directoryForDigest (Sample.digestOf 'a') = .ok directory ∧
      (layoutAfter Sample.installEnv Sample.adopting).versions directory = some tree ∧
      (rollBack Sample.installEnv Sample.healthy (layoutAfter Sample.installEnv
          (Sample.adopting ++ [.switchActive Sample.healthy (Sample.digestOf 'b')]))).map Prod.fst =
        (requireDigest Sample.installEnv tree (Sample.digestOf 'a')).map
          fun _ => { current := Sample.digestOf 'a', previous := some (Sample.digestOf 'b') } :=
  roll_back_undoes_switch Sample.installEnv Sample.adopting Sample.healthy Sample.healthy
    (Sample.digestOf 'b') { current := Sample.digestOf 'a', previous := none } (by decide +kernel)
    (by decide +kernel) rfl rfl

end Extensions
end GraphHelm
