import GraphHelm.Externalize.Topology
import GraphHelm.Library.OrderedMap

/-!
# The retries of a persisted node

A persisted node has one control of its retries, where the authored one has the property, and
the attempts it allows are the authored ones: no other builder makes a control of that kind,
and no other member of the property is entered under their name.
-/

namespace GraphHelm
namespace Externalize

open Std
open ControlBuilder

variable {env : Surroundings}

/-- What holds of the result of a computation that succeeds. -/
def Yields {A : Type} (P : A -> Prop) (m : Except GovernorError A) : Prop :=
  forall a, m = .ok a -> P a

section Yields

variable {A B : Type} {P : A -> Prop}

theorem Yields.bind {m : Except GovernorError B} {f : B -> Except GovernorError A}
    (h : forall b, Yields P (f b)) : Yields P (m >>= f) := by
  intro a hok
  rcases bind_ok hok with ⟨b, _, hb⟩
  exact h b a hb

theorem Yields.map {m : Except GovernorError B} {f : B -> A}
    (h : Yields (fun b => P (f b)) m) : Yields P (m.map f) := by
  intro a hok
  cases m with
  | error e => cases hok
  | ok b =>
      cases hok
      exact h b rfl

theorem Yields.ok {a : A} (h : P a) : Yields P (.ok a) := by
  intro a' hok
  cases hok
  exact h

theorem Yields.refused : Yields P (Externalize.refused : Except GovernorError A) := by
  intro a hok
  cases hok

end Yields

/-!
## The attempts
-/

variable {b b' builder : ControlBuilder} {value : Json} {controlType : String}

theorem insertIdentifier_integers {key value : String}
    (h : b.insertIdentifier key value = .ok b') : b'.integers = b.integers := by
  unfold insertIdentifier at h
  rcases bind_ok h with ⟨_, _, h⟩
  cases h
  rfl

theorem token_integers {key : String} (h : b.token key value = .ok b') :
    b'.integers = b.integers := by
  unfold token at h
  rcases bind_ok h with ⟨_, _, h⟩
  rcases bind_ok h with ⟨_, _, h⟩
  rcases bind_ok h with ⟨_, _, h⟩
  exact insertIdentifier_integers h

theorem insertInteger_integers {key : String} {value : Nat}
    (h : b.insertInteger key value = .ok b') :
    b'.integers = b.integers.insert key (value : Int) := by
  unfold insertInteger at h
  rcases bind_ok h with ⟨_, _, h⟩
  rcases bind_ok h with ⟨key', hkey, h⟩
  have hsame : key' = key := by
    unfold safeKey at hkey
    split at hkey
    · cases hkey
      rfl
    · cases hkey
  cases h
  rw [hsame]

theorem integer_integers {key : String} (h : b.integer key value = .ok b') :
    exists number, value.asNatural = some number ∧
      b'.integers = b.integers.insert key (number : Int) := by
  unfold integer at h
  rcases bind_ok h with ⟨number, hnumber, h⟩
  exact ⟨number, orRefuse_eq_ok.mp hnumber, insertInteger_integers h⟩

theorem tokenArray_integers {name : String} (h : b.tokenArray name value = .ok b') :
    exists number : Nat, b'.integers = b.integers.insert (name ++ "Count") (number : Int) := by
  unfold tokenArray stringArray at h
  rcases bind_ok h with ⟨values, _, h⟩
  rcases bind_ok h with ⟨_, _, h⟩
  rcases bind_ok h with ⟨counted, hcounted, h⟩
  have hkept : forall (entries : List (Json × Nat)) (b b' : ControlBuilder),
      entries.foldlM
          (fun builder entry => do
            let text <- textOf entry.1
            builder.insertIdentifier (<- indexedKey name entry.2) (<- safeToken text))
          b = .ok b' -> b'.integers = b.integers := by
    intro entries
    induction entries with
    | nil =>
        intro b b' h
        cases h
        rfl
    | cons entry rest ih =>
        intro b b' h
        rw [List.foldlM_cons] at h
        rcases bind_ok h with ⟨next, hnext, h⟩
        rcases bind_ok hnext with ⟨_, _, hnext⟩
        rcases bind_ok hnext with ⟨_, _, hnext⟩
        rcases bind_ok hnext with ⟨_, _, hnext⟩
        rw [ih next b' h, insertIdentifier_integers hnext]
  refine ⟨values.length, ?_⟩
  rw [hkept _ _ _ h]
  exact insertInteger_integers hcounted

theorem retryMember_attempts {key : String} (h : retryMember key value b = .ok b') :
    b'.integers["maxAttempts"]? =
      if key = "maxAttempts" then value.asNatural.map Int.ofNat
      else b.integers["maxAttempts"]? := by
  have hother : forall {name : String} {number : Int}, name ≠ "maxAttempts" ->
      b'.integers = b.integers.insert name number ->
        b'.integers["maxAttempts"]? = b.integers["maxAttempts"]? := by
    intro name number hname hinsert
    rw [hinsert, OrderedMap.getElem?_insert_of_ne hname]
  unfold retryMember at h
  split at h
  · rcases integer_integers h with ⟨number, hnumber, hinsert⟩
    rw [hinsert, ExtTreeMap.getElem?_insert_self, hnumber]
    rfl
  · rcases integer_integers h with ⟨number, _, hinsert⟩
    exact hother (by decide) hinsert
  · rw [token_integers h]
    rfl
  · rcases tokenArray_integers h with ⟨number, hinsert⟩
    exact hother (by decide) hinsert
  · rcases tokenArray_integers h with ⟨number, hinsert⟩
    exact hother (by decide) hinsert
  · rcases tokenArray_integers h with ⟨number, hinsert⟩
    exact hother (by decide) hinsert
  · cases h

theorem retryMembers_attempts {members : List (String × Json)}
    (hdistinct : (members.map Prod.fst).Nodup)
    (h : b.forEachMember members retryMember = .ok b') :
    b'.integers["maxAttempts"]? =
      match members.lookup "maxAttempts" with
      | some value => value.asNatural.map Int.ofNat
      | none => b.integers["maxAttempts"]? := by
  induction members generalizing b with
  | nil =>
      cases h
      rfl
  | cons member rest ih =>
      rcases member with ⟨key, value⟩
      rw [List.map_cons, List.nodup_cons] at hdistinct
      unfold forEachMember at h ih
      rw [List.foldlM_cons] at h
      rcases bind_ok h with ⟨next, hnext, h⟩
      rw [ih hdistinct.right h, retryMember_attempts hnext]
      rcases Decidable.em (key = "maxAttempts") with heq | hne
      · subst heq
        have hlater : rest.lookup "maxAttempts" = none := by
          rw [List.lookup_eq_none_iff]
          intro other hmem
          apply bne_iff_ne.mpr
          intro heq
          exact hdistinct.left (List.mem_map.mpr ⟨other, hmem, heq.symm⟩)
        simp [hlater]
      · have hkey : ("maxAttempts" == key) = false := beq_false_of_ne (Ne.symm hne)
        simp only [List.lookup_cons, hkey, hne, if_false]

/-!
## The kinds of the controls
-/

theorem finish_yields :
    Yields (fun control : PersistedControl =>
        control.controlType = controlType ∧ control.integers = builder.integers)
      (builder.finish env controlType) := by
  intro control h
  unfold finish finishControl at h
  rcases bind_ok h with ⟨_, _, h⟩
  rcases bind_ok h with ⟨_, _, h⟩
  rcases bind_ok h with ⟨_, _, h⟩
  cases h
  exact And.intro rfl rfl

/-- A control of another kind than the one of the retries. -/
def Beside (control : PersistedControl) : Prop := control.controlType ≠ "node_retry"

theorem finish_beside (hkind : controlType ≠ "node_retry") :
    Yields Beside (builder.finish env controlType) := by
  intro control h
  unfold Beside
  rw [(finish_yields control h).left]
  exact hkind

theorem finishOptional_beside (hkind : controlType ≠ "node_retry") :
    Yields (fun control : Option PersistedControl => forall c, c ∈ control -> Beside c)
      (builder.finishOptional env controlType) := by
  unfold finishOptional
  split
  · apply Yields.ok
    intro c hc
    cases hc
  · apply Yields.map
    intro control h c hc
    cases hc
    exact finish_beside hkind control h

theorem ephemeralMember_beside {key : String} {built : ControlBuilder × List PersistedControl}
    (h : forall c, c ∈ built.2 -> Beside c) :
    Yields (fun built : ControlBuilder × List PersistedControl => forall c, c ∈ built.2 -> Beside c)
      (ephemeralMember env key value built) := by
  have hconfigure : forall step : Except GovernorError ControlBuilder,
      Yields (fun built : ControlBuilder × List PersistedControl =>
        forall c, c ∈ built.2 -> Beside c) (do let agent <- step; .ok (agent, built.2)) := by
    intro step
    exact Yields.bind fun agent => Yields.ok h
  have hbeside : forall step : Except GovernorError PersistedControl, Yields Beside step ->
      Yields (fun built : ControlBuilder × List PersistedControl =>
        forall c, c ∈ built.2 -> Beside c)
        (do let control <- step; .ok (built.1, built.2 ++ [control])) := by
    intro step hstep after hafter c hc
    rcases bind_ok hafter with ⟨control, hcontrol, hafter⟩
    cases hafter
    rcases List.mem_append.mp hc with hc | hc
    · exact h c hc
    · rw [List.mem_singleton.mp hc]
      exact hstep control hcontrol
  unfold ephemeralMember
  split
  · exact Yields.ok h
  · exact Yields.ok h
  · exact Yields.ok h
  · exact hconfigure _
  · exact hconfigure _
  · exact hconfigure _
  · exact hconfigure _
  · exact hconfigure _
  · exact hconfigure _
  · exact hconfigure _
  · exact hbeside _ (Yields.bind fun _ => Yields.bind fun _ => finish_beside (by decide))
  · exact hbeside _ (Yields.bind fun _ => Yields.bind fun _ => finish_beside (by decide))
  · exact hbeside _ (Yields.bind fun _ => Yields.bind fun _ => Yields.bind fun _ =>
      Yields.bind fun _ => finish_beside (by decide))
  · exact hbeside _ (Yields.bind fun _ => Yields.bind fun _ => finish_beside (by decide))
  · exact Yields.refused

theorem ephemeralMembers_beside {members : List (String × Json)}
    {built : ControlBuilder × List PersistedControl} (h : forall c, c ∈ built.2 -> Beside c) :
    Yields (fun built : ControlBuilder × List PersistedControl => forall c, c ∈ built.2 -> Beside c)
      (members.foldlM (fun built member => ephemeralMember env member.1 member.2 built) built) := by
  induction members generalizing built with
  | nil => exact Yields.ok h
  | cons member rest ih =>
      intro last hlast
      rw [List.foldlM_cons] at hlast
      rcases bind_ok hlast with ⟨next, hnext, hlast⟩
      exact ih (ephemeralMember_beside h next hnext) last hlast

theorem buildAgentControls_beside :
    Yields (fun controls : List PersistedControl => forall c, c ∈ controls -> Beside c)
      (buildAgentControls env value) := by
  have hconfigured : forall built : ControlBuilder × List PersistedControl,
      (forall c, c ∈ built.2 -> Beside c) ->
        Yields (fun controls : List PersistedControl => forall c, c ∈ controls -> Beside c) (do
          let configuration <- built.1.finish env "agent_configuration"
          .ok (configuration :: built.2)) := by
    intro built hbuilt controls h c hc
    rcases bind_ok h with ⟨configuration, hconfiguration, h⟩
    cases h
    rcases List.mem_cons.mp hc with heq | hc
    · rw [heq]
      exact finish_beside (by decide) configuration hconfiguration
    · exact hbuilt c hc
  unfold buildAgentControls
  apply Yields.bind
  intro members
  dsimp only
  split
  · apply Yields.bind
    intro _
    apply Yields.bind
    intro _
    apply Yields.bind
    intro agent
    exact hconfigured (agent, []) fun c hc => by cases hc
  · apply Yields.bind
    intro _
    apply Yields.bind
    intro ephemeral
    apply Yields.bind
    intro agent controls h
    rcases bind_ok h with ⟨built, hbuilt, h⟩
    have hothers := ephemeralMembers_beside (fun c hc => by cases hc) built hbuilt
    exact hconfigured built hothers controls h

theorem buildNodeKindControl_beside {slots : List ContentSlot} {nodeId : String}
    {node : GraphNode} :
    Yields (fun control : Option PersistedControl => forall c, c ∈ control -> Beside c)
      (buildNodeKindControl env slots nodeId node) := by
  unfold buildNodeKindControl
  split
  · exact Yields.bind fun _ => finishOptional_beside (by decide)
  · exact Yields.bind fun _ => finishOptional_beside (by decide)
  · exact Yields.bind fun _ => Yields.bind fun _ => Yields.bind fun _ =>
      finishOptional_beside (by decide)
  · exact Yields.bind fun _ => finishOptional_beside (by decide)
  · exact Yields.bind fun _ => Yields.bind fun _ => finishOptional_beside (by decide)
  · exact Yields.bind fun _ => Yields.bind fun _ => Yields.bind fun _ =>
      finishOptional_beside (by decide)
  · exact Yields.bind fun _ => Yields.bind fun _ => Yields.bind fun _ =>
      finishOptional_beside (by decide)
  · exact Yields.bind fun _ => finishOptional_beside (by decide)
  · exact Yields.bind fun _ => Yields.bind fun _ => Yields.bind fun _ =>
      finishOptional_beside (by decide)
  · exact Yields.bind fun _ => finishOptional_beside (by decide)
  · exact Yields.refused
  · apply Yields.ok
    intro c hc
    cases hc

section Properties

variable {node : GraphNode} {key : String}

theorem propertyControls_beside {build : Json -> Except GovernorError (List PersistedControl)}
    (h : forall value, Yields (fun controls : List PersistedControl =>
      forall c, c ∈ controls -> Beside c) (build value)) :
    Yields (fun controls : List PersistedControl => forall c, c ∈ controls -> Beside c)
      (propertyControls node key build) := by
  unfold propertyControls
  split
  · exact h _
  · apply Yields.ok
    intro c hc
    cases hc

theorem propertyControl_beside {build : Json -> Except GovernorError PersistedControl}
    (h : forall value, Yields Beside (build value)) :
    Yields (fun controls : List PersistedControl => forall c, c ∈ controls -> Beside c)
      (propertyControl node key build) := by
  apply propertyControls_beside
  intro value
  apply Yields.map
  intro control hcontrol c hc
  rw [List.mem_singleton.mp hc]
  exact h value control hcontrol

theorem propertyControl_eq_ok {build : Json -> Except GovernorError PersistedControl}
    {controls : List PersistedControl} (h : propertyControl node key build = .ok controls) :
    (node.property key = none ∧ controls = []) ∨
      exists value control, node.property key = some value ∧ build value = .ok control ∧
        controls = [control] := by
  unfold propertyControl propertyControls at h
  cases hvalue : node.property key with
  | none =>
      rw [hvalue] at h
      cases h
      exact Or.inl (And.intro rfl rfl)
  | some value =>
      rw [hvalue] at h
      dsimp only at h
      cases hbuild : build value with
      | error e =>
          rw [hbuild] at h
          cases h
      | ok control =>
          rw [hbuild] at h
          cases h
          exact Or.inr ⟨value, control, rfl, hbuild, rfl⟩

end Properties

/-!
## The control of the retries
-/

def GraphNode.maxAttempts (node : GraphNode) : Option Nat :=
  ((node.property "retry").bind fun value => value.get "maxAttempts").bind Json.asNatural

def retryControl (controls : List PersistedControl) : Option PersistedControl :=
  controls.find? fun control => decide (control.controlType = "node_retry")

def persistedAttempts (controls : List PersistedControl) : Option Int :=
  (retryControl controls).bind fun control => control.integers["maxAttempts"]?

theorem retryControl_eq {controls retry : List PersistedControl}
    (hone : forall c c', c ∈ retry -> c' ∈ retry -> c = c')
    (hretry : forall c, c ∈ retry -> c ∈ controls ∧ c.controlType = "node_retry")
    (hothers : forall c, c ∈ controls -> c ∈ retry ∨ Beside c) :
    retryControl controls = retry.head? := by
  cases hfound : retryControl controls with
  | some found =>
      have hkind : found.controlType = "node_retry" := by
        simpa using List.find?_some (p := fun c : PersistedControl =>
          decide (c.controlType = "node_retry")) hfound
      rcases hothers found (List.mem_of_find?_eq_some hfound) with hmem | hbeside
      · cases retry with
        | nil => cases hmem
        | cons first rest =>
            rw [hone found first hmem List.mem_cons_self]
            rfl
      · exact absurd hkind hbeside
  | none =>
      cases retry with
      | nil => rfl
      | cons first rest =>
          rcases hretry first List.mem_cons_self with ⟨hmem, hkind⟩
          have hnot := List.find?_eq_none.mp hfound first hmem
          exact absurd (decide_eq_true hkind) hnot

theorem buildNodeControls_attempts {slots : List ContentSlot} {nodeId : String} {node : GraphNode}
    (hdistinct : forall members, node.property "retry" = some (.object members) ->
      (members.map Prod.fst).Nodup) {controls : List PersistedControl}
    (h : buildNodeControls env slots nodeId node = .ok controls) :
    persistedAttempts controls = node.maxAttempts.map Int.ofNat := by
  unfold buildNodeControls at h
  rcases bind_ok h with ⟨_, _, h⟩
  rcases bind_ok h with ⟨agent, hagent, h⟩
  rcases bind_ok h with ⟨crew, hcrew, h⟩
  rcases bind_ok h with ⟨delegation, hdelegation, h⟩
  rcases bind_ok h with ⟨input, hinput, h⟩
  rcases bind_ok h with ⟨output, houtput, h⟩
  rcases bind_ok h with ⟨model, hmodel, h⟩
  rcases bind_ok h with ⟨retry, hretry, h⟩
  rcases bind_ok h with ⟨resources, hresources, h⟩
  rcases bind_ok h with ⟨memory, hmemory, h⟩
  rcases bind_ok h with ⟨context, hcontext, h⟩
  rcases bind_ok h with ⟨permissions, hpermissions, h⟩
  rcases bind_ok h with ⟨isolation, hisolation, h⟩
  rcases bind_ok h with ⟨completion, hcompletion, h⟩
  rcases bind_ok h with ⟨common, hcommon, h⟩
  rcases bind_ok h with ⟨loop, hloop, h⟩
  rcases bind_ok h with ⟨kind, hkind, h⟩
  rcases bind_ok h with ⟨configuration, hconfiguration, h⟩
  cases h
  have hagent := propertyControls_beside (fun _ => buildAgentControls_beside) agent hagent
  have hcrew := propertyControl_beside (fun _ => Yields.bind fun _ => Yields.bind fun _ =>
    finish_beside (by decide)) crew hcrew
  have hdelegation := propertyControl_beside (fun _ => Yields.bind fun _ => Yields.bind fun _ =>
    finish_beside (by decide)) delegation hdelegation
  have hinput := propertyControl_beside (fun _ => Yields.bind fun _ => Yields.bind fun _ =>
    Yields.bind fun _ => finish_beside (by decide)) input hinput
  have houtput := propertyControl_beside (fun _ => Yields.bind fun _ => Yields.bind fun _ =>
    Yields.bind fun _ => finish_beside (by decide)) output houtput
  have hmodel := propertyControl_beside (fun _ => Yields.bind fun _ => Yields.bind fun _ =>
    finish_beside (by decide)) model hmodel
  have hresources := propertyControl_beside (fun _ => Yields.bind fun _ =>
    finish_beside (by decide)) resources hresources
  have hmemory := propertyControl_beside (fun _ => Yields.bind fun _ => Yields.bind fun _ =>
    finish_beside (by decide)) memory hmemory
  have hcontext := propertyControl_beside (fun _ => Yields.bind fun _ => Yields.bind fun _ =>
    finish_beside (by decide)) context hcontext
  have hpermissions := propertyControl_beside (fun _ => Yields.bind fun _ => Yields.bind fun _ =>
    Yields.bind fun _ => Yields.bind fun _ => finish_beside (by decide)) permissions hpermissions
  have hisolation := propertyControl_beside (fun _ => Yields.bind fun _ => Yields.bind fun _ =>
    finish_beside (by decide)) isolation hisolation
  have hcompletion := propertyControl_beside (fun _ => Yields.bind fun _ => Yields.bind fun _ =>
    finish_beside (by decide)) completion hcompletion
  have hcommon := (Yields.bind fun _ => Yields.bind fun _ => Yields.bind fun _ =>
    finishOptional_beside (by decide) : Yields _ (buildCommonControl env node)) common hcommon
  have hloop := propertyControl_beside (fun _ => Yields.bind fun _ => Yields.bind fun _ =>
    finish_beside (by decide)) loop hloop
  have hkind := buildNodeKindControl_beside kind hkind
  have hconfiguration := (Yields.bind fun _ => Yields.bind fun _ => Yields.bind fun _ =>
    Yields.bind fun _ => finishOptional_beside (by decide) :
      Yields _ (buildConfigurationControl env node)) configuration hconfiguration
  have hlisted : forall c, c ∈ agent ++ crew ++ delegation ++ input ++ output ++ model ++ retry ++
      resources ++ memory ++ context ++ permissions ++ isolation ++ completion ++ common.toList ++
        loop ++ kind.toList ++ configuration.toList -> c ∈ retry ∨ Beside c := by
    simp only [List.forall_mem_append, Option.mem_toList]
    exact ⟨⟨⟨⟨⟨⟨⟨⟨⟨⟨⟨⟨⟨⟨⟨⟨fun c hc => Or.inr (hagent c hc), fun c hc => Or.inr (hcrew c hc)⟩,
      fun c hc => Or.inr (hdelegation c hc)⟩, fun c hc => Or.inr (hinput c hc)⟩,
      fun c hc => Or.inr (houtput c hc)⟩, fun c hc => Or.inr (hmodel c hc)⟩,
      fun c hc => Or.inl hc⟩, fun c hc => Or.inr (hresources c hc)⟩,
      fun c hc => Or.inr (hmemory c hc)⟩, fun c hc => Or.inr (hcontext c hc)⟩,
      fun c hc => Or.inr (hpermissions c hc)⟩, fun c hc => Or.inr (hisolation c hc)⟩,
      fun c hc => Or.inr (hcompletion c hc)⟩, fun c hc => Or.inr (hcommon c hc)⟩,
      fun c hc => Or.inr (hloop c hc)⟩, fun c hc => Or.inr (hkind c hc)⟩,
      fun c hc => Or.inr (hconfiguration c hc)⟩
  have hmember : forall c, c ∈ retry -> c ∈ agent ++ crew ++ delegation ++ input ++ output ++
      model ++ retry ++ resources ++ memory ++ context ++ permissions ++ isolation ++ completion ++
        common.toList ++ loop ++ kind.toList ++ configuration.toList := by
    intro c hc
    simp [hc]
  unfold persistedAttempts GraphNode.maxAttempts
  rcases propertyControl_eq_ok hretry with ⟨hnone, hempty⟩ | ⟨value, control, hvalue, hbuild, hone⟩
  · subst hempty
    rw [@retryControl_eq _ []]
    · rw [hnone]
      rfl
    · intro c c' hc
      cases hc
    · intro c hc
      cases hc
    · intro c hc
      exact hlisted c ((List.perm_insertionSort _ _).mem_iff.mp hc)
  · subst hone
    unfold buildRetryControl at hbuild
    rcases bind_ok hbuild with ⟨members, hmembers, hbuild⟩
    rcases bind_ok hbuild with ⟨builder, hbuilder, hbuild⟩
    rcases finish_yields control hbuild with ⟨hkind, hintegers⟩
    have hobject : value = .object members := by
      unfold nonemptyObject at hmembers
      split at hmembers
      · cases hmembers
        rfl
      · cases hmembers
    have hattempts := retryMembers_attempts (hdistinct members (hobject ▸ hvalue)) hbuilder
    rw [@retryControl_eq _ [control]]
    · rw [hvalue, hobject]
      simp only [List.head?_cons, Option.bind_some, hintegers, hattempts, Json.get, Json.asObject]
      cases members.lookup "maxAttempts" with
      | none => simp [fresh]
      | some attempts => rfl
    · intro c c' hc hc'
      rw [List.mem_singleton.mp hc, List.mem_singleton.mp hc']
    · intro c hc
      refine And.intro ((List.perm_insertionSort _ _).mem_iff.mpr (hmember c hc)) ?_
      rw [List.mem_singleton.mp hc]
      exact hkind
    · intro c hc
      exact hlisted c ((List.perm_insertionSort _ _).mem_iff.mp hc)

end Externalize
end GraphHelm
