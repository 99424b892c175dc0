import Mathlib.Data.List.Nodup
import Mathlib.Order.Lattice

/-!
# Walks along edges that increase

Edges lead from one point to another, and each leads upwards. A walk from a point to
another goes through strictly increasing points, and where no two edges start at one
point there is at most one.
-/

namespace GraphHelm
namespace Walks

section Walks

variable {Edge Point : Type} (source target : Edge -> Point)

def Leads : Point -> List Edge -> Point -> Prop
  | point, [], goal => point = goal
  | point, edge :: rest, goal => source edge = point ∧ Leads (target edge) rest goal

variable {source target} {point goal : Point} {walk other : List Edge}

theorem getLast?_of_leads (h : Leads source target point walk goal) :
    (point :: walk.map target).getLast? = some goal := by
  induction walk generalizing point with
  | nil =>
      rw [show point = goal from h]
      rfl
  | cons edge rest ih =>
      rw [List.map_cons, List.getLast?_cons_cons]
      exact ih h.right

theorem leads_target_unique {middle : Point} (h : Leads source target point walk middle)
    (h' : Leads source target point walk goal) : middle = goal :=
  Option.some.inj ((getLast?_of_leads h).symm.trans (getLast?_of_leads h'))

theorem leads_append : Leads source target point (walk ++ other) goal <->
    exists middle, Leads source target point walk middle ∧
      Leads source target middle other goal := by
  induction walk generalizing point with
  | nil => exact Iff.intro (fun h => ⟨point, rfl, h⟩) fun ⟨_, heq, h⟩ => heq ▸ h
  | cons edge rest ih => simp only [List.cons_append, Leads, ih, and_assoc, exists_and_left]

variable [LinearOrder Point]

theorem le_of_leads (hup : forall edge, edge ∈ walk -> source edge < target edge)
    (h : Leads source target point walk goal) : point <= goal := by
  induction walk generalizing point with
  | nil =>
      exact le_of_eq h
  | cons edge rest ih =>
      rcases h with ⟨hsource, hrest⟩
      have hedge := hup edge List.mem_cons_self
      rw [hsource] at hedge
      exact le_of_lt (lt_of_lt_of_le hedge
        (ih (fun later hmem => hup later (List.mem_cons_of_mem edge hmem)) hrest))

theorem increasing_of_leads (hup : forall edge, edge ∈ walk -> source edge < target edge)
    (h : Leads source target point walk goal) :
    (point :: walk.map target).Pairwise (fun first second => first < second) := by
  induction walk generalizing point with
  | nil =>
      exact List.pairwise_singleton _ _
  | cons edge rest ih =>
      rcases h with ⟨hsource, hrest⟩
      have hedge := hup edge List.mem_cons_self
      rw [hsource] at hedge
      have hlater := ih (fun later hmem => hup later (List.mem_cons_of_mem edge hmem)) hrest
      rw [List.map_cons, List.pairwise_cons]
      refine And.intro ?_ hlater
      intro passed hmem
      rcases List.mem_cons.mp hmem with rfl | hbehind
      · exact hedge
      · exact lt_trans hedge ((List.pairwise_cons.mp hlater).left passed hbehind)

theorem leads_unique {edges : List Edge} (hsingle : (edges.map source).Nodup)
    (hup : forall edge, edge ∈ edges -> source edge < target edge)
    (hwalk : forall edge, edge ∈ walk -> edge ∈ edges)
    (hother : forall edge, edge ∈ other -> edge ∈ edges)
    (h : Leads source target point walk goal) (h' : Leads source target point other goal) :
    walk = other := by
  induction walk generalizing point other with
  | nil =>
      cases other with
      | nil =>
          rfl
      | cons edge rest =>
          have hedge := hup edge (hother edge List.mem_cons_self)
          have hle := le_of_leads
            (fun later hmem => hup later (hother later (List.mem_cons_of_mem edge hmem)))
            h'.right
          rw [h'.left, show point = goal from h] at hedge
          exact absurd hedge (not_lt_of_ge hle)
  | cons edge rest ih =>
      have hedge := hup edge (hwalk edge List.mem_cons_self)
      cases other with
      | nil =>
          have hle := le_of_leads
            (fun later hmem => hup later (hwalk later (List.mem_cons_of_mem edge hmem))) h.right
          rw [h.left, show point = goal from h'] at hedge
          exact absurd hedge (not_lt_of_ge hle)
      | cons first later =>
          have hsame : edge = first :=
            List.inj_on_of_nodup_map hsingle (hwalk edge List.mem_cons_self)
              (hother first List.mem_cons_self) (h.left.trans h'.left.symm)
          have hrest := h'.right
          rw [← hsame] at hrest
          rw [hsame, ih (fun next hmem => hwalk next (List.mem_cons_of_mem edge hmem))
            (fun next hmem => hother next (List.mem_cons_of_mem first hmem)) h.right hrest]

end Walks

end Walks
end GraphHelm
