import GraphHelm.Store.Contract

/-!
# What the hash of an event stands for

The hash of an event answers for the event and for everything its stream held before it, in
whatever store, and after whatever calls, crashes and recoveries, it is met again.
-/

namespace GraphHelm

open ErrorState StoreM

section Heads

variable {env : Environment} {scope : RepositoryScope} {streamId : String}
  {events before after : List EventEnvelope} {event : EventEnvelope}

theorem StreamHistory.at (h : StreamHistory env scope streamId (before ++ event :: after)) :
    event.sequence = before.length + 1 ∧
      (envelopeChain env).Linked genesisHash (before ++ [event]) := by
  have hnumbered := (numbered_append.mp h.numbered).right.left
  have hlinked := h.linked
  rw [← List.singleton_append, ← List.append_assoc] at hlinked
  exact And.intro (by omega) (HashChain.linked_append.mp hlinked).left

end Heads

end GraphHelm
