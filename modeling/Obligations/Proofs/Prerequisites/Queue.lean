import Obligations.Proofs.Prerequisites.Order

/-! # Which of two nodes comes first

Ready nodes are taken in the order in which they became ready. A node becomes ready once the last of
its prerequisites is in order, and of those that become ready by the same node the first given comes
first. What has been reached stands in that order throughout, so a node overtakes one that was given
before it only if that one waits longer for its prerequisites.
-/

namespace Obligations.Graph

variable {α : Type} [DecidableEq α]

/-- The place in an order right behind the last prerequisite of a node. -/
def readyAt (graph : Graph α) (order : List α) (node : α) : Nat :=
  ((graph.before node).map fun other => order.idxOf other + 1).foldr max 0

variable {graph : Graph α} {ids order : List α} {node : α}

theorem readyAt_le_iff {bound : Nat} :
    graph.readyAt order node ≤ bound ↔ ∀ other ∈ graph.before node, order.idxOf other < bound := by
  rw [readyAt]
  induction graph.before node with
  | nil => simp
  | cons first rest ih =>
    rw [List.map_cons, List.foldr_cons, max_le_iff, ih, List.forall_mem_cons, Nat.add_one_le_iff]

/-- A node is not ready before its prerequisites. -/
theorem idxOf_lt_readyAt {other : α} (edge : other ∈ graph.before node) :
    order.idxOf other < graph.readyAt order node := by
  rw [← not_le, readyAt_le_iff]
  exact fun early => Nat.lt_irrefl _ (early other edge)

theorem readyAt_le_length (placed : graph.before node ⊆ order) : graph.readyAt order node ≤ order.length := by
  rw [readyAt_le_iff]
  exact fun other edge => List.idxOf_lt_length_iff.mpr (placed edge)

/-- What comes behind the prerequisites of a node does not change when it is ready. -/
theorem readyAt_append (placed : graph.before node ⊆ order) (more : List α) :
    graph.readyAt (order ++ more) node = graph.readyAt order node := by
  rw [readyAt, readyAt]
  congr 1
  refine List.map_congr_left fun other edge => ?_
  rw [List.idxOf_append_of_mem (placed edge)]

/-- Whether a node is ready before another one, or at the same time and was given before it. -/
def Precedes (graph : Graph α) (ids order : List α) (node other : α) : Prop :=
  graph.readyAt order node < graph.readyAt order other ∨
    graph.readyAt order node = graph.readyAt order other ∧ ids.idxOf node < ids.idxOf other

theorem pairwise_idxOf {items : List α} (nodup : items.Nodup) :
    items.Pairwise fun item other => items.idxOf item < items.idxOf other := by
  rw [List.pairwise_iff_getElem]
  intro place later bound laterBound less
  rwa [nodup.idxOf_getElem, nodup.idxOf_getElem]

theorem rel_of_idxOf_lt {relation : α → α → Prop} {items : List α}
    (pairwise : items.Pairwise relation) {item other : α} (member : other ∈ items)
    (less : items.idxOf item < items.idxOf other) : relation item other := by
  have bound := List.idxOf_lt_length_iff.mpr member
  have related := List.pairwise_iff_getElem.mp pairwise _ _ (less.trans bound) bound less
  rwa [List.getElem_idxOf, List.getElem_idxOf] at related

namespace Progress

/-- Whether the nodes that have been reached stand in the order in which they became ready. -/
def IsQueued (graph : Graph α) (ids : List α) (progress : Progress α) : Prop :=
  (progress.sorted ++ progress.ready).Pairwise (graph.Precedes ids progress.sorted)

variable {progress : Progress α} {rest : List α}

/-- The nodes that become ready by the next node do so right behind it. -/
private theorem readyAt_released {id : α} (fresh : node ∉ progress.sorted)
    (edge : node ∈ graph.before id) (placed : graph.before id ⊆ progress.sorted ++ [node]) :
    graph.readyAt (progress.sorted ++ [node]) id = progress.sorted.length + 1 := by
  apply le_antisymm
  · have early := readyAt_le_length placed
    rwa [List.length_append, List.length_singleton] at early
  · have late : (progress.sorted ++ [node]).idxOf node < graph.readyAt (progress.sorted ++ [node]) id :=
      idxOf_lt_readyAt edge
    rw [List.idxOf_append_of_notMem fresh, List.idxOf_cons_self] at late
    omega

/-- Putting the next ready node in order keeps the queue: what becomes ready by it does so after all
that has been reached. -/
theorem advance_isQueued (coherent : IsCoherent graph ids progress) (nodup : ids.Nodup)
    (queued : IsQueued graph ids progress) (next : progress.ready = node :: rest) :
    IsQueued graph ids (advance graph ids progress node rest) := by
  have fresh := coherent.fresh next
  have placed : ∀ id ∈ progress.sorted ++ progress.ready, graph.before id ⊆ progress.sorted :=
    fun id member => ((coherent.reached id).mp member).2
  have regrouped : progress.sorted ++ [node] ++ (rest ++ ids.filter fun id =>
        decide (node ∈ graph.before id ∧ graph.before id ⊆ progress.sorted ++ [node])) =
      (progress.sorted ++ progress.ready) ++ ids.filter fun id =>
        decide (node ∈ graph.before id ∧ graph.before id ⊆ progress.sorted ++ [node]) := by
    simp [next]
  rw [IsQueued, sorted_advance coherent nodup next, ready_advance coherent nodup next, regrouped,
    List.pairwise_append]
  refine ⟨?_, ?_, ?_⟩
  · refine queued.imp_of_mem fun {first second} firstReached secondReached precedes => ?_
    rwa [Precedes, readyAt_append (placed first firstReached),
      readyAt_append (placed second secondReached)]
  · refine ((pairwise_idxOf nodup).filter _).imp_of_mem
      fun {first second} firstReleased secondReleased given => ?_
    simp only [List.mem_filter, decide_eq_true_eq] at firstReleased secondReleased
    refine Or.inr ⟨?_, given⟩
    rw [readyAt_released fresh firstReleased.2.1 firstReleased.2.2,
      readyAt_released fresh secondReleased.2.1 secondReleased.2.2]
  · intro first reached second released
    simp only [List.mem_filter, decide_eq_true_eq] at released
    refine Or.inl ?_
    rw [readyAt_released fresh released.2.1 released.2.2, readyAt_append (placed first reached)]
    exact Nat.lt_succ_of_le (readyAt_le_length (placed first reached))

end Progress

theorem start_isQueued (graph : Graph α) (nodup : ids.Nodup) :
    Progress.IsQueued graph ids (graph.start ids) := by
  change ([] ++ ids.filter fun id => (graph.before id).isEmpty).Pairwise (graph.Precedes ids [])
  rw [List.nil_append]
  refine ((pairwise_idxOf nodup).filter _).imp_of_mem
    fun {first second} firstReady secondReady given => ?_
  simp only [List.mem_filter, List.isEmpty_iff] at firstReady secondReady
  refine Or.inr ⟨?_, given⟩
  rw [readyAt, readyAt, firstReady.2, secondReady.2]

/-- All nodes that are put in order stand in the order in which they became ready. -/
theorem sorted_pairwise_precedes (graph : Graph α) (nodup : ids.Nodup) :
    (graph.sorted ids).Pairwise (graph.Precedes ids (graph.sorted ids)) := by
  obtain ⟨final, _, queued, finished, ran⟩ :=
    Progress.run_of_step (Progress.IsQueued graph ids) nodup
      (fun _ _ _ coherent queued next => Progress.advance_isQueued coherent nodup queued next)
      (2 * ids.length) (start_isCoherent graph ids nodup) (start_isQueued graph nodup) (by omega)
  rw [Progress.IsQueued, finished, List.append_nil] at queued
  rwa [sorted, ran]

/-- A node that stands before another one that was given before it has been overtaken because of some
prerequisite, which stands behind all prerequisites of the first. -/
theorem exists_last_of_overtaken (graph : Graph α) (nodup : ids.Nodup) {first second : α}
    (placed : second ∈ graph.sorted ids)
    (before : (graph.sorted ids).idxOf first < (graph.sorted ids).idxOf second)
    (given : ids.idxOf second < ids.idxOf first) :
    ∃ last ∈ graph.before second, ∀ other ∈ graph.before first,
      (graph.sorted ids).idxOf other < (graph.sorted ids).idxOf last := by
  rcases rel_of_idxOf_lt (graph.sorted_pairwise_precedes nodup) placed before with
    earlier | ⟨_, givenFirst⟩
  · rw [← not_le, readyAt_le_iff] at earlier
    push Not at earlier
    obtain ⟨last, edge, behind⟩ := earlier
    exact ⟨last, edge, readyAt_le_iff.mp behind⟩
  · omega

end Obligations.Graph
