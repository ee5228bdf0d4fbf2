import Mathlib.Data.Finset.Max
import Obligations.Proofs.Prerequisites.Queue

/-! # Orders by readiness

The order of a graph can be told without the steps that lead to it: nodes without prerequisites come first, as they
were given, and the others follow their last prerequisites. Where no node leads back to itself there is one such order
only. Nodes that are given in it are already in order, so that sorting them again changes nothing.
-/

namespace Obligations.Graph

open Relation

variable {α : Type} [DecidableEq α] {graph : Graph α} {ids order : List α} {node other : α}

/-- Whether a node is the one of some nodes that stands last in an order. -/
def IsLastOf (order nodes : List α) (last : α) : Prop :=
  last ∈ nodes ∧ ∀ node ∈ nodes, order.idxOf node ≤ order.idxOf last

/-- Whether the given nodes stand in the order in which they become ready: first those without prerequisites, as they
were given, then the others. Of two others, the one comes first whose last prerequisite does, and where that is the
same, the one that was given first. -/
structure IsByReadiness (graph : Graph α) (ids order : List α) : Prop where
  perm : order.Perm ids
  first : (ids.filter fun id => (graph.before id).isEmpty) <+: order
  others : ∀ id ∈ ids, ∀ other ∈ ids, ∀ last otherLast,
    IsLastOf order (graph.before id) last → IsLastOf order (graph.before other) otherLast →
      (order.idxOf id < order.idxOf other ↔
        order.idxOf last < order.idxOf otherLast ∨ last = otherLast ∧ ids.idxOf id < ids.idxOf other)

theorem exists_isLastOf (order : List α) {nodes : List α} (some : nodes ≠ []) :
    ∃ last, IsLastOf order nodes last := by
  obtain ⟨last, member, greatest⟩ :=
    nodes.toFinset.exists_max_image order.idxOf (List.toFinset_nonempty_iff nodes |>.mpr some)
  exact ⟨last, List.mem_toFinset.mp member, fun node listed => greatest node (List.mem_toFinset.mpr listed)⟩

theorem readyAt_eq_zero_iff : graph.readyAt order node = 0 ↔ graph.before node = [] := by
  rw [← Nat.le_zero, readyAt_le_iff, List.eq_nil_iff_forall_not_mem]
  simp

theorem IsLastOf.readyAt_eq {last : α} (isLast : IsLastOf order (graph.before node) last) :
    graph.readyAt order node = order.idxOf last + 1 := by
  obtain ⟨edge, greatest⟩ := isLast
  apply le_antisymm
  · rw [readyAt_le_iff]
    exact fun other edge => Nat.lt_succ_of_le (greatest other edge)
  · exact Nat.succ_le_of_lt (idxOf_lt_readyAt edge)

section Places

theorem not_precedes_self : ¬ graph.Precedes ids order node node := by
  rw [Precedes]
  omega

theorem Precedes.not_precedes (precedes : graph.Precedes ids order node other) :
    ¬ graph.Precedes ids order other node := by
  rw [Precedes] at precedes ⊢
  omega

/-- In an order in which nodes become ready, one stands before another exactly if it precedes it. -/
theorem idxOf_lt_iff_precedes (pairwise : order.Pairwise (graph.Precedes ids order)) (member : node ∈ order)
    (otherMember : other ∈ order) :
    order.idxOf node < order.idxOf other ↔ graph.Precedes ids order node other := by
  refine ⟨rel_of_idxOf_lt pairwise otherMember, fun precedes => ?_⟩
  rcases Nat.lt_trichotomy (order.idxOf node) (order.idxOf other) with before | same | behind
  · exact before
  · obtain rfl := (List.idxOf_inj member).mp same
    exact absurd precedes not_precedes_self
  · exact absurd (rel_of_idxOf_lt pairwise member behind) precedes.not_precedes

/-- Two nodes with prerequisites precede each other as their last prerequisites do. -/
theorem precedes_iff_of_isLastOf {last otherLast : α} (isLast : IsLastOf order (graph.before node) last)
    (isOtherLast : IsLastOf order (graph.before other) otherLast) (placed : last ∈ order) :
    graph.Precedes ids order node other ↔ order.idxOf last < order.idxOf otherLast ∨
      last = otherLast ∧ ids.idxOf node < ids.idxOf other := by
  rw [Precedes, isLast.readyAt_eq, isOtherLast.readyAt_eq, Nat.add_lt_add_iff_right, Nat.add_right_cancel_iff,
    List.idxOf_inj placed]

end Places

omit [DecidableEq α] in
theorem notMem_of_split {front rest : List α} (distinct : (front ++ node :: rest).Nodup) : node ∉ front := by
  rw [List.nodup_middle, List.nodup_cons] at distinct
  exact fun member => distinct.1 (List.mem_append_left _ member)

omit [DecidableEq α] in
theorem rel_of_split {relation : α → α → Prop} {front rest : List α}
    (pairwise : (front ++ node :: rest).Pairwise relation) (member : other ∈ front ++ node :: rest)
    (fresh : other ∉ front) (differ : other ≠ node) : relation node other := by
  have behind := (List.mem_cons.mp ((List.mem_append.mp member).resolve_left fresh)).resolve_left differ
  exact (List.pairwise_cons.mp (List.pairwise_append.mp pairwise).2.1).1 other behind

omit [DecidableEq α] in
/-- What a relation lets stand only in front of others comes first in a list that is ordered by it. -/
theorem filter_isPrefix_of_pairwise {relation : α → α → Prop} {keep : α → Bool} {items : List α}
    (inFront : ∀ item other, relation item other → keep other = true → keep item = true)
    (pairwise : items.Pairwise relation) : items.filter keep <+: items := by
  induction pairwise with
  | nil => exact List.nil_prefix
  | @cons item rest related _ ih =>
    by_cases kept : keep item = true
    · rw [List.filter_cons_of_pos kept]
      exact (List.prefix_cons_inj item).mpr ih
    · have none : (item :: rest).filter keep = [] := by
        rw [List.filter_eq_nil_iff, List.forall_mem_cons]
        exact ⟨kept, fun other member otherKept => kept (inFront item other (related other member) otherKept)⟩
      rw [none]
      exact List.nil_prefix

/-- An order is by readiness if of any two nodes the first precedes the second. -/
theorem isByReadiness_of_pairwise (nodup : ids.Nodup) (inside : ∀ id ∈ ids, graph.before id ⊆ ids)
    (perm : order.Perm ids) (pairwise : order.Pairwise (graph.Precedes ids order)) :
    graph.IsByReadiness ids order where
  perm := perm
  first := by
    have prefixed : (order.filter fun id => (graph.before id).isEmpty) <+: order := by
      refine filter_isPrefix_of_pairwise (fun id other precedes free => ?_) pairwise
      have otherFree : graph.readyAt order other = 0 := readyAt_eq_zero_iff.mpr (List.isEmpty_iff.mp free)
      rw [Precedes] at precedes
      exact List.isEmpty_iff.mpr (readyAt_eq_zero_iff.mp (by omega : graph.readyAt order id = 0))
    -- free nodes are ready from the start, so that only their places among the given ones tell them apart
    have given : (order.filter fun id => (graph.before id).isEmpty).Pairwise
        fun id other => ids.idxOf id < ids.idxOf other := by
      refine (pairwise.filter _).imp_of_mem fun {id other} member otherMember precedes => ?_
      have free : graph.readyAt order id = 0 :=
        readyAt_eq_zero_iff.mpr (List.isEmpty_iff.mp (List.mem_filter.mp member).2)
      have otherFree : graph.readyAt order other = 0 :=
        readyAt_eq_zero_iff.mpr (List.isEmpty_iff.mp (List.mem_filter.mp otherMember).2)
      rw [Precedes] at precedes
      omega
    rwa [(perm.filter _).eq_of_pairwise (fun _ _ _ _ less greater => absurd greater less.asymm) given
      ((pairwise_idxOf nodup).filter _)] at prefixed
  others := by
    intro id member other otherMember last otherLast isLast isOtherLast
    rw [idxOf_lt_iff_precedes pairwise (perm.mem_iff.mpr member) (perm.mem_iff.mpr otherMember)]
    exact precedes_iff_of_isLastOf isLast isOtherLast (perm.mem_iff.mpr (inside id member isLast.1))

namespace IsByReadiness

variable (byReadiness : graph.IsByReadiness ids order)

include byReadiness

theorem mem_iff : node ∈ order ↔ node ∈ ids :=
  byReadiness.perm.mem_iff

/-- The nodes without prerequisites come first, as they were given. -/
theorem exists_eq_append : ∃ rest, order = (ids.filter fun id => (graph.before id).isEmpty) ++ rest := by
  obtain ⟨rest, same⟩ := byReadiness.first
  exact ⟨rest, same.symm⟩

theorem mem_first_iff (member : node ∈ order) :
    node ∈ (ids.filter fun id => (graph.before id).isEmpty) ↔ graph.before node = [] := by
  simp [List.isEmpty_iff, byReadiness.mem_iff.mp member]

theorem idxOf_of_first (first : node ∈ ids.filter fun id => (graph.before id).isEmpty) :
    order.idxOf node = (ids.filter fun id => (graph.before id).isEmpty).idxOf node := by
  obtain ⟨rest, split⟩ := byReadiness.exists_eq_append
  rw [split, List.idxOf_append_of_mem first]

/-- What stands before one of the first nodes is one of them. -/
theorem mem_first_of_idxOf_lt (otherFirst : other ∈ ids.filter fun id => (graph.before id).isEmpty)
    (before : order.idxOf node < order.idxOf other) :
    node ∈ ids.filter fun id => (graph.before id).isEmpty := by
  by_contra late
  obtain ⟨rest, split⟩ := byReadiness.exists_eq_append
  have behind : (ids.filter fun id => (graph.before id).isEmpty).length ≤ order.idxOf node := by
    rw [split, List.idxOf_append_of_notMem late]
    exact Nat.le_add_right _ _
  have bound := List.idxOf_lt_length_iff.mpr otherFirst
  rw [← byReadiness.idxOf_of_first otherFirst] at bound
  omega

theorem pairwise (nodup : ids.Nodup) (inside : ∀ id ∈ ids, graph.before id ⊆ ids) :
    order.Pairwise (graph.Precedes ids order) := by
  have distinct : order.Nodup := byReadiness.perm.nodup_iff.mpr nodup
  refine (pairwise_idxOf distinct).imp_of_mem fun {id other} member otherMember before => ?_
  by_cases otherFree : graph.before other = []
  · have otherFirst := (byReadiness.mem_first_iff otherMember).mpr otherFree
    have first := byReadiness.mem_first_of_idxOf_lt otherFirst before
    have free := (byReadiness.mem_first_iff member).mp first
    rw [byReadiness.idxOf_of_first first, byReadiness.idxOf_of_first otherFirst] at before
    have given := rel_of_idxOf_lt ((pairwise_idxOf nodup).filter _) otherFirst before
    exact .inr ⟨(readyAt_eq_zero_iff.mpr free).trans (readyAt_eq_zero_iff.mpr otherFree).symm, given⟩
  · obtain ⟨otherLast, isOtherLast⟩ := exists_isLastOf order otherFree
    by_cases free : graph.before id = []
    · refine .inl ?_
      rw [readyAt_eq_zero_iff.mpr free, isOtherLast.readyAt_eq]
      exact Nat.succ_pos _
    · obtain ⟨last, isLast⟩ := exists_isLastOf order free
      have given := byReadiness.mem_iff.mp member
      have placed := byReadiness.mem_iff.mpr (inside id given isLast.1)
      rw [precedes_iff_of_isLastOf isLast isOtherLast placed]
      exact (byReadiness.others id given other (byReadiness.mem_iff.mp otherMember) last otherLast
        isLast isOtherLast).mp before

end IsByReadiness

section Unique

variable (nodup : ids.Nodup) (inside : ∀ id ∈ ids, graph.before id ⊆ ids) (acyclic : ¬ graph.IsCyclic)

include nodup inside acyclic

/-- Where no node leads back to itself, nodes in the order in which they become ready stand behind all their
prerequisites: otherwise some prerequisite would have a prerequisite further behind, and so on without an end. -/
theorem respects_of_pairwise (perm : order.Perm ids) (pairwise : order.Pairwise (graph.Precedes ids order)) :
    graph.Respects order := by
  have distinct : order.Nodup := perm.nodup_iff.mpr nodup
  suffices behind : ∀ count earlier node later, later.length = count → order = earlier ++ node :: later →
      graph.before node ⊆ earlier from
    fun earlier node later split => behind later.length earlier node later rfl split
  intro count
  -- the induction is on how many nodes stand behind, since the way goes from a node to one behind it
  induction count using Nat.strong_induction_on with
  | _ count ih =>
    rintro earlier node later rfl split last edge
    have given : node ∈ ids := perm.subset (split ▸ by simp)
    have placed : last ∈ earlier ++ node :: later := split ▸ perm.mem_iff.mpr (inside node given edge)
    rcases List.mem_append.mp placed with front | back
    · exact front
    rcases List.mem_cons.mp back with rfl | back
    · exact absurd ⟨last, TransGen.single edge⟩ acyclic
    · obtain ⟨between, rest, rfl⟩ := List.append_of_mem back
      have resplit : order = (earlier ++ node :: between) ++ last :: rest := by simp [split]
      have settled := ih rest.length (by simp; omega) (earlier ++ node :: between) last rest rfl resplit
      have precedes : graph.Precedes ids order node last := by
        rw [split, List.pairwise_append] at pairwise
        rw [split]
        exact (List.pairwise_cons.mp pairwise.2.1).1 last back
      have early : graph.readyAt order last ≤ order.idxOf last := by
        have fresh : last ∉ earlier ++ node :: between := notMem_of_split (resplit ▸ distinct)
        rw [resplit, readyAt_append settled, List.idxOf_append_of_notMem fresh]
        exact (readyAt_le_length settled).trans (Nat.le_add_right _ _)
      have late : order.idxOf last < graph.readyAt order node := idxOf_lt_readyAt edge
      rw [Precedes] at precedes
      omega

/-- Two orders in which nodes become ready are the same: as far as they agree, the same nodes are ready, and the next
one is the one of them that comes first. -/
theorem eq_of_pairwise_precedes {second : List α} (perm : order.Perm ids) (secondPerm : second.Perm ids)
    (pairwise : order.Pairwise (graph.Precedes ids order))
    (secondPairwise : second.Pairwise (graph.Precedes ids second)) : order = second := by
  have respects := respects_of_pairwise nodup inside acyclic perm pairwise
  have secondRespects := respects_of_pairwise nodup inside acyclic secondPerm secondPairwise
  suffices same : ∀ front rest secondRest, order = front ++ rest → second = front ++ secondRest →
      rest = secondRest from
    same [] order second rfl rfl
  intro front rest
  induction rest generalizing front with
  | nil =>
    intro secondRest split secondSplit
    have lengths := perm.length_eq.trans secondPerm.length_eq.symm
    rw [split, secondSplit, List.length_append, List.length_append, List.length_nil] at lengths
    exact (List.length_eq_zero_iff.mp (by omega)).symm
  | cons node rest ih =>
    intro secondRest split secondSplit
    have lengths := perm.length_eq.trans secondPerm.length_eq.symm
    cases secondRest with
    | nil => simp [split, secondSplit] at lengths
    | cons other secondRest =>
      obtain rfl | differ := eq_or_ne node other
      · rw [ih (front ++ [node]) secondRest (by simp [split]) (by simp [secondSplit])]
      · have ready := respects front node rest split
        have otherReady := secondRespects front other secondRest secondSplit
        have precedes := rel_of_split (split ▸ pairwise)
          (split ▸ perm.mem_iff.mpr (secondPerm.subset (secondSplit ▸ by simp)))
          (notMem_of_split (secondSplit ▸ secondPerm.nodup_iff.mpr nodup)) differ.symm
        have otherPrecedes := rel_of_split (secondSplit ▸ secondPairwise)
          (secondSplit ▸ secondPerm.mem_iff.mpr (perm.subset (split ▸ by simp)))
          (notMem_of_split (split ▸ perm.nodup_iff.mpr nodup)) differ
        rw [Precedes, readyAt_append ready, readyAt_append otherReady] at precedes otherPrecedes
        omega

/-- The nodes of a graph are put in the order in which they become ready. -/
theorem sorted_isByReadiness : graph.IsByReadiness ids (graph.sorted ids) :=
  isByReadiness_of_pairwise nodup inside (sorted_perm nodup acyclic inside) (graph.sorted_pairwise_precedes nodup)

theorem IsByReadiness.eq_sorted (byReadiness : graph.IsByReadiness ids order) : order = graph.sorted ids :=
  eq_of_pairwise_precedes nodup inside acyclic byReadiness.perm (sorted_perm nodup acyclic inside)
    (byReadiness.pairwise nodup inside) (graph.sorted_pairwise_precedes nodup)

/-- Nodes that are given in their order stay in it. -/
theorem sorted_sorted : graph.sorted (graph.sorted ids) = graph.sorted ids := by
  have perm := sorted_perm nodup acyclic inside
  have distinct : (graph.sorted ids).Nodup := perm.nodup_iff.mpr nodup
  have insideSorted : ∀ id ∈ graph.sorted ids, graph.before id ⊆ graph.sorted ids :=
    fun id member other edge => perm.mem_iff.mpr (inside id (perm.mem_iff.mp member) edge)
  have still : (graph.sorted ids).Pairwise (graph.Precedes (graph.sorted ids) (graph.sorted ids)) := by
    refine ((graph.sorted_pairwise_precedes nodup).and (pairwise_idxOf distinct)).imp fun {id other} both => ?_
    obtain ⟨precedes, before⟩ := both
    rw [Precedes] at precedes ⊢
    omega
  exact eq_of_pairwise_precedes distinct insideSorted acyclic (sorted_perm distinct acyclic insideSorted) (.refl _)
    (graph.sorted_pairwise_precedes distinct) still

end Unique

/-- Only what the given nodes depend on counts for their order. -/
theorem sorted_congr {graph rebuilt : Graph α} (same : ∀ id ∈ ids, rebuilt.before id = graph.before id) :
    rebuilt.sorted ids = graph.sorted ids := by
  have dependents : rebuilt.dependents ids = graph.dependents ids := by
    funext node
    exact List.flatMap_congr fun id member => by rw [same id member]
  have start : rebuilt.start ids = graph.start ids := by
    have waiting : ids.map (fun id => (id, ((rebuilt.before id).length : Int))) =
        ids.map fun id => (id, ((graph.before id).length : Int)) :=
      List.map_congr_left fun id member => by rw [same id member]
    have ready : ids.filter (fun id => (rebuilt.before id).isEmpty) =
        ids.filter fun id => (graph.before id).isEmpty :=
      List.filter_congr fun id member => by rw [same id member]
    rw [Graph.start, Graph.start, waiting, ready]
  rw [sorted, sorted, dependents, start]

end Obligations.Graph
