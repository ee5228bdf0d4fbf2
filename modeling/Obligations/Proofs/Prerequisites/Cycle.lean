import Mathlib.Data.List.Chain
import Mathlib.Data.List.Nodup
import Mathlib.Data.List.Perm.Subperm
import Mathlib.Data.List.TakeWhile
import Mathlib.Logic.Relation
import Obligations.Prerequisites.Graph

/-! # Cycles of prerequisites

The search for a cycle answers with a simple one, and it answers with none only where no node leads
back to itself. A node that the search has left behind without a cycle is settled: so are all nodes
that it depends on, and it lies on no cycle. The steps that a search is given always suffice, because
its path holds every node once and only nodes with an entry.
-/

namespace Obligations.Graph

open Relation

variable {α : Type} {graph : Graph α}

theorem mem_nodes_of_dependsOn [DecidableEq α] {node other : α}
    (edge : graph.DependsOn node other) :
    node ∈ graph.nodes := by
  simp only [DependsOn, before] at edge
  cases found : graph.lookup node with
  | none => simp [found] at edge
  | some before =>
    obtain ⟨left, right, split, _⟩ := List.lookup_eq_some_iff.mp found
    simp [nodes, split]

theorem isWalk_iff_isChain [DecidableEq α] (walk : List α) :
    graph.IsWalk walk ↔ walk.IsChain graph.DependsOn := by
  induction walk with
  | nil => simp [IsWalk]
  | cons node rest ih =>
    cases rest with
    | nil => simp [IsWalk]
    | cons next rest => simp only [IsWalk, ih, List.isChain_cons_cons]

/-- Whether some node leads back to itself. -/
def IsCyclic [DecidableEq α] (graph : Graph α) : Prop :=
  ∃ node, TransGen graph.DependsOn node node

/-- A way from a node back to it that meets every other node at most once. -/
structure IsSimpleCycle [DecidableEq α] (graph : Graph α) (cycle : List α) : Prop where
  isCycle : graph.IsCycle cycle
  nodup : cycle.dropLast.Nodup

variable [DecidableEq α]

private theorem transGen_of_isChain {node last : α} {rest : List α}
    (chain : (node :: (rest ++ [last])).IsChain graph.DependsOn) :
    TransGen graph.DependsOn node last := by
  induction rest generalizing node with
  | nil =>
    simp only [List.nil_append, List.isChain_cons_cons] at chain
    exact .single chain.1
  | cons next rest ih =>
    simp only [List.cons_append, List.isChain_cons_cons] at chain
    exact .head chain.1 (ih (by simpa using chain.2))

/-- The first node of a cycle leads back to itself. -/
theorem IsCycle.transGen {cycle : List α} (isCycle : graph.IsCycle cycle) {node : α}
    (first : cycle.head? = some node) : TransGen graph.DependsOn node node := by
  obtain ⟨length, ends, walk⟩ := isCycle
  cases cycle with
  | nil => simp at first
  | cons head rest =>
    obtain rfl : head = node := by simpa using first
    have nonempty : rest ≠ [] := by
      rintro rfl
      simp at length
    have last : rest.getLast? = some head := by
      rw [← List.getLast?_cons_of_ne_nil nonempty, ← ends, List.head?_cons]
    obtain ⟨init, rfl⟩ := List.getLast?_eq_some_iff.mp last
    exact transGen_of_isChain ((isWalk_iff_isChain _).mp walk)

/-- A node on a path closes a simple cycle when it is reached again. -/
theorem isSimpleCycle_of_repeat {path : List α} {node : α} (nodup : path.Nodup)
    (walk : (path ++ [node]).IsChain graph.DependsOn) (repeated : node ∈ path) :
    graph.IsSimpleCycle (path.dropWhile (· != node) ++ [node]) := by
  have suffix := List.dropWhile_suffix (l := path) (· != node)
  obtain ⟨rest, split⟩ : ∃ rest, path.dropWhile (· != node) = node :: rest := by
    cases shape : path.dropWhile (· != node) with
    | nil => simpa using List.dropWhile_eq_nil_iff.mp shape node repeated
    | cons head rest =>
      have kept := List.head?_dropWhile_not (· != node) path
      rw [shape] at kept
      have same : head = node := by simpa using kept
      exact ⟨rest, by rw [same]⟩
  refine ⟨⟨?_, ?_, ?_⟩, ?_⟩
  · simp [split]
  · rw [List.getLast?_concat, split, List.cons_append, List.head?_cons]
  · rw [isWalk_iff_isChain]
    exact walk.suffix ((List.suffix_append_inj_of_length_eq rfl).mpr ⟨suffix, rfl⟩)
  · rw [List.dropLast_concat]
    exact nodup.sublist suffix.sublist

/-- What a search on a path has left behind: every node off the path has settled, so that it depends
on such nodes only and lies on no cycle. -/
structure Settled (graph : Graph α) (path visited : List α) : Prop where
  onPath : path ⊆ visited
  closed : ∀ node ∈ visited, node ∉ path → ∀ other, graph.DependsOn node other →
    other ∈ visited ∧ other ∉ path
  acyclic : ∀ node ∈ visited, node ∉ path → ¬ TransGen graph.DependsOn node node

namespace Settled

variable {path visited : List α} {node : α}

/-- Only settled nodes are reached from settled ones. -/
theorem reaches (settled : graph.Settled path visited) (member : node ∈ visited) (off : node ∉ path)
    {other : α} (reached : TransGen graph.DependsOn node other) :
    other ∈ visited ∧ other ∉ path := by
  induction reached with
  | single edge => exact settled.closed _ member off _ edge
  | tail _ edge ih => exact settled.closed _ ih.1 ih.2 _ edge

/-- A new node goes onto the path. -/
theorem push (settled : graph.Settled path visited) (fresh : node ∉ visited) :
    graph.Settled (path ++ [node]) (node :: visited) := by
  have was_off : ∀ other ∈ node :: visited, other ∉ path ++ [node] → other ∈ visited ∧ other ∉ path := by
    intro other member off
    simp only [List.mem_append, List.mem_singleton, not_or] at off
    exact ⟨(List.mem_cons.mp member).resolve_left off.2, off.1⟩
  refine ⟨?_, ?_, ?_⟩
  · intro other member
    rcases List.mem_append.mp member with member | member
    · exact List.mem_cons_of_mem _ (settled.onPath member)
    · simp [List.mem_singleton.mp member]
  · intro other member off next edge
    obtain ⟨member, off⟩ := was_off other member off
    obtain ⟨visitedNext, offNext⟩ := settled.closed other member off next edge
    refine ⟨List.mem_cons_of_mem _ visitedNext, ?_⟩
    simp only [List.mem_append, List.mem_singleton, not_or]
    exact ⟨offNext, fun same => fresh (same ▸ visitedNext)⟩
  · intro other member off
    obtain ⟨member, off⟩ := was_off other member off
    exact settled.acyclic other member off

/-- A node comes off the path once all nodes that it depends on have settled. -/
theorem pop (settled : graph.Settled (path ++ [node]) visited) (off : node ∉ path)
    (done : ∀ other, graph.DependsOn node other → other ∈ visited ∧ other ∉ path ++ [node]) :
    graph.Settled path visited := by
  have before_or : ∀ other, other ∉ path → other = node ∨ other ∉ path ++ [node] := by
    intro other offOther
    by_cases same : other = node
    · exact .inl same
    · exact .inr (by simp [offOther, same])
  have acyclic_node : ¬ TransGen graph.DependsOn node node := by
    intro loop
    obtain ⟨next, edge, back⟩ := TransGen.head'_iff.mp loop
    obtain ⟨member, offNext⟩ := done next edge
    rcases reflTransGen_iff_eq_or_transGen.mp back with same | back
    · exact offNext (by simp [← same])
    · exact (settled.reaches member offNext back).2 (by simp)
  refine ⟨fun other member => settled.onPath (List.mem_append_left _ member), ?_, ?_⟩
  · intro other member offOther next edge
    have ⟨visitedNext, offNext⟩ : next ∈ visited ∧ next ∉ path ++ [node] := by
      rcases before_or other offOther with rfl | offOther
      · exact done next edge
      · exact settled.closed other member offOther next edge
    exact ⟨visitedNext, fun onPath => offNext (List.mem_append_left _ onPath)⟩
  · intro other member offOther
    rcases before_or other offOther with rfl | offOther
    · exact acyclic_node
    · exact settled.acyclic other member offOther

end Settled

/-- What a search for a cycle may answer on a path, where it is to settle given nodes. -/
def Search.IsAnswer (graph : Graph α) (path visited nodes : List α) : Search α → Prop
  | .found cycle => graph.IsSimpleCycle cycle
  | .clear after => visited ⊆ after ∧ graph.Settled path after ∧ ∀ node ∈ nodes, node ∈ after ∧ node ∉ path

/-- Several nodes are settled one after another. -/
theorem searchAll_isAnswer {path : List α} (search : List α → α → Search α) (nodes : List α)
    (step : ∀ node ∈ nodes, ∀ visited, graph.Settled path visited →
      (search visited node).IsAnswer graph path visited [node])
    {visited : List α} (settled : graph.Settled path visited) :
    (searchAll search visited nodes).IsAnswer graph path visited nodes := by
  induction nodes generalizing visited with
  | nil => exact ⟨List.Subset.refl _, settled, by simp⟩
  | cons node rest ih =>
    have head := step node List.mem_cons_self visited settled
    rw [searchAll]
    cases answer : search visited node with
    | found cycle =>
      rw [answer] at head
      exact head
    | clear after =>
      rw [answer] at head
      obtain ⟨kept, settledAfter, done⟩ := head
      have tail := ih (fun other member => step other (List.mem_cons_of_mem _ member)) settledAfter
      show (searchAll search after rest).IsAnswer graph path visited (node :: rest)
      cases final : searchAll search after rest with
      | found cycle =>
        rw [final] at tail
        exact tail
      | clear last =>
        rw [final] at tail
        obtain ⟨keptLast, settledLast, doneRest⟩ := tail
        refine ⟨List.Subset.trans kept keptLast, settledLast, ?_⟩
        intro other member
        rcases List.mem_cons.mp member with rfl | member
        · exact ⟨keptLast (done other (List.mem_singleton_self _)).1,
            (done other (List.mem_singleton_self _)).2⟩
        · exact doneRest other member

/-- A path on which a search has come to a node: a walk through nodes with an entry, none of them
twice. -/
structure IsTrail (graph : Graph α) (path : List α) (node : α) : Prop where
  nodup : path.Nodup
  inside : path ⊆ graph.nodes
  walk : (path ++ [node]).IsChain graph.DependsOn

namespace IsTrail

variable {path : List α} {node : α}

theorem length_le (trail : graph.IsTrail path node) : path.length ≤ graph.length := by
  have bound := (trail.nodup.subperm trail.inside).length_le
  rwa [nodes, List.length_map] at bound

/-- The search goes on from a new node to one that it depends on. -/
theorem extend (trail : graph.IsTrail path node) (fresh : node ∉ path) {other : α}
    (edge : graph.DependsOn node other) : graph.IsTrail (path ++ [node]) other where
  nodup := by
    rw [List.nodup_append]
    exact ⟨trail.nodup, List.nodup_singleton _, by
      rintro a member _ same rfl
      exact fresh (List.mem_singleton.mp same ▸ member)⟩
  inside := by
    intro visited member
    rcases List.mem_append.mp member with member | member
    · exact trail.inside member
    · rw [List.mem_singleton.mp member]
      exact mem_nodes_of_dependsOn edge
  walk := by
    rw [List.isChain_append]
    exact ⟨trail.walk, List.isChain_singleton _, by simpa using edge⟩

end IsTrail

/-- A search from a node finds a simple cycle or settles the node. -/
theorem search_isAnswer {fuel : Nat} {path visited : List α} {node : α}
    (trail : graph.IsTrail path node) (fuelled : graph.length + 1 ≤ fuel + path.length)
    (settled : graph.Settled path visited) :
    (graph.search fuel path visited node).IsAnswer graph path visited [node] := by
  induction fuel generalizing path visited node with
  | zero =>
    have := trail.length_le
    omega
  | succ fuel ih =>
    rw [search]
    split
    · rename_i repeated
      exact isSimpleCycle_of_repeat trail.nodup trail.walk (by simpa using repeated)
    · rename_i fresh
      have off : node ∉ path := by simpa using fresh
      split
      · rename_i known
        exact ⟨List.Subset.refl _, settled, by simpa using ⟨by simpa using known, off⟩⟩
      · rename_i unknown
        have new : node ∉ visited := by simpa using unknown
        have inner := searchAll_isAnswer (graph.search fuel (path ++ [node])) (graph.before node)
          (fun other edge visited settled => ih (trail.extend off edge)
            (by simp only [List.length_append, List.length_singleton]; omega) settled)
          (settled.push new)
        cases answer : searchAll (graph.search fuel (path ++ [node])) (node :: visited)
            (graph.before node) with
        | found cycle =>
          rw [answer] at inner
          exact inner
        | clear after =>
          rw [answer] at inner
          obtain ⟨kept, settledAfter, done⟩ := inner
          refine ⟨fun other member => kept (List.mem_cons_of_mem _ member), settledAfter.pop off done, ?_⟩
          simpa using ⟨kept List.mem_cons_self, off⟩

/-- A cycle is looked for from every node with an entry. -/
theorem searchAll_nodes_isAnswer (graph : Graph α) :
    (searchAll (graph.search (graph.length + 1) []) [] graph.nodes).IsAnswer graph [] [] graph.nodes :=
  searchAll_isAnswer _ _
    (fun _ _ _ settled =>
      search_isAnswer ⟨List.nodup_nil, List.nil_subset _, List.isChain_singleton _⟩ (by simp)
      settled)
    ⟨List.nil_subset _, by simp, by simp⟩

/-- A cycle that is found is a simple one. -/
theorem isSimpleCycle_of_cycle? {cycle : List α} (found : graph.cycle? = some cycle) :
    graph.IsSimpleCycle cycle := by
  have answer := searchAll_nodes_isAnswer graph
  rw [cycle?] at found
  split at found
  · rename_i walk outcome
    rw [outcome] at answer
    exact Option.some.inj found ▸ answer
  · cases found

/-- No cycle is found exactly where no node leads back to itself. -/
theorem cycle?_eq_none_iff (graph : Graph α) : graph.cycle? = none ↔ ¬ graph.IsCyclic := by
  constructor
  · rintro none ⟨node, loop⟩
    have answer := searchAll_nodes_isAnswer graph
    rw [cycle?] at none
    split at none
    · cases none
    · rename_i visited outcome
      rw [outcome] at answer
      obtain ⟨_, settled, done⟩ := answer
      obtain ⟨next, edge, _⟩ := TransGen.head'_iff.mp loop
      obtain ⟨member, off⟩ := done node (mem_nodes_of_dependsOn edge)
      exact settled.acyclic node member off loop
  · intro acyclic
    cases found : graph.cycle? with
    | none => rfl
    | some cycle =>
      obtain ⟨isCycle, _⟩ := isSimpleCycle_of_cycle? found
      cases cycle with
      | nil => simp [IsCycle] at isCycle
      | cons node rest => exact (acyclic ⟨node, isCycle.transGen rfl⟩).elim

end Obligations.Graph
