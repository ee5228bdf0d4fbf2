import Obligations.Proofs.Prerequisites.Cycle

/-! # Searches that come to an end

A search for a cycle told by its steps, with no bound on their number: a node that lies on the path closes a
cycle, one that has been visited is left alone, and any other goes onto the path until all nodes that it depends
on have been looked at. From every graph such a search comes to an end, with one outcome only, and that outcome
is what the graph is answered with.
-/

namespace Obligations.Graph

open Relation

variable {α : Type}

def Search.cycle? : Search α → Option (List α)
  | .found cycle => some cycle
  | .clear _ => none

variable [DecidableEq α] {graph : Graph α}

/-- What a search comes to on a path, at nodes that are looked at one after another. -/
inductive ComesTo (graph : Graph α) : List α → List α → List α → Search α → Prop
  | done {path visited : List α} : ComesTo graph path visited [] (.clear visited)
  | repeated {path visited rest : List α} {node : α} (onPath : node ∈ path) :
      ComesTo graph path visited (node :: rest) (.found (path.dropWhile (· != node) ++ [node]))
  | known {path visited rest : List α} {node : α} {outcome : Search α} (off : node ∉ path)
      (before : node ∈ visited) (others : ComesTo graph path visited rest outcome) :
      ComesTo graph path visited (node :: rest) outcome
  | found {path visited rest cycle : List α} {node : α} (off : node ∉ path) (fresh : node ∉ visited)
      (inside : ComesTo graph (path ++ [node]) (node :: visited) (graph.before node) (.found cycle)) :
      ComesTo graph path visited (node :: rest) (.found cycle)
  | settled {path visited after rest : List α} {node : α} {outcome : Search α} (off : node ∉ path)
      (fresh : node ∉ visited)
      (inside : ComesTo graph (path ++ [node]) (node :: visited) (graph.before node) (.clear after))
      (others : ComesTo graph path after rest outcome) :
      ComesTo graph path visited (node :: rest) outcome

/-- A search comes to one outcome only. -/
theorem ComesTo.unique {path visited nodes : List α} {first second : Search α}
    (one : graph.ComesTo path visited nodes first) (other : graph.ComesTo path visited nodes second) :
    first = second := by
  induction one generalizing second with
  | done => cases other; rfl
  | repeated onPath =>
    cases other with
    | repeated => rfl
    | known off | found off | settled off => exact absurd onPath off
  | known off before _ ih =>
    cases other with
    | repeated onPath => exact absurd onPath off
    | known _ _ others => exact ih others
    | found _ fresh | settled _ fresh => exact absurd before fresh
  | found off fresh _ ih =>
    cases other with
    | repeated onPath => exact absurd onPath off
    | known _ before => exact absurd before fresh
    | found _ _ inside => exact ih inside
    | settled _ _ inside => cases ih inside
  | settled off fresh _ _ ihInside ihOthers =>
    cases other with
    | repeated onPath => exact absurd onPath off
    | known _ before => exact absurd before fresh
    | found _ _ inside => cases ihInside inside
    | settled _ _ inside others =>
      cases ihInside inside
      exact ihOthers others

/-- A search never runs out of steps: a path holds every node with an entry at most once, so the steps that are
left are more than the nodes that are not on it. -/
theorem searchAll_comesTo {fuel : Nat} {path visited nodes : List α}
    (trails : ∀ node ∈ nodes, graph.IsTrail path node) (fuelled : graph.length + 1 ≤ fuel + path.length) :
    graph.ComesTo path visited nodes (searchAll (graph.search fuel path) visited nodes) := by
  -- the steps bound how deep the search goes, and at each depth the nodes are taken in their order
  induction fuel generalizing path visited nodes with
  | zero =>
    cases nodes with
    | nil => exact .done
    | cons node rest =>
      have := (trails node List.mem_cons_self).length_le
      omega
  | succ fuel deeper =>
    induction nodes generalizing visited with
    | nil => exact .done
    | cons node rest later =>
      obtain ⟨trail, others⟩ := List.forall_mem_cons.mp trails
      rw [searchAll]
      by_cases onPath : node ∈ path
      · rw [search, if_pos (by simpa using onPath)]
        exact .repeated onPath
      by_cases before : node ∈ visited
      · rw [search, if_neg (by simpa using onPath), if_pos (by simpa using before)]
        exact .known onPath before (later others)
      have inside : graph.ComesTo (path ++ [node]) (node :: visited) (graph.before node)
          (searchAll (graph.search fuel (path ++ [node])) (node :: visited) (graph.before node)) :=
        deeper (fun other edge => trail.extend onPath edge)
          (by simp only [List.length_append, List.length_singleton]; omega)
      rw [search, if_neg (by simpa using onPath), if_neg (by simpa using before)]
      cases answer : searchAll (graph.search fuel (path ++ [node])) (node :: visited) (graph.before node) with
      | found cycle =>
        rw [answer] at inside
        exact .found onPath before inside
      | clear after =>
        rw [answer] at inside
        exact .settled onPath before inside (later others)

/-- A search from all nodes of a graph comes to what the graph is answered with. -/
theorem searchAll_nodes_comesTo (graph : Graph α) :
    graph.ComesTo [] [] graph.nodes (searchAll (graph.search (graph.length + 1) []) [] graph.nodes) :=
  searchAll_comesTo (fun _ _ => ⟨List.nodup_nil, List.nil_subset _, List.isChain_singleton _⟩) (by simp)

theorem cycle?_eq (graph : Graph α) :
    graph.cycle? = (searchAll (graph.search (graph.length + 1) []) [] graph.nodes).cycle? := by
  rw [cycle?]
  split <;> (next outcome => rw [outcome]; rfl)

/-- The search for a cycle comes to an end in every graph, with one outcome that is its answer. It finds none
exactly if no node leads back to itself, and what it finds leads from a node along edges back to it and meets
every other node at most once. -/
theorem cycle?_spec (graph : Graph α) :
    (∃ outcome, (∀ other, graph.ComesTo [] [] graph.nodes other ↔ other = outcome) ∧
      graph.cycle? = outcome.cycle?) ∧
    (graph.cycle? = none ↔ ¬ ∃ node, TransGen graph.DependsOn node node) ∧
    ∀ cycle, graph.cycle? = some cycle →
      2 ≤ cycle.length ∧ cycle.head? = cycle.getLast? ∧ cycle.dropLast.Nodup ∧
        cycle.IsChain graph.DependsOn := by
  have ended := searchAll_nodes_comesTo graph
  refine ⟨⟨_, fun other => ?_, cycle?_eq graph⟩, cycle?_eq_none_iff graph, fun cycle found => ?_⟩
  · constructor
    · exact fun too => too.unique ended
    · rintro rfl
      exact ended
  · obtain ⟨⟨length, ends, walk⟩, nodup⟩ := isSimpleCycle_of_cycle? found
    exact ⟨length, ends, nodup, (isWalk_iff_isChain cycle).mp walk⟩

/-- A cycle that is met behind a node outside it, with an edge that is told twice, one to a node without an
entry, and another cycle of a single node. -/
def entangled : Graph String :=
  [("visa", ["fee", "passport", "passport"]), ("passport", ["report"]), ("report", ["archive", "passport"]),
   ("archive", ["fee"]), ("photo", ["photo"])]

theorem cycle?_spec_entangled : entangled.cycle? = some ["passport", "report", "passport"] ∧
    ["passport", "report", "passport"].IsChain entangled.DependsOn ∧
    ∃ node, TransGen entangled.DependsOn node node := by
  have found : entangled.cycle? = some ["passport", "report", "passport"] := by decide +kernel
  obtain ⟨-, none_iff, spec⟩ := cycle?_spec entangled
  refine ⟨found, (spec _ found).2.2.2, ?_⟩
  by_contra acyclic
  cases found.symm.trans (none_iff.mpr acyclic)

end Obligations.Graph
