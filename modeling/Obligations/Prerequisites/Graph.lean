/-! # Graphs of prerequisites

A graph gives, for every node in an order, the nodes that come before it. Nodes without an entry have
none. Cycles are looked for from the nodes in their order.
-/

namespace Obligations

/-- Nodes with the nodes that they depend on, one entry per node. -/
abbrev Graph (α : Type) := List (α × List α)

namespace Graph

variable {α : Type} [DecidableEq α]

/-- The graph with the entry of a node set: at its place where it was there, else at the end. -/
def insert (node : α) (before : List α) : Graph α → Graph α
  | [] => [(node, before)]
  | (other, old) :: rest =>
    if other = node then (node, before) :: rest else (other, old) :: insert node before rest

/-- A graph from entries, of which the last of a node counts and the first gives its place. -/
def ofEntries (entries : List (α × List α)) : Graph α :=
  entries.foldl (fun graph (node, before) => insert node before graph) []

def nodes (graph : Graph α) : List α :=
  graph.map (·.1)

/-- The nodes that a node depends on. -/
def before (graph : Graph α) (node : α) : List α :=
  (graph.lookup node).getD []

def DependsOn (graph : Graph α) (node other : α) : Prop :=
  other ∈ graph.before node

instance (graph : Graph α) (node other : α) : Decidable (graph.DependsOn node other) :=
  inferInstanceAs (Decidable (other ∈ graph.before node))

/-- Whether every node of a list depends on the next one. -/
def IsWalk (graph : Graph α) : List α → Prop
  | [] => True
  | [_] => True
  | node :: next :: rest => graph.DependsOn node next ∧ IsWalk graph (next :: rest)

/-- Whether a list is a way from a node back to it. -/
def IsCycle (graph : Graph α) (walk : List α) : Prop :=
  2 ≤ walk.length ∧ walk.head? = walk.getLast? ∧ graph.IsWalk walk

/-- What came of looking for a cycle: one that was found, or the nodes that lead to none. -/
inductive Search (α : Type) where
  | found (cycle : List α)
  | clear (visited : List α)
deriving Repr

/-- A search from several nodes, one after another, which ends with the first cycle. -/
def searchAll (search : List α → α → Search α) : List α → List α → Search α
  | visited, [] => .clear visited
  | visited, node :: rest =>
    match search visited node with
    | .found cycle => .found cycle
    | .clear visited => searchAll search visited rest

/-- A search for a cycle from a node that has been reached on a path. The path holds every node once,
so its length bounds the steps that are left. -/
def search (graph : Graph α) : Nat → List α → List α → α → Search α
  | fuel, path, visited, node =>
    if path.contains node then .found (path.dropWhile (· != node) ++ [node])
    else if visited.contains node then .clear visited
    else
      match fuel with
      | 0 => .clear visited
      | fuel + 1 =>
        searchAll (search graph fuel (path ++ [node])) (node :: visited) (graph.before node)

/-- The first cycle that is found, as a way from a node back to it. -/
def cycle? (graph : Graph α) : Option (List α) :=
  match searchAll (graph.search (graph.length + 1) []) [] graph.nodes with
  | .found cycle => some cycle
  | .clear _ => none

/-- The nodes that a node depends on, directly or not, added to those that are known. Every node stands
behind those that it depends on. -/
def collect (graph : Graph α) : Nat → α → List α × List α → List α × List α
  | 0, _, known => known
  | fuel + 1, node, known =>
    (graph.before node).foldl (fun (seen, chain) other =>
      if seen.contains other then (seen, chain)
      else
        let (seen, chain) := collect graph fuel other (other :: seen, chain)
        (seen, chain ++ [other])) known

/-- The nodes that a node depends on, directly or not, those without prerequisites first. -/
def chain (graph : Graph α) (node : α) : List α :=
  (graph.collect (graph.length + 1) node ([], [])).2

end Graph

end Obligations
