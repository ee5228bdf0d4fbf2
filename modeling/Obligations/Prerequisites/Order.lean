import Obligations.Prerequisites.Graph

/-! # Orders of prerequisites

Nodes in an order in which each comes behind those that it depends on. A node is ready once the count
of what it still waits for is down to zero; ready nodes are taken in the order in which they became
so.
-/

namespace Obligations.Graph

variable {α : Type} [DecidableEq α]

/-- How far an order has come: what each node still waits for, the nodes that are ready, and the nodes
that have been put in order. -/
structure Progress (α : Type) where
  waiting : List (α × Int)
  ready : List α
  sorted : List α

namespace Progress

/-- One prerequisite of a node has been put in order. A node that waits for nothing else becomes
ready. -/
def release (progress : Progress α) (node : α) : Progress α :=
  let left := (progress.waiting.lookup node).getD 0 - 1
  { progress with
    waiting := progress.waiting.map fun entry => if entry.1 = node then (node, left) else entry
    ready := if left = 0 then progress.ready ++ [node] else progress.ready }

/-- The ready nodes are put in order one after another, each releasing its dependents. -/
def run (dependents : α → List α) : Nat → Progress α → List α
  | 0, progress => progress.sorted
  | fuel + 1, progress =>
    match progress.ready with
    | [] => progress.sorted
    | node :: rest =>
      let next : Progress α := { progress with ready := rest, sorted := progress.sorted ++ [node] }
      run dependents fuel ((dependents node).foldl release next)

end Progress

/-- The nodes among given ones that depend on a node, once for every time that they name it. -/
def dependents (graph : Graph α) (ids : List α) (node : α) : List α :=
  ids.flatMap fun id => (graph.before id).filterMap fun other => if other = node then some id else none

/-- The state before any node has been put in order. -/
def start (graph : Graph α) (ids : List α) : Progress α where
  waiting := ids.map fun id => (id, ((graph.before id).length : Int))
  ready := ids.filter fun id => (graph.before id).isEmpty
  sorted := []

/-- The given nodes in order. Those on cycles, and those that depend on them, are missing. -/
def sorted (graph : Graph α) (ids : List α) : List α :=
  (graph.start ids).run (graph.dependents ids) (2 * ids.length)

end Obligations.Graph
