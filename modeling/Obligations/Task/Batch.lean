import Obligations.Failure
import Obligations.Prerequisites.Order
import Obligations.Task.Basic

/-! # Batches of tasks

The tasks of one subject, in an order in which each comes behind its prerequisites. Only prerequisites
in the batch count. A task that waits for one that is not completed is blocked: its priority is low,
and its description says what it waits for.
-/

namespace Obligations

open Obligations.Text

abbrev Batch := List Task

namespace Batch

def ids (batch : Batch) : List String :=
  batch.map (·.ruleId)

/-- The task of a rule, the last one where there are several. -/
def task? (batch : Batch) (id : String) : Option Task :=
  batch.reverse.find? (·.ruleId == id)

/-- The prerequisites of a task that are in the batch; a task is none of its own. -/
def prerequisites (batch : Batch) (task : Task) : List String :=
  task.dependencies.filter fun id => batch.ids.contains id && id != task.ruleId

def graph (batch : Batch) : Graph String :=
  .ofEntries (batch.map fun task => (task.ruleId, batch.prerequisites task))

def isPending (batch : Batch) (id : String) : Bool :=
  (batch.task? id).any (!·.completed)

/-- The prerequisites that a task waits for. -/
def pending (batch : Batch) (graph : Graph String) (task : Task) : List String :=
  (graph.before task.ruleId).filter batch.isPending

/-- The note on the titles of the tasks that a task waits for. -/
def waitingNote (titles : List String) : String :=
  "\n\n⚠️ Waiting on: " ++ joined ", " titles

/-- A task as it is while it waits for others. -/
def blocked (batch : Batch) (task : Task) (pending : List String) : Task :=
  { task with
    description := task.description ++
      waitingNote (pending.filterMap fun id => (batch.task? id).map (·.title))
    priority := .low
    isBlocked := true
    blockedBy := pending }

/-- The tasks of a batch, those that wait for others blocked. -/
def annotated (batch : Batch) (graph : Graph String) : Batch :=
  batch.map fun task =>
    match batch.pending graph task with
    | [] => task
    | pending => batch.blocked task pending

/-- The rules of the tasks in order. It fails where an order of all of them has not been found. -/
def order (batch : Batch) (graph : Graph String) : Outcome (List String) :=
  let sorted := graph.sorted batch.ids
  if sorted.length = batch.length then .ok sorted
  else
    let missing := batch.ids.filter (!sorted.contains ·)
    .fail (.of .cycle
      ("Cyclic dependencies detected. Tasks in cycles: " ++ joined ", " missing)
      { cycle := missing })

/-- The tasks in the order of their prerequisites, those that wait for others blocked. -/
def resolved (batch : Batch) : Outcome Batch :=
  if batch.isEmpty then .ok []
  else
    let graph := batch.graph
    match graph.cycle? with
    | some cycle =>
      .fail (.of .cycle
        ("Circular dependency detected involving task: " ++ cycle.headD "") { cycle := cycle })
    | none => do
      let sorted ← batch.order graph
      let ordered : Batch := sorted.filterMap batch.task?
      return ordered.annotated graph

/-- The tasks that can be worked on now. -/
def available (batch : Batch) : Batch :=
  batch.filter fun task => !task.completed && (batch.pending batch.graph task).isEmpty

/-- The open tasks that wait for others. -/
def waiting (batch : Batch) : Batch :=
  batch.filter fun task => !task.completed && !batch.available.ids.contains task.ruleId

/-- What is wrong with the prerequisites of a batch. -/
def problems (batch : Batch) : List String :=
  let ofTask := fun task : Task => task.dependencies.filterMap fun id =>
    if id = task.ruleId then some ("Task " ++ task.ruleId ++ " depends on itself")
    else if batch.ids.contains id then none
    else some ("Task " ++ task.ruleId ++ " depends on missing task " ++ id)
  batch.flatMap ofTask ++
    (batch.graph.cycle?.map fun cycle => "Circular dependency: " ++ joined " -> " cycle).toList

end Batch

end Obligations
