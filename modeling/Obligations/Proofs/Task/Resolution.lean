import Obligations.Proofs.Outcome
import Obligations.Proofs.Prerequisites.Order
import Obligations.Task.Batch

/-! # Resolving batches of tasks

A batch whose rules are distinct is resolved unless some task requires itself, directly or through
others. The tasks then stand behind all that they require, and each is as it was or waits for exactly
its open prerequisites. Otherwise the answer is a walk from a rule back to it; that not all tasks could
be put in order is never the answer.
-/

namespace Obligations

open Relation Obligations.Text

namespace Graph

variable {α : Type} [DecidableEq α]

private theorem insert_of_notMem {graph : Graph α} {node : α} (fresh : node ∉ graph.nodes)
    (before : List α) :
    insert node before graph = graph ++ [(node, before)] := by
  induction graph with
  | nil => rfl
  | cons entry rest ih =>
    simp only [nodes, List.map_cons, List.mem_cons, not_or] at fresh
    rw [insert, if_neg (Ne.symm fresh.1), ih fresh.2, List.cons_append]

/-- Entries for distinct nodes make a graph as they stand. -/
theorem ofEntries_eq {entries : List (α × List α)} (distinct : (entries.map (·.1)).Nodup) :
    ofEntries entries = entries := by
  suffices grown : ∀ graph : Graph α, (graph.nodes ++ entries.map (·.1)).Nodup →
      entries.foldl (fun graph entry => insert entry.1 entry.2 graph) graph = graph ++ entries from
    grown [] distinct
  clear distinct
  induction entries with
  | nil => simp
  | cons entry rest ih =>
    intro graph distinct
    rw [List.map_cons, List.nodup_middle, List.nodup_cons] at distinct
    have fresh : entry.1 ∉ graph.nodes := fun member => distinct.1 (List.mem_append_left _ member)
    rw [List.foldl_cons, insert_of_notMem fresh, ih]
    · simp
    · rw [nodes, List.map_append, List.append_assoc, List.map_singleton, List.singleton_append,
        List.nodup_middle]
      exact List.nodup_cons.mpr distinct

theorem before_of_mem {graph : Graph α} (distinct : graph.nodes.Nodup) {node : α} {before : List α}
    (member : (node, before) ∈ graph) : graph.before node = before := by
  induction graph with
  | nil => cases member
  | cons entry rest ih =>
    rw [nodes, List.map_cons, List.nodup_cons] at distinct
    rcases List.mem_cons.mp member with rfl | member
    · simp [Graph.before]
    · have other : (node == entry.1) = false := by
        simpa using fun same : node = entry.1 => distinct.1 (same ▸ List.mem_map_of_mem (f := (·.1)) member)
      rw [Graph.before, List.lookup_cons, other]
      exact ih distinct.2 member

end Graph

namespace Batch

/-- Whether a task of the batch names another rule of the batch as its prerequisite. -/
def Requires (batch : Batch) (id other : String) : Prop :=
  ∃ task ∈ batch, task.ruleId = id ∧ other ∈ task.dependencies ∧ other ∈ batch.ids ∧ other ≠ id

/-- The prerequisites in the batch that are not completed, as a task names them. -/
def openPrerequisites (batch : Batch) (task : Task) : List String :=
  task.dependencies.filter fun id =>
    id != task.ruleId && batch.any fun other => other.ruleId == id && !other.completed

def titleOf (batch : Batch) (id : String) : String :=
  ((batch.find? (·.ruleId == id)).map (·.title)).getD ""

/-- A task as it is in a resolved batch. -/
def settled (batch : Batch) (task : Task) : Task :=
  if batch.openPrerequisites task = [] then task
  else
    { task with
      description := task.description ++ waitingNote ((batch.openPrerequisites task).map batch.titleOf)
      priority := .low
      isBlocked := true
      blockedBy := batch.openPrerequisites task }

variable {batch : Batch}

@[simp] theorem ruleId_settled (task : Task) : (batch.settled task).ruleId = task.ruleId := by
  rw [settled]
  split <;> rfl

@[simp] theorem dependencies_settled (task : Task) :
    (batch.settled task).dependencies = task.dependencies := by
  rw [settled]
  split <;> rfl

@[simp] theorem completed_settled (task : Task) :
    (batch.settled task).completed = task.completed := by
  rw [settled]
  split <;> rfl

theorem mem_openPrerequisites_iff {task : Task} {id : String} :
    id ∈ batch.openPrerequisites task ↔
      id ∈ task.dependencies ∧ id ≠ task.ruleId ∧ ∃ other ∈ batch, other.ruleId = id ∧
        other.completed = false := by
  simp [openPrerequisites, List.any_eq_true]

theorem task?_eq_some_iff (distinct : batch.ids.Nodup) {id : String} {task : Task} :
    batch.task? id = some task ↔ task ∈ batch ∧ task.ruleId = id := by
  constructor
  · intro found
    exact ⟨List.mem_reverse.mp (List.mem_of_find?_eq_some found),
      by simpa using List.find?_some found⟩
  · rintro ⟨member, rfl⟩
    cases found : batch.task? task.ruleId with
    | none => simpa using List.find?_eq_none.mp found task (List.mem_reverse.mpr member)
    | some other =>
      have same : other.ruleId = task.ruleId := by simpa using List.find?_some found
      rw [List.inj_on_of_nodup_map distinct (List.mem_reverse.mp (List.mem_of_find?_eq_some found))
        member same]

theorem find?_eq_task? (distinct : batch.ids.Nodup) (id : String) :
    batch.find? (·.ruleId == id) = batch.task? id := by
  cases found : batch.find? (·.ruleId == id) with
  | none =>
    cases other : batch.task? id with
    | none => rfl
    | some task =>
      obtain ⟨member, same⟩ := (task?_eq_some_iff distinct).mp other
      exact (List.find?_eq_none.mp found task member (by simpa using same)).elim
  | some task =>
    exact ((task?_eq_some_iff distinct).mpr
      ⟨List.mem_of_find?_eq_some found, by simpa using List.find?_some found⟩).symm

/-- The same tasks in another order answer alike. -/
theorem task?_eq_of_perm {other : Batch} (distinct : batch.ids.Nodup) (perm : other.Perm batch)
    (id : String) :
    other.task? id = batch.task? id := by
  have distinctOther : other.ids.Nodup := (perm.map _).nodup_iff.mpr distinct
  apply Option.ext
  intro task
  rw [task?_eq_some_iff distinctOther, task?_eq_some_iff distinct, perm.mem_iff]

theorem graph_eq (distinct : batch.ids.Nodup) :
    batch.graph = batch.map fun task => (task.ruleId, batch.prerequisites task) :=
  Graph.ofEntries_eq (by rwa [List.map_map])

theorem nodes_graph (distinct : batch.ids.Nodup) : batch.graph.nodes = batch.ids := by
  rw [graph_eq distinct, Graph.nodes, List.map_map]
  rfl

theorem before_graph (distinct : batch.ids.Nodup) {task : Task} (member : task ∈ batch) :
    batch.graph.before task.ruleId = batch.prerequisites task := by
  refine Graph.before_of_mem (by rwa [nodes_graph distinct]) ?_
  rw [graph_eq distinct]
  exact List.mem_map_of_mem (f := fun task => (task.ruleId, batch.prerequisites task)) member

theorem dependsOn_iff (distinct : batch.ids.Nodup) (id other : String) :
    batch.graph.DependsOn id other ↔ batch.Requires id other := by
  constructor
  · intro edge
    have listed := Graph.mem_nodes_of_dependsOn edge
    rw [nodes_graph distinct] at listed
    obtain ⟨task, member, rfl⟩ := List.mem_map.mp listed
    rw [Graph.DependsOn, before_graph distinct member, prerequisites] at edge
    simp only [List.mem_filter, Bool.and_eq_true, List.contains_iff_mem, bne_iff_ne] at edge
    exact ⟨task, member, rfl, edge.1, edge.2.1, edge.2.2⟩
  · rintro ⟨task, member, rfl, named, present, other⟩
    rw [Graph.DependsOn, before_graph distinct member, prerequisites]
    simp only [List.mem_filter, Bool.and_eq_true, List.contains_iff_mem, bne_iff_ne]
    exact ⟨named, present, other⟩

theorem dependsOn_graph_eq (distinct : batch.ids.Nodup) : batch.graph.DependsOn = batch.Requires := by
  funext id other
  exact propext (dependsOn_iff distinct id other)

/-- A cycle of the batch in its own terms. -/
theorem isCyclic_graph_iff (distinct : batch.ids.Nodup) :
    batch.graph.IsCyclic ↔ ∃ id, TransGen batch.Requires id id := by
  rw [Graph.IsCyclic, dependsOn_graph_eq distinct]

theorem before_graph_subset (distinct : batch.ids.Nodup) (id : String) :
    batch.graph.before id ⊆ batch.ids := by
  intro other edge
  obtain ⟨_, _, _, _, present, _⟩ := (dependsOn_iff distinct id other).mp edge
  exact present

theorem isPending_eq (distinct : batch.ids.Nodup) (id : String) :
    batch.isPending id = batch.any fun other => other.ruleId == id && !other.completed := by
  rw [isPending, Bool.eq_iff_iff, Option.any_eq_true, List.any_eq_true]
  constructor
  · rintro ⟨task, found, pending⟩
    obtain ⟨member, same⟩ := (task?_eq_some_iff distinct).mp found
    exact ⟨task, member, by simpa [same] using pending⟩
  · rintro ⟨task, member, pending⟩
    simp only [Bool.and_eq_true, beq_iff_eq] at pending
    exact ⟨task, (task?_eq_some_iff distinct).mpr ⟨member, pending.1⟩, pending.2⟩

/-- In any order of the batch, a task waits for its open prerequisites. -/
theorem pending_eq {ordered : Batch} (distinct : batch.ids.Nodup) (perm : ordered.Perm batch)
    {task : Task}
    (member : task ∈ batch) : ordered.pending batch.graph task = batch.openPrerequisites task := by
  have pendingSame : ordered.isPending = batch.isPending := by
    funext id
    rw [isPending, isPending, task?_eq_of_perm distinct perm]
  rw [pending, pendingSame, before_graph distinct member, prerequisites, openPrerequisites,
    List.filter_filter]
  refine List.filter_congr fun id _ => ?_
  rw [isPending_eq distinct]
  cases open' : batch.any fun other => other.ruleId == id && !other.completed with
  | false => simp
  | true =>
    obtain ⟨other, present, same⟩ := List.any_eq_true.mp open'
    simp only [Bool.and_eq_true, beq_iff_eq] at same
    have listed : id ∈ batch.ids := List.mem_map.mpr ⟨other, present, same.1⟩
    simp [listed]

private theorem titles_eq {ordered : Batch} (distinct : batch.ids.Nodup) (perm : ordered.Perm batch)
    {waiting : List String} (listed : waiting ⊆ batch.ids) :
    (waiting.filterMap fun id => (ordered.task? id).map (·.title)) = waiting.map batch.titleOf := by
  induction waiting with
  | nil => rfl
  | cons id rest ih =>
    obtain ⟨task, member, same⟩ := List.mem_map.mp (listed List.mem_cons_self)
    have found := (task?_eq_some_iff distinct).mpr ⟨member, same⟩
    rw [List.filterMap_cons, task?_eq_of_perm distinct perm, found, List.map_cons, titleOf,
      find?_eq_task? distinct,
      found, ih fun other member => listed (List.mem_cons_of_mem _ member)]
    rfl

/-- Marking the waiting tasks of an order leaves every task settled. -/
theorem annotated_eq {ordered : Batch} (distinct : batch.ids.Nodup) (perm : ordered.Perm batch) :
    ordered.annotated batch.graph = ordered.map batch.settled := by
  refine List.map_congr_left fun task member => ?_
  rw [pending_eq distinct perm (perm.mem_iff.mp member), settled]
  cases waiting : batch.openPrerequisites task with
  | nil => rfl
  | cons first others =>
    have listed : first :: others ⊆ batch.ids := by
      intro id named
      rw [← waiting, mem_openPrerequisites_iff] at named
      obtain ⟨_, _, other, present, same, _⟩ := named
      exact List.mem_map.mpr ⟨other, present, same⟩
    rw [if_neg (List.cons_ne_nil _ _)]
    show blocked ordered task (first :: others) = _
    rw [blocked, titles_eq distinct perm listed]

/-- The tasks of an order of the batch's rules. -/
theorem filterMap_task?_perm (distinct : batch.ids.Nodup) {sorted : List String}
    (perm : sorted.Perm batch.ids) :
    (sorted.filterMap batch.task?).Perm batch := by
  have all : batch.ids.filterMap batch.task? = batch := by
    rw [ids, List.filterMap_map]
    refine (List.filterMap_congr fun task member => ?_).trans (List.filterMap_some (l := batch))
    exact (task?_eq_some_iff distinct).mpr ⟨member, rfl⟩
  exact (perm.filterMap _).trans (.of_eq all)

theorem ids_filterMap_task? (distinct : batch.ids.Nodup) {sorted : List String}
    (listed : sorted ⊆ batch.ids) :
    ids (sorted.filterMap batch.task?) = sorted := by
  induction sorted with
  | nil => rfl
  | cons id rest ih =>
    obtain ⟨task, member, same⟩ := List.mem_map.mp (listed List.mem_cons_self)
    have found := (task?_eq_some_iff distinct).mpr ⟨member, same⟩
    rw [List.filterMap_cons, found]
    show task.ruleId :: ids (rest.filterMap batch.task?) = id :: rest
    rw [ih fun other member => listed (List.mem_cons_of_mem _ member), same]

/-- Whether every task stands behind all that it requires in a batch. -/
def Respects (batch result : Batch) : Prop :=
  ∀ earlier task later, result = earlier ++ task :: later →
    ∀ id, batch.Requires task.ruleId id → id ∈ ids earlier

theorem respects_of_graph {result : Batch} (distinct : batch.ids.Nodup)
    (respects : batch.graph.Respects result.ids) : batch.Respects result := by
  intro earlier task later split id required
  refine respects (ids earlier) task.ruleId (ids later) ?_ ((dependsOn_iff distinct _ _).mpr required)
  rw [split, ids, List.map_append, List.map_cons]
  rfl

@[simp] theorem ids_map_settled (ordered : Batch) :
    ids (ordered.map batch.settled) = ordered.ids := by
  simp [ids, Function.comp_def]

/-- An order of all tasks is answered with. -/
theorem order_of_perm {graph : Graph String} (perm : (graph.sorted batch.ids).Perm batch.ids) :
    batch.order graph = .ok (graph.sorted batch.ids) := by
  rw [order, if_pos (by rw [perm.length_eq, ids, List.length_map])]

/-- Without a cycle a batch is resolved. -/
theorem resolved_of_acyclic (distinct : batch.ids.Nodup)
    (acyclic : ¬ ∃ id, TransGen batch.Requires id id) :
    ∃ result, batch.resolved = .ok result ∧ result.Perm (batch.map batch.settled) ∧
      batch.Respects result := by
  have acyclicGraph : ¬ batch.graph.IsCyclic := (isCyclic_graph_iff distinct).not.mpr acyclic
  have perm := Graph.sorted_perm distinct acyclicGraph fun id _ => before_graph_subset distinct id
  have tasks := filterMap_task?_perm distinct perm
  by_cases empty : batch.isEmpty
  · obtain rfl := List.isEmpty_iff.mp empty
    exact ⟨[], rfl, .refl _, by simp [Respects]⟩
  · have ordered : batch.order batch.graph = .ok (batch.graph.sorted batch.ids) := order_of_perm perm
    refine ⟨_, ?_, tasks.map _, ?_⟩
    · rw [resolved, if_neg empty]
      simp only [(Graph.cycle?_eq_none_iff _).mpr acyclicGraph, ordered]
      exact congrArg Except.ok (annotated_eq distinct tasks)
    · refine respects_of_graph distinct ?_
      rw [ids_map_settled, ids_filterMap_task? distinct perm.subset]
      exact (batch.graph.sorted_isOrderOf distinct).respects

/-- With a cycle the answer is such a walk. -/
theorem resolved_of_cyclic (distinct : batch.ids.Nodup)
    (cyclic : ∃ id, TransGen batch.Requires id id) :
    ∃ id walk, TransGen batch.Requires id id ∧ batch.graph.IsSimpleCycle (id :: walk) ∧
      batch.resolved = .fail (.of .cycle ("Circular dependency detected involving task: " ++ id)
        { cycle := id :: walk }) := by
  have cyclicGraph := (isCyclic_graph_iff distinct).mpr cyclic
  cases found : batch.graph.cycle? with
  | none => exact ((Graph.cycle?_eq_none_iff _).mp found cyclicGraph).elim
  | some cycle =>
    have simple := Graph.isSimpleCycle_of_cycle? found
    cases cycle with
    | nil => simpa using simple.isCycle.1
    | cons id walk =>
      have loop := simple.isCycle.transGen rfl
      have nonempty : ¬ batch.isEmpty := by
        intro empty
        obtain rfl := List.isEmpty_iff.mp empty
        obtain ⟨_, ⟨_, absurd, _⟩, _⟩ := TransGen.head'_iff.mp cyclic.choose_spec
        cases absurd
      refine ⟨id, walk, ?_, simple, ?_⟩
      · exact TransGen.mono (fun _ _ edge => (dependsOn_iff distinct _ _).mp edge) _ _ loop
      · rw [resolved, if_neg nonempty]
        simp only [found, List.headD_cons]

/-- What is resolved are the settled tasks, each behind all that it requires. -/
theorem of_resolved_eq_ok (distinct : batch.ids.Nodup) {result : Batch}
    (resolved : batch.resolved = .ok result) :
    result.Perm (batch.map batch.settled) ∧ batch.Respects result := by
  by_cases cyclic : ∃ id, TransGen batch.Requires id id
  · obtain ⟨_, _, _, _, failed⟩ := resolved_of_cyclic distinct cyclic
    cases failed.symm.trans resolved
  · obtain ⟨other, same, spec⟩ := resolved_of_acyclic distinct cyclic
    obtain rfl : other = result := Except.ok.inj (same.symm.trans resolved)
    exact spec

/-- The rules of a resolved batch stand in the order of its graph. -/
theorem ids_of_resolved_eq_ok (distinct : batch.ids.Nodup) {result : Batch}
    (resolved : batch.resolved = .ok result) : result.ids = batch.graph.sorted batch.ids := by
  by_cases empty : batch.isEmpty
  · obtain rfl := List.isEmpty_iff.mp empty
    cases resolved
    rfl
  · rw [Batch.resolved, if_neg empty] at resolved
    cases found : batch.graph.cycle? with
    | some cycle => simp only [found] at resolved; cases resolved
    | none =>
      simp only [found] at resolved
      obtain ⟨sorted, ordered, same⟩ := Outcome.bind_eq_ok.mp resolved
      cases same
      rw [order] at ordered
      split at ordered
      next =>
        obtain rfl := Except.ok.inj ordered
        have acyclic := (Graph.cycle?_eq_none_iff _).mp found
        have perm := Graph.sorted_perm distinct acyclic fun id _ => before_graph_subset distinct id
        rw [annotated_eq distinct (filterMap_task?_perm distinct perm), ids_map_settled,
          ids_filterMap_task? distinct perm.subset]
      next => cases ordered

theorem cyclic_of_resolved_eq_error (distinct : batch.ids.Nodup) {problem : Problem}
    (raised : batch.resolved = .error problem) : ∃ id, TransGen batch.Requires id id := by
  by_contra acyclic
  obtain ⟨result, resolved, _⟩ := resolved_of_acyclic distinct acyclic
  cases resolved.symm.trans raised

theorem ids_perm_of_resolved (distinct : batch.ids.Nodup) {result : Batch}
    (resolved : batch.resolved = .ok result) :
    result.ids.Perm batch.ids := by
  have ids := (of_resolved_eq_ok distinct resolved).1.map (·.ruleId)
  exact ids.trans (.of_eq (ids_map_settled batch))

/-- A batch of two open tasks, the first of which requires the second, twice, and itself. -/
def reportAndVisa : Batch :=
  let blank : String → List String → Task := fun id dependencies =>
    { ruleId := id, title := id, description := "", dueDate := default, deadline := default
      category := "general", priority := .high, phase := .general, dependencies := dependencies
      origin := { phase := .general } }
  [blank "report" ["visa", "report", "visa", "i20"], blank "visa" []]

end Batch

end Obligations
