import Obligations.Proofs.Prerequisites.Readiness
import Obligations.Proofs.Task.Resolution

/-! # The order of tasks

The tasks of a batch are put in the order in which they become ready, whatever graph without a cycle tells their
prerequisites. That order is the only one of its kind, and a batch that is given in it stays in it.
-/

namespace Obligations.Batch

open Relation

variable {batch : Batch}

/-- Over a graph without a cycle the answer is an order of the tasks by readiness, the only one that there is. The
same tasks in that order are answered with it again, also where their prerequisites have been looked up anew. -/
theorem order_isByReadiness (batch : Batch) (graph : Graph String) (distinct : batch.ids.Nodup)
    (inside : ∀ id ∈ batch.ids, graph.before id ⊆ batch.ids) (acyclic : ¬ graph.IsCyclic) :
    ∃ order, batch.order graph = .ok order ∧
      (∀ other, graph.IsByReadiness batch.ids other ↔ other = order) ∧
      ∀ (again : Batch) (rebuilt : Graph String), again.ids = order →
        (∀ id ∈ order, rebuilt.before id = graph.before id) → again.order rebuilt = .ok order := by
  have perm := Graph.sorted_perm distinct acyclic inside
  refine ⟨graph.sorted batch.ids, order_of_perm perm, fun other => ⟨?_, ?_⟩, ?_⟩
  · exact fun byReadiness => byReadiness.eq_sorted distinct inside acyclic
  · rintro rfl
    exact Graph.sorted_isByReadiness distinct inside acyclic
  · intro again rebuilt given same
    have still : rebuilt.sorted again.ids = graph.sorted batch.ids := by
      rw [given, Graph.sorted_congr same, Graph.sorted_sorted distinct inside acyclic]
    have complete : (rebuilt.sorted again.ids).Perm again.ids := by rw [still, given]
    rw [order_of_perm complete, still]

/-- A batch in which one task, the permit, overtakes another one, the report, that was given before it: the last
prerequisite of the first is ready before that of the other, which names it twice. -/
def overtaking : Batch :=
  let blank : String → List String → Task := fun id dependencies =>
    { ruleId := id, title := id, description := "", dueDate := default, deadline := default
      category := "general", priority := .high, phase := .general, dependencies := dependencies
      origin := { phase := .general } }
  [blank "trip" ["permit", "report"], blank "report" ["visa", "fee", "visa"], blank "fee" [],
    blank "permit" ["fee"], blank "visa" []]

theorem order_isByReadiness_overtaking :
    overtaking.order overtaking.graph = .ok ["fee", "visa", "permit", "report", "trip"] ∧
      overtaking.graph.IsByReadiness overtaking.ids ["fee", "visa", "permit", "report", "trip"] := by
  have distinct : overtaking.ids.Nodup := by decide
  have acyclic : ¬ overtaking.graph.IsCyclic := (Graph.cycle?_eq_none_iff _).mp (by decide +kernel)
  obtain ⟨order, answered, only, -⟩ := order_isByReadiness overtaking overtaking.graph distinct
    (fun id _ => before_graph_subset distinct id) acyclic
  have ordered : overtaking.order overtaking.graph = .ok ["fee", "visa", "permit", "report", "trip"] := rfl
  exact ⟨ordered, (only _).mpr (Except.ok.inj (ordered.symm.trans answered))⟩

section Again

theorem requires_of_resolved (distinct : batch.ids.Nodup) {result : Batch} (resolved : batch.resolved = .ok result) :
    result.Requires = batch.Requires := by
  obtain ⟨perm, -⟩ := of_resolved_eq_ok distinct resolved
  have ids := ids_perm_of_resolved distinct resolved
  funext id other
  apply propext
  constructor
  · rintro ⟨task, member, rfl, named, present, differ⟩
    obtain ⟨origin, given, rfl⟩ := List.mem_map.mp (perm.subset member)
    exact ⟨origin, given, by simp, by simpa using named, ids.subset present, differ⟩
  · rintro ⟨task, member, rfl, named, present, differ⟩
    have answered : batch.settled task ∈ result := perm.mem_iff.mpr (List.mem_map_of_mem member)
    exact ⟨_, answered, by simp, by simpa using named, ids.mem_iff.mpr present, differ⟩

theorem before_graph_of_resolved (distinct : batch.ids.Nodup) {result : Batch}
    (resolved : batch.resolved = .ok result) {id : String} (member : id ∈ result.ids) :
    result.graph.before id = batch.graph.before id := by
  obtain ⟨perm, -⟩ := of_resolved_eq_ok distinct resolved
  have ids := ids_perm_of_resolved distinct resolved
  obtain ⟨settled, listed, rfl⟩ := List.mem_map.mp member
  obtain ⟨task, given, rfl⟩ := List.mem_map.mp (perm.subset listed)
  rw [before_graph (ids.nodup_iff.mpr distinct) listed, ruleId_settled, before_graph distinct given, prerequisites,
    prerequisites, dependencies_settled, ruleId_settled]
  refine List.filter_congr fun other _ => ?_
  congr 1
  rw [Bool.eq_iff_iff, List.contains_iff_mem, List.contains_iff_mem, ids.mem_iff]

/-- A batch that has been resolved can be resolved again, and its tasks stay in their order. -/
theorem exists_resolved_again (distinct : batch.ids.Nodup) {result : Batch} (resolved : batch.resolved = .ok result) :
    ∃ again, result.resolved = .ok again ∧ again.ids = result.ids := by
  have ids := ids_perm_of_resolved distinct resolved
  have distinctResult : result.ids.Nodup := ids.nodup_iff.mpr distinct
  have acyclic : ¬ ∃ id, TransGen batch.Requires id id := by
    intro cyclic
    obtain ⟨_, _, _, _, failed⟩ := resolved_of_cyclic distinct cyclic
    cases failed.symm.trans resolved
  obtain ⟨again, answered, -⟩ := resolved_of_acyclic distinctResult
    (by rwa [requires_of_resolved distinct resolved])
  refine ⟨again, answered, ?_⟩
  have sorted := ids_of_resolved_eq_ok distinct resolved
  rw [ids_of_resolved_eq_ok distinctResult answered,
    Graph.sorted_congr fun id member => before_graph_of_resolved distinct resolved member, sorted]
  exact Graph.sorted_sorted distinct (fun id _ => before_graph_subset distinct id)
    ((isCyclic_graph_iff distinct).not.mpr acyclic)

end Again

end Obligations.Batch
