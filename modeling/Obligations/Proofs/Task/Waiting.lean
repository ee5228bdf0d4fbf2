import Obligations.Proofs.Prerequisites.Chain
import Obligations.Proofs.Task.Resolution

/-! # Waiting for other tasks

What holds a task up are the open tasks that it requires. Resolving marks every task that is held up, be it
open or completed, while only open tasks are said to wait. So the two differ on the completed tasks that
require an open one, and on no others. The chain of a rule has all that the rule requires, directly or through
others, each rule once.
-/

namespace Obligations.Batch

open Relation

variable {batch : Batch}

/-- Tasks of different rules in none of whose way anything stands. -/
structure IsFresh (batch : Batch) : Prop where
  distinct : batch.ids.Nodup
  unblocked : ∀ task ∈ batch, task.isBlocked = false
  waitsForNone : ∀ task ∈ batch, task.blockedBy = []

theorem IsFresh.blockedBy_settled (fresh : batch.IsFresh) {task : Task} (member : task ∈ batch) :
    (batch.settled task).blockedBy = batch.openPrerequisites task := by
  rw [settled]
  split
  next none => rw [fresh.waitsForNone task member, none]
  next => rfl

theorem IsFresh.isBlocked_settled_iff (fresh : batch.IsFresh) {task : Task}
    (member : task ∈ batch) :
    (batch.settled task).isBlocked = true ↔ batch.openPrerequisites task ≠ [] := by
  rw [settled]
  split
  next none => simp [fresh.unblocked task member, none]
  next some => simpa using some

theorem IsFresh.priority_settled (fresh : batch.IsFresh) {task : Task} (member : task ∈ batch)
    (blocked : (batch.settled task).isBlocked = true) : (batch.settled task).priority = .low := by
  rw [settled, if_neg ((fresh.isBlocked_settled_iff member).mp blocked)]

section Held

/-- Whether a rule requires one whose task is open. -/
def IsHeld (batch : Batch) (id : String) : Prop :=
  ∃ other ∈ batch, batch.Requires id other.ruleId ∧ other.completed = false

theorem IsHeld.exists_task {id : String} (held : batch.IsHeld id) : ∃ task ∈ batch, task.ruleId = id := by
  obtain ⟨_, _, ⟨task, member, same, _⟩, _⟩ := held
  exact ⟨task, member, same⟩

theorem isHeld_iff (distinct : batch.ids.Nodup) {task : Task} (member : task ∈ batch) :
    batch.IsHeld task.ruleId ↔ batch.openPrerequisites task ≠ [] := by
  constructor
  · rintro ⟨other, present, ⟨source, listed, same, named, _, different⟩, unfinished⟩
    obtain rfl : source = task := List.inj_on_of_nodup_map distinct listed member same
    have waits : other.ruleId ∈ batch.openPrerequisites source :=
      mem_openPrerequisites_iff.mpr ⟨named, different, other, present, rfl, unfinished⟩
    exact List.ne_nil_of_mem waits
  · intro some
    obtain ⟨id, waits⟩ := List.exists_mem_of_ne_nil _ some
    obtain ⟨named, different, other, present, rfl, unfinished⟩ := mem_openPrerequisites_iff.mp waits
    exact ⟨other, present, ⟨task, member, rfl, named, List.mem_map_of_mem present, different⟩, unfinished⟩

theorem mem_available_iff (distinct : batch.ids.Nodup) {task : Task} :
    task ∈ batch.available ↔ task ∈ batch ∧ task.completed = false ∧ ¬ batch.IsHeld task.ruleId := by
  rw [available, List.mem_filter]
  refine and_congr_right fun member => ?_
  rw [isHeld_iff distinct member, pending_eq distinct (.refl _) member]
  simp

/-- The waiting tasks are the open ones that are held up. -/
theorem mem_waiting_iff (distinct : batch.ids.Nodup) {task : Task} :
    task ∈ batch.waiting ↔ task ∈ batch ∧ task.completed = false ∧ batch.IsHeld task.ruleId := by
  have availableToo (member : task ∈ batch) :
      task.ruleId ∈ batch.available.ids ↔ task ∈ batch.available := by
    refine ⟨fun listed => ?_, fun listed => List.mem_map_of_mem listed⟩
    obtain ⟨other, ready, same⟩ := List.mem_map.mp listed
    obtain rfl : other = task := List.inj_on_of_nodup_map distinct (List.mem_of_mem_filter ready) member same
    exact ready
  rw [waiting, List.mem_filter]
  refine and_congr_right fun member => ?_
  have open' := (availableToo member).trans (mem_available_iff distinct)
  simp only [Bool.and_eq_true, Bool.not_eq_true', ← Bool.not_eq_true, List.contains_iff_mem, open']
  tauto

theorem mem_ids_waiting_iff (distinct : batch.ids.Nodup) {id : String} :
    id ∈ batch.waiting.ids ↔
      batch.IsHeld id ∧ ∃ task ∈ batch, task.ruleId = id ∧ task.completed = false := by
  constructor
  · intro listed
    obtain ⟨task, waits, rfl⟩ := List.mem_map.mp listed
    obtain ⟨member, unfinished, held⟩ := (mem_waiting_iff distinct).mp waits
    exact ⟨held, task, member, rfl, unfinished⟩
  · rintro ⟨held, task, member, rfl, unfinished⟩
    exact List.mem_map_of_mem ((mem_waiting_iff distinct).mpr ⟨member, unfinished, held⟩)

theorem settled_of_isHeld (distinct : batch.ids.Nodup) {task : Task} (member : task ∈ batch)
    (held : batch.IsHeld task.ruleId) :
    batch.settled task =
      { task with
        description := task.description ++ waitingNote ((batch.openPrerequisites task).map batch.titleOf)
        priority := .low
        isBlocked := true
        blockedBy := batch.openPrerequisites task } := by
  rw [settled, if_neg ((isHeld_iff distinct member).mp held)]

theorem settled_of_not_isHeld (distinct : batch.ids.Nodup) {task : Task} (member : task ∈ batch)
    (free : ¬ batch.IsHeld task.ruleId) : batch.settled task = task := by
  rw [isHeld_iff distinct member, not_not] at free
  rw [settled, if_pos free]

/-- The tasks that resolving marks are those that are held up. -/
theorem mem_ids_blocked_iff (fresh : batch.IsFresh) {result : Batch}
    (resolved : result.Perm (batch.map batch.settled)) {id : String} :
    id ∈ ids (result.filter (·.isBlocked)) ↔ batch.IsHeld id := by
  have blocked {task : Task} (member : task ∈ batch) :
      (batch.settled task).isBlocked = true ↔ batch.IsHeld task.ruleId :=
    (fresh.isBlocked_settled_iff member).trans (isHeld_iff fresh.distinct member).symm
  constructor
  · intro listed
    obtain ⟨marked, marks, rfl⟩ := List.mem_map.mp listed
    obtain ⟨inResult, isBlocked⟩ := List.mem_filter.mp marks
    obtain ⟨task, member, rfl⟩ := List.mem_map.mp (resolved.mem_iff.mp inResult)
    rw [ruleId_settled]
    exact (blocked member).mp isBlocked
  · intro held
    obtain ⟨task, member, rfl⟩ := held.exists_task
    have inResult : batch.settled task ∈ result := resolved.mem_iff.mpr (List.mem_map_of_mem member)
    exact List.mem_map.mpr
      ⟨_, List.mem_filter.mpr ⟨inResult, (blocked member).mpr held⟩, ruleId_settled task⟩

end Held

/-- Of fresh tasks without a cycle, resolving marks exactly those that are held up, and leaves the others as they
are. The waiting tasks are the open ones among those that it marks, so that the two are the same exactly if no
completed task is held up. -/
theorem blocked_eq_waiting_iff (batch : Batch) (fresh : batch.IsFresh)
    (acyclic : ¬ ∃ id, TransGen batch.Requires id id) :
    ∃ result, batch.resolved = .ok result ∧
      (∀ id, id ∈ ids (result.filter (·.isBlocked)) ↔ batch.IsHeld id) ∧
      (∀ id, id ∈ batch.waiting.ids ↔
        batch.IsHeld id ∧ ∃ task ∈ batch, task.ruleId = id ∧ task.completed = false) ∧
      ((∀ id, id ∈ ids (result.filter (·.isBlocked)) ↔ id ∈ batch.waiting.ids) ↔
        ∀ task ∈ batch, task.completed = true → ¬ batch.IsHeld task.ruleId) ∧
      ∀ task ∈ batch,
        (¬ batch.IsHeld task.ruleId → task ∈ result) ∧
        (batch.IsHeld task.ruleId →
          { task with
            description := task.description ++ waitingNote ((batch.openPrerequisites task).map batch.titleOf)
            priority := .low
            isBlocked := true
            blockedBy := batch.openPrerequisites task } ∈ result) := by
  obtain ⟨result, resolved, perm, _⟩ := resolved_of_acyclic fresh.distinct acyclic
  have blocked (id : String) : id ∈ ids (result.filter (·.isBlocked)) ↔ batch.IsHeld id :=
    mem_ids_blocked_iff fresh perm
  have waits (id : String) : id ∈ batch.waiting.ids ↔
      batch.IsHeld id ∧ ∃ task ∈ batch, task.ruleId = id ∧ task.completed = false :=
    mem_ids_waiting_iff fresh.distinct
  have inResult {task : Task} (member : task ∈ batch) : batch.settled task ∈ result :=
    perm.mem_iff.mpr (List.mem_map_of_mem member)
  refine ⟨result, resolved, blocked, waits, ⟨?_, ?_⟩, fun task member => ⟨fun free => ?_, fun held => ?_⟩⟩
  · intro same task member completed held
    obtain ⟨_, other, present, sameRule, unfinished⟩ :=
      (waits task.ruleId).mp ((same task.ruleId).mp ((blocked task.ruleId).mpr held))
    obtain rfl : other = task := List.inj_on_of_nodup_map fresh.distinct present member sameRule
    simp [completed] at unfinished
  · intro free id
    rw [blocked, waits, iff_self_and]
    intro held
    obtain ⟨task, member, rfl⟩ := held.exists_task
    refine ⟨task, member, rfl, ?_⟩
    exact Bool.eq_false_iff.mpr fun completed => free task member completed held
  · exact settled_of_not_isHeld fresh.distinct member free ▸ inResult member
  · exact settled_of_isHeld fresh.distinct member held ▸ inResult member

theorem acyclic_of_cycle? (distinct : batch.ids.Nodup) (none : batch.graph.cycle? = none) :
    ¬ ∃ id, TransGen batch.Requires id id := by
  rw [← isCyclic_graph_iff distinct]
  exact (Graph.cycle?_eq_none_iff _).mp none

theorem blocked_eq_waiting_reportAndVisa :
    reportAndVisa.IsFresh ∧ (¬ ∃ id, TransGen reportAndVisa.Requires id id) ∧
      reportAndVisa.waiting.ids = ["report"] ∧
      ∃ result, reportAndVisa.resolved = .ok result ∧
        ∀ id, id ∈ ids (result.filter (·.isBlocked)) ↔ id ∈ reportAndVisa.waiting.ids := by
  have fresh : reportAndVisa.IsFresh := ⟨by decide, by decide, by decide⟩
  have acyclic := acyclic_of_cycle? fresh.distinct (by decide)
  obtain ⟨result, resolved, _, _, same, _⟩ := blocked_eq_waiting_iff reportAndVisa fresh acyclic
  have opened : ∀ task ∈ reportAndVisa, task.completed = false := by decide
  refine ⟨fresh, acyclic, by decide, result, resolved, same.mpr fun task member completed => ?_⟩
  simp [opened task member] at completed

/-- An open task of a rule with the rules that it requires. -/
def taskOf (id : String) (dependencies : List String) : Task where
  ruleId := id
  title := id
  description := ""
  dueDate := default
  deadline := default
  category := "general"
  priority := .high
  phase := .general
  dependencies := dependencies
  origin := { phase := .general }

/-- A completed report that requires an open visa. -/
def filedReport : Batch :=
  [{ taskOf "report" ["visa"] with completed := true }, taskOf "visa" []]

/-- The completed report is told to wait for the visa, although no task is waiting. -/
theorem blocked_ne_waiting_filedReport :
    filedReport.IsFresh ∧ (¬ ∃ id, TransGen filedReport.Requires id id) ∧ filedReport.waiting.ids = [] ∧
      ∃ visa report, filedReport.resolved = .ok [visa, report] ∧ visa.isBlocked = false ∧
        report.ruleId = "report" ∧ report.completed = true ∧ report.isBlocked = true ∧
        report.blockedBy = ["visa"] ∧ report.priority = .low ∧
        report.description = "\n\n⚠️ Waiting on: visa" := by
  have fresh : filedReport.IsFresh := ⟨by decide, by decide, by decide⟩
  exact ⟨fresh, acyclic_of_cycle? fresh.distinct (by decide), by decide, _, _, rfl, by decide⟩

/-- Collecting the chain of a rule comes to an end, of itself and not for want of steps. The chain has exactly the
rules that the rule requires, directly or through others, each once. Without a cycle the rule itself is none of
them, and each stands behind all that it requires. -/
theorem chain_isRequired (batch : Batch) (distinct : batch.ids.Nodup) (id : String) :
    (∃ outcome, (∀ other, batch.graph.Collects (batch.graph.before id) ([], []) other ↔ other = outcome) ∧
      batch.graph.chain id = outcome.2) ∧
    (batch.graph.chain id).Nodup ∧
    (∀ other, other ∈ batch.graph.chain id ↔ TransGen batch.Requires id other) ∧
    ((¬ ∃ id, TransGen batch.Requires id id) →
      id ∉ batch.graph.chain id ∧
      ∀ earlier other later, batch.graph.chain id = earlier ++ other :: later →
        ∀ required, batch.Requires other required → required ∈ earlier) := by
  have reached (other : String) : other ∈ batch.graph.chain id ↔ TransGen batch.Requires id other := by
    rw [Graph.mem_chain_iff, dependsOn_graph_eq distinct]
  refine ⟨?_, batch.graph.chain_nodup id, reached, fun acyclic => ⟨fun member => ?_, ?_⟩⟩
  · obtain ⟨seen, collects⟩ := batch.graph.chain_collects id
    refine ⟨(seen, batch.graph.chain id), fun other => ⟨fun also => also.unique collects, ?_⟩, rfl⟩
    rintro rfl
    exact collects
  · exact acyclic ⟨id, (reached id).mp member⟩
  · intro earlier other later split required requires
    have acyclicGraph : ¬ batch.graph.IsCyclic := (isCyclic_graph_iff distinct).not.mpr acyclic
    exact batch.graph.chain_respects id acyclicGraph earlier other later split
      ((dependsOn_iff distinct other required).mpr requires)

/-- A trip requires a report, and the report and its visa require each other and a fee. -/
def tangledTrip : Batch :=
  [taskOf "report" ["visa", "fee"], taskOf "visa" ["fee", "report", "visa"], taskOf "fee" ["i20"],
    taskOf "trip" ["report"]]

theorem chain_isRequired_tangledTrip :
    tangledTrip.ids.Nodup ∧ tangledTrip.graph.chain "trip" = ["fee", "visa", "report"] ∧
      tangledTrip.graph.chain "report" = ["fee", "report", "visa"] ∧
      TransGen tangledTrip.Requires "report" "report" ∧ ¬ TransGen tangledTrip.Requires "trip" "trip" ∧
      filedReport.graph.chain "report" = ["visa"] ∧ "report" ∉ filedReport.graph.chain "report" := by
  have distinct : tangledTrip.ids.Nodup := by decide
  have trip := (chain_isRequired tangledTrip distinct "trip").2.2.1 "trip"
  have report := (chain_isRequired tangledTrip distinct "report").2.2.1 "report"
  have filed : filedReport.ids.Nodup := by decide
  have acyclic := acyclic_of_cycle? filed (by decide)
  have apart := ((chain_isRequired filedReport filed "report").2.2.2 acyclic).1
  exact ⟨distinct, by decide, by decide, report.mp (by decide), trip.not.mp (by decide), by decide, apart⟩

end Obligations.Batch
