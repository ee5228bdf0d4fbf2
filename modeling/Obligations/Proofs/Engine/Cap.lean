import Obligations.Proofs.Engine.Tasks
import Obligations.Proofs.Prerequisites.Queue

/-! # What a limit cuts off

Rules are judged in the order of their priority, and their tasks are then put in the order of their
prerequisites before a limit cuts the last of them off. A task may stand before one of a higher
priority, but only if that one waits for a prerequisite behind all those that the first waits for. So
the limit prefers a task of a lower priority for no other reason.
-/

namespace Obligations

open Relation Obligations.Calendar

namespace Batch

variable {batch result : Batch}

/-- A rule that stands before one that was given before it: that one requires some rule that stands
behind all that the first requires. -/
theorem exists_last_of_overtaken (distinct : batch.ids.Nodup) (resolved : batch.resolved = .ok result)
    {first second : String} (placed : second ∈ batch.ids)
    (before : result.ids.idxOf first < result.ids.idxOf second)
    (given : batch.ids.idxOf second < batch.ids.idxOf first) :
    ∃ last, batch.Requires second last ∧
      ∀ other, batch.Requires first other → result.ids.idxOf other < result.ids.idxOf last := by
  have inOrder := (ids_perm_of_resolved distinct resolved).mem_iff.mpr placed
  rw [ids_of_resolved_eq_ok distinct resolved] at before inOrder ⊢
  obtain ⟨last, edge, behind⟩ :=
    batch.graph.exists_last_of_overtaken distinct inOrder before given
  refine ⟨last, (dependsOn_iff distinct second last).mp edge, fun other required => ?_⟩
  exact behind other ((dependsOn_iff distinct first other).mpr required)

/-- A rule stands behind those that it requires. -/
theorem idxOf_lt_of_requires (distinct : batch.ids.Nodup) (resolved : batch.resolved = .ok result)
    {id other : String} (placed : id ∈ result.ids) (required : batch.Requires id other) :
    result.ids.idxOf other < result.ids.idxOf id := by
  obtain ⟨_, respects⟩ := of_resolved_eq_ok distinct resolved
  obtain ⟨earlier, later, split, fresh⟩ := List.eq_append_cons_of_mem placed
  obtain ⟨before, rest, rfl, rfl, same⟩ := List.map_eq_append_iff.mp split
  obtain ⟨task, after, rfl, rfl, rfl⟩ := List.map_eq_cons_iff.mp same
  have member : other ∈ before.map (·.ruleId) := respects before task after rfl other required
  rw [split, List.idxOf_append_of_mem member, List.idxOf_append_of_notMem fresh,
    List.idxOf_cons_self]
  exact List.idxOf_lt_length_iff.mpr member

end Batch

/-- Cutting a list off keeps which of two items stands first, as long as the first is left. -/
theorem idxOf_take_lt {α : Type} [DecidableEq α] {items : List α} {limit : Nat} {item other : α}
    (kept : item ∈ items.take limit) (less : items.idxOf item < items.idxOf other) :
    (items.take limit).idxOf item < (items.take limit).idxOf other := by
  have whole := List.take_append_drop limit items
  by_cases otherKept : other ∈ items.take limit
  · rw [← whole, List.idxOf_append_of_mem kept, List.idxOf_append_of_mem otherKept] at less
    exact less
  · rw [List.idxOf_of_notMem otherKept]
    exact List.idxOf_lt_length_iff.mpr kept

namespace Engine

variable {settings : EngineSettings} {context : Context} {now : Timestamp} {rules : List Rule}

/-- Tasks without a cycle among them are resolved where that is asked for. -/
theorem arrange_of_acyclic {tasks : Batch} (distinct : tasks.ids.Nodup)
    (wanted : settings.dependencies = true)
    (acyclic : ¬ ∃ id, TransGen tasks.Requires id id) :
    ∃ result, tasks.resolved = .ok result ∧ arrange settings tasks = (result, []) := by
  obtain ⟨result, resolved, _⟩ := Batch.resolved_of_acyclic distinct acyclic
  refine ⟨result, resolved, ?_⟩
  rw [arrange]
  by_cases empty : tasks.isEmpty = true
  · obtain rfl := List.isEmpty_iff.mp empty
    cases resolved
    simp
  · rw [if_pos (by simp [wanted, empty]), resolved]

/-- The tasks of rules stand in the order of the rules. -/
theorem idxOf_tasksOf_lt (distinct : (rules.map (·.id)).Nodup)
    (descending : rules.Pairwise fun rule other => other.priority ≤ rule.priority)
    {lost kept : Rule} (lostListed : lost ∈ rules) (keptListed : kept ∈ rules)
    (higher : kept.priority < lost.priority)
    (lostMet : lost.id ∈ (tasksOf settings context now rules).ids) :
    (tasksOf settings context now rules).ids.idxOf lost.id <
      (tasksOf settings context now rules).ids.idxOf kept.id := by
  -- Read off the identities, as the tasks know no priorities of rules.
  have ranked : (rules.map (·.id)).Pairwise fun id other => ∀ rule ∈ rules, ∀ second ∈ rules,
      rule.id = id → second.id = other → second.priority ≤ rule.priority := by
    rw [List.pairwise_map]
    refine descending.imp_of_mem fun {first second} firstListed secondListed related => ?_
    intro rule listed other otherListed same otherSame
    rwa [List.inj_on_of_nodup_map distinct listed firstListed same,
      List.inj_on_of_nodup_map distinct otherListed secondListed otherSame]
  have rankedTasks := ranked.sublist (ids_tasksOf_sublist settings context now rules)
  by_contra notBefore
  rcases Nat.lt_or_eq_of_le (not_lt.mp notBefore) with less | same
  · have reversed := Graph.rel_of_idxOf_lt rankedTasks lostMet less kept keptListed lost lostListed
      rfl rfl
    omega
  · have one : lost.id = kept.id := (List.idxOf_inj lostMet).mp same.symm
    rw [List.inj_on_of_nodup_map distinct lostListed keptListed one] at higher
    exact lt_irrefl _ higher

/-- A rule whose identity a task has is the rule of the task. -/
theorem mem_of_id_mem_tasksOf (distinct : (rules.map (·.id)).Nodup) {chosen : List Rule}
    (included : chosen ⊆ rules) {rule : Rule} (listed : rule ∈ rules)
    (met : rule.id ∈ (tasksOf settings context now chosen).ids) : rule ∈ chosen := by
  have named := (ids_tasksOf_sublist settings context now chosen).subset met
  obtain ⟨other, chosenOther, same⟩ := List.mem_map.mp named
  rwa [List.inj_on_of_nodup_map distinct listed (included chosenOther) same.symm]

/-- A limit that keeps a task and cuts off one of a rule of higher priority, both in an order of their
prerequisites: the second requires a rule behind all that the first requires. -/
theorem exists_last_of_cut (subjectId : String) (distinct : (rules.map (·.id)).Nodup)
    (descending : rules.Pairwise fun rule other => other.priority ≤ rule.priority)
    (wanted : settings.dependencies = true)
    (acyclic : ¬ ∃ id, TransGen (evaluation settings rules subjectId context now).met.Requires id id)
    {lost kept : Rule} (lostListed : lost ∈ rules) (keptListed : kept ∈ rules)
    (lostMet : lost.id ∈ (evaluation settings rules subjectId context now).met.ids)
    (lostCut : lost.id ∉ (evaluation settings rules subjectId context now).tasks.ids)
    (keptLeft : kept.id ∈ (evaluation settings rules subjectId context now).tasks.ids)
    (higher : kept.priority < lost.priority) :
    ∃ last, (evaluation settings rules subjectId context now).met.Requires lost.id last ∧
      ∀ other, (evaluation settings rules subjectId context now).met.Requires kept.id other →
        (evaluation settings rules subjectId context now).tasks.ids.idxOf other <
          (evaluation settings rules subjectId context now).tasks.ids.idxOf last := by
  rw [met_evaluation] at acyclic lostMet ⊢
  rw [tasks_evaluation] at lostCut keptLeft ⊢
  have included : applicable rules context ⊆ rules := List.filter_sublist.subset
  have fresh : (tasksOf settings context now (applicable rules context)).IsFresh :=
    tasksOf_isFresh (distinct_applicable distinct)
  obtain ⟨result, resolved, arranged⟩ := arrange_of_acyclic fresh.distinct wanted acyclic
  rw [arranged] at lostCut keptLeft ⊢
  have cut : Batch.ids (result.take settings.taskLimit) = result.ids.take settings.taskLimit :=
    List.map_take
  rw [cut] at lostCut keptLeft ⊢
  have perm := Batch.ids_perm_of_resolved fresh.distinct resolved
  have keptPlaced := List.mem_of_mem_take keptLeft
  have keptMet := perm.mem_iff.mp keptPlaced
  -- The kept task stands before the limit, the lost one behind it.
  have before : result.ids.idxOf kept.id < result.ids.idxOf lost.id := by
    have inside := (List.mem_take_iff_idxOf_lt keptPlaced).mp keptLeft
    have outside := (List.mem_take_iff_idxOf_lt (perm.mem_iff.mpr lostMet)).not.mp lostCut
    omega
  have given := idxOf_tasksOf_lt (distinct_applicable distinct) (descending.filter _)
    (mem_of_id_mem_tasksOf distinct included lostListed lostMet)
    (mem_of_id_mem_tasksOf distinct included keptListed keptMet) higher lostMet
  obtain ⟨last, required, behind⟩ :=
    Batch.exists_last_of_overtaken fresh.distinct resolved lostMet before given
  refine ⟨last, required, fun other otherRequired => idxOf_take_lt ?_ (behind other otherRequired)⟩
  have otherBefore := Batch.idxOf_lt_of_requires fresh.distinct resolved keptPlaced otherRequired
  have inside := (List.mem_take_iff_idxOf_lt keptPlaced).mp keptLeft
  obtain ⟨_, _, _, _, present, _⟩ := otherRequired
  exact (List.mem_take_iff_idxOf_lt (perm.mem_iff.mpr present)).mpr (by omega)

/-- Of two rules that are met, a full evaluation keeps the task of the lower priority and cuts off the
other one only if that one requires a rule behind all that the kept one requires. -/
theorem evaluate_cap {origin loaded : Engine} {drafts : List Draft}
    (accepted : origin.load drafts = .ok loaded)
    (engine : Engine) (current : engine.rules = loaded.rules)
    (wanted : engine.settings.dependencies = true) (moment : Moment) (subjectId : String)
    (context : Context) :
    ∃ result after, engine.evaluate moment subjectId (.ok context) = (.ok result, after) ∧
      (result.isKept = false → (¬ ∃ id, TransGen result.met.Requires id id) →
        ∀ lost ∈ engine.rules, ∀ kept ∈ engine.rules,
          lost.id ∈ result.met.ids → lost.id ∉ result.tasks.ids → kept.id ∈ result.tasks.ids →
          kept.priority < lost.priority →
          ∃ last, result.met.Requires lost.id last ∧
            ∀ other, result.met.Requires kept.id other →
              result.tasks.ids.idxOf other < result.tasks.ids.idxOf last) := by
  obtain ⟨result, after, evaluated, kept | rfl⟩ := evaluate_cases engine moment subjectId context
  · exact ⟨result, after, evaluated, fun full => by rw [full] at kept; cases kept⟩
  · have distinct : (engine.rules.map (·.id)).Nodup := current ▸ distinct_of_load accepted
    have descending : engine.rules.Pairwise fun rule other => other.priority ≤ rule.priority :=
      current ▸ descending_of_load accepted
    refine ⟨_, after, evaluated, fun _ acyclic lost lostListed kept keptListed => ?_⟩
    exact exists_last_of_cut subjectId distinct descending wanted acyclic lostListed keptListed

/-- A rule that nothing has to do with the other ones, of a priority between theirs. -/
def unrelated : Rule :=
  { selfRequiring with
    id := "fee"
    template := { title := "Pay the fee" }
    priority := 60 }

/-- The engine with all three rules, for two tasks at a time. -/
def limited : Engine :=
  { ofSettings { taskLimit := 2 } with rules := [requiring, unrelated, selfRequiring] }

theorem load_limited :
    (ofSettings { taskLimit := 2 }).load
      [selfRequiring.toDraft, unrelated.toDraft, requiring.toDraft] = .ok limited := by
  have order : ruleSet [selfRequiring, unrelated, requiring] = [requiring, unrelated, selfRequiring] := by
    rw [ruleSet, keepHighest_of_distinct _ _ (by decide)]
    simp [List.mergeSort, List.MergeSort.Internal.splitInTwo, requiring, selfRequiring, unrelated]
  exact load_toDraft (by decide) order

/-- What the three rules come to for the student. -/
def limitedOfStudent : Evaluation :=
  evaluation limited.settings limited.rules "s1" student morning.now

theorem evaluate_limited :
    ∃ after, limited.evaluate morning "s1" (.ok student) = (.ok limitedOfStudent, after) :=
  ⟨_, rfl⟩

theorem ids_limitedOfStudent :
    limitedOfStudent.met.ids = ["report", "fee", "visa"] ∧
      limitedOfStudent.tasks.ids = ["fee", "visa"] := by
  decide +kernel

theorem requires_limitedOfStudent {id other : String} :
    limitedOfStudent.met.Requires id other ↔ id = "report" ∧ other = "visa" := by
  have tasks : limitedOfStudent.met.map (fun task => (task.ruleId, task.dependencies)) =
      [("report", ["visa"]), ("fee", []), ("visa", ["visa"])] := by
    decide +kernel
  constructor
  · rintro ⟨task, member, rfl, named, _, different⟩
    have pair : (task.ruleId, task.dependencies) ∈
        limitedOfStudent.met.map fun task => (task.ruleId, task.dependencies) :=
      List.mem_map_of_mem (f := fun task : Task => (task.ruleId, task.dependencies)) member
    rw [tasks] at pair
    simp only [List.mem_cons, Prod.mk.injEq, List.not_mem_nil, or_false] at pair
    rcases pair with ⟨same, others⟩ | ⟨_, others⟩ | ⟨same, others⟩
    · rw [others, List.mem_singleton] at named
      exact ⟨same, named⟩
    · rw [others] at named
      cases named
    · rw [others, List.mem_singleton] at named
      exact (different (named.trans same.symm)).elim
  · rintro ⟨rfl, rfl⟩
    obtain ⟨task, later, split, pair, _⟩ := List.map_eq_cons_iff.mp tasks
    obtain ⟨ruleId, others⟩ := Prod.mk.inj pair
    exact ⟨task, by simp [split], ruleId, by simp [others], by simp [ids_limitedOfStudent], by decide⟩

theorem transGen_limitedOfStudent {id other : String}
    (chain : TransGen limitedOfStudent.met.Requires id other) : id = "report" ∧ other = "visa" := by
  induction chain with
  | single required => exact requires_limitedOfStudent.mp required
  | tail _ required ih => exact ⟨ih.1, (requires_limitedOfStudent.mp required).2⟩

theorem acyclic_limitedOfStudent : ¬ ∃ id, TransGen limitedOfStudent.met.Requires id id := by
  rintro ⟨id, chain⟩
  obtain ⟨rfl, same⟩ := transGen_limitedOfStudent chain
  exact absurd same (by decide)

theorem evaluate_cap_limited :
    ∃ result after, (ofSettings { taskLimit := 2 }).load
        [selfRequiring.toDraft, unrelated.toDraft, requiring.toDraft] = .ok limited ∧
      limited.settings.dependencies = true ∧
      limited.evaluate morning "s1" (.ok student) = (.ok result, after) ∧
      result.tasks.ids = ["fee", "visa"] ∧
      ∃ last, result.met.Requires "report" last ∧
        ∀ other, result.met.Requires "fee" other →
          result.tasks.ids.idxOf other < result.tasks.ids.idxOf last := by
  obtain ⟨result, after, evaluated, spec⟩ :=
    evaluate_cap load_limited limited rfl rfl morning "s1" student
  obtain ⟨_, same⟩ := evaluate_limited
  obtain rfl : result = limitedOfStudent :=
    Except.ok.inj (Prod.mk.inj (evaluated.symm.trans same)).1
  obtain ⟨met, tasks⟩ := ids_limitedOfStudent
  refine ⟨_, after, load_limited, rfl, evaluated, tasks, ?_⟩
  exact spec rfl acyclic_limitedOfStudent requiring (by simp [limited]) unrelated (by simp [limited])
    (by rw [met]; decide) (by rw [tasks]; decide) (by rw [tasks]; decide) (by decide)

/-- The limit cuts a task off although all that it requires is kept, and keeps one of a lower priority
that no task requires. -/
theorem cap_keeps_lower_priority :
    ∃ result after, (ofSettings { taskLimit := 2 }).load
        [selfRequiring.toDraft, unrelated.toDraft, requiring.toDraft] = .ok limited ∧
      limited.settings.dependencies = true ∧
      limited.evaluate morning "s1" (.ok student) = (.ok result, after) ∧ result.isKept = false ∧
      (¬ ∃ id, TransGen result.met.Requires id id) ∧
      ¬ ∀ lost ∈ limited.rules, ∀ kept ∈ limited.rules,
        lost.id ∈ result.met.ids → lost.id ∉ result.tasks.ids →
        (∀ id, TransGen result.met.Requires lost.id id → id ∈ result.tasks.ids) →
        kept.id ∈ result.tasks.ids →
        (∀ id ∈ result.met.ids, ¬ TransGen result.met.Requires id kept.id) →
        ¬ kept.priority < lost.priority := by
  obtain ⟨after, evaluated⟩ := evaluate_limited
  obtain ⟨met, tasks⟩ := ids_limitedOfStudent
  refine ⟨limitedOfStudent, after, load_limited, rfl, evaluated, rfl, acyclic_limitedOfStudent,
    fun important => ?_⟩
  refine important requiring (by simp [limited]) unrelated (by simp [limited])
    (by rw [met]; decide) (by rw [tasks]; decide) ?_ (by rw [tasks]; decide) ?_ (by decide)
  · intro id chain
    obtain ⟨_, rfl⟩ := transGen_limitedOfStudent chain
    rw [tasks]
    decide
  · intro id _ chain
    obtain ⟨_, same⟩ := transGen_limitedOfStudent chain
    exact absurd same (by decide)

end Engine

end Obligations
