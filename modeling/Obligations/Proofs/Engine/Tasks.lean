import Obligations.Proofs.Engine.Judging
import Obligations.Proofs.Engine.RuleSet
import Obligations.Proofs.Engine.Steps
import Obligations.Proofs.Task.Waiting

/-! # The tasks of an evaluation

Whether the tasks of an evaluation are in an order or not, and wherever they are cut off, a task waits
for open tasks before it only. Where they are in an order, each stands behind all that it requires of
the rules that are met, and waits while some of it is open. A task that requires itself is not held up
by that.
-/

namespace Obligations

open Obligations.Calendar

namespace Batch

/-- Tasks of different rules, those that are blocked of low priority and behind all open tasks that
they wait for. -/
structure IsSound (batch : Batch) : Prop where
  distinct : batch.ids.Nodup
  blocked_iff : ∀ task ∈ batch, task.isBlocked = true ↔ task.blockedBy ≠ []
  low : ∀ task ∈ batch, task.isBlocked = true → task.priority = .low
  waits : ∀ earlier task later, batch = earlier ++ task :: later →
    ∀ id ∈ task.blockedBy, ∃ other ∈ earlier, other.ruleId = id ∧ other.completed = false

/-- Tasks in the order of their prerequisites among given tasks, the open ones blocked while a
prerequisite is open. -/
structure IsOrdered (batch given : Batch) : Prop where
  behind : ∀ earlier task later, batch = earlier ++ task :: later →
    ∀ other ∈ given, other.ruleId ∈ task.dependencies → other.ruleId ≠ task.ruleId →
      other.ruleId ∈ ids earlier
  held : ∀ task ∈ batch, task.completed = false →
    ∀ other ∈ given, other.ruleId ∈ task.dependencies → other.ruleId ≠ task.ruleId →
      other.completed = false → task.isBlocked = true

variable {batch given : Batch}

private theorem split_of_take {limit : Nat} {earlier later : Batch} {task : Task}
    (split : batch.take limit = earlier ++ task :: later) :
    batch = earlier ++ task :: (later ++ batch.drop limit) := by
  conv_lhs => rw [← List.take_append_drop limit batch, split]
  simp

/-- Cutting tasks off never separates a task from those that it waits for. -/
theorem IsSound.take (sound : batch.IsSound) (limit : Nat) : IsSound (batch.take limit) where
  distinct := sound.distinct.sublist ((List.take_sublist limit batch).map _)
  blocked_iff task member := sound.blocked_iff task (List.mem_of_mem_take member)
  low task member := sound.low task (List.mem_of_mem_take member)
  waits earlier task _ split := sound.waits earlier task _ (split_of_take split)

theorem IsOrdered.take (ordered : batch.IsOrdered given) (limit : Nat) :
    IsOrdered (batch.take limit) given where
  behind earlier task _ split := ordered.behind earlier task _ (split_of_take split)
  held task member := ordered.held task (List.mem_of_mem_take member)

theorem IsFresh.isSound (fresh : batch.IsFresh) : batch.IsSound where
  distinct := fresh.distinct
  blocked_iff task member := by simp [fresh.unblocked task member, fresh.waitsForNone task member]
  low task member blocked := by simp [fresh.unblocked task member] at blocked
  waits earlier task later split id waiting := by
    have member : task ∈ batch := by simp [split]
    simp [fresh.waitsForNone task member] at waiting

section Resolved

variable {result : Batch} (fresh : batch.IsFresh) (resolved : batch.resolved = .ok result)

include fresh resolved

private theorem eq_settled_of_mem {task : Task} (member : task ∈ result) :
    ∃ original ∈ batch, batch.settled original = task := by
  exact List.mem_map.mp ((of_resolved_eq_ok fresh.distinct resolved).1.mem_iff.mp member)

/-- The prerequisites of a task that is resolved come before it. -/
private theorem mem_earlier_of_requires {earlier later : Batch} {original other : Task}
    (listed : original ∈ batch)
    (split : result = earlier ++ batch.settled original :: later) (present : other ∈ batch)
    (named : other.ruleId ∈ original.dependencies) (different : other.ruleId ≠ original.ruleId) :
    batch.settled other ∈ earlier := by
  obtain ⟨_, respects⟩ := of_resolved_eq_ok fresh.distinct resolved
  have required : batch.Requires (batch.settled original).ruleId other.ruleId :=
    ⟨original, listed, (ruleId_settled original).symm, named, List.mem_map_of_mem present,
      by simpa using different⟩
  obtain ⟨before, member, same⟩ := List.mem_map.mp (respects _ _ _ split _ required)
  have inResult : before ∈ result := by simp [split, member]
  obtain ⟨source, sourceListed, rfl⟩ := eq_settled_of_mem fresh resolved inResult
  rw [ruleId_settled] at same
  rwa [List.inj_on_of_nodup_map fresh.distinct sourceListed present same] at member

theorem isSound_of_resolved : result.IsSound where
  distinct := (ids_perm_of_resolved fresh.distinct resolved).nodup_iff.mpr fresh.distinct
  blocked_iff task member := by
    obtain ⟨original, listed, rfl⟩ := eq_settled_of_mem fresh resolved member
    rw [fresh.isBlocked_settled_iff listed, fresh.blockedBy_settled listed]
  low task member blocked := by
    obtain ⟨original, listed, rfl⟩ := eq_settled_of_mem fresh resolved member
    exact fresh.priority_settled listed blocked
  waits earlier task later split id waiting := by
    have member : task ∈ result := by simp [split]
    obtain ⟨original, listed, rfl⟩ := eq_settled_of_mem fresh resolved member
    rw [fresh.blockedBy_settled listed, mem_openPrerequisites_iff] at waiting
    obtain ⟨named, different, other, present, rfl, unfinished⟩ := waiting
    exact ⟨batch.settled other,
      mem_earlier_of_requires fresh resolved listed split present named different,
      ruleId_settled other, by rwa [completed_settled]⟩

theorem isOrdered_of_resolved : result.IsOrdered batch where
  behind earlier task later split other present named different := by
    have member : task ∈ result := by simp [split]
    obtain ⟨original, listed, rfl⟩ := eq_settled_of_mem fresh resolved member
    rw [dependencies_settled] at named
    rw [ruleId_settled] at different
    have before := mem_earlier_of_requires fresh resolved listed split present named different
    exact List.mem_map.mpr ⟨_, before, ruleId_settled other⟩
  held task member _ other present named different unfinished := by
    obtain ⟨original, listed, rfl⟩ := eq_settled_of_mem fresh resolved member
    rw [dependencies_settled] at named
    rw [ruleId_settled] at different
    have waiting : other.ruleId ∈ batch.openPrerequisites original :=
      mem_openPrerequisites_iff.mpr ⟨named, different, other, present, rfl, unfinished⟩
    exact (fresh.isBlocked_settled_iff listed).mpr (List.ne_nil_of_mem waiting)

end Resolved

end Batch

namespace Evaluation

/-- The tasks of the rules that are met, as the rules put them. -/
def met (evaluation : Evaluation) : Batch :=
  evaluation.judgements.filterMap (·.task)

end Evaluation

namespace Engine

variable {settings : EngineSettings} {context : Context} {now : Timestamp} {rules : List Rule}

theorem tasksOf_isFresh (distinct : (rules.map (·.id)).Nodup) :
    (tasksOf settings context now rules).IsFresh where
  distinct := distinct.sublist (ids_tasksOf_sublist settings context now rules)
  unblocked task member := by
    obtain ⟨_, _, made⟩ := isTask_of_mem_tasksOf settings context now member
    exact made.unblocked
  waitsForNone task member := by
    obtain ⟨_, _, made⟩ := isTask_of_mem_tasksOf settings context now member
    exact made.waitsForNone

/-- What arranging comes to: the tasks as they are, without or with a fault, or as they are resolved. -/
theorem arrange_cases (settings : EngineSettings) (tasks : Batch) :
    (arrange settings tasks = (tasks, []) ∧ (settings.dependencies = true → tasks = [])) ∨
    (∃ reason, arrange settings tasks = (tasks, ["Dependency resolution failed: " ++ reason])) ∨
    (∃ result, tasks.resolved = .ok result ∧ arrange settings tasks = (result, [])) := by
  rw [arrange]
  by_cases asked : (settings.dependencies && !tasks.isEmpty) = true
  · rw [if_pos asked]
    cases resolved : tasks.resolved with
    | ok result => exact Or.inr (Or.inr ⟨result, rfl, rfl⟩)
    | error problem => exact Or.inr (Or.inl ⟨problem.message, rfl⟩)
  · rw [if_neg asked]
    refine Or.inl ⟨rfl, fun wanted => ?_⟩
    simpa [wanted] using asked

theorem arrange_isSound {tasks : Batch} (fresh : tasks.IsFresh) :
    (arrange settings tasks).1.IsSound := by
  rcases arrange_cases settings tasks with ⟨same, _⟩ | ⟨_, same⟩ | ⟨result, resolved, same⟩
  · rw [same]; exact fresh.isSound
  · rw [same]; exact fresh.isSound
  · rw [same]; exact Batch.isSound_of_resolved fresh resolved

theorem arrange_isOrdered {tasks : Batch} (fresh : tasks.IsFresh)
    (wanted : settings.dependencies = true)
    (faultless : ∀ reason, "Dependency resolution failed: " ++ reason ∉ (arrange settings tasks).2) :
    (arrange settings tasks).1.IsOrdered tasks := by
  rcases arrange_cases settings tasks with ⟨same, none⟩ | ⟨reason, same⟩ | ⟨result, resolved, same⟩
  · obtain rfl := none wanted
    rw [same]
    exact ⟨by simp, by simp⟩
  · exact (faultless reason (by simp [same])).elim
  · rw [same]; exact Batch.isOrdered_of_resolved fresh resolved

/-- Arranging changes neither rules nor prerequisites. -/
theorem mem_of_mem_arrange {tasks : Batch} (fresh : tasks.IsFresh) {task : Task}
    (member : task ∈ (arrange settings tasks).1) :
    ∃ original ∈ tasks, original.ruleId = task.ruleId ∧
      original.dependencies = task.dependencies := by
  rcases arrange_cases settings tasks with ⟨same, _⟩ | ⟨_, same⟩ | ⟨result, resolved, same⟩
  · exact ⟨task, by rwa [same] at member, rfl, rfl⟩
  · exact ⟨task, by rwa [same] at member, rfl, rfl⟩
  · rw [same] at member
    obtain ⟨original, listed, rfl⟩ := Batch.eq_settled_of_mem fresh resolved member
    exact ⟨original, listed, by simp, by simp⟩

section Evaluation

variable (subjectId : String)

theorem judgements_evaluation :
    (evaluation settings rules subjectId context now).judgements =
      (applicable rules context).filterMap (·.judgement? settings context now) := by
  rw [evaluation, judgeAll_eq]

theorem met_evaluation :
    (evaluation settings rules subjectId context now).met =
      tasksOf settings context now (applicable rules context) := by
  rw [Evaluation.met, evaluation, judgeAll_eq]
  rfl

theorem tasks_evaluation :
    (evaluation settings rules subjectId context now).tasks =
      (arrange settings (tasksOf settings context now (applicable rules context))).1.take
        settings.taskLimit := by
  rw [evaluation, judgeAll_eq]
  rfl

theorem errors_evaluation :
    (evaluation settings rules subjectId context now).errors =
      (applicable rules context).filterMap (·.error? settings context now) ++
        (arrange settings (tasksOf settings context now (applicable rules context))).2 := by
  rw [evaluation, judgeAll_eq]
  rfl

theorem distinct_applicable (distinct : (rules.map (·.id)).Nodup) :
    ((applicable rules context).map (·.id)).Nodup :=
  distinct.sublist (List.filter_sublist.map _)

/-- The tasks of an evaluation name the prerequisites that their rules have for the subject. -/
theorem dependencies_evaluation (distinct : (rules.map (·.id)).Nodup) {task : Task}
    (member : task ∈ (evaluation settings rules subjectId context now).tasks) :
    ∃ rule ∈ rules, rule.id = task.ruleId ∧
      task.dependencies = (rule.templateFor settings context).dependsOn := by
  rw [tasks_evaluation] at member
  have fresh : (tasksOf settings context now (applicable rules context)).IsFresh :=
    tasksOf_isFresh (distinct_applicable distinct)
  obtain ⟨original, listed, ruleId, dependencies⟩ :=
    mem_of_mem_arrange fresh (List.mem_of_mem_take member)
  obtain ⟨rule, chosen, made⟩ := isTask_of_mem_tasksOf settings context now listed
  exact ⟨rule, List.mem_of_mem_filter chosen, by rw [← ruleId, made.ruleId],
    by rw [← dependencies, made.dependencies]⟩

/-- The rules that are met are those whose judgements say so. -/
theorem ids_met_evaluation :
    let result := evaluation settings rules subjectId context now
    result.met.ids = (result.judgements.filter (·.isMatch)).map (·.ruleId) := by
  intro result
  have named : ∀ judgement ∈ result.judgements, ∀ task, judgement.task = some task →
      task.ruleId = judgement.ruleId := by
    intro judgement member task made
    rw [judgements_evaluation] at member
    obtain ⟨rule, _, judged⟩ := List.mem_filterMap.mp member
    obtain ⟨same, isTask⟩ := Rule.of_judge_eq_ok (Rule.judgement?_eq_some_iff.mp judged)
    rw [(isTask task made).ruleId, same]
  rw [Evaluation.met]
  generalize result.judgements = judgements at named
  induction judgements with
  | nil => rfl
  | cons judgement rest ih =>
    have others := ih fun other member => named other (List.mem_cons_of_mem _ member)
    rw [Batch.ids] at others ⊢
    cases made : judgement.task with
    | none => simp [made, Judgement.isMatch, others]
    | some task => simp [made, Judgement.isMatch, others, named judgement List.mem_cons_self task made]

theorem tasks_evaluation_isSound (distinct : (rules.map (·.id)).Nodup) :
    (evaluation settings rules subjectId context now).tasks.IsSound := by
  rw [tasks_evaluation]
  exact (arrange_isSound (tasksOf_isFresh (distinct_applicable distinct))).take _

theorem tasks_evaluation_isOrdered (distinct : (rules.map (·.id)).Nodup)
    (wanted : settings.dependencies = true)
    (faultless : ∀ reason, "Dependency resolution failed: " ++ reason ∉
      (evaluation settings rules subjectId context now).errors) :
    (evaluation settings rules subjectId context now).tasks.IsOrdered
      (evaluation settings rules subjectId context now).met := by
  rw [errors_evaluation] at faultless
  rw [tasks_evaluation, met_evaluation]
  refine (arrange_isOrdered (tasksOf_isFresh (distinct_applicable distinct)) wanted fun reason fault => ?_).take _
  exact faultless reason (List.mem_append_right _ fault)

end Evaluation

/-- The tasks of a full evaluation of loaded rules are of different rules, blocked exactly while they
wait, and behind all that they wait for. Unless no order was wanted or found they are in the order of
their prerequisites among the rules that are met, a rule being none of its own. -/
theorem evaluate_tasks {origin loaded : Engine} {drafts : List Draft}
    (accepted : origin.load drafts = .ok loaded)
    (engine : Engine) (current : engine.rules = loaded.rules) (moment : Moment) (subjectId : String)
    (context : Context) :
    ∃ result after, engine.evaluate moment subjectId (.ok context) = (.ok result, after) ∧
      (result.isKept = false →
        result.tasks.IsSound ∧
        (∀ task ∈ result.tasks, ∃ rule ∈ engine.rules, rule.id = task.ruleId ∧
          task.dependencies = (rule.templateFor engine.settings context).dependsOn) ∧
        result.met.ids = (result.judgements.filter (·.isMatch)).map (·.ruleId) ∧
        (engine.settings.dependencies = true →
          (∀ reason, "Dependency resolution failed: " ++ reason ∉ result.errors) →
          result.tasks.IsOrdered result.met)) := by
  obtain ⟨result, after, evaluated, kept | rfl⟩ := evaluate_cases engine moment subjectId context
  · exact ⟨result, after, evaluated, fun full => by rw [full] at kept; cases kept⟩
  · have distinct : (engine.rules.map (·.id)).Nodup := current ▸ distinct_of_load accepted
    exact ⟨_, after, evaluated, fun _ => ⟨tasks_evaluation_isSound subjectId distinct,
      fun _ => dependencies_evaluation subjectId distinct, ids_met_evaluation subjectId,
      tasks_evaluation_isOrdered subjectId distinct⟩⟩

/-- A rule that requires itself, at one university. -/
def selfRequiring : Rule where
  id := "visa"
  name := "Visa"
  group := .documents
  phases := [.general]
  visaTypes := [.f1]
  conditions := [.leaf ⟨"userId", .exists, .null, none, none⟩]
  template := { title := "Renew the visa", changes := [("u1", { dependsOn := some ["visa"] })] }

def requiring : Rule :=
  { selfRequiring with
    id := "report"
    template := { title := "Report", dependsOn := ["visa"] }
    priority := 90 }

def student : Context :=
  { subjectId := "s1", studies := { universityId := some "u1" } }

/-- A morning of an engine that has just been started. -/
def morning : Moment :=
  ⟨0, .midnight default⟩

/-- The engine with both rules. -/
def visaAndReport : Engine :=
  { ofSettings {} with rules := [requiring, selfRequiring] }

theorem load_visaAndReport :
    (ofSettings {}).load [selfRequiring.toDraft, requiring.toDraft] = .ok visaAndReport := by
  have order : ruleSet [selfRequiring, requiring] = [requiring, selfRequiring] := by
    rw [ruleSet, keepHighest_of_distinct _ _ (by decide)]
    simp [List.mergeSort, List.MergeSort.Internal.splitInTwo, requiring, selfRequiring]
  exact load_toDraft (by decide) order

/-- What the rules come to for the student. -/
def ofStudent : Evaluation :=
  evaluation {} visaAndReport.rules "s1" student morning.now

theorem evaluate_visaAndReport :
    ∃ after, visaAndReport.evaluate morning "s1" (.ok student) = (.ok ofStudent, after) :=
  ⟨_, rfl⟩

theorem tasks_ofStudent :
    ofStudent.tasks.map (fun task => (task.ruleId, task.dependencies)) =
      [("visa", ["visa"]), ("report", ["visa"])] := by
  decide +kernel

theorem errors_ofStudent : ofStudent.errors = [] := by
  decide +kernel

theorem met_ofStudent : ofStudent.met.map (fun task => (task.ruleId, task.completed)) =
    [("report", false), ("visa", false)] := by
  decide +kernel

theorem evaluate_tasks_visaAndReport :
    ∃ result after, (ofSettings {}).load [selfRequiring.toDraft, requiring.toDraft] =
      .ok visaAndReport ∧
      visaAndReport.evaluate morning "s1" (.ok student) = (.ok result, after) ∧
      result.tasks.ids = ["visa", "report"] ∧ result.tasks.IsSound ∧
        result.tasks.IsOrdered result.met := by
  obtain ⟨result, after, evaluated, spec⟩ :=
    evaluate_tasks load_visaAndReport visaAndReport rfl morning "s1" student
  obtain ⟨_, same⟩ := evaluate_visaAndReport
  obtain rfl : result = ofStudent := Except.ok.inj (Prod.mk.inj (evaluated.symm.trans same)).1
  obtain ⟨sound, _, _, ordered⟩ := spec rfl
  have ids : ofStudent.tasks.ids = ["visa", "report"] := by
    simpa [Batch.ids, Function.comp_def] using congrArg (List.map Prod.fst) tasks_ofStudent
  exact ⟨_, after, load_visaAndReport, evaluated, ids, sound,
    ordered rfl (by simp [errors_ofStudent])⟩

/-- A task that requires itself does not stand behind all that it requires. -/
theorem evaluate_tasks_selfRequiring :
    ∃ result after, (ofSettings {}).load [selfRequiring.toDraft, requiring.toDraft] =
      .ok visaAndReport ∧
      visaAndReport.evaluate morning "s1" (.ok student) = (.ok result, after) ∧
      result.isKept = false ∧ visaAndReport.settings.dependencies = true ∧ result.errors = [] ∧
      ¬ ∀ earlier task later, result.tasks = earlier ++ task :: later →
        ∀ other ∈ result.met, other.ruleId ∈ task.dependencies →
          other.ruleId ∈ Batch.ids earlier := by
  obtain ⟨after, evaluated⟩ := evaluate_visaAndReport
  refine ⟨ofStudent, after, load_visaAndReport, evaluated, rfl, rfl, errors_ofStudent,
    fun behind => ?_⟩
  obtain ⟨visa, later, split, named, _⟩ := List.map_eq_cons_iff.mp tasks_ofStudent
  have open' : ("visa", false) ∈ ofStudent.met.map (fun task => (task.ruleId, task.completed)) := by
    simp [met_ofStudent]
  obtain ⟨other, met, same⟩ := List.mem_map.mp open'
  obtain ⟨ruleId, dependencies⟩ := Prod.mk.inj named
  obtain ⟨otherId, _⟩ := Prod.mk.inj same
  have earlier : other.ruleId ∈ Batch.ids [] :=
    behind [] visa later split other met (by rw [dependencies, otherId]; exact List.mem_singleton_self _)
  cases earlier

end Engine

end Obligations
