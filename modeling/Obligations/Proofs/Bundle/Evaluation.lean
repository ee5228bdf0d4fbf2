import Obligations.Proofs.Bundle.Rules
import Obligations.Proofs.Engine.Account
import Obligations.Proofs.Engine.Checked
import Obligations.Proofs.Source.Loader
import Obligations.Proofs.Subject.Stage

/-! # Evaluations of the bundled rules

An engine that has loaded the bundled rules, and otherwise stays as it is by default, finds errors for
exactly the subjects who are without a date that one of these rules starts from.
-/

namespace Obligations

open Obligations.Calendar

namespace Bundle

/-- The bundled rules as they are loaded. -/
def drafts : List Draft :=
  rules.map (·.toDraft)

theorem distinct_rules : (rules.map (·.id)).Nodup := by
  decide

theorem rules_of_drafts : drafts.filterMap (·.toRule?) = rules :=
  Rule.filterMap_toRule? rules

/-- Every bundled rule set is found by its name. -/
theorem at?_of_mem_sets : ∀ entry ∈ sets, at? entry.1 = some entry.2 := by
  have named : ∀ name ∈ sets.map (·.1), nameAt? name = some name := by
    decide
  intro entry listed
  rw [at?, named entry.1 (List.mem_map_of_mem listed)]
  simp only [sets, List.mem_cons, List.not_mem_nil, or_false] at listed
  rcases listed with rfl | rfl | rfl <;> rfl

/-- What the source of a bundled rule set answers. -/
def answerOf (source : Source) : List Draft :=
  match source.shelf with
  | .bundle name => ((at? name).getD []).map (·.toDraft)
  | _ => []

/-- By default a loader has the bundled rules. -/
theorem load_bundles (moment : Moment) :
    ((Loader.ofSources {} (Loader.bundles {})).load moment).1 = .ok drafts := by
  have sources : Loader.bundles {} = sets.map fun entry => { shelf := .bundle entry.1 } := rfl
  have answered : ∀ entry ∈ sets,
      answerOf { shelf := .bundle entry.1 } = entry.2.map (·.toDraft) := by
    intro entry listed
    show ((at? entry.1).getD []).map _ = _
    rw [at?_of_mem_sets entry listed, Option.getD_some]
  have answers : ∀ source ∈ Loader.bundles {}, source.shelf.load moment.now = .ok (answerOf source) := by
    rw [sources, List.forall_mem_map]
    intro entry listed
    rw [answered entry listed, Shelf.load, at?_of_mem_sets entry listed]
  have all : (Loader.bundles {}).flatMap answerOf = drafts := by
    rw [sources, List.flatMap_map, drafts, rules, List.map_flatMap]
    exact List.flatMap_congr answered
  rw [Loader.load_ofSources (by decide) answers (by decide), all,
    keepHighest_of_distinct Draft.id Draft.priority (by decide)]

/-- The bundled rules are usable. -/
theorem isWhole_of_mem {rule : Rule} (listed : rule ∈ rules) : rule.IsWhole := by
  have conditions : ∀ rule ∈ rules,
      (Slot.errorsFrom 0 (rule.conditions.map .condition)).toOption.any (·.isEmpty) = true := by
    decide
  have completion : ∀ rule ∈ rules, ((rule.template.autoComplete.getD []).mapM
      (Condition.errors "Auto-complete condition")).toOption.any (·.flatten.isEmpty) = true := by
    decide
  have lists : ∀ rule ∈ rules, rule.conditions ≠ [] ∧ rule.visaTypes ≠ [] ∧ rule.phases ≠ [] ∧
      rule.id ∉ rule.template.dependsOn := by
    decide
  have texts : isBlankText (some rule.id) = false ∧ isBlankText (some rule.name) = false ∧
      isBlankText (some rule.template.title) = false := by
    have all : rules = students ++ training ++ extension := rfl
    rw [all, students, training, extension] at listed
    simp only [List.mem_append, List.mem_cons, List.not_mem_nil, or_false] at listed
    rcases listed with ((rfl | rfl | rfl | rfl | rfl | rfl) | rfl | rfl | rfl) | rfl | rfl | rfl | rfl <;>
      exact ⟨isBlankText_ofList (by decide), isBlankText_ofList (by decide), isBlankText_ofList (by decide)⟩
  obtain ⟨identified, named, titled⟩ := texts
  obtain ⟨conditioned, visas, phased, apart⟩ := lists rule listed
  obtain ⟨errors, slots, noErrors⟩ := Outcome.exists_of_any (conditions rule listed)
  obtain ⟨others, completed, noOthers⟩ := Outcome.exists_of_any (completion rule listed)
  rw [List.isEmpty_iff.mp noErrors] at slots
  exact ⟨identified, named, titled, conditioned, visas, phased, apart, slots, others, List.isEmpty_iff.mp noOthers,
    completed⟩

/-- A check of the bundled rules finds no errors. -/
theorem isSetOfRules_drafts : IsSetOfRules drafts where
  distinct := by
    have ids : drafts.map (·.id) = (rules.map (·.id)).map some := by
      rw [drafts, List.map_map, List.map_map]
      rfl
    rw [ids]
    exact distinct_rules.map (Option.some_injective String)
  usable := by
    intro draft listed
    obtain ⟨rule, member, rfl⟩ := List.mem_map.mp listed
    exact (isWhole_of_mem member).isUsable
  acyclic := by
    have known : (prerequisiteGraph drafts).toOption.any (·.cycle?.isNone) = true := by
      decide
    obtain ⟨graph, built, none⟩ := Outcome.exists_of_any known
    exact ⟨graph, built, (Graph.cycle?_eq_none_iff graph).mp (Option.isNone_iff_eq_none.mp none)⟩

/-- No university changes what bundled rules require. -/
theorem not_addsAt {rule : Rule} (listed : rule ∈ rules) (university : Option String) (other : String) :
    ¬ rule.AddsAt university other := by
  have none : ∀ rule ∈ rules, ∀ entry ∈ rule.template.changes, entry.2.dependsOn = none := by
    decide
  rintro ⟨changes, ids, found, added, _⟩
  obtain ⟨name, member⟩ := Template.exists_of_changesOf? found
  cases (none rule listed _ member).symm.trans added

section Errors

variable {context : Context} {now : Timestamp}

/-- Tasks of bundled rules can always be arranged. -/
theorem faults_eq_nil :
    (Engine.arrange {} (Engine.tasksOf {} context now
      (Engine.applicable (Engine.ruleSet rules) context))).2 = [] := by
  rcases Engine.fault_arrange {} (Engine.tasksOf {} context now
    (Engine.applicable (Engine.ruleSet rules) context)) with none | ⟨reason, one, _⟩
  · exact none
  have told : "Dependency resolution failed: " ++ reason ∈
      (Engine.evaluation {} (Engine.ruleSet rules) "" context now).errors := by
    rw [Engine.errors_evaluation, one]
    exact List.mem_append_right _ List.mem_cons_self
  obtain ⟨_, rule, listed, other, adds, _⟩ :=
    Engine.closesCycle_of_fault isSetOfRules_drafts (by rw [rules_of_drafts]) "" told
  exact (not_addsAt ((Engine.mem_ruleSet_of_distinct distinct_rules).mp listed) _ _ adds).elim

/-- There are errors exactly if some bundled rule fails. -/
theorem errors_eq_nil_iff (subjectId : String) :
    (Engine.evaluation {} (Engine.ruleSet rules) subjectId context now).errors = [] ↔
      ¬ ∃ rule ∈ rules, rule.Fails context now := by
  rw [Engine.errors_evaluation, faults_eq_nil, List.append_nil, List.filterMap_eq_nil_iff]
  constructor
  · rintro none ⟨rule, listed, applies, fails⟩
    refine fails (none rule (List.mem_filter.mpr ⟨?_, applies⟩))
    exact (Engine.mem_ruleSet_of_distinct distinct_rules).mpr listed
  · intro sound rule chosen
    obtain ⟨listed, applies⟩ := List.mem_filter.mp chosen
    cases failed : rule.error? {} context now with
    | none => rfl
    | some error =>
      refine (sound ⟨rule, (Engine.mem_ruleSet_of_distinct distinct_rules).mp listed, applies, ?_⟩).elim
      rw [failed]
      exact Option.some_ne_none _

end Errors

end Bundle

namespace Engine

/-- By default the bundled rules are found and loaded. From then on a full evaluation of a subject whose
records make a context, with dates of the years 1900 to 2200, finds errors exactly if the subject is
without something that a bundled rule for it starts from. -/
theorem evaluate_bundles (loadedAt : Moment) :
    ∃ drafts loaded, ((Loader.ofSources {} (Loader.bundles {})).load loadedAt).1 = .ok drafts ∧
      (ofSettings {}).load drafts = .ok loaded ∧
      ∀ engine : Engine, engine.rules = loaded.rules → engine.settings = {} →
        ∀ (moment : Moment) (subjectId : String) (records : Records) (builtOn : Date) (context : Context),
          Context.ofRecords subjectId records builtOn = .ok context → context.IsContemporary →
          moment.now.date.IsContemporary →
          ∃ result after, engine.evaluate moment subjectId (.ok context) = (.ok result, after) ∧
            (result.isKept = false → (result.errors = [] ↔ ¬ Bundle.Strands context)) := by
  refine ⟨Bundle.drafts, _, Bundle.load_bundles loadedAt,
    load_eq_ok Bundle.isSetOfRules_drafts.usable, ?_⟩
  intro engine known unchanged moment subjectId records builtOn context built contemporary current
  have staged := Context.phase_eq_of_ofRecords built
  obtain ⟨result, after, evaluated, kept | rfl⟩ := evaluate_cases engine moment subjectId context
  · exact ⟨result, after, evaluated, fun full => by rw [full] at kept; cases kept⟩
  · refine ⟨_, after, evaluated, fun _ => ?_⟩
    rw [known, unchanged, Bundle.rules_of_drafts, Bundle.errors_eq_nil_iff,
      Bundle.exists_fails_iff contemporary current]
    · exact fun graduating => graduation_of_phaseOf (staged.symm.trans graduating)
    · exact fun extending => optEnd_of_phaseOf (staged.symm.trans extending)

end Engine

namespace Bundle

/-- A student of a STEM field in practical training. -/
def trainee (more : List (String × Value)) : Records :=
  { profile := .map ([("visa_type", .text "F1"), ("us_entry_date", .text "2020-08-15"),
      ("is_stem", .bool true), ("opt_start_date", .text "2023-07-01")] ++ more) }

/-- A day while the student is in training. -/
def inTraining : Moment :=
  ⟨0, .midnight ⟨2024, 3, 1, by decide⟩⟩

theorem evaluate_bundles_trainee :
    ∃ drafts loaded context result after,
      ((Loader.ofSources {} (Loader.bundles {})).load inTraining).1 = .ok drafts ∧
      (Engine.ofSettings {}).load drafts = .ok loaded ∧
      Context.ofRecords "s1" (trainee [("opt_end_date", .text "2024-06-30")]) inTraining.now.date =
        .ok context ∧
      context.IsContemporary ∧ inTraining.now.date.IsContemporary ∧
      loaded.evaluate inTraining "s1" (.ok context) = (.ok result, after) ∧
      result.isKept = false ∧ result.errors = [] := by
  obtain ⟨drafts, loaded, collected, accepted, spec⟩ := Engine.evaluate_bundles inTraining
  have known : (Context.ofRecords "s1" (trainee [("opt_end_date", .text "2024-06-30")])
      inTraining.now.date).toOption.any fun context =>
        decide (context.IsContemporary ∧ context.dates.optEnd ≠ none ∧
          context.dates.employmentEnd = none ∧ context.employment.newJobStarted = false) := by
    decide +kernel
  obtain ⟨context, built, facts⟩ := Outcome.exists_of_any known
  obtain ⟨contemporary, given, unended, settled⟩ := of_decide_eq_true facts
  have complete : ¬ Strands context := by
    rintro (⟨_, _, started, _, _⟩ | ⟨_, _, _, finish, ended, _⟩ | ⟨_, _, _, _, missing⟩ |
      ⟨_, _, _, _, missing⟩)
    · rw [settled] at started
      cases started
    · cases unended.symm.trans ended
    · exact given missing
    · exact given missing
  obtain ⟨rules, rfl⟩ := Engine.of_load_eq_ok accepted
  obtain ⟨result, after, evaluated, sound⟩ := spec _ rfl rfl inTraining "s1" _ _ context built
    contemporary (by decide)
  have full : result.isKept = false := by
    cases evaluated
    rfl
  exact ⟨drafts, _, context, result, after, collected, accepted, built, contemporary, by decide,
    evaluated, full, (sound full).mpr complete⟩

/-- A student in training whose profile does not tell when the training ends: the rules that are due
before its end leave errors. -/
theorem evaluate_bundles_unending :
    ∃ drafts loaded context result after,
      ((Loader.ofSources {} (Loader.bundles {})).load inTraining).1 = .ok drafts ∧
      (Engine.ofSettings {}).load drafts = .ok loaded ∧
      Context.ofRecords "s1" (trainee []) inTraining.now.date = .ok context ∧
      context.IsContemporary ∧ inTraining.now.date.IsContemporary ∧
      loaded.evaluate inTraining "s1" (.ok context) = (.ok result, after) ∧
      result.isKept = false ∧
      "Rule stem-opt-everify-check evaluation failed: " ++
        "Base date field dates.optEndDate not found in user context" ∈ result.errors := by
  have known : (Context.ofRecords "s1" (trainee []) inTraining.now.date).toOption.any fun context =>
      decide (context.IsContemporary ∧
        employerEnrollment.applies context.visa context.phase context.studies.universityId = true ∧
        employerEnrollment.error? {} context inTraining.now =
          some ("Rule stem-opt-everify-check evaluation failed: " ++
            "Base date field dates.optEndDate not found in user context")) := by
    decide +kernel
  obtain ⟨context, built, facts⟩ := Outcome.exists_of_any known
  obtain ⟨contemporary, applies, failed⟩ := of_decide_eq_true facts
  refine ⟨drafts, _, context, _, _, load_bundles inTraining,
    Engine.load_eq_ok isSetOfRules_drafts.usable, built, contemporary, by decide, rfl, rfl, ?_⟩
  show _ ∈ (Engine.evaluation {} (Engine.ruleSet (drafts.filterMap (·.toRule?))) "s1" context
    inTraining.now).errors
  rw [Engine.errors_evaluation, rules_of_drafts]
  refine List.mem_append_left _ (List.mem_filterMap.mpr ⟨employerEnrollment, ?_, failed⟩)
  refine List.mem_filter.mpr ⟨(Engine.mem_ruleSet_of_distinct distinct_rules).mpr ?_, applies⟩
  simp [rules, sets, extension]

end Bundle

end Obligations
