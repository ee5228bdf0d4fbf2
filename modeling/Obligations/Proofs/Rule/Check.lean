import Obligations.Proofs.Engine.RuleSet
import Obligations.Proofs.Outcome
import Obligations.Proofs.Rule.Distinct
import Obligations.Proofs.Task.Resolution
import Obligations.Proofs.Text.Cutting
import Obligations.Rule.Check

/-! # Sets of rules without errors

A set in which a check finds no errors has one draft for each identity, every draft becomes a rule, and
no rule comes behind itself by what the templates say. The check looks at the templates as they are for
all universities, so the changes of single universities do not take part in this.
-/

namespace Obligations

open Relation

namespace Report

theorem isValid_append {first second : Report} :
    (first ++ second).isValid = true ↔ first.isValid = true ∧ second.isValid = true := by
  change (Report.append first second).isValid = true ↔ _
  simp [append, isValid]

theorem isValid_labelled {report : Report} {label : String} :
    (report.labelled label).isValid = report.isValid := by
  rw [labelled, isValid, isValid, List.isEmpty_map]

theorem isValid_foldl {reports : List Report} {start : Report} :
    (reports.foldl (· ++ ·) start).isValid = true ↔
      start.isValid = true ∧ ∀ report ∈ reports, report.isValid = true := by
  induction reports generalizing start with
  | nil => simp
  | cons report rest ih => rw [List.foldl_cons, ih, isValid_append, List.forall_mem_cons, and_assoc]

theorem isValid_errorIf {wrong : Bool} {error : String} :
    (errorIf wrong error).isValid = true ↔ wrong = false := by
  cases wrong <;> simp [errorIf, ofErrors, isValid]

theorem isValid_ofErrors {errors : List String} : (ofErrors errors).isValid = true ↔ errors = [] := by
  simp [ofErrors, isValid]

end Report

/-- A text that does not begin with white space is not blank. -/
theorem isBlankText_ofList {c : Char} {rest : List Char} (solid : Text.isBlank c = false) :
    isBlankText (some (String.ofList (c :: rest))) = false := by
  have begins : ∀ first ∈ ([] : List Char).head?, Text.isBlank first = false := by
    rintro _ ⟨⟩
  obtain ⟨kept, same⟩ := Text.exists_trimChars_append begins solid rest
  rw [List.nil_append] at same
  rw [isBlankText, Option.all_some, Text.trim, String.toList_ofList, same]
  simp

namespace Slot

/-- Places without errors hold conditions. -/
theorem exists_conditions_of_errorsFrom {slots : List Slot} {index : Nat}
    (checked : errorsFrom index slots = .ok []) :
    ∃ conditions, slots.mapM condition? = some conditions := by
  induction slots generalizing index with
  | nil => exact ⟨[], rfl⟩
  | cons slot rest ih =>
    rw [errorsFrom] at checked
    obtain ⟨found, own, checked⟩ := Outcome.bind_eq_ok.mp checked
    obtain ⟨others, more, same⟩ := Outcome.bind_eq_ok.mp checked
    obtain ⟨rfl, rfl⟩ := List.append_eq_nil_iff.mp (Except.ok.inj same)
    obtain ⟨conditions, held⟩ := ih more
    cases slot with
    | condition content => exact ⟨content :: conditions, by rw [List.mapM_cons, held]; rfl⟩
    | unrecognized content => cases own

end Slot

namespace Draft

private theorem exists_of_all_eq_false {α : Type} {content : Option α} {test : α → Bool}
    (given : content.all test = false) : ∃ value, content = some value := by
  cases content with
  | none => cases given
  | some value => exact ⟨value, rfl⟩

/-- A draft that has every part it has to have and no errors in its conditions is a rule. -/
theorem exists_rule_of_isUsable {draft : Draft} (usable : draft.isUsable = true) :
    ∃ rule, draft.toRule? = some rule := by
  obtain ⟨report, checked, valid⟩ := Outcome.exists_of_any usable
  rw [check] at checked
  cases template : draft.template with
  | none =>
    rw [template] at checked
    cases checked
    have complete := (Report.isValid_append.mp valid).2
    cases complete
  | some template =>
    rw [template] at checked
    obtain ⟨errors, slots, checked⟩ := Outcome.bind_eq_ok.mp checked
    obtain ⟨others, _, same⟩ := Outcome.bind_eq_ok.mp checked
    cases same
    obtain ⟨own, _⟩ := Report.isValid_append.mp valid
    obtain ⟨parts, conditions⟩ := Report.isValid_append.mp own
    simp only [partErrors, Report.isValid_append, Report.isValid_errorIf] at parts
    obtain ⟨⟨⟨⟨identified, named⟩, conditioned⟩, visas⟩, phases⟩ := parts
    obtain ⟨id, hasId⟩ := exists_of_all_eq_false identified
    obtain ⟨name, hasName⟩ := exists_of_all_eq_false named
    obtain ⟨places, hasPlaces⟩ := exists_of_all_eq_false conditioned
    obtain ⟨visaTypes, hasVisas⟩ := exists_of_all_eq_false visas
    obtain ⟨stages, hasPhases⟩ := exists_of_all_eq_false phases
    rw [hasPlaces, Report.isValid_ofErrors.mp conditions] at slots
    obtain ⟨held, content⟩ := Slot.exists_conditions_of_errorsFrom slots
    rw [Option.getD_some] at content
    simp [toRule?, hasPlaces, hasId, hasName, hasPhases, hasVisas, template, content]

/-- A draft in which a check among others finds no errors is usable by itself, and has a template. -/
theorem isUsable_of_checkAmong {draft : Draft} {known : List (Option String)} {report : Report}
    (checked : draft.checkAmong known = .ok report) (valid : report.isValid = true) :
    draft.isUsable = true := by
  rw [checkAmong] at checked
  obtain ⟨own, ownChecked, checked⟩ := Outcome.bind_eq_ok.mp checked
  obtain ⟨_, _, same⟩ := Outcome.bind_eq_ok.mp checked
  cases same
  have ownValid := (Report.isValid_append.mp valid).1
  rw [Report.isValid_labelled] at ownValid
  rw [isUsable, ownChecked]
  exact ownValid

theorem id_of_toRule? {draft : Draft} {rule : Rule} (same : draft.toRule? = some rule) :
    draft.id = some rule.id ∧ draft.template = some rule.template := by
  rw [toRule?] at same
  simp only [Option.bind_eq_bind, Option.bind_eq_some_iff] at same
  obtain ⟨_, _, id, identified, _, _, _, _, _, _, _, _, template, filled, same⟩ := same
  cases same
  exact ⟨identified, filled⟩

end Draft

namespace Rule

/-- What makes a rule usable: it has its texts and its lists, no errors in its conditions, and does not come behind
itself. -/
structure IsWhole (rule : Rule) : Prop where
  identified : isBlankText (some rule.id) = false
  named : isBlankText (some rule.name) = false
  titled : isBlankText (some rule.template.title) = false
  conditioned : rule.conditions ≠ []
  visas : rule.visaTypes ≠ []
  phased : rule.phases ≠ []
  apart : rule.id ∉ rule.template.dependsOn
  conditions : Slot.errorsFrom 0 (rule.conditions.map .condition) = .ok []
  completion : ∃ errors : List (List String), errors.flatten = [] ∧
    (rule.template.autoComplete.getD []).mapM (Condition.errors "Auto-complete condition") = .ok errors

theorem IsWhole.isUsable {rule : Rule} (whole : rule.IsWhole) : rule.toDraft.isUsable = true := by
  obtain ⟨others, noOthers, completion⟩ := whole.completion
  have checked : rule.toDraft.check = .ok (rule.toDraft.partErrors ++ .ofErrors [] ++
      (.errorIf (isBlankText (some rule.template.title)) "Task title template is required" ++
        .errorIf ((some rule.id).any rule.template.dependsOn.contains) "Rule cannot depend on itself" ++
        .ofErrors others.flatten ++
        ⟨[], Wording.warnings rule.template.title ++ Wording.warnings rule.template.description⟩)) := by
    show (Slot.errorsFrom 0 (rule.conditions.map .condition) >>= _) = _
    rw [whole.conditions]
    show (Template.check _ _ >>= _) = _
    rw [Template.check, completion]
    rfl
  simp only [Draft.isUsable, checked, Except.toOption, Option.any_some, Report.isValid_append, Draft.partErrors,
    Report.isValid_errorIf, Report.isValid_ofErrors]
  refine ⟨⟨⟨⟨⟨⟨whole.identified, whole.named⟩, ?_⟩, ?_⟩, ?_⟩, trivial⟩, ⟨⟨whole.titled, ?_⟩, noOthers⟩, rfl⟩
  · simpa [toDraft] using whole.conditioned
  · simpa [toDraft] using whole.visas
  · simpa [toDraft] using whole.phased
  · simpa using whole.apart

end Rule

/-- What a check of a set tells that finds no errors. -/
structure IsSetOfRules (drafts : List Draft) : Prop where
  distinct : (drafts.map (·.id)).Nodup
  usable : ∀ draft ∈ drafts, draft.isUsable = true
  acyclic : ∃ graph, prerequisiteGraph drafts = .ok graph ∧ ¬ graph.IsCyclic

theorem isSetOfRules_of_checkSet {drafts : List Draft} {report : Report}
    (checked : checkSet drafts = .ok report) (valid : report.isValid = true) :
    IsSetOfRules drafts := by
  rw [checkSet] at checked
  obtain ⟨reports, each, checked⟩ := Outcome.bind_eq_ok.mp checked
  obtain ⟨graph, built, same⟩ := Outcome.bind_eq_ok.mp checked
  cases same
  obtain ⟨others, noCycle⟩ := Report.isValid_append.mp valid
  obtain ⟨noRepetition, eachValid⟩ := Report.isValid_append.mp others
  refine ⟨?_, ?_, graph, built, ?_⟩
  · have none : (distinct (drafts.map (·.id))).filter
        (fun id => 1 < (drafts.map (·.id)).count id) = [] := by
      simpa [Report.isValid, Report.ofErrors] using noRepetition
    rw [List.nodup_iff_count_le_one]
    intro id
    by_contra more
    have listed : id ∈ drafts.map (·.id) := List.count_pos_iff.mp (by omega)
    have repeated := List.filter_eq_nil_iff.mp none id (mem_distinct.mpr listed)
    simp only [decide_eq_true_eq] at repeated
    omega
  · have allValid := (Report.isValid_foldl.mp eachValid).2
    intro draft listed
    obtain ⟨own, member, ownChecked⟩ := Outcome.exists_of_mapM each listed
    exact Draft.isUsable_of_checkAmong ownChecked (allValid own member)
  · rw [← Graph.cycle?_eq_none_iff]
    simpa [Report.isValid, Report.ofErrors] using noCycle

/-- The graph of a set has the prerequisites in the set of each draft. -/
theorem dependsOn_prerequisiteGraph {drafts : List Draft} (distinct : (drafts.map (·.id)).Nodup)
    {graph : Graph (Option String)} (built : prerequisiteGraph drafts = .ok graph)
    {draft : Draft} (listed : draft ∈ drafts) {template : Template}
    (filled : draft.template = some template) {other : String} (named : other ∈ template.dependsOn)
    (known : some other ∈ drafts.map (·.id)) : graph.DependsOn draft.id (some other) := by
  let entry : Draft → Option String × List (Option String) := fun draft =>
    (draft.id, ((draft.template.elim [] (·.dependsOn)).map some).filter (drafts.map (·.id)).contains)
  rw [prerequisiteGraph] at built
  obtain ⟨entries, each, same⟩ := Outcome.bind_eq_ok.mp built
  obtain rfl : entries = drafts.map entry := by
    refine Outcome.eq_map_of_mapM (fun draft result ended => ?_) each
    obtain ⟨ids, told, same⟩ := Outcome.bind_eq_ok.mp ended
    rw [Draft.dependsOn] at told
    split at told
    next template filled =>
      cases told
      cases same
      simp only [entry, filled, Option.elim_some]
    next => cases told
  have nodes : ((drafts.map entry).map (·.1)).Nodup := by
    rw [List.map_map]
    exact distinct
  rw [Graph.ofEntries_eq nodes] at same
  cases same
  rw [Graph.DependsOn, Graph.before_of_mem nodes (List.mem_map_of_mem (f := entry) listed)]
  simp only [filled, Option.elim_some]
  exact List.mem_filter.mpr ⟨List.mem_map_of_mem named, List.contains_iff_mem.mpr known⟩

end Obligations
