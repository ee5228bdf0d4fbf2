import Obligations.Proofs.Engine.Interleaving
import Obligations.Proofs.Rule.Check

/-! # Rules that have been checked

A set of rules in which the check finds no errors can be loaded, and evaluations of it find no cycle
among the prerequisites of its templates. A cycle that an evaluation does find is one that the changes
of the subject's university have closed, as the check does not look at them.
-/

namespace Obligations

open Relation Obligations.Calendar

/-- A way from a node back to it is one of another relation, or some step of it is not. -/
theorem transGen_or_exists_step {α : Type} {step : α → α → Prop} (other : α → α → Prop) {node : α}
    (loop : TransGen step node node) :
    TransGen other node node ∨
      ∃ start next, step start next ∧ ReflTransGen step next start ∧ ¬ other start next := by
  by_contra outside
  push Not at outside
  obtain ⟨notOther, inside⟩ := outside
  suffices carried : ∀ last, TransGen step node last → ReflTransGen step last node →
      TransGen other node last from
    notOther (carried node loop .refl)
  intro last chain
  induction chain with
  | single first =>
    intro back
    exact .single (inside _ _ first back)
  | tail chain next ih =>
    intro back
    exact .tail (ih (.head next back)) (inside _ _ next (back.trans chain.to_reflTransGen))

/-- Whether the changes of a university give a rule a prerequisite that its template does not name. -/
def Rule.AddsAt (rule : Rule) (university : Option String) (other : String) : Prop :=
  ∃ changes ids, rule.template.changesOf? university = some changes ∧
    changes.dependsOn = some ids ∧ other ∈ ids ∧ other ∉ rule.template.dependsOn

/-- A prerequisite at a university that the template does not name comes from its changes. -/
theorem Rule.addsAt_of_mem {rule : Rule} {settings : EngineSettings} {context : Context}
    {other : String} (named : other ∈ (rule.templateFor settings context).dependsOn)
    (unnamed : other ∉ rule.template.dependsOn) :
    settings.universityChanges = true ∧ rule.AddsAt context.studies.universityId other := by
  rw [templateFor] at named
  split at named
  next allowed =>
    rw [Template.forUniversity] at named
    split at named
    next changes found =>
      rw [Template.changed] at named
      cases added : changes.dependsOn with
      | none =>
        rw [added] at named
        exact (unnamed named).elim
      | some ids =>
        rw [added] at named
        exact ⟨allowed, changes, ids, found, added, named, unnamed⟩
    next => exact (unnamed named).elim
  next => exact (unnamed named).elim

namespace Evaluation

/-- Whether the changes of a university close a cycle of prerequisites among the rules that are met. -/
def ClosesCycle (evaluation : Evaluation) (rules : List Rule) (university : Option String) : Prop :=
  ∃ rule ∈ rules, ∃ other, rule.AddsAt university other ∧
    evaluation.met.Requires rule.id other ∧ ReflTransGen evaluation.met.Requires other rule.id

end Evaluation

namespace Engine

variable {settings : EngineSettings} {context : Context} {now : Timestamp} {drafts : List Draft}

/-- There is a fault in arranging tasks only if some task requires itself in the end. -/
theorem cyclic_of_mem_arrange {tasks : Batch} (distinct : tasks.ids.Nodup) {fault : String}
    (member : fault ∈ (arrange settings tasks).2) : ∃ id, TransGen tasks.Requires id id := by
  rw [arrange] at member
  split at member
  next =>
    cases resolved : tasks.resolved with
    | ok result =>
      rw [resolved] at member
      cases member
    | error problem => exact Batch.cyclic_of_resolved_eq_error distinct resolved
  next => cases member

theorem rule_error_ne_fault (id reason other : String) :
    "Rule " ++ id ++ " evaluation failed: " ++ reason ≠ "Dependency resolution failed: " ++ other := by
  intro same
  have chars := congrArg String.toList same
  simp only [String.toList_append] at chars
  simp at chars

/-- The rules of a set are those of its drafts. -/
theorem exists_draft_of_mem {rule : Rule} (listed : rule ∈ ruleSet (drafts.filterMap (·.toRule?))) :
    ∃ draft ∈ drafts, draft.id = some rule.id ∧ draft.template = some rule.template := by
  have kept := (List.mergeSort_perm _ _).mem_iff.mp listed
  have given := (keepHighest_distinct Rule.id Rule.priority _).2 kept
  obtain ⟨draft, member, same⟩ := List.mem_filterMap.mp given
  exact ⟨draft, member, Draft.id_of_toRule? same⟩

/-- Prerequisites among the tasks of rules that their templates name are prerequisites in the graph of
the drafts. -/
theorem dependsOn_of_requires (checked : IsSetOfRules drafts) {graph : Graph (Option String)}
    (built : prerequisiteGraph drafts = .ok graph) {rule second : Rule}
    (listed : rule ∈ ruleSet (drafts.filterMap (·.toRule?)))
    (secondListed : second ∈ ruleSet (drafts.filterMap (·.toRule?)))
    (named : second.id ∈ rule.template.dependsOn) :
    graph.DependsOn (some rule.id) (some second.id) := by
  obtain ⟨draft, drafted, identified, filled⟩ := exists_draft_of_mem listed
  obtain ⟨other, otherDrafted, otherIdentified, _⟩ := exists_draft_of_mem secondListed
  rw [← identified]
  refine dependsOn_prerequisiteGraph checked.distinct built drafted filled named ?_
  rw [← otherIdentified]
  exact List.mem_map_of_mem otherDrafted

/-- An evaluation of a set of rules without errors finds a cycle only where the changes of the
subject's university close one. -/
theorem closesCycle_of_fault (checked : IsSetOfRules drafts) {rules : List Rule}
    (drafted : rules = ruleSet (drafts.filterMap (·.toRule?))) (subjectId : String)
    {reason : String} (fault : "Dependency resolution failed: " ++ reason ∈
      (evaluation settings rules subjectId context now).errors) :
    settings.universityChanges = true ∧
      (evaluation settings rules subjectId context now).ClosesCycle rules
        context.studies.universityId := by
  obtain ⟨graph, built, acyclic⟩ := checked.acyclic
  rw [Evaluation.ClosesCycle, met_evaluation]
  rw [errors_evaluation] at fault
  rcases List.mem_append.mp fault with ofRule | ofTasks
  · obtain ⟨rule, _, failed⟩ := List.mem_filterMap.mp ofRule
    obtain ⟨_, same⟩ := Rule.error?_eq_some failed
    exact (rule_error_ne_fault _ _ _ same.symm).elim
  have distinct : (rules.map (·.id)).Nodup := drafted ▸ ruleSet_distinct _
  have fresh : (tasksOf settings context now (applicable rules context)).IsFresh :=
    tasksOf_isFresh (distinct_applicable distinct)
  obtain ⟨node, loop⟩ := cyclic_of_mem_arrange fresh.distinct ofTasks
  rcases transGen_or_exists_step (fun id other => graph.DependsOn (some id) (some other)) loop with
    base | ⟨id, next, required, back, notBase⟩
  · exact (acyclic ⟨some node, base.lift some fun _ _ edge => edge⟩).elim
  obtain ⟨task, member, rfl, named, present, different⟩ := required
  obtain ⟨rule, chosen, made⟩ := isTask_of_mem_tasksOf settings context now member
  obtain ⟨other, otherMember, rfl⟩ := List.mem_map.mp present
  obtain ⟨second, secondChosen, secondMade⟩ := isTask_of_mem_tasksOf settings context now otherMember
  have listed := List.mem_of_mem_filter chosen
  have unnamed : other.ruleId ∉ rule.template.dependsOn := by
    intro base
    apply notBase
    rw [made.ruleId, secondMade.ruleId]
    rw [secondMade.ruleId] at base
    exact dependsOn_of_requires checked built (drafted ▸ listed)
      (drafted ▸ List.mem_of_mem_filter secondChosen) base
  obtain ⟨allowed, added⟩ := Rule.addsAt_of_mem (made.dependencies ▸ named) unnamed
  refine ⟨allowed, rule, listed, other.ruleId, added, ?_, made.ruleId ▸ back⟩
  exact ⟨task, member, made.ruleId, named, present, made.ruleId ▸ different⟩

end Engine

namespace Session

variable {session : Session}

theorem Extends.refl (session : Session) : session.Extends session :=
  ⟨List.prefix_refl _, List.prefix_refl _⟩

theorem Extends.trans {later last : Session} (first : session.Extends later)
    (second : later.Extends last) : session.Extends last :=
  ⟨first.rules.trans second.rules, first.settings.trans second.settings⟩

theorem extends_start (session : Session) (clock : Rat) (subjectId : String) :
    session.Extends (session.start clock subjectId) := by
  obtain ⟨cache, _, ⟨_, same⟩ | ⟨kept, _, same⟩⟩ := session.start_cases clock subjectId <;>
    rw [same] <;>
    exact ⟨List.prefix_refl _, List.prefix_refl _⟩

theorem extends_finish (session : Session) (position : Nat) (call : Call) (moment : Moment)
    (context : Outcome Context) : session.Extends (session.finish position call moment context) := by
  cases context with
  | error problem => exact ⟨List.prefix_refl _, List.prefix_refl _⟩
  | ok known =>
    have kept := session.extends_withKept moment.clock
      (Engine.evaluation session.engine.settings call.rules call.subjectId known moment.now)
      (session.provenance call known moment.now)
    exact ⟨kept.rules, kept.settings⟩

/-- No event loses rules or settings that have been in force. -/
theorem extends_step (session : Session) (event : Event) : session.Extends (session.step event) := by
  obtain same | ⟨rules, same⟩ | ⟨settings, same⟩ | ⟨subjectId, same⟩ | ⟨clock, subjectId, same⟩ |
    ⟨position, call, moment, context, _, same⟩ := session.step_cases event <;> rw [same]
  · exact .refl session
  · exact extends_withRules rfl
  · exact extends_withSettings rfl
  · exact ⟨List.prefix_refl _, List.prefix_refl _⟩
  · exact session.extends_start clock subjectId
  · exact session.extends_finish position call moment context

theorem extends_run (session : Session) (events : List Event) :
    session.Extends (session.run events) := by
  induction events generalizing session with
  | nil => exact .refl session
  | cons event rest ih => exact (session.extends_step event).trans (ih (session.step event))

/-- The rules that are loaded get the next number and keep it. -/
theorem ruleSets_run_load {settings : EngineSettings} {drafts : List Draft}
    (usable : ∀ draft ∈ drafts, draft.isUsable = true) (before after : List Event) :
    ((ofSettings settings).run (before ++ .load drafts :: after)).ruleSets[
        ((ofSettings settings).run before).rulesNow + 1]? =
      some (Engine.ruleSet (drafts.filterMap (·.toRule?))) := by
  let session := (ofSettings settings).run before
  have accepted : session.engine.load drafts = .ok _ := Engine.load_eq_ok usable
  have ran : (ofSettings settings).run (before ++ .load drafts :: after) =
      (session.step (.load drafts)).run after :=
    List.foldl_append
  obtain ⟨more, split⟩ := ((session.step (.load drafts)).extends_run after).rules
  have numbered : (session.step (.load drafts)).ruleSets =
      session.ruleSets ++ [Engine.ruleSet (drafts.filterMap (·.toRule?))] := by
    rw [step, accepted]
    rfl
  have length : session.ruleSets.length = session.rulesNow + 1 := by
    rw [ruleSets, List.length_append, List.length_singleton, rulesNow]
  rw [ran, ← split, numbered, List.append_assoc, ← length]
  simp

/-- A set of rules in which the check finds no errors gets loaded, whatever has happened before. Whatever
happens after, an answer that comes from these rules reports a cycle only if the changes of
universities were allowed and those of the subject's university close one. -/
theorem faults_of_checkSet {drafts : List Draft} {report : Report}
    (checked : checkSet drafts = .ok report) (valid : report.isValid = true)
    (settings : EngineSettings) (before after : List Event) :
    let number := ((ofSettings settings).run before).rulesNow + 1
    let session := (ofSettings settings).run (before ++ .load drafts :: after)
    let rules := Engine.ruleSet (drafts.filterMap (·.toRule?))
    session.ruleSets[number]? = some rules ∧
      ∀ answer ∈ session.answers, ∃ source, answer.IsTruthful session source ∧
        (source.rulesAt = number →
          ∀ reason, "Dependency resolution failed: " ++ reason ∈ answer.result.errors →
            ∃ allowing, session.settings[source.settingsAt]? = some allowing ∧
              allowing.universityChanges = true ∧
              answer.result.ClosesCycle rules source.context.studies.universityId) := by
  intro number session rules
  have isSet := isSetOfRules_of_checkSet checked valid
  have inForce : session.ruleSets[number]? = some rules := ruleSets_run_load isSet.usable before after
  refine ⟨inForce, fun answer member => ?_⟩
  obtain ⟨source, told⟩ :=
    (isTruthful_run settings (before ++ .load drafts :: after)).answers answer member
  refine ⟨source, told, fun numbered reason fault => ?_⟩
  have made := told.made
  rw [Provenance.evaluation?] at made
  simp only [Option.bind_eq_bind, Option.bind_eq_some_iff] at made
  obtain ⟨found, known, chosen, allowing, same⟩ := made
  obtain rfl : found = rules := Option.some.inj (known.symm.trans (numbered ▸ inForce))
  have plain : Engine.evaluation chosen rules source.subjectId source.context source.now =
      { answer.result with isKept := false } := Option.some.inj same
  have faultThere : "Dependency resolution failed: " ++ reason ∈
      (Engine.evaluation chosen rules source.subjectId source.context source.now).errors := by
    rw [plain]
    exact fault
  obtain ⟨allowed, closes⟩ := Engine.closesCycle_of_fault isSet rfl source.subjectId faultThere
  rw [plain] at closes
  exact ⟨chosen, allowing, allowed, closes⟩

end Session

namespace Engine

/-- A rule that one university puts behind the report, which itself comes behind the rule. -/
def crossing : Rule :=
  { selfRequiring with
    template := { title := "Renew the visa", changes := [("u1", { dependsOn := some ["report"] })] } }

theorem checkSet_crossing : checkSet [crossing.toDraft, requiring.toDraft] = .ok {} := by
  have found : (checkSet [crossing.toDraft, requiring.toDraft]).toOption = some {} := by
    decide +kernel
  cases checked : checkSet [crossing.toDraft, requiring.toDraft] with
  | error problem =>
    rw [checked] at found
    cases found
  | ok report =>
    rw [checked] at found
    exact congrArg Except.ok (Option.some.inj found)

/-- The engine with the crossing rule and the report. -/
def crossed : Engine :=
  { ofSettings {} with rules := [requiring, crossing] }

theorem load_crossed :
    (ofSettings {}).load [crossing.toDraft, requiring.toDraft] = .ok crossed := by
  have order : ruleSet [crossing, requiring] = [requiring, crossing] := by
    rw [ruleSet, keepHighest_of_distinct _ _ (by decide)]
    simp [List.mergeSort, List.MergeSort.Internal.splitInTwo, requiring, crossing, selfRequiring]
  exact load_toDraft (by decide) order

end Engine

namespace Session

/-- An evaluation at the university that crosses the rules, right after they have been loaded. -/
def crossedOnce : Session :=
  (ofSettings {}).run ([] ++ .load [Engine.crossing.toDraft, Engine.requiring.toDraft] ::
    [.start 0 "s1", .finish 0 Engine.morning (.ok Engine.student)])

theorem answers_crossedOnce : crossedOnce.answers.map (fun answer => (answer.result.errors,
      answer.source.map fun source => (source.rulesAt, source.context.studies.universityId))) =
    [(["Dependency resolution failed: Circular dependency detected involving task: report"],
      some (1, some "u1"))] := by
  have loaded : (ofSettings {}).step (.load [Engine.crossing.toDraft, Engine.requiring.toDraft]) =
      (ofSettings {}).withRules Engine.crossed := by
    have accepted : (ofSettings {}).engine.load [Engine.crossing.toDraft, Engine.requiring.toDraft] =
        .ok Engine.crossed := Engine.load_crossed
    rw [step, accepted]
  have ran : crossedOnce =
      ((ofSettings {}).step (.load [Engine.crossing.toDraft, Engine.requiring.toDraft])).run
        [.start 0 "s1", .finish 0 Engine.morning (.ok Engine.student)] :=
    List.foldl_cons ..
  rw [ran, loaded]
  decide +kernel

theorem faults_of_checkSet_crossing :
    checkSet [Engine.crossing.toDraft, Engine.requiring.toDraft] = .ok {} ∧
      ({} : Report).isValid = true ∧
      crossedOnce.ruleSets[1]? = some (Engine.ruleSet [Engine.crossing, Engine.requiring]) ∧
      ∃ answer ∈ crossedOnce.answers, answer.result.errors =
          ["Dependency resolution failed: Circular dependency detected involving task: report"] ∧
        answer.result.ClosesCycle (Engine.ruleSet [Engine.crossing, Engine.requiring]) (some "u1") := by
  have rules : [Engine.crossing.toDraft, Engine.requiring.toDraft].filterMap (·.toRule?) =
      [Engine.crossing, Engine.requiring] :=
    Rule.filterMap_toRule? [Engine.crossing, Engine.requiring]
  obtain ⟨inForce, faults⟩ := faults_of_checkSet Engine.checkSet_crossing rfl {} []
    [.start 0 "s1", .finish 0 Engine.morning (.ok Engine.student)]
  rw [rules] at inForce faults
  obtain ⟨answer, others, split, told, _⟩ := List.map_eq_cons_iff.mp answers_crossedOnce
  obtain ⟨errors, origin⟩ := Prod.mk.inj told
  have member : answer ∈ crossedOnce.answers := split ▸ List.mem_cons_self
  obtain ⟨source, truthful, closed⟩ := faults answer member
  rw [truthful.source_eq, Option.map_some, Option.some.injEq, Prod.mk.injEq] at origin
  obtain ⟨_, _, _, closes⟩ := closed origin.1
    "Circular dependency detected involving task: report" (by rw [errors]; decide)
  rw [origin.2] at closes
  exact ⟨Engine.checkSet_crossing, rfl, inForce, answer, member, errors, closes⟩

/-- The check finds no errors in rules of which an evaluation reports a cycle. -/
theorem checkSet_misses_crossing :
    ¬ ∀ drafts report loaded moment subjectId context result after reason,
      checkSet drafts = .ok report → report.isValid = true →
      (Engine.ofSettings {}).load drafts = .ok loaded →
      loaded.evaluate moment subjectId (.ok context) = (.ok result, after) →
      "Dependency resolution failed: " ++ reason ∉ result.errors := by
  intro sound
  refine sound _ _ _ Engine.morning "s1" Engine.student _ _
    "Circular dependency detected involving task: report" Engine.checkSet_crossing rfl
    Engine.load_crossed rfl ?_
  decide +kernel

end Session

end Obligations
