import Obligations.Proofs.Bundle.Evaluation
import Obligations.Proofs.Engine.Replacement
import Obligations.Proofs.Rule.Document
import Obligations.Proofs.Source.Agreement

/-! # Rules merged before they are loaded

A loader merges the rules of its sources, and an engine merges the rules that it is given. Whether an engine
is given what a loader has merged or all that the sources have makes no difference to its rules. It makes one
to whether they are accepted: an engine looks at each rule that it is given, also at those that do not count
in the end. Places where rules are looked up answer with rules in which nothing is wrong.
-/

namespace Obligations

open Obligations.Calendar

section Usable

theorem Draft.priority_of_toRule? {draft : Draft} {rule : Rule} (same : draft.toRule? = some rule) :
    draft.priority = rule.priority := by
  rw [toRule?] at same
  simp only [Option.bind_eq_bind, Option.bind_eq_some_iff] at same
  obtain ⟨_, _, _, _, _, _, _, _, _, _, _, _, _, _, same⟩ := same
  cases same
  rfl

theorem Rule.IsSound.isUsable {rule : Rule} (sound : rule.IsSound) : rule.toDraft.isUsable = true := by
  obtain ⟨report, checked, none⟩ := sound
  rw [Draft.isUsable, checked]
  exact List.isEmpty_iff.mpr none

/-- Every rule of a bundled rule set is one of the bundled rules. -/
theorem Bundle.mem_rules_of_at? {name : String} {rules : List Rule} (found : at? name = some rules)
    {rule : Rule} (listed : rule ∈ rules) : rule ∈ Bundle.rules := by
  obtain ⟨set, _, found⟩ := Option.bind_eq_some_iff.mp found
  obtain ⟨before, after, split, _⟩ := List.lookup_eq_some_iff.mp found
  refine List.mem_flatMap.mpr ⟨(set, rules), ?_, listed⟩
  rw [split]
  exact List.mem_append_right _ List.mem_cons_self

namespace Shelf

variable {shelf : Shelf} {now : Timestamp} {drafts : List Draft}

/-- A place that holds a document answers with rules that pass their check. -/
theorem exists_isSound_of_load (located : shelf.IsLocated) (loaded : shelf.load now = .ok drafts)
    (other : ∀ name, shelf ≠ .bundle name) :
    ∃ rules : List Rule, drafts = rules.map (·.toDraft) ∧ ∀ rule ∈ rules, rule.IsSound := by
  have read : ∃ document, (rulesOfDocument document shelf.key now).map (·.map (·.toDraft)) = .ok drafts := by
    cases shelf with
    | memory => exact located.elim
    | bundle name => exact absurd rfl (other name)
    | file | service | table =>
      obtain ⟨document, _, read⟩ := Outcome.bind_eq_ok.mp loaded
      exact ⟨document, read⟩
  obtain ⟨document, read⟩ := read
  obtain ⟨rules, accepted, same⟩ := Outcome.bind_eq_ok.mp read
  cases same
  exact ⟨rules, rfl, (rulesOfDocument_eq_ok.mp accepted).2⟩

/-- Nothing is wrong with rules that are looked up. -/
theorem isUsable_of_load (located : shelf.IsLocated) (loaded : shelf.load now = .ok drafts) :
    ∀ draft ∈ drafts, draft.isUsable = true := by
  by_cases bundled : ∃ name, shelf = .bundle name
  · obtain ⟨name, rfl⟩ := bundled
    rw [load] at loaded
    split at loaded
    next rules found =>
      cases loaded
      rw [List.forall_mem_map]
      intro rule listed
      have bundle : rule.toDraft ∈ Bundle.drafts := List.mem_map_of_mem (Bundle.mem_rules_of_at? found listed)
      exact Bundle.isSetOfRules_drafts.usable _ bundle
    next => cases loaded
  · obtain ⟨rules, rfl, sound⟩ := exists_isSound_of_load located loaded (not_exists.mp bundled)
    rw [List.forall_mem_map]
    exact fun rule listed => (sound rule listed).isUsable

end Shelf

end Usable

namespace Engine

section Merged

variable {drafts : List Draft}

theorem forall₂_toRule?_iff {rules : List Rule} :
    List.Forall₂ (fun draft rule => draft.toRule? = some rule) drafts rules ↔
      drafts.map (·.toRule?) = rules.map some := by
  rw [← List.forall₂_eq_eq_eq, List.forall₂_map_left_iff, List.forall₂_map_right_iff]

theorem isUsable_of_mem_keepHighest (usable : ∀ draft ∈ drafts, draft.isUsable = true) :
    ∀ draft ∈ keepHighest Draft.id Draft.priority drafts, draft.isUsable = true :=
  fun draft listed => usable draft ((keepHighest_distinct Draft.id Draft.priority drafts).2 listed)

/-- The rules among drafts that are kept are the ones kept among their rules. -/
theorem filterMap_keepHighest (usable : ∀ draft ∈ drafts, draft.isUsable = true) :
    (keepHighest Draft.id Draft.priority drafts).filterMap (·.toRule?) =
      keepHighest Rule.id Rule.priority (drafts.filterMap (·.toRule?)) := by
  have each := forall₂_toRule?_iff.mpr (map_toRule?_of_isUsable usable)
  have kept : List.Forall₂ (fun draft rule => draft.toRule? = some rule)
      (keepHighest Draft.id Draft.priority drafts)
      (keepHighest Rule.id Rule.priority (drafts.filterMap (·.toRule?))) := by
    refine keepHighest.forall₂_keepHighest ?_ ?_ each
    · intro draft rule other ruleToo same sameToo
      rw [(Draft.id_of_toRule? same).1, (Draft.id_of_toRule? sameToo).1, Option.some_inj]
    · intro draft rule same
      exact Draft.priority_of_toRule? same
  rw [forall₂_toRule?_iff, map_toRule?_of_isUsable (isUsable_of_mem_keepHighest usable)] at kept
  exact List.map_injective_iff.mpr (Option.some_injective _) kept

theorem ruleSet_keepHighest (rules : List Rule) :
    ruleSet (keepHighest Rule.id Rule.priority rules) = ruleSet rules := by
  have distinct := (keepHighest_distinct Rule.id Rule.priority rules).1
  rw [ruleSet, keepHighest_of_distinct Rule.id Rule.priority distinct, ruleSet]

/-- Drafts in which nothing is wrong are loaded as what is kept of them. -/
theorem load_keepHighest (engine : Engine) (usable : ∀ draft ∈ drafts, draft.isUsable = true) :
    engine.load (keepHighest Draft.id Draft.priority drafts) = engine.load drafts := by
  rw [load_eq_ok usable, load_eq_ok (isUsable_of_mem_keepHighest usable), filterMap_keepHighest usable,
    ruleSet_keepHighest]

end Merged

/-- Merging two lists of rules in stages is merging them at once. So an engine into which all rules of the enabled
sources can be loaded gets the same rules in the same order, and altogether becomes the same, if it is given what a
loader has merged. All rules can be loaded exactly if nothing is wrong with any of them, and this is so where all
enabled sources look their rules up. -/
theorem load_merged (settings : LoaderSettings) (sources : List Source) (moment : Moment)
    (rulesOf : Source → List Draft)
    (answers : ∀ source ∈ sources, source.shelf.load moment.now = .ok (rulesOf source))
    (alike : ∀ source ∈ sources, ∀ other ∈ sources, source.key = other.key → rulesOf source = rulesOf other)
    (turns : List Nat) (engine : Engine) :
    let all := (sources.filter (·.isEnabled)).flatMap rulesOf
    (∀ first second : List Draft,
      keepHighest Draft.id Draft.priority (first ++ second) =
        keepHighest Draft.id Draft.priority
          (keepHighest Draft.id Draft.priority first ++ keepHighest Draft.id Draft.priority second)) ∧
    ∃ merged, ((Loader.ofSources settings sources).loadIn turns moment).1 = .ok merged ∧
      merged = keepHighest Draft.id Draft.priority all ∧
      ((∃ loaded, engine.load all = .ok loaded) ↔ ∀ draft ∈ all, draft.isUsable = true) ∧
      (∀ loaded, engine.load all = .ok loaded → engine.load merged = .ok loaded) ∧
      ((∀ source ∈ sources, source.isEnabled = true → source.shelf.IsLocated) →
        ∃ loaded, engine.load all = .ok loaded ∧ engine.load merged = .ok loaded) := by
  intro all
  have same : ∀ loaded, engine.load all = .ok loaded →
      engine.load (keepHighest Draft.id Draft.priority all) = .ok loaded := by
    intro loaded accepted
    rw [engine.load_keepHighest ((engine.exists_load_iff all).mp ⟨loaded, accepted⟩), accepted]
  refine ⟨keepHighest.keepHighest_append, _, Loader.loadIn_ofSources answers alike turns, rfl,
    engine.exists_load_iff all, same, fun located => ?_⟩
  have usable : ∀ draft ∈ all, draft.isUsable = true := by
    intro draft listed
    obtain ⟨source, chosen, own⟩ := List.mem_flatMap.mp listed
    obtain ⟨member, enabled⟩ := List.mem_filter.mp chosen
    exact Shelf.isUsable_of_load (located source member enabled) (answers source member) draft own
  obtain ⟨loaded, accepted⟩ := (engine.exists_load_iff all).mpr usable
  exact ⟨loaded, accepted, same loaded accepted⟩

/-- A rule that comes later and is of a higher priority than the one of the same identity before it. -/
def renewal : Rule :=
  { selfRequiring with name := "Renewal", priority := 95 }

/-- Two sources with three rules, and one that is turned off. -/
def threeSources : List Source :=
  [{ shelf := .memory "old" (.ok [selfRequiring.toDraft, requiring.toDraft]) },
    { shelf := .memory "none" (.ok []), isEnabled := false },
    { shelf := .memory "new" (.ok [renewal.toDraft]) }]

theorem load_merged_threeSources :
    (∃ merged loaded,
      ((Loader.ofSources {} threeSources).loadIn [2, 0] morning).1 = .ok merged ∧
      merged.map (·.name) = [some "Renewal", some "Visa"] ∧
      (ofSettings {}).load [selfRequiring.toDraft, requiring.toDraft, renewal.toDraft] = .ok loaded ∧
      (ofSettings {}).load merged = .ok loaded) ∧
    ∃ merged loaded,
      ((Loader.ofSources {} [{ shelf := Loader.visaTable }]).loadIn [] morning).1 = .ok merged ∧
      merged.map (·.id) = [some "visa"] ∧ (ofSettings {}).load merged = .ok loaded := by
  constructor
  · let rulesOf : Source → List Draft := fun source =>
      if source.key = "old" then [selfRequiring.toDraft, requiring.toDraft]
      else if source.key = "new" then [renewal.toDraft]
      else []
    have answers : ∀ source ∈ threeSources, source.shelf.load morning.now = .ok (rulesOf source) := by
      simp [threeSources, Shelf.load, rulesOf, Source.key, Shelf.key]
    have alike : ∀ source ∈ threeSources, ∀ other ∈ threeSources, source.key = other.key →
        rulesOf source = rulesOf other := by
      simp [threeSources, Source.key, Shelf.key]
    obtain ⟨_, merged, told, kept, accepted, same, _⟩ :=
      load_merged {} threeSources morning rulesOf answers alike [2, 0] (ofSettings {})
    obtain ⟨loaded, all⟩ := accepted.mpr (by decide +kernel)
    exact ⟨merged, loaded, told, by rw [kept]; rfl, all, same loaded all⟩
  · obtain ⟨draft, identified, read⟩ := Loader.exists_load_visaTable
    have answers : ∀ source ∈ [({ shelf := Loader.visaTable } : Source)],
        source.shelf.load morning.now = .ok [draft] := by
      simp [read]
    obtain ⟨_, merged, told, kept, _, _, located⟩ :=
      load_merged {} _ morning (fun _ => [draft]) answers (fun _ _ _ _ _ => rfl) [] (ofSettings {})
    obtain ⟨loaded, _, accepted⟩ := located (by simp [Loader.visaTable, Shelf.IsLocated])
    refine ⟨merged, loaded, told, ?_, accepted⟩
    rw [kept]
    exact congrArg (fun id => [id]) identified

/-- A rule without a name, of a lower priority than the one of the same identity. -/
def nameless : Draft :=
  { selfRequiring.toDraft with name := none, priority := 10 }

/-- An engine accepts what a loader has merged of two sources, but not all that they have: it refuses the nameless
rule, although another one counts in its place. And of two sources that go by one key a loader has the rules of
the first one only. -/
theorem not_load_concatenation_nameless :
    let named : Source := { shelf := .memory "named" (.ok [selfRequiring.toDraft]) }
    let other : Source := { shelf := .memory "other" (.ok [nameless]) }
    let twin : Source := { shelf := .memory "named" (.ok [requiring.toDraft]) }
    (((Loader.ofSources {} [named, other]).load morning).1 = .ok [selfRequiring.toDraft] ∧
      (ofSettings {}).load [selfRequiring.toDraft] = .ok { ofSettings {} with rules := [selfRequiring] } ∧
      (ofSettings {}).load ([selfRequiring.toDraft] ++ [nameless]) =
        .fail (invalidRule nameless ["Rule name is required"])) ∧
    ((Loader.ofSources {} [named, twin]).load morning).1.toOption.map (·.map (·.id)) = some [some "visa"] ∧
      (ofSettings {}).load ([selfRequiring.toDraft] ++ [requiring.toDraft]) = .ok visaAndReport ∧
      visaAndReport.rules.map (·.id) = ["report", "visa"] := by
  intro named other twin
  let rulesOf : Source → List Draft := fun source =>
    if source.key = "named" then [selfRequiring.toDraft] else [nameless]
  have answers : ∀ source ∈ [named, other], source.shelf.load morning.now = .ok (rulesOf source) := by
    simp [named, other, Shelf.load, rulesOf, Source.key, Shelf.key]
  have usable : ∀ rule ∈ [selfRequiring], rule.toDraft.isUsable = true := by
    decide +kernel
  have order : ruleSet [selfRequiring] = [selfRequiring] := List.mergeSort_singleton _
  refine ⟨⟨Loader.load_ofSources (by decide) answers (by decide), load_toDraft usable order, rfl⟩, ?_, ?_, rfl⟩
  · decide +kernel
  · exact load_visaAndReport

end Engine

end Obligations
