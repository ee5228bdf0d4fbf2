import Obligations.Proofs.Outcome
import Obligations.Proofs.Rule.Form
import Obligations.Source.Loading

/-! # Loading at different times

Rules that do not tell when they were made take the time at which they are loaded. Nothing else about them
depends on it.
-/

namespace Obligations

open Obligations.Calendar Obligations.Schema

/-- A draft without the times at which it was made and changed. -/
def Draft.untimed (draft : Draft) : Draft :=
  { draft with createdAt := none, updatedAt := none }

def timeNames : List String := ["createdAt", "updatedAt"]

theorem lookup_withTimes {name : String} (other : name ∉ timeNames) (time : Value)
    (members : List (String × Value)) : (withTimes time members).lookup name = members.lookup name := by
  let told := (timeNames.filter fun name => (members.lookup name).isNone).map fun name => (name, time)
  have absent : told.lookup name = none := by
    refine List.lookup_eq_none_iff.mpr fun member listed => ?_
    obtain ⟨known, inside, rfl⟩ := List.mem_map.mp listed
    have apart : name ≠ known := fun same => other (same ▸ (List.mem_filter.mp inside).1)
    simpa using apart
  calc (members ++ told).lookup name = (members.lookup name).or (told.lookup name) := List.lookup_append
    _ = members.lookup name := by rw [absent, Option.or_none]

section Members

variable {α : Type} {key : Key} {reader : Reader α} {fallback first second : α} {time other : Value}
  {members : List (String × Value)}

theorem find?_withTimes (untimed : key.wire ∉ timeNames ∧ key.internal ∉ timeNames) :
    key.find? (withTimes time members) = key.find? members := by
  rw [Key.find?, lookup_withTimes untimed.1, lookup_withTimes untimed.2]
  rfl

/-- A member that tells no time is read in the same way at all times. -/
theorem eq_of_required (read : key.required reader (withTimes time members) = .ok first)
    (reread : key.required reader (withTimes other members) = .ok second)
    (untimed : key.wire ∉ timeNames ∧ key.internal ∉ timeNames) : first = second := by
  rw [Key.required_congr (find?_withTimes untimed)] at read reread
  exact Checked.ok.inj (read.symm.trans reread)

theorem eq_of_withDefault (read : key.withDefault fallback reader (withTimes time members) = .ok first)
    (reread : key.withDefault fallback reader (withTimes other members) = .ok second)
    (untimed : key.wire ∉ timeNames ∧ key.internal ∉ timeNames) : first = second := by
  rw [Key.withDefault_congr (find?_withTimes untimed)] at read reread
  exact Checked.ok.inj (read.symm.trans reread)

end Members

/-- What is read of a rule besides its times does not depend on the time. -/
theorem Rule.untimed_eq {time other : Value} {members : List (String × Value)} {rule again : Rule}
    (read : Rule.ofMembers (withTimes time members) = .ok rule)
    (reread : Rule.ofMembers (withTimes other members) = .ok again) :
    rule.toDraft.untimed = again.toDraft.untimed := by
  have first := ofMembers_eq_ok.mp read
  have second := ofMembers_eq_ok.mp reread
  have id := eq_of_required first.id second.id (by decide)
  have name := eq_of_required first.name second.name (by decide)
  have description := eq_of_withDefault first.description second.description (by decide)
  have group := eq_of_required first.group second.group (by decide)
  have phases := eq_of_required first.phases second.phases (by decide)
  have visaTypes := eq_of_required first.visaTypes second.visaTypes (by decide)
  have conditions := eq_of_required first.conditions second.conditions (by decide)
  have template := eq_of_required first.template second.template (by decide)
  have priority := eq_of_withDefault first.priority second.priority (by decide)
  have isActive := eq_of_withDefault first.isActive second.isActive (by decide)
  have version := eq_of_withDefault first.version second.version (by decide)
  have university := eq_of_withDefault first.university second.university (by decide)
  have tags := eq_of_withDefault first.tags second.tags (by decide)
  simp only [toDraft, Draft.untimed, *]

section Documents

variable {source : String}

theorem ofMembers_of_readRule {time raw : Value} {index : Nat} {rule : Rule}
    (read : readRule source time index raw = .ok rule) :
    ∃ members, raw = .map members ∧ Rule.ofMembers (withTimes time members) = .ok rule := by
  unfold readRule at read
  split at read
  next members =>
    cases made : Rule.ofMembers (withTimes time members) with
    | ok found =>
      rw [made] at read
      exact ⟨members, rfl, made.trans (congrArg Checked.ok (Except.ok.inj read))⟩
    | refused issues =>
      rw [made] at read
      obtain ⟨_, -, failed⟩ := Outcome.bind_eq_ok.mp read
      exact absurd failed Outcome.fail_ne_ok
  next => exact absurd read Outcome.fail_ne_ok

/-- The rules of a document agree up to the time that they take where they do not tell their own. -/
theorem untimed_of_readRules {time other : Value} {raws : List Value} {index : Nat}
    {rules again : List Rule} (read : readRules source time index raws = .ok rules)
    (reread : readRules source other index raws = .ok again) :
    rules.map (·.toDraft.untimed) = again.map (·.toDraft.untimed) := by
  induction raws generalizing index rules again with
  | nil =>
    cases read
    cases reread
    rfl
  | cons raw rest ih =>
    obtain ⟨rule, first, read⟩ := Outcome.bind_eq_ok.mp read
    obtain ⟨others, more, same⟩ := Outcome.bind_eq_ok.mp read
    obtain ⟨ruleToo, firstToo, reread⟩ := Outcome.bind_eq_ok.mp reread
    obtain ⟨othersToo, moreToo, sameToo⟩ := Outcome.bind_eq_ok.mp reread
    cases same
    cases sameToo
    obtain ⟨members, rfl, made⟩ := ofMembers_of_readRule first
    obtain ⟨_, sameRaw, madeToo⟩ := ofMembers_of_readRule firstToo
    cases sameRaw
    rw [List.map_cons, List.map_cons, Rule.untimed_eq made madeToo, ih more moreToo]

theorem exists_readRules {payload : Value} {now : Timestamp} {rules : List Rule}
    (read : rulesOfDocument payload source now = .ok rules) :
    ∃ about raws time, documentParts? payload = some (about, raws) ∧
      readRules source time 0 raws = .ok rules := by
  rw [rulesOfDocument] at read
  split at read
  next => exact absurd read Outcome.fail_ne_ok
  next about raws parts =>
    obtain ⟨time, _, read⟩ := Outcome.bind_eq_ok.mp read
    obtain ⟨found, made, read⟩ := Outcome.bind_eq_ok.mp read
    obtain ⟨errors, _, read⟩ := Outcome.bind_eq_ok.mp read
    cases errors with
    | nil =>
      cases read
      exact ⟨about, raws, time, parts, made⟩
    | cons => exact absurd read Outcome.fail_ne_ok

theorem untimed_of_rulesOfDocument {payload : Value} {now later : Timestamp} {rules again : List Rule}
    (read : rulesOfDocument payload source now = .ok rules)
    (reread : rulesOfDocument payload source later = .ok again) :
    rules.map (·.toDraft.untimed) = again.map (·.toDraft.untimed) := by
  obtain ⟨about, raws, time, parts, made⟩ := exists_readRules read
  obtain ⟨aboutToo, rawsToo, timeToo, partsToo, madeToo⟩ := exists_readRules reread
  cases parts.symm.trans partsToo
  exact untimed_of_readRules made madeToo

end Documents

/-- What a place has besides times does not depend on the time at which it is asked. -/
theorem Shelf.untimed_of_load {shelf : Shelf} {now later : Timestamp} {drafts again : List Draft}
    (loaded : shelf.load now = .ok drafts) (reloaded : shelf.load later = .ok again) :
    drafts.map Draft.untimed = again.map Draft.untimed := by
  have documented : (do
        let rules ← rulesOfDocument (← shelf.document) shelf.key now
        return rules.map (·.toDraft) : Outcome (List Draft)) = .ok drafts →
      (do
        let rules ← rulesOfDocument (← shelf.document) shelf.key later
        return rules.map (·.toDraft) : Outcome (List Draft)) = .ok again →
      drafts.map Draft.untimed = again.map Draft.untimed := by
    intro read reread
    obtain ⟨payload, found, read⟩ := Outcome.bind_eq_ok.mp read
    obtain ⟨rules, made, same⟩ := Outcome.bind_eq_ok.mp read
    obtain ⟨payloadToo, foundToo, reread⟩ := Outcome.bind_eq_ok.mp reread
    obtain ⟨rulesToo, madeToo, sameToo⟩ := Outcome.bind_eq_ok.mp reread
    cases found.symm.trans foundToo
    cases same
    cases sameToo
    rw [List.map_map, List.map_map]
    exact untimed_of_rulesOfDocument made madeToo
  cases shelf with
  | memory key rules =>
    cases loaded.symm.trans reloaded
    rfl
  | bundle name =>
    cases loaded.symm.trans reloaded
    rfl
  | file | service | table => exact documented loaded reloaded

/-- A table has the rules that are read of its rows, provided that they pass their check. -/
theorem Shelf.load_table {ruleSet : Option String} {rows : List Row} {rules : List Rule} {now : Timestamp}
    (read : readRules (table ruleSet (some rows)).key (.text now.iso) 0 (definitions ruleSet rows) = .ok rules)
    (sound : errorsOfRules (rules.map (·.toDraft)) = .ok []) :
    (table ruleSet (some rows)).load now = .ok (rules.map (·.toDraft)) := by
  have parts : documentParts? (.map [("rules", .list (definitions ruleSet rows))]) =
      some (.map [], definitions ruleSet rows) := rfl
  have loaded : rulesOfDocument (.map [("rules", .list (definitions ruleSet rows))])
      (table ruleSet (some rows)).key now = .ok rules := by
    rw [rulesOfDocument, parts]
    refine Outcome.bind_eq_ok.mpr ⟨.text now.iso, rfl, ?_⟩
    refine Outcome.bind_eq_ok.mpr ⟨rules, read, ?_⟩
    exact Outcome.bind_eq_ok.mpr ⟨[], sound, rfl⟩
  exact Outcome.bind_eq_ok.mpr ⟨_, rfl, Outcome.bind_eq_ok.mpr ⟨rules, loaded, rfl⟩⟩

end Obligations
