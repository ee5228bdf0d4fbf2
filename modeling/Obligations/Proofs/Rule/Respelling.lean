import Obligations.Proofs.Rule.Document
import Obligations.Proofs.Rule.Spelling

/-! # Documents in two spellings

A document whose rules are respelled has the same rules, or fails in the same way, provided that the times of its
rules are read to the same. These are looked for by their names on the wire only, so a rule that tells them by
their internal names takes the time of its document instead.
-/

namespace Obligations

open Obligations.Calendar Obligations.Outcome Obligations.Schema

section Wire

variable (table : List Key) {α β : Type}

/-- A detail with the names in its issues as on the wire. -/
def Detail.inWire : Detail → Detail
  | .issues found => .issues (found.map (·.inWire table))
  | detail => detail

/-- A problem with the names in its issues as on the wire. -/
def Problem.inWire : Problem → Problem
  | .failure reported =>
    .failure { reported with details := reported.details.map fun (name, detail) => (name, detail.inWire table) }
  | .issues found => .issues (found.map (·.inWire table))
  | problem => problem

/-- An outcome with the names in its issues as on the wire. -/
def Outcome.inWire : Outcome α → Outcome α
  | .ok value => .ok value
  | .error problem => .error (problem.inWire table)

variable {table}

theorem Outcome.inWire_bind (outcome : Outcome α) (next : α → Outcome β) :
    Outcome.inWire table (outcome >>= next) =
      (Outcome.inWire table outcome >>= fun value => Outcome.inWire table (next value)) := by
  cases outcome <;> rfl

theorem Outcome.inWire_eq_ok {outcome : Outcome α} {value : α} :
    outcome.inWire table = .ok value ↔ outcome = .ok value := by
  cases outcome <;> simp [inWire]

theorem Details.map_note (change : Detail → Detail) (name : String) (detail : Detail) (details : Details) :
    (details.note name detail).map (fun (name, detail) => (name, change detail)) =
      note name (change detail) (details.map fun (name, detail) => (name, change detail)) := by
  induction details with
  | nil => rfl
  | cons first rest ih =>
    obtain ⟨other, old⟩ := first
    rw [note, List.map_cons, note]
    split
    · rfl
    · rw [List.map_cons, ih]

/-- A failure to load tells its source in the same words in both spellings. -/
theorem inWire_loadingFailure (source message : String) (details : Details) :
    Outcome.inWire table (fail (loadingFailure source message details) : Outcome α) =
      fail (loadingFailure source message (details.map fun (name, detail) => (name, detail.inWire table))) := by
  have noted : (Details.noteText "source" (some source) details).map
        (fun (name, detail) => (name, Detail.inWire table detail)) =
      Details.noteText "source" (some source) (details.map fun (name, detail) => (name, detail.inWire table)) := by
    rw [Details.noteText, Details.noteText]
    split
    · rfl
    · exact Details.map_note _ _ _ _
  have whole : (loadingFailure source message details).details = Details.noteText "source" (some source) details := rfl
  rw [fail, inWire, Problem.inWire, whole, noted]
  rfl

end Wire

section Times

/-- The times that are looked for in a raw rule, as they are read. -/
def timesOf (time : Value) : Value → List (Checked (Option Timestamp))
  | .map members => timeNames.map (timeOf time members)
  | _ => []

/-- The times that are looked for in the raw rules of a document, as they are read. -/
def timesIn (payload : Value) (now : Timestamp) : List (List (Checked (Option Timestamp))) :=
  match documentParts? payload with
  | some (about, raws) =>
    match lastChange about now with
    | .ok time => raws.map (timesOf time)
    | .error _ => []
  | none => []

theorem Rule.IsReadAt.timesOf_eq {time raw : Value} {rule : Rule} (read : IsReadAt time raw rule) :
    timesOf time raw = [.ok rule.createdAt, .ok rule.updatedAt] := by
  obtain ⟨members, rfl, read⟩ := read
  have parts := ofMembers_eq_ok.mp read
  have created := parts.createdAt
  have updated := parts.updatedAt
  rw [optional_withTimes (by decide), Checked.under_eq_ok] at created updated
  rw [← created, ← updated]
  rfl

/-- The rules of a document have the times that are looked for in it. -/
theorem timesIn_eq {payload : Value} {source : String} {now : Timestamp} {rules : List Rule}
    (read : rulesOfDocument payload source now = .ok rules) :
    timesIn payload now = rules.map fun rule => [.ok rule.createdAt, .ok rule.updatedAt] := by
  obtain ⟨⟨about, raws, time, parts, told, each⟩, -⟩ := rulesOfDocument_eq_ok.mp read
  simp only [timesIn, parts, told]
  clear parts read
  induction each with
  | nil => rfl
  | cons first _ ih => rw [List.map_cons, List.map_cons, ih, first.timesOf_eq]

end Times

namespace Rule

/-- Documents: lists of rules, and records with such a list. What a record says of itself stays. -/
def AreRespelled (depth : Nat) (payload other : Value) : Prop :=
  (respelling depth).listOf.Relates payload other ∨
    (Respelling.record [⟨.plain "rules", (respelling depth).listOf⟩]).Relates payload other

theorem respelling_refl (depth : Nat) (value : Value) : (respelling depth).Relates value value :=
  Or.inl rfl

end Rule

section Documents

variable {depth index : Nat} {source : String} {now : Timestamp} {payload other time raw rawToo : Value}
  {raws rawsToo : List Value}

theorem readRule_respelled (relates : (Rule.respelling depth).Relates raw rawToo)
    (timed : timesOf time raw = timesOf time rawToo) :
    Outcome.inWire modelKeys (readRule source time index raw) =
      Outcome.inWire modelKeys (readRule source time index rawToo) := by
  rcases relates with rfl | ⟨members, others, rfl, rfl, respelled⟩
  · rfl
  have times : ∀ name ∈ timeNames, timeOf time members name = timeOf time others name :=
    List.map_inj_left.mp timed
  have made := Rule.ofMembers_respelled respelled times
  have id : members.lookup "id" = others.lookup "id" := by
    have listed : ⟨.plain "id", .none⟩ ∈ Rule.parts depth := by simp [Rule.parts, Key.part]
    rcases respelled.lookup_cases (Rule.suits_parts depth) listed with ⟨none, noneToo⟩ |
      ⟨value, other, looked, lookedToo, same⟩
    · rw [none, noneToo]
    · rw [looked, lookedToo, show value = other from same]
  unfold readRule
  dsimp only
  cases own : Rule.ofMembers (withTimes time members) with
  | ok rule =>
    cases ownToo : Rule.ofMembers (withTimes time others) with
    | ok ruleToo =>
      rw [own, ownToo] at made
      cases made
      rfl
    | refused => rw [own, ownToo] at made; cases made
  | refused issues =>
    cases ownToo : Rule.ofMembers (withTimes time others) with
    | ok => rw [own, ownToo] at made; cases made
    | refused issuesToo =>
      rw [own, ownToo] at made
      have same : issues.map (·.inWire modelKeys) = issuesToo.map (·.inWire modelKeys) := Checked.refused.inj made
      have count : issues.length = issuesToo.length := by
        simpa using congrArg List.length same
      have named : rawName? index members = rawName? index others := by rw [rawName?, rawName?, id]
      simp only [Outcome.inWire_bind, inWire_loadingFailure, List.map_cons, List.map_nil, Detail.inWire,
        List.map_take, named, same, count]

theorem readRules_respelled (each : List.Forall₂ (Rule.respelling depth).Relates raws rawsToo)
    (timed : raws.map (timesOf time) = rawsToo.map (timesOf time)) :
    Outcome.inWire modelKeys (readRules source time index raws) =
      Outcome.inWire modelKeys (readRules source time index rawsToo) := by
  induction each generalizing index with
  | nil => rfl
  | cons first _ ih =>
    rw [List.map_cons, List.map_cons, List.cons.injEq] at timed
    simp only [readRules, Outcome.inWire_bind, readRule_respelled first timed.1, ih timed.2]

/-- What a document says of itself stays, and its raw rules are respelled one by one. -/
theorem documentParts?_respelled (respelled : Rule.AreRespelled depth payload other) :
    (documentParts? payload = none ∧ documentParts? other = none) ∨
      ∃ about raws rawsToo, documentParts? payload = some (about, raws) ∧
        documentParts? other = some (about, rawsToo) ∧
        List.Forall₂ (Rule.respelling depth).Relates raws rawsToo := by
  have same : ∀ parts : Option (Value × List Value), (parts = none ∧ parts = none) ∨
      ∃ about raws rawsToo, parts = some (about, raws) ∧ parts = some (about, rawsToo) ∧
        List.Forall₂ (Rule.respelling depth).Relates raws rawsToo := by
    intro parts
    cases parts with
    | none => exact Or.inl ⟨rfl, rfl⟩
    | some parts =>
      exact Or.inr ⟨_, _, _, rfl, rfl, List.forall₂_same.mpr fun raw _ => Rule.respelling_refl depth raw⟩
  rcases respelled with (rfl | ⟨raws, rawsToo, rfl, rfl, each⟩) | (rfl | ⟨members, others, rfl, rfl, respelled⟩)
  · exact same _
  · exact Or.inr ⟨_, _, _, rfl, rfl, each⟩
  · exact same _
  · have suits : Suits [] [Key.plain "rules"] := by decide
    have about : members.lookup "ruleSet" = others.lookup "ruleSet" := by
      refine respelled.lookup_eq fun part listed => ?_
      rw [List.mem_singleton.mp listed]
      show (Key.plain "rules").goesBy "ruleSet" = false
      decide
    rcases respelled.lookup_cases suits List.mem_cons_self with ⟨none, noneToo⟩ |
      ⟨value, content, looked, lookedToo, relates⟩
    · exact Or.inl ⟨by rw [documentParts?, none], by rw [documentParts?, noneToo]⟩
    · rw [documentParts?, documentParts?, looked, lookedToo, about]
      rcases relates with rfl | ⟨raws, rawsToo, rfl, rfl, each⟩
      · exact same _
      · exact Or.inr ⟨_, _, _, rfl, rfl, each⟩

/-- Documents in two spellings come to the same, provided that the times that are looked for in them do. -/
theorem inWire_rulesOfDocument (respelled : Rule.AreRespelled depth payload other)
    (timed : timesIn payload now = timesIn other now) :
    Outcome.inWire modelKeys (rulesOfDocument payload source now) =
      Outcome.inWire modelKeys (rulesOfDocument other source now) := by
  rcases documentParts?_respelled respelled with ⟨none, noneToo⟩ |
    ⟨about, raws, rawsToo, parts, partsToo, each⟩
  · rw [rulesOfDocument, rulesOfDocument, none, noneToo]
  rw [timesIn, timesIn, parts, partsToo] at timed
  simp only [rulesOfDocument, parts, partsToo, Outcome.inWire_bind]
  cases changed : lastChange about now with
  | error problem => rfl
  | ok time =>
    simp only [changed] at timed
    show (Outcome.inWire modelKeys (readRules source time 0 raws) >>= _) = _
    rw [readRules_respelled each timed]
    rfl

/-- Documents in two spellings have the same rules or fail in the same way, up to the names of members in what a
failure tells, whenever the times that are looked for in them are read to the same. Where one has rules, the other
has the same rules in no other case. -/
theorem rulesOfDocument_respelled (respelled : Rule.AreRespelled depth payload other) (source : String)
    (now : Timestamp) :
    (timesIn payload now = timesIn other now →
      Outcome.inWire modelKeys (rulesOfDocument payload source now) =
        Outcome.inWire modelKeys (rulesOfDocument other source now)) ∧
    ∀ rules, rulesOfDocument payload source now = .ok rules →
      (rulesOfDocument other source now = .ok rules ↔ timesIn payload now = timesIn other now) := by
  refine ⟨inWire_rulesOfDocument respelled, fun rules read => ⟨fun readToo => ?_, fun timed => ?_⟩⟩
  · rw [timesIn_eq read, timesIn_eq readToo]
  · have alike : Outcome.inWire modelKeys (rulesOfDocument payload source now) =
        Outcome.inWire modelKeys (rulesOfDocument other source now) := inWire_rulesOfDocument respelled timed
    rw [read] at alike
    exact Outcome.inWire_eq_ok.mp alike.symm

end Documents

/-- The template of a rule in a document, with a choice between the two names of each key. -/
def visitTemplate (name : Key → String) : List (String × Value) :=
  [(name titleKey, .text "Visit the office")]

/-- A rule in a document, with a choice between the two names of each key. -/
def visit (name : Key → String) : List (String × Value) :=
  [("id", .text "visit"), ("name", .text "Visit"), (name ⟨"ruleGroup", "rule_group"⟩, .text "travel"),
    (name ⟨"phase", "phases"⟩, .text "general"), (name ⟨"visaTypes", "visa_types"⟩, .list [.text "F1"]),
    ("conditions", .list [.map [("field", .text "userId"), ("operator", .text "exists")]]),
    (name ⟨"taskTemplate", "task_template"⟩, .map (visitTemplate name)),
    (name ⟨"createdAt", "created_at"⟩, .text "2023-05-01T00:00:00")]

/-- All names but that of a time are the internal ones. -/
def mixedName (key : Key) : String :=
  if key.wire = "createdAt" then key.wire else key.internal

theorem areRespelled_visit {name : Key → String} (named : ∀ key : Key, key.goesBy (name key) = true)
    (once : ∀ part ∈ Rule.parts 0, part.key.IsSpelledOnce (visit name))
    (onceInside : ∀ part ∈ Template.parts 0, part.key.IsSpelledOnce (visitTemplate name)) :
    Rule.AreRespelled 0 (.list [.map (visit Key.wire)]) (.list [.map (visit name)]) := by
  have wire : ∀ key : Key, key.goesBy key.wire = true := fun key => by simp [Key.goesBy]
  have renamed : ∀ {parts : List Part} (part : Part) {value other : Value}, part ∈ parts →
      part.content.Relates value other → RespelledMember parts (part.key.wire, value) (name part.key, other) :=
    fun part _ _ listed relates => .part listed (wire part.key) (named part.key) relates
  have kept : ∀ {parts : List Part} (part : Part) {value : Value}, part ∈ parts →
      part.content.Relates value value → RespelledMember parts (part.key.wire, value) (part.key.wire, value) :=
    fun part _ listed same => .part listed (wire part.key) (wire part.key) same
  have inside : (Template.respelling 0).Relates (.map (visitTemplate Key.wire)) (.map (visitTemplate name)) :=
    Or.inr ⟨_, _, rfl, rfl, .cons (renamed titleKey.part (by simp [Template.parts]) rfl) .nil, by decide, onceInside⟩
  refine Or.inl (Or.inr ⟨_, _, rfl, rfl, .cons (Or.inr ⟨_, _, rfl, rfl, ?_, by decide, once⟩) .nil⟩)
  exact .cons (kept (Key.plain "id").part (by simp [Rule.parts]) rfl) <|
    .cons (kept (Key.plain "name").part (by simp [Rule.parts]) rfl) <|
    .cons (renamed (Key.mk "ruleGroup" "rule_group").part (by simp [Rule.parts]) rfl) <|
    .cons (renamed (Key.mk "phase" "phases").part (by simp [Rule.parts]) rfl) <|
    .cons (renamed (Key.mk "visaTypes" "visa_types").part (by simp [Rule.parts]) rfl) <|
    .cons (kept ⟨.plain "conditions", (Condition.respelling 0).listOf⟩ (by simp [Rule.parts]) (Or.inl rfl)) <|
    .cons (renamed ⟨⟨"taskTemplate", "task_template"⟩, Template.respelling 0⟩ (by simp [Rule.parts]) inside) <|
    .cons (renamed (Key.mk "createdAt" "created_at").part (by simp [Rule.parts]) rfl) .nil

theorem areRespelled_mixedName :
    Rule.AreRespelled 0 (.list [.map (visit Key.wire)]) (.list [.map (visit mixedName)]) := by
  refine areRespelled_visit (fun key => ?_) (by decide) (by decide)
  rw [mixedName]
  split <;> simp [Key.goesBy]

/-- A rule that tells its time by the name on the wire, and all else by internal names, is the same rule. -/
theorem rulesOfDocument_respelled_mixedName : ∃ rules,
    rulesOfDocument (.list [.map (visit Key.wire)]) "test" (.midnight default) = .ok rules ∧
      rulesOfDocument (.list [.map (visit mixedName)]) "test" (.midnight default) = .ok rules ∧ rules.length = 1 := by
  have checked : (rulesOfDocument (.list [.map (visit Key.wire)]) "test" (.midnight default)).toOption.map
      (·.length) = some 1 := by decide +kernel
  obtain ⟨rules, read, one⟩ := Option.map_eq_some_iff.mp checked
  rw [toOption_eq_some] at read
  have same := (rulesOfDocument_respelled areRespelled_mixedName "test" (.midnight default)).2 rules read
  exact ⟨rules, read, same.mpr rfl, one⟩

/-- A rule that tells its time by the internal name too is another rule, with the time at which it is loaded. -/
theorem not_same_internalName :
    Rule.AreRespelled 0 (.list [.map (visit Key.wire)]) (.list [.map (visit Key.internal)]) ∧
      ∃ rules others, rulesOfDocument (.list [.map (visit Key.wire)]) "test" (.midnight default) = .ok rules ∧
        rulesOfDocument (.list [.map (visit Key.internal)]) "test" (.midnight default) = .ok others ∧
        rules.map (·.createdAt) ≠ others.map (·.createdAt) := by
  refine ⟨areRespelled_visit (fun key => by simp [Key.goesBy]) (by decide) (by decide), ?_⟩
  have checked : (rulesOfDocument (.list [.map (visit Key.wire)]) "test" (.midnight default)).toOption.map
      (·.map (·.createdAt)) = some [some (.midnight ⟨2023, 5, 1, by decide⟩)] := by decide +kernel
  have checkedToo : (rulesOfDocument (.list [.map (visit Key.internal)]) "test" (.midnight default)).toOption.map
      (·.map (·.createdAt)) = some [some (.midnight default)] := by decide +kernel
  obtain ⟨rules, read, told⟩ := Option.map_eq_some_iff.mp checked
  obtain ⟨others, readToo, toldToo⟩ := Option.map_eq_some_iff.mp checkedToo
  rw [toOption_eq_some] at read readToo
  refine ⟨rules, others, read, readToo, ?_⟩
  rw [told, toldToo]
  decide +kernel

end Obligations
