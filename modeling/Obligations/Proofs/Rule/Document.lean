import Obligations.Proofs.Rule.Recovery
import Obligations.Proofs.Source.Times

/-! # What becomes of a document

A document has its rules, all of them, in their order and each without an error, or a loading failure tells what
is wrong with it. Three kinds of documents have neither: one that gives something else than a record where it
speaks of itself, one in which the first rule that is refused has an id that cannot be printed, and one in whose
rules a pattern asks for more than patterns can do.
-/

namespace Obligations

open Obligations.Calendar Obligations.Outcome Obligations.Schema

def Pattern.Fault.isMalformed : Pattern.Fault → Bool
  | .malformed .. => true
  | _ => false

/-- Whether a requirement compares with what cannot be printed as a pattern, or is no pattern for another reason than
how it is written. -/
def Requirement.Overreaches (requirement : Requirement) : Prop :=
  requirement.comparison = .regex ∧ ∀ pattern, requirement.operand.shown? = some pattern →
    ∃ fault, Pattern.ofText pattern = .error fault ∧ fault.isMalformed = false

section Checks

variable (index : Nat) (label : String)

theorem Requirement.errors_answersIff (requirement : Requirement) :
    requirement.errors.AnswersIff (¬ requirement.Overreaches) := by
  refine AnswersIff.map ?_ _
  rw [operandFault?]
  split
  case h_7 compared =>
    cases printed : requirement.operand.shown? with
    | none =>
      exact ⟨fun fine => absurd ⟨compared, by simp [printed]⟩ fine, fun _ => (endsIn_mishap _).mpr rfl⟩
    | some pattern =>
      rw [Overreaches, compared, printed]
      simp only [ofPrinted, bind, Except.bind]
      split
      next read => exact (AnswersIff.pure _).congr (by simp [read])
      next read => exact (AnswersIff.pure _).congr (by simp [read, Pattern.Fault.isMalformed])
      next fault other read =>
        refine ⟨fun fine => absurd ⟨trivial, ?_⟩ fine, fun _ => (endsIn_mishap _).mpr rfl⟩
        rintro _ ⟨⟩
        refine ⟨fault, read, ?_⟩
        cases fault with
        | malformed kind position => exact absurd rfl (other kind position)
        | _ => rfl
  all_goals exact (AnswersIff.pure _).congr (by simp_all [Overreaches])

theorem Condition.errorsOfAll_answersIff {members : List Condition}
    (each : ∀ member ∈ members, ∀ label,
      (member.errors label).AnswersIff (∀ requirement ∈ member.requirements, ¬ requirement.Overreaches)) :
    (errorsOfAll label index members).AnswersIff
      (∀ requirement ∈ requirementsOf members, ¬ requirement.Overreaches) := by
  induction members generalizing index with
  | nil => exact (AnswersIff.pure []).congr (by simp [requirementsOf])
  | cons member rest ih =>
    obtain ⟨first, others⟩ := List.forall_mem_cons.mp each
    rw [errorsOfAll, requirementsOf]
    exact ((first _).bind fun found => (ih (index + 1) others).map (found ++ ·)).congr
      List.forall_mem_append.symm

/-- A condition can be checked unless one of its requirements overreaches, however deep it lies. -/
theorem Condition.errors_answersIff (condition : Condition) : (condition.errors label).AnswersIff
    (∀ requirement ∈ condition.requirements, ¬ requirement.Overreaches) := by
  induction condition using induction generalizing label with
  | leaf requirement =>
    rw [errors, requirements]
    exact (requirement.errors_answersIff.map _).congr (by simp)
  | group members connective negated ih =>
    rw [errors, requirements]
    exact (errorsOfAll_answersIff 0 label ih).map _

theorem Slot.errorsFrom_answersIff (conditions : List Condition) :
    (errorsFrom index (conditions.map condition)).AnswersIff
      (∀ requirement ∈ Condition.requirementsOf conditions, ¬ requirement.Overreaches) := by
  induction conditions generalizing index with
  | nil => exact (AnswersIff.pure []).congr (by simp [Condition.requirementsOf])
  | cons content rest ih =>
    rw [List.map_cons, errorsFrom, Condition.requirementsOf]
    exact ((content.errors_answersIff _).bind fun found => (ih (index + 1)).map (found ++ ·)).congr
      List.forall_mem_append.symm

theorem Template.check_answersIff (template : Template) (id : Option String) :
    (template.check id).AnswersIff (∀ requirement ∈ template.requirements, ¬ requirement.Overreaches) := by
  have each := AnswersIff.mapM (Condition.errors_answersIff "Auto-complete condition")
    (template.autoComplete.getD [])
  refine (each.map _).congr ?_
  rw [requirements, Condition.requirementsOf_eq]
  simp only [List.mem_flatMap]
  grind

/-- A rule can be checked unless one of its requirements overreaches. -/
theorem Rule.check_answersIff (rule : Rule) :
    rule.toDraft.check.AnswersIff (∀ requirement ∈ rule.requirements, ¬ requirement.Overreaches) := by
  have conditions := Slot.errorsFrom_answersIff 0 rule.conditions
  have template := rule.template.check_answersIff (some rule.id)
  exact (conditions.bind fun found => template.map _).congr List.forall_mem_append.symm

theorem errorsOfRules_answersIff (rules : List Rule) : (errorsOfRules (rules.map (·.toDraft))).AnswersIff
    (∀ rule ∈ rules, ∀ requirement ∈ rule.requirements, ¬ requirement.Overreaches) := by
  rw [errorsOfRules, List.mapM_map]
  exact (AnswersIff.mapM (fun rule => rule.check_answersIff.map _) rules).map _

end Checks

section Sound

/-- Whether a check of a rule finds no errors. -/
def Rule.IsSound (rule : Rule) : Prop :=
  ∃ report, rule.toDraft.check = .ok report ∧ report.errors = []

/-- Rules have no errors exactly if each of them has none. -/
theorem errorsOfRules_eq_nil {rules : List Rule} :
    errorsOfRules (rules.map (·.toDraft)) = .ok [] ↔ ∀ rule ∈ rules, rule.IsSound := by
  rw [errorsOfRules, List.mapM_map, bind_eq_ok]
  induction rules with
  | nil => simp [pure, Except.pure]
  | cons rule rest ih =>
    rw [List.forall_mem_cons, ← ih, List.mapM_cons]
    constructor
    · rintro ⟨found, ran, same⟩
      obtain ⟨own, checked, ran⟩ := bind_eq_ok.mp ran
      obtain ⟨others, more, joined⟩ := bind_eq_ok.mp ran
      obtain ⟨report, reported, labelled⟩ := bind_eq_ok.mp checked
      cases joined
      cases labelled
      obtain ⟨none, noneElse⟩ := List.append_eq_nil_iff.mp (Except.ok.inj same)
      exact ⟨⟨report, reported, List.map_eq_nil_iff.mp none⟩, others, more, congrArg Except.ok noneElse⟩
    · rintro ⟨⟨report, reported, none⟩, others, more, same⟩
      refine ⟨[] :: others, bind_eq_ok.mpr ⟨[], bind_eq_ok.mpr ⟨report, reported, ?_⟩, ?_⟩, same⟩
      · exact congrArg Except.ok (List.map_eq_nil_iff.mpr none)
      · exact bind_eq_ok.mpr ⟨others, more, rfl⟩

end Sound

section Readings

variable {source : String} {time raw : Value} {raws : List Value} {index : Nat} {rule : Rule}
  {rules : List Rule}

/-- Whether a raw rule is read as a rule, which takes a time where it tells none. -/
def Rule.IsReadAt (time raw : Value) (rule : Rule) : Prop :=
  ∃ members, raw = .map members ∧ ofMembers (withTimes time members) = .ok rule

/-- Whether an outcome is a failure to load from a source. -/
def Outcome.IsLoadingFailure {α : Type} (source : String) (outcome : Outcome α) : Prop :=
  ∃ message details, outcome = .fail (loadingFailure source message details)

theorem Outcome.IsLoadingFailure.bind {α β : Type} {outcome : Outcome α} (next : α → Outcome β)
    (failed : outcome.IsLoadingFailure source) : (outcome >>= next).IsLoadingFailure source := by
  obtain ⟨message, details, rfl⟩ := failed
  exact ⟨message, details, rfl⟩

theorem Outcome.IsLoadingFailure.after {α β : Type} {outcome : Outcome α} {next : α → Outcome β} {value : α}
    (answered : outcome = .ok value) (failed : (next value).IsLoadingFailure source) :
    (outcome >>= next).IsLoadingFailure source := by
  obtain ⟨message, details, same⟩ := failed
  exact ⟨message, details, by rw [answered]; exact same⟩

theorem readRule_eq_ok : readRule source time index raw = .ok rule ↔ Rule.IsReadAt time raw rule := by
  constructor
  · exact ofMembers_of_readRule
  · rintro ⟨members, rfl, read⟩
    unfold readRule
    split
    next same =>
      cases same
      rw [read]
    next apart => exact absurd rfl (apart members)

theorem readRules_eq_ok :
    readRules source time index raws = .ok rules ↔ List.Forall₂ (Rule.IsReadAt time) raws rules := by
  induction raws generalizing index rules with
  | nil =>
    rw [List.forall₂_nil_left_iff]
    exact ⟨fun read => (Except.ok.inj read).symm, fun none => congrArg Except.ok none.symm⟩
  | cons raw rest ih =>
    rw [readRules, bind_eq_ok, List.forall₂_cons_left_iff]
    constructor
    · rintro ⟨rule, first, read⟩
      obtain ⟨others, more, same⟩ := bind_eq_ok.mp read
      exact ⟨rule, others, readRule_eq_ok.mp first, ih.mp more, (Except.ok.inj same).symm⟩
    · rintro ⟨rule, others, first, more, rfl⟩
      exact ⟨rule, readRule_eq_ok.mpr first, bind_eq_ok.mpr ⟨others, ih.mpr more, rfl⟩⟩

/-- Whether a raw rule is refused and goes by an id that cannot be printed. -/
def Rule.IsUntold (time raw : Value) : Prop :=
  ∃ members id, raw = .map members ∧ (∀ rule, ofMembers (withTimes time members) ≠ .ok rule) ∧
    members.lookup "id" = some id ∧ id.isPrintable = false

theorem rawName?_eq_none_iff {members : List (String × Value)} :
    rawName? index members = none ↔ ∃ id, members.lookup "id" = some id ∧ id.isPrintable = false := by
  rw [rawName?]
  cases members.lookup "id" with
  | none => simp
  | some id => cases printable : id.isPrintable <;> simp [Value.shown?, printable]

theorem readRule_eq_unprintable (untold : Rule.IsUntold time raw) :
    readRule source time index raw = .mishap .unprintable := by
  obtain ⟨members, id, rfl, refused, given⟩ := untold
  have unnamed : rawName? index members = none := rawName?_eq_none_iff.mpr ⟨id, given⟩
  unfold readRule
  dsimp only
  cases made : Rule.ofMembers (withTimes time members) with
  | ok rule => exact absurd made (refused rule)
  | refused issues =>
    rw [unnamed]
    rfl

theorem readRule_cases (source : String) (time : Value) (index : Nat) (raw : Value) :
    (∃ rule, readRule source time index raw = .ok rule) ∨
      (readRule source time index raw).IsLoadingFailure source ∨ Rule.IsUntold time raw := by
  unfold readRule
  split
  next members =>
    split
    next rule _ => exact Or.inl ⟨rule, rfl⟩
    next issues refused =>
      cases named : rawName? index members with
      | some shown => exact Or.inr (Or.inl ⟨_, _, rfl⟩)
      | none =>
        obtain ⟨id, given⟩ := rawName?_eq_none_iff.mp named
        have unread (rule : Rule) : Rule.ofMembers (withTimes time members) ≠ .ok rule := by simp [refused]
        exact Or.inr (Or.inr ⟨members, id, rfl, unread, given⟩)
  next => exact Or.inr (Or.inl ⟨_, _, rfl⟩)

/-- Whether of raw rules the first that is not read cannot be told. -/
inductive Rule.AreUntold (time : Value) : List Value → Prop
  | here {raw : Value} {rest : List Value} (untold : IsUntold time raw) : AreUntold time (raw :: rest)
  | later {raw : Value} {rest : List Value} {rule : Rule} (read : IsReadAt time raw rule)
      (untold : AreUntold time rest) : AreUntold time (raw :: rest)

theorem readRules_eq_unprintable (untold : Rule.AreUntold time raws) :
    readRules source time index raws = .mishap .unprintable := by
  induction untold generalizing index with
  | here untold =>
    rw [readRules, readRule_eq_unprintable untold]
    rfl
  | later read _ ih =>
    rw [readRules, readRule_eq_ok.mpr read, ih]
    rfl

/-- Raw rules are read, or the first that is none is told as a loading failure, if it can be. -/
theorem readRules_cases (source : String) (time : Value) (index : Nat) (raws : List Value) :
    (∃ rules, readRules source time index raws = .ok rules) ∨
      (readRules source time index raws).IsLoadingFailure source ∨ Rule.AreUntold time raws := by
  induction raws generalizing index with
  | nil => exact Or.inl ⟨[], rfl⟩
  | cons raw rest ih =>
    rw [readRules]
    rcases readRule_cases source time index raw with ⟨rule, first⟩ | failed | untold
    · rcases ih (index + 1) with ⟨rules, more⟩ | failed | untold
      · exact Or.inl ⟨rule :: rules, bind_eq_ok.mpr ⟨rule, first, bind_eq_ok.mpr ⟨rules, more, rfl⟩⟩⟩
      · exact Or.inr (Or.inl (.after first (failed.bind _)))
      · exact Or.inr (Or.inr (.later (readRule_eq_ok.mp first) untold))
    · exact Or.inr (Or.inl (failed.bind _))
    · exact Or.inr (Or.inr (.here untold))

end Readings

section Documents

variable {payload : Value} {source : String} {now : Timestamp} {rules : List Rule}

/-- Whether the raw rules of a document are read as rules, one by one and in their order. -/
def IsReadAs (payload : Value) (now : Timestamp) (rules : List Rule) : Prop :=
  ∃ about raws time, documentParts? payload = some (about, raws) ∧ lastChange about now = .ok time ∧
    List.Forall₂ (Rule.IsReadAt time) raws rules

/-- Whether a document has neither rules nor a failure to be told: it says of itself what is no record, or the first
of its rules that is refused cannot be told, or all of its rules are read but one has a requirement that overreaches. -/
def IsBeyondReport (payload : Value) (now : Timestamp) : Prop :=
  (∃ about raws, documentParts? payload = some (about, raws) ∧ ∀ members, about ≠ .map members) ∨
    (∃ about raws time, documentParts? payload = some (about, raws) ∧ lastChange about now = .ok time ∧
      Rule.AreUntold time raws) ∨
    ∃ rules, IsReadAs payload now rules ∧
      ∃ rule ∈ rules, ∃ requirement ∈ rule.requirements, requirement.Overreaches

theorem rulesOfDocument_eq_ok : rulesOfDocument payload source now = .ok rules ↔
    IsReadAs payload now rules ∧ ∀ rule ∈ rules, rule.IsSound := by
  rw [rulesOfDocument, IsReadAs]
  cases parts : documentParts? payload with
  | none => exact iff_of_false fail_ne_ok (by simp)
  | some found =>
    obtain ⟨about, raws⟩ := found
    constructor
    · intro read
      obtain ⟨time, told, read⟩ := bind_eq_ok.mp read
      obtain ⟨made, each, read⟩ := bind_eq_ok.mp read
      obtain ⟨errors, checked, read⟩ := bind_eq_ok.mp read
      cases errors with
      | nil =>
        cases read
        exact ⟨⟨about, raws, time, rfl, told, readRules_eq_ok.mp each⟩, errorsOfRules_eq_nil.mp checked⟩
      | cons => exact absurd read fail_ne_ok
    · rintro ⟨⟨_, _, time, ⟨⟩, told, each⟩, sound⟩
      refine bind_eq_ok.mpr ⟨time, told, bind_eq_ok.mpr ⟨rules, readRules_eq_ok.mpr each, ?_⟩⟩
      exact bind_eq_ok.mpr ⟨[], errorsOfRules_eq_nil.mpr sound, rfl⟩

theorem exists_lastChange (members : List (String × Value)) (now : Timestamp) :
    ∃ time, lastChange (.map members) now = .ok time :=
  ⟨_, rfl⟩

theorem endsIn_of_isBeyondReport (beyond : IsBeyondReport payload now) :
    (rulesOfDocument payload source now).EndsIn Problem.isMishap := by
  rw [rulesOfDocument]
  rcases beyond with ⟨about, raws, parts, other⟩ | ⟨about, raws, time, parts, told, untold⟩ |
    ⟨rules, ⟨about, raws, time, parts, told, each⟩, ill⟩
  · have mishap : lastChange about now = .mishap .notRecord := by
      cases about with
      | map members => exact absurd rfl (other members)
      | _ => rfl
    simp only [parts, mishap]
    exact endsIn_bind.mpr (Or.inl ((endsIn_mishap _).mpr rfl))
  · have mishap : readRules source time 0 raws = .mishap .unprintable := readRules_eq_unprintable untold
    simp only [parts]
    refine endsIn_bind.mpr (Or.inr ⟨time, told, endsIn_bind.mpr (Or.inl ?_)⟩)
    rw [mishap]
    exact (endsIn_mishap _).mpr rfl
  · have checked : (errorsOfRules (rules.map (·.toDraft))).EndsIn Problem.isMishap := by
      refine (errorsOfRules_answersIff rules).mishap fun fine => ?_
      obtain ⟨rule, listed, requirement, own, overreaches⟩ := ill
      exact fine rule listed requirement own overreaches
    simp only [parts]
    refine endsIn_bind.mpr (Or.inr ⟨time, told, endsIn_bind.mpr (Or.inr ⟨rules, ?_, ?_⟩)⟩)
    · exact readRules_eq_ok.mpr each
    · exact endsIn_bind.mpr (Or.inl checked)

theorem rulesOfDocument_cases (told : ¬ IsBeyondReport payload now) :
    (∃ rules, rulesOfDocument payload source now = .ok rules) ∨
      (rulesOfDocument payload source now).IsLoadingFailure source := by
  rw [rulesOfDocument]
  cases parts : documentParts? payload with
  | none => exact Or.inr ⟨_, _, rfl⟩
  | some found =>
    obtain ⟨about, raws⟩ := found
    have record : ∃ members, about = .map members := by
      by_contra other
      exact told (Or.inl ⟨about, raws, parts, fun members same => other ⟨members, same⟩⟩)
    obtain ⟨members, rfl⟩ := record
    obtain ⟨time, changed⟩ := exists_lastChange members now
    rcases readRules_cases source time 0 raws with ⟨rules, each⟩ | failed | untold
    · have fine : ∀ rule ∈ rules, ∀ requirement ∈ rule.requirements, ¬ requirement.Overreaches :=
        fun rule listed requirement own overreaches =>
          told (Or.inr (Or.inr ⟨rules, ⟨_, raws, time, parts, changed, readRules_eq_ok.mp each⟩,
            rule, listed, requirement, own, overreaches⟩))
      obtain ⟨errors, checked⟩ := (errorsOfRules_answersIff rules).answer fine
      cases errors with
      | nil =>
        refine Or.inl ⟨rules, bind_eq_ok.mpr ⟨time, changed, bind_eq_ok.mpr ⟨rules, each, ?_⟩⟩⟩
        exact bind_eq_ok.mpr ⟨[], checked, rfl⟩
      | cons first rest =>
        exact Or.inr (.after changed (.after each (.after checked ⟨_, [], rfl⟩)))
    · exact Or.inr (.after changed (failed.bind _))
    · exact absurd (Or.inr (Or.inl ⟨_, raws, time, parts, changed, untold⟩)) told

/-- A document is answered with rules exactly if its raw rules are read as these, one by one and in their order,
and none of them has an error. Unless it is beyond report, it is answered so or with a loading failure. -/
theorem rulesOfDocument_spec (payload : Value) (source : String) (now : Timestamp) :
    (∀ rules, rulesOfDocument payload source now = .ok rules ↔
      IsReadAs payload now rules ∧ ∀ rule ∈ rules, rule.IsSound) ∧
    ((∃ rules, rulesOfDocument payload source now = .ok rules) ∨
      (rulesOfDocument payload source now).IsLoadingFailure source ↔ ¬ IsBeyondReport payload now) := by
  refine ⟨fun rules => rulesOfDocument_eq_ok, fun answered beyond => ?_, rulesOfDocument_cases⟩
  have ended : (rulesOfDocument payload source now).EndsIn Problem.isMishap := endsIn_of_isBeyondReport beyond
  obtain ⟨problem, ended, mishap⟩ := ended
  rcases answered with ⟨rules, read⟩ | ⟨message, details, failed⟩
  · cases read.symm.trans ended
  · cases failed.symm.trans ended
    cases mishap

/-- A document with the year in the place of what it says of itself has neither its rules, of which it has none,
nor a failure. -/
theorem not_answered_plainYear :
    let payload : Value := .map [("ruleSet", .text "2024"), ("rules", .list [])]
    let now : Timestamp := .midnight default
    ¬ ((∃ rules, rulesOfDocument payload "test" now = .ok rules ∧
          IsReadAs payload now rules ∧ ∀ rule ∈ rules, rule.IsSound) ∨
        (rulesOfDocument payload "test" now).IsLoadingFailure "test") := by
  rintro payload now (⟨rules, read, -⟩ | ⟨message, details, failed⟩)
  · cases read
  · cases failed

end Documents

end Obligations
