import Obligations.Engine.Several
import Obligations.Proofs.Engine.Steps
import Obligations.Proofs.Rule.Distinct
import Obligations.Proofs.Subject.Conversion
import Obligations.Rule.Check

/-! # Several evaluations side by side

All evaluations start before any of them ends, yet each comes to what it comes to on its own. Together
they come to nothing only where one of them ends in a problem that is no failure.
-/

namespace Obligations

open Obligations.Number

namespace Engine

variable (engine : Engine) {clock : Rat} {moment : Moment} {contextOf : String → Outcome Context}

/-- Whether evaluations would start alike in two engines, and end by the same settings. -/
structure StartsLike (engine other : Engine) (clock : Rat) : Prop where
  rules : other.rules = engine.rules
  settings : other.settings = engine.settings
  kept : ∀ subjectId, other.kept? clock subjectId = engine.kept? clock subjectId

variable {engine} in
theorem StartsLike.start {other : Engine} (alike : StartsLike engine other clock)
    (subjectId : String) :
    (other.start clock subjectId).1 = (engine.start clock subjectId).1 ∧
      StartsLike engine (other.start clock subjectId).2 clock := by
  refine ⟨by rw [start_fst, start_fst, alike.kept, alike.rules], ?_, ?_, fun another => ?_⟩
  · rw [rules_start, alike.rules]
  · rw [settings_start, alike.settings]
  · rw [kept?_start, alike.kept]

theorem startAll_concat (clock : Rat) (subjects : List String) (subjectId : String) :
    engine.startAll clock (subjects ++ [subjectId]) =
      let begun := engine.startAll clock subjects
      (begun.1 ++ [(subjectId, (begun.2.start clock subjectId).1)], (begun.2.start clock subjectId).2) := by
  rw [startAll, List.foldl_append]
  rfl

theorem finishAll_concat (begun : List Begun) (subjectId : String) (started : Started) :
    engine.finishAll moment contextOf (begun ++ [(subjectId, started)]) =
      let ended := engine.finishAll moment contextOf begun
      let last := ended.2.finish moment subjectId started (contextOf subjectId)
      (ended.1 ++ [(subjectId, last.1)], last.2) := by
  rw [finishAll, List.foldl_append]
  rfl

/-- All evaluations start as each would alone. -/
theorem startAll_spec (clock : Rat) (subjects : List String) :
    (engine.startAll clock subjects).1 =
        subjects.map (fun subjectId => (subjectId, (engine.start clock subjectId).1)) ∧
      StartsLike engine (engine.startAll clock subjects).2 clock := by
  induction subjects using List.reverseRecOn with
  | nil => exact ⟨rfl, rfl, rfl, fun _ => rfl⟩
  | append_singleton rest subjectId ih =>
    obtain ⟨begun, alike⟩ := ih
    obtain ⟨started, next⟩ := alike.start subjectId
    rw [startAll_concat]
    dsimp only
    exact ⟨by rw [begun, started, List.map_append]; rfl, next⟩

/-- The ends of evaluations do not touch each other. -/
theorem finishAll_spec {other : Engine} (settings : other.settings = engine.settings)
    (begun : List Begun) :
    (other.finishAll moment contextOf begun).1 =
        begun.map (fun (subjectId, started) =>
          (subjectId, (engine.finish moment subjectId started (contextOf subjectId)).1)) ∧
      (other.finishAll moment contextOf begun).2.settings = engine.settings := by
  induction begun using List.reverseRecOn with
  | nil => exact ⟨rfl, settings⟩
  | append_singleton rest last ih =>
    obtain ⟨ended, same⟩ := ih
    obtain ⟨subjectId, started⟩ := last
    rw [finishAll_concat]
    dsimp only
    have alone : ((other.finishAll moment contextOf rest).2.finish moment subjectId started
        (contextOf subjectId)).1 =
        (engine.finish moment subjectId started (contextOf subjectId)).1 := by
      rw [finish_fst, finish_fst, same]
    exact ⟨by rw [ended, alone, List.map_append]; rfl, by rw [settings_finish, same]⟩

/-- What the evaluation of a subject comes to on its own. -/
def alone (engine : Engine) (moment : Moment) (contextOf : String → Outcome Context)
    (subjectId : String) :
    String × Outcome Evaluation :=
  (subjectId, (engine.evaluate moment subjectId (contextOf subjectId)).1)

theorem ended_eq (moment : Moment) (contextOf : String → Outcome Context) (subjects : List String) :
    ((engine.startAll moment.clock subjects).2.finishAll moment contextOf
        (engine.startAll moment.clock subjects).1).1 =
      subjects.map (engine.alone moment contextOf) := by
  obtain ⟨begun, alike⟩ := engine.startAll_spec moment.clock subjects
  rw [(finishAll_spec engine alike.settings _).1, begun, List.map_map]
  refine List.map_congr_left fun subjectId _ => ?_
  show (subjectId, _) = engine.alone moment contextOf subjectId
  rw [alone, evaluate_fst, finish_fst, start_fst]
  cases engine.kept? moment.clock subjectId <;> rfl

/-- A further outcome counts instead of the one that its subject has, or stands behind the others. -/
theorem bySubject_concat (ended : List (String × Outcome Evaluation)) (subjectId : String)
    (outcome : Outcome Evaluation) :
    bySubject (ended ++ [(subjectId, outcome)]) =
      if (bySubject ended).any (·.1 == subjectId) then
        (bySubject ended).map fun entry => if entry.1 == subjectId then (subjectId, outcome) else entry
      else bySubject ended ++ [(subjectId, outcome)] := by
  rw [bySubject, List.foldl_append]
  rfl

/-- One outcome per subject, in the order in which the subjects come first. -/
theorem bySubject_map (outcomeOf : String → Outcome Evaluation) (subjects : List String) :
    bySubject (subjects.map fun subjectId => (subjectId, outcomeOf subjectId)) =
      (distinct subjects).map fun subjectId => (subjectId, outcomeOf subjectId) := by
  induction subjects using List.reverseRecOn with
  | nil => rfl
  | append_singleton rest subjectId ih =>
    have present : ((distinct rest).map fun other => (other, outcomeOf other)).any (·.1 == subjectId) =
        decide (subjectId ∈ distinct rest) := by
      rw [Bool.eq_iff_iff]
      simp
    rw [List.map_append, List.map_singleton, bySubject_concat, ih, present, distinct_concat]
    by_cases listed : subjectId ∈ distinct rest
    · rw [if_pos listed, if_pos (by simpa using listed), List.map_map]
      refine List.map_congr_left fun other _ => ?_
      by_cases same : other = subjectId <;> simp [same]
    · rw [if_neg listed, if_neg (by simpa using listed), List.map_append, List.map_singleton]

/-- Taking one outcome per subject does not look at what the outcomes are. -/
theorem bySubject_map_snd (f : Outcome Evaluation → Outcome Evaluation)
    (ended : List (String × Outcome Evaluation)) :
    (bySubject ended).map (Prod.map id f) = bySubject (ended.map (Prod.map id f)) := by
  induction ended using List.reverseRecOn with
  | nil => rfl
  | append_singleton rest last ih =>
    obtain ⟨subjectId, outcome⟩ := last
    have present : ((bySubject rest).map (Prod.map id f)).any (·.1 == subjectId) =
        (bySubject rest).any (·.1 == subjectId) := by
      rw [List.any_map]
      rfl
    rw [List.map_append, List.map_singleton, Prod.map_apply, bySubject_concat, bySubject_concat, ← ih,
      id_eq, present]
    split
    next =>
      rw [List.map_map, List.map_map]
      refine List.map_congr_left fun entry _ => ?_
      by_cases own : entry.1 = subjectId <;> simp [own]
    next => rw [List.map_append, List.map_singleton, Prod.map_apply, id_eq]

/-- Several subjects come to what has ended, one outcome each, or to the first problem that is no
failure. -/
theorem evaluateAll_eq (subjects : List String) :
    (engine.evaluateAll moment contextOf subjects).1 =
      let begun := engine.startAll moment.clock subjects
      let ended := (begun.2.finishAll moment contextOf begun.1).1
      match firstMishap? ended with
      | some problem => .error problem
      | none => .ok (bySubject ended) := by
  rw [evaluateAll]
  obtain ⟨begun, other⟩ := engine.startAll moment.clock subjects
  dsimp only
  obtain ⟨ended, after⟩ := other.finishAll moment contextOf begun
  dsimp only
  cases firstMishap? ended <;> rfl

/-- The evaluations of several subjects come to what each comes to on its own, or to the first problem
that is no failure. -/
theorem evaluateAll_fst (subjects : List String) :
    (engine.evaluateAll moment contextOf subjects).1 =
      match firstMishap? (subjects.map (engine.alone moment contextOf)) with
      | some problem => .error problem
      | none => .ok ((distinct subjects).map (engine.alone moment contextOf)) := by
  have merged : bySubject (subjects.map (engine.alone moment contextOf)) =
      (distinct subjects).map (engine.alone moment contextOf) := bySubject_map _ subjects
  rw [evaluateAll_eq]
  dsimp only
  rw [ended_eq, merged]

theorem firstMishap?_eq_none_iff {ended : List (String × Outcome Evaluation)} :
    firstMishap? ended = none ↔
      ∀ entry ∈ ended, ∀ problem, entry.2 = .error problem → problem.isFailure = true := by
  rw [firstMishap?, List.findSome?_eq_none_iff]
  refine forall₂_congr fun entry _ => ?_
  obtain ⟨subjectId, outcome⟩ := entry
  cases outcome with
  | ok result => simp
  | error problem => cases problem <;> simp [Problem.isFailure]

theorem mem_of_firstMishap? {ended : List (String × Outcome Evaluation)} {problem : Problem}
    (first : firstMishap? ended = some problem) :
    ∃ entry ∈ ended, entry.2 = .error problem ∧ problem.isFailure = false := by
  obtain ⟨⟨subjectId, outcome⟩, member, found⟩ := List.exists_of_findSome?_eq_some first
  refine ⟨_, member, ?_⟩
  cases outcome with
  | ok result => cases found
  | error other => cases other <;> cases found <;> exact ⟨rfl, rfl⟩

section Records

variable {recordsOf : String → Records}

/-- What is known of a subject whose records are found. -/
def contextFrom (recordsOf : String → Records) (moment : Moment) (subjectId : String) :
    Outcome Context :=
  Context.ofFetched subjectId (recordsOf subjectId).fetched moment.now.date

/-- Whether an evaluation looks at records that are stumbled over. -/
def Stumbles (engine : Engine) (moment : Moment) (recordsOf : String → Records)
    (subjectId : String) : Prop :=
  engine.kept? moment.clock subjectId = none ∧ (recordsOf subjectId).profile.isTruthy = true ∧
    (recordsOf subjectId).Stumbles moment.now.date

/-- An evaluation ends with a result or a failure of the context, unless it stumbles. -/
theorem evaluate_records_cases (moment : Moment) {subjectId : String}
    (given : (recordsOf subjectId).AreRecords) :
    (((∃ result, (engine.alone moment (contextFrom recordsOf moment) subjectId).2 = .ok result) ∨
      (∃ failure, (engine.alone moment (contextFrom recordsOf moment) subjectId).2 = .fail failure ∧
        failure.kind = .context ∧ failure.subjectId = some subjectId)) ∧
      ¬ engine.Stumbles moment recordsOf subjectId) ∨
    (∃ mishap, (engine.alone moment (contextFrom recordsOf moment) subjectId).2 = .mishap mishap) ∧
      engine.Stumbles moment recordsOf subjectId := by
  rw [alone, evaluate_fst, Stumbles]
  cases kept : engine.kept? moment.clock subjectId with
  | some evaluation => exact Or.inl ⟨Or.inl ⟨_, rfl⟩, by simp⟩
  | none =>
    have stumbles := Context.ofFetched_mishap_iff given subjectId moment.now.date
    rw [← stumbles, contextFrom]
    rcases Context.ofFetched_cases given subjectId moment.now.date with
      ⟨known, same⟩ | ⟨failure, same, about⟩ |
      ⟨mishap, same, _⟩
    · exact Or.inl ⟨Or.inl ⟨_, by rw [same]; rfl⟩, by simp [same]⟩
    · exact Or.inl ⟨Or.inr ⟨failure, by rw [same]; rfl, about⟩,
        by simp [same, Outcome.EndsIn, Outcome.fail, Problem.isMishap]⟩
    · exact Or.inr ⟨⟨mishap, by rw [same]; rfl⟩, rfl, by simp [same, Problem.isMishap]⟩

/-- Evaluations for subjects with records of whatever values end with results or failures of the
context, each its own, exactly as long as none of them stumbles. One that does ends all of them. -/
theorem evaluateAll_records (moment : Moment) (subjects : List String)
    (given : ∀ subjectId ∈ subjects, (recordsOf subjectId).AreRecords) :
    (∀ subjectId ∈ subjects,
      ((∃ result,
          (engine.evaluate moment subjectId (contextFrom recordsOf moment subjectId)).1 = .ok result) ∨
        (∃ failure,
          (engine.evaluate moment subjectId (contextFrom recordsOf moment subjectId)).1 = .fail failure ∧
          failure.kind = .context ∧ failure.subjectId = some subjectId)) ↔
      ¬ engine.Stumbles moment recordsOf subjectId) ∧
    ((∀ subjectId ∈ subjects, ¬ engine.Stumbles moment recordsOf subjectId) →
      (engine.evaluateAll moment (contextFrom recordsOf moment) subjects).1 =
        .ok ((distinct subjects).map fun subjectId =>
          (subjectId, (engine.evaluate moment subjectId (contextFrom recordsOf moment subjectId)).1))) ∧
    ((∃ subjectId ∈ subjects, engine.Stumbles moment recordsOf subjectId) →
      ∃ mishap, (engine.evaluateAll moment (contextFrom recordsOf moment) subjects).1 =
        .mishap mishap) := by
  have none_iff : firstMishap? (subjects.map (engine.alone moment (contextFrom recordsOf moment))) = none ↔
      ∀ subjectId ∈ subjects, ¬ engine.Stumbles moment recordsOf subjectId := by
    rw [firstMishap?_eq_none_iff, List.forall_mem_map]
    refine forall₂_congr fun subjectId member => ?_
    rcases engine.evaluate_records_cases moment (given subjectId member) with
      ⟨⟨_, same⟩ | ⟨_, same, _⟩, clear⟩ |
      ⟨⟨_, same⟩, stumbles⟩
    · simp [same, clear]
    · simp [same, clear, Outcome.fail, Problem.isFailure]
    · simp [same, stumbles, Outcome.mishap, Problem.isFailure]
  refine ⟨fun subjectId member => ?_, fun clear => ?_, fun stumbling => ?_⟩
  · rcases engine.evaluate_records_cases moment (given subjectId member) with
      ⟨ended, clear⟩ | ⟨⟨_, same⟩, stumbles⟩
    · exact iff_of_true ended clear
    · refine iff_of_false ?_ (not_not.mpr stumbles)
      rintro (⟨_, ended⟩ | ⟨_, ended, _⟩)
      · cases same.symm.trans ended
      · cases same.symm.trans ended
  · rw [evaluateAll_fst, none_iff.mpr clear]
    rfl
  · obtain ⟨subjectId, member, stumbles⟩ := stumbling
    rw [evaluateAll_fst]
    cases first : firstMishap? (subjects.map (engine.alone moment (contextFrom recordsOf moment))) with
    | none => exact (none_iff.mp first subjectId member stumbles).elim
    | some problem =>
      obtain ⟨entry, listed, found, other⟩ := mem_of_firstMishap? first
      obtain ⟨ended, present, rfl⟩ := List.mem_map.mp listed
      rcases engine.evaluate_records_cases moment (given ended present) with
        ⟨⟨_, same⟩ | ⟨_, same, _⟩, _⟩ |
        ⟨⟨mishap, same⟩, _⟩
      · cases same.symm.trans found
      · cases same.symm.trans found
        cases other
      · cases same.symm.trans found
        exact ⟨mishap, rfl⟩

/-- Records of subjects one of whom has a word where a number belongs. -/
def uncounted (subjectId : String) : Records :=
  if subjectId = "s1" then ⟨.map [("unemployment_days", .text "abc")], [], []⟩
  else ⟨.map [("visa_type", .text "F1")], [], []⟩

theorem areRecords_uncounted (subjectId : String) : (uncounted subjectId).AreRecords := by
  rw [uncounted]
  split <;> exact ⟨rfl, by simp, by simp⟩

theorem stumbles_uncounted : (ofSettings {}).Stumbles ⟨0, .midnight default⟩ uncounted "s1" := by
  have unread : readInt "abc".toList = .error .malformed := rfl
  have uncountable : ¬ (Value.text "abc").IsCountable := fun counted => by
    obtain ⟨n, read⟩ := counted rfl
    cases unread.symm.trans read
  exact ⟨rfl, rfl, .unemployment rfl uncountable⟩

theorem evaluateAll_uncounted :
    (∀ subjectId ∈ ["s1", "s2"], (uncounted subjectId).AreRecords) ∧
      (ofSettings {}).Stumbles ⟨0, .midnight default⟩ uncounted "s1" ∧
      ¬ (∃ result, ((ofSettings {}).evaluate ⟨0, .midnight default⟩ "s1"
        (contextFrom uncounted ⟨0, .midnight default⟩ "s1")).1 = .ok result) ∧
      ∃ mishap, ((ofSettings {}).evaluateAll ⟨0, .midnight default⟩
        (contextFrom uncounted ⟨0, .midnight default⟩) ["s1", "s2"]).1 = .mishap mishap := by
  have given : ∀ subjectId ∈ ["s1", "s2"], (uncounted subjectId).AreRecords :=
    fun subjectId _ => areRecords_uncounted subjectId
  obtain ⟨own, _, together⟩ :=
    (ofSettings {}).evaluateAll_records ⟨0, .midnight default⟩ ["s1", "s2"] given
  exact ⟨given, stumbles_uncounted,
    fun result => (own "s1" (by simp)).mp (Or.inl result) stumbles_uncounted,
    together ⟨"s1", by simp, stumbles_uncounted⟩⟩

/-- The word is no failure of the engine, and the other subject gets no evaluation. -/
theorem evaluateAll_uncounted_notNumeral :
    (∀ subjectId, (uncounted subjectId).AreRecords) ∧
      ((ofSettings {}).evaluate ⟨0, .midnight default⟩ "s1"
        (contextFrom uncounted ⟨0, .midnight default⟩ "s1")).1 = .mishap (.notNumeral "abc") ∧
      (∃ result, ((ofSettings {}).evaluate ⟨0, .midnight default⟩ "s2"
        (contextFrom uncounted ⟨0, .midnight default⟩ "s2")).1 = .ok result) ∧
      ((ofSettings {}).evaluateAll ⟨0, .midnight default⟩
        (contextFrom uncounted ⟨0, .midnight default⟩) ["s1", "s2"]).1 = .mishap (.notNumeral "abc") :=
  ⟨areRecords_uncounted, rfl, ⟨_, rfl⟩, rfl⟩

end Records

end Engine

end Obligations
