import Obligations.Proofs.Engine.Tasks
import Mathlib.Logic.Function.Basic

/-! # Evaluations while an engine is changed

Between the start and the end of an evaluation other evaluations can start and end, and the rules and
the settings can be replaced. A session is an engine with the evaluations that wait for their contexts,
and with a record: which rules and settings there have been, and what every answer was made from.

Rules and settings that have been replaced are dropped together with all that is kept, but an
evaluation that is underway still ends with the rules that it took at its start, and what it comes to
is kept. So an answer comes from replaced rules exactly if it was kept by an evaluation during which
the rules were replaced; and every replacement during an evaluation can lead to one.
-/

namespace Obligations

open Obligations.Calendar

/-- What an evaluation was made from: the rules in force at its start, and the settings at its end, by
their numbers, the rules that were in force at its end, and the rest. -/
structure Provenance where
  rulesAt : Nat
  endedAt : Nat
  settingsAt : Nat
  subjectId : String
  context : Context
  now : Timestamp

/-- An evaluation that waits for its context. -/
structure Call where
  subjectId : String
  rules : List Rule
  rulesAt : Nat
  settingsAt : Nat

/-- A result with the numbers of the rules and settings that were in force when it was asked for, and
with what it was made from. -/
structure Response where
  result : Evaluation
  rulesAt : Nat
  settingsAt : Nat
  source : Option Provenance

/-- An engine in use. -/
structure Session where
  engine : Engine
  /-- The rules that have been replaced, in order. -/
  replacedRules : List (List Rule) := []
  /-- The settings that have been replaced, in order. -/
  replacedSettings : List EngineSettings := []
  underway : List Call := []
  /-- What the last evaluation that was kept under a key was made from. -/
  origins : String → Option Provenance := fun _ => none
  answers : List Response := []

/-- What can happen to an engine. -/
inductive Event where
  | load (drafts : List Draft)
  | clear
  | configure (environment : Environment) (changes : List (String × Value))
  | forget (subjectId : Option String)
  | start (clock : Rat) (subjectId : String)
  | finish (position : Nat) (moment : Moment) (context : Outcome Context)

namespace Session

/-- All rules that have been in force, those that are last. -/
def ruleSets (session : Session) : List (List Rule) :=
  session.replacedRules ++ [session.engine.rules]

/-- All settings that have been in force, those that are last. -/
def settings (session : Session) : List EngineSettings :=
  session.replacedSettings ++ [session.engine.settings]

def rulesNow (session : Session) : Nat :=
  session.replacedRules.length

def settingsNow (session : Session) : Nat :=
  session.replacedSettings.length

/-- The session with the engine after its rules have been replaced. -/
def withRules (session : Session) (engine : Engine) : Session :=
  { session with
    engine := engine
    replacedRules := session.replacedRules ++ [session.engine.rules] }

/-- The session with the engine after its settings have been replaced. -/
def withSettings (session : Session) (engine : Engine) : Session :=
  { session with
    engine := engine
    replacedSettings := session.replacedSettings ++ [session.engine.settings] }

/-- The start of an evaluation, which answers at once with what is kept. -/
def start (session : Session) (clock : Rat) (subjectId : String) : Session :=
  match session.engine.start clock subjectId with
  | (.kept result, engine) =>
    { session with
      engine := engine
      answers := session.answers ++
        [⟨result, session.rulesNow, session.settingsNow, session.origins (Engine.cacheKey subjectId)⟩] }
  | (.judging rules, engine) =>
    { session with
      engine := engine
      underway := session.underway ++ [⟨subjectId, rules, session.rulesNow, session.settingsNow⟩] }

/-- What an evaluation that ends now is made from. -/
def provenance (session : Session) (call : Call) (context : Context) (now : Timestamp) :
    Provenance where
  rulesAt := call.rulesAt
  endedAt := session.rulesNow
  settingsAt := session.settingsNow
  subjectId := call.subjectId
  context := context
  now := now

/-- The end of an evaluation. Without a context it answers nothing. -/
def finish (session : Session) (position : Nat) (call : Call) (moment : Moment)
    (context : Outcome Context) :
    Session :=
  let (outcome, engine) := session.engine.finish moment call.subjectId (.judging call.rules) context
  let after := { session with engine := engine, underway := session.underway.eraseIdx position }
  match outcome, context with
  | .ok result, .ok known =>
    let source := session.provenance call known moment.now
    { after with
      origins := if session.engine.settings.keepsResults then
          Function.update session.origins (Engine.cacheKey call.subjectId) (some source)
        else session.origins
      answers := session.answers ++ [⟨result, call.rulesAt, call.settingsAt, some source⟩] }
  | _, _ => after

/-- The session after an event; one that fails changes nothing. -/
def step (session : Session) : Event → Session
  | .load drafts =>
    match session.engine.load drafts with
    | .ok engine => session.withRules engine
    | .error _ => session
  | .clear => session.withRules session.engine.clear
  | .configure environment changes =>
    match session.engine.configure environment changes with
    | .ok engine => session.withSettings engine
    | .error _ => session
  | .forget subjectId => { session with engine := session.engine.forget subjectId }
  | .start clock subjectId => session.start clock subjectId
  | .finish position moment context =>
    match session.underway[position]? with
    | some call => session.finish position call moment context
    | none => session

def run (session : Session) (events : List Event) : Session :=
  events.foldl step session

def ofSettings (settings : EngineSettings) : Session :=
  { engine := .ofSettings settings }

/-- Whether all rules and settings of a session are still there in a later one. -/
structure Extends (session later : Session) : Prop where
  rules : session.ruleSets <+: later.ruleSets
  settings : session.settings <+: later.settings

end Session

namespace Provenance

/-- The evaluation of what was in force then. -/
def evaluation? (source : Provenance) (session : Session) : Option Evaluation := do
  let rules ← session.ruleSets[source.rulesAt]?
  let settings ← session.settings[source.settingsAt]?
  return Engine.evaluation settings rules source.subjectId source.context source.now

/-- Whether the rules were replaced while the evaluation was underway. -/
def Straddles (source : Provenance) : Prop :=
  source.rulesAt < source.endedAt

end Provenance

namespace Response

/-- Whether an answer tells truly what it was made from: rules that were in force when it was asked for
or, if it was kept, at some time before, and settings that are not older than it. -/
structure IsTruthful (answer : Response) (session : Session) (source : Provenance) : Prop where
  source_eq : answer.source = some source
  made : source.evaluation? session = some { answer.result with isKept := false }
  ordered : source.rulesAt ≤ source.endedAt
  settings : answer.settingsAt ≤ source.settingsAt
  fresh : answer.result.isKept = false → source.rulesAt = answer.rulesAt
  kept : answer.result.isKept = true → source.endedAt = answer.rulesAt

/-- Whether an answer was made from rules or settings that had been replaced when it was asked for. -/
def IsStale (answer : Response) : Prop :=
  ∃ source, answer.source = some source ∧
    (source.rulesAt < answer.rulesAt ∨ source.settingsAt < answer.settingsAt)

instance (answer : Response) : Decidable answer.IsStale :=
  match told : answer.source with
  | none => isFalse fun ⟨_, same, _⟩ => by rw [told] at same; cases same
  | some source =>
    decidable_of_iff (source.rulesAt < answer.rulesAt ∨ source.settingsAt < answer.settingsAt)
      ⟨fun old => ⟨source, told, old⟩, fun ⟨_, same, old⟩ => by rw [told] at same; cases same; exact old⟩

/-- Only what was kept can be stale, and it is if the rules were replaced while it was made. -/
theorem IsTruthful.isStale_iff {answer : Response} {session : Session} {source : Provenance}
    (truthful : answer.IsTruthful session source) :
    answer.IsStale ↔ answer.result.isKept = true ∧ source.Straddles := by
  rw [Provenance.Straddles]
  constructor
  · rintro ⟨origin, told, old⟩
    obtain rfl := Option.some.inj (truthful.source_eq.symm.trans told)
    have rulesOld : source.rulesAt < answer.rulesAt :=
      old.resolve_right (Nat.not_lt.mpr truthful.settings)
    cases kept : answer.result.isKept with
    | false => exact (Nat.ne_of_lt rulesOld (truthful.fresh kept)).elim
    | true => exact ⟨rfl, truthful.kept kept ▸ rulesOld⟩
  · rintro ⟨kept, straddles⟩
    exact ⟨source, truthful.source_eq, Or.inl (truthful.kept kept ▸ straddles)⟩

end Response

namespace Session

variable {session later : Session}

private theorem getElem?_of_extended {α : Type} {items more : List α} {position : Nat} {item : α}
    (extended : items <+: more) (found : items[position]? = some item) :
    more[position]? = some item := by
  obtain ⟨rest, rfl⟩ := extended
  obtain ⟨inside, _⟩ := List.getElem?_eq_some_iff.mp found
  rwa [List.getElem?_append_left inside]

/-- What was in force stays what it was. -/
theorem Extends.evaluation? (extended : session.Extends later) {source : Provenance}
    {result : Evaluation}
    (made : source.evaluation? session = some result) : source.evaluation? later = some result := by
  rw [Provenance.evaluation?] at made ⊢
  simp only [Option.bind_eq_bind, Option.bind_eq_some_iff] at made ⊢
  obtain ⟨rules, inForce, settings, chosen, same⟩ := made
  exact ⟨rules, getElem?_of_extended extended.rules inForce, settings,
    getElem?_of_extended extended.settings chosen, same⟩

theorem Extends.isTruthful (extended : session.Extends later) {answer : Response}
    {source : Provenance}
    (truthful : answer.IsTruthful session source) : answer.IsTruthful later source :=
  { truthful with made := extended.evaluation? truthful.made }

theorem isKept_of_evaluation? {source : Provenance} {result : Evaluation}
    (made : source.evaluation? session = some result) : result.isKept = false := by
  rw [Provenance.evaluation?] at made
  simp only [Option.bind_eq_bind, Option.bind_eq_some_iff] at made
  obtain ⟨_, _, _, _, same⟩ := made
  cases same
  rfl

/-- The record of a session is true: evaluations underway have rules that were in force, what is kept
was made from what is in force now except for the rules, and every answer is truthful. -/
structure IsTruthful (session : Session) : Prop where
  underway : ∀ call ∈ session.underway, session.ruleSets[call.rulesAt]? = some call.rules ∧
    call.settingsAt ≤ session.settingsNow
  kept : ∀ key entry, session.engine.cache.entry? key = some entry → ∃ source,
    session.origins key = some source ∧ source.evaluation? session = some entry.value ∧
      source.rulesAt ≤ source.endedAt ∧ source.endedAt = session.rulesNow ∧
        source.settingsAt = session.settingsNow
  answers : ∀ answer ∈ session.answers, ∃ source, answer.IsTruthful session source

theorem IsTruthful.answers_of_extends (truthful : session.IsTruthful)
    (extended : session.Extends later) :
    ∀ answer ∈ session.answers, ∃ source, answer.IsTruthful later source := by
  intro answer member
  obtain ⟨source, answered⟩ := truthful.answers answer member
  exact ⟨source, extended.isTruthful answered⟩

theorem rulesAt_le {call : Call} (inForce : session.ruleSets[call.rulesAt]? = some call.rules) :
    call.rulesAt ≤ session.rulesNow := by
  obtain ⟨inside, _⟩ := List.getElem?_eq_some_iff.mp inForce
  rw [ruleSets, List.length_append, List.length_singleton] at inside
  exact Nat.lt_succ_iff.mp inside

theorem extends_withRules {engine : Engine} (settings : engine.settings = session.engine.settings) :
    session.Extends (session.withRules engine) where
  rules := List.prefix_append _ _
  settings := by
    show _ <+: session.replacedSettings ++ [engine.settings]
    rw [settings]
    exact List.prefix_refl _

theorem extends_withSettings {engine : Engine} (rules : engine.rules = session.engine.rules) :
    session.Extends (session.withSettings engine) where
  rules := by
    show _ <+: session.replacedRules ++ [engine.rules]
    rw [rules]
    exact List.prefix_refl _
  settings := List.prefix_append _ _

/-- Where nothing is kept any more, the record stays true when more of it is written. -/
theorem IsTruthful.of_extends (truthful : session.IsTruthful) (extended : session.Extends later)
    (underway : later.underway = session.underway) (answers : later.answers = session.answers)
    (notEarlier : session.settingsNow ≤ later.settingsNow)
    (cleared : ∀ key, later.engine.cache.entry? key = none) :
    later.IsTruthful where
  underway call member := by
    obtain ⟨inForce, notLater⟩ := truthful.underway call (underway ▸ member)
    exact ⟨getElem?_of_extended extended.rules inForce, Nat.le_trans notLater notEarlier⟩
  kept key entry found := by
    have none := cleared key
    cases none.symm.trans found
  answers answer member := truthful.answers_of_extends extended answer (answers ▸ member)

/-- Replacing the rules drops all that is kept. -/
theorem IsTruthful.withRules (truthful : session.IsTruthful) (rules : List Rule) :
    (session.withRules
      { session.engine with rules := rules, cache := session.engine.cache.clear }).IsTruthful :=
  truthful.of_extends (extends_withRules rfl) rfl rfl (Nat.le_refl _) (Cache.entry?_clear _)

/-- So does replacing the settings. -/
theorem IsTruthful.withSettings (truthful : session.IsTruthful) (settings : EngineSettings) :
    (session.withSettings
      { session.engine with
        settings := settings
        cache := session.engine.cache.clear }).IsTruthful := by
  refine truthful.of_extends (extends_withSettings rfl) rfl rfl ?_ (Cache.entry?_clear _)
  rw [settingsNow, settingsNow, Session.withSettings, List.length_append]
  exact Nat.le_add_right _ _

/-- A cache that holds less changes nothing about what is true. -/
theorem IsTruthful.withCache (truthful : session.IsTruthful) {cache : Cache Evaluation}
    (inside : ∀ key entry, cache.entry? key = some entry →
      session.engine.cache.entry? key = some entry) :
    ({ session with engine := { session.engine with cache := cache } } : Session).IsTruthful where
  underway := truthful.underway
  kept key entry found := truthful.kept key entry (inside key entry found)
  answers := truthful.answers_of_extends ⟨List.prefix_refl _, List.prefix_refl _⟩

theorem IsTruthful.withCall (truthful : session.IsTruthful) {call : Call}
    (inForce : session.ruleSets[call.rulesAt]? = some call.rules)
    (notLater : call.settingsAt ≤ session.settingsNow) :
    ({ session with underway := session.underway ++ [call] } : Session).IsTruthful where
  underway other member := by
    rcases List.mem_append.mp member with member | member
    · exact truthful.underway other member
    · obtain rfl := List.mem_singleton.mp member
      exact ⟨inForce, notLater⟩
  kept := truthful.kept
  answers := truthful.answers_of_extends ⟨List.prefix_refl _, List.prefix_refl _⟩

theorem IsTruthful.withoutCall (truthful : session.IsTruthful) (position : Nat) :
    ({ session with underway := session.underway.eraseIdx position } : Session).IsTruthful where
  underway call member := truthful.underway call (List.mem_of_mem_eraseIdx member)
  kept := truthful.kept
  answers := truthful.answers_of_extends ⟨List.prefix_refl _, List.prefix_refl _⟩

theorem IsTruthful.withAnswer (truthful : session.IsTruthful) {answer : Response}
    {source : Provenance}
    (answered : answer.IsTruthful session source) :
    ({ session with answers := session.answers ++ [answer] } : Session).IsTruthful where
  underway := truthful.underway
  kept := truthful.kept
  answers other member := by
    rcases List.mem_append.mp member with member | member
    · obtain ⟨origin, told⟩ := truthful.answers other member
      exact ⟨origin, { told with made := told.made }⟩
    · obtain rfl := List.mem_singleton.mp member
      exact ⟨source, { answered with made := answered.made }⟩

/-- The session with an evaluation kept. -/
def withKept (session : Session) (clock : Rat) (result : Evaluation) (source : Provenance) :
    Session :=
  { session with
    engine := session.engine.keep clock result
    origins := if session.engine.settings.keepsResults then
        Function.update session.origins (Engine.cacheKey result.subjectId) (some source)
      else session.origins }

theorem extends_withKept (clock : Rat) (result : Evaluation) (source : Provenance) :
    session.Extends (session.withKept clock result source) where
  rules := by
    have same : (session.withKept clock result source).ruleSets = session.ruleSets := by
      rw [ruleSets, ruleSets, withKept, Engine.rules_keep]
    exact same ▸ List.prefix_refl _
  settings := by
    have same : (session.withKept clock result source).settings = session.settings := by
      rw [Session.settings, Session.settings, withKept, Engine.settings_keep]
    exact same ▸ List.prefix_refl _

/-- What is kept is on record with what it was made from. -/
theorem IsTruthful.withKept (truthful : session.IsTruthful) (clock : Rat) {result : Evaluation}
    {source : Provenance}
    (made : source.evaluation? session = some result) (ordered : source.rulesAt ≤ source.endedAt)
    (ended : source.endedAt = session.rulesNow)
    (settings : source.settingsAt = session.settingsNow) :
    (session.withKept clock result source).IsTruthful where
  underway call member := by
    obtain ⟨inForce, notLater⟩ := truthful.underway call member
    exact ⟨getElem?_of_extended (extends_withKept clock result source).rules inForce, notLater⟩
  kept key entry found := by
    rcases Engine.entry?_of_keep _ _ found with ⟨keeps, rfl, rfl⟩ | ⟨other, old⟩
    · exact ⟨source, by simp [Session.withKept, keeps], (extends_withKept _ _ _).evaluation? made,
        ordered, ended,
        settings⟩
    · obtain ⟨origin, known, madeBefore, rest⟩ := truthful.kept key entry old
      refine ⟨origin, ?_, (extends_withKept _ _ _).evaluation? madeBefore, rest⟩
      by_cases keeps : session.engine.settings.keepsResults = true
      · simpa [Session.withKept, keeps, Function.update_of_ne (other keeps)] using known
      · simpa [Session.withKept, keeps] using known
  answers := truthful.answers_of_extends (extends_withKept clock result source)

/-- Starting an evaluation answers with what is kept or takes the rules in force. -/
theorem start_cases (session : Session) (clock : Rat) (subjectId : String) :
    ∃ cache,
      (∀ key entry, cache.entry? key = some entry → session.engine.cache.entry? key = some entry) ∧
      ((session.engine.kept? clock subjectId = none ∧
        session.start clock subjectId =
          { session with
            engine := { session.engine with cache := cache }
            underway := session.underway ++
              [⟨subjectId, session.engine.rules, session.rulesNow, session.settingsNow⟩] }) ∨
      (∃ kept, session.engine.kept? clock subjectId = some kept ∧
        session.start clock subjectId =
          { session with
            engine := { session.engine with cache := cache }
            answers := session.answers ++
              [⟨{ kept with isKept := true }, session.rulesNow, session.settingsNow,
                session.origins (Engine.cacheKey subjectId)⟩] })) := by
  have first := session.engine.start_fst clock subjectId
  obtain ⟨cache, second, _⟩ := session.engine.start_snd clock subjectId
  refine ⟨cache, fun key entry found => ?_, ?_⟩
  · exact Engine.entry?_of_start _ clock subjectId (by rw [second]; exact found)
  · rw [start]
    cases started : session.engine.start clock subjectId with
    | mk begun engine =>
      rw [started] at first second
      obtain rfl : engine = { session.engine with cache := cache } := second
      cases kept : session.engine.kept? clock subjectId with
      | none =>
        rw [kept] at first
        obtain rfl : begun = .judging session.engine.rules := first
        exact Or.inl ⟨rfl, rfl⟩
      | some evaluation =>
        rw [kept] at first
        obtain rfl : begun = .kept { evaluation with isKept := true } := first
        exact Or.inr ⟨evaluation, rfl, rfl⟩

theorem engine_start (session : Session) (clock : Rat) (subjectId : String) :
    (session.start clock subjectId).engine = (session.engine.start clock subjectId).2 := by
  rw [start]
  split <;> next started => rw [started]

theorem rulesNow_start (session : Session) (clock : Rat) (subjectId : String) :
    (session.start clock subjectId).rulesNow = session.rulesNow := by
  rw [start]
  split <;> rfl

theorem rulesNow_finish (session : Session) (position : Nat) (call : Call) (moment : Moment)
    (context : Outcome Context) :
    (session.finish position call moment context).rulesNow = session.rulesNow := by
  cases context <;> rfl

/-- What an event can do: nothing, replace the rules or the settings together with what is kept, drop
some of what is kept, or start or end an evaluation. -/
theorem step_cases (session : Session) (event : Event) :
    session.step event = session ∨
    (∃ rules, session.step event =
      session.withRules { session.engine with rules := rules, cache := session.engine.cache.clear }) ∨
    (∃ settings, session.step event =
      session.withSettings
        { session.engine with settings := settings, cache := session.engine.cache.clear }) ∨
    (∃ subjectId, session.step event =
      { session with engine := session.engine.forget subjectId }) ∨
    (∃ clock subjectId, session.step event = session.start clock subjectId) ∨
    (∃ position call moment context, session.underway[position]? = some call ∧
      session.step event = session.finish position call moment context) := by
  cases event with
  | load drafts =>
    rw [step]
    cases accepted : session.engine.load drafts with
    | error problem => exact .inl rfl
    | ok engine =>
      obtain ⟨rules, rfl⟩ := Engine.of_load_eq_ok accepted
      exact .inr (.inl ⟨_, rfl⟩)
  | clear => exact .inr (.inl ⟨[], rfl⟩)
  | configure environment changes =>
    rw [step]
    cases accepted : session.engine.configure environment changes with
    | error problem => exact .inl rfl
    | ok engine =>
      obtain ⟨settings, rfl⟩ := Engine.of_configure_eq_ok accepted
      exact .inr (.inr (.inl ⟨settings, rfl⟩))
  | forget subjectId => exact .inr (.inr (.inr (.inl ⟨subjectId, rfl⟩)))
  | start clock subjectId => exact .inr (.inr (.inr (.inr (.inl ⟨clock, subjectId, rfl⟩))))
  | finish position moment context =>
    rw [step]
    cases found : session.underway[position]? with
    | none => exact .inl rfl
    | some call =>
      exact .inr (.inr (.inr (.inr (.inr ⟨position, call, moment, context, found, rfl⟩))))

/-- An evaluation starts with rules in force, or answers what was made since the last replacement. -/
theorem IsTruthful.start (truthful : session.IsTruthful) (clock : Rat) (subjectId : String) :
    (session.start clock subjectId).IsTruthful := by
  obtain ⟨cache, inside, ⟨_, same⟩ | ⟨kept, found, same⟩⟩ := session.start_cases clock subjectId
  · rw [same]
    exact (truthful.withCache inside).withCall (by simp [ruleSets, rulesNow]) (Nat.le_refl _)
  · rw [same]
    obtain ⟨entry, held, rfl⟩ := Engine.entry?_of_kept? _ _ _ found
    obtain ⟨source, origin, made, ordered, ended, settings⟩ := truthful.kept _ entry held
    refine (truthful.withCache inside).withAnswer ⟨origin, ?_, ordered, Nat.le_of_eq settings.symm,
      by simp, fun _ => ended⟩
    have plain := isKept_of_evaluation? made
    exact made.trans (congrArg some (by rw [← plain]))

/-- An evaluation ends with the rules of its start and the settings in force. -/
theorem IsTruthful.finish (truthful : session.IsTruthful) (position : Nat) {call : Call}
    (member : call ∈ session.underway) (moment : Moment) (context : Outcome Context) :
    (session.finish position call moment context).IsTruthful := by
  cases context with
  | error problem => exact truthful.withoutCall position
  | ok known =>
    obtain ⟨inForce, notLater⟩ := truthful.underway call member
    let source := session.provenance call known moment.now
    let result := Engine.evaluation session.engine.settings call.rules call.subjectId known moment.now
    have made : source.evaluation? session = some result := by
      have chosen : session.settings[session.settingsNow]? = some session.engine.settings := by
        simp [Session.settings, settingsNow]
      rw [Provenance.evaluation?]
      show (session.ruleSets[call.rulesAt]? >>= fun rules =>
        session.settings[session.settingsNow]? >>= _) = _
      rw [inForce, chosen]
      rfl
    have ordered : source.rulesAt ≤ source.endedAt := rulesAt_le inForce
    have kept := truthful.withKept moment.clock made ordered rfl rfl
    have answered : (Response.mk result call.rulesAt call.settingsAt (some source)).IsTruthful
        (session.withKept moment.clock result source) source :=
      ⟨rfl, (extends_withKept _ _ _).evaluation? made, ordered, notLater, fun _ => rfl,
        fun kept => nomatch kept⟩
    exact (kept.withoutCall position).withAnswer { answered with made := answered.made }

/-- Every event leaves the record true. -/
theorem IsTruthful.step (truthful : session.IsTruthful) (event : Event) :
    (session.step event).IsTruthful := by
  obtain same | ⟨rules, same⟩ | ⟨settings, same⟩ | ⟨subjectId, same⟩ | ⟨clock, subjectId, same⟩ |
    ⟨position, call, moment, context, found, same⟩ := session.step_cases event <;> rw [same]
  · exact truthful
  · exact truthful.withRules rules
  · exact truthful.withSettings settings
  · exact truthful.withCache fun _ _ found => Engine.entry?_of_forget _ found
  · exact truthful.start clock subjectId
  · exact truthful.finish position (List.mem_of_getElem? found) moment context

theorem isTruthful_ofSettings (settings : EngineSettings) : (ofSettings settings).IsTruthful where
  underway call member := by cases member
  kept key entry found := by cases found
  answers answer member := by cases member

/-- The record of every session is true. -/
theorem isTruthful_run (settings : EngineSettings) (events : List Event) :
    ((ofSettings settings).run events).IsTruthful := by
  suffices kept : ∀ session : Session, session.IsTruthful → (session.run events).IsTruthful from
    kept _ (isTruthful_ofSettings settings)
  induction events with
  | nil => exact fun _ truthful => truthful
  | cons event rest ih => exact fun session truthful => ih _ (truthful.step event)

/-- The end of an evaluation with a context keeps what it comes to and answers it. -/
theorem finish_ok (session : Session) (position : Nat) (call : Call) (moment : Moment)
    (known : Context) :
    session.finish position call moment (.ok known) =
      let result := Engine.evaluation session.engine.settings call.rules call.subjectId known moment.now
      let source := session.provenance call known moment.now
      { session.withKept moment.clock result source with
        underway := session.underway.eraseIdx position
        answers := session.answers ++ [⟨result, call.rulesAt, call.settingsAt, some source⟩] } :=
  rfl

/-- The rules are replaced only together with what is kept. -/
theorem eq_withRules_of_step {event : Event}
    (replaced : session.rulesNow < (session.step event).rulesNow) :
    ∃ rules, session.step event =
      session.withRules { session.engine with rules := rules, cache := session.engine.cache.clear } := by
  obtain same | replacement | ⟨settings, same⟩ | ⟨subjectId, same⟩ | ⟨clock, subjectId, same⟩ |
    ⟨position, call, moment, context, _, same⟩ := session.step_cases event
  · exact (replaced.ne' (by rw [same])).elim
  · exact replacement
  · exact (replaced.ne' (by rw [same]; rfl)).elim
  · exact (replaced.ne' (by rw [same]; rfl)).elim
  · exact (replaced.ne' (by rw [same, rulesNow_start])).elim
  · exact (replaced.ne' (by rw [same, rulesNow_finish])).elim

/-- No event changes how much can be kept. -/
theorem capacity_step (session : Session) (event : Event) :
    (session.step event).engine.cache.capacity = session.engine.cache.capacity := by
  obtain same | ⟨rules, same⟩ | ⟨settings, same⟩ | ⟨subjectId, same⟩ | ⟨clock, subjectId, same⟩ |
    ⟨position, call, moment, context, _, same⟩ := session.step_cases event <;> rw [same]
  · rfl
  · rfl
  · exact session.engine.capacity_forget subjectId
  · rw [engine_start, Engine.capacity_start]
  · cases context with
    | error problem => rfl
    | ok known => exact session.engine.capacity_keep moment.clock _

theorem capacity_run (settings : EngineSettings) (events : List Event) :
    ((ofSettings settings).run events).engine.cache.capacity = 1000 := by
  suffices same : ∀ session : Session,
      (session.run events).engine.cache.capacity = session.engine.cache.capacity from same _
  induction events with
  | nil => exact fun _ => rfl
  | cons event rest ih => exact fun session => (ih _).trans (session.capacity_step event)

/-- Where there is room, what an evaluation comes to is answered to the next one for the same subject. -/
theorem exists_answer_of_finish {position : Nat} {call : Call}
    (found : session.underway[position]? = some call)
    (keeps : session.engine.settings.keepsResults = true)
    (room : (session.engine.cache.entries.length : Int) < session.engine.cache.capacity)
    {moment : Moment}
    (lasts : (Lifetime.ofBinary64 session.engine.settings.resultSeconds).Lasts moment.clock moment.clock)
    (known : Context) :
    ∃ answer ∈ (session.run
        [.finish position moment (.ok known), .start moment.clock call.subjectId]).answers,
      answer.result.isKept = true ∧ answer.rulesAt = session.rulesNow ∧
        answer.source = some (session.provenance call known moment.now) := by
  let result := Engine.evaluation session.engine.settings call.rules call.subjectId known moment.now
  let ended := session.finish position call moment (.ok known)
  have kept : ended.engine.kept? moment.clock call.subjectId = some result :=
    session.engine.kept?_keep_self moment.clock result keeps room lasts
  have origin : ended.origins (Engine.cacheKey call.subjectId) =
      some (session.provenance call known moment.now) := by
    simp [ended, finish_ok, withKept, keeps, Engine.evaluation]
  have ran : session.run [.finish position moment (.ok known), .start moment.clock call.subjectId] =
      ended.start moment.clock call.subjectId := by
    show (session.step (.finish position moment (.ok known))).start moment.clock call.subjectId = _
    rw [step, found]
  rw [ran]
  obtain ⟨cache, _, ⟨none, _⟩ | ⟨evaluation, _, same⟩⟩ :=
    ended.start_cases moment.clock call.subjectId
  · cases none.symm.trans kept
  · rw [same]
    exact ⟨_, List.mem_append_right _ (List.mem_singleton_self _), rfl, rfl, origin⟩

/-- So a replacement of the rules during an evaluation leads to a stale answer. -/
theorem exists_isStale_of_replacement (truthful : session.IsTruthful)
    (capacity : 0 < session.engine.cache.capacity)
    {position : Nat} {call : Call} (found : session.underway[position]? = some call)
    {replacement : Event}
    (replaced : session.rulesNow < (session.step replacement).rulesNow)
    (keeps : session.engine.settings.keepsResults = true)
    {moment : Moment}
    (lasts : (Lifetime.ofBinary64 session.engine.settings.resultSeconds).Lasts moment.clock moment.clock)
    (known : Context) :
    ∃ answer ∈ (session.run
        [replacement, .finish position moment (.ok known), .start moment.clock call.subjectId]).answers,
      answer.IsStale := by
  have earlier : call.rulesAt < (session.step replacement).rulesNow :=
    Nat.lt_of_le_of_lt (rulesAt_le (truthful.underway call (List.mem_of_getElem? found)).1) replaced
  obtain ⟨rules, same⟩ := eq_withRules_of_step replaced
  let after := session.withRules { session.engine with rules := rules, cache := session.engine.cache.clear }
  have waits : after.underway[position]? = some call := found
  obtain ⟨answer, member, _, asked, told⟩ :=
    exists_answer_of_finish waits keeps capacity lasts known
  refine ⟨answer, ?_, _, told, Or.inl ?_⟩
  · show answer ∈ ((session.step replacement).run _).answers
    rwa [same]
  · rw [asked]
    rwa [same] at earlier

/-- An answer is stale exactly if it was kept by an evaluation during which the rules were replaced; and as
long as results are kept, every replacement of the rules during an evaluation can lead to a stale answer. -/
theorem isStale_iff_straddles (settings : EngineSettings) (events : List Event) :
    let session := (ofSettings settings).run events
    (∀ answer ∈ session.answers, ∃ source, answer.IsTruthful session source ∧
      (answer.IsStale ↔ answer.result.isKept = true ∧ source.Straddles)) ∧
    (∀ position call replacement moment known, session.underway[position]? = some call →
      session.rulesNow < (session.step replacement).rulesNow →
      session.engine.settings.keepsResults = true →
      (Lifetime.ofBinary64 session.engine.settings.resultSeconds).Lasts moment.clock moment.clock →
      ∃ answer ∈ (session.run
          [replacement, .finish position moment (.ok known), .start moment.clock call.subjectId]).answers,
        answer.IsStale) := by
  have truthful := isTruthful_run settings events
  have capacity := capacity_run settings events
  refine ⟨fun answer member => ?_,
    fun position call replacement moment known found replaced keeps lasts => ?_⟩
  · obtain ⟨source, told⟩ := truthful.answers answer member
    exact ⟨source, told, told.isStale_iff⟩
  · exact exists_isStale_of_replacement truthful (by omega) found replaced keeps lasts known

/-- An evaluation during which the rules are cleared, and one after it. -/
def reportedOnceMore : List Event :=
  [.load [Engine.requiring.toDraft], .start 0 "s1", .clear, .finish 0 Engine.morning (.ok Engine.student),
    .start 0 "s1"]

/-- The second evaluation starts when there are no rules, and answers with the task of a rule. -/
theorem isStale_reportedOnceMore :
    let session := (ofSettings {}).run reportedOnceMore
    session.engine.rules.length = 0 ∧
      session.answers.map (fun answer => (answer.result.isKept, answer.result.tasks.ids)) =
        [(false, ["report"]), (true, ["report"])] ∧
      ∃ answer ∈ session.answers, answer.IsStale := by
  decide +kernel

end Session

end Obligations
