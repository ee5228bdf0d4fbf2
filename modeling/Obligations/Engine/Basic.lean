import Obligations.Cache
import Obligations.Clock
import Obligations.Engine.Judging
import Obligations.Rule.Check
import Obligations.Settings.Environment

/-! # The engine

An engine holds a set of rules, settings and the evaluations that it keeps. An evaluation has two
steps, between which the subject's context is asked for: at its start the rules are taken as they are
and a kept evaluation is looked for; at its end the rules are judged and the evaluation is kept. In
between the engine may be changed.
-/

namespace Obligations

open Obligations.Calendar Obligations.Text

/-- A set of rules, settings, and the evaluations that are kept. -/
structure Engine where
  settings : EngineSettings
  /-- The rules, those of the highest priority first. -/
  rules : List Rule
  cache : Cache Evaluation

/-- How an evaluation goes on after its start: it ends with what was kept, or the rules as they were
are judged. -/
inductive Started where
  | kept (evaluation : Evaluation)
  | judging (rules : List Rule)

namespace Engine

/-- An engine without rules. -/
def ofSettings (settings : EngineSettings) : Engine :=
  ⟨settings, [], .empty (.ofBinary64 settings.resultSeconds)⟩

def invalidRule (draft : Draft) (errors : List String) : Failure :=
  .of .definition ("Invalid rule " ++ draft.idText ++ ": " ++ joined "; " errors)
    { problems := errors, ruleId := draft.id }

/-- The rule that a draft is, as long as nothing is wrong with it. -/
def accept (draft : Draft) : Outcome (Option Rule) := do
  let report ← draft.check
  if report.isValid then return draft.toRule? else Outcome.fail (invalidRule draft report.errors)

/-- One rule per identity, those of the highest priority first. -/
def ruleSet (rules : List Rule) : List Rule :=
  (keepHighest Rule.id Rule.priority rules).mergeSort fun rule other => decide (other.priority ≤ rule.priority)

/-- The engine with other rules, and without anything kept. -/
def load (engine : Engine) (drafts : List Draft) : Outcome Engine := do
  let rules ← drafts.mapM accept
  return { engine with rules := ruleSet (rules.filterMap id), cache := engine.cache.clear }

/-- The engine without rules, and without anything kept. -/
def clear (engine : Engine) : Engine :=
  { engine with rules := [], cache := engine.cache.clear }

/-- The engine with changed settings, and without anything kept. -/
def configure (engine : Engine) (environment : Environment) (changes : List (String × Value)) :
    Outcome Engine := do
  let settings ← engineSection.read environment (Value.overlay engine.settings.members changes)
  return { engine with settings := settings, cache := engine.cache.clear }

def cacheKey (subjectId : String) : String :=
  "evaluation:" ++ subjectId

/-- The engine without what is kept for a subject, or for all of them. -/
def forget (engine : Engine) (subjectId : Option String) : Engine :=
  { engine with
    cache := match subjectId with
      | none => engine.cache.clear
      | some id => engine.cache.erase (cacheKey id) }

def rule? (engine : Engine) (id : String) : Option Rule :=
  engine.rules.find? (·.id == id)

/-- The rules among given ones that are for a subject. -/
def applicable (rules : List Rule) (context : Context) : List Rule :=
  rules.filter fun rule => rule.applies context.visa context.phase context.studies.universityId

/-- What came of judging rules one by one. -/
structure Verdicts where
  judgements : List Judgement := []
  errors : List String := []

/-- The verdicts with the one of one more rule. -/
def Verdicts.add (settings : EngineSettings) (context : Context) (now : Timestamp)
    (verdicts : Verdicts) (rule : Rule) : Verdicts :=
  match rule.judge settings context now with
  | .ok judgement => { verdicts with judgements := verdicts.judgements ++ [judgement] }
  | .error problem => { verdicts with errors := verdicts.errors ++ [problem.message] }

/-- The verdicts of rules in their order. -/
def judgeAll (settings : EngineSettings) (context : Context) (now : Timestamp) (rules : List Rule) :
    Verdicts :=
  rules.foldl (Verdicts.add settings context now) {}

/-- Tasks in the order of their prerequisites. Where there is none they stay as they are, with an
error. -/
def arrange (settings : EngineSettings) (tasks : Batch) : Batch × List String :=
  if settings.dependencies && !tasks.isEmpty then
    match tasks.resolved with
    | .ok resolved => (resolved, [])
    | .error problem => (tasks, ["Dependency resolution failed: " ++ problem.message])
  else (tasks, [])

def evaluation (settings : EngineSettings) (rules : List Rule) (subjectId : String)
    (context : Context) (now : Timestamp) : Evaluation :=
  let chosen := applicable rules context
  let verdicts := judgeAll settings context now chosen
  let (arranged, faults) := arrange settings (verdicts.judgements.filterMap (·.task))
  let tasks := arranged.take settings.taskLimit
  { subjectId := subjectId
    evaluatedAt := now
    context := context
    judgements := verdicts.judgements
    tasks := tasks
    errors := verdicts.errors ++ faults
    summary := if settings.summarizes then
        some ⟨chosen.length, (verdicts.judgements.filter (·.isMatch)).length, tasks.length⟩
      else none }

/-- The start of an evaluation. -/
def start (engine : Engine) (clock : Rat) (subjectId : String) : Started × Engine :=
  if engine.settings.keepsResults then
    match engine.cache.get clock (cacheKey subjectId) with
    | (some kept, cache) => (.kept { kept with isKept := true }, { engine with cache := cache })
    | (none, cache) => (.judging engine.rules, { engine with cache := cache })
  else (.judging engine.rules, engine)

/-- The engine with an evaluation kept, if its settings ask for that. -/
def keep (engine : Engine) (clock : Rat) (evaluation : Evaluation) : Engine :=
  if engine.settings.keepsResults then
    { engine with
      cache := engine.cache.set clock (cacheKey evaluation.subjectId) evaluation
        (some (.ofBinary64 engine.settings.resultSeconds)) }
  else engine

/-- The end of an evaluation. -/
def finish (engine : Engine) (moment : Moment) (subjectId : String) (started : Started)
    (context : Outcome Context) : Outcome Evaluation × Engine :=
  match started with
  | .kept evaluation => (.ok evaluation, engine)
  | .judging rules =>
    match context with
    | .error problem => (.error problem, engine)
    | .ok context =>
      let result := evaluation engine.settings rules subjectId context moment.now
      (.ok result, engine.keep moment.clock result)

def evaluate (engine : Engine) (moment : Moment) (subjectId : String) (context : Outcome Context) :
    Outcome Evaluation × Engine :=
  let (started, engine) := engine.start moment.clock subjectId
  engine.finish moment subjectId started context

/-- What the evaluation of a rule of the engine comes to for a subject. -/
def judgeRule (engine : Engine) (now : Timestamp) (id : String) (context : Context) :
    Outcome Judgement :=
  match engine.rule? id with
  | some rule => rule.judge engine.settings context now
  | none => .mishap .notRecord

end Engine

end Obligations
