import Obligations.Engine.Basic

/-! # Evaluating several subjects

The evaluations of several subjects run side by side: all of them are started before any of them ends.
A failure for one subject does not touch the others, but any other problem ends all of them.
-/

namespace Obligations.Engine

/-- A subject with the start of its evaluation. -/
abbrev Begun := String × Started

/-- The starts of the evaluations of subjects, in their order. -/
def startAll (engine : Engine) (clock : Rat) (subjects : List String) : List Begun × Engine :=
  subjects.foldl (fun (begun, engine) subjectId =>
    let (started, engine) := engine.start clock subjectId
    (begun ++ [(subjectId, started)], engine)) ([], engine)

/-- The ends of evaluations, in the order of their starts. -/
def finishAll (engine : Engine) (moment : Moment) (contextOf : String → Outcome Context)
    (begun : List Begun) : List (String × Outcome Evaluation) × Engine :=
  begun.foldl (fun (ended, engine) (subjectId, started) =>
    let (outcome, engine) := engine.finish moment subjectId started (contextOf subjectId)
    (ended ++ [(subjectId, outcome)], engine)) ([], engine)

/-- What is no failure among outcomes, if there is such a problem. -/
def firstMishap? (ended : List (String × Outcome Evaluation)) : Option Problem :=
  ended.findSome? fun (_, outcome) =>
    match outcome with
    | .ok _ => none
    | .error (.failure _) => none
    | .error problem => some problem

/-- One outcome per subject, at the place where the subject came first; of several the last counts. -/
def bySubject (ended : List (String × Outcome Evaluation)) : List (String × Outcome Evaluation) :=
  ended.foldl (fun outcomes (subjectId, outcome) =>
    if outcomes.any (·.1 == subjectId) then
      outcomes.map fun entry => if entry.1 == subjectId then (subjectId, outcome) else entry
    else outcomes ++ [(subjectId, outcome)]) []

/-- The evaluations of several subjects. -/
def evaluateAll (engine : Engine) (moment : Moment) (contextOf : String → Outcome Context)
    (subjects : List String) : Outcome (List (String × Outcome Evaluation)) × Engine :=
  let (begun, engine) := engine.startAll moment.clock subjects
  let (ended, engine) := engine.finishAll moment contextOf begun
  match firstMishap? ended with
  | some problem => (.error problem, engine)
  | none => (.ok (bySubject ended), engine)

end Obligations.Engine
