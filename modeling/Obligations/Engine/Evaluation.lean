import Obligations.Condition.Evaluation
import Obligations.Subject.Context
import Obligations.Task.Batch

/-! # Evaluations

What the evaluation of rules came to for one subject: a judgement for every rule that could be judged,
the tasks that follow, and an error for everything that failed.
-/

namespace Obligations

open Obligations.Calendar

/-- What a rule came to for one subject. A task stands where all conditions of the rule are met. -/
structure Judgement where
  ruleId : String
  findings : List Finding
  task : Option Task
  evaluatedAt : Timestamp

namespace Judgement

/-- Whether all conditions of the rule are met. -/
def isMatch (judgement : Judgement) : Bool :=
  judgement.task.isSome

def toValue (judgement : Judgement) : Value :=
  .map [
    ("ruleId", .text judgement.ruleId),
    ("matched", .bool judgement.isMatch),
    ("conditionResults", .list (Finding.toValues judgement.findings)),
    ("generatedTask", .ofOption Task.toValue judgement.task),
    ("evaluatedAt", .stamp judgement.evaluatedAt),
    ("skipReason", if judgement.isMatch then .null else .text "Conditions not met")]

end Judgement

/-- How many rules were judged and met, and how many tasks followed. -/
structure Summary where
  judged : Nat
  met : Nat
  tasks : Nat
deriving DecidableEq, Repr

namespace Summary

def toValue (summary : Summary) : Value :=
  .map [("rulesEvaluated", .int summary.judged), ("rulesMatched", .int summary.met),
    ("tasksGenerated", .int summary.tasks)]

end Summary

/-- What the evaluation of rules came to for one subject. -/
structure Evaluation where
  subjectId : String
  evaluatedAt : Timestamp
  context : Context
  judgements : List Judgement
  tasks : Batch
  errors : List String
  summary : Option Summary
  /-- Whether the evaluation was kept from before. -/
  isKept : Bool := false

namespace Evaluation

def task? (evaluation : Evaluation) (id : String) : Option Task :=
  evaluation.tasks.find? (·.ruleId == id)

def toValue (evaluation : Evaluation) : Value :=
  .map [
    ("subjectId", .text evaluation.subjectId),
    ("evaluatedAt", .stamp evaluation.evaluatedAt),
    ("context", evaluation.context.toValue),
    ("ruleResults", .list (evaluation.judgements.map Judgement.toValue)),
    ("generatedTasks", .list (evaluation.tasks.map Task.toValue)),
    ("errors", .list (evaluation.errors.map .text)),
    ("performance", .ofOption Summary.toValue evaluation.summary),
    ("fromCache", .bool evaluation.isKept)]

end Evaluation

end Obligations
