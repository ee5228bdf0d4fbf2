import Obligations.Engine.Evaluation

/-! # Stores of tasks

The tasks of an evaluation can be handed to a store, which may refuse them.
-/

namespace Obligations

/-- A store of tasks: why it refuses all of them, if it does, and what it was handed. -/
structure Store where
  refusal : Option String := none
  saved : List (String × Batch) := []

namespace Evaluation

/-- A failure to save the tasks of an evaluation. -/
def notSaved {α : Type} (evaluation : Evaluation) (reason : String) : Outcome α :=
  .fail (.of .task reason { subjectId := some evaluation.subjectId })

/-- The store with the tasks of an evaluation; there has to be one that does not refuse them. -/
def save (evaluation : Evaluation) (store : Option Store) : Outcome Store :=
  match store with
  | none => evaluation.notSaved "No task store configured"
  | some store =>
    match store.refusal with
    | some reason => evaluation.notSaved ("Saving tasks failed: " ++ reason)
    | none => .ok { store with saved := store.saved ++ [(evaluation.subjectId, evaluation.tasks)] }

end Evaluation

end Obligations
