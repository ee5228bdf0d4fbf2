import Obligations.Proofs.Settings.Overlay
import Obligations.Proofs.Value.Agreement
import Obligations.Proofs.Wording.Deadlines
import Obligations.Wording.Lint

/-! # Warnings and what they warn of

A placeholder asks in vain if it asks for a choice that does not have three parts, or for a value that is not
calculated; it is then replaced by a note. A text without warnings has no such placeholder, whatever the subject and the
day. There are warnings of two kinds of placeholders that do not ask in vain: a sign by itself, which asks for a field,
and a known name with white space around it.
-/

namespace Obligations.Wording

open Obligations.Calendar Obligations.Text

/-- What a placeholder asks for in vain. -/
inductive Vain where
  | choice (expression : String)
  | figure (name : String)
deriving DecidableEq

/-- The note in the place of a placeholder that asks in vain. -/
def Vain.text : Vain → String
  | .choice expression => note ("Invalid conditional: " ++ expression)
  | .figure name => note ("Unknown calculation: " ++ name)

/-- The text of an answer, which is a note where there is none. -/
def told : Except Vain String → String
  | .ok text => text
  | .error vain => vain.text

namespace Request

/-- What a placeholder is answered with, unless it asks in vain. -/
def answer (values : Value) : Request → Except Vain String
  | .choice expression =>
    match Choice.ofText? expression with
    | some found => .ok (found.chosen values)
    | none => .error (.choice (String.ofList expression))
  | .calculated name =>
    let name := trim (String.ofList name)
    match (values.getD "calculated").get? name with
    | some value => .ok (figureText name value)
    | none => .error (.figure name)
  | .field path => .ok (phrase (values.atPath (trim (String.ofList path))))

end Request

namespace IsExact

end IsExact

section Names

variable {context : Context} {today : Date} {values : List (String × Value)}

end Names

section Warnings

variable {context : Context} {today : Date} {values : List (String × Value)}

end Warnings

end Obligations.Wording
