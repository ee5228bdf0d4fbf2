import Obligations.Wording.Figures
import Obligations.Wording.Segment

/-! # Doubtful placeholders

Warnings about placeholders that ask for a calculated value of no known name, or for a choice that
does not have its three parts.
-/

namespace Obligations.Wording

open Obligations.Text

def warning? (placeholder : String) : Option String :=
  match placeholder.toList with
  | '#' :: name =>
    let name := String.ofList name
    if figureNames.contains name then none else some ("Unknown calculated placeholder: " ++ name)
  | '?' :: expression =>
    if (pieces ':' expression).length = 3 then none
    else some ("Malformed conditional placeholder: " ++ placeholder)
  | _ => none

/-- The warnings about the placeholders of a text. -/
def warnings (content : String) : List String :=
  (placeholders content).filterMap warning?

end Obligations.Wording
