import Obligations.Wording.Choice
import Obligations.Wording.Figures
import Obligations.Wording.Segment

/-! # Filling in texts

Placeholders are replaced from left to right by what they ask for, once: what they are replaced by is
not looked at again. Placeholders that ask for nothing that exists are replaced by a note.
-/

namespace Obligations.Wording

open Obligations.Calendar Obligations.Text

/-- A note in the place of a placeholder. -/
def note (content : String) : String :=
  "\x7b" ++ content ++ "\x7d"

/-- Whether a calculated value is a number of days, which has a word for its absence. -/
def countsDays (name : String) : Bool :=
  "days_until_".isPrefixOf name || name == "unemployment_days_remaining"

def figureText (name : String) (value : Value) : String :=
  if countsDays name then (if value.isNull then "N/A" else value.shown) else phrase value

namespace Request

/-- The text that a placeholder is replaced by. -/
def fill (values : Value) : Request → String
  | .choice expression =>
    match Choice.ofText? expression with
    | some found => found.chosen values
    | none => note ("Invalid conditional: " ++ String.ofList expression)
  | .calculated name =>
    let name := trim (String.ofList name)
    match (values.getD "calculated").get? name with
    | some value => figureText name value
    | none => note ("Unknown calculation: " ++ name)
  | .field path => phrase (values.atPath (trim (String.ofList path)))

end Request

namespace Segment

/-- The text of a part with its placeholder replaced. -/
def fill (values : Value) : Segment → String
  | .plain c => String.singleton c
  | .placeholder inside => (Request.ofInside inside).fill values

end Segment

/-- A text with its placeholders replaced from given values. -/
def fillIn (values : Value) (content : String) : String :=
  String.join ((segments content.toList).map (·.fill values))

/-- A text with its placeholders replaced for a subject on a day. -/
def render (content : String) (context : Context) (today : Date) : Outcome String :=
  if content.isEmpty then .ok ""
  else
    match vocabulary context today with
    | .ok values => .ok (fillIn (.map values) content)
    | .error fault =>
      .fail (.of .template ("Template rendering failed: " ++ fault.message)
        { subjectId := some context.subjectId })

end Obligations.Wording
