import Obligations.Document.Json
import Obligations.Document.Yaml
import Obligations.Rule.Check

/-! # Rule documents

A rule document is a list of rules, or a record with such a list and with the time of its last change.
Rules that do not tell when they were made take that time. All rules of a document are read, or none.
-/

namespace Obligations

open Obligations.Calendar Obligations.Document Obligations.Number Obligations.Schema Obligations.Text

/-- The formats of documents. -/
inductive Format where
  | yaml
  | json
deriving DecidableEq, Repr

namespace Format

/-- The format of a name; all but those of YAML name JSON. -/
def ofName (name : String) : Format :=
  if name == "yaml" || name == "yml" then .yaml else .json

end Format

def loadingFailure (source message : String) (details : Details := []) : Failure :=
  .of .loading message { source := some source, details := details }

def decode (format : Format) (content source : String) : Outcome Value :=
  let refuse := fun reason : String =>
    Outcome.fail (loadingFailure source ("Could not parse rule document" ++ reason))
  match format with
  | .yaml =>
    match Yaml.read content with
    | .ok value => .ok value
    | .error .noDate => .mishap (.yaml .noDate)
    | .error _ => refuse ""
  | .json =>
    match Json.read content with
    | .ok value => .ok value
    | .error (.numeralTooLong digits) => .mishap (.numeral digits)
    | .error .nestedTooDeep => .mishap .nestedTooDeep
    | .error fault => refuse (": " ++ fault.message content.toList)

/-- What a document says of itself and the raw rules in it. -/
def documentParts? (payload : Value) : Option (Value × List Value) :=
  match payload with
  | .list rules => some (.map [], rules)
  | .map members =>
    match members.lookup "rules" with
    | some (.list rules) =>
      some (((members.lookup "ruleSet").bind Value.truthy?).getD (.map []), rules)
    | _ => none
  | _ => none

/-- The time that the rules of a document take where they do not tell their own. -/
def lastChange (about : Value) (now : Timestamp) : Outcome Value :=
  match about with
  | .map members => .ok (((members.lookup "lastUpdated").bind Value.truthy?).getD (.text now.iso))
  | _ => .mishap .notRecord

/-- The members of a raw rule, with the times that it does not tell. -/
def withTimes (time : Value) (members : List (String × Value)) : List (String × Value) :=
  let missing := ["createdAt", "updatedAt"].filter fun name => (members.lookup name).isNone
  members ++ missing.map fun name => (name, time)

/-- The greatest number of issues that a failure tells. -/
def issueLimit : Nat := 3

/-- What a raw rule goes by where it is refused: its id, unless this cannot be printed, or its index if it has
none. -/
def rawName? (index : Nat) (members : List (String × Value)) : Option String :=
  match members.lookup "id" with
  | some id => id.shown?
  | none => some (intText index)

def readRule (source : String) (time : Value) (index : Nat) (raw : Value) : Outcome Rule :=
  match raw with
  | .map members =>
    match Rule.ofMembers (withTimes time members) with
    | .ok rule => .ok rule
    | .refused issues => do
      let shown ← .ofPrinted (rawName? index members)
      .fail (loadingFailure source
        ("Invalid rule definition " ++ shown ++ ": " ++ intText issues.length ++
          " validation errors")
        [("details", .issues (issues.take issueLimit))])
  | _ =>
    .fail (loadingFailure source ("Rule at index " ++ intText index ++ " is not an object"))

/-- The rules of a document from an index on. -/
def readRules (source : String) (time : Value) : Nat → List Value → Outcome (List Rule)
  | _, [] => .ok []
  | index, raw :: rest => do
    let rule ← readRule source time index raw
    return rule :: (← readRules source time (index + 1) rest)

def rulesOfDocument (payload : Value) (source : String) (now : Timestamp) : Outcome (List Rule) :=
  match documentParts? payload with
  | none => .fail (loadingFailure source "Rule document must contain a 'rules' list")
  | some (about, raws) => do
    let time ← lastChange about now
    let rules ← readRules source time 0 raws
    match ← errorsOfRules (rules.map (·.toDraft)) with
    | [] => return rules
    | errors =>
      .fail (loadingFailure source
        ("Rule document failed validation: " ++ joined "; " errors))

end Obligations
