import Obligations.Bundle.Extension
import Obligations.Bundle.Student
import Obligations.Bundle.Training
import Obligations.Rule.Document
import Obligations.Source.Basic

/-! # Loading from a source

What a source answers when it is asked for its rules: all of them, or one failure that names the
source.
-/

namespace Obligations

open Obligations.Calendar Obligations.Document Obligations.Number Obligations.Text

namespace Bundle

def sets : List (String × List Rule) :=
  [("f1-student-rules", students), ("opt-rules", training), ("stem-opt-rules", extension)]

/-- The directories on the way to the bundled rule sets, the innermost one first. -/
def directories : List String := ["data", "rules"]

/-- The directories above a place that names lead to, if they lead to one on the way to the bundled
rule sets. -/
def walk? : List String → List String → Option (List String)
  | above, [] => some above
  | above, name :: names =>
    if name == ".." then
      match above with
      | [] => none
      | _ :: outer => walk? outer names
    else
      let inner := name :: above
      if inner.isSuffixOf directories then walk? inner names else none

/-- The name of the rule set that a location leads to. -/
def nameAt? (location : String) : Option String :=
  let path := Path.ofText (location ++ ".json")
  if !path.root.isEmpty || walk? directories path.names.dropLast != some directories then none
  else
    let isNamed := fun entry : String × List Rule => path.names.getLast? == some (entry.1 ++ ".json")
    (sets.find? isNamed).map (·.1)

def at? (location : String) : Option (List Rule) :=
  (nameAt? location).bind fun name => sets.lookup name

end Bundle

/-- Whether a row belongs to a rule set; one without a name stands for all of them. -/
def Row.isIn (row : Row) (ruleSet : Option String) : Bool :=
  ruleSet.all fun name => name.isEmpty || row.ruleSet == name

/-- Whether a row stands before another: the higher priority first, then in the order of identities. A
missing priority is the lowest. -/
def Row.precedes (row other : Row) : Bool :=
  match row.priority, other.priority with
  | some a, some b => decide (b < a) || (a == b && decide (row.id ≤ other.id))
  | some _, none => true
  | none, some _ => false
  | none, none => decide (row.id ≤ other.id)

/-- The definitions in the active rows of a rule set, in order. -/
def definitions (ruleSet : Option String) (rows : List Row) : List Value :=
  ((rows.filter fun row => row.isActive && row.isIn ruleSet).mergeSort Row.precedes).map (·.definition)

/-- A text without a byte order mark at its start. -/
def withoutMark (content : String) : String :=
  match content.toList with
  | c :: rest => if c.toNat == 0xfeff then String.ofList rest else content
  | [] => content

namespace Shelf

/-- A failure to load from a place. -/
def refuse {α : Type} (shelf : Shelf) (message : String) : Outcome α :=
  .fail (loadingFailure shelf.key message)

/-- What a service has answered, read as JSON. -/
def answered (shelf : Shelf) : Reply → Outcome Value
  | .silence => shelf.refuse "Rule API request failed"
  | .answer status body =>
    if status < 200 || 300 ≤ status then shelf.refuse ("Rule API returned " ++ intText status)
    else
      let content := withoutMark body
      match Json.read content with
      | .ok value => .ok value
      | .error .nestedTooDeep => .mishap .nestedTooDeep
      | .error fault =>
        shelf.refuse ("Rule API returned invalid JSON: " ++ fault.message content.toList)

def fileDocument (shelf : Shelf) (path : Path) (content : Option String) : Outcome Value :=
  let missing := fun reason =>
    shelf.refuse ("Could not read rule file: " ++ reason ++ ": " ++ quoted path.text)
  match content with
  | some content => decode (.ofName path.extension) (plainLines content) shelf.key
  | none =>
    if path.isDirectory then missing "[Errno 21] Is a directory"
    else missing "[Errno 2] No such file or directory"

def document (shelf : Shelf) : Outcome Value :=
  match shelf with
  | .file path content => shelf.fileDocument path content
  | .service _ reply => shelf.answered reply
  | .table ruleSet (some rows) => .ok (.map [("rules", .list (definitions ruleSet rows))])
  | .table _ none => shelf.refuse "Database rule query failed"
  | .bundle name => shelf.refuse ("Bundled rule set not found: " ++ name)
  | .memory _ _ => .ok (.list [])

/-- The rules at a place. -/
def load (shelf : Shelf) (now : Timestamp) : Outcome (List Draft) :=
  match shelf with
  | .memory _ rules => rules
  | .bundle name =>
    match Bundle.at? name with
    | some rules => .ok (rules.map (·.toDraft))
    | none => shelf.refuse ("Bundled rule set not found: " ++ name)
  | _ => do
    let rules ← rulesOfDocument (← shelf.document) shelf.key now
    return rules.map (·.toDraft)

end Shelf

end Obligations
