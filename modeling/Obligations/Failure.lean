import Obligations.Document.YamlScalar
import Obligations.Offset.Grammar
import Obligations.Pattern.Fault
import Obligations.Schema.Issue
import Obligations.Value.Shown

/-! # Failures

The failures that the library answers with. Each belongs to one kind of work, has a message, and
carries what it is about: the rule, the subject, and named details in the order they were noted.
Problems outside these kinds are kept apart from them.
-/

namespace Obligations

open Obligations.Schema Obligations.Text Obligations.Number

/-- The kinds of work that can fail. -/
inductive FailureKind where
  | general
  | loading
  | definition
  | context
  | condition
  | dueDate
  | template
  | cycle
  | rule
  | task
deriving DecidableEq, Repr

namespace FailureKind

def code? : FailureKind → Option String
  | .general => none
  | .loading => some "RULE_LOADING_FAILED"
  | .definition => some "INVALID_RULE_DEFINITION"
  | .context => some "USER_CONTEXT_INVALID"
  | .condition => some "CONDITION_EVALUATION_FAILED"
  | .dueDate => some "DATE_CALCULATION_FAILED"
  | .template => some "TEMPLATE_RENDERING_FAILED"
  | .cycle => some "DEPENDENCY_CYCLE_DETECTED"
  | .rule => some "RULE_EVALUATION_FAILED"
  | .task => some "TASK_GENERATION_FAILED"

end FailureKind

/-- A detail of a failure. -/
inductive Detail where
  | value (content : Value)
  | issues (found : List Issue)

/-- Details by name, in the order they were noted. -/
abbrev Details := List (String × Detail)

namespace Details

/-- The details with one of them noted: at its place where the name was there, else at the end. -/
def note (name : String) (detail : Detail) : Details → Details
  | [] => [(name, detail)]
  | (other, old) :: rest =>
    if other = name then (name, detail) :: rest else (other, old) :: note name detail rest

/-- The details with one of them noted unless its name is there. -/
def noteIfNew (name : String) (detail : Detail) (details : Details) : Details :=
  if details.any (·.1 == name) then details else details ++ [(name, detail)]

/-- The details with a text noted unless it is missing or empty. -/
def noteText (name : String) (content : Option String) (details : Details) : Details :=
  match content with
  | some content => if content.isEmpty then details else details.note name (.value (.text content))
  | none => details

/-- The details with a text noted unless it is missing or empty, or its name is there. -/
def noteTextIfNew (name : String) (content : Option String) (details : Details) : Details :=
  match content with
  | some content =>
    if content.isEmpty then details else details.noteIfNew name (.value (.text content))
  | none => details

end Details

/-- What a failure can be about, besides its message. -/
structure Circumstances where
  code : Option String := none
  ruleId : Option String := none
  subjectId : Option String := none
  details : Details := []
  source : Option String := none
  problems : List String := []
  field : Option String := none
  operator : Option String := none
  dateType : Option String := none
  cycle : List String := []

/-- A failure of one kind of work. -/
structure Failure where
  kind : FailureKind
  message : String
  code : Option String
  ruleId : Option String
  subjectId : Option String
  details : Details
  source : Option String
  problems : List String
  cycle : List String

namespace Failure

def kindDetails (kind : FailureKind) (about : Circumstances) : Details :=
  match kind with
  | .loading => about.details.noteText "source" about.source
  | .condition => (about.details.noteText "field" about.field).noteText "operator" about.operator
  | .dueDate => about.details.noteText "date_type" about.dateType
  | .cycle =>
    if about.cycle.isEmpty then about.details
    else about.details.note "cycle" (.value (.text (joined " -> " about.cycle)))
  | _ => about.details

/-- A failure. Its code is the one of its kind unless the circumstances give another; the rule and
the subject are noted behind the other details. -/
def of (kind : FailureKind) (message : String) (about : Circumstances := {}) : Failure where
  kind := kind
  message := message
  code := match about.code with
    | some code => if code.isEmpty then kind.code? else some code
    | none => kind.code?
  ruleId := about.ruleId
  subjectId := about.subjectId
  details := ((kindDetails kind about).noteTextIfNew "rule_id" about.ruleId).noteTextIfNew
    "subject_id" about.subjectId
  source := about.source
  problems := about.problems
  cycle := about.cycle

def issueText (issue : Issue) : String :=
  issue.location ++ ": " ++ issue.kind.code

def detailText : Detail → String
  | .value content => content.shown
  | .issues found => joined "; " (found.map issueText)

/-- The failure in one line: its code, its message and its details. -/
def text (failure : Failure) : String :=
  let coded := match failure.code with
    | some code => "[" ++ code ++ "] " ++ failure.message
    | none => failure.message
  if failure.details.isEmpty then coded
  else
    let shown := failure.details.map fun (name, detail) => name ++ "=" ++ detailText detail
    coded ++ " (Context: " ++ joined ", " shown ++ ")"

end Failure

/-- Problems that belong to no kind of work. -/
inductive Mishap where
  /-- Calendar arithmetic has no answer. -/
  | calendar (fault : Calendar.Fault)
  /-- A text is not an offset. -/
  | offset (fault : OffsetFault)
  /-- A whole number in text is too long. -/
  | numeral (digits : Nat)
  /-- A whole number has too many digits to be printed. -/
  | unprintable
  /-- A pattern is of a kind that is not even reported as malformed. -/
  | pattern (fault : Pattern.Fault)
  /-- A text is not a whole number. -/
  | notNumeral (content : String)
  /-- An infinite number, or what is no number, stands where a whole number is needed. -/
  | notFinite (isInfinite : Bool)
  /-- A number is beyond the greatest float. -/
  | tooLarge
  /-- A value without members stands where a record is needed. -/
  | notRecord
  /-- A value is of a kind that cannot be used where it stands. -/
  | unusable
  /-- What should be a list of pairs holds something longer or shorter. -/
  | unevenPairs
  /-- A full store has nothing to give up. -/
  | nothingToEvict
  /-- A file is not there. -/
  | noFile
  /-- There is a directory in the place of a file. -/
  | directory
  /-- A tag in a printed text closes nothing. -/
  | unmatchedTag
  /-- A setting of the environment cannot be read. -/
  | unreadableSetting (name : String)
  /-- A text is no document in YAML. -/
  | yaml (fault : Document.Yaml.Fault)
  /-- A text is no document in JSON. -/
  | json
  /-- The parts of a document stand too deep inside each other. -/
  | nestedTooDeep
  /-- What the library depends on failed. -/
  | outside (reason : String)
deriving DecidableEq, Repr

namespace Mishap

/-- What a problem is reported as. -/
def message : Mishap → String
  | .calendar fault => fault.message
  | .offset fault => fault.message
  | .numeral digits => tooLongText digits
  | .unprintable => unprintableText
  | .pattern fault => fault.message []
  | .notNumeral content => "invalid literal for int() with base 10: " ++ quoted content
  | .notFinite true => "cannot convert float infinity to integer"
  | .notFinite false => "cannot convert float NaN to integer"
  | .tooLarge => "integer division result too large for a float"
  | .unreadableSetting name =>
    "error parsing value for field \"" ++ name ++ "\" from source \"EnvSettingsSource\""
  | .nestedTooDeep => "maximum recursion depth exceeded"
  | .outside reason => reason
  | _ => ""

end Mishap

/-- Whatever stands against an answer. -/
inductive Problem where
  | failure (failure : Failure)
  | issues (found : List Issue)
  | mishap (mishap : Mishap)

namespace Problem

/-- What a problem is reported as where it is told in passing. -/
def message : Problem → String
  | .failure reported => reported.message
  | .issues found => joined "; " (found.map Failure.issueText)
  | .mishap other => other.message

end Problem

/-- An answer, or what stands against it. -/
abbrev Outcome (α : Type) := Except Problem α

namespace Outcome

def fail {α : Type} (failure : Failure) : Outcome α :=
  .error (.failure failure)

/-- A problem outside the kinds of failures as the outcome. -/
def mishap {α : Type} (mishap : Mishap) : Outcome α :=
  .error (.mishap mishap)

def ofChecked {α : Type} : Checked α → Outcome α
  | .ok result => .ok result
  | .refused found => .error (.issues found)

def ofPrinted {α : Type} : Option α → Outcome α
  | some result => .ok result
  | none => .mishap .unprintable

def ofCalendar {α : Type} : Except Calendar.Fault α → Outcome α
  | .ok result => .ok result
  | .error fault => .error (.mishap (.calendar fault))

end Outcome

end Obligations
