import Obligations.CommandLine.Layout
import Obligations.CommandLine.Markup
import Obligations.Document.JsonPrinter
import Obligations.Engine.Evaluation
import Obligations.Rule.Check
import Obligations.Rule.Statistics

/-! # Reports

What is printed of an evaluation and of a set of rules: lines of text, and rows of tables. Texts of
rules and subjects are marked texts as well, so tags in them take effect.
-/

namespace Obligations.CommandLine

open Obligations.Document Obligations.Number Obligations.Text

/-- A printed line: a text, the cells of a row, or a text that goes on with the time that was needed. -/
inductive Line where
  | text (content : String)
  | row (cells : List String)
  | timed (content : String)
deriving DecidableEq, Repr

def Line.isShown : Line → Bool
  | .text content => !content.isEmpty
  | .row cells => cells.any (!·.isEmpty)
  | .timed _ => true

/-- The lines of a marked text; a text with an unmatched tag cannot be printed. -/
def marked (content : String) : Outcome (List (List Char)) :=
  match Markup.lines? content with
  | some lines => .ok lines
  | none => .mishap .unmatchedTag

/-- Lines of a marked text, without empty ones. There is space for any line. -/
def printed (content : String) : Outcome (List Line) := do
  let lines ← marked content
  let shown := lines.map fun line => String.ofList (trimChars (Layout.withoutTabs 0 line))
  return (shown.map .text).filter (·.isShown)

/-- A text with a word before it that is marked with a colour. -/
def labelled (colour label content : String) : String :=
  "[" ++ colour ++ "]" ++ label ++ "[/" ++ colour ++ "] " ++ content

/-- The rows that cells of several lines take up, from a line on. -/
def rowsFrom (cells : List (List String)) : Nat → Nat → List Line
  | _, 0 => []
  | index, count + 1 => .row (cells.map (·.getD index "")) :: rowsFrom cells (index + 1) count

/-- The rows that the cells of a row of a table take up in columns of given widths. -/
def tableRow (widths : List Nat) (cells : List (List (List Char))) : List Line :=
  let set := (widths.zip cells).map fun (width, lines) => Layout.setAll false width lines
  (rowsFrom set 0 ((set.map List.length).foldl max 0)).filter (·.isShown)

/-- The widths of columns, each as wide as its widest cell. -/
def columnWidths (columns : List String) (rows : List (List (List (List Char)))) : List Nat :=
  rows.foldl (fun widths cells => (widths.zip cells).map fun (width, lines) =>
    max width (Layout.widest lines)) (columns.map (·.length))

/-- A table: its title, the names of its columns, and its rows. -/
def table (title : String) (columns : List String) (rows : List (List String)) :
    Outcome (List Line) := do
  let body ← rows.mapM (·.mapM marked)
  return .text title :: .row columns :: body.flatMap (tableRow (columnWidths columns body))

/-- The box on the subject of an evaluation. -/
def subjectBox (evaluation : Evaluation) : Outcome (List Line) := do
  let context := evaluation.context
  let name := match context.name with
    | some name => if name.isEmpty then evaluation.subjectId else name
    | none => evaluation.subjectId
  let lines ← marked ("[bold]" ++ name ++ "[/bold]\nVisa: " ++ context.visa.code ++ "  Phase: " ++
    context.phase.code ++ "\nRisk score: " ++ intText context.standing.riskScore ++ "/100")
  let set := Layout.setAll true (Layout.widest lines) lines
  return (set.map fun line => .row [line]).filter (·.isShown)

def taskCells (task : Task) : List String :=
  [task.dueDate.iso, task.priority.code,
    if task.isBlocked then task.title ++ " [dim](blocked)[/dim]" else task.title, task.ruleId]

/-- The line on how many rules there were and how long they took. -/
def summaryLine (summary : Summary) : Line :=
  .timed (intText summary.judged ++ " rules evaluated, " ++ intText summary.met ++ " matched in")

/-- The lines on an evaluation. -/
def evaluationLines (evaluation : Evaluation) : Outcome (List Line) := do
  let box ← subjectBox evaluation
  let tasks ← table ("Tasks (" ++ intText evaluation.tasks.length ++ ")")
    ["Due", "Priority", "Task", "Rule"] (evaluation.tasks.map taskCells)
  let errors ← evaluation.errors.mapM fun error => printed (labelled "red" "Error:" error)
  return box ++ tasks ++ errors.flatten ++ (evaluation.summary.map summaryLine).toList

def ruleCells (rule : Rule) : List String :=
  [rule.id, rule.group.code, joined ", " (rule.visaTypes.map (·.code)), intText rule.priority]

/-- Rules, those of the highest priority first. -/
def byPriority (rules : List Rule) : List Rule :=
  rules.mergeSort fun rule other => decide (other.priority ≤ rule.priority)

def ruleLines (rules : List Rule) (statistics : Statistics) : Outcome (List Line) := do
  let listed ← table ("Rules (" ++ intText rules.length ++ ")")
    ["ID", "Group", "Visa types", "Priority"] ((byPriority rules).map ruleCells)
  let counted ← printed (joined "\n" (Json.lines statistics.toValue))
  return listed ++ counted

/-- The lines on what is wrong with rules. -/
def checkLines (report : Report) : Outcome (List Line) := do
  let warnings ← report.warnings.mapM fun warning => printed (labelled "yellow" "Warning:" warning)
  let errors ← report.errors.mapM fun error => printed (labelled "red" "Error:" error)
  let verdict := if report.isValid then "Rule set is valid" else "Rule set is invalid"
  return warnings.flatten ++ errors.flatten ++ [.text verdict]

end Obligations.CommandLine
