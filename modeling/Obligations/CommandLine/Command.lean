import Obligations.Calendar.Iso
import Obligations.CommandLine.Word

/-! # Commands

The two commands are to evaluate a subject and to list the rules. A command line that asks for
neither, or in a way that cannot be understood, is refused; it may also ask for help.
-/

namespace Obligations.CommandLine

open Obligations.Calendar

/-- What is to be done. -/
inductive Request where
  | evaluate (profile : String) (today : Option Date) (asJson : Bool)
  | rules (validates : Bool)
deriving DecidableEq

/-- What is to be done, and where settings and rules come from. -/
structure Command where
  settings : Option String := none
  ruleFiles : List String := []
  usesBundles : Bool := true
  request : Request

/-- Why a command line names no command. -/
inductive Refusal where
  | usage
  | help (lines : List String)

def programName : String := "compliance-engine"

def generalHelp : List String := [
  "usage: " ++ programName ++ " [-h] [--config CONFIG] [--verbose] \x7bevaluate,rules\x7d ...",
  "Generate compliance tasks from declarative rules",
  "positional arguments:",
  "\x7bevaluate,rules\x7d",
  "evaluate        Evaluate one subject",
  "rules           List loaded rules",
  "options:",
  "-h, --help        show this help message and exit",
  "--config CONFIG   YAML settings file",
  "--verbose         Enable debug logging",
  "Examples:",
  programName ++ " evaluate student.json                 # Evaluate with bundled rules",
  programName ++ " evaluate student.json --today 2024-03-01 --json",
  programName ++ " rules --validate                      # Check the bundled rule set",
  programName ++ " rules --rules extra.yaml --no-bundled"]

def evaluateHelp : List String := [
  "usage: " ++ programName ++
    " evaluate [-h] [--today TODAY] [--json] [--rules FILE] [--no-bundled] profile",
  "positional arguments:",
  "profile        JSON file with \x7b\"profile\": ..., \"documents\": ..., \"tasks\": ...\x7d",
  "options:",
  "-h, --help     show this help message and exit",
  "--today TODAY  Evaluate as of this date (YYYY-MM-DD)",
  "--json         Print the full result as JSON",
  "--rules FILE   Additional JSON/YAML rule document (repeatable)",
  "--no-bundled   Skip the bundled rule sets"]

def rulesHelp : List String := [
  "usage: " ++ programName ++ " rules [-h] [--validate] [--rules FILE] [--no-bundled]",
  "options:",
  "-h, --help    show this help message and exit",
  "--validate    Validate the rule set",
  "--rules FILE  Additional JSON/YAML rule document (repeatable)",
  "--no-bundled  Skip the bundled rule sets"]

def helpForms : List Form := [⟨"-h", false⟩, ⟨"--help", false⟩]

/-- The options before the name of a command. -/
def generalForms : List Form := helpForms ++ [⟨"--config", true⟩, ⟨"--verbose", false⟩]

/-- The options that say where rules come from. -/
def sourceForms : List Form := [⟨"--rules", true⟩, ⟨"--no-bundled", false⟩]

/-- The options of an evaluation. -/
def evaluateForms : List Form :=
  helpForms ++ [⟨"--today", true⟩, ⟨"--json", false⟩] ++ sourceForms

def rulesForms : List Form := helpForms ++ [⟨"--validate", false⟩] ++ sourceForms

/-- What the words of a command have told so far. -/
structure Told where
  operand : Option String := none
  today : Option Date := none
  asJson : Bool := false
  validates : Bool := false
  ruleFiles : List String := []
  usesBundles : Bool := true
  /-- Whether the last word was the operand. -/
  isAtOperand : Bool := false
  hasStray : Bool := false

namespace Told

/-- What has been told with one more item. -/
def add (help : List String) (takesOperand : Bool) (told : Told) (item : Item) :
    Except Refusal Told :=
  let passed := { told with isAtOperand := false }
  match item with
  | .flag "--json" => .ok { passed with asJson := true }
  | .flag "--validate" => .ok { passed with validates := true }
  | .flag "--no-bundled" => .ok { passed with usesBundles := false }
  | .flag _ => .error (.help help)
  | .value "--rules" content => .ok { passed with ruleFiles := told.ruleFiles ++ [content] }
  | .value _ content =>
    match Date.ofIso? content.toList with
    | some date => .ok { passed with today := some date }
    | none => .error .usage
  | .operand content =>
    if takesOperand && told.operand.isNone then
      .ok { told with operand := some content, isAtOperand := true }
    else .ok { passed with hasStray := true }
  | .separator =>
    if takesOperand && (told.operand.isNone || told.isAtOperand) then .ok told
    else .ok { passed with hasStray := true }
  | .stray => .ok { passed with hasStray := true }
  | .fault => .error .usage

def ofWords (help : List String) (forms : List Form) (takesOperand : Bool) (words : List String) :
    Except Refusal Told :=
  match Word.all? forms words with
  | none => .error .usage
  | some words => (Item.ofWords words).foldlM (add help takesOperand) {}

end Told

namespace Command

/-- The command of a name with the words behind it. Stray words before it make the whole unclear, but
only once nothing in the command itself does. -/
def ofName (settings : Option String) (hasStray : Bool) (name : String) (words : List String) :
    Except Refusal Command := do
  match name with
  | "evaluate" =>
    let told ← Told.ofWords evaluateHelp evaluateForms true words
    match told.operand with
    | some profile =>
      if hasStray || told.hasStray then throw .usage
      else return ⟨settings, told.ruleFiles, told.usesBundles,
        .evaluate profile told.today told.asJson⟩
    | none => throw .usage
  | "rules" =>
    let told ← Told.ofWords rulesHelp rulesForms false words
    if hasStray || told.hasStray then throw .usage
    else return ⟨settings, told.ruleFiles, told.usesBundles, .rules told.validates⟩
  | _ => throw .usage

/-- A command from the words that are left, of which the first ones may be general options. -/
def ofRest (settings : Option String) (hasStray : Bool) : List (Word × String) →
    Except Refusal Command
  | [] => .error .usage
  | (.plain name, _) :: rest => ofName settings hasStray name (rest.map (·.2))
  | (.separator, _) :: _ => .error .usage
  | (.unknown _, _) :: rest => ofRest settings true rest
  | (.option form none, _) :: (.plain content, word) :: rest =>
    if form.hasValue then ofRest (some content) hasStray rest
    else if form.name == "--verbose" then ofRest settings hasStray ((.plain content, word) :: rest)
    else .error (.help generalHelp)
  | (.option form attached, _) :: rest =>
    match Item.ofForm form attached with
    | .value _ content => ofRest (some content) hasStray rest
    | .flag "--verbose" => ofRest settings hasStray rest
    | .flag _ => .error (.help generalHelp)
    | _ => .error .usage

def ofArguments (arguments : List String) : Except Refusal Command :=
  match Word.all? generalForms arguments with
  | none => .error .usage
  | some words => ofRest none false (words.zip arguments)

def files (command : Command) : List String :=
  command.settings.toList ++ command.ruleFiles ++
    match command.request with
    | .evaluate profile _ _ => [profile]
    | .rules _ => []

end Command

end Obligations.CommandLine
