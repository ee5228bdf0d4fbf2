import Obligations.Text.Digit
import Obligations.Text.Search

/-! # Words of a command line

A word names an option or stands for itself. The name of an option may be shortened as long as it is
clear which one is meant, and its value may be attached with an equals sign. Behind two dashes every
word stands for itself.
-/

namespace Obligations.CommandLine

open Obligations.Text

/-- An option: its name, and whether it has a value. -/
structure Form where
  name : String
  hasValue : Bool
deriving DecidableEq, Repr

/-- A word of a command line. -/
inductive Word where
  | plain (content : String)
  | option (form : Form) (attached : Option String)
  | unknown (content : String)
  | separator
deriving DecidableEq, Repr

namespace Word

/-- A word up to its first equals sign, and what is behind that. -/
def splitAtEquals (content : String) : String × Option String :=
  match cutAt? ['='] content.toList with
  | some (name, attached) => (String.ofList name, some (String.ofList attached))
  | none => (content, none)

/-- Whether a word looks like a negative number. -/
def isNegativeNumber (content : String) : Bool :=
  match content.toList with
  | '-' :: digits =>
    match pieces '.' digits with
    | [whole] => !whole.isEmpty && whole.all isDecimalDigit
    | [whole, part] => whole.all isDecimalDigit && !part.isEmpty && part.all isDecimalDigit
    | _ => false
  | _ => false

/-- The options that a shortened word can mean, with the value attached to it. -/
def meanings (forms : List Form) (content : String) : List Word :=
  if "--".isPrefixOf content then
    let (name, attached) := splitAtEquals content
    (forms.filter fun form => name.isPrefixOf form.name).map (.option · attached)
  else
    let chars := content.toList
    let short := String.ofList (chars.take 2)
    forms.filterMap fun form =>
      if form.name == short then some (.option form (some (String.ofList (chars.drop 2))))
      else if content.isPrefixOf form.name then some (.option form none)
      else none

/-- The word of a text; there is none where it is not clear which option is meant. -/
def ofText? (forms : List Form) (content : String) : Option Word :=
  let (name, attached) := splitAtEquals content
  if !"-".isPrefixOf content || content == "-" then some (.plain content)
  else
    let isLong := fun form : Form => attached.isSome && form.name == name && "--".isPrefixOf name
    match forms.find? (·.name == content), forms.find? isLong with
    | some form, _ => some (.option form none)
    | none, some form => some (.option form attached)
    | none, none =>
      match meanings forms content with
      | [word] => some word
      | _ :: _ :: _ => none
      | [] =>
        if isNegativeNumber content || content.toList.contains ' ' then some (.plain content)
        else some (.unknown content)

def all? (forms : List Form) : List String → Option (List Word)
  | [] => some []
  | content :: rest =>
    if content == "--" then some (.separator :: rest.map .plain)
    else do
      let word ← ofText? forms content
      return word :: (← all? forms rest)

end Word

/-- What a command line asks for, word by word. -/
inductive Item where
  | flag (name : String)
  | value (name content : String)
  | operand (content : String)
  | separator
  /-- A word that nothing is made of. -/
  | stray
  /-- An option without its value, or with one that it does not have. -/
  | fault
deriving DecidableEq, Repr

namespace Item

/-- Whether characters can follow the short option for help within its word: only itself, any number
of times, and before that an equals sign. -/
def canFollowHelp (chars : List Char) : Bool :=
  match chars with
  | '=' :: rest => !rest.isEmpty && rest.all (· == 'h')
  | _ => chars.all (· == 'h')

/-- The item of an option whose value is attached or missing. -/
def ofForm (form : Form) (attached : Option String) : Item :=
  match form.hasValue, attached with
  | true, some content => .value form.name content
  | false, none => .flag form.name
  | false, some content =>
    if form.name == "-h" && canFollowHelp content.toList then .flag form.name else .fault
  | true, none => .fault

/-- The items of words. A value that is not attached is the next word. -/
def ofWords : List Word → List Item
  | [] => []
  | .plain content :: rest => .operand content :: ofWords rest
  | .separator :: rest => .separator :: ofWords rest
  | .unknown _ :: rest => .stray :: ofWords rest
  | .option form none :: .plain content :: rest =>
    if form.hasValue then .value form.name content :: ofWords rest
    else .flag form.name :: .operand content :: ofWords rest
  | .option form attached :: rest => ofForm form attached :: ofWords rest

end Item

end Obligations.CommandLine
