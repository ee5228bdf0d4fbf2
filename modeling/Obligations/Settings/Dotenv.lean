import Obligations.Settings.Environment
import Obligations.Text.Blank

/-! # Files of variables

A file of variables has an entry per line: a name, an equals sign and a value, which may be quoted. A
value may refer to other variables in braces. Lines that cannot be read are passed over, and variables
that are there already stay as they are.
-/

namespace Obligations.Dotenv

open Obligations.Text

/-- White space within a line. -/
def isGap (c : Char) : Bool :=
  isBlank c && c != '\n' && c != '\r'

def isLineEnd (c : Char) : Bool :=
  c == '\n' || c == '\r'

/-- The characters behind the first line. -/
def nextLine (chars : List Char) : List Char :=
  (chars.dropWhile (!isLineEnd ·)).drop 1

/-- Whether a character belongs to a name that is not quoted. -/
def isNameChar (c : Char) : Bool :=
  !(c == '=' || c == '#' || isBlank c)

/-- The characters without a leading word that exports a variable. -/
def withoutExport (chars : List Char) : List Char :=
  match stripStart? "export".toList chars with
  | some (c :: rest) => if isGap c then rest.dropWhile isGap else chars
  | _ => chars

/-- A name, and what stands behind it. A comment has no name. -/
def takeName? (chars : List Char) : Option (Option String × List Char) :=
  match chars with
  | '#' :: _ => some (none, chars)
  | '\'' :: rest =>
    match rest.takeWhile (· != '\''), rest.dropWhile (· != '\'') with
    | c :: name, _ :: after => some (some (String.ofList (c :: name)), after)
    | _, _ => none
  | _ =>
    match chars.takeWhile isNameChar with
    | [] => none
    | name => some (some (String.ofList name), chars.dropWhile isNameChar)

/-- The places of quotes, counted from a position on, and whether a backslash stands before each. -/
def quotePlaces (quote : Char) : Nat → Bool → List Char → List (Nat × Bool)
  | _, _, [] => []
  | position, behindBackslash, c :: rest =>
    let found := quotePlaces quote (position + 1) (c == '\\') rest
    if c == quote then (position, behindBackslash) :: found else found

/-- The place of the quote that closes a value: the first one without a backslash before it, or else
the last one. -/
def closingPlace? (quote : Char) (chars : List Char) : Option Nat :=
  let places := quotePlaces quote 0 false chars
  ((places.find? (!·.2)).or places.getLast?).map (·.1)

def doubleEscapes : List (Char × Char) :=
  [('\\', '\\'), ('\'', '\''), ('"', '"'), ('a', '\x07'), ('b', '\x08'), ('f', '\x0c'), ('n', '\n'),
   ('r', '\r'), ('t', '\t'), ('v', '\x0b')]

def singleEscapes : List (Char × Char) := [('\\', '\\'), ('\'', '\'')]

/-- Characters with their escapes replaced. -/
def unescaped (escapes : List (Char × Char)) : List Char → List Char
  | '\\' :: c :: rest =>
    match escapes.lookup c with
    | some plain => plain :: unescaped escapes rest
    | none => '\\' :: unescaped escapes (c :: rest)
  | c :: rest => c :: unescaped escapes rest
  | [] => []

/-- A quoted value whose opening quote has been read, and what stands behind it. -/
def takeQuoted? (quote : Char) (chars : List Char) : Option (String × List Char) :=
  let escapes := if quote == '"' then doubleEscapes else singleEscapes
  (closingPlace? quote chars).map fun place =>
    (String.ofList (unescaped escapes (chars.take place)), chars.drop (place + 1))

/-- The characters of a value up to a comment that white space stands before. -/
def beforeComment : List Char → List Char
  | [] => []
  | c :: rest =>
    if isBlank c && (rest.dropWhile isBlank).head? = some '#' then [] else c :: beforeComment rest

/-- A value, and what stands behind it. -/
def takeValue? (chars : List Char) : Option (String × List Char) :=
  match chars with
  | '\'' :: rest => takeQuoted? '\'' rest
  | '"' :: rest => takeQuoted? '"' rest
  | _ =>
    let line := chars.takeWhile (!isLineEnd ·)
    some (String.ofList (trimRight (beforeComment line)), chars.dropWhile (!isLineEnd ·))

/-- What stands behind the end of a line on which nothing is left but a comment. -/
def takeLineEnd? (chars : List Char) : Option (List Char) :=
  let solid := chars.dropWhile isGap
  let after := if solid.head? = some '#' then solid.dropWhile (!isLineEnd ·) else solid
  match after with
  | [] => some []
  | c :: rest => if isLineEnd c then some rest else none

/-- A name with its value, and what stands behind them. -/
abbrev Entry := Option String × Option String × List Char

/-- The entry at the start of characters that are not blank, or what stands behind its line. -/
def takeEntry (chars : List Char) : Except (List Char) Entry :=
  let start := withoutExport chars
  match takeName? start with
  | none => .error (nextLine start)
  | some (name, behindName) =>
    match behindName.dropWhile isGap with
    | '=' :: rest =>
      let valueStart := rest.dropWhile isGap
      match takeValue? valueStart with
      | none => .error (nextLine valueStart)
      | some (value, behindValue) =>
        match takeLineEnd? behindValue with
        | some after => .ok (name, some value, after)
        | none => .error (nextLine behindValue)
    | after =>
      match takeLineEnd? after with
      | some rest => .ok (name, none, rest)
      | none => .error (nextLine after)

/-- The entries of a file in order. A name without an equals sign has no value. -/
def entries : Nat → List Char → List (String × Option String)
  | 0, _ => []
  | fuel + 1, chars =>
    match trimLeft chars with
    | [] => []
    | solid =>
      match takeEntry solid with
      | .ok (some name, value, rest) => (name, value) :: entries fuel rest
      | .ok (none, _, rest) => entries fuel rest
      | .error rest => entries fuel rest

/-- A reference to a variable whose opening brace has been read: its name, what stands for it where
it has no value, and what is behind the reference. -/
def takeReference? (chars : List Char) : Option (String × String × List Char) :=
  let isInside := fun c : Char => c != '\x7d'
  let isName := fun c : Char => c != '\x7d' && c != ':'
  let name := String.ofList (chars.takeWhile isName)
  match chars.dropWhile isName with
  | '\x7d' :: rest => some (name, "", rest)
  | ':' :: '-' :: rest =>
    match rest.dropWhile isInside with
    | _ :: after => some (name, String.ofList (rest.takeWhile isInside), after)
    | [] => none
  | _ => none

/-- Characters with their references replaced. -/
def interpolated (content : String → Option String) : Nat → List Char → List Char
  | 0, chars => chars
  | fuel + 1, '$' :: '\x7b' :: rest =>
    match takeReference? rest with
    | some (name, fallback, after) =>
      ((content name).getD fallback).toList ++ interpolated content fuel after
    | none => '$' :: interpolated content fuel ('\x7b' :: rest)
  | fuel + 1, c :: rest => c :: interpolated content fuel rest
  | _ + 1, [] => []

/-- Variables that may have no value, with one of them set. -/
def assign (name : String) (content : Option String) :
    List (String × Option String) → List (String × Option String)
  | [] => [(name, content)]
  | (other, old) :: rest =>
    if other = name then (name, content) :: rest else (other, old) :: assign name content rest

/-- Entries with the references in their values replaced, those before them taken into account. -/
def resolved (environment : Environment) (found : List (String × Option String)) :
    List (String × Option String) :=
  found.foldl (fun known (name, value) =>
    let content := fun name : String =>
      match environment.lookup name with
      | some content => some content
      | none => (known.lookup name).map (·.getD "")
    assign name (value.map fun value =>
      String.ofList (interpolated content value.length value.toList)) known) []

end Obligations.Dotenv

namespace Obligations.Environment

/-- The variables with those of a file that are not there yet. -/
def withFile (environment : Environment) (content : String) : Environment :=
  let found := Dotenv.entries content.length content.toList
  let added := (Dotenv.resolved environment found).filterMap fun (name, value) =>
    value.map fun value => (name, value)
  environment ++ added.filter fun entry => (environment.lookup entry.1).isNone

end Obligations.Environment
