import Obligations.Rule.Draft
import Obligations.Text.Blank
import Obligations.Text.Case
import Obligations.Text.Search

/-! # Sources of rules

Rules are kept in bundles, in files, by services and in tables, or they are given. A source names such
a place together with what is found there, and can be turned off. Its key identifies it among others.
The path of a file is told without the parts that mean nothing: by the names between its slashes, and
whether it begins at the root.
-/

namespace Obligations

open Obligations.Text

/-- A path: the slashes that it begins with, and its names. -/
structure Path where
  root : String
  names : List String
deriving DecidableEq, Repr

namespace Path

/-- What a path begins at: exactly two slashes are kept apart from one and from more. -/
def rootOf : List Char → String
  | '/' :: '/' :: '/' :: _ => "/"
  | '/' :: '/' :: _ => "//"
  | '/' :: _ => "/"
  | _ => ""

def ofText (content : String) : Path where
  root := rootOf content.toList
  names := ((pieces '/' content.toList).map String.ofList).filter fun name =>
    !name.isEmpty && name != "."

/-- The text of a path; one without names is the directory itself. -/
def text (path : Path) : String :=
  let content := path.root ++ joined "/" path.names
  if content.isEmpty then "." else content

/-- Whether a path leads to no file but to the directory itself or to one above it. -/
def isDirectory (path : Path) : Bool :=
  path.names.all (· == "..")

/-- What stands behind the last dot of a name, in small letters. A name has to have characters on
both sides of that dot. -/
def extensionOf (name : List Char) : String :=
  let back := name.reverse.takeWhile (· != '.')
  if back.isEmpty || name.length ≤ back.length + 1 then ""
  else lower (String.ofList back.reverse)

def extension (path : Path) : String :=
  extensionOf ((path.names.getLast?.getD "").toList)

end Path

/-- A row of a table of rules. -/
structure Row where
  id : String
  ruleSet : String := "default"
  definition : Value
  priority : Option Int := some 50
  isActive : Bool := true

/-- What a service is answered by. -/
inductive Reply where
  | silence
  | answer (status : Int) (body : String)

/-- A place where rules are kept, and what is found there. -/
inductive Shelf where
  | bundle (name : String)
  /-- A file; it has no content where it does not exist. -/
  | file (path : Path) (content : Option String)
  | service (url : String) (reply : Reply)
  /-- The rows of one rule set of a table, or of all of them; there are none where the table does not
  exist. -/
  | table (ruleSet : Option String) (rows : Option (List Row))
  | memory (key : String) (rules : Outcome (List Draft))

namespace Shelf

/-- What identifies a place. -/
def key : Shelf → String
  | .bundle name => "embedded:" ++ name
  | .file path _ => "file:" ++ path.text
  | .service url _ => "api:" ++ url
  | .table ruleSet _ =>
    "database:" ++ (match ruleSet with
      | some name => if name.isEmpty then "*" else name
      | none => "*")
  | .memory key _ => key

/-- Whether a place is far away, so that its answer has to be waited for. -/
def isFar : Shelf → Bool
  | .service _ _ | .table _ _ => true
  | .bundle _ | .file _ _ | .memory _ _ => false

end Shelf

structure Source where
  shelf : Shelf
  isEnabled : Bool := true
  /-- How often rules have been asked for. -/
  visits : Nat := 0

namespace Source

def key (source : Source) : String :=
  source.shelf.key

/-- The source after it has been asked once more. -/
def visited (source : Source) : Source :=
  { source with visits := source.visits + 1 }

end Source

end Obligations
