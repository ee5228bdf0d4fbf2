import Obligations.Number.Shortest
import Obligations.Text.Search

/-! # Issues

What a raw value that does not fit its schema is answered with: every issue has a kind and the path
from the outermost value to the place it was found at. Checks of the parts of a record are made side
by side, so that one reading reports the issues of all of them.
-/

namespace Obligations.Schema

open Obligations.Number Obligations.Text

/-- One step of a path: into a member of a record, into an item of a list, or into one of the forms
that a value may take. -/
inductive Step where
  | member (name : String)
  | item (index : Nat)
  | form (name : String)
deriving DecidableEq, Repr

def Step.text : Step → String
  | .member name => name
  | .item index => intText index
  | .form name => name

inductive IssueKind where
  | missing
  | notText
  | textTooShort
  | notCode
  | notBool
  | unreadableBool
  | notInt
  | unreadableInt
  | intTooLong
  | fractionalInt
  | notFinite
  | notFloat
  | unreadableFloat
  | notGreater
  | notAtLeast
  | notAtMost
  | notList
  | notMap
  | tooFew
  | notDate
  | unreadableDate
  | dateWithTime
  | notTimestamp
  | unreadableTimestamp
  | timestampOutside
  | notRecord
  | notOffset
  | unknownMember
  | unknownPart
  /-- A rule beyond the shape of the value is broken. -/
  | refused (reason : String)
deriving DecidableEq, Repr

namespace IssueKind

def code : IssueKind → String
  | .missing => "missing"
  | .notText => "string_type"
  | .textTooShort => "string_too_short"
  | .notCode => "enum"
  | .notBool => "bool_type"
  | .unreadableBool => "bool_parsing"
  | .notInt => "int_type"
  | .unreadableInt => "int_parsing"
  | .intTooLong => "int_parsing_size"
  | .fractionalInt => "int_from_float"
  | .notFinite => "finite_number"
  | .notFloat => "float_type"
  | .unreadableFloat => "float_parsing"
  | .notGreater => "greater_than"
  | .notAtLeast => "greater_than_equal"
  | .notAtMost => "less_than_equal"
  | .notList => "list_type"
  | .notMap => "dict_type"
  | .tooFew => "too_short"
  | .notDate => "date_type"
  | .unreadableDate => "date_from_datetime_parsing"
  | .dateWithTime => "date_from_datetime_inexact"
  | .notTimestamp => "datetime_type"
  | .unreadableTimestamp => "datetime_from_date_parsing"
  | .timestampOutside => "datetime_parsing"
  | .notRecord => "model_type"
  | .notOffset => "dataclass_type"
  | .unknownMember => "extra_forbidden"
  | .unknownPart => "unexpected_keyword_argument"
  | .refused _ => "value_error"

def reason? : IssueKind → Option String
  | .refused reason => some ("Value error, " ++ reason)
  | _ => none

end IssueKind

/-- An issue at a place of a raw value. -/
structure Issue where
  path : List Step
  kind : IssueKind
deriving DecidableEq, Repr

namespace Issue

/-- An issue of a value as a whole. -/
def here (kind : IssueKind) : Issue :=
  ⟨[], kind⟩

/-- The issue as seen from one step further out. -/
def under (step : Step) (issue : Issue) : Issue :=
  { issue with path := step :: issue.path }

def location (issue : Issue) : String :=
  joined "." (issue.path.map Step.text)

end Issue

/-- What a check comes to: a result, or the issues that stand against one. -/
inductive Checked (α : Type) where
  | ok (result : α)
  | refused (issues : List Issue)
deriving Repr

namespace Checked

/-- The result of a check with a function applied to it. -/
def map {α β : Type} (f : α → β) : Checked α → Checked β
  | .ok result => .ok (f result)
  | .refused issues => .refused issues

/-- Two checks side by side. The issues of the first stand before those of the second. -/
def both {α β γ : Type} (f : α → β → γ) : Checked α → Checked β → Checked γ
  | .ok a, .ok b => .ok (f a b)
  | .ok _, .refused issues => .refused issues
  | .refused issues, .ok _ => .refused issues
  | .refused first, .refused second => .refused (first ++ second)

instance : Pure Checked := ⟨.ok⟩

instance : Functor Checked := ⟨map, fun a => map fun _ => a⟩

instance : Seq Checked := ⟨fun f a => both (fun f a => f a) f (a ())⟩

instance : Applicative Checked := {}

/-- A check of the result of another, made only where there is one. -/
def andThen {α β : Type} (check : Checked α) (next : α → Checked β) : Checked β :=
  match check with
  | .ok result => next result
  | .refused issues => .refused issues

/-- A refusal for one issue of the value as a whole. -/
def refuse {α : Type} (kind : IssueKind) : Checked α :=
  .refused [Issue.here kind]

/-- A check as seen from one step further out. -/
def under {α : Type} (step : Step) : Checked α → Checked α
  | .ok result => .ok result
  | .refused issues => .refused (issues.map (·.under step))

def result? {α : Type} : Checked α → Option α
  | .ok result => some result
  | .refused _ => none

def issues {α : Type} : Checked α → List Issue
  | .ok _ => []
  | .refused issues => issues

end Checked

end Obligations.Schema
