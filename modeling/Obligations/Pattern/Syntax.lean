/-! # Patterns

The structure of search patterns: characters and sets of them, anchors, repetitions, groups and
references to them, assertions about what stands before or behind. Parts of a pattern may switch
options on and off.
-/

namespace Obligations.Pattern

structure Options where
  /-- Case does not matter. -/
  ignoreCase : Bool := false
  /-- Anchors match at every line. -/
  multiline : Bool := false
  /-- The dot matches line breaks too. -/
  dotAll : Bool := false
  /-- White space and comments in the pattern are skipped. -/
  verbose : Bool := false
  /-- Classes of characters know plain characters only. -/
  ascii : Bool := false
  /-- Classes of characters know all scripts; this is so anyway and only excludes `ascii`. -/
  allScripts : Bool := false
  /-- Nothing may be repeated. -/
  noRepetition : Bool := false
deriving DecidableEq, Repr, Inhabited

namespace Options

def none : Options := {}

def union (left right : Options) : Options where
  ignoreCase := left.ignoreCase || right.ignoreCase
  multiline := left.multiline || right.multiline
  dotAll := left.dotAll || right.dotAll
  verbose := left.verbose || right.verbose
  ascii := left.ascii || right.ascii
  allScripts := left.allScripts || right.allScripts
  noRepetition := left.noRepetition || right.noRepetition

/-- Whether two sets of options have one in common. -/
def meets (left right : Options) : Bool :=
  left.ignoreCase && right.ignoreCase || left.multiline && right.multiline ||
    left.dotAll && right.dotAll || left.verbose && right.verbose || left.ascii && right.ascii ||
    left.allScripts && right.allScripts

/-- The options inside a part that switches some on and some off. -/
def switched (options added removed : Options) : Options :=
  let base := if added.ascii || added.allScripts
    then { options with ascii := false, allScripts := false } else options
  let all := base.union added
  { ignoreCase := all.ignoreCase && !removed.ignoreCase
    multiline := all.multiline && !removed.multiline
    dotAll := all.dotAll && !removed.dotAll
    verbose := all.verbose && !removed.verbose
    ascii := all.ascii && !removed.ascii
    allScripts := all.allScripts && !removed.allScripts
    noRepetition := all.noRepetition }

end Options

inductive CharClass where
  | digit
  | space
  | word
deriving DecidableEq, Repr

/-- One member of a set of characters; characters are given by their codes. -/
inductive SetItem where
  | code (code : Nat)
  | range (first last : Nat)
  | ofClass (kind : CharClass) (inside : Bool)
deriving DecidableEq, Repr

/-- Places that match no character. -/
inductive Anchor where
  | lineStart
  | lineEnd
  | textStart
  | textEnd
  | wordEdge
  | noWordEdge
deriving DecidableEq, Repr

/-- How a repetition chooses the number of times. -/
inductive Eagerness where
  | greedy
  | lazy
  | possessive
deriving DecidableEq, Repr

/-- A part of a pattern. -/
inductive Node where
  | char (code : Nat)
  | notChar (code : Nat)
  | any
  | set (negated : Bool) (items : List SetItem)
  | anchor (kind : Anchor)
  | repeated (eagerness : Eagerness) (least : Nat) (greatest : Option Nat) (body : List Node)
  | group (index : Option Nat) (added removed : Options) (body : List Node)
  | atomic (body : List Node)
  | look (ahead negated : Bool) (body : List Node)
  | alternatives (branches : List (List Node))
  | reference (group : Nat)
  | conditional (group : Nat) (present absent : List Node)

namespace Node

def isAnchor : Node → Bool
  | .anchor _ => true
  | _ => false

/-- Whether a part is a repetition. -/
def isRepeated : Node → Bool
  | .repeated .. => true
  | _ => false

end Node

/-- The least and the greatest number of characters that a part matches. -/
structure Width where
  least : Nat
  greatest : Nat
deriving DecidableEq, Repr

namespace Width

/-- The greatest number of characters that is counted; it stands for any number beyond it. -/
def limit : Nat := 4294967295

/-- The width with both numbers brought under the limit, the least one strictly. -/
def capped (width : Width) : Width :=
  ⟨min width.least (limit - 1), min width.greatest limit⟩

/-- The width of two parts in a row. -/
def add (left right : Width) : Width :=
  ⟨left.least + right.least, left.greatest + right.greatest⟩

/-- The width of one of two parts. -/
def either (left right : Width) : Width :=
  ⟨min left.least right.least, max left.greatest right.greatest⟩

def repeated (least : Nat) (greatest : Option Nat) (body : Width) : Width where
  least := body.least * least
  greatest := body.greatest * greatest.getD limit

end Width

mutual

/-- The width of one part, given the widths of the groups. -/
def nodeWidth (groups : List (Option Width)) : Node → Width
  | .char _ | .notChar _ | .any | .set _ _ => ⟨1, 1⟩
  | .anchor _ | .look _ _ _ => ⟨0, 0⟩
  | .repeated _ least greatest body =>
    Width.repeated least greatest (sequenceWidth groups body).capped
  | .group _ _ _ body => (sequenceWidth groups body).capped
  | .atomic body => (sequenceWidth groups body).capped
  | .alternatives branches => branchesWidth groups branches
  | .reference index => ((groups[index]?).join).getD ⟨0, 0⟩
  | .conditional _ present absent =>
    (sequenceWidth groups present).capped.either (sequenceWidth groups absent).capped

def sequenceWidth (groups : List (Option Width)) : List Node → Width
  | [] => ⟨0, 0⟩
  | node :: rest => (nodeWidth groups node).add (sequenceWidth groups rest)

/-- The width of one of several branches. -/
def branchesWidth (groups : List (Option Width)) : List (List Node) → Width
  | [] => ⟨Width.limit - 1, 0⟩
  | branch :: rest => (sequenceWidth groups branch).capped.either (branchesWidth groups rest)

end

end Obligations.Pattern

namespace Obligations

/-- A pattern: its parts, its options, and the widths of its groups. -/
structure Pattern where
  body : List Pattern.Node
  options : Pattern.Options
  groups : List (Option Pattern.Width)

end Obligations
