import Obligations.Number.Numeral
import Obligations.Text.Quoted

/-! # Faults of patterns

What is wrong with a text that is no pattern, and where.
-/

namespace Obligations.Pattern

open Obligations.Number Obligations.Text

/-- What is wrong with a text that is no pattern. -/
inductive FaultKind where
  | openEscape
  | badEscape (escape : String)
  | incompleteEscape (escape : String)
  | octalTooLarge (escape : String)
  | missingBrace
  | missingName (what : String)
  | openName (terminator : String)
  | unknownCharacter (name : String)
  | openReference
  | referenceInLookbehind
  | noSuchGroup (group : Nat)
  | openSet
  | badRange (first last : String)
  | reversedRepetition
  | nothingToRepeat
  | repeatedRepetition
  | endInGroup
  | badGroupName (name : String)
  | unknownGroupName (name : String)
  | badGroupNumber
  | unknownExtension (text : String)
  | openComment
  | openGroup
  | unopenedGroup
  | tooManyBranches
  | lateOptions
  | redefinedName (name : String) (index earlier : Nat)
  | localeOption
  | clashingOptions
  | missingOptionEnd
  | unknownOption
  | missingOption
  | missingColon
  | fixedOption
  | optionOnAndOff
  | wholeOptionOn
  | wholeOptionOff
  | forbiddenRepetition (kind : String)
  | openWidth
deriving DecidableEq, Repr

namespace FaultKind

/-- What the fault is reported as, without its place. -/
def message : FaultKind → String
  | .openEscape => "bad escape (end of pattern)"
  | .badEscape escape => "bad escape " ++ escape
  | .incompleteEscape escape => "incomplete escape " ++ escape
  | .octalTooLarge escape => "octal escape value " ++ escape ++ " outside of range 0-0o377"
  | .missingBrace => "missing \x7b"
  | .missingName what => "missing " ++ what
  | .openName terminator => "missing " ++ terminator ++ ", unterminated name"
  | .unknownCharacter name => "undefined character name " ++ quoted name
  | .openReference => "cannot refer to an open group"
  | .referenceInLookbehind => "cannot refer to group defined in the same lookbehind subpattern"
  | .noSuchGroup group => "invalid group reference " ++ intText group
  | .openSet => "unterminated character set"
  | .badRange first last => "bad character range " ++ first ++ "-" ++ last
  | .reversedRepetition => "min repeat greater than max repeat"
  | .nothingToRepeat => "nothing to repeat"
  | .repeatedRepetition => "multiple repeat"
  | .endInGroup => "unexpected end of pattern"
  | .badGroupName name => "bad character in group name " ++ quoted name
  | .unknownGroupName name => "unknown group name " ++ quoted name
  | .badGroupNumber => "bad group number"
  | .unknownExtension text => "unknown extension ?" ++ text
  | .openComment => "missing ), unterminated comment"
  | .openGroup => "missing ), unterminated subpattern"
  | .unopenedGroup => "unbalanced parenthesis"
  | .tooManyBranches => "conditional backref with more than two branches"
  | .lateOptions => "global flags not at the start of the expression"
  | .redefinedName name index earlier =>
    "redefinition of group name " ++ quoted name ++ " as group " ++ intText index ++
      "; was group " ++ intText earlier
  | .localeOption => "bad inline flags: cannot use 'L' flag with a str pattern"
  | .clashingOptions => "bad inline flags: flags 'a', 'u' and 'L' are incompatible"
  | .missingOptionEnd => "missing -, : or )"
  | .unknownOption => "unknown flag"
  | .missingOption => "missing flag"
  | .missingColon => "missing :"
  | .fixedOption => "bad inline flags: cannot turn off flags 'a', 'u' and 'L'"
  | .optionOnAndOff => "bad inline flags: flag turned on and off"
  | .wholeOptionOn => "bad inline flags: cannot turn on global flag"
  | .wholeOptionOff => "bad inline flags: cannot turn off global flag"
  | .forbiddenRepetition kind => "internal: unsupported template operator " ++ kind
  | .openWidth => "look-behind requires fixed-width pattern"

end FaultKind

/-- Why a text is no pattern. -/
inductive Fault where
  /-- The notation is wrong, at a position unless it is wrong as a whole. -/
  | malformed (kind : FaultKind) (position : Option Nat)
  /-- A repetition counts too far. -/
  | repetitionTooLarge
  /-- The number of a repetition has too many digits. -/
  | repetitionTooLong (digits : Nat)
  /-- The code of a character does not even fit a word of thirty-two bits with a sign. -/
  | codeTooWide
  /-- A part looks behind too far. -/
  | lookbehindTooWide
  /-- Parentheses stand too deep inside each other. -/
  | nestedTooDeep
  /-- The options of the pattern as a whole exclude each other. -/
  | exclusiveOptions
deriving DecidableEq, Repr

namespace Fault

/-- What the fault is reported as. A pattern of several lines has the line and the column told. -/
def message (chars : List Char) : Fault → String
  | .malformed kind none => kind.message
  | .malformed kind (some position) =>
    let before := chars.take position
    let line := before.count '\n' + 1
    let column := match before.reverse.findIdx? (· == '\n') with
      | some distance => distance + 1
      | none => position + 1
    let place := kind.message ++ " at position " ++ intText position
    if chars.contains '\n' then
      place ++ " (line " ++ intText line ++ ", column " ++ intText column ++ ")"
    else place
  | .repetitionTooLarge => "the repetition number is too large"
  | .repetitionTooLong digits => tooLongText digits
  | .codeTooWide => "Python int too large to convert to C int"
  | .lookbehindTooWide => "invalid SRE code"
  | .nestedTooDeep => "maximum recursion depth exceeded"
  | .exclusiveOptions => "ASCII and UNICODE flags are incompatible"

end Fault

end Obligations.Pattern
