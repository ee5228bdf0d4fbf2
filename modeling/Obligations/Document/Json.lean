import Obligations.Number.Numeral
import Obligations.Value.Basic

/-! # JSON documents

Reading of JSON texts, with the place and the cause of the first fault. Of the members of an object
with one name the last counts. Numbers without fraction and exponent are whole numbers of any size;
the words for infinities and for no number are read as well. A reader's place in a text is what is
left of it, and how many characters have been read.
-/

namespace Obligations.Document

open Obligations.Number Obligations.Text

/-- What is left of a text and how much of it has been read. -/
structure Cursor where
  rest : List Char
  position : Nat
deriving DecidableEq, Repr

namespace Cursor

def ofText (text : String) : Cursor :=
  ⟨text.toList, 0⟩

/-- The cursor a number of characters further on. -/
def advance (cursor : Cursor) (count : Nat) : Cursor :=
  ⟨cursor.rest.drop count, cursor.position + count⟩

def next? (cursor : Cursor) : Option Char :=
  cursor.rest.head?

/-- The cursor behind all characters of a kind. -/
def skip (cursor : Cursor) (kind : Char → Bool) : Cursor :=
  cursor.advance (cursor.rest.takeWhile kind).length

end Cursor

/-- The line and the column of a position, both counted from one. -/
def lineAndColumn (chars : List Char) (position : Nat) : Nat × Nat :=
  let before := chars.take position
  (before.count '\n' + 1, (before.reverse.takeWhile (· != '\n')).length + 1)

/-- What is wrong with a text that is not JSON. -/
inductive JsonFault.Cause where
  | byteOrderMark
  | noValue
  | extraData
  | noMemberName
  | noColon
  | noComma
  | openText
  | controlCharacter
  | badEscape
  | badCodeEscape
deriving DecidableEq, Repr

namespace JsonFault.Cause

def message : JsonFault.Cause → String
  | .byteOrderMark => "Unexpected UTF-8 BOM (decode using utf-8-sig)"
  | .noValue => "Expecting value"
  | .extraData => "Extra data"
  | .noMemberName => "Expecting property name enclosed in double quotes"
  | .noColon => "Expecting ':' delimiter"
  | .noComma => "Expecting ',' delimiter"
  | .openText => "Unterminated string starting at"
  | .controlCharacter => "Invalid control character at"
  | .badEscape => "Invalid \\escape"
  | .badCodeEscape => "Invalid \\uXXXX escape"

end JsonFault.Cause

/-- A fault of a JSON text: a cause at a position, a whole number that is too long, or lists and
objects that stand too deep inside each other. -/
inductive JsonFault where
  | at (cause : JsonFault.Cause) (position : Nat)
  | numeralTooLong (digits : Nat)
  | nestedTooDeep
deriving DecidableEq, Repr

namespace JsonFault

/-- What the fault is reported as, with the line and the column in the text. -/
def message (chars : List Char) : JsonFault → String
  | .at cause position =>
    let (line, column) := lineAndColumn chars position
    cause.message ++ ": line " ++ intText line ++ " column " ++ intText column ++
      " (char " ++ intText position ++ ")"
  | .numeralTooLong digits => tooLongText digits
  | .nestedTooDeep => "maximum recursion depth exceeded"

end JsonFault

namespace Json

/-- White space between the parts of a document. -/
def isSpace (c : Char) : Bool :=
  c == ' ' || c == '\t' || c == '\n' || c == '\r'

/-- The cursor behind the white space. -/
def skipSpace (cursor : Cursor) : Cursor :=
  cursor.skip isSpace

/-- The value of a hexadecimal digit. -/
def hexValue? (c : Char) : Option Nat :=
  if '0' ≤ c && c ≤ '9' then some (c.toNat - 48)
  else if 'a' ≤ c && c ≤ 'f' then some (c.toNat - 87)
  else if 'A' ≤ c && c ≤ 'F' then some (c.toNat - 55)
  else none

/-- The number in four hexadecimal digits. -/
def hexCode? (chars : List Char) : Option Nat :=
  if chars.length = 4 then
    chars.foldlM (fun code c => (hexValue? c).map (16 * code + ·)) 0
  else none

/-- The character that a letter stands for behind a backslash. -/
def escaped? : Char → Option Char
  | '"' => some '"'
  | '\\' => some '\\'
  | '/' => some '/'
  | 'b' => some (Char.ofNat 8)
  | 'f' => some (Char.ofNat 12)
  | 'n' => some '\n'
  | 'r' => some '\r'
  | 't' => some '\t'
  | _ => none

def isHighHalf (code : Nat) : Bool := 0xd800 ≤ code && code ≤ 0xdbff

def isLowHalf (code : Nat) : Bool := 0xdc00 ≤ code && code ≤ 0xdfff

/-- The character of a code; a half without its partner is replaced. -/
def charOfCode (code : Nat) : Char :=
  if isHighHalf code || isLowHalf code then Char.ofNat 0xfffd else Char.ofNat code

/-- The characters of a text up to its closing quote. `opening` is the position of the opening
quote. -/
def readChars (opening : Nat) : Nat → Cursor → Except JsonFault (List Char × Cursor)
  | 0, _ => .error (.at .openText opening)
  | fuel + 1, cursor =>
    match cursor.rest with
    | [] => .error (.at .openText opening)
    | '"' :: _ => .ok ([], cursor.advance 1)
    | '\\' :: tail =>
      match tail with
      | [] => .error (.at .openText opening)
      | 'u' :: digits =>
        -- A code needs a character behind its four digits.
        if digits.length ≤ 4 then .error (.at .badCodeEscape (cursor.position + 1))
        else
          match hexCode? (digits.take 4) with
          | none => .error (.at .badCodeEscape (cursor.position + 1))
          | some high =>
            let afterCode := cursor.advance 6
            match afterCode.rest with
            | '\\' :: 'u' :: more =>
              if isHighHalf high && 4 < more.length then
                match hexCode? (more.take 4) with
                | none => .error (.at .badCodeEscape (afterCode.position + 1))
                | some low =>
                  if isLowHalf low then do
                    let code := 0x10000 + (high - 0xd800) * 0x400 + (low - 0xdc00)
                    let (chars, after) ← readChars opening fuel (afterCode.advance 6)
                    return (Char.ofNat code :: chars, after)
                  else do
                    let (chars, after) ← readChars opening fuel afterCode
                    return (charOfCode high :: chars, after)
              else do
                let (chars, after) ← readChars opening fuel afterCode
                return (charOfCode high :: chars, after)
            | _ => do
              let (chars, after) ← readChars opening fuel afterCode
              return (charOfCode high :: chars, after)
      | letter :: _ =>
        match escaped? letter with
        | none => .error (.at .badEscape cursor.position)
        | some c => do
          let (chars, after) ← readChars opening fuel (cursor.advance 2)
          return (c :: chars, after)
    | c :: _ =>
      if c.toNat < 0x20 then .error (.at .controlCharacter cursor.position)
      else do
        let (chars, after) ← readChars opening fuel (cursor.advance 1)
        return (c :: chars, after)

/-- A text whose opening quote is at the cursor. -/
def readText (cursor : Cursor) : Except JsonFault (String × Cursor) := do
  let (chars, after) ← readChars cursor.position (cursor.rest.length + 1) (cursor.advance 1)
  return (String.ofList chars, after)

/-- The fraction at the start of a text, with its point: at least one digit. -/
def fractionPart (chars : List Char) : List Char :=
  match chars with
  | '.' :: rest =>
    let digits := rest.takeWhile Char.isDigit
    if digits.isEmpty then [] else '.' :: digits
  | _ => []

/-- The exponent at the start of a text, with its letter: at least one digit. -/
def exponentPart (chars : List Char) : List Char :=
  match chars with
  | letter :: rest =>
    if letter == 'e' || letter == 'E' then
      let sign := rest.takeWhile (fun c => c == '+' || c == '-') |>.take 1
      let digits := (rest.drop sign.length).takeWhile Char.isDigit
      if digits.isEmpty then [] else letter :: (sign ++ digits)
    else []
  | [] => []

/-- A number at the cursor. -/
def readNumber (cursor : Cursor) : Except JsonFault (Value × Cursor) :=
  let sign := if cursor.next? = some '-' then ['-'] else []
  let body := cursor.rest.drop sign.length
  let whole := match body with
    | '0' :: _ => ['0']
    | _ => body.takeWhile Char.isDigit
  if whole.isEmpty then .error (.at .noValue cursor.position)
  else
    let fraction := fractionPart (body.drop whole.length)
    let exponent := exponentPart (body.drop (whole.length + fraction.length))
    let chars := sign ++ whole ++ fraction ++ exponent
    let after := cursor.advance chars.length
    if fraction.isEmpty && exponent.isEmpty then
      match readInt chars with
      | .ok n => .ok (.int n, after)
      | .error (.tooLong digits) => .error (.numeralTooLong digits)
      | .error .malformed => .error (.at .noValue cursor.position)
    else .ok (.float ((readDecimal? chars).getD .nan), after)

def words : List (String × Value) :=
  [("null", .null), ("true", .bool true), ("false", .bool false), ("NaN", .float .nan),
   ("Infinity", .float (.infinite false)), ("-Infinity", .float (.infinite true))]

/-- A word for a value at the cursor. -/
def readWord? (cursor : Cursor) : Option (Value × Cursor) :=
  words.findSome? fun (word, value) =>
    if word.toList.isPrefixOf cursor.rest then some (value, cursor.advance word.length) else none

/-- How many lists and objects can stand inside each other. -/
def nestingLimit : Nat := 990

mutual

/-- A value at the cursor, which may be nested as deep as `levels` tells. -/
def readValue : Nat → Nat → Cursor → Except JsonFault (Value × Cursor)
  | 0, _, cursor => .error (.at .noValue cursor.position)
  | fuel + 1, levels, cursor =>
    match cursor.next?, levels with
    | some '"', _ => do
      let (content, after) ← readText cursor
      return (.text content, after)
    | some '[', 0 => .error .nestedTooDeep
    | some '[', levels + 1 =>
      let inside := skipSpace (cursor.advance 1)
      if inside.next? = some ']' then .ok (.list [], inside.advance 1)
      else do
        let (items, after) ← readItems fuel levels inside
        return (.list items, after)
    | some '\x7b', 0 => .error .nestedTooDeep
    | some '\x7b', levels + 1 =>
      let inside := skipSpace (cursor.advance 1)
      if inside.next? = some '\x7d' then .ok (.map [], inside.advance 1)
      else do
        let (members, after) ← readMembers fuel levels inside
        return (.map (Value.membersOf members), after)
    | _, _ =>
      match readWord? cursor with
      | some found => .ok found
      | none => readNumber cursor

/-- The items of a list from the cursor to the closing bracket. -/
def readItems : Nat → Nat → Cursor → Except JsonFault (List Value × Cursor)
  | 0, _, cursor => .error (.at .noValue cursor.position)
  | fuel + 1, levels, cursor => do
    let (item, afterItem) ← readValue fuel levels cursor
    let after := skipSpace afterItem
    match after.next? with
    | some ']' => return ([item], after.advance 1)
    | some ',' => do
      let (items, last) ← readItems fuel levels (skipSpace (after.advance 1))
      return (item :: items, last)
    | _ => .error (.at .noComma after.position)

/-- The members of an object from the cursor to the closing brace. -/
def readMembers : Nat → Nat → Cursor → Except JsonFault (List (String × Value) × Cursor)
  | 0, _, cursor => .error (.at .noValue cursor.position)
  | fuel + 1, levels, cursor =>
    if cursor.next? != some '"' then .error (.at .noMemberName cursor.position)
    else do
      let (name, afterName) ← readText cursor
      let colon := skipSpace afterName
      if colon.next? != some ':' then .error (.at .noColon colon.position)
      else
        let (value, afterValue) ← readValue fuel levels (skipSpace (colon.advance 1))
        let after := skipSpace afterValue
        match after.next? with
        | some '\x7d' => return ([(name, value)], after.advance 1)
        | some ',' => do
          let (members, last) ← readMembers fuel levels (skipSpace (after.advance 1))
          return ((name, value) :: members, last)
        | _ => .error (.at .noComma after.position)

end

def read (content : String) : Except JsonFault Value :=
  if content.toList.head? = some (Char.ofNat 0xfeff) then .error (.at .byteOrderMark 0)
  else do
    let start := skipSpace (Cursor.ofText content)
    let (value, afterValue) ← readValue (2 * start.rest.length + 2) nestingLimit start
    let finish := skipSpace afterValue
    if finish.rest.isEmpty then return value else .error (.at .extraData finish.position)

end Json

end Obligations.Document
