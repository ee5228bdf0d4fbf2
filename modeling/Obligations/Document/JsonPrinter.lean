import Obligations.Document.Json
import Obligations.Value.Shown

/-! # JSON texts

Values as JSON. Dates and timestamps are written in ISO form and codes of status as texts.
-/

namespace Obligations.Document

open Obligations.Number Obligations.Text

namespace Json

/-- Four hexadecimal digits. -/
def fourDigits (code : Nat) : List Char :=
  let digits := Nat.toDigits 16 code
  List.replicate (4 - digits.length) '0' ++ digits

/-- A character inside quotes. -/
def escapedChar (c : Char) : List Char :=
  if c == '"' then ['\\', '"']
  else if c == '\\' then ['\\', '\\']
  else if c == '\n' then ['\\', 'n']
  else if c == '\r' then ['\\', 'r']
  else if c == '\t' then ['\\', 't']
  else if c.toNat < 0x20 then '\\' :: 'u' :: fourDigits c.toNat
  else [c]

def textOf (content : String) : String :=
  String.ofList ('"' :: content.toList.flatMap escapedChar ++ ['"'])

/-- A value without parts. -/
def scalar : Value → String
  | .null => "null"
  | .bool b => if b then "true" else "false"
  | .int n => intText n
  | .float x => x.valueText
  | .text s => textOf s
  | .date d => textOf d.iso
  | .stamp t => textOf t.iso
  | .visa v => textOf v.code
  | .phase p => textOf p.code
  | .list _ => "[]"
  | .map _ => "\x7b\x7d"

mutual

def write : Value → String
  | .list items => "[" ++ joined "," (writeItems items) ++ "]"
  | .map members => "\x7b" ++ joined "," (writeMembers members) ++ "\x7d"
  | value => scalar value

def writeItems : List Value → List String
  | [] => []
  | item :: rest => write item :: writeItems rest

def writeMembers : List (String × Value) → List String
  | [] => []
  | (name, value) :: rest => (textOf name ++ ":" ++ write value) :: writeMembers rest

end

/-- Lines between brackets, the first of which ends the line that they begin on. -/
def bracketed (opening closing : String) (parts : List (List String)) : List String :=
  let withComma := fun (lines : List String) =>
    lines.dropLast ++ (lines.getLast?.map (· ++ ",")).toList
  let body := (parts.dropLast.map withComma).flatten ++ parts.getLast?.getD []
  opening :: body.map ("  " ++ ·) ++ [closing]

/-- Lines with a name before the first of them. -/
def named (name : String) : List String → List String
  | [] => []
  | first :: rest => (textOf name ++ ": " ++ first) :: rest

mutual

/-- A value in lines, its parts two places further in. -/
def lines : Value → List String
  | .list (item :: rest) => bracketed "[" "]" (itemLines (item :: rest))
  | .map (member :: rest) => bracketed "\x7b" "\x7d" (memberLines (member :: rest))
  | value => [scalar value]

def itemLines : List Value → List (List String)
  | [] => []
  | item :: rest => lines item :: itemLines rest

def memberLines : List (String × Value) → List (List String)
  | [] => []
  | (name, value) :: rest => named name (lines value) :: memberLines rest

end

end Json

end Obligations.Document
