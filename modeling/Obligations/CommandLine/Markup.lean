import Obligations.CommandLine.Pictograph
import Obligations.CommandLine.Style

/-! # Marked text

Printed text may hold tags in brackets, which set the style of what they enclose and are not printed
themselves. A tag begins with a small letter or one of three signs, and a slash closes one; a
backslash before a bracket makes it stand for itself. A closing tag needs one that it closes.
-/

namespace Obligations.CommandLine.Markup

open Obligations.Text

/-- A part of a marked text. -/
inductive Part where
  | plain (chars : List Char)
  | opening (name : String)
  | closing (name : String)
deriving DecidableEq, Repr

/-- Whether a character can begin a tag. -/
def startsTag (c : Char) : Bool :=
  ('a' ≤ c && c ≤ 'z') || c == '#' || c == '/' || c == '@'

/-- The inside of a tag whose opening bracket has been read, and what is behind it. -/
def takeTag? (chars : List Char) : Option (List Char × List Char) :=
  let isInside := fun c : Char => c != '[' && c != ']'
  match chars with
  | c :: _ =>
    if startsTag c then
      match chars.dropWhile isInside with
      | ']' :: rest => some (chars.takeWhile isInside, rest)
      | _ => none
    else none
  | [] => none

/-- The tag of what stands between brackets. Only what stands before an equals sign counts. -/
def tagOf (inside : List Char) : Part :=
  match inside.takeWhile (· != '=') with
  | '/' :: name =>
    let name := trim (String.ofList name)
    .closing (if name.isEmpty then "" else Style.normalName name)
  | name => .opening (Style.normalName (String.ofList name))

/-- Parts with characters before them, which join a plain part in front. -/
def joinPlain (chars : List Char) : List Part → List Part
  | .plain others :: rest => .plain (chars ++ others) :: rest
  | rest => .plain chars :: rest

/-- The parts of a text. Backslashes before a tag, and a tag that they make stand for itself, are
parts of their own. -/
def parts : Nat → List Char → List Part
  | 0, _ => []
  | _ + 1, [] => []
  | fuel + 1, c :: rest =>
    let slashes := ((c :: rest).takeWhile (· == '\\')).length
    match (c :: rest).drop slashes with
    | '[' :: inside =>
      match takeTag? inside with
      | some (tag, after) =>
        let behind := .plain [] :: parts fuel after
        let kept := [.plain [], .plain (List.replicate (slashes / 2) '\\')]
        if slashes % 2 = 1 then kept ++ .plain ('[' :: tag ++ [']']) :: behind
        else kept ++ tagOf tag :: behind
      | none => joinPlain (List.replicate (slashes - 1) '\\' ++ ['[']) (parts fuel inside)
    | after =>
      if slashes = 0 then joinPlain [c] (parts fuel rest)
      else joinPlain (List.replicate slashes '\\') (parts fuel after)

/-- The open tags without the last one of a name; without a name the last one of all is taken. -/
def close? (name : String) (opened : List String) : Option (List String) :=
  if name.isEmpty then
    match opened with
    | [] => none
    | _ :: others => some others
  else if opened.contains name then some (opened.erase name)
  else none

/-- The characters that are printed of parts, as long as every closing tag closes one. -/
def printed? : List String → List Part → Option (List Char)
  | _, [] => some []
  | opened, .plain chars :: rest =>
    (printed? opened rest).map (Pictograph.shown (chars.length + 1) chars ++ ·)
  | opened, .opening name :: rest => printed? (name :: opened) rest
  | opened, .closing name :: rest => (close? name opened).bind fun opened => printed? opened rest

/-- Whether a character moves the place of printing and is not printed itself. -/
def isControl (c : Char) : Bool :=
  [7, 8, 11, 12, 13].contains c.toNat

/-- The lines of a text without its tags. -/
def lines? (content : String) : Option (List (List Char)) :=
  (printed? [] (parts (content.length + 1) content.toList)).map fun chars =>
    pieces '\n' (chars.filter (!isControl ·))

end Obligations.CommandLine.Markup
