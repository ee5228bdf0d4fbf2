import Obligations.CommandLine.Pictograph.Table
import Obligations.Text.Blank
import Obligations.Text.Case
import Obligations.Text.Search

/-! # Pictographs

Printed text may name a pictograph between two colons, in any case. The name may end in a dash and a
word for the presentation that is wanted. What names no pictograph stays as it is.
-/

namespace Obligations.CommandLine.Pictograph

open Obligations.Text

/-- What a table of names, each with a blank and its meaning behind it, has for a name. -/
def meaning? (table : List String) (name : List Char) : Option (List Char) :=
  (table.flatMap (pieces ',' ·.toList)).findSome? (stripStart? (name ++ [' ']))

/-- The flag of a region with a code of two letters. -/
def flag (code : List Char) : List Char :=
  code.map fun c => Char.ofNat (0x1f1e6 + (c.toNat - 97))

def tones : List (String × Char) :=
  [("light", '🏻'), ("medium-light", '🏼'), ("medium", '🏽'), ("medium-dark", '🏾'), ("dark", '🏿')]

/-- A figure with a tone, which stands behind its first character in place of a sign for its
presentation. -/
def toned (tone : Char) : List Char → List Char
  | first :: '\uFE0F' :: rest => first :: tone :: rest
  | first :: rest => first :: tone :: rest
  | [] => []

/-- A figure with a tone by its name. -/
def tonedFigure? (name : List Char) : Option (List Char) :=
  tones.findSome? fun (word, tone) => do
    let back ← stripStart? ("_" ++ word ++ "_skin_tone").toList.reverse name.reverse
    return toned tone (← meaning? tonedFigures back.reverse)

def flagOfRegion? (name : List Char) : Option (List Char) := do
  meaning? regions (← stripStart? "flag_for_".toList name)

def named? (name : List Char) : Option (List Char) :=
  ((signs :: scenes :: faces :: figures :: [tonedFigures]).findSome? (meaning? · name)).or
    ((tonedFigure? name).or
      (((meaning? regions name).or ((flagOfRegion? name).or (meaning? flagNames name))).map flag))

/-- A name without the words for a presentation at its end, and the sign that asks for it. -/
def splitPresentation (name : List Char) : List Char × List Char :=
  match stripStart? "-text".toList.reverse name.reverse with
  | some back => (back.reverse, ['\uFE0E'])
  | none =>
    match stripStart? "-emoji".toList.reverse name.reverse with
    | some back => (back.reverse, ['\uFE0F'])
    | none => (name, [])

/-- The pictograph for what stands between two colons. -/
def ofCode? (code : List Char) : Option (List Char) :=
  let (name, presentation) := splitPresentation code
  (named? (lower (String.ofList name)).toList).map (· ++ presentation)

/-- A text with pictographs for their names. Colons with white space between them belong to no name;
a name that means nothing ends with its second colon all the same. -/
def shown : Nat → List Char → List Char
  | 0, chars => chars
  | _ + 1, [] => []
  | fuel + 1, ':' :: rest =>
    let code := rest.takeWhile fun c => c != ':' && !isBlank c
    match rest.drop code.length with
    | ':' :: after => (ofCode? code).getD (':' :: code ++ [':']) ++ shown fuel after
    | _ => ':' :: shown fuel rest
  | fuel + 1, c :: rest => c :: shown fuel rest

end Obligations.CommandLine.Pictograph
