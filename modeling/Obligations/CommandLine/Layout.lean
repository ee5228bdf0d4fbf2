import Obligations.Text.Blank

/-! # Layout

Lines of printed text in a space of a certain width. A tab goes on to the next place that is a
multiple of eight, and a line that is too long is broken before a word. A word that is longer than the
space is broken wherever it has to be, or cut off with an ellipsis. Every character takes one place.
-/

namespace Obligations.CommandLine.Layout

open Obligations.Text

def tabWidth : Nat := 8

/-- The width that a line asks for, to which tabs add nothing. -/
def width (line : List Char) : Nat :=
  (line.filter (· != '\t')).length

/-- A line with spaces for tabs, from a place on. -/
def withoutTabs : Nat → List Char → List Char
  | _, [] => []
  | place, '\t' :: rest =>
    let spaces := tabWidth - place % tabWidth
    List.replicate spaces ' ' ++ withoutTabs (place + spaces) rest
  | place, c :: rest => c :: withoutTabs (place + 1) rest

/-- A word with the white space around it at the start of a text, and the rest. -/
def takeWord (chars : List Char) : List Char × List Char :=
  let lead := chars.takeWhile isBlank
  let solid := (chars.drop lead.length).takeWhile (!isBlank ·)
  let trail := (chars.drop (lead.length + solid.length)).takeWhile isBlank
  let size := lead.length + solid.length + trail.length
  (chars.take size, chars.drop size)

/-- The pieces of a word that is longer than the space. -/
def folded (space : Nat) : Nat → List Char → List (List Char)
  | 0, chars => [chars]
  | fuel + 1, chars =>
    if chars.length ≤ space then [chars]
    else chars.take space :: folded space fuel (chars.drop space)

/-- The lines of words, of which the first goes on from what has been set in its line. Where words are
not folded, one that is longer than the space has a line for itself. -/
def setWords (folds : Bool) (space : Nat) : Nat → List Char → List Char → List (List Char)
  | 0, current, chars => [current ++ chars]
  | fuel + 1, current, chars =>
    match takeWord chars with
    | ([], _) => [current]
    | (word, rest) =>
      let size := (trimRight word).length
      let begun := if current.isEmpty then [] else [current]
      if size = 0 || current.length + size ≤ space then
        setWords folds space fuel (current ++ word) rest
      else if folds && space < size then
        let pieces := folded space word.length word
        begun ++ pieces.dropLast ++ setWords folds space fuel (pieces.getLastD []) rest
      else begun ++ setWords folds space fuel word rest

/-- A line cut off with an ellipsis where it goes beyond the space; white space at its end does not
count. -/
def cutOff (space : Nat) (line : List Char) : List Char :=
  let kept := (trimRight line).length
  if line.length ≤ space then line
  else if kept ≤ space then line.take space
  else line.take (space - 1) ++ ['…']

/-- The lines that a line takes up in a space. -/
def set (folds : Bool) (space : Nat) (line : List Char) : List (List Char) :=
  (setWords folds (max space 1) (line.length + 1) [] (withoutTabs 0 line)).map (cutOff (max space 1))

/-- The greatest width that lines ask for. -/
def widest (lines : List (List Char)) : Nat :=
  (lines.map width).foldl max 0

/-- Lines set in a space, without white space at their ends. -/
def setAll (folds : Bool) (space : Nat) (lines : List (List Char)) : List String :=
  (lines.flatMap (set folds space)).map fun line => String.ofList (trimChars line)

end Obligations.CommandLine.Layout
