import Obligations.Pattern.Reader
import Obligations.Text.Blank
import Obligations.Text.Case
import Obligations.Text.Letter

/-! # Searching for patterns

A pattern is matched from a position of a text on. Where there are several ways to match a part, they
are tried in order of preference, and the first one is taken with which all that follows matches too.
Repetitions end because a round that moves nothing is the last one.
-/

namespace Obligations.Pattern

open Obligations.Text

/-! ## Characters that differ only in case

For searching without regard to case, a character stands for its lower-case form, and some
lower-case forms stand for each other because they share their upper-case form.
-/

/-- Lower-case codes with the other lower-case codes that share their upper-case form. -/
def sharedUpper : List (Nat × List Nat) :=
  [
    (0x69, [0x131]), (0x73, [0x17f]), (0xb5, [0x3bc]), (0x131, [0x69]), (0x17f, [0x73]),
    (0x345, [0x3b9, 0x1fbe]), (0x390, [0x1fd3]), (0x3b0, [0x1fe3]), (0x3b2, [0x3d0]),
    (0x3b5, [0x3f5]), (0x3b8, [0x3d1]), (0x3b9, [0x345, 0x1fbe]), (0x3ba, [0x3f0]),
    (0x3bc, [0xb5]), (0x3c0, [0x3d6]), (0x3c1, [0x3f1]), (0x3c2, [0x3c3]), (0x3c3, [0x3c2]),
    (0x3c6, [0x3d5]), (0x3d0, [0x3b2]), (0x3d1, [0x3b8]), (0x3d5, [0x3c6]), (0x3d6, [0x3c0]),
    (0x3f0, [0x3ba]), (0x3f1, [0x3c1]), (0x3f5, [0x3b5]), (0x432, [0x1c80]), (0x434, [0x1c81]),
    (0x43e, [0x1c82]), (0x441, [0x1c83]), (0x442, [0x1c84, 0x1c85]), (0x44a, [0x1c86]),
    (0x463, [0x1c87]), (0x1c80, [0x432]), (0x1c81, [0x434]), (0x1c82, [0x43e]), (0x1c83, [0x441]),
    (0x1c84, [0x442, 0x1c85]), (0x1c85, [0x442, 0x1c84]), (0x1c86, [0x44a]), (0x1c87, [0x463]),
    (0x1c88, [0xa64b]), (0x1e61, [0x1e9b]), (0x1e9b, [0x1e61]), (0x1fbe, [0x345, 0x3b9]),
    (0x1fd3, [0x390]), (0x1fe3, [0x3b0]), (0xa64b, [0x1c88]), (0xfb05, [0xfb06]),
    (0xfb06, [0xfb05])]

/-- The lower-case codes that a lower-case code stands for, itself included. -/
def caseMates (lower : Nat) : List Nat :=
  lower :: (sharedUpper.lookup lower).getD []

/-- The lower-case code of a character; with plain characters only, others stay as they are. -/
def lowerCode (ascii : Bool) (c : Char) : Nat :=
  if ascii then c.toLower.toNat else (lowerChar c).toNat

/-- Whether a character has a form in another case. -/
def isCased (ascii : Bool) (c : Char) : Bool :=
  if ascii then c.isAlpha else lowerChar c != c || upperChars [c] != [c]

/-- The codes whose lower-case form is a given code. -/
def withLower (ascii : Bool) (lower : Nat) : List Nat :=
  let capitals :=
    if ascii then (if 97 ≤ lower && lower ≤ 122 then [lower - 32] else [])
    else
      let fromRuns := lowerRuns.filterMap fun run =>
        let code := ((lower : Int) - run.distance).toNat
        if run.moves code && (code : Int) + run.distance == lower then some code else none
      if lower = 'i'.toNat then 0x130 :: fromRuns else fromRuns
  if lowerCode ascii (Char.ofNat lower) = lower then lower :: capitals else capitals

/-! ## Matching -/

/-- A position in a text and what the groups have matched so far. -/
structure Progress where
  position : Nat
  groups : List (Nat × (Nat × Nat))
deriving Repr

/-- What has to match behind a part. -/
abbrev Rest := Progress → Option Progress

def CharClass.contains (kind : CharClass) (ascii : Bool) (c : Char) : Bool :=
  match kind with
  | .digit => if ascii then c.isDigit else isDecimalDigit c
  | .space => if ascii then isPatternSpace c else isBlank c
  | .word => if ascii then c.isAlphanum || c == '_' else isWordChar c

/-- Whether a character is the same as a member of a set. -/
def SetItem.contains (ascii : Bool) (c : Char) : SetItem → Bool
  | .code wanted => c.toNat == wanted
  | .range first last => first ≤ c.toNat && c.toNat ≤ last
  | .ofClass kind inside => kind.contains ascii c == inside

/-- Whether a member of a set has characters with a form in another case. -/
def SetItem.isCased (ascii : Bool) : SetItem → Bool
  | .code wanted => Pattern.isCased ascii (Char.ofNat wanted)
  | .range first last =>
    (List.range (min (last + 1 - first) 66000)).any fun step =>
      Pattern.isCased ascii (Char.ofNat (first + step))
  | .ofClass _ _ => false

/-- Whether a lower-case code belongs to a member of a set when case does not matter. -/
def SetItem.containsFolded (ascii : Bool) (lower : Nat) (item : SetItem) : Bool :=
  match item with
  | .ofClass kind inside => kind.contains ascii (Char.ofNat lower) == inside
  | _ =>
    let mates := if ascii then [lower] else caseMates lower
    (mates.flatMap (withLower ascii)).any fun code => item.contains ascii (Char.ofNat code)

def matchesCode (options : Options) (code : Nat) (c : Char) : Bool :=
  let wanted := Char.ofNat code
  if options.ignoreCase && isCased options.ascii wanted then
    let lower := lowerCode options.ascii wanted
    let mates := if options.ascii then [lower] else caseMates lower
    mates.contains (lowerCode options.ascii c)
  else c.toNat == code

def matchesSet (options : Options) (items : List SetItem) (c : Char) : Bool :=
  if options.ignoreCase && items.any (·.isCased options.ascii) then
    items.any (·.containsFolded options.ascii (lowerCode options.ascii c))
  else items.any (·.contains options.ascii c)

def isWordEdge (ascii : Bool) (text : Array Char) (position : Nat) : Bool :=
  let isWordAt := fun index => (text[index]?).any (CharClass.word.contains ascii)
  (position != 0 && isWordAt (position - 1)) != isWordAt position

/-- Whether an anchor matches at a position. -/
def Anchor.holds (kind : Anchor) (options : Options) (text : Array Char) (position : Nat) : Bool :=
  match kind with
  | .textStart => position == 0
  | .textEnd => position == text.size
  | .lineStart =>
    position == 0 || (options.multiline && text[position - 1]? == some '\n')
  | .lineEnd =>
    position == text.size ||
      (text[position]? == some '\n' && (options.multiline || position + 1 == text.size))
  | .wordEdge => text.size != 0 && isWordEdge options.ascii text position
  | .noWordEdge => text.size != 0 && !isWordEdge options.ascii text position

/-- One character of a kind, and then the rest. -/
def matchOne (text : Array Char) (kind : Char → Bool) (rest : Rest) (here : Progress) :
    Option Progress :=
  match text[here.position]? with
  | some c => if kind c then rest { here with position := here.position + 1 } else none
  | none => none

/-- The characters that a group has matched, again. -/
def matchAgain (options : Options) (text : Array Char) (group : Nat) (rest : Rest)
    (here : Progress) : Option Progress :=
  match here.groups.lookup group with
  | none => none
  | some (first, last) =>
    let same := (List.range (last - first)).all fun step =>
      match text[first + step]?, text[here.position + step]? with
      | some a, some b =>
        if options.ignoreCase then lowerCode options.ascii a == lowerCode options.ascii b
        else a == b
      | _, _ => false
    if same then rest { here with position := here.position + (last - first) } else none

/-- What one round of a repetition does: it matches the repeated part, and then the rest. -/
abbrev Round := Rest → Progress → Option Progress

/-- A repetition as often as possible. `count` rounds have been made, the last of those beyond the
least number from `last` on. -/
def repeatGreedy (round : Round) (least : Nat) (greatest : Option Nat) (rest : Rest) :
    Nat → Nat → Option Nat → Progress → Option Progress
  | 0, _, _, _ => none
  | fuel + 1, count, last, here =>
    if count < least then round (repeatGreedy round least greatest rest fuel (count + 1) last) here
    else if greatest.all (count < ·) && last != some here.position then
      match round (repeatGreedy round least greatest rest fuel (count + 1) (some here.position)) here with
      | some found => some found
      | none => rest here
    else rest here

/-- A repetition as seldom as possible. -/
def repeatLazy (round : Round) (least : Nat) (greatest : Option Nat) (rest : Rest) :
    Nat → Nat → Option Nat → Progress → Option Progress
  | 0, _, _, _ => none
  | fuel + 1, count, last, here =>
    if count < least then round (repeatLazy round least greatest rest fuel (count + 1) last) here
    else
      match rest here with
      | some found => some found
      | none =>
        if greatest.all (count < ·) && last != some here.position then
          round (repeatLazy round least greatest rest fuel (count + 1) (some here.position)) here
        else none

/-- A repetition as often as possible, of which nothing is given back. -/
def repeatPossessive (round : Round) (least : Nat) (greatest : Option Nat) :
    Nat → Nat → Option Nat → Progress → Option Progress
  | 0, _, _, _ => none
  | fuel + 1, count, last, here =>
    if count < least then
      match round some here with
      | some next => repeatPossessive round least greatest fuel (count + 1) last next
      | none => none
    else if greatest.all (count < ·) && last != some here.position then
      match round some here with
      | some next => repeatPossessive round least greatest fuel (count + 1) (some here.position) next
      | none => some here
    else some here

mutual

/-- One part, and then the rest. -/
def matchNode (text : Array Char) (widths : List (Option Width)) (options : Options) :
    Node → Rest → Progress → Option Progress
  | .char code, rest, here => matchOne text (matchesCode options code) rest here
  | .notChar code, rest, here => matchOne text (fun c => !matchesCode options code c) rest here
  | .any, rest, here => matchOne text (fun c => options.dotAll || c != '\n') rest here
  | .set negated items, rest, here =>
    matchOne text (fun c => matchesSet options items c != negated) rest here
  | .anchor kind, rest, here => if kind.holds options text here.position then rest here else none
  | .repeated eagerness least greatest body, rest, here =>
    let round : Round := fun rest here => matchSequence text widths options body rest here
    let fuel := least + (text.size - here.position) + 3
    match eagerness with
    | .greedy => repeatGreedy round least greatest rest fuel 0 none here
    | .lazy => repeatLazy round least greatest rest fuel 0 none here
    | .possessive => (repeatPossessive round least greatest fuel 0 none here).bind rest
  | .group index added removed body, rest, here =>
    let close : Rest := fun there =>
      match index with
      | some group =>
        rest { there with groups := (group, (here.position, there.position)) :: there.groups }
      | none => rest there
    matchSequence text widths (options.switched added removed) body close here
  | .atomic body, rest, here => (matchSequence text widths options body some here).bind rest
  | .look ahead negated body, rest, here =>
    let back := if ahead then 0 else (sequenceWidth widths body).least
    let found :=
      if here.position < back then none
      else matchSequence text widths options body some { here with position := here.position - back }
    match found, negated with
    | some there, false => rest { here with groups := there.groups }
    | none, true => rest here
    | _, _ => none
  | .alternatives branches, rest, here => matchBranches text widths options branches rest here
  | .reference group, rest, here => matchAgain options text group rest here
  | .conditional group present absent, rest, here =>
    if (here.groups.lookup group).isSome then matchSequence text widths options present rest here
    else matchSequence text widths options absent rest here

/-- Parts in a row, and then the rest. -/
def matchSequence (text : Array Char) (widths : List (Option Width)) (options : Options) :
    List Node → Rest → Progress → Option Progress
  | [], rest, here => rest here
  | node :: nodes, rest, here =>
    matchNode text widths options node (fun there => matchSequence text widths options nodes rest there)
      here

/-- The first branch that matches, and then the rest. -/
def matchBranches (text : Array Char) (widths : List (Option Width)) (options : Options) :
    List (List Node) → Rest → Progress → Option Progress
  | [], _, _ => none
  | branch :: branches, rest, here =>
    match matchSequence text widths options branch rest here with
    | some found => some found
    | none => matchBranches text widths options branches rest here

end

def matchAt? (pattern : Pattern) (text : Array Char) (position : Nat) : Option Progress :=
  matchSequence text pattern.groups pattern.options pattern.body some ⟨position, []⟩

def occursIn (pattern : Pattern) (content : String) : Bool :=
  let text := content.toList.toArray
  (List.range (text.size + 1)).any fun position => (pattern.matchAt? text position).isSome

end Obligations.Pattern
