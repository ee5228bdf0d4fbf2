import Obligations.Text.Name.Alias
import Obligations.Text.Name.Ancient
import Obligations.Text.Name.Eastern
import Obligations.Text.Name.Emblematic
import Obligations.Text.Name.European
import Obligations.Text.Name.Notational
import Obligations.Text.Name.Presented
import Obligations.Text.Name.Symbolic
import Obligations.Text.Name.Worldwide
import Obligations.Text.Range
import Obligations.Text.Search

/-! # Names of characters

Characters by their names, which know no case. The names of ideographs hold their codes, and those of
Hangul syllables their spelling; such names have to be written in capitals, some others with codes
need not.
-/

namespace Obligations.Text

/-! ## Names of Hangul syllables

The name of a syllable is spelled from those of its three letters. Each letter is taken as long as
possible; the first and the last one may be silent.
-/

namespace Syllable

def initials : List String :=
  ["G", "GG", "N", "D", "DD", "R", "M", "B", "BB", "S", "SS", "", "J", "JJ", "C", "K", "T", "P", "H"]

def vowels : List String :=
  ["A", "AE", "YA", "YAE", "EO", "E", "YEO", "YE", "O", "WA", "WAE", "OE", "YO", "U", "WEO", "WE",
    "WI", "YU", "EU", "YI", "I"]

def finals : List String :=
  ["", "G", "GG", "GS", "N", "NJ", "NH", "D", "L", "LG", "LM", "LB", "LS", "LT", "LP", "LH", "M", "B",
    "BS", "S", "SS", "NG", "J", "C", "K", "T", "P", "H"]

/-- A letter at the start of a text. -/
structure Taken where
  /-- The place of the letter in its list. -/
  place : Nat
  length : Nat
  rest : List Char

/-- The longest of some letters with which a text begins, the places of which are counted from one
on. -/
def longest? (place : Nat) (letters : List String) (chars : List Char) : Option Taken :=
  match letters with
  | [] => none
  | letter :: others =>
    let later := longest? (place + 1) others chars
    match stripStart? letter.toList chars with
    | none => later
    | some rest =>
      if later.any (letter.length < ·.length) then later else some ⟨place, letter.length, rest⟩

def firstCode : Nat := 0xac00

def code? (spelling : List Char) : Option Nat := do
  let first ← longest? 0 initials spelling
  let vowel ← longest? 0 vowels first.rest
  let last ← longest? 0 finals vowel.rest
  if last.rest.isEmpty then
    return firstCode + (first.place * vowels.length + vowel.place) * finals.length + last.place
  else none

end Syllable

/-! ## Names of all characters -/

def unifiedRanges : List CodeRange :=
  [
    ⟨0x3400, 0x4dbf⟩, ⟨0x4e00, 0x9fff⟩, ⟨0x20000, 0x2a6df⟩, ⟨0x2a700, 0x2b738⟩,
    ⟨0x2b740, 0x2b81d⟩, ⟨0x2b820, 0x2cea1⟩, ⟨0x2ceb0, 0x2ebe0⟩, ⟨0x30000, 0x3134a⟩]

/-- What stands before the codes in further names with codes, and the codes that there are. -/
def codedNames : List (String × List CodeRange) :=
  [
    ("CJK COMPATIBILITY IDEOGRAPH-", [⟨0xf900, 0xfa6d⟩, ⟨0xfa70, 0xfad9⟩, ⟨0x2f800, 0x2fa1d⟩]),
    ("KHITAN SMALL SCRIPT CHARACTER-", [⟨0x18b00, 0x18cd5⟩]),
    ("NUSHU CHARACTER-", [⟨0x1b170, 0x1b2fb⟩])]

/-- The value of a digit to the base sixteen; letters are capitals. -/
def hexDigit? (c : Char) : Option Nat :=
  if c.isDigit then some (c.toNat - 48)
  else if 'A' ≤ c && c ≤ 'F' then some (c.toNat - 55)
  else none

/-- The number that four or five digits to the base sixteen denote. -/
def hexCode? (digits : List Char) : Option Nat :=
  if digits.length = 4 || digits.length = 5 then
    digits.foldlM (fun value c => (hexDigit? c).map (16 * value + ·)) 0
  else none

def unifiedCode? (digits : List Char) : Option Nat :=
  (hexCode? digits).filter fun code => unifiedRanges.any (·.contains code)

/-- The code in a name that is one of `codedNames`. Four digits are written as long as they suffice. -/
def codedName? (name : List Char) : Option Nat :=
  codedNames.findSome? fun (front, ranges) => do
    let digits ← stripStart? front.toList name
    let code ← hexCode? digits
    if ranges.any (·.contains code) && (code < 0x10000) == (digits.length == 4) then return code
    else none

/-- The runs of all names that are written out. -/
def nameTables : List (List NameRun) :=
  [NameRun.european, NameRun.eastern, NameRun.worldwide, NameRun.symbolic,
    NameRun.operational, NameRun.eastAsian, NameRun.minor, NameRun.presented,
    NameRun.ancient, NameRun.pictorial, NameRun.notational, NameRun.emblematic,
    NameRun.further]

def codeNamed? (name : List Char) : Option Nat :=
  match stripStart? "HANGUL SYLLABLE ".toList name with
  | some spelling => Syllable.code? spelling
  | none =>
    match stripStart? "CJK UNIFIED IDEOGRAPH-".toList name with
    | some digits => unifiedCode? digits
    | none =>
      let capitals := name.map Char.toUpper
      (codedName? capitals).or
        (nameTables.findSome? fun table => table.findSome? (·.code? capitals))

end Obligations.Text
