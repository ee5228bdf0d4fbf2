import Obligations.Text.Search

/-! # Runs of names

Names of characters are stored in runs: characters with codes in a row, the names of which begin with
the same words. The rest of each name is given in the order of the codes.
-/

namespace Obligations.Text

/-- Names of characters in a row. -/
structure NameRun where
  /-- The code of the first character. -/
  first : Nat
  /-- The words with which all the names begin. -/
  front : String
  /-- How the names go on, with commas between them, in lines. -/
  endings : List String

namespace NameRun

/-- The code of the character of a name, as long as it is in the run. -/
def code? (run : NameRun) (name : List Char) : Option Nat := do
  let ending ← stripStart? run.front.toList name
  let step ← (run.endings.flatMap (pieces ',' ·.toList)).findIdx? (· == ending)
  return run.first + step

end NameRun

end Obligations.Text
