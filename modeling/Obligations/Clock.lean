import Obligations.Calendar.Timestamp

/-! # Clocks

Two clocks matter: the one that tells the date, and the one that lifetimes of kept answers are
measured on.
-/

namespace Obligations

open Obligations.Calendar

/-- A moment on both clocks. -/
structure Moment where
  clock : Rat
  now : Timestamp

end Obligations
