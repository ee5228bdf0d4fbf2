import Obligations.Value.Basic

/-! # Overlaid values

Members laid over others: a member that both have is the one on top, and maps are laid over maps
member by member.
-/

namespace Obligations.Value

mutual

/-- A value laid over another. -/
def laidOver (below : Value) : Value → Value
  | .map members =>
    match below with
    | .map old => .map (overlay old members)
    | _ => .map members
  | value => value

/-- Members laid over others, each at the place of its name where that was there, else at the end. -/
def overlay (below : List (String × Value)) : List (String × Value) → List (String × Value)
  | [] => below
  | (name, value) :: rest =>
    match member? name below with
    | some old => overlay (setMember name (laidOver old value) below) rest
    | none => overlay (setMember name value below) rest

end

@[simp] theorem overlay_nil (below : List (String × Value)) : overlay below [] = below := by
  rw [overlay]

end Obligations.Value
