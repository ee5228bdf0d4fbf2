import Obligations.Schema.Scalar

/-! # Reading records

A record is a map with known members. Every member has a name on the wire and an
internal one; a record may use either, and where it uses both the wire name counts. Members that are
not known are ignored or refused.
-/

namespace Obligations.Schema

/-- The two names of a member of a record. -/
structure Key where
  wire : String
  internal : String
deriving DecidableEq, Repr

namespace Key

/-- A member whose two names agree. -/
def plain (name : String) : Key :=
  ⟨name, name⟩

/-- The name that a record uses for a member, and the value there. -/
def find? (key : Key) (members : List (String × Value)) : Option (String × Value) :=
  match members.lookup key.wire with
  | some value => some (key.wire, value)
  | none => (members.lookup key.internal).map fun value => (key.internal, value)

def required {α : Type} (key : Key) (reader : Reader α) (members : List (String × Value)) :
    Checked α :=
  match key.find? members with
  | some (name, value) => (reader value).under (.member name)
  | none => .refused [⟨[.member key.wire], .missing⟩]

/-- A member that has a value of its own where the record does not give one. -/
def withDefault {α : Type} (key : Key) (fallback : α) (reader : Reader α)
    (members : List (String × Value)) : Checked α :=
  match key.find? members with
  | some (name, value) => (reader value).under (.member name)
  | none => .ok fallback

/-- A member that may be left out or null. -/
def optional {α : Type} (key : Key) (reader : Reader α) (members : List (String × Value)) :
    Checked (Option α) :=
  key.withDefault none (Reader.optional reader) members

end Key

/-- Issues for the members that none of the keys is used for. -/
def unknownMembers (keys : List Key) (members : List (String × Value)) : List Issue :=
  let used := keys.filterMap fun key => (key.find? members).map (·.1)
  (members.filter fun member => !used.contains member.1).map fun member =>
    ⟨[.member member.1], .unknownMember⟩

namespace Reader

/-- A record, whose unknown members are ignored. -/
def record {α : Type} (parts : List (String × Value) → Checked α) : Reader α
  | .map members => parts members
  | _ => .refuse .notRecord

/-- A record that refuses unknown members. -/
def closedRecord {α : Type} (keys : List Key) (parts : List (String × Value) → Checked α) :
    Reader α
  | .map members =>
    match unknownMembers keys members with
    | [] => parts members
    | issues => Checked.both (fun result (_ : Unit) => result) (parts members) (.refused issues)
  | _ => .refuse .notRecord

end Reader

end Obligations.Schema
