import Obligations.Offset.Grammar
import Obligations.Schema.Record
import Obligations.Value.Shown

/-! # Reading offsets

An offset is given as a text of its grammar, or by its amount and its unit. The second form knows all
units and any amount, whatever the grammar of the text allows.
-/

namespace Obligations

/-- The offset that a value stands for as a text of a grammar; no other value stands for one. -/
def Offset.ofValue (ofText : String → Except OffsetFault Offset) (malformed : String → OffsetFault)
    (value : Value) : Except OffsetFault Offset :=
  match value.asText? with
  | some content => ofText content
  | none => .error (malformed value.shown)

end Obligations

namespace Obligations.Schema

def offsetParts (members : List (String × Value)) : Checked Offset :=
  Checked.both Offset.mk
    ((Key.plain "amount").required Reader.int members)
    ((Key.plain "unit").required (Reader.code TimeUnit.ofName?) members)

/-- Issues for what a record has besides the amount and the unit of an offset. -/
def unknownOffsetParts (members : List (String × Value)) : List Issue :=
  (unknownMembers [Key.plain "amount", Key.plain "unit"] members).map fun issue =>
    { issue with kind := .unknownPart }

namespace Reader

/-- An offset in a grammar of texts. A closed form refuses parts besides amount and unit. -/
def offset (ofText : String → Except OffsetFault Offset) (closed : Bool) : Reader Offset := fun value =>
  match value with
  | .map members =>
    match (if closed then unknownOffsetParts members else []) with
    | [] => offsetParts members
    | issues => Checked.both (fun result (_ : Unit) => result) (offsetParts members) (.refused issues)
  | _ =>
    match value.asText? with
    | some content =>
      match ofText content with
      | .ok result => .ok result
      | .error fault => .refuse (.refused fault.message)
    | none => .refuse .notOffset

end Reader

end Obligations.Schema
