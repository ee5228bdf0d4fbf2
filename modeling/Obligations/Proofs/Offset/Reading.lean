import Obligations.Proofs.Offset.Text
import Obligations.Proofs.Schema.Recovery
import Obligations.Schema.Offset

/-! # How offsets are read

An offset is given as a text, which has to follow a grammar, or by its parts, which do not have to. So what
holds of all offsets in text holds of an offset that has been read unless it was given by its parts.
-/

namespace Obligations

open Obligations.Schema

namespace Offset

variable {ofText : String → Except OffsetFault Offset} {closed : Bool} {value : Value} {result : Offset}

def written (offset : Offset) : Value :=
  .text offset.text

/-- The offset that a value gives by its amount and its unit. -/
def byParts? : Value → Option Offset
  | .map members => (offsetParts members).result?
  | _ => none

/-- An offset in text is the one that the grammar reads. -/
theorem read_of_asText? {content : String} (text : value.asText? = some content) :
    Reader.offset ofText closed value = .ok result ↔ ofText content = .ok result := by
  rw [Reader.offset]
  · rw [text]
    dsimp only
    cases ofText content <;> simp [Checked.refuse]
  · rintro _ rfl
    cases text

/-- An offset is written as its text, and is recovered if this is a text of the grammar. -/
theorem recovers_iff :
    Reader.Recovers (Reader.offset ofText closed) written result ↔ ofText result.text = .ok result := by
  rw [Reader.Recovers, written, (Value.plain_eq_self_iff rfl).mpr rfl]
  exact read_of_asText? rfl

theorem byParts?_of_read {members : List (String × Value)}
    (read : Reader.offset ofText closed (.map members) = .ok result) :
    byParts? (.map members) = some result := by
  rw [Reader.offset] at read
  split at read
  next => exact Checked.result?_eq_some.mpr read
  next =>
    obtain ⟨_, _, _, refused, _⟩ := Checked.both_eq_ok.mp read
    cases refused

theorem byParts?_or_text (read : Reader.offset ofText closed value = .ok result) :
    byParts? value = some result ∨ byParts? value = none ∧ ∃ content, ofText content = .ok result := by
  cases value with
  | map members => exact .inl (byParts?_of_read read)
  | text content => exact .inr ⟨rfl, content, (read_of_asText? rfl).mp read⟩
  | visa status => exact .inr ⟨rfl, status.code, (read_of_asText? rfl).mp read⟩
  | phase current => exact .inr ⟨rfl, current.code, (read_of_asText? rfl).mp read⟩
  | null | bool | int | float | date | stamp | list => cases read

/-- What holds of all offsets in text holds of an offset that has been read, unless it does not hold of the
one that is given by parts. -/
theorem holds_iff_byParts {P : Offset → Prop}
    (texts : ∀ content offset, ofText content = .ok offset → P offset)
    (read : Reader.offset ofText closed value = .ok result) : P result ↔ ∀ given ∈ byParts? value, P given := by
  rcases byParts?_or_text read with parts | ⟨none, content, text⟩
  · simp [parts]
  · simp [none, texts content result text]

/-- The same for a member that may be left out. -/
theorem forall_iff_byParts {P : Offset → Prop}
    (texts : ∀ content offset, ofText content = .ok offset → P offset)
    {key : Key} {members : List (String × Value)} {content : Option Offset}
    (read : key.optional (Reader.offset ofText closed) members = .ok content) :
    (∀ offset ∈ content, P offset) ↔ ∀ offset ∈ (key.given? (.map members)).bind byParts?, P offset := by
  cases given : key.given? (.map members) with
  | none =>
    rw [Key.optional_of_none given] at read
    cases read
    simp
  | some value =>
    obtain ⟨offset, own, rfl⟩ := (Key.optional_of_some given).mp read
    simpa using holds_iff_byParts texts own

end Offset

end Obligations
