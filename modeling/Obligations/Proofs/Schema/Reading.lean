import Obligations.Schema.Record

/-! # What is read

A check of several parts has a result exactly if every part has one. A member is read from the value that
its key finds, and only from that.
-/

namespace Obligations.Schema

variable {α β γ : Type}

namespace Checked

theorem map_eq_ok {step : α → β} {checked : Checked α} {result : β} :
    step <$> checked = .ok result ↔ ∃ value, checked = .ok value ∧ step value = result := by
  cases checked <;> simp [Functor.map, map]

theorem seq_eq_ok {step : Checked (α → β)} {checked : Checked α} {result : β} :
    step <*> checked = .ok result ↔
      ∃ plain value, step = .ok plain ∧ checked = .ok value ∧ plain value = result := by
  cases step <;> cases checked <;> simp [Seq.seq, both]

theorem both_eq_ok {join : α → β → γ} {first : Checked α} {second : Checked β} {result : γ} :
    both join first second = .ok result ↔
      ∃ left right, first = .ok left ∧ second = .ok right ∧ join left right = result := by
  cases first <;> cases second <;> simp [both]

theorem andThen_eq_ok {checked : Checked α} {next : α → Checked β} {result : β} :
    checked.andThen next = .ok result ↔ ∃ value, checked = .ok value ∧ next value = .ok result := by
  cases checked <;> simp [andThen]

theorem result?_eq_some {checked : Checked α} {result : α} :
    checked.result? = some result ↔ checked = .ok result := by
  cases checked <;> simp [result?]

@[simp] theorem under_eq_ok {checked : Checked α} {step : Step} {result : α} :
    checked.under step = .ok result ↔ checked = .ok result := by
  cases checked <;> simp [under]

end Checked

namespace Reader

variable {reader : Reader α} {value : Value} {result : α}

theorem optional_of_isNull (null : value.isNull = true) : reader.optional value = .ok none := by
  cases value with
  | null => rfl
  | _ => cases null

theorem optional_of_solid (solid : value.isNull = false) : reader.optional value = some <$> reader value := by
  cases value with
  | null => cases solid
  | _ => rfl

end Reader

namespace Key

variable {key : Key} {reader : Reader α} {fallback result : α} {members : List (String × Value)}

/-- A member that is found is what its value is read as. -/
theorem found_eq_ok {name : String} {value : Value} (found : key.find? members = some (name, value)) :
    (∃ name value, key.find? members = some (name, value) ∧ reader value = .ok result) ↔
      reader value = .ok result := by
  constructor
  · rintro ⟨_, _, there, read⟩
    cases found.symm.trans there
    exact read
  · exact fun read => ⟨name, value, found, read⟩

theorem required_eq_ok : key.required reader members = .ok result ↔
    ∃ name value, key.find? members = some (name, value) ∧ reader value = .ok result := by
  rw [required]
  cases found : key.find? members with
  | none => simp
  | some member =>
    rw [← found, found_eq_ok found, found]
    exact Checked.under_eq_ok

theorem withDefault_eq_ok : key.withDefault fallback reader members = .ok result ↔
    (key.find? members = none ∧ fallback = result) ∨
      ∃ name value, key.find? members = some (name, value) ∧ reader value = .ok result := by
  rw [withDefault]
  cases found : key.find? members with
  | none => simp
  | some member =>
    rw [← found, found_eq_ok found, found]
    simp

/-- Nothing but what its key finds counts for a member. -/
theorem required_congr {others : List (String × Value)} (same : key.find? members = key.find? others) :
    key.required reader members = key.required reader others := by
  rw [required, required, same]

theorem withDefault_congr {others : List (String × Value)}
    (same : key.find? members = key.find? others) :
    key.withDefault fallback reader members = key.withDefault fallback reader others := by
  rw [withDefault, withDefault, same]

/-- What a record has for a member, unless it is null. -/
def given? (key : Key) : Value → Option Value
  | .map members => ((key.find? members).map (·.2)).filter fun value => !value.isNull
  | _ => none

/-- A member that is not given is left open. -/
theorem optional_of_none (absent : key.given? (.map members) = none) :
    key.optional reader members = .ok none := by
  rw [given?, Option.filter_eq_none_iff] at absent
  rw [optional, withDefault]
  split
  next name value found =>
    rw [Checked.under_eq_ok]
    exact Reader.optional_of_isNull (by simpa using absent value (by rw [found]; rfl))
  next => rfl

/-- A member that is given is read. -/
theorem optional_of_some {value : Value} (some : key.given? (.map members) = some value)
    {content : Option α} : key.optional reader members = .ok content ↔
      ∃ result, reader value = .ok result ∧ .some result = content := by
  rw [given?, Option.filter_eq_some_iff, Option.map_eq_some_iff, Bool.not_eq_true'] at some
  obtain ⟨⟨⟨name, _⟩, found, rfl⟩, solid⟩ := some
  rw [optional, withDefault, found]
  dsimp only
  rw [Checked.under_eq_ok, Reader.optional_of_solid solid, Checked.map_eq_ok]

/-- What has been read of a member that may be left out has been given. -/
theorem exists_of_optional (read : key.optional reader members = .ok (some result)) :
    ∃ value, key.given? (.map members) = some value ∧ reader value = .ok result := by
  cases given : key.given? (.map members) with
  | none =>
    rw [optional_of_none given] at read
    cases read
  | some value =>
    obtain ⟨_, own, same⟩ := (optional_of_some given).mp read
    cases same
    exact ⟨value, rfl, own⟩

theorem find?_plain {name : String} :
    (plain name).find? members = (members.lookup name).map (name, ·) := by
  rw [find?, plain]
  dsimp only
  cases members.lookup name <;> rfl

end Key

namespace Reader

variable {parts : List (String × Value) → Checked α} {value : Value} {result : α}

theorem record_eq_ok : record parts value = .ok result ↔
    ∃ members, value = .map members ∧ parts members = .ok result := by
  cases value <;> simp [record, Checked.refuse]

theorem closedRecord_eq_ok {keys : List Key} : closedRecord keys parts value = .ok result ↔
    ∃ members, value = .map members ∧ unknownMembers keys members = [] ∧ parts members = .ok result := by
  cases value with
  | map members =>
    cases known : unknownMembers keys members <;> simp [closedRecord, known, Checked.both_eq_ok]
  | _ => simp [closedRecord, Checked.refuse]

end Reader

end Obligations.Schema
