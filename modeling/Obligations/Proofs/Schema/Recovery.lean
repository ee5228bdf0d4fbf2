import Mathlib.Data.List.Forall2
import Obligations.Proofs.Calendar.Plain
import Obligations.Proofs.Document.Plain
import Obligations.Proofs.Schema.Reading

/-! # Reading again what has been written

Something is recovered from a document if what is written of it is read as it again. Texts, codes, numbers and
dates always are, and lists, maps and optional values are if their parts are.
-/

namespace Obligations.Schema

open Obligations.Calendar

variable {α : Type}

namespace Key

variable {key : Key} {reader : Reader α} {members : List (String × Value)} {value : Value}

theorem isJson_of_find? {name : String} (json : (Value.map members).isJson = true)
    (found : key.find? members = some (name, value)) : value.isJson = true := by
  rw [find?] at found
  split at found
  next wire =>
    cases found
    exact Value.isJson_of_lookup json wire
  next =>
    obtain ⟨_, internal, same⟩ := Option.map_eq_some_iff.mp found
    cases same
    exact Value.isJson_of_lookup json internal

theorem isJson_of_given? {record : Value} (json : record.isJson = true)
    (given : key.given? record = some value) : value.isJson = true := by
  cases record with
  | map members =>
    obtain ⟨there, -⟩ := Option.filter_eq_some_iff.mp given
    obtain ⟨⟨name, _⟩, found, rfl⟩ := Option.map_eq_some_iff.mp there
    exact isJson_of_find? json found
  | _ => cases given

section Found

variable (found : members.lookup key.wire = some value)
include found

theorem find?_of_lookup : key.find? members = some (key.wire, value) := by
  rw [find?, found]

theorem required_of_lookup {result : α} :
    key.required reader members = .ok result ↔ reader value = .ok result := by
  rw [required, find?_of_lookup found, Checked.under_eq_ok]

theorem withDefault_of_lookup {fallback result : α} :
    key.withDefault fallback reader members = .ok result ↔ reader value = .ok result := by
  rw [withDefault, find?_of_lookup found, Checked.under_eq_ok]

theorem optional_of_lookup {result : Option α} :
    key.optional reader members = .ok result ↔ reader.optional value = .ok result :=
  withDefault_of_lookup found

end Found

end Key

namespace Reader

variable {reader : Reader α}

/-- What has been read one by one comes from something. -/
theorem exists_given {β : Type} {R : α → β → Prop} {given : List α} {results : List β}
    (read : List.Forall₂ R given results) {result : β} (member : result ∈ results) :
    ∃ value ∈ given, R value result := by
  induction read with
  | nil => cases member
  | cons first _ ih =>
    rcases List.mem_cons.mp member with rfl | later
    · exact ⟨_, List.mem_cons_self, first⟩
    · obtain ⟨value, listed, own⟩ := ih later
      exact ⟨value, List.mem_cons_of_mem _ listed, own⟩

/-- What holds of everything that has been read one by one can be told from what it has been read from. -/
theorem forall_iff_given {β : Type} {R : α → β → Prop} {given : List α} {results : List β}
    (read : List.Forall₂ R given results) {P : β → Prop} {Q : α → Prop}
    (each : ∀ value result, R value result → (P result ↔ Q value)) :
    (∀ result ∈ results, P result) ↔ ∀ value ∈ given, Q value := by
  induction read with
  | nil => simp
  | cons first _ ih => rw [List.forall_mem_cons, List.forall_mem_cons, each _ _ first, ih]

/-- The items of a list are read one by one. -/
theorem items_eq_ok {index : Nat} {values : List Value} {results : List α} :
    items reader index values = .ok results ↔
      List.Forall₂ (fun value result => reader value = .ok result) values results := by
  induction values generalizing index results with
  | nil => simp [items, eq_comm]
  | cons value rest ih =>
    rw [items, Checked.both_eq_ok, List.forall₂_cons_left_iff]
    simp only [Checked.under_eq_ok, ih]
    constructor
    · rintro ⟨first, others, read, more, rfl⟩
      exact ⟨first, others, read, more, rfl⟩
    · rintro ⟨first, others, read, more, rfl⟩
      exact ⟨first, others, read, more, rfl⟩

/-- The members of a map are read one by one. -/
theorem entries_eq_ok {members : List (String × Value)} {results : List (String × α)} :
    entries reader members = .ok results ↔ List.Forall₂ (fun member result =>
      member.1 = result.1 ∧ reader member.2 = .ok result.2) members results := by
  induction members generalizing results with
  | nil => simp [entries, eq_comm]
  | cons member rest ih =>
    rw [entries, Checked.both_eq_ok, List.forall₂_cons_left_iff]
    simp only [Checked.under_eq_ok, ih]
    constructor
    · rintro ⟨first, others, read, more, rfl⟩
      exact ⟨_, others, ⟨rfl, read⟩, more, rfl⟩
    · rintro ⟨⟨_, first⟩, others, ⟨rfl, read⟩, more, rfl⟩
      exact ⟨first, others, read, more, rfl⟩

/-- Whether something is read again from a document that it has been written into. -/
def Recovers (reader : Reader α) (written : α → Value) (result : α) : Prop :=
  reader (written result).plain = .ok result

variable {written : α → Value}

theorem recovers_text (content : String) : Recovers text .text content :=
  rfl

theorem recovers_nonEmptyText {content : String} (solid : content.isEmpty = false) :
    Recovers nonEmptyText .text content := by
  show (if content.isEmpty then Checked.refuse .textTooShort else .ok content) = .ok content
  rw [solid]
  rfl

theorem isEmpty_of_nonEmptyText {value : Value} {content : String} (read : nonEmptyText value = .ok content) :
    content.isEmpty = false := by
  obtain ⟨other, -, solid⟩ := Checked.andThen_eq_ok.mp read
  split at solid
  next => cases solid
  next named =>
    cases solid
    exact Bool.eq_false_iff.mpr named

theorem recovers_bool (flag : Bool) : Recovers bool .bool flag :=
  rfl

theorem recovers_int (n : Int) : Recovers int .int n :=
  rfl

/-- A number within bounds is read again within them. -/
theorem recovers_intWithin {least greatest : Option Int} {value : Value} {n : Int}
    (read : intWithin least greatest value = .ok n) : Recovers (intWithin least greatest) .int n := by
  obtain ⟨other, -, within⟩ := Checked.andThen_eq_ok.mp read
  have same : other = n := by
    split at within
    · cases within
    · split at within
      · cases within
      · exact Checked.ok.inj within
  exact same ▸ within

theorem recovers_date (day : Date) : Recovers date .date day := by
  rw [Recovers, Value.plain, date, dateOfText_iso]

theorem recovers_timestamp {moment : Timestamp} (plain : moment.IsPlain) :
    Recovers timestamp .stamp moment := by
  rw [Recovers, Value.plain, timestamp, timestampOfText_plain plain]

/-- A code is read again if it is found among the codes. -/
theorem recovers_code {ofCode? : String → Option α} {codeOf : α → String} {result : α}
    (found : ofCode? (codeOf result) = some result) :
    Recovers (code ofCode?) (fun result => .text (codeOf result)) result := by
  have named : (Value.text (codeOf result)).plain.asText?.bind ofCode? = some result := found
  rw [Recovers, code, named]

/-- An optional value that is written as something else than null is read from its document as a value is. -/
theorem optional_plain_ofOption (solid : ∀ result, (written result).plain ≠ .null) {content : Option α}
    (image : α → α) : reader.optional (Value.ofOption written content).plain = .ok (content.map image) ↔
      ∀ result ∈ content, reader (written result).plain = .ok (image result) := by
  rw [Value.plain_ofOption]
  cases content with
  | none => simp [Value.ofOption, optional]
  | some result =>
    have given : reader.optional (written result).plain = (reader (written result).plain).map some := by
      cases same : (written result).plain with
      | null => exact absurd same (solid result)
      | _ => rfl
    show reader.optional (written result).plain = _ ↔ _
    rw [given]
    cases read : reader (written result).plain with
    | ok other => simp [Checked.map, read]
    | refused issues => simp [Checked.map, read]

/-- An optional value that is written as something else than null is recovered if it is there. -/
theorem recovers_optional (solid : ∀ result, (written result).plain ≠ .null) {content : Option α} :
    Recovers reader.optional (.ofOption written) content ↔
      ∀ result ∈ content, Recovers reader written result := by
  have read : _ ↔ ∀ result ∈ content, Recovers reader written result := optional_plain_ofOption solid id
  rwa [Option.map_id] at read

theorem recovers_optionalText (content : Option String) : Recovers (optional text) (.ofOption .text) content :=
  (recovers_optional fun _ => by rintro ⟨⟩).mpr fun _ _ => recovers_text _

/-- A timestamp that a document has held is recovered. -/
theorem recovers_optionalTimestamp {key : Key} {members : List (String × Value)} {moment : Option Timestamp}
    (read : key.optional timestamp members = .ok moment) (json : (Value.map members).isJson = true) :
    Recovers (optional timestamp) (.ofOption .stamp) moment := by
  refine (recovers_optional fun _ => by rintro ⟨⟩).mpr fun stamp there => ?_
  cases there
  obtain ⟨value, given, own⟩ := Key.exists_of_optional read
  refine recovers_timestamp (isPlain_of_timestamp (fun moment same => ?_) own)
  have held := Key.isJson_of_given? json given
  rw [same] at held
  cases held

/-- A list is read from its document item by item. -/
theorem listOf_plain_list {results : List α} (image : α → α) :
    listOf reader (Value.list (results.map written)).plain = .ok (results.map image) ↔
      ∀ result ∈ results, reader (written result).plain = .ok (image result) := by
  rw [Value.plain_list, listOf, items_eq_ok, List.map_map, List.forall₂_map_left_iff, List.forall₂_map_right_iff,
    List.forall₂_same]
  rfl

/-- A list is recovered if all of its items are. -/
theorem recovers_listOf {results : List α} :
    Recovers (listOf reader) (fun results => .list (results.map written)) results ↔
      ∀ result ∈ results, Recovers reader written result := by
  have read : _ ↔ ∀ result ∈ results, Recovers reader written result := listOf_plain_list id
  rwa [List.map_id] at read

theorem recovers_texts (contents : List String) :
    Recovers (listOf text) (fun contents => .list (contents.map .text)) contents :=
  recovers_listOf.mpr fun _ _ => recovers_text _

/-- A map is recovered if all that its keys lead to is. -/
theorem recovers_mapOf {results : List (String × α)} :
    Recovers (mapOf reader) (fun results => .map (results.map fun (name, result) => (name, written result)))
      results ↔ ∀ entry ∈ results, Recovers reader written entry.2 := by
  rw [Recovers, Value.plain_map, mapOf, entries_eq_ok, List.map_map, List.forall₂_map_left_iff,
    List.forall₂_same]
  simp [Recovers]

end Reader

end Obligations.Schema
