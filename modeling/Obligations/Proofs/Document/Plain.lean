import Obligations.Document.Plain

/-! # Values of documents

What has been read from a document is written into one as it is, but for the numbers in it that are infinite or no
numbers at all: a document in JSON has no word for these, and holds null in their places.
-/

namespace Obligations.Value

mutual

/-- Whether a value is of the kinds that are read from documents, which dates and codes of status are not. -/
def isJson : Value → Bool
  | .null | .bool _ | .int _ | .float _ | .text _ => true
  | .date _ | .stamp _ | .visa _ | .phase _ => false
  | .list items => areJson items
  | .map members => haveJson members

def areJson : List Value → Bool
  | [] => true
  | item :: rest => item.isJson && areJson rest

/-- Whether the values of members are read from documents. -/
def haveJson : List (String × Value) → Bool
  | [] => true
  | (_, value) :: rest => value.isJson && haveJson rest

end

theorem areJson_eq_true {items : List Value} : areJson items = true ↔ ∀ item ∈ items, item.isJson = true := by
  induction items with
  | nil => simp [areJson]
  | cons item rest ih => simp [areJson, ih]

theorem haveJson_eq_true {members : List (String × Value)} :
    haveJson members = true ↔ ∀ member ∈ members, member.2.isJson = true := by
  induction members with
  | nil => simp [haveJson]
  | cons member rest ih => simp [haveJson, ih]

theorem isJson_list {items : List Value} : (list items).isJson = true ↔ ∀ item ∈ items, item.isJson = true := by
  rw [isJson, areJson_eq_true]

theorem isJson_map {members : List (String × Value)} :
    (map members).isJson = true ↔ ∀ member ∈ members, member.2.isJson = true := by
  rw [isJson, haveJson_eq_true]

theorem isJson_of_lookup {members : List (String × Value)} {name : String} {value : Value}
    (json : (map members).isJson = true) (found : members.lookup name = some value) : value.isJson = true := by
  obtain ⟨before, after, rfl, _⟩ := List.lookup_eq_some_iff.mp found
  exact isJson_map.mp json (name, value) (by simp)

theorem plain_list (items : List Value) : (list items).plain = .list (items.map plain) := by
  have inside : plainItems items = items.map plain := by
    induction items with
    | nil => rw [plainItems, List.map_nil]
    | cons item rest ih => rw [plainItems, List.map_cons, ih]
  rw [plain, inside]

theorem plain_map (members : List (String × Value)) :
    (map members).plain = .map (members.map fun (name, value) => (name, value.plain)) := by
  have inside : plainMembers members = members.map fun (name, value) => (name, value.plain) := by
    induction members with
    | nil => rw [plainMembers, List.map_nil]
    | cons member rest ih => rw [plainMembers, List.map_cons, ih]
  rw [plain, inside]

mutual

/-- Whether all numbers in a value, however deep they lie, are finite ones. -/
def isFinite : Value → Bool
  | .float x => x.toRat?.isSome
  | .list items => areFinite items
  | .map members => haveFinite members
  | _ => true

/-- Whether all numbers in the values of a list are finite ones. -/
def areFinite : List Value → Bool
  | [] => true
  | item :: rest => item.isFinite && areFinite rest

/-- Whether all numbers in the values of members are finite ones. -/
def haveFinite : List (String × Value) → Bool
  | [] => true
  | (_, value) :: rest => value.isFinite && haveFinite rest

end

mutual

/-- What has been read from a document stays the same in one exactly if all numbers in it are finite ones. -/
theorem plain_eq_self_iff {value : Value} (json : value.isJson = true) :
    value.plain = value ↔ value.isFinite = true := by
  match value with
  | .null | .bool _ | .int _ | .text _ => exact iff_of_true rfl rfl
  | .float x =>
    rw [plain, isFinite]
    cases x.toRat? <;> simp
  | .date _ | .stamp _ | .visa _ | .phase _ => cases json
  | .list items => rw [plain, list.injEq, isFinite, plainItems_eq_self_iff json]
  | .map members => rw [plain, map.injEq, isFinite, plainMembers_eq_self_iff json]

theorem plainItems_eq_self_iff {items : List Value} (json : areJson items = true) :
    plainItems items = items ↔ areFinite items = true := by
  match items with
  | [] => exact iff_of_true rfl rfl
  | item :: rest =>
    rw [areJson, Bool.and_eq_true] at json
    rw [plainItems, List.cons.injEq, areFinite, Bool.and_eq_true, plain_eq_self_iff json.1,
      plainItems_eq_self_iff json.2]

theorem plainMembers_eq_self_iff {members : List (String × Value)} (json : haveJson members = true) :
    plainMembers members = members ↔ haveFinite members = true := by
  match members with
  | [] => exact iff_of_true rfl rfl
  | (name, value) :: rest =>
    rw [haveJson, Bool.and_eq_true] at json
    rw [plainMembers, List.cons.injEq, Prod.mk.injEq, and_iff_right rfl, haveFinite, Bool.and_eq_true,
      plain_eq_self_iff json.1, plainMembers_eq_self_iff json.2]

end

theorem plain_ofOption {α : Type} (valueOf : α → Value) (content : Option α) :
    (ofOption valueOf content).plain = ofOption (fun x => (valueOf x).plain) content := by
  cases content with
  | none => rfl
  | some x => rfl

end Obligations.Value
