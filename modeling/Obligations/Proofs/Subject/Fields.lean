import Obligations.Condition.Evaluation
import Obligations.Subject.Context

/-! # Fields of a context

What stands at the paths that lead through the record of a context: dates under their names, documents
under their kinds, and the answers to yes-or-no questions.
-/

namespace Obligations

/-- A path of two names leads through a part of a record. -/
theorem Value.atPath_pair {record part : Value} {path outer inner : String}
    (split : (Text.pieces '.' path.toList).map String.ofList = [outer, inner])
    (found : record.get? outer = some part) (present : part.isNull = false) :
    record.atPath path = (part.getD inner).decoded := by
  rw [atPath, split, follow, found, getD]
  cases part with
  | map members =>
    simp only
    rw [follow]
    cases get? inner (.map members) with
    | none => rfl
    | some content => cases content <;> rfl
  | null => cases present
  | _ => rfl

namespace Context

variable (context : Context)

/-- The dates of a context stand under their names. -/
theorem atPath_date : ∀ entry ∈ context.dates.named,
    context.toValue.atPath ("dates." ++ entry.1) = .ofOption .date entry.2 := by
  have split : ∀ name ∈ context.dates.named.map (·.1),
      (Text.pieces '.' ("dates." ++ name).toList).map String.ofList = ["dates", name] := by
    show ∀ name ∈ ["usEntryDate", "visaExpiryDate", "passportExpiryDate", "courseStartDate",
      "graduationDate", "employmentStartDate", "employmentEndDate", "optStartDate", "optEndDate",
      "stemOptEndDate", "i20ExpiryDate", "lastAddressUpdate"], _
    decide
  have found : ∀ entry ∈ context.dates.named,
      context.dates.toValue.getD entry.1 = .ofOption .date entry.2 := by
    simp only [Milestones.named, List.forall_mem_cons, List.not_mem_nil, false_imp_iff, implies_true,
      and_true]
    exact ⟨rfl, rfl, rfl, rfl, rfl, rfl, rfl, rfl, rfl, rfl, rfl, rfl⟩
  rintro ⟨name, date⟩ listed
  rw [Value.atPath_pair (split name (List.mem_map_of_mem (f := Prod.fst) listed)) rfl rfl,
    found ⟨name, date⟩ listed]
  cases date <;> rfl

/-- A document stands under its name, as long as that is a single step of a path. -/
theorem atPath_document {path name : String}
    (split : (Text.pieces '.' path.toList).map String.ofList = ["documents", name]) :
    context.toValue.atPath path = .ofOption .bool (context.documents.lookup name) := by
  rw [Value.atPath_pair split rfl rfl]
  show ((List.lookup name _).getD Value.null).decoded = _
  induction context.documents with
  | nil => rfl
  | cons document rest ih =>
    obtain ⟨kind, valid⟩ := document
    rw [List.map_cons, List.lookup_cons, List.lookup_cons]
    cases name == kind with
    | true => rfl
    | false => exact ih

theorem atPath_eVerify : context.toValue.atPath "employment.eVerifyCompliant" =
    .ofOption .bool context.employment.eVerifyCompliant := by
  have split : (Text.pieces '.' "employment.eVerifyCompliant".toList).map String.ofList =
      ["employment", "eVerifyCompliant"] := by
    decide
  have found : context.employment.toValue.getD "eVerifyCompliant" =
      .ofOption .bool context.employment.eVerifyCompliant := rfl
  rw [Value.atPath_pair split rfl rfl, found]
  cases context.employment.eVerifyCompliant <;> rfl

end Context

end Obligations
