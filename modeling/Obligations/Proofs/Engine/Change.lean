import Obligations.Proofs.Engine.RuleSet
import Obligations.Proofs.Engine.Steps

/-! # Changes of an engine

Between evaluations, and while some are underway, an engine can get other rules, lose them, get other
settings, or be told to forget what it keeps. All but the last drop all that is kept, and a change that
fails leaves the engine as it was.
-/

namespace Obligations

/-- What can be changed about an engine. -/
inductive Change where
  | load (drafts : List Draft)
  | clear
  | configure (environment : Environment) (changes : List (String × Value))
  | forget (subject : Option String)

namespace Change

/-- Whether a change drops what is kept for a subject. -/
def drops (subjectId : String) : Change → Bool
  | .load _ | .clear | .configure _ _ | .forget none => true
  | .forget (some id) => id == subjectId

end Change

namespace Engine

variable {engine changed : Engine} {change : Change}

/-- The engine with a change, as long as nothing stands against it. -/
def apply (engine : Engine) : Change → Outcome Engine
  | .load drafts => engine.load drafts
  | .clear => .ok engine.clear
  | .configure environment changes => engine.configure environment changes
  | .forget subject => .ok (engine.forget subject)

/-- The engine after a change; one that fails changes nothing. -/
def after (engine : Engine) (change : Change) : Engine :=
  match engine.apply change with
  | .ok changed => changed
  | .error _ => engine

/-- A change that succeeds clears the cache, or it takes the entry of one subject out of it. -/
theorem cache_of_apply_eq_ok (applied : engine.apply change = .ok changed) :
    (changed.cache = engine.cache.clear ∧ ∀ subjectId, change.drops subjectId = true) ∨
    ∃ id, change = .forget (some id) ∧
      changed = { engine with cache := engine.cache.erase (cacheKey id) } := by
  cases change with
  | load drafts =>
    obtain ⟨rules, rfl⟩ := of_load_eq_ok applied
    exact Or.inl ⟨rfl, fun _ => rfl⟩
  | clear =>
    cases applied
    exact Or.inl ⟨rfl, fun _ => rfl⟩
  | configure environment changes =>
    obtain ⟨settings, rfl⟩ := of_configure_eq_ok applied
    exact Or.inl ⟨rfl, fun _ => rfl⟩
  | forget subject =>
    cases applied
    cases subject with
    | none => exact Or.inl ⟨rfl, fun _ => rfl⟩
    | some id => exact Or.inr ⟨id, rfl, rfl⟩

theorem after_of_apply_eq_ok (applied : engine.apply change = .ok changed) :
    engine.after change = changed := by
  rw [after, applied]

theorem after_of_apply_eq_error {problem : Problem} (refused : engine.apply change = .error problem) :
    engine.after change = engine := by
  rw [after, refused]

/-- The rules of an engine stay different ones. -/
theorem distinct_after (distinct : (engine.rules.map (·.id)).Nodup) (change : Change) :
    ((engine.after change).rules.map (·.id)).Nodup := by
  rw [after]
  cases applied : engine.apply change with
  | error problem => exact distinct
  | ok changed =>
    cases change with
    | load drafts => exact distinct_of_load applied
    | clear =>
      cases applied
      exact List.nodup_nil
    | configure environment changes =>
      obtain ⟨settings, rfl⟩ := of_configure_eq_ok applied
      exact distinct
    | forget subject =>
      cases applied
      exact distinct

end Engine

end Obligations
