import Obligations.Engine.Basic
import Obligations.Proofs.Cache
import Obligations.Proofs.Outcome

/-! # The steps of evaluations

What each step of an engine does: an evaluation starts with what is kept or with the rules as they are,
and it ends with what was kept or with the rules judged. Neither touches the rules or the settings.
-/

namespace Obligations.Engine

/-- Changing the settings clears the cache. -/
theorem of_configure_eq_ok {engine changed : Engine} {environment : Environment}
    {changes : List (String × Value)}
    (accepted : engine.configure environment changes = .ok changed) :
    ∃ settings, changed = { engine with settings := settings, cache := engine.cache.clear } := by
  rw [configure] at accepted
  obtain ⟨settings, _, same⟩ := Outcome.bind_eq_ok.mp accepted
  cases same
  exact ⟨settings, rfl⟩

/-- Subjects have keys of their own. -/
@[simp] theorem cacheKey_inj {subjectId other : String} :
    cacheKey subjectId = cacheKey other ↔ subjectId = other := by
  simp [cacheKey]

variable (engine : Engine) (clock : Rat) (moment : Moment) (subjectId : String)

def kept? : Option Evaluation :=
  if engine.settings.keepsResults then engine.cache.live? clock (cacheKey subjectId) else none

/-- An evaluation starts with what is kept for the subject, else with the rules as they are. -/
theorem start_fst :
    (engine.start clock subjectId).1 =
      match engine.kept? clock subjectId with
      | some evaluation => .kept { evaluation with isKept := true }
      | none => .judging engine.rules := by
  rw [start, kept?]
  by_cases keeps : engine.settings.keepsResults = true
  · rw [if_pos keeps, if_pos keeps, ← Cache.get_fst]
    cases engine.cache.get clock (cacheKey subjectId) with
    | mk found cache => cases found <;> rfl
  · rw [if_neg keeps, if_neg keeps]

theorem entry?_of_kept? {evaluation : Evaluation}
    (kept : engine.kept? clock subjectId = some evaluation) :
    ∃ entry, engine.cache.entry? (cacheKey subjectId) = some entry ∧ entry.value = evaluation := by
  rw [kept?] at kept
  split at kept
  next => exact Cache.entry?_of_live? _ _ _ kept
  next => cases kept

/-- The start of an evaluation changes nothing but the cache, and there at most looks a key up. -/
theorem start_snd :
    ∃ cache, (engine.start clock subjectId).2 = { engine with cache := cache } ∧
      (cache = engine.cache ∨ cache = (engine.cache.get clock (cacheKey subjectId)).2) := by
  rw [start]
  by_cases keeps : engine.settings.keepsResults = true
  · rw [if_pos keeps]
    cases engine.cache.get clock (cacheKey subjectId) with
    | mk found cache => cases found <;> exact ⟨cache, rfl, Or.inr rfl⟩
  · rw [if_neg keeps]
    exact ⟨engine.cache, rfl, Or.inl rfl⟩

@[simp] theorem rules_start : (engine.start clock subjectId).2.rules = engine.rules := by
  obtain ⟨cache, same, _⟩ := start_snd engine clock subjectId
  rw [same]

@[simp] theorem settings_start : (engine.start clock subjectId).2.settings = engine.settings := by
  obtain ⟨cache, same, _⟩ := start_snd engine clock subjectId
  rw [same]

theorem entry?_of_start {key : String} {entry : CacheEntry Evaluation}
    (found : Cache.entry? (engine.start clock subjectId).2.cache key = some entry) :
    engine.cache.entry? key = some entry := by
  obtain ⟨cache, same, rfl | rfl⟩ := start_snd engine clock subjectId
  · rwa [same] at found
  · rw [same] at found
    exact Cache.entry?_of_get _ _ _ _ found

/-- What is held stays so when an evaluation starts, then and later. -/
theorem live?_start_of_le {later : Rat} (notEarlier : clock ≤ later) (key : String) :
    (engine.start clock subjectId).2.cache.live? later key = engine.cache.live? later key := by
  obtain ⟨cache, same, rfl | rfl⟩ := start_snd engine clock subjectId
  · rw [same]
  · rw [same]
    exact Cache.live?_get_of_le _ _ _ _ notEarlier

/-- What is kept stays so when an evaluation starts. -/
@[simp] theorem kept?_start (other : String) :
    (engine.start clock subjectId).2.kept? clock other = engine.kept? clock other := by
  rw [kept?, kept?, settings_start]
  obtain ⟨cache, same, rfl | rfl⟩ := start_snd engine clock subjectId
  · rw [same]
  · rw [same, Cache.live?_get]

/-- Forgetting what is kept for subjects adds no entry. -/
theorem entry?_of_forget {subject : Option String} {key : String} {entry : CacheEntry Evaluation}
    (found : Cache.entry? (engine.forget subject).cache key = some entry) :
    engine.cache.entry? key = some entry := by
  cases subject with
  | none => cases found
  | some id =>
    have kept : Cache.entry? (engine.cache.erase (cacheKey id)) key = some entry := found
    rw [Cache.entry?_erase] at kept
    split at kept
    next => cases kept
    next => exact kept

/-- An evaluation ends with what was kept, or with the rules judged by the settings as they are now. -/
theorem finish_fst (started : Started) (context : Outcome Context) :
    (engine.finish moment subjectId started context).1 =
      match started with
      | .kept evaluation => .ok evaluation
      | .judging rules => do
        let context ← context
        return evaluation engine.settings rules subjectId context moment.now := by
  cases started with
  | kept evaluation => rfl
  | judging rules => cases context <;> rfl

@[simp] theorem rules_keep (evaluation : Evaluation) :
    (engine.keep clock evaluation).rules = engine.rules := by
  rw [keep]; split <;> rfl

@[simp] theorem settings_keep (evaluation : Evaluation) :
    (engine.keep clock evaluation).settings = engine.settings := by
  rw [keep]; split <;> rfl

/-- What is kept after an evaluation has been kept is that one or was kept before for another subject. -/
theorem entry?_of_keep {evaluation : Evaluation} {key : String} {entry : CacheEntry Evaluation}
    (found : Cache.entry? (engine.keep clock evaluation).cache key = some entry) :
    (engine.settings.keepsResults = true ∧ key = cacheKey evaluation.subjectId ∧ entry.value = evaluation) ∨
      ((engine.settings.keepsResults = true → key ≠ cacheKey evaluation.subjectId) ∧
        engine.cache.entry? key = some entry) := by
  rw [keep] at found
  split at found
  next keeps =>
    rcases Cache.entry?_of_set _ _ _ _ found with ⟨same, value⟩ | ⟨different, old⟩
    · exact Or.inl ⟨keeps, same, value⟩
    · exact Or.inr ⟨fun _ => different, old⟩
  next keepsNot => exact Or.inr ⟨fun keeps => (keepsNot keeps).elim, found⟩

/-- The end of an evaluation keeps it or changes nothing. -/
theorem finish_snd (started : Started) (context : Outcome Context) :
    (engine.finish moment subjectId started context).2 = engine ∨
    (∃ rules known, started = .judging rules ∧ context = .ok known ∧
      (engine.finish moment subjectId started context).2 =
        engine.keep moment.clock (evaluation engine.settings rules subjectId known moment.now)) := by
  cases started with
  | kept evaluation => exact Or.inl rfl
  | judging rules =>
    cases context with
    | error problem => exact Or.inl rfl
    | ok known => exact Or.inr ⟨rules, known, rfl, rfl, rfl⟩

@[simp] theorem rules_finish (started : Started) (context : Outcome Context) :
    (engine.finish moment subjectId started context).2.rules = engine.rules := by
  rcases engine.finish_snd moment subjectId started context with same | ⟨_, _, _, _, same⟩ <;>
    simp [same]

@[simp] theorem settings_finish (started : Started) (context : Outcome Context) :
    (engine.finish moment subjectId started context).2.settings = engine.settings := by
  rcases engine.finish_snd moment subjectId started context with same | ⟨_, _, _, _, same⟩ <;>
    simp [same]

section Capacity

@[simp] theorem capacity_start :
    (engine.start clock subjectId).2.cache.capacity = engine.cache.capacity := by
  obtain ⟨cache, same, rfl | rfl⟩ := start_snd engine clock subjectId
  · rw [same]
  · rw [same, Cache.capacity_get]

@[simp] theorem capacity_forget (subject : Option String) :
    (engine.forget subject).cache.capacity = engine.cache.capacity := by
  cases subject with
  | none => rfl
  | some id => exact engine.cache.capacity_erase (cacheKey id)

@[simp] theorem capacity_keep (evaluation : Evaluation) :
    (engine.keep clock evaluation).cache.capacity = engine.cache.capacity := by
  rw [keep]
  split
  next => exact Cache.capacity_set _ _ _ _ _
  next => rfl

end Capacity

/-- What has been kept where there was room is there as long as its lifetime has not ended. -/
theorem kept?_keep_self (evaluation : Evaluation) (keeps : engine.settings.keepsResults = true)
    (room : (engine.cache.entries.length : Int) < engine.cache.capacity)
    (lasts : (Lifetime.ofBinary64 engine.settings.resultSeconds).Lasts clock clock) :
    (engine.keep clock evaluation).kept? clock evaluation.subjectId = some evaluation := by
  rw [kept?, settings_keep, if_pos keeps, keep, if_pos keeps]
  exact Cache.live?_set_self _ _ _ room lasts

/-- An evaluation from its start to its end, with nothing in between. -/
theorem evaluate_fst (context : Outcome Context) :
    (engine.evaluate moment subjectId context).1 =
      match engine.kept? moment.clock subjectId with
      | some evaluation => .ok { evaluation with isKept := true }
      | none => do
        let context ← context
        return evaluation engine.settings engine.rules subjectId context moment.now := by
  rw [evaluate]
  show ((engine.start moment.clock subjectId).2.finish moment subjectId (engine.start moment.clock subjectId).1
    context).1 = _
  rw [finish_fst, start_fst, settings_start]
  cases engine.kept? moment.clock subjectId <;> rfl

/-- An evaluation leaves the engine as its start does, except that it keeps what the rules come to. -/
theorem evaluate_snd (context : Outcome Context) :
    (engine.evaluate moment subjectId context).2 =
      match engine.kept? moment.clock subjectId, context with
      | none, .ok known =>
        (engine.start moment.clock subjectId).2.keep moment.clock
          (evaluation engine.settings engine.rules subjectId known moment.now)
      | _, _ => (engine.start moment.clock subjectId).2 := by
  rw [evaluate]
  show ((engine.start moment.clock subjectId).2.finish moment subjectId (engine.start moment.clock subjectId).1
    context).2 = _
  rw [start_fst]
  cases engine.kept? moment.clock subjectId with
  | some evaluation => rfl
  | none =>
    cases context with
    | error problem => rfl
    | ok known =>
      rw [finish, settings_start]

@[simp] theorem settings_evaluate (context : Outcome Context) :
    (engine.evaluate moment subjectId context).2.settings = engine.settings := by
  rw [evaluate_snd]
  split
  next => rw [settings_keep, settings_start]
  next => exact settings_start _ _ _

/-- An evaluation for a known context ends with what is kept or with the rules judged. -/
theorem evaluate_cases (context : Context) :
    ∃ result after, engine.evaluate moment subjectId (.ok context) = (.ok result, after) ∧
      (result.isKept = true ∨
        result = evaluation engine.settings engine.rules subjectId context moment.now) := by
  have outcome := engine.evaluate_fst moment subjectId (.ok context)
  cases kept : engine.kept? moment.clock subjectId with
  | some evaluation =>
    rw [kept] at outcome
    exact ⟨_, _, Prod.ext outcome rfl, Or.inl rfl⟩
  | none =>
    rw [kept] at outcome
    exact ⟨_, _, Prod.ext outcome rfl, Or.inr rfl⟩

end Obligations.Engine
