import Obligations.Proofs.Engine.Interleaving

/-! # What is kept and what the rules come to now

What is kept for a subject is current if evaluating the subject afresh comes to it as well. It stays so
through every step of an evaluation, whatever is given up or kept in between. In a session it is current
where nothing has changed since it was made.
-/

namespace Obligations

open Obligations.Calendar

/-- An evaluation, whether it was kept or not. -/
def Evaluation.plain (evaluation : Evaluation) : Evaluation :=
  { evaluation with isKept := false }

/-- What an evaluation comes to, whether it was kept or not. -/
def Outcome.plain (outcome : Outcome Evaluation) : Outcome Evaluation :=
  outcome.map Evaluation.plain

namespace Engine

variable (engine : Engine) (moment : Moment) (contextOf : String → Outcome Context)

/-- What the rules come to for a subject now. -/
def afresh (subjectId : String) : Outcome Evaluation := do
  let known ← contextOf subjectId
  return evaluation engine.settings engine.rules subjectId known moment.now

/-- Whether what is kept for a subject is what the rules come to now. -/
def IsCurrent (subjectId : String) : Prop :=
  ∀ kept, engine.kept? moment.clock subjectId = some kept →
    engine.afresh moment contextOf subjectId = .ok kept.plain

variable {engine moment contextOf}

theorem plain_afresh (subjectId : String) :
    Outcome.plain (engine.afresh moment contextOf subjectId) =
      engine.afresh moment contextOf subjectId := by
  rw [afresh]
  cases contextOf subjectId <;> rfl

/-- On its own an evaluation comes to what the rules come to now. -/
theorem IsCurrent.plain_evaluate {subjectId : String}
    (current : engine.IsCurrent moment contextOf subjectId) :
    Outcome.plain (engine.evaluate moment subjectId (contextOf subjectId)).1 =
      engine.afresh moment contextOf subjectId := by
  rw [evaluate_fst]
  cases kept : engine.kept? moment.clock subjectId with
  | some evaluation => exact (current evaluation kept).symm
  | none => exact plain_afresh subjectId

/-- What is kept after an evaluation has been kept is that one, or was kept before. -/
theorem kept?_of_keep {clock : Rat} {evaluation kept : Evaluation} {subjectId : String}
    (found : (engine.keep clock evaluation).kept? clock subjectId = some kept) :
    (subjectId = evaluation.subjectId ∧ kept = evaluation) ∨
      engine.kept? clock subjectId = some kept := by
  rw [kept?, settings_keep] at found
  split at found
  next keeps =>
    obtain ⟨entry, held, alive⟩ := Option.bind_eq_some_iff.mp found
    rcases entry?_of_keep _ _ held with ⟨_, same, rfl⟩ | ⟨_, old⟩
    · split at alive
      next => cases alive
      next => exact Or.inl ⟨cacheKey_inj.mp same, (Option.some.inj alive).symm⟩
    · refine Or.inr ?_
      rw [kept?, if_pos keeps, Cache.live?, old]
      exact alive
  next => cases found

/-- Whether an engine has the rules and the settings of another one, and keeps for some subjects only what
these come to now. -/
structure Agrees (other engine : Engine) (moment : Moment) (contextOf : String → Outcome Context)
    (subjects : List String) : Prop where
  rules : other.rules = engine.rules
  settings : other.settings = engine.settings
  current : ∀ subjectId ∈ subjects, other.IsCurrent moment contextOf subjectId

variable {other : Engine} {subjects : List String}

theorem Agrees.afresh_eq (agrees : other.Agrees engine moment contextOf subjects) (subjectId : String) :
    other.afresh moment contextOf subjectId = engine.afresh moment contextOf subjectId := by
  rw [afresh, afresh, agrees.rules, agrees.settings]

theorem Agrees.start (agrees : other.Agrees engine moment contextOf subjects) (subjectId : String) :
    (other.start moment.clock subjectId).2.Agrees engine moment contextOf subjects where
  rules := by rw [rules_start, agrees.rules]
  settings := by rw [settings_start, agrees.settings]
  current another listed kept found := by
    rw [kept?_start] at found
    have same := agrees.current another listed kept found
    rwa [afresh, rules_start, settings_start]

/-- An evaluation that has taken the rules keeps what they come to now. -/
theorem Agrees.finish (agrees : other.Agrees engine moment contextOf subjects) (subjectId : String) :
    (other.finish moment subjectId (.judging engine.rules) (contextOf subjectId)).2.Agrees engine moment
      contextOf subjects where
  rules := by rw [rules_finish, agrees.rules]
  settings := by rw [settings_finish, agrees.settings]
  current another listed kept found := by
    rw [afresh, rules_finish, settings_finish, ← afresh]
    rcases other.finish_snd moment subjectId (.judging engine.rules) (contextOf subjectId) with
      same | ⟨rules, known, taken, fetched, same⟩
    · rw [same] at found
      exact agrees.current another listed kept found
    · cases taken
      rw [same] at found
      rcases kept?_of_keep found with ⟨own, rfl⟩ | before
      · obtain rfl : another = subjectId := own
        rw [afresh, fetched, agrees.rules]
        rfl
      · exact agrees.current another listed kept before

end Engine

namespace Session

variable {session : Session}

/-- Whether what is on record for a key was made for its subject. -/
def IsKeyed (session : Session) : Prop :=
  ∀ key source, session.origins key = some source → key = Engine.cacheKey source.subjectId

theorem IsKeyed.finish (keyed : session.IsKeyed) (position : Nat) (call : Call) (moment : Moment)
    (context : Outcome Context) : (session.finish position call moment context).IsKeyed := by
  cases context with
  | error problem => exact keyed
  | ok known =>
    intro key source origin
    rw [finish_ok] at origin
    dsimp only [withKept, Engine.evaluation] at origin
    split at origin
    next =>
      by_cases own : key = Engine.cacheKey call.subjectId
      · subst own
        rw [Function.update_self] at origin
        cases origin
        rfl
      · rw [Function.update_of_ne own] at origin
        exact keyed key source origin
    next => exact keyed key source origin

theorem IsKeyed.start (keyed : session.IsKeyed) (clock : Rat) (subjectId : String) :
    (session.start clock subjectId).IsKeyed := by
  obtain ⟨cache, _, ⟨_, same⟩ | ⟨kept, _, same⟩⟩ := session.start_cases clock subjectId <;>
    rw [same] <;>
    exact keyed

theorem IsKeyed.step (keyed : session.IsKeyed) (event : Event) : (session.step event).IsKeyed := by
  obtain same | ⟨rules, same⟩ | ⟨settings, same⟩ | ⟨subjectId, same⟩ | ⟨clock, subjectId, same⟩ |
    ⟨position, call, moment, context, _, same⟩ := session.step_cases event <;> rw [same]
  · exact keyed
  · exact keyed
  · exact keyed
  · exact keyed
  · exact keyed.start clock subjectId
  · exact keyed.finish position call moment context

theorem isKeyed_run (settings : EngineSettings) (events : List Event) :
    ((ofSettings settings).run events).IsKeyed := by
  suffices kept : ∀ session : Session, session.IsKeyed → (session.run events).IsKeyed from
    kept _ fun _ _ origin => nomatch origin
  induction events with
  | nil => exact fun _ keyed => keyed
  | cons event rest ih => exact fun session keyed => ih _ (keyed.step event)

/-- What is kept is current where nothing that it was made from has changed since. -/
theorem IsTruthful.isCurrent (truthful : session.IsTruthful) (keyed : session.IsKeyed) {moment : Moment}
    {contextOf : String → Outcome Context} {subjectId : String}
    (unchanged : ∀ source, session.origins (Engine.cacheKey subjectId) = some source →
      ¬ source.Straddles ∧ source.now = moment.now ∧ contextOf subjectId = .ok source.context) :
    session.engine.IsCurrent moment contextOf subjectId := by
  intro kept found
  obtain ⟨entry, held, rfl⟩ := Engine.entry?_of_kept? _ _ _ found
  obtain ⟨source, origin, made, ordered, ended, chosen⟩ := truthful.kept _ entry held
  obtain ⟨whole, now, fetched⟩ := unchanged source origin
  have own : subjectId = source.subjectId := Engine.cacheKey_inj.mp (keyed _ source origin)
  have taken : source.rulesAt = session.rulesNow := by
    rw [Provenance.Straddles] at whole
    omega
  have rules : session.ruleSets[session.rulesNow]? = some session.engine.rules := by
    simp [ruleSets, rulesNow]
  have settings : session.settings[session.settingsNow]? = some session.engine.settings := by
    simp [Session.settings, settingsNow]
  have plain := isKept_of_evaluation? made
  rw [Provenance.evaluation?, taken, rules, chosen, settings] at made
  rw [Engine.afresh, fetched, own, ← now]
  have same : Engine.evaluation session.engine.settings session.engine.rules source.subjectId
      source.context source.now = entry.value := Option.some.inj made
  rw [Evaluation.plain, ← plain, ← same]
  rfl

/-- In every session what is kept is current where the rules were not replaced while it was made, and the
time and what is known of the subject are still the same. -/
theorem isCurrent_run (settings : EngineSettings) (events : List Event) {moment : Moment}
    {contextOf : String → Outcome Context} {subjectId : String}
    (unchanged : ∀ source,
      ((ofSettings settings).run events).origins (Engine.cacheKey subjectId) = some source →
      ¬ source.Straddles ∧ source.now = moment.now ∧ contextOf subjectId = .ok source.context) :
    ((ofSettings settings).run events).engine.IsCurrent moment contextOf subjectId :=
  (isTruthful_run settings events).isCurrent (isKeyed_run settings events) unchanged

end Session

end Obligations
