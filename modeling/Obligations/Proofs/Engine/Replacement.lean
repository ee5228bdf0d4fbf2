import Obligations.Proofs.Engine.Tasks
import Obligations.Proofs.Rule.Check
import Obligations.Proofs.Rule.Highest
import Obligations.Proofs.Settings.Changing
import Mathlib.Data.Finset.Image

/-! # Rules and settings replaced in place

Loading and configuring work on an engine where it stands: what is given is checked first, then the
rules or the settings are set, then the cache is cleared. Work that ends in a problem has not come to
the second step, so it leaves the engine as it was.
-/

namespace Obligations

/-- Work on an engine where it stands, which may end in a problem. -/
abbrev InPlace (α : Type) := ExceptT Problem (StateM Engine) α

namespace InPlace

variable {α : Type}

def ofOutcome (outcome : Outcome α) : InPlace α :=
  ExceptT.mk (pure outcome)

/-- Nothing is kept any more. -/
def clearCache : InPlace Unit :=
  modify fun engine => { engine with cache := engine.cache.clear }

/-- Drafts checked one by one become the set of their rules, and then nothing is kept any more. The
answer is the number of rules of the set. -/
def load (drafts : List Draft) : InPlace Nat := do
  let rules ← drafts.mapM fun draft => ofOutcome (Engine.accept draft)
  let set := Engine.ruleSet (rules.filterMap id)
  modify fun engine => { engine with rules := set }
  clearCache
  return set.length

/-- The settings are read anew with changes, and then nothing is kept any more. The answer is the
changed settings. -/
def configure (environment : Environment) (changes : List (String × Value)) : InPlace EngineSettings := do
  let old := (← get).settings
  let settings ← ofOutcome (engineSection.read environment (Value.overlay old.members changes))
  modify fun engine => { engine with settings := settings }
  clearCache
  return (← get).settings

theorem ofOutcome_bind {β : Type} (outcome : Outcome α) (next : α → Outcome β) :
    ofOutcome (outcome >>= next) = ofOutcome outcome >>= fun value => ofOutcome (next value) := by
  cases outcome <;> rfl

theorem mapM_ofOutcome {β : Type} (step : α → Outcome β) (items : List α) :
    items.mapM (fun item => ofOutcome (step item)) = ofOutcome (items.mapM step) := by
  induction items with
  | nil => rfl
  | cons item rest ih =>
    simp only [List.mapM_cons, ofOutcome_bind, ih]
    rfl

/-- Loading in place comes to the loaded engine and the number of its rules. -/
theorem run_load (engine : Engine) (drafts : List Draft) :
    (load drafts).run.run engine =
      match engine.load drafts with
      | .ok loaded => (.ok loaded.rules.length, loaded)
      | .error problem => (.error problem, engine) := by
  rw [load, mapM_ofOutcome, Engine.load]
  cases drafts.mapM Engine.accept with
  | ok rules => rfl
  | error problem => rfl

/-- Configuring in place comes to the configured engine and its settings. -/
theorem run_configure (engine : Engine) (environment : Environment) (changes : List (String × Value)) :
    (configure environment changes).run.run engine =
      match engine.configure environment changes with
      | .ok configured => (.ok configured.settings, configured)
      | .error problem => (.error problem, engine) := by
  rw [Engine.configure]
  show (ofOutcome (engineSection.read environment (Value.overlay engine.settings.members changes)) >>=
    fun settings => do
      modify fun engine => { engine with settings := settings }
      clearCache
      return (← get).settings : InPlace EngineSettings).run.run engine = _
  cases engineSection.read environment (Value.overlay engine.settings.members changes) with
  | ok settings => rfl
  | error problem => rfl

/-- Work that leaves an engine as it was where it ends in a problem, and otherwise leaves one with which
it is done. -/
structure IsAllOrNothing (work : InPlace α) (engine : Engine) (done : α → Engine → Prop) : Prop where
  nothing : ∀ problem left, work.run.run engine = (.error problem, left) → left = engine
  all : ∀ answer left, work.run.run engine = (.ok answer, left) → done answer left

/-- Work in place that comes to what a change of the engine does is all or nothing. -/
theorem isAllOrNothing_of_run {work : InPlace α} {engine : Engine} {change : Outcome Engine}
    {answer : Engine → α} {done : α → Engine → Prop}
    (ran : work.run.run engine =
      match change with
      | .ok changed => (.ok (answer changed), changed)
      | .error problem => (.error problem, engine))
    (finished : ∀ changed, change = .ok changed → done (answer changed) changed) :
    work.IsAllOrNothing engine done := by
  cases change with
  | error problem =>
    refine ⟨fun other left same => ?_, fun answer left same => ?_⟩
    · cases ran.symm.trans same
      rfl
    · cases ran.symm.trans same
  | ok changed =>
    refine ⟨fun problem left same => ?_, fun told left same => ?_⟩
    · cases ran.symm.trans same
    · cases ran.symm.trans same
      exact finished changed rfl

/-- Such work succeeds exactly if the change does. -/
theorem exists_run_iff {work : InPlace α} {engine : Engine} {change : Outcome Engine}
    {answer : Engine → α}
    (ran : work.run.run engine =
      match change with
      | .ok changed => (.ok (answer changed), changed)
      | .error problem => (.error problem, engine)) :
    (∃ told left, work.run.run engine = (.ok told, left)) ↔ ∃ changed, change = .ok changed := by
  rw [ran]
  cases change with
  | error problem =>
    constructor
    · rintro ⟨told, left, same⟩
      cases same
    · rintro ⟨changed, same⟩
      cases same
  | ok changed => exact iff_of_true ⟨_, _, rfl⟩ ⟨changed, rfl⟩

end InPlace

namespace Engine

theorem isUsable_of_accept {draft : Draft} {rule : Option Rule} (accepted : accept draft = .ok rule) :
    draft.isUsable = true := by
  obtain ⟨report, checked, passed⟩ := Outcome.bind_eq_ok.mp accepted
  rw [Draft.isUsable, checked]
  by_contra wrong
  rw [if_neg (by simpa [Except.toOption] using wrong)] at passed
  cases passed

/-- Drafts are loaded exactly if nothing is wrong with any of them. -/
theorem exists_load_iff (engine : Engine) (drafts : List Draft) :
    (∃ loaded, engine.load drafts = .ok loaded) ↔ ∀ draft ∈ drafts, draft.isUsable = true := by
  constructor
  · rintro ⟨loaded, accepted⟩ draft listed
    obtain ⟨rules, checked, _⟩ := Outcome.bind_eq_ok.mp accepted
    obtain ⟨rule, _, own⟩ := Outcome.exists_of_mapM checked listed
    exact isUsable_of_accept own
  · exact fun usable => ⟨_, load_eq_ok usable⟩

/-- Drafts with which nothing is wrong are rules, one by one. -/
theorem map_toRule?_of_isUsable {drafts : List Draft}
    (usable : ∀ draft ∈ drafts, draft.isUsable = true) :
    drafts.map (·.toRule?) = (drafts.filterMap (·.toRule?)).map some := by
  induction drafts with
  | nil => rfl
  | cons draft rest ih =>
    obtain ⟨own, others⟩ := List.forall_mem_cons.mp usable
    obtain ⟨rule, same⟩ := Draft.exists_rule_of_isUsable own
    rw [List.map_cons, List.filterMap_cons_some same, List.map_cons, same, ih others]

/-- An engine into which drafts are loaded, after which the count was told: each draft is a rule, the
rules are the set of these, as many as there are identities, the settings are the old ones, and nothing
is kept. -/
structure IsLoaded (engine : Engine) (drafts : List Draft) (count : Nat) (loaded : Engine) : Prop where
  rules : ∃ given : List Rule, drafts.map (·.toRule?) = given.map some ∧ IsSetOf loaded.rules given
  counted : count = loaded.rules.length
  identities : loaded.rules.length = (drafts.map (·.id)).toFinset.card
  settings : loaded.settings = engine.settings
  forgets : loaded.cache.entries = []

theorem map_id_of_map_toRule? {drafts : List Draft} {given : List Rule}
    (same : drafts.map (·.toRule?) = given.map some) : drafts.map (·.id) = (given.map (·.id)).map some := by
  induction drafts generalizing given with
  | nil =>
    obtain rfl := List.map_eq_nil_iff.mp same.symm
    rfl
  | cons draft rest ih =>
    cases given with
    | nil => cases same
    | cons rule others =>
      obtain ⟨own, more⟩ := List.cons.inj same
      rw [List.map_cons, List.map_cons, List.map_cons, ih more, (Draft.id_of_toRule? own).1]

theorem isLoaded_of_load {engine loaded : Engine} {drafts : List Draft}
    (accepted : engine.load drafts = .ok loaded) : IsLoaded engine drafts loaded.rules.length loaded := by
  have usable := (exists_load_iff engine drafts).mp ⟨loaded, accepted⟩
  rw [load_eq_ok usable] at accepted
  cases accepted
  have rules := map_toRule?_of_isUsable usable
  have isSet := isSetOf_ruleSet (drafts.filterMap (·.toRule?))
  refine ⟨⟨_, rules, isSet⟩, rfl, ?_, rfl, rfl⟩
  rw [isSet.length_eq, map_id_of_map_toRule? rules]
  have image : ((drafts.filterMap (·.toRule?)).map (·.id)).toFinset.image some =
      (((drafts.filterMap (·.toRule?)).map (·.id)).map some).toFinset := by
    ext id
    simp
  rw [← image, Finset.card_image_of_injective _ (Option.some_injective _)]

/-- An engine of which settings are changed, after which these were told: every setting that is named is
what its value is read as, every other one is the old one, the rules are the old ones, and nothing is
kept. -/
structure IsConfigured (engine : Engine) (changes : List (String × Value)) (settings : EngineSettings)
    (configured : Engine) : Prop where
  told : settings = configured.settings
  named : ∀ change ∈ changes, ∃ setting, EngineSettings.readAs change.1 change.2 = .ok setting ∧
    (change.1, setting) ∈ settings.members
  others : ∀ member ∈ settings.members, member.1 ∉ changes.map Prod.fst →
    member ∈ engine.settings.members
  rules : configured.rules = engine.rules
  forgets : configured.cache.entries = []

theorem isConfigured_of_configure {engine configured : Engine} {environment : Environment}
    {changes : List (String × Value)} (once : (changes.map Prod.fst).Nodup)
    (accepted : engine.configure environment changes = .ok configured) :
    IsConfigured engine changes configured.settings configured := by
  rw [configure] at accepted
  obtain ⟨settings, read, same⟩ := Outcome.bind_eq_ok.mp accepted
  cases same
  obtain ⟨named, others⟩ := EngineSettings.changed_of_read once read
  exact ⟨rfl, named, fun member own unnamed => (others member own unnamed).1, rfl, rfl⟩

/-- Settings are changed exactly if every change is one of a setting, with a value that can be read, and
what stays can be read again. -/
theorem exists_configure_iff (engine : Engine) (environment : Environment)
    {changes : List (String × Value)} (once : (changes.map Prod.fst).Nodup) :
    (∃ configured, engine.configure environment changes = .ok configured) ↔
      (∀ change ∈ changes, EngineSettings.IsReadable change) ∧
        ∀ member ∈ engine.settings.members, member.1 ∉ changes.map Prod.fst →
          EngineSettings.IsReadable member := by
  rw [← EngineSettings.exists_read_iff environment once, configure]
  cases engineSection.read environment (Value.overlay engine.settings.members changes) with
  | error problem =>
    constructor
    · rintro ⟨configured, same⟩
      cases same
    · rintro ⟨settings, same⟩
      cases same
  | ok settings => exact iff_of_true ⟨_, rfl⟩ ⟨settings, rfl⟩

end Engine

namespace InPlace

/-- Rules and settings are replaced as a whole or not at all: work that ends in a problem leaves the
rules, the settings and all that is kept as they were. Drafts are loaded exactly if nothing is wrong
with any of them, and settings are changed exactly if every change is one of a setting, with a value
that can be read, and what stays can be read again. -/
theorem replacement_isAllOrNothing (engine : Engine) (drafts : List Draft) (environment : Environment)
    (changes : List (String × Value)) (once : (changes.map Prod.fst).Nodup) :
    (load drafts).IsAllOrNothing engine (engine.IsLoaded drafts) ∧
      ((∃ count loaded, (load drafts).run.run engine = (.ok count, loaded)) ↔
        ∀ draft ∈ drafts, draft.isUsable = true) ∧
      (configure environment changes).IsAllOrNothing engine (engine.IsConfigured changes) ∧
      ((∃ settings configured,
          (configure environment changes).run.run engine = (.ok settings, configured)) ↔
        (∀ change ∈ changes, EngineSettings.IsReadable change) ∧
          ∀ member ∈ engine.settings.members, member.1 ∉ changes.map Prod.fst →
            EngineSettings.IsReadable member) := by
  have loading := run_load engine drafts
  have configuring := run_configure engine environment changes
  refine ⟨isAllOrNothing_of_run loading fun _ => Engine.isLoaded_of_load, ?_,
    isAllOrNothing_of_run configuring fun _ => Engine.isConfigured_of_configure once, ?_⟩
  · rw [exists_run_iff loading, engine.exists_load_iff drafts]
  · rw [exists_run_iff configuring, engine.exists_configure_iff environment once]

/-- Two rules of one identity are loaded as one, a limit of three tasks is set, and one of none is
refused, which leaves what was kept. -/
theorem replacement_isAllOrNothing_visaAndReport :
    let engine := (Engine.visaAndReport.evaluate Engine.morning "s1" (.ok Engine.student)).2
    let drafts := [Engine.selfRequiring.toDraft, Engine.requiring.toDraft, Engine.selfRequiring.toDraft]
    let limit (count : Nat) := [("max_tasks_per_evaluation", Value.int count)]
    (∃ loaded, (load drafts).run.run engine = (.ok 2, loaded) ∧ engine.IsLoaded drafts 2 loaded) ∧
      (∃ settings configured, (configure [] (limit 3)).run.run engine = (.ok settings, configured) ∧
        settings.taskLimit = 3 ∧ engine.IsConfigured (limit 3) settings configured) ∧
      ∃ problem left, (configure [] (limit 0)).run.run engine = (.error problem, left) ∧
        left = engine ∧ (left.kept? Engine.morning.clock "s1").isSome = true := by
  intro engine drafts limit
  obtain ⟨loading, exactly, limited, _⟩ :=
    replacement_isAllOrNothing engine drafts [] (limit 3) (by decide)
  obtain ⟨_, _, unlimited, _⟩ := replacement_isAllOrNothing engine drafts [] (limit 0) (by decide)
  refine ⟨?_, ?_, ?_⟩
  · have two : (drafts.map (·.id)).toFinset.card = 2 := by decide
    obtain ⟨count, loaded, ran⟩ := exactly.mpr (by decide +kernel)
    have done := loading.all count loaded ran
    obtain rfl : count = 2 := done.counted.trans (done.identities.trans two)
    exact ⟨loaded, ran, done⟩
  · have succeeds : (engine.configure [] (limit 3)).toOption.any (·.settings.taskLimit = 3) = true := by
      decide +kernel
    obtain ⟨configured, accepted, three⟩ := Outcome.exists_of_any succeeds
    have ran : (configure [] (limit 3)).run.run engine = (.ok configured.settings, configured) := by
      rw [run_configure, accepted]
    exact ⟨_, _, ran, of_decide_eq_true three, limited.all _ _ ran⟩
  · have refused : (engine.configure [] (limit 0)).toOption.isNone = true := by decide +kernel
    cases ended : engine.configure [] (limit 0) with
    | ok configured =>
      rw [ended] at refused
      cases refused
    | error problem =>
      have ran : (configure [] (limit 0)).run.run engine = (.error problem, engine) := by
        rw [run_configure, ended]
      exact ⟨problem, _, ran, unlimited.nothing _ _ ran, by decide +kernel⟩

end InPlace

end Obligations
