import Obligations.Proofs.Source.Loader

/-! # What a load comes to

Sources whose keys are different do not get into each other's way: whatever the order of their turns,
every one of them finds what was kept for its key when the load began, and is asked where nothing was. So
the outcome of the load, what is kept behind it and which sources were asked can be told from what was
kept before and from what each source answers.
-/

namespace Obligations

open Obligations.Calendar Obligations.Text

namespace Source

/-- What a source tells: what is kept for it or, where nothing is, what its place answers. -/
def told (source : Source) (kept : Option (List Draft)) (now : Timestamp) : Outcome (List Draft) :=
  match kept with
  | some rules => .ok rules
  | none => source.shelf.load now

/-- The source behind a load, which has asked it if it is enabled and nothing is kept for it. -/
def asked (source : Source) (kept : Option (List Draft)) : Source :=
  if source.isEnabled = true ∧ kept = none then source.visited else source

/-- The inquiry of a source that has had its turns. -/
def ended (source : Source) (kept : Option (List Draft)) (now : Timestamp) : Inquiry :=
  ⟨source.asked kept, if source.isEnabled then .answered (source.told kept now) else .skipped⟩

/-- The rules that the enabled ones of several sources tell. -/
def rules (sources : List Source) (told : Source → Outcome (List Draft)) : List Draft :=
  (sources.filter (·.isEnabled)).flatMap fun source => (told source).toOption.getD []

/-- Whether one of several sources is enabled, and all that are fail. -/
def AllFail (sources : List Source) (told : Source → Outcome (List Draft)) : Prop :=
  (∃ source ∈ sources, source.isEnabled = true) ∧
    ∀ source ∈ sources, source.isEnabled = true → (told source).isOk = false

instance (sources : List Source) (told : Source → Outcome (List Draft)) :
    Decidable (AllFail sources told) :=
  inferInstanceAs (Decidable (_ ∧ _))

/-- Whether no two of several sources that are enabled have the same key. -/
def AreDistinct (sources : List Source) : Prop :=
  sources.Pairwise fun source other =>
    source.isEnabled = true → other.isEnabled = true → source.key ≠ other.key

/-- Enabled sources at different places have different keys. -/
theorem AreDistinct.key_ne {sources : List Source} (distinct : AreDistinct sources) {source other : Source}
    {number index : Nat} (apart : number ≠ index) (placed : sources[number]? = some source)
    (on : source.isEnabled = true) (there : sources[index]? = some other)
    (otherOn : other.isEnabled = true) : source.key ≠ other.key := by
  obtain ⟨inside, rfl⟩ := List.getElem?_eq_some_iff.mp placed
  obtain ⟨insideToo, rfl⟩ := List.getElem?_eq_some_iff.mp there
  have ordered := List.pairwise_iff_getElem.mp distinct
  rcases Nat.lt_or_gt_of_ne apart with earlier | later
  · exact ordered _ _ inside insideToo earlier on otherOn
  · exact (ordered _ _ insideToo inside later otherOn on).symm

/-- The failure that names the enabled ones of several sources. -/
def failure (sources : List Source) : Failure :=
  .of .loading "All rule sources failed to load"
    { details := [("sources", .value (.text (joined ", "
      ((sources.filter (·.isEnabled)).map (·.key)))))] }

theorem key_asked (source : Source) (kept : Option (List Draft)) :
    (source.asked kept).key = source.key := by
  rw [asked]
  split <;> rfl

@[simp] theorem key_visited (source : Source) : source.visited.key = source.key :=
  rfl

@[simp] theorem shelf_visited (source : Source) : source.visited.shelf = source.shelf :=
  rfl

end Source

namespace Inquiry

/-- How far a source can have come, by what was kept for its key. -/
inductive Reached (source : Source) (kept : Option (List Draft)) (now : Timestamp) : Inquiry → Prop where
  | skipped (off : source.isEnabled = false) : Reached source kept now ⟨source, .skipped⟩
  | due (on : source.isEnabled = true) : Reached source kept now ⟨source, .due⟩
  | awaited (on : source.isEnabled = true) (missing : kept = none) :
    Reached source kept now ⟨source.visited, .awaited⟩
  | found {rules : List Draft} (on : source.isEnabled = true) (there : kept = some rules) :
    Reached source kept now ⟨source, .answered (.ok rules)⟩
  | answered (on : source.isEnabled = true) (missing : kept = none) :
    Reached source kept now ⟨source.visited, .answered (source.shelf.load now)⟩

variable {source : Source} {kept : Option (List Draft)} {now : Timestamp} {inquiry : Inquiry}

/-- A source that has no turns left has ended. -/
theorem Reached.eq_ended (reached : Reached source kept now inquiry) (finished : inquiry.stage.left = 0) :
    inquiry = source.ended kept now := by
  cases reached with
  | skipped off => simp [Source.ended, Source.asked, off]
  | due | awaited => simp [Stage.left] at finished
  | found on there => simp [Source.ended, Source.asked, Source.told, on, there]
  | answered on missing => simp [Source.ended, Source.asked, Source.told, on, missing]

theorem reached_ofSource (source : Source) (kept : Option (List Draft)) (now : Timestamp) :
    Reached source kept now (ofSource source) := by
  rw [ofSource]
  split
  next on => exact .due on
  next off => exact .skipped (Bool.eq_false_iff.mpr off)

/-- What is there for the key of a source, now or later, once its inquiry has come so far: the rules that
it has just told, or else what was kept before. -/
def held (inquiry : Inquiry) (before : Cache (List Draft)) (clock later : Rat) : Option (List Draft) :=
  match before.live? clock inquiry.source.key, inquiry.stage with
  | none, .answered (.ok rules) => if before.lifetime.Lasts clock later then some rules else none
  | _, _ => before.live? later inquiry.source.key

variable {before after : Cache (List Draft)} {moment : Moment}

/-- A source that is not asked, or that fails, leaves what was kept. -/
theorem held_ended (later : Rat) (fails : source.isEnabled = true →
      before.live? moment.clock source.key = none →
      ∃ problem, source.shelf.load moment.now = .error problem) :
    (source.ended (before.live? moment.clock source.key) moment.now).held before moment.clock later =
      before.live? later source.key := by
  rw [held, Source.ended, Source.key_asked]
  split
  next rules missing told =>
    split at told
    next on =>
      obtain ⟨problem, refused⟩ := fails on missing
      rw [missing, Source.told, refused] at told
      cases told
    next => cases told
  next => rfl

/-- Whether the inquiry of a source has come as far as it can have come, and nothing else is kept for its
key if it is enabled. -/
structure IsUnderway (inquiry : Inquiry) (source : Source) (before after : Cache (List Draft))
    (moment : Moment) : Prop where
  reached : Reached source (before.live? moment.clock source.key) moment.now inquiry
  kept : source.isEnabled = true → ∀ later, moment.clock ≤ later →
    after.live? later source.key = inquiry.held before moment.clock later

/-- With each turn of its own an inquiry is underway. -/
theorem IsUnderway.next (underway : inquiry.IsUnderway source before after moment)
    (room : after.HasRoom source.key) (lifetime : after.lifetime = before.lifetime) :
    (inquiry.next moment after).1.IsUnderway source before (inquiry.next moment after).2 moment := by
  obtain ⟨reached, kept⟩ := underway
  have turn := inquiry.turn_next moment after
  generalize (inquiry.next moment after).1 = following at turn ⊢
  generalize (inquiry.next moment after).2 = cache at turn ⊢
  cases turn with
  | finished => exact ⟨reached, kept⟩
  | @found _ rules live =>
    cases reached with
    | due on =>
      have start : before.live? moment.clock source.key = some rules := by
        simpa [held, live] using (kept on moment.clock Rat.le_refl).symm
      refine ⟨.found on start, fun _ later notEarlier => ?_⟩
      rw [after.live?_get_of_le _ _ _ notEarlier, kept on later notEarlier]
      simp [held, start]
  | missed missing =>
    cases reached with
    | due on =>
      have start : before.live? moment.clock source.key = none := by
        simpa [held, missing] using (kept on moment.clock Rat.le_refl).symm
      refine ⟨.awaited on start, fun _ later notEarlier => ?_⟩
      rw [after.live?_get_of_le _ _ _ notEarlier, kept on later notEarlier]
      simp [held]
  | told loaded =>
    cases reached with
    | awaited on missing =>
      rw [Source.shelf_visited] at loaded
      refine ⟨loaded ▸ .answered on missing, fun _ later notEarlier => ?_⟩
      rw [Source.key_visited, after.live?_set_of_hasRoom _ _ room, if_pos rfl]
      simp [held, missing, lifetime]
  | failed refused =>
    cases reached with
    | awaited on missing =>
      rw [Source.shelf_visited] at refused
      refine ⟨refused ▸ .answered on missing, fun _ later notEarlier => ?_⟩
      rw [kept on later notEarlier]
      simp [held]

theorem Reached.key_eq (reached : Reached source kept now inquiry) :
    inquiry.source.key = source.key := by
  cases reached <;> rfl

end Inquiry

namespace Round

/-- Whether every inquiry of a round is underway, and nothing has changed about what is kept for keys that no
enabled source has. -/
structure IsUnderway (round : Round) (sources : List Source) (before : Cache (List Draft))
    (moment : Moment) (names : List String) : Prop where
  fits : round.cache.Fits names
  lifetime : round.cache.lifetime = before.lifetime
  length : round.inquiries.length = sources.length
  each : ∀ (number : Nat) source inquiry, sources[number]? = some source →
    round.inquiries[number]? = some inquiry → inquiry.IsUnderway source before round.cache moment
  others : ∀ key, (∀ source ∈ sources, source.isEnabled = true → source.key ≠ key) →
    ∀ later, moment.clock ≤ later →
      round.cache.live? later key = before.live? later key

variable {round : Round} {sources : List Source} {before : Cache (List Draft)} {moment : Moment}
  {names : List String}

theorem isUnderway_ofSources (fits : before.Fits names) (moment : Moment) :
    (ofSources sources before).IsUnderway sources before moment names where
  fits := fits
  lifetime := rfl
  length := by simp [ofSources]
  each number source inquiry listed found := by
    have same : inquiry = .ofSource source := by
      simpa [ofSources, listed] using found.symm
    refine ⟨same ▸ Inquiry.reached_ofSource _ _ _, fun _ later _ => ?_⟩
    have key : inquiry.source.key = source.key := by rw [same]; rfl
    have unanswered : ∀ outcome, inquiry.stage ≠ .answered outcome := by
      intro outcome
      rw [same, Inquiry.ofSource]
      cases source.isEnabled <;> simp
    rw [Inquiry.held, key]
    split
    next rules _ told => exact absurd told (unanswered _)
    next => rfl
  others _ _ _ _ := rfl

/-- A source that is turned off has no turns. -/
theorem IsUnderway.left_eq_zero (underway : round.IsUnderway sources before moment names) {number : Nat}
    {source : Source} {inquiry : Inquiry} (placed : sources[number]? = some source)
    (found : round.inquiries[number]? = some inquiry) (off : source.isEnabled ≠ true) :
    inquiry.stage.left = 0 := by
  cases (underway.each number source inquiry placed found).reached with
  | skipped => rfl
  | due on | awaited on | found on | answered on => exact absurd on off

/-- A turn of one source leaves the inquiries of the others underway, as their keys are different. -/
theorem IsUnderway.next (underway : round.IsUnderway sources before moment names)
    (distinct : Source.AreDistinct sources)
    (listed : ∀ source ∈ sources, source.isEnabled = true → source.key ∈ names)
    {number : Nat} {inquiry : Inquiry} (found : round.inquiries[number]? = some inquiry) :
    IsUnderway ⟨round.inquiries.set number (inquiry.next moment round.cache).1,
      (inquiry.next moment round.cache).2⟩ sources before moment names := by
  have inside : number < sources.length :=
    underway.length ▸ (List.getElem?_eq_some_iff.mp found).1
  obtain ⟨source, placed⟩ : ∃ source, sources[number]? = some source :=
    ⟨_, List.getElem?_eq_getElem inside⟩
  have member : source ∈ sources := List.mem_of_getElem? placed
  have own := underway.each number source inquiry placed found
  have turn := inquiry.turn_next moment round.cache
  by_cases on : source.isEnabled = true
  · have named : inquiry.source.key ∈ names := own.reached.key_eq ▸ listed source member on
    have room : round.cache.HasRoom source.key := underway.fits.hasRoom _ (listed source member on)
    -- nothing is touched that is kept for another key
    have untouched : ∀ key ≠ source.key, ∀ later, moment.clock ≤ later →
        (inquiry.next moment round.cache).2.live? later key = round.cache.live? later key := by
      intro key other later notEarlier
      rw [← own.reached.key_eq] at room other
      exact turn.live?_eq room notEarlier other
    refine ⟨turn.fits underway.fits named, turn.lifetime_eq.trans underway.lifetime,
      by simpa using underway.length, ?_, ?_⟩
    · intro index other inquired there asked
      rw [List.getElem?_set] at asked
      by_cases same : number = index
      · subst same
        rw [if_pos rfl, if_pos (List.getElem?_eq_some_iff.mp found).1] at asked
        cases asked
        cases placed.symm.trans there
        exact own.next room underway.lifetime
      · rw [if_neg same] at asked
        obtain ⟨reached, kept⟩ := underway.each index other inquired there asked
        refine ⟨reached, fun otherOn later notEarlier => ?_⟩
        have apart := distinct.key_ne (Ne.symm same) there otherOn placed on
        exact (untouched _ apart later notEarlier).trans (kept otherOn later notEarlier)
    · intro key foreign later notEarlier
      exact (untouched key (foreign source member on).symm later notEarlier).trans
        (underway.others key foreign later notEarlier)
  · have finished := underway.left_eq_zero placed found on
    have unchanged : round.inquiries.set number inquiry = round.inquiries := by
      obtain ⟨_, rfl⟩ := List.getElem?_eq_some_iff.mp found
      exact List.set_getElem_self _
    rw [Inquiry.next_of_finished finished, unchanged]
    exact underway

/-- A round without turns left has the endings of all its sources. -/
theorem IsUnderway.inquiries_eq (underway : round.IsUnderway sources before moment names)
    (finished : ∀ inquiry ∈ round.inquiries, inquiry.stage.left = 0) :
    round.inquiries = sources.map fun source =>
      source.ended (before.live? moment.clock source.key) moment.now := by
  refine List.ext_getElem? fun number => ?_
  rw [List.getElem?_map]
  cases placed : sources[number]? with
  | none =>
    have outside := List.getElem?_eq_none_iff.mp placed
    exact List.getElem?_eq_none (underway.length ▸ outside)
  | some source =>
    have inside : number < round.inquiries.length :=
      underway.length ▸ (List.getElem?_eq_some_iff.mp placed).1
    have found := List.getElem?_eq_getElem inside
    have reached := (underway.each number source _ placed found).reached
    rw [found, Option.map_some, ← reached.eq_ended (finished _ (List.getElem_mem inside))]

/-- What a round comes to in which every source has ended. -/
theorem outcome_of_ended {asked : Source → Source} {told : Source → Outcome (List Draft)}
    (key : ∀ source, (asked source).key = source.key)
    (ended : round.inquiries = sources.map fun source =>
      ⟨asked source, if source.isEnabled then .answered (told source) else .skipped⟩) :
    round.outcome =
      if Source.AllFail sources told then .fail (Source.failure sources)
      else .ok (keepHighest Draft.id Draft.priority (Source.rules sources told)) := by
  let enabled := sources.filter (·.isEnabled)
  have answers : round.answers = enabled.map fun source => (source.key, told source) := by
    rw [Round.answers, ended, List.filterMap_map, ← List.filterMap_eq_map, List.filterMap_filter]
    refine List.filterMap_congr fun source _ => ?_
    cases on : source.isEnabled <;> simp [on, key]
  have rules : round.rules = Source.rules sources told := by
    rw [Round.rules, answers, List.flatMap_map, Source.rules]
    refine List.flatMap_congr fun source _ => ?_
    cases told source <;> rfl
  have failures : round.failures = enabled.filterMap fun source =>
      if (told source).isOk then none else some source.key := by
    rw [Round.failures, answers, List.filterMap_map]
    refine List.filterMap_congr fun source _ => ?_
    cases answer : told source <;> simp [answer, Except.toBool]
  have allFail : Source.AllFail sources told ↔
      enabled ≠ [] ∧ ∀ source ∈ enabled, (told source).isOk = false := by
    simp [Source.AllFail, enabled, List.filter_eq_nil_iff]
  have all : round.failures.length = round.answers.length ↔
      ∀ source ∈ enabled, (told source).isOk = false := by
    rw [failures, answers, List.length_map, List.filterMap_length_eq_length]
    simp
  have none : round.answers.isEmpty = true ↔ enabled = [] := by
    rw [answers, List.isEmpty_iff, List.map_eq_nil_iff]
  rw [outcome]
  by_cases fails : Source.AllFail sources told
  · obtain ⟨some', every⟩ := allFail.mp fails
    have keys : round.failures = enabled.map (·.key) := by
      rw [failures, ← List.filterMap_eq_map]
      refine List.filterMap_congr fun source member => ?_
      simp [every source member]
    rw [if_pos fails, if_neg (by rwa [none]), if_pos (all.mpr every), keys]
    rfl
  · rw [if_neg fails, rules]
    by_cases nobody : enabled = []
    · rw [if_pos (none.mpr nobody)]
      have empty : Source.rules sources told = [] := by
        rw [Source.rules, show sources.filter (·.isEnabled) = [] from nobody]
        rfl
      rw [empty]
      rfl
    · rw [if_neg (by rwa [none]), if_neg fun every => fails (allFail.mpr ⟨nobody, all.mp every⟩)]

end Round

namespace Loader

variable {loader : Loader} {moment : Moment} {names : List String}

/-- Whether a load comes to what is kept at its start, and what the sources answer where nothing is kept. -/
structure IsLoadOf (after loader : Loader) (outcome : Outcome (List Draft)) (moment : Moment)
    (kept : String → Option (List Draft)) : Prop where
  asked : after.sources = loader.sources.map fun source => source.asked (kept source.key)
  outcome : outcome =
    if Source.AllFail loader.sources fun source => source.told (kept source.key) moment.now then
      .fail (Source.failure loader.sources)
    else .ok (keepHighest Draft.id Draft.priority
      (Source.rules loader.sources fun source => source.told (kept source.key) moment.now))
  stored : ∀ source ∈ loader.sources, source.isEnabled = true → kept source.key = none →
    ∀ rules, source.shelf.load moment.now = .ok rules → ∀ later, moment.clock ≤ later →
      after.cache.live? later source.key =
        if loader.cache.lifetime.Lasts moment.clock later then some rules else none
  untouched : ∀ key, (∀ source ∈ loader.sources, source.key = key → source.isEnabled = true →
      kept key = none → ∃ problem, source.shelf.load moment.now = .error problem) →
    ∀ later, moment.clock ≤ later → after.cache.live? later key = loader.cache.live? later key

theorem isUnderway_loadIn (fits : loader.cache.Fits names)
    (listed : ∀ source ∈ loader.sources, source.isEnabled = true → source.key ∈ names)
    (distinct : Source.AreDistinct loader.sources) (turns : List Nat) (moment : Moment) :
    ((Round.ofSources loader.sources loader.cache).run moment turns).IsUnderway loader.sources loader.cache
      moment names :=
  Round.run_induction (P := (Round.IsUnderway · loader.sources loader.cache moment names)) moment
    (Round.isUnderway_ofSources fits moment)
    (fun _ underway _ _ found => underway.next distinct listed found) turns

/-- Whatever the order of the turns, a load comes to that if the keys of the enabled sources are different. -/
theorem isLoadOf_loadIn (fits : loader.cache.Fits names)
    (listed : ∀ source ∈ loader.sources, source.isEnabled = true → source.key ∈ names)
    (distinct : Source.AreDistinct loader.sources) (turns : List Nat) (moment : Moment) :
    (loader.loadIn turns moment).2.IsLoadOf loader (loader.loadIn turns moment).1 moment
      (loader.cache.live? moment.clock) := by
  have underway := isUnderway_loadIn fits listed distinct (turns ++ lastTurns loader.sources.length) moment
  have inquiries := underway.inquiries_eq fun inquiry member => left_eq_zero _ _ _ member
  -- what is kept for the key of a source behind the load, by the ending of the source
  have kept : ∀ source ∈ loader.sources, source.isEnabled = true → ∀ later, moment.clock ≤ later →
      (loader.loadIn turns moment).2.cache.live? later source.key =
        (source.ended (loader.cache.live? moment.clock source.key) moment.now).held loader.cache
          moment.clock later := by
    intro source member on later notEarlier
    obtain ⟨number, placed⟩ := List.mem_iff_getElem?.mp member
    have found := congrArg (·[number]?) inquiries
    rw [List.getElem?_map, placed, Option.map_some] at found
    exact (underway.each number source _ placed found).kept on later notEarlier
  exact {
    asked := by
      rw [loadIn, inquiries, List.map_map]
      rfl
    outcome := by
      exact Round.outcome_of_ended (fun source => source.key_asked _) inquiries
    stored := by
      intro source member on missing rules loaded later notEarlier
      rw [kept source member on later notEarlier]
      simp [Inquiry.held, Source.ended, Source.asked, Source.told, on, missing, loaded]
    untouched := by
      intro key failing later notEarlier
      by_cases own : ∃ source ∈ loader.sources, source.isEnabled = true ∧ source.key = key
      · obtain ⟨source, member, on, rfl⟩ := own
        rw [kept source member on later notEarlier]
        exact Inquiry.held_ended later (failing source member rfl)
      · refine underway.others key (fun source member on same => ?_) later notEarlier
        exact own ⟨source, member, on, same⟩ }

end Loader

end Obligations
