import Obligations.Proofs.Cache
import Obligations.Source.Loader
import Mathlib.Data.List.Forall2
import Mathlib.Data.List.Nodup

/-! # Sources that take turns

What one turn of a source does, and what stays as it is in a round whatever the order of the turns. Two
turns end an inquiry, so that after the last turns every enabled source has answered. Where all of them
answer, and what is kept for a key is what any source with that key answers, the loader has the rules of
all of them.
-/

namespace Obligations

def Stage.left : Stage → Nat
  | .skipped | .answered _ => 0
  | .due => 2
  | .awaited => 1

namespace Inquiry

variable {moment : Moment} {cache : Cache (List Draft)} {inquiry : Inquiry}

/-- What a turn of a source does, to how far asking it has come and to what is kept. -/
inductive Turn (moment : Moment) (cache : Cache (List Draft)) :
    Inquiry → Inquiry → Cache (List Draft) → Prop where
  | finished {inquiry : Inquiry} (finished : inquiry.stage.left = 0) : Turn moment cache inquiry inquiry cache
  | found {source : Source} {rules : List Draft}
      (kept : cache.live? moment.clock source.key = some rules) :
      Turn moment cache ⟨source, .due⟩ ⟨source, .answered (.ok rules)⟩
        (cache.get moment.clock source.key).2
  | missed {source : Source} (missing : cache.live? moment.clock source.key = none) :
      Turn moment cache ⟨source, .due⟩ ⟨source.visited, .awaited⟩ (cache.get moment.clock source.key).2
  | told {source : Source} {rules : List Draft} (loaded : source.shelf.load moment.now = .ok rules) :
      Turn moment cache ⟨source, .awaited⟩ ⟨source, .answered (.ok rules)⟩
        (cache.set moment.clock source.key rules)
  | failed {source : Source} {problem : Problem}
      (refused : source.shelf.load moment.now = .error problem) :
      Turn moment cache ⟨source, .awaited⟩ ⟨source, .answered (.error problem)⟩ cache

theorem turn_next (inquiry : Inquiry) (moment : Moment) (cache : Cache (List Draft)) :
    Turn moment cache inquiry (inquiry.next moment cache).1 (inquiry.next moment cache).2 := by
  obtain ⟨source, stage⟩ := inquiry
  cases stage with
  | skipped => exact .finished rfl
  | answered rules => exact .finished rfl
  | due =>
    have looked := cache.get_fst moment.clock source.key
    simp only [next]
    split
    next rules after got =>
      rw [got] at looked
      have turn : Turn moment cache ⟨source, .due⟩ _ _ := .found looked.symm
      rwa [got] at turn
    next after got =>
      rw [got] at looked
      have turn : Turn moment cache ⟨source, .due⟩ _ _ := .missed looked.symm
      rwa [got] at turn
  | awaited =>
    simp only [next]
    split
    next rules loaded => exact .told loaded
    next problem refused => exact .failed refused

/-- A source without turns left does nothing in one more. -/
theorem next_of_finished (finished : inquiry.stage.left = 0) : inquiry.next moment cache = (inquiry, cache) := by
  obtain ⟨source, stage⟩ := inquiry
  cases stage with
  | skipped | answered => rfl
  | due | awaited => cases finished

variable {later : Inquiry} {after : Cache (List Draft)}

theorem Turn.left_le (turn : Turn moment cache inquiry later after) :
    later.stage.left ≤ inquiry.stage.left - 1 := by
  cases turn with
  | finished finished => exact Nat.le_of_eq (finished.trans (by rw [finished]))
  | _ => simp [Stage.left]

theorem Turn.shelf_eq (turn : Turn moment cache inquiry later after) :
    later.source.shelf = inquiry.source.shelf := by
  cases turn <;> rfl

theorem Turn.isEnabled_eq (turn : Turn moment cache inquiry later after) :
    later.source.isEnabled = inquiry.source.isEnabled := by
  cases turn <;> rfl

/-- Whether a source is asked at all does not change. -/
theorem Turn.skipped_iff (turn : Turn moment cache inquiry later after)
    (agrees : inquiry.stage = .skipped ↔ inquiry.source.isEnabled = false) :
    later.stage = .skipped ↔ later.source.isEnabled = false := by
  cases turn with
  | finished => exact agrees
  | _ => simpa [Source.visited] using agrees

/-- A turn touches what is kept for the key of its source only, and gives up nothing else as long as
there is room. -/
theorem Turn.live?_eq {later' : Rat} (turn : Turn moment cache inquiry later after)
    (room : cache.HasRoom inquiry.source.key) (notEarlier : moment.clock ≤ later') {key : String}
    (other : key ≠ inquiry.source.key) : after.live? later' key = cache.live? later' key := by
  cases turn with
  | finished | failed => rfl
  | found | missed => exact cache.live?_get_of_le _ _ _ notEarlier
  | told =>
    rw [Cache.live?, Cache.live?, Cache.entry?_set_of_hasRoom _ _ room, if_neg other]

theorem Turn.lifetime_eq (turn : Turn moment cache inquiry later after) :
    after.lifetime = cache.lifetime := by
  cases turn <;> simp

theorem Turn.fits {names : List String} (turn : Turn moment cache inquiry later after)
    (fits : cache.Fits names) (listed : inquiry.source.key ∈ names) : after.Fits names := by
  cases turn with
  | finished | failed => exact fits
  | found | missed => exact fits.get _ _
  | told => exact fits.set _ _ listed _ _

end Inquiry

namespace Round

variable (moment : Moment) (round : Round)

theorem turn_of_getElem? {number : Nat} {inquiry : Inquiry}
    (found : round.inquiries[number]? = some inquiry) :
    round.turn moment number =
      ⟨round.inquiries.set number (inquiry.next moment round.cache).1,
        (inquiry.next moment round.cache).2⟩ := by
  rw [turn, found]

theorem turn_of_none {number : Nat} (outside : round.inquiries[number]? = none) :
    round.turn moment number = round := by
  rw [turn, outside]

/-- A turn of one source changes nothing about the inquiries of the others. -/
theorem getElem?_turn (number other : Nat) :
    (round.turn moment number).inquiries[other]? =
      if other = number then (round.inquiries[number]?).map fun inquiry => (inquiry.next moment round.cache).1
      else round.inquiries[other]? := by
  cases found : round.inquiries[number]? with
  | none =>
    rw [turn_of_none moment round found]
    split
    next same => rw [same, found, Option.map_none]
    next => rfl
  | some inquiry =>
    have inside := (List.getElem?_eq_some_iff.mp found).1
    rw [turn_of_getElem? moment round found, List.getElem?_set]
    by_cases same : number = other
    · subst same
      simp [inside]
    · rw [if_neg same, if_neg (Ne.symm same)]

/-- With each of its turns fewer of them are left for a source. -/
theorem left_run_le (turns : List Nat) (number : Nat) {inquiry : Inquiry}
    (found : (round.run moment turns).inquiries[number]? = some inquiry) :
    ∃ before, round.inquiries[number]? = some before ∧
      inquiry.stage.left ≤ before.stage.left - turns.count number := by
  induction turns generalizing round with
  | nil => exact ⟨inquiry, found, by simp⟩
  | cons first rest ih =>
    obtain ⟨next, there, fewer⟩ := ih (round.turn moment first) found
    rw [getElem?_turn] at there
    rw [List.count_cons]
    by_cases own : number = first
    · subst own
      rw [if_pos rfl] at there
      obtain ⟨before, known, rfl⟩ := Option.map_eq_some_iff.mp there
      have turned := (before.turn_next moment round.cache).left_le
      exact ⟨before, known, by simp only [beq_self_eq_true, if_true]; omega⟩
    · rw [if_neg own] at there
      exact ⟨next, there, by rw [if_neg (by simpa using Ne.symm own)]; omega⟩

theorem count_lastTurns (count number : Nat) (inside : number < count) :
    (Loader.lastTurns count).count number = 2 := by
  induction count with
  | zero => cases inside
  | succ count ih =>
    have split : Loader.lastTurns (count + 1) = Loader.lastTurns count ++ [count, count] := by
      simp [Loader.lastTurns, List.range_succ]
    rw [split, List.count_append]
    by_cases last : number = count
    · subst last
      have none : (Loader.lastTurns number).count number = 0 := by
        refine List.count_eq_zero.mpr fun member => ?_
        obtain ⟨other, smaller, same⟩ := List.mem_flatMap.mp member
        have equal : number = other := by simpa using same
        exact absurd (List.mem_range.mp smaller) (by omega)
      rw [none]
      simp
    · rw [ih (by omega)]
      simp [Ne.symm last]

/-- Something that a round keeps through every turn is there after several turns. -/
theorem run_induction {P : Round → Prop} {round : Round} (holds : P round)
    (kept : ∀ round, P round → ∀ number inquiry, round.inquiries[number]? = some inquiry →
      P ⟨round.inquiries.set number (inquiry.next moment round.cache).1,
        (inquiry.next moment round.cache).2⟩) (turns : List Nat) : P (round.run moment turns) := by
  induction turns generalizing round with
  | nil => exact holds
  | cons first rest ih =>
    show P ((round.turn moment first).run moment rest)
    refine ih ?_
    cases found : round.inquiries[first]? with
    | none => rwa [turn_of_none moment round found]
    | some inquiry =>
      rw [turn_of_getElem? moment round found]
      exact kept round holds first inquiry found

/-- Whether a round asks given sources: its sources are at the same places, and those that are turned off
are the ones that are not asked. -/
structure IsAsking (round : Round) (sources : List Source) : Prop where
  places : round.inquiries.map (fun inquiry => (inquiry.source.shelf, inquiry.source.isEnabled)) =
    sources.map fun source => (source.shelf, source.isEnabled)
  skipped : ∀ inquiry ∈ round.inquiries, inquiry.stage = .skipped ↔ inquiry.source.isEnabled = false

theorem isAsking_ofSources (sources : List Source) (cache : Cache (List Draft)) :
    (ofSources sources cache).IsAsking sources where
  places := by simp [ofSources, Inquiry.ofSource]
  skipped inquiry member := by
    obtain ⟨source, _, rfl⟩ := List.mem_map.mp member
    cases on : source.isEnabled <;> simp [Inquiry.ofSource, on]

variable {moment round}

theorem IsAsking.mem_shelves {sources : List Source} (asking : round.IsAsking sources)
    {inquiry : Inquiry} (member : inquiry ∈ round.inquiries) :
    inquiry.source.shelf ∈ sources.map (·.shelf) := by
  have listed := List.mem_map_of_mem
    (f := fun inquiry : Inquiry => (inquiry.source.shelf, inquiry.source.isEnabled)) member
  rw [asking.places] at listed
  obtain ⟨source, known, same⟩ := List.mem_map.mp listed
  exact List.mem_map.mpr ⟨source, known, (Prod.mk.inj same).1⟩

theorem IsAsking.next {sources : List Source} (asking : round.IsAsking sources) {number : Nat}
    {inquiry : Inquiry} (found : round.inquiries[number]? = some inquiry) :
    IsAsking ⟨round.inquiries.set number (inquiry.next moment round.cache).1,
      (inquiry.next moment round.cache).2⟩ sources where
  places := by
    have turn := inquiry.turn_next moment round.cache
    have inside := (List.getElem?_eq_some_iff.mp found).1
    rw [← asking.places]
    refine List.ext_getElem? fun other => ?_
    rw [List.getElem?_map, List.getElem?_map, List.getElem?_set]
    by_cases own : number = other
    · subst own
      rw [if_pos rfl, if_pos inside, found, Option.map_some, Option.map_some, turn.shelf_eq,
        turn.isEnabled_eq]
    · rw [if_neg own]
  skipped other member := by
    rcases List.mem_or_eq_of_mem_set member with before | rfl
    · exact asking.skipped other before
    · exact (inquiry.turn_next moment round.cache).skipped_iff
        (asking.skipped inquiry (List.mem_of_getElem? found))

theorem IsAsking.run {sources : List Source} (asking : round.IsAsking sources) (moment : Moment)
    (turns : List Nat) :
    (round.run moment turns).IsAsking sources :=
  run_induction (P := (IsAsking · sources)) moment asking (fun _ asking _ _ found => asking.next found) turns

/-- A round in which every answer is a list of rules has the rules of all. -/
theorem outcome_of_answers {lists : List (List Draft)}
    (told : round.answers.map (·.2) = lists.map .ok) :
    round.outcome = .ok (keepHighest Draft.id Draft.priority lists.flatten) := by
  have answered : ∀ answer ∈ round.answers, ∃ rules, answer.2 = .ok rules := by
    intro answer member
    have listed := List.mem_map_of_mem (f := Prod.snd) member
    rw [told] at listed
    obtain ⟨rules, _, same⟩ := List.mem_map.mp listed
    exact ⟨rules, same.symm⟩
  have failures : round.failures = [] := by
    refine List.filterMap_eq_nil_iff.mpr fun answer member => ?_
    obtain ⟨rules, same⟩ := answered answer member
    simp only [same]
  have rules : round.rules = lists.flatten := by
    have all : round.rules = (round.answers.map (·.2)).flatMap (·.toOption.getD []) := by
      rw [List.flatMap_map, Round.rules]
      refine List.flatMap_congr fun answer _ => ?_
      obtain ⟨_, rules | _⟩ := answer <;> rfl
    rw [all, told, List.flatMap_map]
    exact List.flatMap_id'
  have length : round.answers.length = lists.length := by
    simpa using congrArg List.length told
  rw [outcome, failures, rules]
  cases lists with
  | nil => simp [List.length_eq_zero_iff.mp length, keepHighest]
  | cons first rest =>
    have some' : round.answers ≠ [] := by
      intro none
      rw [none] at length
      cases length
    simp [some', length]

end Round

section Telling

variable {tells : Shelf → List Draft → Prop} {shelves : List Shelf} {moment : Moment}

/-- Whether what is kept for the keys of places is what these places tell. -/
def Cache.Keeps (cache : Cache (List Draft)) (tells : Shelf → List Draft → Prop)
    (shelves : List Shelf) : Prop :=
  ∀ shelf ∈ shelves, ∀ entry, cache.entry? shelf.key = some entry → tells shelf entry.value

/-- Whether all places answer, with rules that every place with the same key tells. -/
def Answer (tells : Shelf → List Draft → Prop) (shelves : List Shelf) (now : Calendar.Timestamp) : Prop :=
  ∀ shelf ∈ shelves, ∃ rules, shelf.load now = .ok rules ∧
    ∀ other ∈ shelves, other.key = shelf.key → tells other rules

/-- Whether what is kept in a round and what its sources have answered is what they tell. -/
structure Round.IsTelling (round : Round) (tells : Shelf → List Draft → Prop) (sources : List Source) :
    Prop where
  asking : round.IsAsking sources
  kept : round.cache.Keeps tells (sources.map (·.shelf))
  answered : ∀ inquiry ∈ round.inquiries, ∀ outcome, inquiry.stage = .answered outcome →
    ∃ rules, outcome = .ok rules ∧ tells inquiry.source.shelf rules

variable {round : Round} {sources : List Source}

theorem Inquiry.Turn.keeps {cache after : Cache (List Draft)} {inquiry later : Inquiry}
    (turn : Turn moment cache inquiry later after) (kept : cache.Keeps tells shelves)
    (answer : Answer tells shelves moment.now) (listed : inquiry.source.shelf ∈ shelves) :
    after.Keeps tells shelves := by
  cases turn with
  | finished | failed => exact kept
  | found | missed =>
    exact fun shelf known entry there => kept shelf known entry (cache.entry?_of_get _ _ _ there)
  | told loaded =>
    intro shelf known entry there
    rcases cache.entry?_of_set _ _ _ there with ⟨same, stored⟩ | ⟨_, before⟩
    · obtain ⟨rules, loadedToo, shared⟩ := answer _ listed
      rw [stored, Except.ok.inj (loaded.symm.trans loadedToo)]
      exact shared shelf known same
    · exact kept shelf known entry before

theorem Round.IsTelling.next (telling : round.IsTelling tells sources)
    (answer : Answer tells (sources.map (·.shelf)) moment.now) {number : Nat} {inquiry : Inquiry}
    (found : round.inquiries[number]? = some inquiry) :
    IsTelling ⟨round.inquiries.set number (inquiry.next moment round.cache).1,
      (inquiry.next moment round.cache).2⟩ tells sources := by
  have member := List.mem_of_getElem? found
  have listed := telling.asking.mem_shelves member
  have turn := inquiry.turn_next moment round.cache
  refine ⟨telling.asking.next found, turn.keeps telling.kept answer listed, ?_⟩
  intro other inside outcome ended
  rcases List.mem_or_eq_of_mem_set inside with before | rfl
  · exact telling.answered other before outcome ended
  · generalize (inquiry.next moment round.cache).1 = later at turn ended ⊢
    generalize (inquiry.next moment round.cache).2 = after at turn
    cases turn with
    | finished => exact telling.answered _ member outcome ended
    | missed => cases ended
    | found kept =>
      cases ended
      obtain ⟨entry, there, rfl⟩ := Cache.entry?_of_live? _ _ _ kept
      exact ⟨_, rfl, telling.kept _ listed entry there⟩
    | told loaded =>
      cases ended
      obtain ⟨told, loadedToo, shared⟩ := answer _ listed
      obtain rfl := Except.ok.inj (loaded.symm.trans loadedToo)
      exact ⟨_, rfl, shared _ listed rfl⟩
    | failed refused =>
      obtain ⟨told, loaded, _⟩ := answer _ listed
      cases refused.symm.trans loaded

/-- Where nothing is left to be answered, every enabled source has told its rules. -/
theorem Round.IsTelling.exists_outcome (telling : round.IsTelling tells sources)
    (ended : ∀ inquiry ∈ round.inquiries, inquiry.stage.left = 0) :
    ∃ lists, List.Forall₂ tells ((sources.filter (·.isEnabled)).map (·.shelf)) lists ∧
      round.outcome = .ok (keepHighest Draft.id Draft.priority lists.flatten) := by
  have told : ∃ lists, List.Forall₂ tells ((sources.filter (·.isEnabled)).map (·.shelf)) lists ∧
      round.answers.map (·.2) = lists.map .ok := by
    have places := telling.asking.places
    have skipped := telling.asking.skipped
    have answered := telling.answered
    rw [answers]
    clear telling
    generalize round.inquiries = inquiries at places skipped answered ended ⊢
    induction inquiries generalizing sources with
    | nil =>
      obtain rfl := List.map_eq_nil_iff.mp places.symm
      exact ⟨[], .nil, rfl⟩
    | cons inquiry rest ih =>
      cases sources with
      | nil => cases places
      | cons source others =>
        obtain ⟨same, places⟩ := List.cons.inj places
        obtain ⟨sameShelf, sameFlag⟩ := Prod.mk.inj same
        simp only [List.forall_mem_cons] at skipped answered ended
        obtain ⟨lists, inOrder, restTold⟩ := ih places skipped.2 answered.2 ended.2
        cases stage : inquiry.stage with
        | skipped =>
          have off : source.isEnabled = false := sameFlag ▸ skipped.1.mp stage
          exact ⟨lists, by simpa [off] using inOrder, by simpa [stage] using restTold⟩
        | due | awaited => simp [stage, Stage.left] at ended
        | answered outcome =>
          have on : source.isEnabled = true := by
            rw [← sameFlag]
            exact Bool.not_eq_false _ ▸ fun off => by rw [skipped.1.mpr off] at stage; cases stage
          obtain ⟨rules, rfl, tellsRules⟩ := answered.1 outcome stage
          refine ⟨rules :: lists, ?_, ?_⟩
          · rw [List.filter_cons_of_pos on, List.map_cons]
            exact .cons (sameShelf ▸ tellsRules) inOrder
          · simp [stage, restTold]
  obtain ⟨lists, inOrder, all⟩ := told
  exact ⟨lists, inOrder, outcome_of_answers all⟩

end Telling

namespace Loader

variable {moment : Moment} {tells : Shelf → List Draft → Prop}

/-- After the last turns every source has had its turns. -/
theorem left_eq_zero (sources : List Source) (cache : Cache (List Draft)) (turns : List Nat)
    {inquiry : Inquiry} (member : inquiry ∈ ((Round.ofSources sources cache).run moment
      (turns ++ lastTurns sources.length)).inquiries) : inquiry.stage.left = 0 := by
  obtain ⟨number, found⟩ := List.mem_iff_getElem?.mp member
  obtain ⟨before, first, fewer⟩ := Round.left_run_le moment _ _ number found
  have inside : number < sources.length := by
    simpa [Round.ofSources] using (List.getElem?_eq_some_iff.mp first).1
  have atMost : before.stage.left ≤ 2 := by cases before.stage <;> simp [Stage.left]
  have twice := Round.count_lastTurns sources.length number inside
  rw [List.count_append, twice] at fewer
  omega

/-- Where all sources answer, and what is kept for a key and what any place of that key answers with is
what all its places tell, a loader has rules that its enabled sources tell, and keeps no others. -/
theorem exists_loadIn {loader : Loader} (kept : loader.cache.Keeps tells (loader.sources.map (·.shelf)))
    (answer : Answer tells (loader.sources.map (·.shelf)) moment.now) (turns : List Nat) :
    ∃ lists, List.Forall₂ tells ((loader.sources.filter (·.isEnabled)).map (·.shelf)) lists ∧
      (loader.loadIn turns moment).1 = .ok (keepHighest Draft.id Draft.priority lists.flatten) ∧
      (loader.loadIn turns moment).2.cache.Keeps tells (loader.sources.map (·.shelf)) := by
  have started : (Round.ofSources loader.sources loader.cache).IsTelling tells loader.sources := by
    refine ⟨Round.isAsking_ofSources _ _, kept, fun inquiry member outcome ended => ?_⟩
    obtain ⟨source, _, rfl⟩ := List.mem_map.mp member
    simp only [Inquiry.ofSource] at ended
    split at ended <;> cases ended
  have telling := Round.run_induction (P := (Round.IsTelling · tells loader.sources)) moment started
    (fun _ telling _ _ found => telling.next answer found) (turns ++ lastTurns loader.sources.length)
  obtain ⟨lists, inOrder, outcome⟩ :=
    telling.exists_outcome fun inquiry member => left_eq_zero _ _ _ member
  exact ⟨lists, inOrder, outcome, telling.kept⟩

variable {rulesOf : Source → List Draft}

/-- Where all sources answer, and those of one key answer alike, the loader has the rules of all that are enabled,
whatever the order of their turns. -/
theorem loadIn_ofSources {settings : LoaderSettings} {sources : List Source}
    (answers : ∀ source ∈ sources, source.shelf.load moment.now = .ok (rulesOf source))
    (alike : ∀ source ∈ sources, ∀ other ∈ sources, source.key = other.key → rulesOf source = rulesOf other)
    (turns : List Nat) :
    ((ofSources settings sources).loadIn turns moment).1 =
      .ok (keepHighest Draft.id Draft.priority ((sources.filter (·.isEnabled)).flatMap rulesOf)) := by
  have answer : Answer (fun shelf rules => shelf.load moment.now = .ok rules)
      (sources.map (·.shelf)) moment.now := by
    intro shelf member
    obtain ⟨source, listed, rfl⟩ := List.mem_map.mp member
    refine ⟨_, answers source listed, fun other known same => ?_⟩
    obtain ⟨another, listedToo, rfl⟩ := List.mem_map.mp known
    rw [← alike another listedToo source listed same]
    exact answers another listedToo
  have kept : (ofSources settings sources).cache.Keeps
      (fun shelf rules => shelf.load moment.now = .ok rules) (sources.map (·.shelf)) :=
    fun _ _ _ none => nomatch none
  obtain ⟨lists, inOrder, outcome, -⟩ := exists_loadIn kept answer turns
  have enabled : ∀ source ∈ sources.filter (·.isEnabled), source.shelf.load moment.now = .ok (rulesOf source) :=
    fun source listed => answers source (List.mem_of_mem_filter listed)
  have all : lists = (sources.filter (·.isEnabled)).map rulesOf := by
    rw [show (ofSources settings sources).sources = sources from rfl, List.forall₂_map_left_iff] at inOrder
    generalize sources.filter (·.isEnabled) = chosen at inOrder enabled ⊢
    clear outcome
    induction inOrder with
    | nil => rfl
    | cons loaded _ ih =>
      rw [List.forall_mem_cons] at enabled
      rw [List.map_cons, ← ih enabled.2, Except.ok.inj (loaded.symm.trans enabled.1)]
  exact outcome.trans (by rw [all, List.flatMap_def])

/-- Where all sources answer, the loader has the rules of all of them. -/
theorem load_ofSources {settings : LoaderSettings} {sources : List Source}
    (enabled : ∀ source ∈ sources, source.isEnabled = true)
    (answers : ∀ source ∈ sources, source.shelf.load moment.now = .ok (rulesOf source))
    (distinct : (sources.map (·.key)).Nodup) :
    ((ofSources settings sources).load moment).1 =
      .ok (keepHighest Draft.id Draft.priority (sources.flatMap rulesOf)) := by
  have alike : ∀ source ∈ sources, ∀ other ∈ sources, source.key = other.key → rulesOf source = rulesOf other :=
    fun source listed other listedToo same =>
      congrArg rulesOf (List.inj_on_of_nodup_map distinct listed listedToo same)
  rw [load, loadIn_ofSources answers alike, List.filter_eq_self.mpr enabled]

end Loader

end Obligations
