import Obligations.Proofs.Record
import Obligations.Proofs.Rule.Distinct
import Obligations.Proofs.Source.Account
import Mathlib.Tactic.Linarith

/-! # What a loader remembers

A loader is used for one thing after the other, and a record is written of the sources that were asked, of
what they answered, and of what has dropped their rules. Which sources a load asks can be told from the
record alone: the enabled ones of which no successful answer stands in it that is still young enough. A
failure is recorded, but nothing comes of it.
-/

namespace Obligations

open Obligations.Calendar

/-- A value that was given some time ago, if it is still young enough. -/
def Lifetime.young? {α : Type} (lifetime : Lifetime) (now : Rat) (last : Option (Rat × α)) : Option α :=
  last.bind fun (since, value) => if lifetime.Lasts since now then some value else none

namespace Loader

/-- What can be done with a loader. Sources can be turned off and on, can be taken away and can answer in
another way than before, and time passes only while nothing else is done. -/
inductive Operation where
  | load (now : Timestamp) (turns : List Nat)
  | reload (now : Timestamp) (turns : List Nat)
  | clear
  | add (source : Source)
  | revise (sources : List Source)
  | wait (seconds : Rat) (forward : 0 ≤ seconds)

namespace Operation

/-- The keys of the sources that come with an operation. -/
def sourceKeys : Operation → List String
  | .add source => [source.key]
  | .revise sources => sources.map (·.key)
  | .load _ _ | .reload _ _ | .clear | .wait _ _ => []

/-- The keys of all sources that a loader ever has, each once. -/
def keys (sources : List Source) (operations : List Operation) : List String :=
  distinct (sources.map (·.key) ++ operations.flatMap sourceKeys)

end Operation

/-- Something that has been done with a loader, and what has come of it. -/
inductive Deed where
  | asked (key : String) (answer : Outcome (List Draft))
  | cleared
  | added (key : String)

/-- Something that has happened to a loader, and when. -/
structure Event where
  clock : Rat
  deed : Deed

namespace Event

/-- Whether what was kept for a key has been dropped. -/
def drops (key : String) (event : Event) : Bool :=
  match event.deed with
  | .asked _ _ => false
  | .cleared => true
  | .added name => name = key

/-- The rules that a source with a key has answered. -/
def rules? (key : String) (event : Event) : Option (List Draft) :=
  match event.deed with
  | .asked name (.ok rules) => if name = key then some rules else none
  | _ => none

/-- A record, read for one key. -/
def reading (key : String) : RecordReading Event (List Draft) where
  clock := clock
  drops := drops key
  value? := rules? key
  drops_of_value? {event rules} given := by
    obtain ⟨clock, deed⟩ := event
    cases deed with
    | asked => rfl
    | cleared | added => cases given

variable (key : String) (last : Option (Rat × List Draft)) (clock : Rat)

@[simp] theorem next_added (name : String) :
    (reading key).next last ⟨clock, .added name⟩ = if name = key then none else last := by
  simp [RecordReading.next, reading, drops, rules?]

@[simp] theorem next_asked_ok (name : String) (rules : List Draft) :
    (reading key).next last ⟨clock, .asked name (.ok rules)⟩ =
      if name = key then some (clock, rules) else last := by
  by_cases own : name = key <;> simp [RecordReading.next, reading, drops, rules?, own]

end Event

end Loader

/-- What a turn of a source adds to the record: its answer, where that is awaited. -/
def Inquiry.deed? (inquiry : Inquiry) (moment : Moment) : Option Loader.Deed :=
  match inquiry.stage with
  | .awaited => some (.asked inquiry.source.key (inquiry.source.shelf.load moment.now))
  | _ => none

/-- What several turns add to the record. -/
def Round.deeds (moment : Moment) (round : Round) : List Nat → List Loader.Deed
  | [] => []
  | number :: rest =>
    ((round.inquiries[number]?).bind (·.deed? moment)).toList ++ (round.turn moment number).deeds moment rest

namespace Loader

/-- A loader in use, and what has happened to it. -/
structure History where
  loader : Loader
  clock : Rat := 0
  record : List Event := []

namespace History

/-- The history of a loader that keeps nothing yet. -/
def start (settings : LoaderSettings) (sources : List Source) (lifetime : Lifetime) (capacity : Int) :
    History :=
  { loader := ⟨settings, sources, .empty lifetime capacity⟩ }

/-- The history with something that has just happened. -/
def note (history : History) (loader : Loader) (deeds : List Deed) : History :=
  { history with
    loader := loader
    record := history.record ++ deeds.map (⟨history.clock, ·⟩) }

/-- The history with the rules dropped. -/
def clear (history : History) : History :=
  history.note history.loader.clear [.cleared]

/-- The history with one more load. -/
def load (history : History) (now : Timestamp) (turns : List Nat) : History :=
  let round := Round.ofSources history.loader.sources history.loader.cache
  let moment : Moment := ⟨history.clock, now⟩
  history.note (history.loader.loadIn turns moment).2
    (round.deeds moment (turns ++ lastTurns history.loader.sources.length))

/-- The history with one more thing done. -/
def step (history : History) : Operation → History
  | .load now turns => history.load now turns
  | .reload now turns => history.clear.load now turns
  | .clear => history.clear
  | .add source => history.note (history.loader.add source) [.added source.key]
  | .revise sources => { history with loader := { history.loader with sources := sources } }
  | .wait seconds _ => { history with clock := history.clock + seconds }

/-- The history with several things done, one after the other. -/
def run (history : History) (operations : List Operation) : History :=
  operations.foldl step history

/-- The rules of a key that are kept, as the record tells it. -/
def recalled? (history : History) (key : String) : Option (List Draft) :=
  history.loader.cache.lifetime.young? history.clock ((Event.reading key).last? history.record)

end History

end Loader

namespace Cache

/-- Whether what is kept, now and later, is what a record tells: the rules of the last successful answer
for a key, as long as their lifetime is not over. -/
structure Recalls (cache : Cache (List Draft)) (lifetime : Lifetime) (clock : Rat)
    (record : List Loader.Event) (names : List String) : Prop where
  fits : cache.Fits names
  lifetime_eq : cache.lifetime = lifetime
  ordered : record.Pairwise fun first second => first.clock ≤ second.clock
  past : ∀ event ∈ record, event.clock ≤ clock
  kept : ∀ later, clock ≤ later → ∀ key, cache.live? later key =
    lifetime.young? later ((Loader.Event.reading key).last? record)

variable {cache : Cache (List Draft)} {lifetime : Lifetime} {clock : Rat} {record : List Loader.Event}
  {names : List String}

/-- A record stays in order when something that has just happened is added. -/
theorem Recalls.note (recalls : cache.Recalls lifetime clock record names) {after : Cache (List Draft)}
    {deed : Loader.Deed} (fits : after.Fits names) (same : after.lifetime = cache.lifetime)
    (held : ∀ later, clock ≤ later → ∀ key, after.live? later key =
      lifetime.young? later
        ((Loader.Event.reading key).next ((Loader.Event.reading key).last? record) ⟨clock, deed⟩)) :
    after.Recalls lifetime clock (record ++ [⟨clock, deed⟩]) names where
  fits := fits
  lifetime_eq := same.trans recalls.lifetime_eq
  ordered := by
    refine List.pairwise_append.mpr ⟨recalls.ordered, List.pairwise_singleton _ _, ?_⟩
    intro event member last same
    rw [List.mem_singleton.mp same]
    exact recalls.past event member
  past event member := by
    rcases List.mem_append.mp member with member | member
    · exact recalls.past event member
    · rw [List.mem_singleton.mp member]
  kept later notEarlier key := by
    rw [RecordReading.last?_concat]
    exact held later notEarlier key

/-- What is kept does not change for a record of which nothing comes. -/
theorem Recalls.of_live?_eq (recalls : cache.Recalls lifetime clock record names) {after : Cache (List Draft)}
    (fits : after.Fits names) (same : after.lifetime = cache.lifetime)
    (held : ∀ later, clock ≤ later → ∀ key, after.live? later key = cache.live? later key) :
    after.Recalls lifetime clock record names :=
  { recalls with
    fits := fits
    lifetime_eq := same.trans recalls.lifetime_eq
    kept := fun later notEarlier key => by
      rw [held later notEarlier, recalls.kept later notEarlier] }

/-- Rules that are dropped are not recalled. -/
theorem Recalls.clear (recalls : cache.Recalls lifetime clock record names) :
    cache.clear.Recalls lifetime clock (record ++ [⟨clock, .cleared⟩]) names :=
  recalls.note recalls.fits.clear rfl fun _ _ _ => rfl

/-- A source that is added is not recalled, whatever was kept for its key. -/
theorem Recalls.erase (recalls : cache.Recalls lifetime clock record names) (key : String) :
    (cache.erase key).Recalls lifetime clock (record ++ [⟨clock, .added key⟩]) names := by
  refine recalls.note (recalls.fits.erase key) (cache.lifetime_erase key) fun later notEarlier other => ?_
  rw [live?_erase, Loader.Event.next_added]
  by_cases own : other = key
  · rw [if_pos own, if_pos own.symm]
    rfl
  · rw [if_neg own, if_neg (Ne.symm own)]
    exact recalls.kept later notEarlier other

/-- While time passes nothing comes back. -/
theorem Recalls.wait (recalls : cache.Recalls lifetime clock record names) {later : Rat}
    (notEarlier : clock ≤ later) : cache.Recalls lifetime later record names where
  fits := recalls.fits
  lifetime_eq := recalls.lifetime_eq
  ordered := recalls.ordered
  past event member := (recalls.past event member).trans notEarlier
  kept moment past := recalls.kept moment (notEarlier.trans past)

variable {moment : Moment}

/-- A turn of a source agrees with the record that is written of it. -/
theorem Recalls.next (recalls : cache.Recalls lifetime moment.clock record names) {inquiry : Inquiry}
    (named : inquiry.source.key ∈ names) :
    (inquiry.next moment cache).2.Recalls lifetime moment.clock
      (record ++ (inquiry.deed? moment).toList.map (⟨moment.clock, ·⟩)) names := by
  have turn := inquiry.turn_next moment cache
  generalize (inquiry.next moment cache).1 = following at turn
  generalize (inquiry.next moment cache).2 = after at turn ⊢
  have fits := turn.fits recalls.fits named
  have same := turn.lifetime_eq
  cases turn with
  | finished finished =>
    have silent : inquiry.deed? moment = none := by
      rw [Inquiry.deed?]
      split
      next awaited => simp [awaited, Stage.left] at finished
      next => rfl
    simpa [silent] using recalls
  | found | missed =>
    simpa [Inquiry.deed?] using recalls.of_live?_eq fits same fun later notEarlier key =>
      cache.live?_get_of_le _ _ _ notEarlier
  | @told source rules loaded =>
    have told : (cache.set moment.clock source.key rules).Recalls lifetime moment.clock
        (record ++ [⟨moment.clock, .asked source.key (.ok rules)⟩]) names := by
      refine recalls.note fits same fun later notEarlier key => ?_
      rw [cache.live?_set_of_hasRoom _ _ (recalls.fits.hasRoom _ named),
        Loader.Event.next_asked_ok]
      by_cases own : key = source.key
      · rw [if_pos own, if_pos own.symm, Option.getD_none, recalls.lifetime_eq]
        rfl
      · rw [if_neg own, if_neg (Ne.symm own)]
        exact recalls.kept later notEarlier key
    simpa [Inquiry.deed?, loaded] using told
  | @failed source problem refused =>
    have failed : cache.Recalls lifetime moment.clock
        (record ++ [⟨moment.clock, .asked source.key (.error problem)⟩]) names :=
      recalls.note fits same fun later notEarlier key => recalls.kept later notEarlier key
    simpa [Inquiry.deed?, refused] using failed

end Cache

/-- Several turns agree with the record that is written of them. -/
theorem Round.recalls_run {moment : Moment} {round : Round} {lifetime : Lifetime} {record : List Loader.Event}
    {names : List String} (recalls : round.cache.Recalls lifetime moment.clock record names)
    (named : ∀ inquiry ∈ round.inquiries, inquiry.source.key ∈ names) (turns : List Nat) :
    (round.run moment turns).cache.Recalls lifetime moment.clock
      (record ++ (round.deeds moment turns).map (⟨moment.clock, ·⟩)) names := by
  induction turns generalizing round record with
  | nil => simpa [deeds, run] using recalls
  | cons first rest ih =>
    rw [deeds, List.map_append, ← List.append_assoc]
    show ((round.turn moment first).run moment rest).cache.Recalls _ _ _ _
    cases found : round.inquiries[first]? with
    | none =>
      rw [turn_of_none moment round found]
      simpa using ih recalls named
    | some inquiry =>
      have own := named inquiry (List.mem_of_getElem? found)
      refine ih ?_ fun other member => ?_
      · rw [turn_of_getElem? moment round found]
        exact recalls.next own
      · rw [turn_of_getElem? moment round found] at member
        rcases List.mem_or_eq_of_mem_set member with before | rfl
        · exact named other before
        · have same := (inquiry.turn_next moment round.cache).shelf_eq
          rwa [Source.key, same]

namespace Loader.History

/-- Whether a loader agrees with the record that is written of it. -/
structure IsRecalled (history : History) (lifetime : Lifetime) (names : List String) : Prop where
  recalls : history.loader.cache.Recalls lifetime history.clock history.record names
  named : ∀ source ∈ history.loader.sources, source.key ∈ names

variable {history : History} {lifetime : Lifetime} {names : List String}

theorem IsRecalled.clear (recalled : history.IsRecalled lifetime names) :
    history.clear.IsRecalled lifetime names where
  recalls := recalled.recalls.clear
  named := recalled.named

theorem IsRecalled.load (recalled : history.IsRecalled lifetime names) (now : Timestamp) (turns : List Nat) :
    (history.load now turns).IsRecalled lifetime names where
  recalls := by
    refine Round.recalls_run recalled.recalls (fun inquiry member => ?_) _
    obtain ⟨source, listed, rfl⟩ := List.mem_map.mp member
    exact recalled.named source listed
  named source member := by
    obtain ⟨inquiry, ended, rfl⟩ := List.mem_map.mp member
    have asking := (Round.isAsking_ofSources history.loader.sources history.loader.cache).run
      ⟨history.clock, now⟩ (turns ++ lastTurns history.loader.sources.length)
    obtain ⟨source, listed, same⟩ := List.mem_map.mp (asking.mem_shelves ended)
    rw [Source.key, ← same]
    exact recalled.named source listed

/-- Whatever is done agrees with the record that is written of it. -/
theorem IsRecalled.step (recalled : history.IsRecalled lifetime names) {operation : Operation}
    (named : ∀ key ∈ operation.sourceKeys, key ∈ names) :
    (history.step operation).IsRecalled lifetime names := by
  cases operation with
  | load now turns => exact recalled.load now turns
  | reload now turns => exact recalled.clear.load now turns
  | clear => exact recalled.clear
  | add source =>
    refine ⟨recalled.recalls.erase source.key, fun other member => ?_⟩
    rcases List.mem_append.mp member with before | own
    · exact recalled.named other before
    · rw [List.mem_singleton.mp own]
      exact named _ (List.mem_singleton_self _)
  | revise sources =>
    exact ⟨recalled.recalls, fun source member => named _ (List.mem_map_of_mem member)⟩
  | wait seconds forward =>
    have notEarlier : history.clock ≤ history.clock + seconds := by linarith
    exact ⟨recalled.recalls.wait notEarlier, recalled.named⟩

theorem isRecalled_start (settings : LoaderSettings) (sources : List Source) (lifetime : Lifetime)
    {capacity : Int} (room : (names.length : Int) ≤ capacity)
    (named : ∀ source ∈ sources, source.key ∈ names) :
    (start settings sources lifetime capacity).IsRecalled lifetime names where
  recalls := {
    fits := ⟨List.nodup_nil, List.nil_subset _, room⟩
    lifetime_eq := rfl
    ordered := List.Pairwise.nil
    past := fun _ none => nomatch none
    kept := fun _ _ _ => rfl }
  named := named

/-- A loader with no more keys than it has room for agrees with its record. -/
theorem isRecalled_run (settings : LoaderSettings) (sources : List Source) (lifetime : Lifetime)
    {capacity : Int} (operations : List Operation)
    (room : ((Operation.keys sources operations).length : Int) ≤ capacity) :
    ((start settings sources lifetime capacity).run operations).IsRecalled lifetime
      (Operation.keys sources operations) := by
  have known : ∀ key ∈ sources.map (·.key) ++ operations.flatMap Operation.sourceKeys,
      key ∈ Operation.keys sources operations := fun key member => mem_distinct.mpr member
  generalize Operation.keys sources operations = names at room known ⊢
  induction operations using List.reverseRecOn with
  | nil =>
    refine isRecalled_start settings sources lifetime room fun source member => known _ ?_
    simpa using ⟨source, member, rfl⟩
  | append_singleton operations operation ih =>
    rw [List.flatMap_append, ← List.append_assoc] at known
    have before := ih fun key member => known key (List.mem_append_left _ member)
    rw [run, List.foldl_append]
    exact before.step fun key member => known key (by simp [member])

/-- What is recalled stands in the record, and is young enough. -/
theorem recalled?_eq_some_iff {key : String} {rules : List Draft} :
    history.recalled? key = some rules ↔ ∃ event later,
      (Event.reading key).Stands history.record event rules later ∧
      (∀ other ∈ later, other.rules? key = none) ∧
      history.loader.cache.lifetime.Lasts event.clock history.clock := by
  rw [recalled?, Lifetime.young?, Option.bind_eq_some_iff]
  constructor
  · rintro ⟨⟨since, value⟩, last, young⟩
    obtain ⟨lasts, same⟩ := Option.ite_none_right_eq_some.mp young
    cases same
    obtain ⟨event, later, stands, rfl, latest⟩ := RecordReading.last?_eq_some_iff.mp last
    exact ⟨event, later, stands, latest, lasts⟩
  · rintro ⟨event, later, stands, latest, lasts⟩
    exact ⟨_, RecordReading.last?_eq_some_iff.mpr ⟨event, later, stands, rfl, latest⟩, if_pos lasts⟩

/-- Something is recalled for a key as soon as a successful answer stands in the record that is young
enough. -/
theorem recalled?_eq_none_iff (recalled : history.IsRecalled lifetime names) {key : String} :
    history.recalled? key = none ↔ ¬ ∃ event rules later,
      (Event.reading key).Stands history.record event rules later ∧
      history.loader.cache.lifetime.Lasts event.clock history.clock := by
  rw [← Option.not_isSome_iff_eq_none, not_iff_not, Option.isSome_iff_exists]
  constructor
  · rintro ⟨rules, kept⟩
    obtain ⟨event, later, stands, _, lasts⟩ := recalled?_eq_some_iff.mp kept
    exact ⟨event, rules, later, stands, lasts⟩
  · rintro ⟨event, rules, later, stands, lasts⟩
    obtain ⟨since, last, counts, notOlder⟩ := stands.exists_last? recalled.recalls.ordered
    have young : history.loader.cache.lifetime.Lasts since history.clock := lasts.of_le notOlder le_rfl
    refine ⟨last, ?_⟩
    rw [recalled?, counts]
    exact if_pos young

/-- In every use of a loader that has room for the keys of all its sources, a load comes to what the record
tells, provided that the keys of its sources are different: exactly those sources are asked, once, that are
enabled and of which no successful answer stands in the record that is young enough. The load fails if a
source is enabled and all that are fail, and else has the rules that they tell in the order of the sources.
What is kept changes only for sources that are asked and answer. -/
theorem loadIn_isLoadOf (settings : LoaderSettings) (sources : List Source) (lifetime : Lifetime)
    (capacity : Int) (operations : List Operation)
    (room : ((Operation.keys sources operations).length : Int) ≤ capacity) :
    let history := (start settings sources lifetime capacity).run operations
    (history.loader.sources.map (·.key)).Nodup → ∀ now turns,
      let moment : Moment := ⟨history.clock, now⟩
      let loaded := history.loader.loadIn turns moment
      loaded.2.IsLoadOf history.loader loaded.1 moment history.recalled? ∧
      (∀ key, history.recalled? key = none ↔ ¬ ∃ event rules later,
        (Event.reading key).Stands history.record event rules later ∧
        lifetime.Lasts event.clock history.clock) ∧
      ∀ key rules, history.recalled? key = some rules → ∃ event later,
        (Event.reading key).Stands history.record event rules later ∧
        ∀ other ∈ later, other.rules? key = none := by
  intro history distinct now turns
  have recalled : history.IsRecalled lifetime (Operation.keys sources operations) :=
    isRecalled_run settings sources lifetime operations room
  have live : history.loader.cache.live? history.clock = history.recalled? := by
    funext key
    rw [recalled?, recalled.recalls.lifetime_eq]
    exact recalled.recalls.kept _ (le_refl _) key
  refine ⟨?_, fun key => ?_, fun key rules kept => ?_⟩
  · rw [← live]
    exact isLoadOf_loadIn recalled.recalls.fits (fun source member _ => recalled.named source member)
      ((List.pairwise_map.mp distinct).imp fun apart _ _ => apart) turns _
  · rw [recalled?_eq_none_iff recalled, recalled.recalls.lifetime_eq]
  · obtain ⟨event, later, stands, latest, _⟩ := recalled?_eq_some_iff.mp kept
    exact ⟨event, later, stands, latest⟩

/-- Three sources, of which the second fails and the third is turned off. -/
def started : List Source :=
  [{ shelf := .memory "first" (.ok [Bundle.jobReporting.toDraft]) },
    { shelf := .memory "second" (.mishap .noFile) },
    { shelf := .memory "third" (.mishap .noFile), isEnabled := false }]

/-- A load, behind which the first source fails and the second one answers. -/
def recovered : List Operation :=
  [.load (.midnight default) [],
    .revise
      [{ shelf := .memory "first" (.mishap .noFile) },
        { shelf := .memory "second" (.ok [Bundle.missingCard.toDraft]) },
        { shelf := .memory "third" (.mishap .noFile), isEnabled := false }],
    .wait 240 (by norm_num)]

/-- The next load asks the second source only, and has its rules and those that the first one has told. -/
theorem loadIn_isLoadOf_recovered :
    let history := (start {} started (.lasting 300) 3).run recovered
    let loaded := history.loader.loadIn [1, 1] ⟨history.clock, .midnight default⟩
    loaded.2.IsLoadOf history.loader loaded.1 ⟨history.clock, .midnight default⟩ history.recalled? ∧
      loaded.2.sources.map (·.visits) = [0, 1, 0] ∧
      loaded.1.toOption.map (·.map (·.id)) =
        some [some "opt-job-reporting", some "opt-ead-check"] := by
  have distinct : (((start {} started (.lasting 300) 3).run recovered).loader.sources.map (·.key)).Nodup := by
    decide +kernel
  obtain ⟨account, -, -⟩ := loadIn_isLoadOf {} started (.lasting 300) 3 recovered (by decide +kernel)
    distinct (.midnight default) [1, 1]
  exact ⟨account, by decide +kernel, by decide +kernel⟩

end Loader.History

end Obligations
