import Obligations.Proofs.Engine.Change
import Obligations.Proofs.Engine.Tasks
import Obligations.Proofs.Record
import Obligations.Proofs.Rule.Distinct
import Mathlib.Tactic.Linarith

/-! # What an engine remembers

An engine is used for one thing after the other, and a record is written of what has happened and when.
Whether an evaluation is answered with a kept result can be told from the record alone: there has to be
a full evaluation of the same subject that has not been too long ago, with nothing behind it that has
dropped its result. As long as there are no more subjects than the cache has room for, no evaluation
takes away what is kept for another subject.
-/

namespace Obligations

open Obligations.Calendar

/-- What can be done with an engine. An evaluation gets what the provider knows of the subject at that
time, and time passes only while nothing else is done. -/
inductive Operation where
  | evaluate (now : Timestamp) (subjectId : String) (context : Outcome Context)
  | change (change : Change)
  | wait (seconds : Rat) (forward : 0 ≤ seconds)

namespace Operation

/-- The subject of an evaluation. -/
def subject? : Operation → Option String
  | .evaluate _ subjectId _ => some subjectId
  | _ => none

/-- The subjects of all evaluations, each once. -/
def subjects (operations : List Operation) : List String :=
  distinct (operations.filterMap subject?)

end Operation

/-- What has come of something that was done. -/
inductive Deed where
  | answered (subjectId : String) (outcome : Outcome Evaluation)
  | changed (change : Change) (succeeded : Bool)

/-- Something that has happened, and when. -/
structure Occurrence where
  clock : Rat
  deed : Deed

namespace Occurrence

/-- Whether what was kept for a subject has been dropped. Changes that failed drop nothing. -/
def drops (subjectId : String) (occurrence : Occurrence) : Bool :=
  match occurrence.deed with
  | .answered _ _ => false
  | .changed change succeeded => succeeded && change.drops subjectId

def full? (subjectId : String) (occurrence : Occurrence) : Option Evaluation :=
  match occurrence.deed with
  | .answered id (.ok result) => if id = subjectId ∧ result.isKept = false then some result else none
  | _ => none

theorem drops_of_full? {subjectId : String} {occurrence : Occurrence} {result : Evaluation}
    (full : occurrence.full? subjectId = some result) : occurrence.drops subjectId = false := by
  obtain ⟨clock, deed⟩ := occurrence
  cases deed with
  | answered id outcome => rfl
  | changed change succeeded => cases full

/-- The last full evaluation of a subject after one more occurrence. -/
def next (subjectId : String) (last : Option (Rat × Evaluation)) (occurrence : Occurrence) :
    Option (Rat × Evaluation) :=
  if occurrence.drops subjectId then none
  else
    match occurrence.full? subjectId with
    | some result => some (occurrence.clock, result)
    | none => last

/-- A record, read for one subject. -/
def reading (subjectId : String) : RecordReading Occurrence Evaluation :=
  ⟨clock, drops subjectId, full? subjectId, drops_of_full?⟩

theorem next_eq (subjectId : String) : next subjectId = (reading subjectId).next := by
  funext last occurrence
  rw [next, RecordReading.next]
  cases given : occurrence.full? subjectId <;> simp [reading, given]

end Occurrence

/-- Whether a full evaluation of a subject stands in a record with nothing behind it that has dropped
its result. -/
structure Stands (record : List Occurrence) (subjectId : String) (source : Occurrence)
    (result : Evaluation) (later : List Occurrence) : Prop where
  split : ∃ earlier, record = earlier ++ source :: later
  full : source.full? subjectId = some result
  undropped : ∀ occurrence ∈ later, occurrence.drops subjectId = false

/-- The time and the result of the last full evaluation of a subject in a record, unless it has been
dropped. -/
def last? (record : List Occurrence) (subjectId : String) : Option (Rat × Evaluation) :=
  record.foldl (Occurrence.next subjectId) none

theorem last?_eq (record : List Occurrence) (subjectId : String) :
    last? record subjectId = (Occurrence.reading subjectId).last? record := by
  rw [last?, Occurrence.next_eq]
  rfl

theorem last?_concat (record : List Occurrence) (occurrence : Occurrence) (subjectId : String) :
    last? (record ++ [occurrence]) subjectId = occurrence.next subjectId (last? record subjectId) := by
  rw [last?_eq, last?_eq, RecordReading.last?_concat, Occurrence.next_eq]

/-- The last full evaluation stands in the record, and no other one stands behind it. -/
theorem exists_stands_of_last? {record : List Occurrence} {subjectId : String} {since : Rat}
    {result : Evaluation} (found : last? record subjectId = some (since, result)) :
    ∃ source later, Stands record subjectId source result later ∧ source.clock = since ∧
      ∀ occurrence ∈ later, occurrence.full? subjectId = none := by
  rw [last?_eq] at found
  obtain ⟨source, later, stands, time, latest⟩ := RecordReading.last?_eq_some_iff.mp found
  exact ⟨source, later, ⟨stands.split, stands.given, stands.undropped⟩, time, latest⟩

/-- Where a full evaluation stands in a record, the last one is not older. -/
theorem last?_of_stands {record : List Occurrence} {subjectId : String} {source : Occurrence}
    {result : Evaluation} {later : List Occurrence}
    (stands : Stands record subjectId source result later)
    (ordered : record.Pairwise fun first second => first.clock ≤ second.clock) :
    ∃ since last, last? record subjectId = some (since, last) ∧ source.clock ≤ since := by
  have given : (Occurrence.reading subjectId).Stands record source result later :=
    ⟨stands.split, stands.full, stands.undropped⟩
  rw [last?_eq]
  exact given.exists_last? ordered

/-- An engine in use, and what has happened with it. -/
structure History where
  engine : Engine
  clock : Rat := 0
  record : List Occurrence := []

namespace History

/-- The history of an engine that has just been started. -/
def ofSettings (settings : EngineSettings) : History :=
  { engine := .ofSettings settings }

/-- What an evaluation comes to. -/
def answer (history : History) (now : Timestamp) (subjectId : String) (context : Outcome Context) :
    Outcome Evaluation :=
  (history.engine.evaluate ⟨history.clock, now⟩ subjectId context).1

/-- The history with something that has just happened. -/
def note (history : History) (engine : Engine) (deed : Deed) : History :=
  { history with engine := engine, record := history.record ++ [⟨history.clock, deed⟩] }

/-- The history with one more thing done. -/
def step (history : History) : Operation → History
  | .evaluate now subjectId context =>
    let (outcome, engine) := history.engine.evaluate ⟨history.clock, now⟩ subjectId context
    history.note engine (.answered subjectId outcome)
  | .change change =>
    history.note (history.engine.after change) (.changed change (history.engine.apply change).toBool)
  | .wait seconds _ => { history with clock := history.clock + seconds }

/-- The history with several things done, one after the other. -/
def run (history : History) (operations : List Operation) : History :=
  operations.foldl step history

/-- Whether what an engine keeps agrees with the record, where it keeps results at all: a result is
there, now and later, if it is the one of the last full evaluation of its subject and its lifetime is
not over. -/
structure IsRecalled (history : History) (names : List String) : Prop where
  fits : history.engine.cache.Fits (names.map Engine.cacheKey)
  ordered : history.record.Pairwise fun first second => first.clock ≤ second.clock
  past : ∀ occurrence ∈ history.record, occurrence.clock ≤ history.clock
  kept : history.engine.settings.keepsResults = true → ∀ later, history.clock ≤ later →
    ∀ subjectId result,
      history.engine.cache.live? later (Engine.cacheKey subjectId) = some result ↔
        ∃ since, last? history.record subjectId = some (since, result) ∧
          (Lifetime.ofBinary64 history.engine.settings.resultSeconds).Lasts since later

variable {history : History} {names : List String}

/-- A record stays in order when something that has just happened is added. -/
theorem IsRecalled.note (recalled : history.IsRecalled names) {engine : Engine} {deed : Deed}
    (fits : engine.cache.Fits (names.map Engine.cacheKey))
    (kept : engine.settings.keepsResults = true → ∀ later, history.clock ≤ later →
      ∀ subjectId result,
        engine.cache.live? later (Engine.cacheKey subjectId) = some result ↔
          ∃ since, Occurrence.next subjectId (last? history.record subjectId) ⟨history.clock, deed⟩ =
              some (since, result) ∧
            (Lifetime.ofBinary64 engine.settings.resultSeconds).Lasts since later) :
    (history.note engine deed).IsRecalled names where
  fits := fits
  ordered := by
    refine List.pairwise_append.mpr ⟨recalled.ordered, List.pairwise_singleton _ _, ?_⟩
    intro occurrence member last same
    rw [List.mem_singleton.mp same]
    exact recalled.past occurrence member
  past occurrence member := by
    rcases List.mem_append.mp member with member | member
    · exact recalled.past occurrence member
    · rw [List.mem_singleton.mp member]
      exact le_refl _
  kept keeps later notEarlier subjectId result := by
    rw [History.note, last?_concat]
    exact kept keeps later notEarlier subjectId result

/-- Something that neither drops results nor is a full evaluation leaves what is recalled alone, as long
as the engine keeps what it had. -/
theorem IsRecalled.note_of_silent (recalled : history.IsRecalled names) {engine : Engine} {deed : Deed}
    (fits : engine.cache.Fits (names.map Engine.cacheKey))
    (settings : engine.settings = history.engine.settings)
    (held : ∀ later, history.clock ≤ later → ∀ key,
      engine.cache.live? later key = history.engine.cache.live? later key)
    (silent : ∀ subjectId last, Occurrence.next subjectId last ⟨history.clock, deed⟩ = last) :
    (history.note engine deed).IsRecalled names := by
  refine recalled.note fits fun keeps later notEarlier subjectId result => ?_
  rw [settings] at keeps ⊢
  rw [held later notEarlier, silent]
  exact recalled.kept keeps later notEarlier subjectId result

theorem next_answered (subjectId id : String) (last : Option (Rat × Evaluation)) (clock : Rat)
    (outcome : Outcome Evaluation) :
    Occurrence.next subjectId last ⟨clock, .answered id outcome⟩ =
      match outcome with
      | .ok result => if id = subjectId ∧ result.isKept = false then some (clock, result) else last
      | .error _ => last := by
  cases outcome with
  | error problem => rfl
  | ok result =>
    rw [Occurrence.next, Occurrence.drops, Occurrence.full?]
    by_cases own : id = subjectId ∧ result.isKept = false
    · simp only [if_pos own]
      rfl
    · simp only [if_neg own]
      rfl

/-- An evaluation that judges the rules is recalled from then on, and what is recalled for other subjects
is not touched. -/
theorem IsRecalled.keep (recalled : history.IsRecalled names) {opened : Engine}
    (fits : opened.cache.Fits (names.map Engine.cacheKey))
    (settings : opened.settings = history.engine.settings)
    (held : ∀ later, history.clock ≤ later → ∀ key,
      opened.cache.live? later key = history.engine.cache.live? later key)
    {result : Evaluation} (full : result.isKept = false) (listed : result.subjectId ∈ names) :
    (history.note (opened.keep history.clock result)
      (.answered result.subjectId (.ok result))).IsRecalled names := by
  have named : Engine.cacheKey result.subjectId ∈ names.map Engine.cacheKey :=
    List.mem_map_of_mem listed
  cases keeps : opened.settings.keepsResults with
  | false =>
    have same : opened.keep history.clock result = opened := by rw [Engine.keep, if_neg (by simp [keeps])]
    rw [same]
    exact recalled.note fits fun keeps' => by rw [keeps] at keeps'; cases keeps'
  | true =>
    have same : opened.keep history.clock result =
        { opened with
          cache := opened.cache.set history.clock (Engine.cacheKey result.subjectId) result
            (some (.ofBinary64 opened.settings.resultSeconds)) } := by
      rw [Engine.keep, if_pos keeps]
    rw [same]
    refine recalled.note (fits.set _ _ named _ _) fun _ later notEarlier subjectId other => ?_
    rw [Cache.live?, Cache.entry?_set_of_hasRoom _ _ (fits.hasRoom _ named), next_answered]
    by_cases own : result.subjectId = subjectId
    · subst own
      have expired := Lifetime.isExpired_iff (.ofBinary64 opened.settings.resultSeconds) result history.clock later
      simp only [if_pos, full, and_self, Option.bind_some, Option.getD_some]
      by_cases lasts : (Lifetime.ofBinary64 opened.settings.resultSeconds).Lasts history.clock later
      · rw [if_neg (by simpa [expired] using lasts)]
        constructor
        · rintro ⟨⟩
          exact ⟨history.clock, rfl, lasts⟩
        · rintro ⟨since, ⟨⟩, _⟩
          rfl
      · rw [if_pos (by simpa [expired] using lasts)]
        constructor
        · rintro ⟨⟩
        · rintro ⟨since, ⟨⟩, still⟩
          exact (lasts still).elim
    · rw [if_neg (by simpa using Ne.symm own)]
      simp only [own, false_and, if_false]
      rw [settings] at keeps ⊢
      rw [← recalled.kept keeps later notEarlier subjectId other, ← held later notEarlier]
      rfl

/-- An evaluation agrees with the record that is written of it. -/
theorem IsRecalled.evaluate (recalled : history.IsRecalled names) (now : Timestamp)
    {subjectId : String} (listed : subjectId ∈ names) (context : Outcome Context) :
    (history.step (.evaluate now subjectId context)).IsRecalled names := by
  let opened := (history.engine.start history.clock subjectId).2
  have settings : opened.settings = history.engine.settings := Engine.settings_start _ _ _
  have held : ∀ later, history.clock ≤ later → ∀ key,
      opened.cache.live? later key = history.engine.cache.live? later key :=
    fun later notEarlier key => Engine.live?_start_of_le _ _ _ notEarlier key
  have fits : opened.cache.Fits (names.map Engine.cacheKey) := by
    obtain ⟨cache, same, rfl | rfl⟩ := Engine.start_snd history.engine history.clock subjectId
    · rw [show opened = _ from same]
      exact recalled.fits
    · rw [show opened = _ from same]
      exact recalled.fits.get _ _
  have outcome := history.engine.evaluate_fst ⟨history.clock, now⟩ subjectId context
  have engine := history.engine.evaluate_snd ⟨history.clock, now⟩ subjectId context
  show (history.note (history.engine.evaluate ⟨history.clock, now⟩ subjectId context).2
    (.answered subjectId (history.engine.evaluate ⟨history.clock, now⟩ subjectId context).1)).IsRecalled names
  rw [outcome, engine]
  cases history.engine.kept? history.clock subjectId with
  | some evaluation =>
    exact recalled.note_of_silent fits settings held fun id last => by simp [next_answered]
  | none =>
    cases context with
    | error problem => exact recalled.note_of_silent fits settings held fun id last => rfl
    | ok known => exact recalled.keep fits settings held rfl listed

/-- A change agrees with the record that is written of it. -/
theorem IsRecalled.change (recalled : history.IsRecalled names) (change : Change) :
    (history.step (.change change)).IsRecalled names := by
  rw [step]
  cases applied : history.engine.apply change with
  | error problem =>
    rw [Engine.after_of_apply_eq_error applied]
    exact recalled.note_of_silent recalled.fits rfl (fun _ _ _ => rfl) fun _ _ => rfl
  | ok changed =>
    rw [Engine.after_of_apply_eq_ok applied]
    rcases Engine.cache_of_apply_eq_ok applied with ⟨cleared, drops⟩ | ⟨id, rfl, rfl⟩
    · refine recalled.note (cleared ▸ recalled.fits.clear) fun _ later _ subjectId result => ?_
      rw [cleared, Occurrence.next, if_pos (by simp [Occurrence.drops, drops, Except.toBool])]
      simp
    · refine recalled.note (recalled.fits.erase _) fun keeps later notEarlier subjectId result => ?_
      rw [Cache.live?_erase, Occurrence.next]
      by_cases own : id = subjectId
      · rw [if_pos (by rw [own]), if_pos (by simp [Occurrence.drops, Change.drops, Except.toBool, own])]
        simp
      · rw [if_neg (by simpa using Ne.symm own),
          if_neg (by simp [Occurrence.drops, Change.drops, own])]
        exact recalled.kept keeps later notEarlier subjectId result

/-- While time passes nothing comes back. -/
theorem IsRecalled.wait (recalled : history.IsRecalled names) (seconds : Rat)
    (forward : 0 ≤ seconds) : (history.step (.wait seconds forward)).IsRecalled names := by
  have notEarlier : history.clock ≤ history.clock + seconds := by linarith
  exact {
    recalled with
    past := fun occurrence member => (recalled.past occurrence member).trans notEarlier
    kept := fun keeps later past => recalled.kept keeps later (notEarlier.trans past) }

/-- Whatever is done agrees with the record that is written of it. -/
theorem IsRecalled.step (recalled : history.IsRecalled names) {operation : Operation}
    (listed : ∀ subjectId, operation.subject? = some subjectId → subjectId ∈ names) :
    (history.step operation).IsRecalled names := by
  cases operation with
  | evaluate now subjectId context => exact recalled.evaluate now (listed subjectId rfl) context
  | change change => exact recalled.change change
  | wait seconds forward => exact recalled.wait seconds forward

theorem isRecalled_ofSettings (settings : EngineSettings) (few : names.length ≤ 1000) :
    (ofSettings settings).IsRecalled names where
  fits := ⟨List.nodup_nil, List.nil_subset _, by
    rw [List.length_map]
    show (names.length : Int) ≤ 1000
    omega⟩
  ordered := List.Pairwise.nil
  past _ member := by cases member
  kept _ later _ subjectId result := by
    constructor
    · rintro ⟨⟩
    · rintro ⟨_, ⟨⟩, _⟩

/-- An engine that is used for no more subjects than it has room for agrees with its record. -/
theorem isRecalled_run (settings : EngineSettings) {operations : List Operation}
    (few : names.length ≤ 1000)
    (listed : ∀ subjectId ∈ operations.filterMap Operation.subject?, subjectId ∈ names) :
    ((ofSettings settings).run operations).IsRecalled names := by
  induction operations using List.reverseRecOn with
  | nil => exact isRecalled_ofSettings settings few
  | append_singleton operations operation ih =>
    have before := ih fun subjectId member => listed subjectId (by simp [member])
    rw [run, List.foldl_append]
    refine before.step fun subjectId evaluated => listed subjectId ?_
    simp [evaluated]

/-- What is kept for a subject is the result of its last full evaluation. -/
theorem IsRecalled.kept?_eq_some_iff (recalled : history.IsRecalled names) {subjectId : String}
    {result : Evaluation} :
    history.engine.kept? history.clock subjectId = some result ↔
      history.engine.settings.keepsResults = true ∧
        ∃ since, last? history.record subjectId = some (since, result) ∧
          (Lifetime.ofBinary64 history.engine.settings.resultSeconds).Lasts since history.clock := by
  rw [Engine.kept?]
  by_cases keeps : history.engine.settings.keepsResults = true
  · rw [if_pos keeps, recalled.kept keeps _ (le_refl _)]
    simp [keeps]
  · simp [keeps]

/-- An evaluation is answered with a kept result if there is one, which is then told to be kept. -/
theorem answer_kept_iff (history : History) (now : Timestamp) (subjectId : String)
    (context : Outcome Context) (kept : Evaluation) :
    history.answer now subjectId context = .ok kept ∧ kept.isKept = true ↔
      ∃ result, history.engine.kept? history.clock subjectId = some result ∧
        kept = { result with isKept := true } := by
  rw [answer, Engine.evaluate_fst]
  cases history.engine.kept? history.clock subjectId with
  | some result =>
    constructor
    · rintro ⟨⟨⟩, _⟩
      exact ⟨result, rfl, rfl⟩
    · rintro ⟨_, ⟨⟩, rfl⟩
      exact ⟨rfl, rfl⟩
  | none =>
    constructor
    · rintro ⟨answered, told⟩
      obtain ⟨known, _, same⟩ := Outcome.bind_eq_ok.mp answered
      cases same
      cases told
    · rintro ⟨_, ⟨⟩, _⟩

/-- An evaluation of another subject, or one that fails, is nothing that would be recalled. -/
theorem last?_evaluate_of_other {now : Timestamp} {other subjectId : String}
    {context : Outcome Context}
    (apart : other ≠ subjectId ∨ ∃ problem, history.answer now other context = .error problem) :
    last? (history.step (.evaluate now other context)).record subjectId =
      last? history.record subjectId := by
  show last? (history.record ++ [⟨history.clock, .answered other (history.answer now other context)⟩])
    subjectId = _
  rw [last?_concat, next_answered]
  rcases apart with different | ⟨problem, failed⟩
  · cases history.answer now other context with
    | error problem => rfl
    | ok result => simp [different]
  · rw [failed]

/-- Such an evaluation takes nothing away that is kept for the subject, and keeps nothing for it. -/
theorem IsRecalled.kept?_evaluate_of_other (recalled : history.IsRecalled names) {now : Timestamp}
    {other subjectId : String} {context : Outcome Context} {others : List String}
    (after : (history.step (.evaluate now other context)).IsRecalled others)
    (apart : other ≠ subjectId ∨ ∃ problem, history.answer now other context = .error problem) :
    (history.step (.evaluate now other context)).engine.kept? history.clock subjectId =
      history.engine.kept? history.clock subjectId := by
  have settings : (history.step (.evaluate now other context)).engine.settings =
      history.engine.settings := history.engine.settings_evaluate _ _ _
  refine Option.ext fun result => ?_
  rw [recalled.kept?_eq_some_iff]
  refine after.kept?_eq_some_iff.trans ?_
  rw [settings, last?_evaluate_of_other apart]
  rfl

/-- In every use of an engine for at most a thousand subjects, an evaluation is answered with a kept
result exactly if results are kept and a full evaluation of the subject ended less than the lifetime of
results ago, with nothing behind it that has dropped its result. The answer is then the result of the
last such evaluation, told to be kept. Evaluations of other subjects, and those that fail, change nothing
about that. -/
theorem answer_isKept_iff (settings : EngineSettings) (operations : List Operation)
    (few : (Operation.subjects operations).length ≤ 1000) (now : Timestamp) (subjectId : String)
    (context : Outcome Context) :
    let history := (ofSettings settings).run operations
    let answer := history.answer now subjectId context
    let lifetime := Lifetime.ofBinary64 history.engine.settings.resultSeconds
    ((∃ kept, answer = .ok kept ∧ kept.isKept = true) ↔
      history.engine.settings.keepsResults = true ∧ ∃ source result later,
        Stands history.record subjectId source result later ∧
          lifetime.Lasts source.clock history.clock) ∧
    (∀ kept, answer = .ok kept → kept.isKept = true → ∃ source result later,
      Stands history.record subjectId source result later ∧
        (∀ occurrence ∈ later, occurrence.full? subjectId = none) ∧
        kept = { result with isKept := true }) ∧
    (∀ otherNow other otherContext,
      (Operation.subjects (operations ++ [.evaluate otherNow other otherContext])).length ≤ 1000 →
      (other ≠ subjectId ∨ ∃ problem, history.answer otherNow other otherContext = .error problem) →
      ∀ kept, kept.isKept = true →
        ((history.step (.evaluate otherNow other otherContext)).answer now subjectId context = .ok kept ↔
          answer = .ok kept)) := by
  have recalled := isRecalled_run settings few fun _ member => mem_distinct.mpr member
  dsimp only
  set history := (ofSettings settings).run operations
  refine ⟨?_, fun kept answered told => ?_, fun otherNow other otherContext room apart kept told => ?_⟩
  · constructor
    · rintro ⟨kept, served⟩
      obtain ⟨result, found, _⟩ := (answer_kept_iff _ _ _ _ _).mp served
      obtain ⟨keeps, since, last, lasts⟩ := recalled.kept?_eq_some_iff.mp found
      obtain ⟨source, later, stands, rfl, _⟩ := exists_stands_of_last? last
      exact ⟨keeps, source, result, later, stands, lasts⟩
    · rintro ⟨keeps, source, result, later, stands, lasts⟩
      obtain ⟨since, last, found, notOlder⟩ := last?_of_stands stands recalled.ordered
      have still : (Lifetime.ofBinary64 history.engine.settings.resultSeconds).Lasts since history.clock :=
        lasts.of_le notOlder le_rfl
      have kept := recalled.kept?_eq_some_iff.mpr ⟨keeps, since, found, still⟩
      exact ⟨_, (answer_kept_iff _ _ _ _ _).mpr ⟨last, kept, rfl⟩⟩
  · obtain ⟨result, found, rfl⟩ := (answer_kept_iff _ _ _ _ _).mp ⟨answered, told⟩
    obtain ⟨_, since, last, _⟩ := recalled.kept?_eq_some_iff.mp found
    obtain ⟨source, later, stands, _, latest⟩ := exists_stands_of_last? last
    exact ⟨source, result, later, stands, latest, rfl⟩
  · have after : (history.step (.evaluate otherNow other otherContext)).IsRecalled
        (Operation.subjects (operations ++ [.evaluate otherNow other otherContext])) := by
      have whole := isRecalled_run settings room fun _ member => mem_distinct.mpr member
      rwa [run, List.foldl_append] at whole
    have same := recalled.kept?_evaluate_of_other after apart
    have served := answer_kept_iff (history.step (.evaluate otherNow other otherContext)) now subjectId
      context kept
    have servedBefore := answer_kept_iff history now subjectId context kept
    rw [show (history.step (.evaluate otherNow other otherContext)).clock = history.clock from rfl, same,
      ← servedBefore] at served
    simpa [told] using served

/-- A visit of a student whose lifetime is nearly over. -/
def visited : List Operation :=
  [.change (.load [Engine.selfRequiring.toDraft, Engine.requiring.toDraft]),
    .evaluate Engine.morning.now "s1" (.ok Engine.student), .wait 299 (by norm_num)]

theorem run_visited :
    (ofSettings {}).run visited =
      { engine := (Engine.visaAndReport.evaluate ⟨0, Engine.morning.now⟩ "s1" (.ok Engine.student)).2
        clock := 0 + 299
        record := [⟨0, .changed (.load [Engine.selfRequiring.toDraft, Engine.requiring.toDraft]) true⟩,
          ⟨0, .answered "s1" (.ok Engine.ofStudent)⟩] } := by
  have loaded : (ofSettings {}).step
      (.change (.load [Engine.selfRequiring.toDraft, Engine.requiring.toDraft])) =
      { engine := Engine.visaAndReport
        record := [⟨0, .changed (.load [Engine.selfRequiring.toDraft, Engine.requiring.toDraft]) true⟩] } := by
    have applied : (ofSettings {}).engine.apply
        (.load [Engine.selfRequiring.toDraft, Engine.requiring.toDraft]) = .ok Engine.visaAndReport :=
      Engine.load_visaAndReport
    rw [step, Engine.after_of_apply_eq_ok applied, applied]
    rfl
  rw [visited, run, List.foldl_cons, loaded]
  rfl

/-- The student is answered with what was kept, also after a visit of another one. -/
theorem answer_isKept_visited :
    (Operation.subjects visited).length ≤ 1000 ∧
      ∃ kept, ((ofSettings {}).run visited).answer Engine.morning.now "s1" (.ok Engine.student) = .ok kept ∧
        kept = { Engine.ofStudent with isKept := true } ∧
        (((ofSettings {}).run visited).step (.evaluate Engine.morning.now "s2" (.ok Engine.student))).answer
          Engine.morning.now "s1" (.ok Engine.student) = .ok kept := by
  have few : (Operation.subjects visited).length ≤ 1000 := by decide
  obtain ⟨served, latest, others⟩ :=
    answer_isKept_iff {} visited few Engine.morning.now "s1" (.ok Engine.student)
  let visit : Occurrence := ⟨0, .answered "s1" (.ok Engine.ofStudent)⟩
  have stands : Stands ((ofSettings {}).run visited).record "s1" visit Engine.ofStudent [] := by
    rw [run_visited]
    exact ⟨⟨[_], rfl⟩, rfl, by simp⟩
  have settings : ((ofSettings {}).run visited).engine.settings = Engine.visaAndReport.settings := by
    rw [run_visited, Engine.settings_evaluate]
  have keeps : ((ofSettings {}).run visited).engine.settings.keepsResults = true := by
    rw [settings]
    rfl
  obtain ⟨kept, answered, told⟩ := served.mpr ⟨keeps, visit, _, [], stands, by
    rw [settings, run_visited]
    decide +kernel⟩
  refine ⟨few, kept, answered, ?_, ?_⟩
  · obtain ⟨source, result, later, ⟨⟨earlier, split⟩, full, _⟩, _, rfl⟩ := latest kept answered told
    rw [run_visited] at split
    obtain _ | ⟨_, _ | ⟨_, _⟩⟩ := earlier
    · obtain ⟨rfl, _⟩ := List.cons.inj split
      cases full
    · obtain ⟨rfl, _⟩ := List.cons.inj (List.cons.inj split).2
      cases full
      rfl
    · simp at split
  · exact (others Engine.morning.now "s2" (.ok Engine.student) (by decide) (Or.inl (by decide)) kept told).mpr
      answered

end History

end Obligations
