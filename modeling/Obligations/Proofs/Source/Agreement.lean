import Obligations.Proofs.Rule.Merging
import Obligations.Proofs.Source.History
import Obligations.Proofs.Source.Times

/-! # Kept rules and fresh ones

Rules are kept under the key of their place. So a load with kept rules has the rules of one that keeps none,
whatever was done before, exactly if places with the same key have the same rules. A key names the kind of a
place and what leads there, and for a table neither the database nor, always, the rule set.
-/

namespace Obligations

open Obligations.Calendar

/-- The rules that count among several, without their times. -/
def summary (drafts : List Draft) : List Draft :=
  keepHighest Draft.id Draft.priority (drafts.map Draft.untimed)

theorem map_untimed_keepHighest (drafts : List Draft) :
    (keepHighest Draft.id Draft.priority drafts).map Draft.untimed = summary drafts :=
  (keepHighest.keepHighest_map Draft.untimed (fun _ => rfl) (fun _ => rfl) drafts).symm

/-- The rules that count among several lists are those that count among the ones of each. -/
theorem summary_flatten (lists : List (List Draft)) :
    summary lists.flatten = keepHighest Draft.id Draft.priority (lists.map summary).flatten := by
  rw [summary, List.map_flatten, ← keepHighest.keepHighest_flatten, List.map_map]
  rfl

namespace Shelf

/-- Whether rules are looked up at a place, and not given. -/
def IsLocated : Shelf → Prop
  | .memory _ _ => False
  | _ => True

/-- What a table calls the rule set that it is asked for; all of them are called by a star. -/
def tableName : Option String → String
  | some name => if name.isEmpty then "*" else name
  | none => "*"

/-- Whether places are of one kind and reached by the same name. -/
def SharesName : Shelf → Shelf → Prop
  | .bundle name, .bundle other => name = other
  | .file path _, .file other _ => path.text = other.text
  | .service url _, .service other _ => url = other
  | .table ruleSet _, .table other _ => tableName ruleSet = tableName other
  | _, _ => False

/-- The first letter of the kind of a place. -/
def initial? : Shelf → Option Char
  | .bundle _ => some 'e'
  | .file _ _ => some 'f'
  | .service _ _ => some 'a'
  | .table _ _ => some 'd'
  | .memory _ _ => none

theorem key_table (ruleSet : Option String) (rows : Option (List Row)) :
    (table ruleSet rows).key = "database:" ++ tableName ruleSet :=
  rfl

theorem head?_key {shelf : Shelf} (located : shelf.IsLocated) :
    shelf.key.toList.head? = shelf.initial? := by
  cases shelf with
  | memory => exact located.elim
  | table => simp [key_table, initial?]
  | bundle | file | service => simp [key, initial?]

/-- Places have the same key exactly if they are of one kind and share a name: no key of one kind begins
like one of another. -/
theorem key_eq_iff {shelf other : Shelf} (located : shelf.IsLocated) (locatedToo : other.IsLocated) :
    shelf.key = other.key ↔ shelf.SharesName other := by
  have kinds : shelf.key = other.key → shelf.initial? = other.initial? := by
    intro same
    rw [← head?_key located, ← head?_key locatedToo, same]
  cases shelf <;> cases other
  case bundle.bundle | file.file | service.service | table.table => exact String.append_right_inj _
  all_goals first
    | exact located.elim
    | exact locatedToo.elim
    | exact iff_of_false (fun same => absurd (kinds same) (by simp [initial?])) id

/-- Whether a place answers whenever it is asked, on a clock that knows of no distance from universal
time. -/
def Answers (shelf : Shelf) : Prop :=
  ∀ now, now.offset = none → ∃ drafts, shelf.load now = .ok drafts

/-- Whether the rules that count at two places are the same, whenever they answer. -/
def SameRules (shelf other : Shelf) : Prop :=
  ∀ now later drafts others, shelf.load now = .ok drafts → other.load later = .ok others →
    summary drafts = summary others

/-- A place has the same rules at all times. -/
theorem sameRules_self (shelf : Shelf) : shelf.SameRules shelf := by
  intro now later drafts others loaded reloaded
  rw [summary, summary, untimed_of_load loaded reloaded]

/-- Whether rules are, up to their times, those that a place has. -/
def Tells (shelf : Shelf) (drafts : List Draft) : Prop :=
  ∀ now others, shelf.load now = .ok others → summary drafts = summary others

end Shelf

variable {shelves : List Shelf}

/-- Lists that the same places tell have the same rules up to their times. -/
theorem summaries_eq {lists others : List (List Draft)} (told : List.Forall₂ Shelf.Tells shelves lists)
    (toldToo : List.Forall₂ Shelf.Tells shelves others) (answers : ∀ shelf ∈ shelves, shelf.Answers)
    {now : Timestamp} (isLocal : now.offset = none) : lists.map summary = others.map summary := by
  induction told generalizing others with
  | nil =>
    cases toldToo
    rfl
  | cons tells _ ih =>
    cases toldToo with
    | cons tellsToo rest =>
      rw [List.forall_mem_cons] at answers
      obtain ⟨drafts, loaded⟩ := answers.1 now isLocal
      rw [List.map_cons, List.map_cons, tells now drafts loaded, tellsToo now drafts loaded,
        ih rest answers.2]

/-- Whether places with the same key have the same rules. -/
def AreTold (shelves : List Shelf) : Prop :=
  ∀ shelf ∈ shelves, ∀ other ∈ shelves, shelf.key = other.key → shelf.SameRules other

/-- Whether places are all looked up, where a file has one content and a service one reply. -/
structure ArePlaces (shelves : List Shelf) : Prop where
  located : ∀ shelf ∈ shelves, shelf.IsLocated
  files : ∀ path content other found, .file path content ∈ shelves → .file other found ∈ shelves →
    path.text = other.text → path = other ∧ content = found
  services : ∀ url reply other, .service url reply ∈ shelves → .service url other ∈ shelves → reply = other

/-- Whether tables that call their rule sets by the same name have the same rules. -/
def TablesAgree (shelves : List Shelf) : Prop :=
  ∀ ruleSet rows other found, .table ruleSet rows ∈ shelves → .table other found ∈ shelves →
    Shelf.tableName ruleSet = Shelf.tableName other → (Shelf.table ruleSet rows).SameRules (.table other found)

/-- Of all kinds of places, only tables can share a key and have other rules. -/
theorem ArePlaces.areTold_iff (arePlaces : ArePlaces shelves) : AreTold shelves ↔ TablesAgree shelves := by
  constructor
  · intro areTold ruleSet rows other found member memberToo same
    exact areTold _ member _ memberToo (congrArg ("database:" ++ ·) same)
  · intro tables shelf member other memberToo same
    have located := arePlaces.located shelf member
    have locatedToo := arePlaces.located other memberToo
    have shares := (Shelf.key_eq_iff located locatedToo).mp same
    cases shelf <;> cases other
    case bundle.bundle =>
      cases shares
      exact Shelf.sameRules_self _
    case file.file =>
      obtain ⟨rfl, rfl⟩ := arePlaces.files _ _ _ _ member memberToo shares
      exact Shelf.sameRules_self _
    case service.service =>
      cases shares
      cases arePlaces.services _ _ _ member memberToo
      exact Shelf.sameRules_self _
    case table.table => exact tables _ _ _ _ member memberToo shares
    case memory.memory => exact located.elim
    all_goals exact shares.elim

namespace Loader

/-- Whether two loads have the same rules up to their times. -/
def Agree (first second : Outcome (List Draft)) : Prop :=
  ∃ drafts others, first = .ok drafts ∧ second = .ok others ∧
    drafts.map Draft.untimed = others.map Draft.untimed

/-- Whether the sources of a loader are at given places, and it keeps for their keys what they tell. -/
structure IsFaithful (loader : Loader) (shelves : List Shelf) : Prop where
  places : loader.sources.map (·.shelf) = shelves
  kept : loader.cache.Keeps Shelf.Tells shelves

/-- The places of the sources of a loader, and whether these are enabled. -/
def places (loader : Loader) : List (Shelf × Bool) :=
  loader.sources.map fun source => (source.shelf, source.isEnabled)

theorem IsFaithful.clear {loader : Loader} (faithful : loader.IsFaithful shelves) :
    loader.clear.IsFaithful shelves :=
  ⟨faithful.places, fun _ _ _ none => nomatch none⟩

theorem places_loadIn (loader : Loader) (turns : List Nat) (moment : Moment) :
    (loader.loadIn turns moment).2.places = loader.places := by
  have asking := (Round.isAsking_ofSources loader.sources loader.cache).run moment
    (turns ++ lastTurns loader.sources.length)
  rw [places, places, ← asking.places]
  exact List.map_map

theorem map_shelf_eq (loader : Loader) : loader.sources.map (·.shelf) = loader.places.map (·.1) := by
  rw [places, List.map_map]
  rfl

theorem enabled_eq (loader : Loader) :
    (loader.sources.filter (·.isEnabled)).map (·.shelf) = (loader.places.filter (·.2)).map (·.1) := by
  rw [places, List.filter_map, List.map_map]
  rfl

/-- Whether an operation leaves the sources at given places and asks them on a local clock. -/
def Operation.Keeps (shelves : List Shelf) : Operation → Prop
  | .load now _ | .reload now _ => now.offset = none
  | .revise sources => sources.map (·.shelf) = shelves
  | .add _ => False
  | .clear | .wait _ _ => True

/-- Whether what is kept makes no difference: a load has the same rules as one of a loader that has been
cleared, and as another one behind it. -/
structure History.Agrees (history : History) : Prop where
  cleared : ∀ now later turns others, now.offset = none → later.offset = none →
    Agree (history.loader.loadIn turns ⟨history.clock, now⟩).1
      (history.loader.clear.loadIn others ⟨history.clock, later⟩).1
  again : ∀ now later turns others clock, now.offset = none → later.offset = none →
    Agree (history.loader.loadIn turns ⟨history.clock, now⟩).1
      ((history.loader.loadIn turns ⟨history.clock, now⟩).2.loadIn others ⟨clock, later⟩).1

section Faithful

variable (answers : ∀ shelf ∈ shelves, shelf.Answers) (areTold : AreTold shelves)
include answers areTold

/-- A faithful loader has rules that its enabled sources tell, and stays faithful. -/
theorem IsFaithful.exists_loadIn {loader : Loader} (faithful : loader.IsFaithful shelves)
    (turns : List Nat) (moment : Moment) (isLocal : moment.now.offset = none) :
    (loader.loadIn turns moment).2.IsFaithful shelves ∧ ∃ lists,
      List.Forall₂ Shelf.Tells ((loader.sources.filter (·.isEnabled)).map (·.shelf)) lists ∧
      (loader.loadIn turns moment).1 = .ok (keepHighest Draft.id Draft.priority lists.flatten) := by
  obtain ⟨rfl, kept⟩ := faithful
  have answer : Answer Shelf.Tells (loader.sources.map (·.shelf)) moment.now := by
    intro shelf listed
    obtain ⟨drafts, loaded⟩ := answers shelf listed moment.now isLocal
    refine ⟨drafts, loaded, fun other known same now others loadedToo => ?_⟩
    exact areTold shelf listed other known same.symm moment.now now drafts others loaded loadedToo
  obtain ⟨lists, inOrder, outcome, still⟩ := Loader.exists_loadIn kept answer turns
  refine ⟨⟨?_, still⟩, lists, inOrder, outcome⟩
  rw [map_shelf_eq, places_loadIn, ← map_shelf_eq]

/-- Faithful loaders with the same enabled sources have the same rules. -/
theorem IsFaithful.agree {loader other : Loader} (faithful : loader.IsFaithful shelves)
    (faithfulToo : other.IsFaithful shelves) (same : other.places = loader.places)
    (turns others : List Nat) (moment later : Moment) (isLocal : moment.now.offset = none)
    (isLocalToo : later.now.offset = none) :
    Agree (loader.loadIn turns moment).1 (other.loadIn others later).1 := by
  obtain ⟨-, lists, told, loaded⟩ := faithful.exists_loadIn answers areTold turns moment isLocal
  obtain ⟨-, listsToo, toldToo, loadedToo⟩ := faithfulToo.exists_loadIn answers areTold others later isLocalToo
  rw [enabled_eq, same, ← enabled_eq] at toldToo
  refine ⟨_, _, loaded, loadedToo, ?_⟩
  have listed : ∀ shelf ∈ (loader.sources.filter (·.isEnabled)).map (·.shelf), shelf.Answers := by
    intro shelf member
    refine answers shelf (faithful.places ▸ ?_)
    exact (List.filter_sublist.map _).subset member
  rw [map_untimed_keepHighest, map_untimed_keepHighest, summary_flatten, summary_flatten,
    summaries_eq told toldToo listed isLocal]

/-- Whatever is done leaves a loader faithful, as long as its sources stay at the same places. -/
theorem isFaithful_step {history : History} (faithful : history.loader.IsFaithful shelves)
    {operation : Operation} (keeps : operation.Keeps shelves) :
    (history.step operation).loader.IsFaithful shelves := by
  cases operation with
  | load now turns => exact (faithful.exists_loadIn answers areTold turns ⟨history.clock, now⟩ keeps).1
  | reload now turns => exact (faithful.clear.exists_loadIn answers areTold turns ⟨history.clock, now⟩ keeps).1
  | clear => exact faithful.clear
  | add source => exact keeps.elim
  | revise sources => exact ⟨keeps, faithful.kept⟩
  | wait seconds forward => exact faithful

theorem isFaithful_run {history : History} (faithful : history.loader.IsFaithful shelves)
    {operations : List Operation} (keeps : ∀ operation ∈ operations, operation.Keeps shelves) :
    (history.run operations).loader.IsFaithful shelves := by
  induction operations generalizing history with
  | nil => exact faithful
  | cons first rest ih =>
    rw [List.forall_mem_cons] at keeps
    exact ih (isFaithful_step answers areTold faithful keeps.1) keeps.2

/-- What a faithful loader keeps makes no difference. -/
theorem History.agrees_of_isFaithful {history : History} (faithful : history.loader.IsFaithful shelves) :
    history.Agrees where
  cleared _ _ turns others isLocal isLocalToo :=
    faithful.agree answers areTold faithful.clear rfl turns others _ _ isLocal isLocalToo
  again _ later turns others clock isLocal isLocalToo :=
    faithful.agree answers areTold (faithful.exists_loadIn answers areTold turns _ isLocal).1
      (places_loadIn _ _ _) turns others _ ⟨clock, later⟩ isLocal isLocalToo

end Faithful

/-- Sources at several places of which only one is enabled. -/
def onlyOn (before : List Shelf) (shelf : Shelf) (after : List Shelf) : List Source :=
  before.map (fun shelf => { shelf := shelf, isEnabled := false }) ++ { shelf := shelf } ::
    after.map (fun shelf => { shelf := shelf, isEnabled := false })

section OnlyOn

variable {before after : List Shelf} {shelf : Shelf} {loader : Loader} {drafts : List Draft}

@[simp] theorem map_shelf_onlyOn : (onlyOn before shelf after).map (·.shelf) = before ++ shelf :: after := by
  simp [onlyOn, Function.comp_def]

theorem enabled_onlyOn : (onlyOn before shelf after).filter (·.isEnabled) = [{ shelf := shelf }] := by
  simp [onlyOn, List.filter_map, Function.comp_def]

theorem mem_onlyOn {source : Source} (member : source ∈ onlyOn before shelf after)
    (on : source.isEnabled = true) : source = { shelf := shelf } := by
  have enabled : source ∈ (onlyOn before shelf after).filter (·.isEnabled) :=
    List.mem_filter.mpr ⟨member, on⟩
  rw [enabled_onlyOn] at enabled
  exact List.mem_singleton.mp enabled

theorem areDistinct_onlyOn : Source.AreDistinct (onlyOn before shelf after) := by
  rw [Source.AreDistinct, onlyOn]
  simp [List.pairwise_append, List.pairwise_map, List.pairwise_of_forall]

variable (sources : loader.sources = onlyOn before shelf after) (fits : loader.cache.Fits [shelf.key])
include sources fits

theorem isLoadOf_onlyOn (turns : List Nat) (moment : Moment) :
    (loader.loadIn turns moment).2.IsLoadOf loader (loader.loadIn turns moment).1 moment
      (loader.cache.live? moment.clock) ∧ (loader.loadIn turns moment).2.cache.Fits [shelf.key] := by
  have listed : ∀ source ∈ loader.sources, source.isEnabled = true → source.key ∈ [shelf.key] := by
    intro source member on
    rw [sources] at member
    rw [mem_onlyOn member on]
    exact List.mem_singleton_self _
  have distinct : Source.AreDistinct loader.sources := sources ▸ areDistinct_onlyOn
  exact ⟨isLoadOf_loadIn fits listed distinct turns moment,
    (isUnderway_loadIn fits listed distinct _ moment).fits⟩

/-- A load of the one enabled source has the rules that it tells. -/
theorem loadIn_onlyOn (turns : List Nat) (moment : Moment)
    (told : Source.told { shelf := shelf } (loader.cache.live? moment.clock shelf.key) moment.now =
      .ok drafts) :
    (loader.loadIn turns moment).1 = .ok (keepHighest Draft.id Draft.priority drafts) := by
  have enabled : loader.sources.filter (·.isEnabled) = [{ shelf := shelf }] := sources ▸ enabled_onlyOn
  have member : { shelf := shelf } ∈ loader.sources := by
    rw [sources, onlyOn]
    simp
  have telling : Source.told { shelf := shelf }
      (loader.cache.live? moment.clock (Source.key { shelf := shelf })) moment.now = .ok drafts := told
  rw [(isLoadOf_onlyOn sources fits turns moment).1.outcome, if_neg]
  · rw [Source.rules, enabled, List.flatMap_singleton, telling]
    rfl
  · rintro ⟨-, fails⟩
    have failed := fails _ member rfl
    dsimp only at failed
    rw [telling] at failed
    cases failed

end OnlyOn

/-- Where what is kept makes no difference, places with the same key have the same rules: otherwise one of
them can be asked first, and its rules are then kept for the other one. -/
theorem sameRules_of_agrees {settings : LoaderSettings} {lifetime : Lifetime} (lasts : lifetime.Lasts 0 0)
    {capacity : Int} (room : 1 ≤ capacity) (answers : ∀ shelf ∈ shelves, shelf.Answers)
    (agrees : ∀ sources operations, sources.map (·.shelf) = shelves →
      (∀ operation ∈ operations, operation.Keeps shelves) →
      ((History.start settings sources lifetime capacity).run operations).Agrees) : AreTold shelves := by
  intro shelf member other memberToo same
  obtain ⟨before, after, split⟩ := List.append_of_mem member
  obtain ⟨beforeToo, afterToo, splitToo⟩ := List.append_of_mem memberToo
  let now : Timestamp := .midnight default
  obtain ⟨drafts, loaded⟩ := answers shelf member now rfl
  obtain ⟨others, loadedToo⟩ := answers other memberToo now rfl
  let first := onlyOn before shelf after
  let second := onlyOn beforeToo other afterToo
  let started := History.start settings first lifetime capacity
  have fits : started.loader.cache.Fits [shelf.key] := ⟨List.nodup_nil, List.nil_subset _, room⟩
  obtain ⟨account, fitsToo⟩ := isLoadOf_onlyOn rfl fits [] ⟨0, now⟩
  -- behind the load the rules of the first place are kept for the key of the second one
  let loader : Loader := { (started.loader.loadIn [] ⟨0, now⟩).2 with sources := second }
  have kept : loader.cache.live? 0 other.key = some drafts := by
    have listed : { shelf := shelf } ∈ started.loader.sources := List.mem_append_right _ List.mem_cons_self
    have stored := account.stored _ listed rfl rfl drafts loaded 0 Rat.le_refl
    rw [← same]
    exact stored.trans (if_pos lasts)
  rw [same] at fitsToo
  have sources : loader.sources = onlyOn beforeToo other afterToo := rfl
  have cleared : loader.clear.sources = onlyOn beforeToo other afterToo := rfl
  have cached := loadIn_onlyOn sources fitsToo [] ⟨0, now⟩ (by rw [kept]; rfl)
  have plain : (loader.clear.loadIn [] ⟨0, now⟩).1 = .ok (keepHighest Draft.id Draft.priority others) :=
    loadIn_onlyOn cleared fitsToo.clear [] ⟨0, now⟩ loadedToo
  have keeps : ∀ operation ∈ [Operation.load now [], .revise second], operation.Keeps shelves := by
    rw [splitToo]
    simp [Operation.Keeps, second, now, Timestamp.midnight]
  obtain ⟨_, _, read, reread, equal⟩ :=
    (agrees first _ (by rw [split]; exact map_shelf_onlyOn) keeps).cleared now now [] [] rfl rfl
  cases cached.symm.trans read
  cases plain.symm.trans reread
  rw [map_untimed_keepHighest, map_untimed_keepHighest] at equal
  intro someTime later found foundToo answered answeredToo
  rw [shelf.sameRules_self _ _ _ _ answered loaded, equal, other.sameRules_self _ _ _ _ loadedToo answeredToo]

/-- Whatever is done with a loader of places that always answer, what it keeps makes no difference, exactly
if tables that call their rule sets by the same name have the same rules. A table is kept under this name
alone: tables of different databases share it, and so do the table of all rule sets and one of a rule set
called by a star. -/
theorem agrees_iff_tablesAgree {settings : LoaderSettings} {lifetime : Lifetime} (lasts : lifetime.Lasts 0 0)
    {capacity : Int} (room : 1 ≤ capacity) (arePlaces : ArePlaces shelves)
    (answers : ∀ shelf ∈ shelves, shelf.Answers) :
    (∀ sources operations, sources.map (·.shelf) = shelves →
      (∀ operation ∈ operations, operation.Keeps shelves) →
      ((History.start settings sources lifetime capacity).run operations).Agrees) ↔
    TablesAgree shelves := by
  rw [← arePlaces.areTold_iff]
  constructor
  · exact sameRules_of_agrees lasts room answers
  · intro areTold sources operations same keeps
    have started : (History.start settings sources lifetime capacity).loader.IsFaithful shelves :=
      ⟨same, fun _ _ _ none => nomatch none⟩
    exact History.agrees_of_isFaithful answers areTold (isFaithful_run answers areTold started keeps)

/-- A rule about the visa of students, as a document holds it. -/
def visa : List (String × Value) :=
  [("id", .text "visa"), ("name", .text "Visa"), ("ruleGroup", .text "documents"),
    ("phase", .list [.text "general"]), ("visaTypes", .list [.text "F1"]),
    ("conditions", .list [.map [("field", .text "userId"), ("operator", .text "exists")]]),
    ("taskTemplate", .map [("titleTemplate", .text "Renew the visa")]),
    ("createdAt", .text "2024-01-01"), ("updatedAt", .text "2024-01-01")]

/-- A table that holds this rule. -/
def visaTable : Shelf :=
  .table (some "visas") (some [{ id := "visa", ruleSet := "visas", definition := .map visa }])

/-- A table without rules, asked for those of one rule set or for all of them. -/
def emptyTable (ruleSet : Option String) : Shelf :=
  .table ruleSet (some [])

/-- The table with the rule has it whenever it is asked, since the rule tells its times. -/
theorem exists_load_visaTable : ∃ draft, draft.id = some "visa" ∧ ∀ now, visaTable.load now = .ok [draft] := by
  have checked : (Rule.ofMembers visa).result?.map (fun rule =>
      (rule.toDraft.id, (errorsOfRules [rule.toDraft]).toOption)) = some (some "visa", some []) := by
    decide +kernel
  obtain ⟨rule, read, told⟩ := Option.map_eq_some_iff.mp checked
  rw [Schema.Checked.result?_eq_some] at read
  obtain ⟨named, sound⟩ := Prod.mk.inj told
  refine ⟨rule.toDraft, named, fun now => ?_⟩
  have timed : withTimes (.text now.iso) visa = visa := rfl
  have one : definitions (some "visas")
      [{ id := "visa", ruleSet := "visas", definition := .map visa }] = [.map visa] := by
    simp [definitions, Row.isIn]
  have all : readRules visaTable.key (.text now.iso) 0 [.map visa] = .ok [rule] := by
    rw [readRules]
    unfold readRule
    simp only [timed, read]
    rfl
  rw [← one] at all
  exact Shelf.load_table all (Outcome.toOption_eq_some.mp sound)

theorem load_emptyTable (ruleSet : Option String) (now : Timestamp) :
    (emptyTable ruleSet).load now = .ok [] := by
  have none : readRules (emptyTable ruleSet).key (.text now.iso) 0 (definitions ruleSet []) = .ok [] := by
    simp [definitions, readRules]
  exact Shelf.load_table none rfl

theorem answers_visaTable : visaTable.Answers := by
  obtain ⟨draft, -, loaded⟩ := exists_load_visaTable
  exact fun now _ => ⟨_, loaded now⟩

theorem answers_emptyTable (ruleSet : Option String) : (emptyTable ruleSet).Answers :=
  fun now _ => ⟨_, load_emptyTable ruleSet now⟩

theorem arePlaces_tables (ruleSet : Option String) : ArePlaces [visaTable, emptyTable ruleSet] := by
  constructor <;> simp [visaTable, emptyTable, Shelf.IsLocated]

/-- A load of the first of two places, behind which the second one is enabled instead of it. -/
def turnedOver (first second : Shelf) : History :=
  (History.start {} (onlyOn [] first [second]) (.lasting 300) 100).run
    [.load (.midnight default) [], .revise (onlyOn [first] second [])]

/-- Tables that are asked for different rule sets are kept apart. -/
theorem agrees_iff_tablesAgree_visaTable : visaTable.key ≠ (emptyTable none).key ∧
    ArePlaces [visaTable, emptyTable none] ∧ (turnedOver visaTable (emptyTable none)).Agrees := by
  have apart : visaTable.key ≠ (emptyTable none).key := by decide
  have answers : ∀ shelf ∈ [visaTable, emptyTable none], shelf.Answers := by
    simp [answers_visaTable, answers_emptyTable]
  have agree : TablesAgree [visaTable, emptyTable none] := by
    refine (arePlaces_tables none).areTold_iff.mp ?_
    simp [AreTold, apart, apart.symm, Shelf.sameRules_self]
  refine ⟨apart, arePlaces_tables none, ?_⟩
  refine (agrees_iff_tablesAgree (by decide +kernel) (by decide) (arePlaces_tables none) answers).mpr agree _ _ rfl ?_
  simp [Operation.Keeps, onlyOn, Timestamp.midnight]

/-- A table of another database that is asked for the same rule set is not: its rules are those of the
first one as long as these are kept. -/
theorem not_agrees_emptyTable : visaTable.Answers ∧ (emptyTable (some "visas")).Answers ∧
    ArePlaces [visaTable, emptyTable (some "visas")] ∧
    ¬ (turnedOver visaTable (emptyTable (some "visas"))).Agrees := by
  refine ⟨answers_visaTable, answers_emptyTable _, arePlaces_tables _, fun agrees => ?_⟩
  let history := turnedOver visaTable (emptyTable (some "visas"))
  have cached : (history.loader.loadIn [] ⟨history.clock, .midnight default⟩).1.toOption.map (·.length) =
      some 1 := by
    decide +kernel
  have plain : (history.loader.clear.loadIn [] ⟨history.clock, .midnight default⟩).1.toOption.map (·.length) =
      some 0 := by
    decide +kernel
  obtain ⟨drafts, others, read, reread, same⟩ :=
    agrees.cleared (.midnight default) (.midnight default) [] [] rfl rfl
  rw [read] at cached
  rw [reread] at plain
  have one : drafts.length = 1 := Option.some.inj cached
  have none : others.length = 0 := Option.some.inj plain
  have lengths := congrArg List.length same
  rw [List.length_map, List.length_map, one, none] at lengths
  cases lengths

end Loader

end Obligations
