import Obligations.Cache
import Obligations.Clock
import Obligations.Settings.Basic
import Obligations.Source.Loading

/-! # Loading from several sources

A loader asks its enabled sources for their rules and keeps what it was answered for a while. The sources
are asked side by side: one that is far away answers only later, and meanwhile others are asked. A source
that fails adds no rules, and only where all of them fail does the loading fail. Of rules with one
identity the one of the highest priority counts.
-/

namespace Obligations

open Obligations.Calendar Obligations.Text

/-- The sources of rules, and the rules of each that are kept. -/
structure Loader where
  settings : LoaderSettings
  sources : List Source
  cache : Cache (List Draft)

/-- How far asking a source has come. -/
inductive Stage where
  /-- A source that is turned off is not asked. -/
  | skipped
  | due
  /-- Nothing is kept for the source, and its answer is awaited. -/
  | awaited
  | answered (rules : Outcome (List Draft))

/-- A source among those that are asked for their rules. -/
structure Inquiry where
  source : Source
  stage : Stage

namespace Inquiry

/-- A source before its first turn. -/
def ofSource (source : Source) : Inquiry :=
  ⟨source, if source.isEnabled then .due else .skipped⟩

/-- The next turn of a source. In its first turn rules that are kept for its key are its answer, and where
there are none it is asked; in its second turn it answers, and its rules are kept. -/
def next (inquiry : Inquiry) (moment : Moment) (cache : Cache (List Draft)) :
    Inquiry × Cache (List Draft) :=
  match inquiry.stage with
  | .skipped | .answered _ => (inquiry, cache)
  | .due =>
    match cache.get moment.clock inquiry.source.key with
    | (some rules, cache) => (⟨inquiry.source, .answered (.ok rules)⟩, cache)
    | (none, cache) => (⟨inquiry.source.visited, .awaited⟩, cache)
  | .awaited =>
    match inquiry.source.shelf.load moment.now with
    | .ok rules =>
      (⟨inquiry.source, .answered (.ok rules)⟩, cache.set moment.clock inquiry.source.key rules)
    | .error problem => (⟨inquiry.source, .answered (.error problem)⟩, cache)

end Inquiry

/-- Sources that are asked side by side, numbered by their places, and the rules that are kept. -/
structure Round where
  inquiries : List Inquiry
  cache : Cache (List Draft)

namespace Round

/-- The round before the first turn. -/
def ofSources (sources : List Source) (cache : Cache (List Draft)) : Round :=
  ⟨sources.map .ofSource, cache⟩

/-- The round after the next turn of one source. -/
def turn (moment : Moment) (round : Round) (number : Nat) : Round :=
  match round.inquiries[number]? with
  | some inquiry =>
    let (inquiry, cache) := inquiry.next moment round.cache
    ⟨round.inquiries.set number inquiry, cache⟩
  | none => round

/-- The round after several turns. -/
def run (moment : Moment) (round : Round) (turns : List Nat) : Round :=
  turns.foldl (turn moment) round

/-- The answers that are there, with the keys of their sources. -/
def answers (round : Round) : List (String × Outcome (List Draft)) :=
  round.inquiries.filterMap fun inquiry =>
    match inquiry.stage with
    | .answered rules => some (inquiry.source.key, rules)
    | _ => none

/-- The keys of the sources that failed. -/
def failures (round : Round) : List String :=
  round.answers.filterMap fun (key, answer) =>
    match answer with
    | .ok _ => none
    | .error _ => some key

/-- All rules that were answered, in the order of their sources. -/
def rules (round : Round) : List Draft :=
  round.answers.flatMap fun (_, answer) =>
    match answer with
    | .ok rules => rules
    | .error _ => []

/-- What the round came to. -/
def outcome (round : Round) : Outcome (List Draft) :=
  if round.answers.isEmpty then .ok []
  else if round.failures.length = round.answers.length then
    .fail (.of .loading "All rule sources failed to load"
      { details := [("sources", .value (.text (joined ", " round.failures)))] })
  else .ok (keepHighest Draft.id Draft.priority round.rules)

end Round

namespace Loader

/-- A loader that keeps nothing yet. -/
def ofSources (settings : LoaderSettings) (sources : List Source) : Loader :=
  ⟨settings, sources, .empty (.ofBinary64 settings.sourceSeconds)⟩

/-- The bundled rule sets that settings name. -/
def bundles (settings : LoaderSettings) : List Source :=
  settings.bundles.map fun name => { shelf := .bundle name }

/-- Turns after which every one of a number of sources has answered. -/
def lastTurns (count : Nat) : List Nat :=
  (List.range count).flatMap fun number => [number, number]

/-- The rules of all enabled sources, which take their turns in any order. Sources whose turns are missing
take them at the end. -/
def loadIn (loader : Loader) (turns : List Nat) (moment : Moment) : Outcome (List Draft) × Loader :=
  let round := (Round.ofSources loader.sources loader.cache).run moment
    (turns ++ lastTurns loader.sources.length)
  (round.outcome, { loader with sources := round.inquiries.map (·.source), cache := round.cache })

/-- The turns of sources of which those that are far away answer only when all have been asked. -/
def usualTurns (sources : List Source) : List Nat :=
  sources.zipIdx.flatMap fun (source, number) =>
    if source.shelf.isFar then [number] else [number, number]

/-- The rules of all enabled sources. -/
def load (loader : Loader) (moment : Moment) : Outcome (List Draft) × Loader :=
  loader.loadIn (usualTurns loader.sources) moment

/-- The loader without the rules that it kept. -/
def clear (loader : Loader) : Loader :=
  { loader with cache := loader.cache.clear }

/-- The rules of all enabled sources, none of them kept from before. -/
def reload (loader : Loader) (moment : Moment) : Outcome (List Draft) × Loader :=
  loader.clear.load moment

/-- The loader with one more source, for whose key nothing is kept. -/
def add (loader : Loader) (source : Source) : Loader :=
  { loader with sources := loader.sources ++ [source], cache := loader.cache.erase source.key }

/-- The loader with its source at an index changed. -/
def modify (loader : Loader) (index : Nat) (change : Source → Source) : Loader :=
  { loader with sources := loader.sources.modify index change }

/-- How many sources have rules that are kept, and how many rules these are. -/
def kept (loader : Loader) (clock : Rat) : (Nat × Nat) × Loader :=
  let (counts, cache) := loader.sources.foldl (fun ((entries, rules), cache) source =>
    match cache.get clock source.key with
    | (some found, cache) => ((entries + 1, rules + found.length), cache)
    | (none, cache) => ((entries, rules), cache)) ((0, 0), loader.cache)
  (counts, { loader with cache := cache })

end Loader

end Obligations
