import Obligations.Proofs.Settings.Overlay
import Obligations.Proofs.Subject.Stage
import Obligations.Settings.Environment

/-! # Changing settings

Changed settings are read anew from the members of the old ones with the changes laid over them, below
which lies what the environment holds. A setting that is read comes from the change that names it or is
the one it was, and a name that is no setting is refused.
-/

namespace Obligations

open Obligations.Number Obligations.Schema

namespace Schema

variable {α : Type} {members : List (String × Value)} {name : String}

/-- A member that is given is read by its reader. -/
theorem reader_of_withDefault {fallback result : α} {reader : Reader α} {value : Value}
    (read : (Key.plain name).withDefault fallback reader members = .ok result)
    (given : members.lookup name = some value) : reader value = .ok result := by
  rw [Key.withDefault, Key.find?, Key.plain, given] at read
  dsimp only at read
  cases own : reader value with
  | ok other => rw [own] at read; cases read; rfl
  | refused issues => rw [own] at read; cases read

/-- A member with a value of its own can only be refused where it is given. -/
theorem exists_withDefault {fallback : α} {reader : Reader α}
    (readable : ∀ value, members.lookup name = some value → ∃ result, reader value = .ok result) :
    ∃ result, (Key.plain name).withDefault fallback reader members = .ok result := by
  rw [Key.withDefault, Key.find?, Key.plain]
  dsimp only
  cases given : members.lookup name with
  | none => exact ⟨fallback, rfl⟩
  | some value =>
    obtain ⟨result, read⟩ := readable value given
    exact ⟨result, by dsimp only; rw [read]; rfl⟩

/-- The members that are known are those with the names of the keys. -/
theorem unknownMembers_eq_nil_iff {names : List String} :
    unknownMembers (names.map Key.plain) members = [] ↔ ∀ name ∈ members.map Prod.fst, name ∈ names := by
  have used (name : String) (listed : name ∈ members.map Prod.fst) :
      name ∈ (names.map Key.plain).filterMap (fun key => (key.find? members).map (·.1)) ↔ name ∈ names := by
    obtain ⟨value, found⟩ := Value.exists_lookup listed
    rw [List.mem_filterMap]
    constructor
    · rintro ⟨key, known, same⟩
      obtain ⟨other, isKnown, rfl⟩ := List.mem_map.mp known
      rw [Key.find?_plain, Option.map_map, Option.map_eq_some_iff] at same
      obtain ⟨_, _, rfl⟩ := same
      exact isKnown
    · exact fun known => ⟨.plain name, List.mem_map_of_mem known, by rw [Key.find?_plain, found]; rfl⟩
  rw [unknownMembers, List.map_eq_nil_iff, List.filter_eq_nil_iff, List.forall_mem_map]
  refine forall₂_congr fun member listed => ?_
  rw [Bool.not_eq_true', Bool.not_eq_false, List.contains_iff_mem]
  exact used member.1 (List.mem_map_of_mem listed)

/-- A closed record is read like any other as long as it has no members but those that it knows. -/
theorem closedRecord_eq_ok_iff {names : List String} {parts : List (String × Value) → Checked α}
    {result : α} :
    Reader.closedRecord (names.map Key.plain) parts (.map members) = .ok result ↔
      parts members = .ok result ∧ ∀ name ∈ members.map Prod.fst, name ∈ names := by
  rw [Reader.closedRecord_eq_ok, ← unknownMembers_eq_nil_iff]
  constructor
  · rintro ⟨_, ⟨⟩, known, read⟩
    exact ⟨read, known⟩
  · rintro ⟨read, known⟩
    exact ⟨members, rfl, known, read⟩

end Schema

/-- A truth value is read as what it is. -/
theorem eq_of_flag {flag : Bool} {value : Value}
    (read : (Reader.bool (.bool flag)).map Value.bool = .ok value) : value = .bool flag := by
  cases read
  rfl

/-- So is a count, as long as it is high enough, -/
theorem eq_of_count (least : Nat) {count : Nat} {value : Value}
    (read : (countFrom least (.int count)).map (fun count : Nat => Value.int count) = .ok value) :
    value = .int count := by
  obtain ⟨other, counted, rfl⟩ := Checked.map_eq_ok.mp read
  have given : Reader.int (.int count) = .ok (count : Int) := rfl
  rw [countFrom, Reader.intWithin, given] at counted
  simp only [Checked.andThen] at counted
  split at counted
  · cases counted
  · split at counted
    · cases counted
    · cases counted
      rfl

/-- and a number, as long as it is positive. -/
theorem eq_of_seconds {seconds : Binary64} {value : Value}
    (read : (Reader.positiveFloat (.float seconds)).map Value.float = .ok value) :
    value = .float seconds := by
  obtain ⟨other, positive, rfl⟩ := Checked.map_eq_ok.mp read
  have given : Reader.float (.float seconds) = .ok seconds := rfl
  rw [Reader.positiveFloat, given] at positive
  simp only [Checked.andThen] at positive
  split at positive
  · split at positive
    · cases positive
      rfl
    · cases positive
  · cases positive
    rfl

namespace EngineSettings

def readAs (name : String) (value : Value) : Checked Value :=
  if name = "max_tasks_per_evaluation" then (countFrom 1 value).map fun count : Nat => .int count
  else if name = "default_due_offset_days" then (countFrom 0 value).map fun count : Nat => .int count
  else if name = "cache_ttl_seconds" then (Reader.positiveFloat value).map .float
  else (Reader.bool value).map .bool

variable {settings : EngineSettings} {given : List (String × Value)}

/-- Every setting that is given is what its value is read as. -/
theorem readAs_of_ofMembers (read : ofMembers given = .ok settings) {member : String × Value}
    (own : member ∈ settings.members) {value : Value}
    (found : given.lookup member.1 = some value) : readAs member.1 value = .ok member.2 := by
  rw [ofMembers] at read
  simp only [Checked.seq_eq_ok, Checked.map_eq_ok] at read
  obtain ⟨_, _, ⟨_, _, ⟨_, _, ⟨_, _, ⟨_, _, ⟨_, _, ⟨_, _, ⟨_, _, ⟨_, _,
    ⟨_, dates, rfl⟩, dependencies, rfl⟩, changes, rfl⟩, completion, rfl⟩, limit, rfl⟩, days, rfl⟩,
    keeps, rfl⟩, seconds, rfl⟩, debugging, rfl⟩, summarizes, rfl⟩ := read
  simp only [members, List.mem_cons, List.not_mem_nil, or_false] at own
  rcases own with rfl | rfl | rfl | rfl | rfl | rfl | rfl | rfl | rfl | rfl
  · simp [readAs, reader_of_withDefault dates found, Checked.map]
  · simp [readAs, reader_of_withDefault dependencies found, Checked.map]
  · simp [readAs, reader_of_withDefault changes found, Checked.map]
  · simp [readAs, reader_of_withDefault completion found, Checked.map]
  · simp [readAs, reader_of_withDefault limit found, Checked.map]
  · simp [readAs, reader_of_withDefault days found, Checked.map]
  · simp [readAs, reader_of_withDefault keeps found, Checked.map]
  · simp [readAs, reader_of_withDefault seconds found, Checked.map]
  · simp [readAs, reader_of_withDefault debugging found, Checked.map]
  · simp [readAs, reader_of_withDefault summarizes found, Checked.map]

/-- A setting is read as what it is. -/
theorem eq_of_readAs {member : String × Value} (own : member ∈ settings.members) {value : Value}
    (read : readAs member.1 member.2 = .ok value) : value = member.2 := by
  simp only [members, List.mem_cons, List.not_mem_nil, or_false] at own
  rcases own with rfl | rfl | rfl | rfl | rfl | rfl | rfl | rfl | rfl | rfl
  exacts [eq_of_flag read, eq_of_flag read, eq_of_flag read, eq_of_flag read, eq_of_count 1 read,
    eq_of_count 0 read, eq_of_flag read, eq_of_seconds read, eq_of_flag read, eq_of_flag read]

end EngineSettings

/-- Variables that hold no JSON give texts for settings of the section. -/
theorem Section.exists_fromVariables {α : Type} {part : Section α}
    (plain : ∀ setting ∈ part.settings, setting.inJson = false) (environment : Environment) :
    ∃ outside, part.fromVariables environment = .ok outside ∧
      ∀ member ∈ outside, member.1 ∈ part.settings.map (·.name) ∧ ∃ content, member.2 = .text content := by
  rw [fromVariables]
  refine Outcome.exists_foldlM (P := fun outside : List (String × Value) => ∀ member ∈ outside,
    member.1 ∈ part.settings.map (·.name) ∧ ∃ content, member.2 = .text content)
    (fun members texts setting listed => ?_) (fun _ inside => absurd inside List.not_mem_nil)
  cases environment.lowered.lookup (part.stem ++ setting.name) with
  | none => exact ⟨members, rfl, texts⟩
  | some content =>
    dsimp only
    rw [Setting.ofVariable, plain setting listed]
    refine ⟨members ++ [(setting.name, .text content)], rfl, fun member inside => ?_⟩
    rcases List.mem_append.mp inside with old | new
    · exact texts member old
    · obtain rfl := List.mem_singleton.mp new
      exact ⟨List.mem_map_of_mem listed, content, rfl⟩

namespace EngineSettings

def names : List String :=
  (members {}).map Prod.fst

theorem map_fst_members (settings : EngineSettings) : settings.members.map Prod.fst = names := by
  simp only [names, members, List.map_cons, List.map_nil]

theorem names_engineSection : engineSection.settings.map (·.name) = names := by
  rw [engineSection, names, List.map_map]
  rfl

theorem nodup_members (settings : EngineSettings) : (settings.members.map Prod.fst).Nodup := by
  simp [members]

variable {settings : EngineSettings} {given : List (String × Value)}

/-- Whether a member is a setting with a value that can be read. -/
def IsReadable (member : String × Value) : Prop :=
  member.1 ∈ names ∧ ∃ setting, readAs member.1 member.2 = .ok setting

/-- A setting can be read, or it is not given, by the reader of its values. -/
theorem exists_setting {α : Type} {name : String}
    (readable : ∀ value, given.lookup name = some value → IsReadable (name, value))
    (reader : Reader α) {toValue : α → Value}
    (own : ∀ value, readAs name value = (reader value).map toValue) (fallback : α) :
    ∃ result, (Key.plain name).withDefault fallback reader given = .ok result := by
  refine exists_withDefault fun value found => ?_
  obtain ⟨_, setting, read⟩ := readable value found
  rw [own] at read
  obtain ⟨result, same, _⟩ := Checked.map_eq_ok.mp read
  exact ⟨result, same⟩

/-- Members that can be read are settings. -/
theorem exists_ofMembers
    (readable : ∀ name value, given.lookup name = some value → IsReadable (name, value)) :
    ∃ settings, ofMembers given = .ok settings := by
  have flag (name : String) (own : ∀ value, readAs name value = (Reader.bool value).map .bool)
      (fallback : Bool) := exists_setting (readable name) Reader.bool own fallback
  obtain ⟨_, dates⟩ := flag "enable_smart_dates" (fun _ => rfl) true
  obtain ⟨_, dependencies⟩ := flag "enable_dependencies" (fun _ => rfl) true
  obtain ⟨_, changes⟩ := flag "enable_university_overrides" (fun _ => rfl) true
  obtain ⟨_, completion⟩ := flag "enable_auto_completion" (fun _ => rfl) true
  obtain ⟨_, limit⟩ := exists_setting (readable "max_tasks_per_evaluation") (countFrom 1) (fun _ => rfl) 50
  obtain ⟨_, days⟩ := exists_setting (readable "default_due_offset_days") (countFrom 0) (fun _ => rfl) 7
  obtain ⟨_, keeps⟩ := flag "cache_evaluation_results" (fun _ => rfl) true
  obtain ⟨_, seconds⟩ := exists_setting (readable "cache_ttl_seconds") Reader.positiveFloat (fun _ => rfl)
    (.ofDecimal false 300 0)
  obtain ⟨_, debugging⟩ := flag "debug_mode" (fun _ => rfl) false
  obtain ⟨_, summarizes⟩ := flag "performance_tracking" (fun _ => rfl) true
  rw [ofMembers]
  simp only [dates, dependencies, changes, completion, limit, days, keeps, seconds, debugging, summarizes]
  exact ⟨_, rfl⟩

/-- Where every setting is given, it does not matter what the environment holds. -/
theorem exists_members_read (environment : Environment) (once : (given.map Prod.fst).Nodup)
    (complete : ∀ name ∈ names, ∃ value, given.lookup name = some value) :
    ∃ members, (∀ name, members.lookup name = given.lookup name) ∧
      ∀ settings, engineSection.read environment given = .ok settings ↔
        ofMembers members = .ok settings ∧ ∀ name ∈ members.map Prod.fst, name ∈ names := by
  have plain : ∀ setting ∈ engineSection.settings, setting.inJson = false :=
    List.forall_mem_map.mpr fun _ _ => rfl
  obtain ⟨outside, gathered, texts⟩ := engineSection.exists_fromVariables plain environment
  refine ⟨Value.overlay outside given, fun name => ?_, fun settings => ?_⟩
  · have laid : (Value.overlay outside given).lookup name =
        (given.lookup name).or (outside.lookup name) :=
      Value.lookup_overlay once fun _ _ inner found => by
        obtain ⟨_, content, same⟩ := texts _ (Value.mem_of_lookup found)
        cases same
    rw [laid]
    cases own : given.lookup name with
    | some value => rfl
    | none =>
      cases beside : outside.lookup name with
      | none => rfl
      | some value =>
        obtain ⟨listed, _⟩ := texts _ (Value.mem_of_lookup beside)
        rw [names_engineSection] at listed
        obtain ⟨_, found⟩ := complete name listed
        cases own.symm.trans found
  · have keys : engineSection.keys = names.map Key.plain := by
      rw [← names_engineSection, List.map_map]
      rfl
    rw [Section.read, gathered, keys]
    exact Outcome.ofChecked_eq_ok.trans closedRecord_eq_ok_iff

section Changed

variable {old : EngineSettings} {changes : List (String × Value)}

theorem ne_map_of_mem_members {member : String × Value} (listed : member ∈ settings.members)
    (inner : List (String × Value)) : member.2 ≠ .map inner := by
  simp only [members, List.mem_cons, List.not_mem_nil, or_false] at listed
  rintro same
  rcases listed with rfl | rfl | rfl | rfl | rfl | rfl | rfl | rfl | rfl | rfl <;> cases same

theorem exists_lookup_members (settings : EngineSettings) {name : String} (listed : name ∈ names) :
    ∃ value, settings.members.lookup name = some value :=
  Value.exists_lookup (by rwa [map_fst_members])

/-- What is found among changes that are laid over settings. -/
theorem lookup_changed (once : (changes.map Prod.fst).Nodup) (name : String) :
    (Value.overlay old.members changes).lookup name =
      (changes.lookup name).or (old.members.lookup name) :=
  Value.lookup_overlay once fun _ _ inner found =>
    ne_map_of_mem_members (Value.mem_of_lookup found) inner rfl

theorem exists_lookup_changed (once : (changes.map Prod.fst).Nodup) {name : String}
    (listed : name ∈ names) : ∃ value, (Value.overlay old.members changes).lookup name = some value := by
  obtain ⟨value, found⟩ := old.exists_lookup_members listed
  rw [lookup_changed once, found]
  cases changes.lookup name with
  | none => exact ⟨value, rfl⟩
  | some change => exact ⟨change, rfl⟩

/-- Where settings are read with changes over old ones, every setting that is named is what its value is
read as, and every other one is the old one. -/
theorem changed_of_read {environment : Environment} (once : (changes.map Prod.fst).Nodup)
    (read : engineSection.read environment (Value.overlay old.members changes) = .ok settings) :
    (∀ change ∈ changes, ∃ setting, readAs change.1 change.2 = .ok setting ∧
      (change.1, setting) ∈ settings.members) ∧
    ∀ member ∈ settings.members, member.1 ∉ changes.map Prod.fst →
      member ∈ old.members ∧ IsReadable member := by
  obtain ⟨members, same, read_iff⟩ := exists_members_read environment
    (Value.nodup_overlay old.nodup_members changes) fun _ => exists_lookup_changed once
  obtain ⟨parts, known⟩ := (read_iff settings).mp read
  have given {member : String × Value} (own : member ∈ settings.members) {value : Value}
      (found : (changes.lookup member.1).or (old.members.lookup member.1) = some value) :
      readAs member.1 value = .ok member.2 :=
    readAs_of_ofMembers parts own (by rw [same, lookup_changed once, found])
  refine ⟨fun change listed => ?_, fun member own unnamed => ?_⟩
  · have found := Value.lookup_of_mem once listed
    have there : members.lookup change.1 = some change.2 := by
      rw [same, lookup_changed once, found]
      rfl
    have isSetting : change.1 ∈ settings.members.map Prod.fst := by
      rw [map_fst_members]
      exact known _ (List.mem_map_of_mem (Value.mem_of_lookup there))
    obtain ⟨member, own, sameName⟩ := List.mem_map.mp isSetting
    rw [← sameName] at found ⊢
    exact ⟨member.2, given own (by rw [found]; rfl), own⟩
  · have isSetting : member.1 ∈ names := by
      rw [← map_fst_members settings]
      exact List.mem_map_of_mem own
    obtain ⟨value, found⟩ := old.exists_lookup_members isSetting
    have read := given own (by rw [Value.lookup_eq_none unnamed, found]; rfl)
    have unchanged : member.2 = value := eq_of_readAs (Value.mem_of_lookup found) read
    rw [← unchanged] at found read
    exact ⟨Value.mem_of_lookup found, isSetting, _, read⟩

/-- Settings are read with changes over old ones exactly if every change is one of a setting, with a
value that can be read, and what stays of the old ones can be read again. -/
theorem exists_read_iff (environment : Environment) (once : (changes.map Prod.fst).Nodup) :
    (∃ settings, engineSection.read environment (Value.overlay old.members changes) = .ok settings) ↔
      (∀ change ∈ changes, IsReadable change) ∧
        ∀ member ∈ old.members, member.1 ∉ changes.map Prod.fst → IsReadable member := by
  constructor
  · rintro ⟨settings, read⟩
    obtain ⟨named, others⟩ := changed_of_read once read
    refine ⟨fun change listed => ?_, fun member own unnamed => ?_⟩
    · obtain ⟨setting, told, own⟩ := named change listed
      refine ⟨?_, setting, told⟩
      rw [← map_fst_members settings]
      exact List.mem_map.mpr ⟨_, own, rfl⟩
    · have isSetting : member.1 ∈ settings.members.map Prod.fst := by
        rw [map_fst_members, ← map_fst_members old]
        exact List.mem_map_of_mem own
      obtain ⟨kept, keptOwn, sameName⟩ := List.mem_map.mp isSetting
      obtain ⟨before, readable⟩ := others kept keptOwn (by rwa [sameName])
      have found := Value.lookup_of_mem old.nodup_members before
      rw [sameName, Value.lookup_of_mem old.nodup_members own] at found
      rwa [← Prod.ext sameName (Option.some.inj found).symm]
  · rintro ⟨named, others⟩
    obtain ⟨members, same, read_iff⟩ := exists_members_read environment
      (Value.nodup_overlay old.nodup_members changes) fun _ => exists_lookup_changed once
    have readable (name : String) (value : Value) (found : members.lookup name = some value) :
        IsReadable (name, value) := by
      rw [same, lookup_changed once] at found
      cases own : changes.lookup name with
      | some change =>
        rw [own] at found
        cases found
        exact named _ (Value.mem_of_lookup own)
      | none =>
        rw [own] at found
        refine others _ (Value.mem_of_lookup found) fun listed => ?_
        obtain ⟨_, isThere⟩ := Value.exists_lookup listed
        cases own.symm.trans isThere
    obtain ⟨settings, parts⟩ := exists_ofMembers readable
    refine ⟨settings, (read_iff settings).mpr ⟨parts, fun name listed => ?_⟩⟩
    obtain ⟨value, found⟩ := Value.exists_lookup listed
    exact (readable name value found).1

end Changed

end EngineSettings

end Obligations
