import Mathlib.Data.List.Forall2
import Mathlib.Data.List.Pairwise
import Obligations.Proofs.Schema.Reading

/-! # Two spellings

Every member of a record has a name on the wire and an internal one. Where a value is respelled, members go by
the one or the other, and what they hold may be respelled in turn. A reader comes to the same then, but for the
names in the paths of issues; these agree once they are told as on the wire.
-/

namespace Obligations.Schema

variable {α β γ : Type}

section Wire

variable (table : List Key)

def wireName (name : String) : String :=
  ((table.find? (·.internal == name)).map (·.wire)).getD name

/-- A step with its name as on the wire. -/
def Step.inWire : Step → Step
  | .member name => .member (wireName table name)
  | step => step

/-- An issue with the names in its path as on the wire. -/
def Issue.inWire (issue : Issue) : Issue :=
  { issue with path := issue.path.map (·.inWire table) }

namespace Checked

/-- A check with its issues as on the wire. -/
def inWire : Checked α → Checked α
  | .ok result => .ok result
  | .refused issues => .refused (issues.map (·.inWire table))

variable {table}

@[simp] theorem inWire_map (step : α → β) (checked : Checked α) :
    (step <$> checked).inWire table = step <$> checked.inWire table := by
  cases checked <;> rfl

@[simp] theorem inWire_both (join : α → β → γ) (first : Checked α) (second : Checked β) :
    (both join first second).inWire table = both join (first.inWire table) (second.inWire table) := by
  cases first <;> cases second <;> simp [both, inWire]

@[simp] theorem inWire_seq (step : Checked (α → β)) (checked : Checked α) :
    (step <*> checked).inWire table = step.inWire table <*> checked.inWire table :=
  inWire_both _ step checked

@[simp] theorem inWire_under (checked : Checked α) (step : Step) :
    (checked.under step).inWire table = (checked.inWire table).under (step.inWire table) := by
  cases checked with
  | ok result => rfl
  | refused issues => simp [under, inWire, Issue.under, Issue.inWire]

theorem inWire_andThen (checked : Checked α) (next : α → Checked β) :
    (checked.andThen next).inWire table = (checked.inWire table).andThen fun value => (next value).inWire table := by
  cases checked <;> rfl

end Checked

end Wire

/-- How values of a form are respelled. -/
structure Respelling where
  Relates : Value → Value → Prop
  isNull_eq : ∀ {value other}, Relates value other → value.isNull = other.isNull

def Key.goesBy (key : Key) (name : String) : Bool :=
  name == key.wire || name == key.internal

/-- Whether a record does not use both names of a key. -/
def Key.IsSpelledOnce (key : Key) (members : List (String × Value)) : Prop :=
  key.wire = key.internal ∨ members.lookup key.wire = none ∨ members.lookup key.internal = none

instance (key : Key) (members : List (String × Value)) : Decidable (key.IsSpelledOnce members) :=
  inferInstanceAs (Decidable (_ ∨ _ ∨ _))

/-- A member of a record, and how its content is respelled. -/
structure Part where
  key : Key
  content : Respelling

/-- Whether a member goes by another name of its key, with its content respelled. Members of no key stay. -/
inductive RespelledMember (parts : List Part) : String × Value → String × Value → Prop
  | part {part : Part} {name other : String} {value respelled : Value} (listed : part ∈ parts)
      (named : part.key.goesBy name = true) (namedToo : part.key.goesBy other = true)
      (content : part.content.Relates value respelled) :
      RespelledMember parts (name, value) (other, respelled)
  | foreign {member : String × Value} (unknown : ∀ part ∈ parts, part.key.goesBy member.1 = false) :
      RespelledMember parts member member

/-- Whether the members of a record are respelled one by one, and no key is used by both of its names. -/
structure RespelledMembers (parts : List Part) (members others : List (String × Value)) : Prop where
  each : List.Forall₂ (RespelledMember parts) members others
  once : ∀ part ∈ parts, part.key.IsSpelledOnce members
  onceToo : ∀ part ∈ parts, part.key.IsSpelledOnce others

namespace Respelling

/-- Values that stay as they are. -/
def none : Respelling :=
  ⟨Eq, congrArg Value.isNull⟩

def listOf (each : Respelling) : Respelling where
  Relates value other := value = other ∨
    ∃ items others, value = .list items ∧ other = .list others ∧ List.Forall₂ each.Relates items others
  isNull_eq := by
    rintro _ _ (rfl | ⟨items, others, rfl, rfl, -⟩) <;> rfl

/-- Maps with keys of their own, which stay, entry by entry. -/
def entriesOf (each : Respelling) : Respelling where
  Relates value other := value = other ∨
    ∃ entries others, value = .map entries ∧ other = .map others ∧
      List.Forall₂ (fun entry other => entry.1 = other.1 ∧ each.Relates entry.2 other.2) entries others
  isNull_eq := by
    rintro _ _ (rfl | ⟨entries, others, rfl, rfl, -⟩) <;> rfl

def record (parts : List Part) : Respelling where
  Relates value other := value = other ∨
    ∃ members others, value = .map members ∧ other = .map others ∧ RespelledMembers parts members others
  isNull_eq := by
    rintro _ _ (rfl | ⟨members, others, rfl, rfl, -⟩) <;> rfl

end Respelling

/-- A member whose content stays as it is. -/
def Key.part (key : Key) : Part :=
  ⟨key, .none⟩

namespace Key

/-- Whether two keys have no name in common. -/
def IsApart (key other : Key) : Prop :=
  ∀ name, key.goesBy name = true → other.goesBy name = false

theorem isApart_iff {key other : Key} :
    key.IsApart other ↔ other.goesBy key.wire = false ∧ other.goesBy key.internal = false := by
  simp [IsApart, goesBy]

instance (key other : Key) : Decidable (key.IsApart other) :=
  decidable_of_iff _ isApart_iff.symm

instance : Std.Symm IsApart where
  symm key other apart name named := by
    by_contra both
    simp [apart name (by simpa using both)] at named

end Key

/-- Whether keys have no names in common, and a table knows how each is named on the wire. -/
def Suits (table keys : List Key) : Prop :=
  keys.Pairwise Key.IsApart ∧ ∀ key ∈ keys, wireName table key.internal = wireName table key.wire

instance (table keys : List Key) : Decidable (Suits table keys) :=
  inferInstanceAs (Decidable (_ ∧ _))

section Members

variable {table : List Key} {key : Key} {parts : List Part} {part : Part} {name : String}
  {members others : List (String × Value)}

theorem goesBy_iff : key.goesBy name = true ↔ name = key.wire ∨ name = key.internal := by
  simp [Key.goesBy]

/-- A key finds the first member that goes by one of its names. -/
theorem Key.find?_eq (once : key.IsSpelledOnce members) :
    key.find? members = members.find? fun member => key.goesBy member.1 := by
  induction members with
  | nil => rfl
  | cons member rest ih =>
    obtain ⟨name, value⟩ := member
    rw [IsSpelledOnce, List.lookup_cons, List.lookup_cons] at once
    rw [find?, List.lookup_cons, List.lookup_cons, List.find?_cons]
    by_cases wire : name = key.wire
    · simp [goesBy, wire]
    have first : (key.wire == name) = false := beq_false_of_ne (Ne.symm wire)
    by_cases internal : name = key.internal
    · subst internal
      have gone : rest.lookup key.wire = none := by simpa only [first, Ne.symm wire, BEq.rfl, reduceCtorEq,
        or_false, false_or] using once
      simp [goesBy, first, gone]
    · have second : (key.internal == name) = false := beq_false_of_ne (Ne.symm internal)
      have absent : key.goesBy name = false := by simp [goesBy, wire, internal]
      rw [first, second] at once
      simp only [first, second, absent]
      exact ih once

/-- Two parts of a record have no name in common. -/
theorem Suits.eq_of_goesBy (suits : Suits table (parts.map (·.key))) {other : Part} (listed : part ∈ parts)
    (listedToo : other ∈ parts) (named : part.key.goesBy name = true) (namedToo : other.key.goesBy name = true) :
    part = other := by
  by_contra different
  have pairwise : parts.Pairwise fun one two => one.key.IsApart two.key := List.pairwise_map.mp suits.1
  have : Std.Symm fun one two : Part => one.key.IsApart two.key := ⟨fun _ _ apart => Std.Symm.symm _ _ apart⟩
  have apart : part.key.IsApart other.key := pairwise.forall listed listedToo different
  simp [apart name named] at namedToo

namespace RespelledMembers

theorem goesBy_eq (suits : Suits table (parts.map (·.key))) (listed : part ∈ parts)
    {member other : String × Value} (respelled : RespelledMember parts member other) :
    part.key.goesBy member.1 = part.key.goesBy other.1 := by
  cases respelled with
  | foreign => rfl
  | part listedToo named namedToo =>
    rw [Bool.eq_iff_iff]
    constructor
    · intro own
      exact suits.eq_of_goesBy listed listedToo own named ▸ namedToo
    · intro own
      exact suits.eq_of_goesBy listed listedToo own namedToo ▸ named

/-- What a key finds goes by one of its names on both sides, with its content respelled, if it finds anything. -/
theorem find?_cases (respelled : RespelledMembers parts members others)
    (suits : Suits table (parts.map (·.key))) (listed : part ∈ parts) :
    (part.key.find? members = none ∧ part.key.find? others = none) ∨
      ∃ name other value content, part.key.find? members = some (name, value) ∧
        part.key.find? others = some (other, content) ∧ part.key.goesBy name = true ∧
        part.key.goesBy other = true ∧ part.content.Relates value content := by
  rw [Key.find?_eq (respelled.once part listed), Key.find?_eq (respelled.onceToo part listed)]
  have each := respelled.each
  clear respelled
  induction each with
  | nil => exact Or.inl ⟨rfl, rfl⟩
  | @cons member other _ _ first _ ih =>
    rw [List.find?_cons, List.find?_cons, ← goesBy_eq suits listed first]
    cases own : part.key.goesBy member.1 with
    | false => exact ih
    | true =>
      cases first with
      | foreign unknown => simp [unknown part listed] at own
      | part listedToo named namedToo content =>
        obtain rfl := suits.eq_of_goesBy listed listedToo own named
        exact Or.inr ⟨_, _, _, _, rfl, rfl, named, namedToo, content⟩

/-- A member with one name only is there on both sides, with its content respelled, or on neither. -/
theorem lookup_cases {content : Respelling} (respelled : RespelledMembers parts members others)
    (suits : Suits table (parts.map (·.key))) (listed : ⟨.plain name, content⟩ ∈ parts) :
    (members.lookup name = none ∧ others.lookup name = none) ∨
      ∃ value other, members.lookup name = some value ∧ others.lookup name = some other ∧
        content.Relates value other := by
  have cases := respelled.find?_cases suits listed
  simp only [Key.find?_plain, Option.map_eq_none_iff] at cases
  rcases cases with none | ⟨_, _, value, other, found, foundToo, -, -, relates⟩
  · exact Or.inl none
  · obtain ⟨_, looked, ⟨⟩⟩ := Option.map_eq_some_iff.mp found
    obtain ⟨_, lookedToo, ⟨⟩⟩ := Option.map_eq_some_iff.mp foundToo
    exact Or.inr ⟨value, other, looked, lookedToo, relates⟩

/-- A name of no key is looked up to the same. -/
theorem lookup_eq (respelled : RespelledMembers parts members others)
    (unknown : ∀ part ∈ parts, part.key.goesBy name = false) : members.lookup name = others.lookup name := by
  have each := respelled.each
  clear respelled
  induction each with
  | nil => rfl
  | cons first _ ih =>
    cases first with
    | foreign => rw [List.lookup_cons, List.lookup_cons, ih]
    | @part part used usedToo _ _ listed named namedToo =>
      have apart : ∀ other, part.key.goesBy other = true → (name == other) = false := by
        intro other goes
        refine beq_false_of_ne ?_
        rintro rfl
        simp [unknown part listed] at goes
      rw [List.lookup_cons, List.lookup_cons, apart used named, apart usedToo namedToo]
      exact ih

end RespelledMembers

/-- All members of a key go by the same name. -/
theorem Key.IsSpelledOnce.eq_of_mem (once : key.IsSpelledOnce members) {member other : String × Value}
    (listed : member ∈ members) (listedToo : other ∈ members) (named : key.goesBy member.1 = true)
    (namedToo : key.goesBy other.1 = true) : member.1 = other.1 := by
  have looked : ∀ found ∈ members, members.lookup found.1 ≠ none := fun found there none =>
    absurd (List.lookup_eq_none_iff.mp none found there) (by simp)
  rcases once with same | noWire | noInternal
  · rw [goesBy_iff, same, or_self] at named namedToo
    rw [named, namedToo]
  · have internal : ∀ found ∈ members, key.goesBy found.1 = true → found.1 = key.internal :=
      fun found there goes => (goesBy_iff.mp goes).resolve_left fun wire => looked found there (wire ▸ noWire)
    rw [internal member listed named, internal other listedToo namedToo]
  · have wire : ∀ found ∈ members, key.goesBy found.1 = true → found.1 = key.wire :=
      fun found there goes =>
        (goesBy_iff.mp goes).resolve_right fun internal => looked found there (internal ▸ noInternal)
    rw [wire member listed named, wire other listedToo namedToo]

/-- The members that no key is used for are those that go by the name of none. -/
theorem unknownMembers_eq {keys : List Key} (once : ∀ key ∈ keys, key.IsSpelledOnce members) :
    unknownMembers keys members =
      (members.filter fun member => !keys.any (·.goesBy member.1)).map fun member =>
        ⟨[.member member.1], .unknownMember⟩ := by
  rw [unknownMembers]
  congr 1
  refine List.filter_congr fun member there => ?_
  congr 1
  rw [Bool.eq_iff_iff, List.contains_iff_mem, List.any_eq_true, List.mem_filterMap]
  refine exists_congr fun key => and_congr_right fun listed => ?_
  rw [Key.find?_eq (once key listed)]
  constructor
  · intro used
    obtain ⟨found, first, same⟩ := Option.map_eq_some_iff.mp used
    exact same ▸ List.find?_some (p := fun member : String × Value => key.goesBy member.1) first
  · intro named
    have some : (members.find? fun member => key.goesBy member.1).isSome :=
      List.find?_isSome.mpr ⟨member, there, named⟩
    obtain ⟨found, first⟩ := Option.isSome_iff_exists.mp some
    have goes := List.find?_some (p := fun member : String × Value => key.goesBy member.1) first
    rw [first, Option.map_some, (once key listed).eq_of_mem (List.mem_of_find?_eq_some first) there goes named]

namespace RespelledMembers

/-- Members of no key are the same on both sides. -/
theorem unknownMembers_eq (respelled : RespelledMembers parts members others) :
    unknownMembers (parts.map (·.key)) members = unknownMembers (parts.map (·.key)) others := by
  have once : ∀ {given}, (∀ part ∈ parts, part.key.IsSpelledOnce given) →
      ∀ key ∈ parts.map (·.key), key.IsSpelledOnce given :=
    fun all => List.forall_mem_map.mpr all
  rw [Schema.unknownMembers_eq (once respelled.once), Schema.unknownMembers_eq (once respelled.onceToo)]
  congr 1
  have each := respelled.each
  clear respelled
  induction each with
  | nil => rfl
  | cons first _ ih =>
    cases first with
    | foreign => rw [List.filter_cons, List.filter_cons, ih]
    | part listed named namedToo =>
      have known : ∀ {name}, (∃ part ∈ parts, part.key.goesBy name = true) →
          (parts.map (·.key)).any (·.goesBy name) = true :=
        fun goes => by simpa using goes
      rw [List.filter_cons_of_neg (by simp [known ⟨_, listed, named⟩]),
        List.filter_cons_of_neg (by simp [known ⟨_, listed, namedToo⟩]), ih]

end RespelledMembers

end Members

/-- Whether a reader comes to the same for values that are respelled. -/
def Reader.Respects (table : List Key) (reader : Reader α) (respelling : Respelling) : Prop :=
  ∀ ⦃value other⦄, respelling.Relates value other →
    (reader value).inWire table = (reader other).inWire table

section Readers

variable {table : List Key} {reader : Reader α} {respelling : Respelling}

namespace Reader

theorem respects_none : reader.Respects table .none := by
  rintro value _ rfl
  rfl

theorem Respects.optional (respects : reader.Respects table respelling) :
    (Reader.optional reader).Respects table respelling := by
  intro value other relates
  have null := respelling.isNull_eq relates
  cases given : value.isNull with
  | true => rw [optional_of_isNull given, optional_of_isNull (null ▸ given)]
  | false =>
    rw [optional_of_solid given, optional_of_solid (null ▸ given), Checked.inWire_map, Checked.inWire_map,
      respects relates]

theorem Respects.items (respects : reader.Respects table respelling) {values others : List Value}
    (each : List.Forall₂ respelling.Relates values others) (index : Nat) :
    (Reader.items reader index values).inWire table = (Reader.items reader index others).inWire table := by
  induction each generalizing index with
  | nil => rfl
  | cons first _ ih => simp only [Reader.items, Checked.inWire_both, Checked.inWire_under, respects first, ih]

theorem Respects.listOf (respects : reader.Respects table respelling) :
    (Reader.listOf reader).Respects table respelling.listOf := by
  rintro value other (rfl | ⟨values, others, rfl, rfl, each⟩)
  · rfl
  · exact respects.items each 0

theorem Respects.mapOf (respects : reader.Respects table respelling) :
    (Reader.mapOf reader).Respects table respelling.entriesOf := by
  rintro value other (rfl | ⟨entries, others, rfl, rfl, each⟩)
  · rfl
  show (Reader.entries reader entries).inWire table = (Reader.entries reader others).inWire table
  induction each with
  | nil => rfl
  | @cons entry other _ _ first _ ih =>
    obtain ⟨name, value⟩ := entry
    obtain ⟨_, value⟩ := other
    obtain ⟨rfl, relates⟩ := first
    simp only [Reader.entries, Checked.inWire_both, Checked.inWire_under, respects relates, ih]

variable {parts : List Part} {read : List (String × Value) → Checked α}

theorem respects_record (each : ∀ {members others}, RespelledMembers parts members others →
    (read members).inWire table = (read others).inWire table) :
    (record read).Respects table (.record parts) := by
  rintro value other (rfl | ⟨members, others, rfl, rfl, respelled⟩)
  · rfl
  · exact each respelled

theorem respects_closedRecord (each : ∀ {members others}, RespelledMembers parts members others →
    (read members).inWire table = (read others).inWire table) :
    (closedRecord (parts.map (·.key)) read).Respects table (.record parts) := by
  rintro value other (rfl | ⟨members, others, rfl, rfl, respelled⟩)
  · rfl
  rw [closedRecord, closedRecord, respelled.unknownMembers_eq]
  split
  · exact each respelled
  · rw [Checked.inWire_both, Checked.inWire_both, each respelled]

end Reader

namespace RespelledMembers

variable {key : Key} {parts : List Part} {members others : List (String × Value)} {fallback : α}

theorem wireName_eq (suits : Suits table (parts.map (·.key))) (listed : ⟨key, respelling⟩ ∈ parts) {name : String}
    (named : key.goesBy name = true) : wireName table name = wireName table key.wire := by
  rcases goesBy_iff.mp named with rfl | rfl
  · rfl
  · exact suits.2 key (List.mem_map_of_mem (f := Part.key) listed)

theorem under_eq (suits : Suits table (parts.map (·.key))) (listed : ⟨key, respelling⟩ ∈ parts)
    (respects : reader.Respects table respelling) {name other : String} {value content : Value}
    (named : key.goesBy name = true) (namedToo : key.goesBy other = true)
    (relates : respelling.Relates value content) :
    ((reader value).under (.member name)).inWire table = ((reader content).under (.member other)).inWire table := by
  simp only [Checked.inWire_under, respects relates, Step.inWire, wireName_eq suits listed named,
    wireName_eq suits listed namedToo]

theorem required (respelled : RespelledMembers parts members others) (suits : Suits table (parts.map (·.key)))
    (listed : ⟨key, respelling⟩ ∈ parts) (respects : reader.Respects table respelling) :
    (key.required reader members).inWire table = (key.required reader others).inWire table := by
  rw [Key.required, Key.required]
  rcases respelled.find?_cases suits listed with ⟨none, noneToo⟩ |
    ⟨name, other, value, content, found, foundToo, named, namedToo, relates⟩
  · rw [none, noneToo]
  · rw [found, foundToo]
    exact under_eq suits listed respects named namedToo relates

theorem withDefault (respelled : RespelledMembers parts members others)
    (suits : Suits table (parts.map (·.key))) (listed : ⟨key, respelling⟩ ∈ parts)
    (respects : reader.Respects table respelling) :
    (key.withDefault fallback reader members).inWire table =
      (key.withDefault fallback reader others).inWire table := by
  rw [Key.withDefault, Key.withDefault]
  rcases respelled.find?_cases suits listed with ⟨none, noneToo⟩ |
    ⟨name, other, value, content, found, foundToo, named, namedToo, relates⟩
  · rw [none, noneToo]
  · rw [found, foundToo]
    exact under_eq suits listed respects named namedToo relates

theorem optional (respelled : RespelledMembers parts members others) (suits : Suits table (parts.map (·.key)))
    (listed : ⟨key, respelling⟩ ∈ parts) (respects : reader.Respects table respelling) :
    (key.optional reader members).inWire table = (key.optional reader others).inWire table :=
  respelled.withDefault suits listed respects.optional

/-- A member whose content stays is read to the same, whatever reads it. -/
theorem required_part (respelled : RespelledMembers parts members others)
    (suits : Suits table (parts.map (·.key))) (listed : key.part ∈ parts) :
    (key.required reader members).inWire table = (key.required reader others).inWire table :=
  respelled.required suits listed Reader.respects_none

theorem withDefault_part (respelled : RespelledMembers parts members others)
    (suits : Suits table (parts.map (·.key))) (listed : key.part ∈ parts) :
    (key.withDefault fallback reader members).inWire table =
      (key.withDefault fallback reader others).inWire table :=
  respelled.withDefault suits listed Reader.respects_none

theorem optional_part (respelled : RespelledMembers parts members others)
    (suits : Suits table (parts.map (·.key))) (listed : key.part ∈ parts) :
    (key.optional reader members).inWire table = (key.optional reader others).inWire table :=
  respelled.optional suits listed Reader.respects_none

end RespelledMembers

end Readers

end Obligations.Schema
