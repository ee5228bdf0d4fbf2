import Obligations.Engine.Judging
import Obligations.Proofs.Outcome
import Obligations.Proofs.Rule.Distinct
import Obligations.Wording.Rendering
import Mathlib.Data.List.TakeWhile

/-! # Filling in as a substitution

A text is laid out in its placeholders and what stands between them, in which no further placeholder starts. Filling it
in leaves what stands between the placeholders alone, and puts in the place of each one what it is filled in with by
itself. What is put in is never looked at again.
-/

namespace Obligations.Wording

open Obligations.Calendar

/-- A text laid out: what stands before the first placeholder, and each placeholder with what stands behind it. -/
structure Layout where
  start : String
  parts : List (String × String)

/-- Whether a placeholder has been begun by an opening brace that stands before a text: the next closing brace is not
the first thing there. -/
def Opens (chars : List Char) : Prop :=
  ∃ inside rest, chars = inside ++ '\x7d' :: rest ∧ inside ≠ [] ∧ '\x7d' ∉ inside

/-- Whether what stands behind the opening braces of a text is of a kind, for all of them. -/
def BehindBraces (kind : List Char → Prop) (chars : List Char) : Prop :=
  ∀ front rest, chars = front ++ '\x7b' :: rest → kind rest

/-- Whether no placeholder starts in a text that stands before another one. -/
def IsPlainBefore (behind chars : List Char) : Prop :=
  BehindBraces (fun rest => ¬ Opens (rest ++ behind)) chars

/-- Whether every opening brace is followed by a closing one. -/
def ClosesBraces (chars : List Char) : Prop :=
  BehindBraces (fun rest => '\x7d' ∈ rest) chars

namespace BehindBraces

variable {kind : List Char → Prop} {chars : List Char}

theorem nil : BehindBraces kind [] :=
  fun front rest split => by simp at split

theorem cons_iff {c : Char} :
    BehindBraces kind (c :: chars) ↔ (c = '\x7b' → kind chars) ∧ BehindBraces kind chars := by
  constructor
  · refine fun all => ⟨fun brace => all [] chars (by rw [brace, List.nil_append]), fun front rest split => ?_⟩
    exact all (c :: front) rest (by rw [split, List.cons_append])
  · rintro ⟨first, others⟩ (_ | ⟨other, front⟩) rest split
    · obtain ⟨brace, rfl⟩ := List.cons.inj split
      exact first brace
    · exact others front rest (List.cons.inj split).2

theorem of_append (front : List Char) (all : BehindBraces kind (front ++ chars)) : BehindBraces kind chars :=
  fun other rest split => all (front ++ other) rest (by rw [split, List.append_assoc])

instance decidable [DecidablePred kind] : (chars : List Char) → Decidable (BehindBraces kind chars)
  | [] => .isTrue nil
  | _ :: chars =>
    have : Decidable (BehindBraces kind chars) := decidable chars
    decidable_of_iff _ cons_iff.symm

end BehindBraces

instance (chars : List Char) : Decidable (ClosesBraces chars) :=
  inferInstanceAs (Decidable (BehindBraces _ chars))

namespace Layout

/-- The placeholders of a layout, in their order. -/
def asks (layout : Layout) : List String :=
  layout.parts.map (·.1)

/-- The text of parts, with something in the place of each placeholder. -/
def textOf (insert : String → String) : List (String × String) → String
  | [] => ""
  | (name, behind) :: rest => insert name ++ behind ++ textOf insert rest

/-- The text of a layout, with something in the place of each placeholder. -/
def text (insert : String → String) (layout : Layout) : String :=
  layout.start ++ textOf insert layout.parts

/-- The text of parts, with an answer in the place of each placeholder, as long as each has one. -/
def answeredParts (answer : String → Outcome String) : List (String × String) → Outcome String
  | [] => .ok ""
  | (name, behind) :: rest => do
    let inserted ← answer name
    return inserted ++ behind ++ (← answeredParts answer rest)

/-- The text of a layout, with an answer in the place of each placeholder, as long as each has one. -/
def answered (answer : String → Outcome String) (layout : Layout) : Outcome String := do
  return layout.start ++ (← answeredParts answer layout.parts)

/-- Whether parts are as they are laid out: each placeholder is something in braces, and no other one starts in what
stands behind it. -/
def AreParts : List (String × String) → Prop
  | [] => True
  | (name, behind) :: rest =>
    name.toList ≠ [] ∧ '\x7d' ∉ name.toList ∧ IsPlainBefore (textOf note rest).toList behind.toList ∧ AreParts rest

/-- Whether a text is laid out in this way. -/
structure IsOf (layout : Layout) (content : String) : Prop where
  written : layout.text note = content
  start : IsPlainBefore (textOf note layout.parts).toList layout.start.toList
  parts : AreParts layout.parts

end Layout

section Scanning

variable {chars inside rest behind : List Char}

theorem forall_isInside : (∀ c ∈ chars, isInside c = true) ↔ '\x7d' ∉ chars := by
  simp only [isInside, bne_iff_ne]
  exact ⟨fun all listed => all _ listed rfl, fun absent c listed same => absent (same ▸ listed)⟩

/-- The inside of a placeholder reaches to the first closing brace and is not empty. -/
theorem takeInside?_eq_some_iff :
    takeInside? chars = some (inside, rest) ↔ chars = inside ++ '\x7d' :: rest ∧ inside ≠ [] ∧ '\x7d' ∉ inside := by
  constructor
  · intro taken
    rw [takeInside?] at taken
    split at taken
    next first front last tail kept dropped =>
      cases taken
      have closing : isInside last = false := by
        have stopped := List.head?_dropWhile_not isInside chars
        rwa [dropped] at stopped
      obtain rfl : last = '\x7d' := by simpa [isInside] using closing
      have whole := List.takeWhile_append_dropWhile (p := isInside) (l := chars)
      rw [kept, dropped] at whole
      refine ⟨whole.symm, List.cons_ne_nil _ _, forall_isInside.mp fun c listed => ?_⟩
      exact List.mem_takeWhile_imp (kept ▸ listed)
    next => cases taken
  · rintro ⟨rfl, some, without⟩
    have all := forall_isInside.mpr without
    obtain ⟨first, front, rfl⟩ := List.exists_cons_of_ne_nil some
    rw [takeInside?, List.takeWhile_append_of_pos all, List.dropWhile_append_of_pos all]
    simp [isInside]

theorem takeInside?_eq_none_iff : takeInside? chars = none ↔ ¬ Opens chars := by
  rw [Option.eq_none_iff_forall_ne_some, Opens]
  simp only [ne_eq, Prod.forall, takeInside?_eq_some_iff, not_exists]

theorem segments_placeholder (some : inside ≠ []) (without : '\x7d' ∉ inside) :
    segments ('\x7b' :: (inside ++ '\x7d' :: rest)) = .placeholder inside :: segments rest := by
  have taken : takeInside? (inside ++ '\x7d' :: rest) = .some (inside, rest) :=
    takeInside?_eq_some_iff.mpr ⟨rfl, some, without⟩
  rw [segments, if_pos rfl]
  split
  next own after found =>
    cases taken.symm.trans found
    rfl
  next none => cases taken.symm.trans none

theorem segments_plain_cons {c : Char} (plain : c = '\x7b' → ¬ Opens rest) :
    segments (c :: rest) = .plain c :: segments rest := by
  rw [segments]
  split
  next brace =>
    have none := takeInside?_eq_none_iff.mpr (plain brace)
    split
    next found => cases none.symm.trans found
    next => rfl
  next => rfl

/-- Where no placeholder starts, there are plain characters. -/
theorem segments_append_of_isPlainBefore (plain : IsPlainBefore behind chars) :
    segments (chars ++ behind) = chars.map .plain ++ segments behind := by
  induction chars with
  | nil => rfl
  | cons c rest ih =>
    obtain ⟨first, others⟩ := BehindBraces.cons_iff.mp plain
    rw [List.cons_append, segments_plain_cons first, ih others, List.map_cons, List.cons_append]

end Scanning

namespace Layout

theorem toList_note (name : String) : (note name).toList = '\x7b' :: (name.toList ++ ['\x7d']) := by
  simp [note, String.toList_append]

theorem toList_textOf_cons (name behind : String) (rest : List (String × String)) :
    (textOf note ((name, behind) :: rest)).toList =
      '\x7b' :: (name.toList ++ '\x7d' :: (behind.toList ++ (textOf note rest).toList)) := by
  simp [textOf, String.toList_append, toList_note]

theorem IsOf.toList_eq {layout : Layout} {content : String} (isOf : layout.IsOf content) :
    content.toList = layout.start.toList ++ (textOf note layout.parts).toList := by
  rw [← isOf.written, text, String.toList_append]

theorem IsOf.of_toList {layout : Layout} {content : String}
    (written : layout.start.toList ++ (textOf note layout.parts).toList = content.toList)
    (start : IsPlainBefore (textOf note layout.parts).toList layout.start.toList) (parts : AreParts layout.parts) :
    layout.IsOf content where
  written := String.toList_inj.mp (by rw [← written, text, String.toList_append])
  start := start
  parts := parts

/-- A text laid out with one more character in front of it that starts no placeholder. -/
theorem IsOf.exists_cons {layout : Layout} {c : Char} {rest : List Char} (isOf : layout.IsOf (String.ofList rest))
    (plain : c = '\x7b' → ¬ Opens rest) : ∃ layout : Layout, layout.IsOf (String.ofList (c :: rest)) := by
  have whole := isOf.toList_eq
  rw [String.toList_ofList] at whole
  refine ⟨⟨String.ofList (c :: layout.start.toList), layout.parts⟩, .of_toList ?_ ?_ isOf.parts⟩
  · simp [whole]
  · rw [String.toList_ofList]
    exact BehindBraces.cons_iff.mpr ⟨whole ▸ plain, isOf.start⟩

/-- Every text can be laid out. -/
theorem exists_isOf (content : String) : ∃ layout : Layout, layout.IsOf content := by
  -- the scan of a text: what stands before the first placeholder of the rest comes behind the one just read
  have scanned : ∀ chars, ∃ layout : Layout, layout.IsOf (String.ofList chars) := by
    intro chars
    induction chars using segments.induct with
    | case1 => exact ⟨⟨"", []⟩, rfl, BehindBraces.nil, trivial⟩
    | case2 rest inside after taken _ ih =>
      obtain ⟨layout, isOf⟩ := ih
      obtain ⟨rfl, some, without⟩ := takeInside?_eq_some_iff.mp taken
      refine ⟨⟨"", (String.ofList inside, layout.start) :: layout.parts⟩, .of_toList ?_ ?_ ?_⟩
      · rw [toList_textOf_cons, ← isOf.toList_eq]
        simp
      · exact BehindBraces.nil
      · exact ⟨by simpa using some, by simpa using without, isOf.start, isOf.parts⟩
    | case3 rest none ih =>
      obtain ⟨layout, isOf⟩ := ih
      exact isOf.exists_cons fun _ => takeInside?_eq_none_iff.mp none
    | case4 c rest plain ih =>
      obtain ⟨layout, isOf⟩ := ih
      exact isOf.exists_cons fun brace => absurd brace plain
  have laid := scanned content.toList
  rwa [String.ofList_toList] at laid

/-- The segments of parts are each placeholder with the plain characters behind it. -/
theorem segments_textOf {parts : List (String × String)} (proper : AreParts parts) :
    segments (textOf note parts).toList =
      parts.flatMap fun (name, behind) => .placeholder name.toList :: behind.toList.map .plain := by
  induction parts with
  | nil => simp [textOf, segments]
  | cons part rest ih =>
    obtain ⟨name, behind⟩ := part
    obtain ⟨some, without, plain, others⟩ := proper
    rw [toList_textOf_cons, segments_placeholder some without, segments_append_of_isPlainBefore plain, ih others,
      List.flatMap_cons, List.cons_append]

theorem IsOf.segments_eq {layout : Layout} {content : String} (isOf : layout.IsOf content) :
    segments content.toList = layout.start.toList.map .plain ++
      layout.parts.flatMap fun (name, behind) => .placeholder name.toList :: behind.toList.map .plain := by
  rw [isOf.toList_eq, segments_append_of_isPlainBefore isOf.start, segments_textOf isOf.parts]

/-- The placeholders of a text are those that it is laid out in. -/
theorem IsOf.asks_eq {layout : Layout} {content : String} (isOf : layout.IsOf content) :
    layout.asks = placeholders content := by
  have none (chars : List Char) :
      (chars.map Segment.plain).filterMap (fun segment => segment.inside?.map String.ofList) = [] := by
    simp [Segment.inside?]
  rw [placeholders, isOf.segments_eq, List.filterMap_append, none, List.nil_append, asks]
  induction layout.parts with
  | nil => rfl
  | cons part rest ih =>
    rw [List.map_cons, List.flatMap_cons, List.filterMap_append, ih, List.filterMap_cons, none]
    simp [Segment.inside?]

/-- Plain characters are filled in as they are. -/
theorem join_fill_plain (values : Value) (content : String) :
    String.join ((content.toList.map Segment.plain).map (·.fill values)) = content := by
  rw [← String.toList_inj, String.toList_join, List.map_map, List.flatMap_map]
  simp [Segment.fill]

/-- A text is filled in with what is between its placeholders as it is. -/
theorem IsOf.fillIn_eq {layout : Layout} {content : String} (isOf : layout.IsOf content) (values : Value) :
    fillIn values content = layout.text fun name => (Request.ofInside name.toList).fill values := by
  rw [fillIn, isOf.segments_eq, List.map_append, String.join_append, join_fill_plain, text]
  congr 1
  induction layout.parts with
  | nil => rfl
  | cons part rest ih =>
    rw [List.flatMap_cons, List.map_append, String.join_append, ih, textOf, List.map_cons, String.join_cons,
      join_fill_plain]
    rfl

/-- A placeholder is a text that is laid out in itself. -/
theorem isOf_note {name : String} (some : name.toList ≠ []) (without : '\x7d' ∉ name.toList) :
    (⟨"", [(name, "")]⟩ : Layout).IsOf (note name) where
  written := by simp [text, textOf]
  start := BehindBraces.nil
  parts := ⟨some, without, BehindBraces.nil, trivial⟩

theorem AreParts.of_mem {parts : List (String × String)} (proper : AreParts parts) {name : String}
    (listed : name ∈ parts.map (·.1)) : name.toList ≠ [] ∧ '\x7d' ∉ name.toList := by
  induction parts with
  | nil => cases listed
  | cons part rest ih =>
    obtain ⟨some, without, -, others⟩ := proper
    rcases List.mem_cons.mp listed with rfl | later
    · exact ⟨some, without⟩
    · exact ih others later

theorem answeredParts_eq_ok {answer : String → Outcome String} {insert : String → String}
    {parts : List (String × String)} (each : ∀ name ∈ parts.map (·.1), answer name = .ok (insert name)) :
    answeredParts answer parts = .ok (textOf insert parts) := by
  induction parts with
  | nil => rfl
  | cons part rest ih =>
    obtain ⟨first, others⟩ := List.forall_mem_cons.mp each
    rw [answeredParts, first, ih others]
    rfl

/-- Where every placeholder has an answer, so has the whole. -/
theorem answered_eq_ok {layout : Layout} {answer : String → Outcome String} {insert : String → String}
    (each : ∀ name ∈ layout.asks, answer name = .ok (insert name)) :
    layout.answered answer = .ok (layout.text insert) := by
  rw [answered, answeredParts_eq_ok each]
  rfl

end Layout

section Rendering

variable {context : Context} {today : Date} {values : List (String × Value)}

theorem render_of_vocabulary (built : vocabulary context today = .ok values) (content : String) :
    render content context today = .ok (fillIn (.map values) content) := by
  rw [render]
  split
  next empty =>
    rw [String.isEmpty_iff.mp empty]
    simp [fillIn, segments]
  next => rw [built]

/-- A placeholder by itself is filled in with what it asks for. -/
theorem render_note (built : vocabulary context today = .ok values) {name : String} (some : name.toList ≠ [])
    (without : '\x7d' ∉ name.toList) :
    render (note name) context today = .ok ((Request.ofInside name.toList).fill (.map values)) := by
  rw [render_of_vocabulary built, (Layout.isOf_note some without).fillIn_eq]
  simp [Layout.text, Layout.textOf]

/-- A text is filled in with what its placeholders are filled in with by themselves. -/
theorem Layout.IsOf.render_eq {layout : Layout} {content : String} (isOf : layout.IsOf content)
    (built : vocabulary context today = .ok values) :
    render content context today = layout.answered fun name => render (note name) context today := by
  rw [render_of_vocabulary built, isOf.fillIn_eq]
  refine (Layout.answered_eq_ok fun name listed => ?_).symm
  obtain ⟨some, without⟩ := isOf.parts.of_mem listed
  exact render_note built some without

end Rendering

section Appending

variable {chars behind : List Char}

/-- What closes within a text is not kept open by what comes behind. -/
theorem Opens.of_append (opens : Opens (chars ++ behind)) (closed : '\x7d' ∈ chars) : Opens chars := by
  obtain ⟨inside, rest, split, some, without⟩ := opens
  rcases List.append_eq_append_iff.mp split with ⟨more, rfl, -⟩ | ⟨more, rfl, tail⟩
  · exact absurd (List.mem_append_left more closed) without
  · cases more with
    | nil => exact absurd (by simpa using closed) without
    | cons first more =>
      obtain ⟨rfl, -⟩ := List.cons.inj tail
      exact ⟨inside, more, rfl, some, without⟩

/-- Texts are taken apart one after the other, where no placeholder reaches from the first into the second. -/
theorem segments_append (closes : ClosesBraces chars) :
    segments (chars ++ behind) = segments chars ++ segments behind := by
  induction chars using segments.induct with
  | case1 => rw [segments, List.nil_append, List.nil_append]
  | case2 rest inside after taken _ ih =>
    obtain ⟨rfl, some, without⟩ := takeInside?_eq_some_iff.mp taken
    have later : ClosesBraces after :=
      BehindBraces.of_append ('\x7b' :: (inside ++ ['\x7d'])) (by simpa [ClosesBraces] using closes)
    rw [segments_placeholder some without, List.cons_append, List.append_assoc, List.cons_append,
      segments_placeholder some without, ih later, List.cons_append]
  | case3 rest none ih =>
    -- the brace has its closing one within the text, so with more behind it still starts no placeholder
    have closed : '\x7d' ∈ rest := closes [] rest rfl
    have plain := takeInside?_eq_none_iff.mp none
    rw [List.cons_append, segments_plain_cons fun _ opens => plain (opens.of_append closed),
      segments_plain_cons fun _ => plain, ih (closes.of_append ['\x7b']), List.cons_append]
  | case4 c rest plain ih =>
    rw [List.cons_append, segments_plain_cons fun brace => absurd brace plain,
      segments_plain_cons fun brace => absurd brace plain, ih (closes.of_append [c]),
      List.cons_append]

theorem fillIn_append (values : Value) {first : String} (closes : ClosesBraces first.toList) (second : String) :
    fillIn values (first ++ second) = fillIn values first ++ fillIn values second := by
  rw [fillIn, String.toList_append, segments_append closes, List.map_append, String.join_append]
  rfl

end Appending

/-- The text that a record holds for a placeholder. -/
def recorded (record : List (String × Value)) (name : String) : String :=
  ((record.lookup name).bind Value.asText?).getD ""

section Recording

variable {context : Context} {today : Date} {values record : List (String × Value)} {template : Template}

theorem mem_placeholders {name : String} : name ∈ Rule.placeholders template ↔
    name ∈ placeholders template.title ∨ name ∈ placeholders template.description := by
  rw [← List.mem_append]
  exact mem_distinct

theorem placeholderValues_eq (built : vocabulary context today = .ok values)
    (known : Rule.placeholderValues template context today = .ok record) :
    record = (Rule.placeholders template).map fun name => (name, .text (fillIn (.map values) (note name))) := by
  refine Outcome.eq_map_of_mapM (fun name result found => ?_) known
  have filled := render_of_vocabulary built (note name)
  rw [note] at filled
  rw [filled] at found
  exact (Except.ok.inj found).symm

/-- A record of what placeholders are replaced by has what each of them is filled in with by itself. -/
theorem lookup_placeholderValues (built : vocabulary context today = .ok values)
    (known : Rule.placeholderValues template context today = .ok record) {name : String}
    (asked : name ∈ Rule.placeholders template) :
    ∃ text, record.lookup name = some (.text text) ∧ render (note name) context today = .ok text := by
  refine ⟨fillIn (.map values) (note name), ?_, render_of_vocabulary built _⟩
  rw [placeholderValues_eq built known]
  exact List.lookup_graph (fun name => Value.text (fillIn (.map values) (note name))) asked

/-- A text all of whose placeholders are on record is filled in from the record. -/
theorem Layout.IsOf.eq_text_recorded {layout : Layout} {content filled : String} (isOf : layout.IsOf content)
    (built : vocabulary context today = .ok values) (rendered : render content context today = .ok filled)
    (each : ∀ name ∈ placeholders content, ∃ text, record.lookup name = some (.text text) ∧
      render (note name) context today = .ok text) :
    filled = layout.text (recorded record) := by
  refine Except.ok.inj (rendered.symm.trans ?_)
  rw [isOf.render_eq built]
  refine Layout.answered_eq_ok fun name listed => ?_
  obtain ⟨text, found, alone⟩ := each name (isOf.asks_eq ▸ listed)
  rw [alone, recorded, found]
  rfl

end Recording

/-- Filling in is one substitution from left to right, for a subject and a day of which everything is known that texts
can name. A text is laid out in its placeholders and what stands between them; this stays as it is, and each placeholder
is replaced by what it is filled in with by itself. A text that leaves no brace open is filled in by itself, whatever
comes behind. A task keeps on record what every placeholder of its template is filled in with, each once, and its title
and description are the texts of the template with what is on record in the place of the placeholders. -/
theorem render_isSubstitution {context : Context} {today : Date} {values : List (String × Value)}
    (built : vocabulary context today = .ok values) :
    (∀ content, (∃ layout : Layout, layout.IsOf content) ∧
      ∀ layout : Layout, layout.IsOf content → layout.asks = placeholders content ∧
        render content context today = layout.answered fun name => render (note name) context today) ∧
    (∀ first second, ClosesBraces first.toList →
      render (first ++ second) context today =
        (· ++ ·) <$> render first context today <*> render second context today) ∧
    ∀ (rule : Rule) settings task, rule.task settings context today = .ok task →
      let template := rule.templateFor settings context
      let record := task.origin.placeholders
      record.map (·.1) = distinct (placeholders template.title ++ placeholders template.description) ∧
      (∀ name, name ∈ placeholders template.title ∨ name ∈ placeholders template.description →
        ∃ text, record.lookup name = some (.text text) ∧ render (note name) context today = .ok text) ∧
      (∀ layout : Layout, layout.IsOf template.title → task.title = layout.text (recorded record)) ∧
      ∀ layout : Layout, layout.IsOf template.description → task.description = layout.text (recorded record) := by
  refine ⟨fun content => ?_, fun first second closes => ?_, fun rule settings task made => ?_⟩
  · exact ⟨Layout.exists_isOf content, fun layout isOf => ⟨isOf.asks_eq, isOf.render_eq built⟩⟩
  · rw [render_of_vocabulary built, render_of_vocabulary built, render_of_vocabulary built, fillIn_append _ closes]
    rfl
  · obtain ⟨due, _, made⟩ := Outcome.bind_eq_ok.mp made
    obtain ⟨title, titled, made⟩ := Outcome.bind_eq_ok.mp made
    obtain ⟨description, described, made⟩ := Outcome.bind_eq_ok.mp made
    obtain ⟨conditions, _, made⟩ := Outcome.bind_eq_ok.mp made
    obtain ⟨record, known, made⟩ := Outcome.bind_eq_ok.mp made
    cases made
    have each (name : String) (asked : name ∈ placeholders (rule.templateFor settings context).title ∨
        name ∈ placeholders (rule.templateFor settings context).description) :=
      lookup_placeholderValues built known (mem_placeholders.mpr asked)
    refine ⟨?_, each, ?_, ?_⟩
    · rw [placeholderValues_eq built known, List.map_map]
      exact List.map_id _
    · exact fun layout isOf => isOf.eq_text_recorded built titled fun name listed => each name (.inl listed)
    · exact fun layout isOf => isOf.eq_text_recorded built described fun name listed => each name (.inr listed)

/-- A subject whose name is written as a placeholder. -/
def braced : Context :=
  { subjectId := "s1", name := some "\x7buserId\x7d" }

/-- A rule that welcomes a subject by name, with a brace that is left open. -/
def welcome : Rule where
  id := "welcome"
  name := "Welcome"
  group := .documents
  phases := [.general]
  visaTypes := [.f1]
  conditions := [.leaf ⟨"userId", .exists, .null, none, none⟩]
  template := { title := "Welcome \x7bname\x7d", description := "\x7bname\x7d: \x7b#compliance_score\x7d \x7b" }

/-- A name that is written as a placeholder is put in as it is. A text in which a brace is opened twice before it is
closed leaves none open. -/
theorem render_isSubstitution_braced : ∃ values task,
    vocabulary braced default = .ok values ∧ welcome.task {} braced default = .ok task ∧
      task.title = "Welcome \x7buserId\x7d" ∧ task.description = "\x7buserId\x7d: 100 \x7b" ∧
      (∃ layout : Layout, layout.IsOf "Welcome \x7bname\x7d" ∧
        task.title = layout.text (recorded task.origin.placeholders)) ∧
      task.origin.placeholders.map (·.1) = ["name", "#compliance_score"] ∧
      ClosesBraces "\x7b\x7bname\x7d \x7b\x7d".toList ∧
      render ("\x7b\x7bname\x7d \x7b\x7d" ++ "\x7bname\x7d") braced default =
        (· ++ ·) <$> render "\x7b\x7bname\x7d \x7b\x7d" braced default <*> render "\x7bname\x7d" braced default := by
  obtain ⟨values, built⟩ : ∃ values, vocabulary braced default = .ok values := ⟨_, rfl⟩
  have decided : (welcome.task {} braced default).toOption.any (fun task =>
      task.title == "Welcome \x7buserId\x7d" && task.description == "\x7buserId\x7d: 100 \x7b") = true := by
    decide +kernel
  obtain ⟨task, made, texts⟩ := Outcome.exists_of_any decided
  obtain ⟨title, description⟩ : _ = _ ∧ _ = _ := by simpa using texts
  have closes : ClosesBraces "\x7b\x7bname\x7d \x7b\x7d".toList := by decide +kernel
  obtain ⟨laidOut, appended, onRecord⟩ := render_isSubstitution built
  obtain ⟨names, -, titled, -⟩ := onRecord welcome {} task made
  obtain ⟨layout, isOf⟩ := (laidOut "Welcome \x7bname\x7d").1
  exact ⟨values, task, built, made, title, description, ⟨layout, isOf, titled layout isOf⟩,
    names.trans (by decide +kernel), closes, appended _ _ closes⟩

end Obligations.Wording
