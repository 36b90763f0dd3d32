import Arbiter.Settings.Document

/-!
# Reading settings from a document

A document sets a switch if its section holds a truth value for it, and all that is not set
is on. A section or a switch of the wrong type is never passed over, and what is unknown never
matters.

* `Toml.Value.WritesOut` and `Toml.Value.IsSection`: the values that a section is read from.
* `Settings.TakesSwitches`: what the readers of both sections have in common.
* `Settings.section?_eq_some_iff` and `Settings.section?_known`: what such a reader takes from a
  table, and what it does not look at.
* `Settings.ofEntries?_eq_some_iff`: the settings of a table, and when there are any.
* `Settings.ofDocument_reads`: the settings of a document.
* `Settings.ofDocument_not_only_written_out`: a moment passes for a section.
-/

namespace Arbiter

namespace Toml.Value

/-- The value writes out a section with these switches: it is a table that holds nothing but
truth values for them, or an array of truth values. -/
inductive WritesOut (switches : List String) : Value → Prop where
  | table {entries : Entries}
    (truth : ∀ switch ∈ switches, ∀ v, entries.lookup switch = some v → ∃ on, v = .bool on) :
    WritesOut switches (.table entries)
  | array {elements : List Value} (truth : ∀ v ∈ elements, ∃ on, v = .bool on) :
    WritesOut switches (.array elements)

/-- A section with these switches can be read from the value. A moment passes for a section
that holds none of them. -/
def IsSection (switches : List String) (v : Value) : Prop :=
  v.WritesOut switches ∨ ∃ literal, v = .moment literal

/-- The truth value for a switch: under its name in a table, or at its place in an array. -/
def switch? (switch : String) (place : Nat) : Value → Option Bool
  | .table entries => (entries.lookup switch).bind bool?
  | .array elements => elements[place]?.bind bool?
  | _ => none

/-- The value without the entries of a table that are no switches. -/
def only (switches : List String) : Value → Value
  | .table entries => .table (entries.filter fun entry => entry.1 ∈ switches)
  | v => v

theorem bool?_eq_some_iff {v : Value} {on : Bool} : v.bool? = some on ↔ v = .bool on := by
  cases v <;> simp [bool?]

/-- In a section, a truth value is found for each switch. -/
theorem IsSection.switches? {switches : List String} {v : Value}
    (isSection : v.IsSection switches) :
    ∃ find, v.switches? = some find ∧ ∀ switch ∈ switches, ∀ place,
      find switch place = some ((v.switch? switch place).getD true) := by
  rcases isSection with (truth | truth) | ⟨literal, rfl⟩
  · next entries =>
    refine ⟨_, rfl, fun switch member place => ?_⟩
    dsimp only [switch?]
    cases found : entries.lookup switch with
    | none => rfl
    | some v =>
      obtain ⟨on, rfl⟩ := truth switch member v found
      rfl
  · next elements =>
    refine ⟨_, rfl, fun switch member place => ?_⟩
    dsimp only [switch?]
    cases found : elements[place]? with
    | none => rfl
    | some v =>
      obtain ⟨on, rfl⟩ := truth v (List.mem_of_getElem? found)
      rfl
  · exact ⟨_, rfl, fun _ _ _ => rfl⟩

/-- Where a truth value is found for each switch at its place, there is a section. -/
theorem isSection_of_switches? {switches : List String} {v : Value}
    {find : String → Nat → Option Bool} (found : v.switches? = some find)
    (short : ∀ elements, v = .array elements → elements.length ≤ switches.length)
    (truth : ∀ place (inside : place < switches.length),
      ∃ on, find switches[place] place = some on) :
    v.IsSection switches := by
  cases v with
  | table entries =>
    cases found
    refine .inl (.table fun switch member v there => ?_)
    obtain ⟨place, inside, rfl⟩ := List.getElem_of_mem member
    obtain ⟨on, holds⟩ := truth place inside
    dsimp only at holds
    rw [there] at holds
    exact ⟨on, bool?_eq_some_iff.mp holds⟩
  | array elements =>
    cases found
    refine .inl (.array fun v member => ?_)
    obtain ⟨place, inside, rfl⟩ := List.getElem_of_mem member
    obtain ⟨on, holds⟩ := truth place (Nat.lt_of_lt_of_le inside (short elements rfl))
    dsimp only at holds
    rw [List.getElem?_eq_getElem inside] at holds
    exact ⟨on, bool?_eq_some_iff.mp holds⟩
  | moment literal => exact .inr ⟨literal, rfl⟩
  | _ => cases found

/-- A switch is found, or not, whatever other entries there are. -/
theorem lookup_filter {names : List String} {name : String} (member : name ∈ names)
    (entries : Entries) :
    (entries.filter fun entry => entry.1 ∈ names).lookup name = entries.lookup name := by
  induction entries with
  | nil => rfl
  | cons entry entries ih => grind

end Toml.Value

namespace Settings

open Toml (Entries Value)

/-! ## One section -/

/-- A reader of settings takes one truth value for each of these switches, in their order. By
default all of them are on. -/
structure TakesSwitches {α : Type} (switches : List String) (default : α)
    (read : (String → Nat → Option Bool) → Option α) (values : α → List Bool) : Prop where
  read_eq_some_iff (find : String → Nat → Option Bool) (s : α) :
    read find = some s ↔
      switches.mapIdx (fun place switch => find switch place) = (values s).map some
  values_default : values default = switches.map fun _ => true
  values_inj {s t : α} : values s = values t → s = t

theorem takesSwitches_trace :
    TakesSwitches ["log_decisions"] {} TraceSettings.ofSwitches? fun s => [s.logDecisions] where
  read_eq_some_iff find s := by
    rcases s with ⟨logDecisions⟩
    simp [TraceSettings.ofSwitches?, Option.bind_eq_some_iff]
  values_default := rfl
  values_inj {s t} same := by
    rcases s with ⟨logDecisions⟩
    cases same
    rfl

theorem takesSwitches_testing :
    TakesSwitches ["default_allow", "record_checked_actions"] {} TestingSettings.ofSwitches?
      fun s => [s.defaultAllow, s.recordCheckedActions] where
  read_eq_some_iff find s := by
    rcases s with ⟨defaultAllow, recordCheckedActions⟩
    simp [TestingSettings.ofSwitches?, Option.bind_eq_some_iff]
  values_default := rfl
  values_inj {s t} same := by
    rcases s with ⟨defaultAllow, recordCheckedActions⟩
    cases same
    rfl

/-- The truth value that a table holds for a switch of a section. -/
def written? (entries : Entries) (name switch : String) (place : Nat) : Option Bool :=
  (entries.lookup name).bind (·.switch? switch place)

section

variable {α : Type} {switches : List String} {default : α}
  {read : (String → Nat → Option Bool) → Option α} {values : α → List Bool}

/-- Readers look at their switches only. -/
theorem TakesSwitches.read_congr (takes : TakesSwitches switches default read values)
    {find other : String → Nat → Option Bool}
    (same : ∀ switch ∈ switches, find switch = other switch) : read find = read other := by
  have asked : switches.mapIdx (fun place switch => find switch place) =
      switches.mapIdx fun place switch => other switch place := by
    refine List.mapIdx_eq_mapIdx_iff.mpr fun place inside => ?_
    rw [same _ (List.getElem_mem inside)]
  refine Option.ext fun s => ?_
  rw [takes.read_eq_some_iff, takes.read_eq_some_iff, asked]

/-- What is read from the value that stands for a section. -/
theorem TakesSwitches.bind_switches?_eq_some_iff
    (takes : TakesSwitches switches default read values) {v : Value}
    (short : ∀ elements, v = .array elements → elements.length ≤ switches.length)
    {s : α} :
    v.switches?.bind read = some s ↔
      v.IsSection switches ∧
        values s = switches.mapIdx fun place switch => (v.switch? switch place).getD true := by
  -- In a section, the switches that are found are those that are written.
  have in_section {find} (isSection : v.IsSection switches) (found : v.switches? = some find) :
      read find = some s ↔
        values s = switches.mapIdx fun place switch => (v.switch? switch place).getD true := by
    obtain ⟨_, again, holds⟩ := isSection.switches?
    cases found.symm.trans again
    have all : switches.mapIdx (fun place switch => find switch place) =
        (switches.mapIdx fun place switch => (v.switch? switch place).getD true).map some := by
      refine List.ext_getElem? fun place => ?_
      rw [List.getElem?_map, List.getElem?_mapIdx, List.getElem?_mapIdx]
      cases found : switches[place]? with
      | none => rfl
      | some switch => exact congrArg some (holds switch (List.mem_of_getElem? found) place)
    rw [takes.read_eq_some_iff, all, List.map_inj_right fun _ _ => Option.some.inj, eq_comm]
  constructor
  · intro taken
    obtain ⟨find, found, taken⟩ := Option.bind_eq_some_iff.mp taken
    have isSection : v.IsSection switches := by
      refine v.isSection_of_switches? found short fun place inside => ?_
      have at_place := congrArg (·[place]?) ((takes.read_eq_some_iff find s).mp taken)
      simp only [List.getElem?_mapIdx, List.getElem?_eq_getElem inside, List.getElem?_map,
        Option.map_some] at at_place
      obtain ⟨on, -, holds⟩ := Option.map_eq_some_iff.mp at_place.symm
      exact ⟨on, holds.symm⟩
    exact ⟨isSection, (in_section isSection found).mp taken⟩
  · rintro ⟨isSection, written⟩
    obtain ⟨find, found, -⟩ := isSection.switches?
    rw [found]
    exact (in_section isSection found).mpr written

/-- What is read for a section of a table, and when. -/
theorem TakesSwitches.section?_eq_some_iff (takes : TakesSwitches switches default read values)
    {entries : Entries} {name : String}
    (short : ∀ elements, entries.lookup name = some (.array elements) →
      elements.length ≤ switches.length) {s : α} :
    Settings.section? default read entries name = some s ↔
      (∀ v, entries.lookup name = some v → v.IsSection switches) ∧
        values s =
          switches.mapIdx fun place switch => (written? entries name switch place).getD true := by
  rw [section?]
  cases found : entries.lookup name with
  | none =>
    have nothing : (switches.mapIdx fun place switch =>
        (written? entries name switch place).getD true) = values default := by
      rw [takes.values_default, List.mapIdx_eq_iff]
      intro place
      rw [List.getElem?_map]
      simp only [written?, found, Option.bind_none, Option.getD_none]
    rw [nothing, Option.some.injEq]
    refine ⟨?_, fun written => (takes.values_inj written.2).symm⟩
    rintro rfl
    exact ⟨nofun, rfl⟩
  | some v =>
    have short (elements) (same : v = .array elements) : elements.length ≤ switches.length :=
      short elements (by rw [found, same])
    simp only [takes.bind_switches?_eq_some_iff short, written?, found, Option.some.injEq,
      forall_eq', Option.bind_some]

end

/-! ## A whole table -/

/-- The sections that settings are read from, each with its switches in their order. -/
def sections : List (String × List String) :=
  [("trace", ["log_decisions"]), ("testing", ["default_allow", "record_checked_actions"])]

/-- No section is an array with more elements than it has switches. -/
def Short (entries : Entries) : Prop :=
  ∀ part ∈ sections, ∀ elements, entries.lookup part.1 = some (.array elements) →
    elements.length ≤ part.2.length

/-- Every section that is there is written out. -/
def WrittenOut (entries : Entries) : Prop :=
  ∀ part ∈ sections, ∀ v, entries.lookup part.1 = some v → v.WritesOut part.2

/-- Every section that is there can be read. -/
def Readable (entries : Entries) : Prop :=
  ∀ part ∈ sections, ∀ v, entries.lookup part.1 = some v → v.IsSection part.2

/-- A table without what is unknown at its top or in a section. -/
def known (entries : Entries) : Entries :=
  entries.filterMap fun (name, v) =>
    (sections.lookup name).map fun switches => (name, v.only switches)

theorem lookup_known {name : String} {switches : List String}
    (there : sections.lookup name = some switches) (entries : Entries) :
    (known entries).lookup name = (entries.lookup name).map (·.only switches) := by
  induction entries with
  | nil => rfl
  | cons entry entries ih =>
    rcases entry with ⟨other, v⟩
    rw [known, List.filterMap_cons, List.lookup_cons]
    by_cases same : name = other
    · subst same
      simp only [there, Option.map_some, List.lookup_cons_self, beq_self_eq_true]
    · have apart : (name == other) = false := beq_eq_false_iff_ne.mpr same
      rw [apart]
      dsimp only
      cases sections.lookup other with
      | none => exact ih
      | some others =>
        rw [Option.map_some, List.lookup_cons, apart]
        exact ih

/-- A section is read from what is known alone. -/
theorem TakesSwitches.section?_known {α : Type} {switches : List String} {default : α}
    {read : (String → Nat → Option Bool) → Option α} {values : α → List Bool}
    (takes : TakesSwitches switches default read values) {name : String}
    (there : sections.lookup name = some switches) (entries : Entries) :
    Settings.section? default read (known entries) name =
      Settings.section? default read entries name := by
  rw [section?, section?, lookup_known there]
  cases entries.lookup name with
  | none => rfl
  | some v =>
    rw [Option.map_some]
    dsimp only
    cases v with
    | table entries =>
      refine takes.read_congr fun switch member => ?_
      rw [Value.lookup_filter member]
    | _ => rfl

/-- What is unknown makes no difference. -/
theorem ofEntries?_known (entries : Entries) : ofEntries? (known entries) = ofEntries? entries := by
  rw [ofEntries?, ofEntries?, takesSwitches_trace.section?_known rfl,
    takesSwitches_testing.section?_known rfl]

theorem short_iff {entries : Entries} :
    Short entries ↔
      (∀ elements, entries.lookup "trace" = some (.array elements) → elements.length ≤ 1) ∧
        ∀ elements, entries.lookup "testing" = some (.array elements) → elements.length ≤ 2 := by
  rw [Short, sections, List.forall_mem_cons, List.forall_mem_singleton]
  rfl

theorem readable_iff {entries : Entries} :
    Readable entries ↔
      (∀ v, entries.lookup "trace" = some v → v.IsSection ["log_decisions"]) ∧
        ∀ v, entries.lookup "testing" = some v →
          v.IsSection ["default_allow", "record_checked_actions"] := by
  rw [Readable, sections, List.forall_mem_cons, List.forall_mem_singleton]

/-- The settings of a table, and when there are any. -/
theorem ofEntries?_eq_some_iff {entries : Entries} (short : Short entries) {s : Settings} :
    ofEntries? entries = some s ↔
      Readable entries ∧
        s.trace.logDecisions = (written? entries "trace" "log_decisions" 0).getD true ∧
        s.testing.defaultAllow = (written? entries "testing" "default_allow" 0).getD true ∧
        s.testing.recordCheckedActions =
          (written? entries "testing" "record_checked_actions" 1).getD true := by
  have apart : ofEntries? entries = some s ↔
      Settings.section? {} TraceSettings.ofSwitches? entries "trace" = some s.trace ∧
        Settings.section? {} TestingSettings.ofSwitches? entries "testing" = some s.testing := by
    rcases s with ⟨trace, testing⟩
    simp [ofEntries?, Option.bind_eq_some_iff]
  obtain ⟨short_trace, short_testing⟩ := short_iff.mp short
  have trace := takesSwitches_trace.section?_eq_some_iff short_trace (s := s.trace)
  have testing := takesSwitches_testing.section?_eq_some_iff short_testing (s := s.testing)
  simp only [List.mapIdx_cons, List.mapIdx_nil, List.cons.injEq, and_true, Nat.zero_add]
    at trace testing
  rw [apart, trace, testing, readable_iff]
  exact and_and_and_comm

/-- A table that can be read has settings. -/
theorem exists_ofEntries? {entries : Entries} (short : Short entries)
    (readable : Readable entries) : ∃ s, ofEntries? entries = some s :=
  ⟨⟨⟨_⟩, ⟨_, _⟩⟩, (ofEntries?_eq_some_iff short).mpr ⟨readable, rfl, rfl, rfl⟩⟩

/-! ## A whole document -/

section

variable {document : String} {entries : Entries}

theorem ofDocument_eq_ok_iff (parsed : Toml.parse? document = some entries) {s : Settings} :
    ofDocument document = .ok s ↔ ofEntries? entries = some s := by
  rw [ofDocument, parsed, Option.bind_some]
  cases ofEntries? entries with
  | none => exact iff_of_false nofun nofun
  | some t => rw [Except.ok.injEq, Option.some.injEq]

/-- There is only one way to fail. -/
theorem ofDocument_eq_unparsable_of_not_ok (failed : ∀ s, ofDocument document ≠ .ok s) :
    ofDocument document = .error .unparsable := by
  rw [ofDocument] at failed ⊢
  split at failed
  · next s _ => exact absurd rfl (failed s)
  · rfl

/-- **Reading settings is exact, and never guesses.** Let a document hold no section that is an
array with more elements than the section has switches.

* Settings are read from it exactly if each section is absent, or is a table in which every switch
  of the section is absent or a truth value, or an array of truth values, or a moment.
* A switch is then what is written for it, and on if nothing is.
* Documents that differ only in what is unknown, at the top or in a section, read the same.
* A section of any other kind makes the whole reading fail. -/
theorem ofDocument_reads (parsed : Toml.parse? document = some entries) (short : Short entries) :
    ((∃ s, ofDocument document = .ok s) ↔ Readable entries) ∧
      (∀ s, ofDocument document = .ok s →
        s.trace.logDecisions = (written? entries "trace" "log_decisions" 0).getD true ∧
          s.testing.defaultAllow = (written? entries "testing" "default_allow" 0).getD true ∧
          s.testing.recordCheckedActions =
            (written? entries "testing" "record_checked_actions" 1).getD true) ∧
      (∀ other others, Toml.parse? other = some others → known others = known entries →
        ofDocument other = ofDocument document) ∧
      ∀ part ∈ sections, ∀ v, entries.lookup part.1 = some v → ¬ v.IsSection part.2 →
        ofDocument document = .error .unparsable := by
  have taken (s) : ofDocument document = .ok s ↔ _ :=
    (ofDocument_eq_ok_iff parsed).trans (ofEntries?_eq_some_iff short)
  refine ⟨⟨fun ⟨s, read⟩ => ((taken s).mp read).1, fun readable => ?_⟩,
    fun s read => ((taken s).mp read).2, fun other others parsed_other same => ?_,
    fun part member v there mistyped => ?_⟩
  · obtain ⟨s, read⟩ := exists_ofEntries? short readable
    exact ⟨s, (ofDocument_eq_ok_iff parsed).mpr read⟩
  · rw [ofDocument, ofDocument, parsed, parsed_other, Option.bind_some, Option.bind_some,
      ← ofEntries?_known others, same, ofEntries?_known]
  · refine ofDocument_eq_unparsable_of_not_ok fun s read => ?_
    exact mistyped (((taken s).mp read).1 part member v there)

end

/-- Both shapes of a section are read, the rest of the document does not matter, and a number is
no truth value. -/
theorem ofDocument_reads_both_shapes :
    ofDocument "testing = [false]\nother = 1\n[trace]\nlog_decisions = false\nx = 07:32:00" =
        .ok ⟨⟨false⟩, ⟨false, true⟩⟩ ∧
      ofDocument "testing = [false]\n[trace]\nlog_decisions = false" =
        ofDocument
          "testing = [false]\nother = 1\n[trace]\nlog_decisions = false\nx = 07:32:00" ∧
      ofDocument "trace.log_decisions = 1" = .error .unparsable := by
  have parsed : Toml.parse?
      "testing = [false]\nother = 1\n[trace]\nlog_decisions = false\nx = 07:32:00" =
      some [("testing", .array [.bool false]), ("other", .int 1),
        ("trace", .table [("log_decisions", .bool false), ("x", .moment "07:32:00")])] := by
    decide +kernel
  have plain : Toml.parse? "testing = [false]\n[trace]\nlog_decisions = false" =
      some [("testing", .array [.bool false]),
        ("trace", .table [("log_decisions", .bool false)])] := by
    decide +kernel
  have numeric : Toml.parse? "trace.log_decisions = 1" =
      some [("trace", .table [("log_decisions", .int 1)])] := by
    decide +kernel
  obtain ⟨reads, holds, alike, -⟩ := ofDocument_reads parsed <| short_iff.mpr
    ⟨fun elements there => (by cases there), fun elements there => (by cases there; decide)⟩
  obtain ⟨-, -, -, fails⟩ := ofDocument_reads numeric <| short_iff.mpr
    ⟨fun elements there => (by cases there), fun elements there => (by cases there)⟩
  have read : ∃ s, ofDocument
      "testing = [false]\nother = 1\n[trace]\nlog_decisions = false\nx = 07:32:00" = .ok s := by
    refine reads.mpr (readable_iff.mpr ⟨fun v there => ?_, fun v there => ?_⟩)
    · cases there
      refine .inl (.table fun switch member v there => ?_)
      rw [List.mem_singleton.mp member] at there
      cases there
      exact ⟨false, rfl⟩
    · cases there
      exact .inl (.array fun v member => ⟨false, List.mem_singleton.mp member⟩)
  refine ⟨?_, alike _ _ plain rfl, fails ("trace", _) (.head _) _ rfl ?_⟩
  · obtain ⟨⟨⟨logDecisions⟩, ⟨defaultAllow, recordCheckedActions⟩⟩, read⟩ := read
    obtain ⟨log, allow, record⟩ := holds _ read
    obtain rfl : logDecisions = false := log
    obtain rfl : defaultAllow = false := allow
    obtain rfl : recordCheckedActions = true := record
    exact read
  · rintro (written | ⟨literal, is⟩)
    · cases written with
      | table truth =>
        obtain ⟨on, is⟩ := truth "log_decisions" (.head _) _ rfl
        cases is
    · cases is

/-- It is not only what is written out that is read: a moment passes for a section, and leaves
all of its switches on. -/
theorem ofDocument_not_only_written_out :
    ¬ ∀ (document : String) (entries : Entries), Toml.parse? document = some entries →
      Short entries → ((∃ s, ofDocument document = .ok s) ↔ WrittenOut entries) := by
  intro only_written_out
  have parsed : Toml.parse? "trace = 1979-05-27" = some [("trace", .moment "1979-05-27")] := by
    decide +kernel
  have short : Short [("trace", .moment "1979-05-27")] :=
    short_iff.mpr ⟨fun elements there => (by cases there), fun elements there => (by cases there)⟩
  have read : ofDocument "trace = 1979-05-27" = .ok {} := (ofDocument_eq_ok_iff parsed).mpr rfl
  have written_out := (only_written_out _ _ parsed short).mp ⟨_, read⟩
  cases written_out ("trace", _) (.head _) _ rfl

end Settings

end Arbiter
