import Arbiter.Proofs.Urn.Text

/-!
# Canonical forms

Reading takes several shapes of a value, and writing has one. What is read from any of the
shapes is written in this one, and nothing is lost on the way.

* `Form.normalize`: reads a JSON value and writes it again.
* `Form.Canonical`: writing is the canonical form among all that can be read.
* `ContextValue.ofJson?_eq_some_iff` and `Context.ofJson?_eq_some_iff`: contexts are read from
  what they are written as, and from nothing else.
* `Effect.ReadFrom` and `TraceRecord.ReadFrom`: the shapes that effects and records are read
  from.
* `Form.audit_forms_canonical`: the forms of all that is kept for an audit.
-/

namespace Arbiter

namespace Form

variable {α : Type}

/-- Reads a JSON value, and writes what was read. -/
def normalize (f : Form α) (v : Json) : Except FormError Json :=
  (f.read v).map f.write

/-- Among all that can be read as a value, what the value is written as stands for the rest.
Only values of a kind are read at all. -/
structure Canonical (f : Form α) (kind : α → Prop) : Prop where
  /-- A value of the kind is read from what it is written as. -/
  read_write {x : α} : kind x → f.read (f.write x) = .ok x
  /-- Whatever was read is read again once it has been written. -/
  read_again {v : Json} {x : α} : f.read v = .ok x → f.read (f.write x) = .ok x
  /-- What was normalized is its own normal form, and is read as the same. -/
  normalize_again {v w : Json} : f.normalize v = .ok w →
    f.normalize w = .ok w ∧ f.read w = f.read v
  /-- Two JSON values are read as the same exactly if they have the same normal form. -/
  write_eq_iff {v w : Json} {x y : α} : f.read v = .ok x → f.read w = .ok y →
    (f.write x = f.write y ↔ x = y)

theorem normalize_eq_ok_iff (f : Form α) {v w : Json} :
    f.normalize v = .ok w ↔ ∃ x, f.read v = .ok x ∧ f.write x = w := by
  rw [normalize]
  cases f.read v with
  | error e => exact iff_of_false nofun (by rintro ⟨_, nothing, -⟩; cases nothing)
  | ok x =>
    have written : (Except.ok x : Except FormError α).map f.write = .ok (f.write x) := rfl
    simp only [written, Except.ok.injEq, exists_eq_left']

/-- A form is canonical if it reads the values of a kind from what they are written as, and
reads no others. -/
theorem Canonical.of_read_write {f : Form α} {kind : α → Prop}
    (read_write : ∀ x, kind x → f.read (f.write x) = .ok x)
    (kind_of_read : ∀ v x, f.read v = .ok x → kind x) : f.Canonical kind where
  read_write own := read_write _ own
  read_again read := read_write _ (kind_of_read _ _ read)
  normalize_again {v w} normal := by
    obtain ⟨x, read, rfl⟩ := f.normalize_eq_ok_iff.mp normal
    have again := read_write x (kind_of_read v x read)
    exact ⟨f.normalize_eq_ok_iff.mpr ⟨x, again, rfl⟩, again.trans read.symm⟩
  write_eq_iff {v w x y} first second := by
    refine ⟨fun same => ?_, congrArg f.write⟩
    have read := read_write x (kind_of_read v x first)
    rw [same, read_write y (kind_of_read w y second)] at read
    exact (Except.ok.inj read).symm

theorem ofOption_eq_ok_iff {read : Json → Option α} {v : Json} {x : α} :
    ofOption read v = .ok x ↔ read v = some x := by
  rw [ofOption]
  cases read v with
  | none => exact iff_of_false nofun nofun
  | some y => rw [Except.ok.injEq, Option.some.injEq]

theorem ofOption_eq_shape_iff {read : Json → Option α} {v : Json} :
    ofOption read v = .error .shape ↔ read v = none := by
  rw [ofOption]
  cases read v with
  | none => exact iff_of_true rfl rfl
  | some y => exact iff_of_false nofun nofun

end Form

/-! ## Contexts -/

/-- A list of texts is read from the list of their forms, and from nothing else. -/
theorem Json.texts?_eq_some_iff {elements : List Json} {texts : List String} :
    Json.texts? elements = some texts ↔ elements = texts.map .str := by
  induction elements generalizing texts with
  | nil => cases texts <;> simp [Json.texts?]
  | cons element elements ih =>
    cases element with
    | str text => cases texts <;> simp [Json.texts?, ih, and_comm]
    | _ => cases texts <;> simp [Json.texts?]

theorem ContextValue.ofJson?_eq_some_iff {v : Json} {c : ContextValue} :
    ContextValue.ofJson? v = some c ↔ v = c.toJson := by
  cases v with
  | str value => cases c <;> simp [ContextValue.ofJson?, ContextValue.toJson]
  | arr elements =>
    cases c <;> simp [ContextValue.ofJson?, ContextValue.toJson, Json.texts?_eq_some_iff]
  | _ => cases c <;> simp [ContextValue.ofJson?, ContextValue.toJson]

/-- Neither numbers nor lists of anything but texts pass for a context value. -/
theorem ContextValue.ofJson?_eq_none {v : Json} (no_text : ∀ text : String, v ≠ .str text)
    (no_texts : ∀ texts : List String, v ≠ .arr (texts.map .str)) :
    ContextValue.ofJson? v = none := by
  rw [Option.eq_none_iff_forall_ne_some]
  intro c read
  have written := ContextValue.ofJson?_eq_some_iff.mp read
  cases c with
  | one text => exact no_text text written
  | many texts => exact no_texts texts written

/-- The members of an object are read as a context one by one. None of them is dropped. -/
theorem Context.ofMembers?_eq_some_iff {members : List (String × Json)} {c : Context} :
    Context.ofMembers? members = some c ↔
      members = c.map fun (name, value) => (name, value.toJson) := by
  induction members generalizing c with
  | nil => cases c <;> simp [Context.ofMembers?]
  | cons member members ih =>
    rcases member with ⟨name, v⟩
    simp only [Context.ofMembers?, Option.bind_eq_bind, Option.bind_eq_some_iff,
      ContextValue.ofJson?_eq_some_iff, ih, Option.pure_def, Option.some.injEq]
    cases c with
    | nil => simp
    | cons entry c =>
      rcases entry with ⟨key, value⟩
      simp only [List.map_cons, List.cons.injEq, Prod.mk.injEq]
      constructor
      · rintro ⟨_, rfl, _, rfl, ⟨rfl, rfl⟩, rfl⟩
        exact ⟨⟨rfl, rfl⟩, rfl⟩
      · rintro ⟨⟨rfl, rfl⟩, rfl⟩
        exact ⟨value, rfl, c, rfl, ⟨rfl, rfl⟩, rfl⟩

theorem Context.ofJson?_eq_some_iff {v : Json} {c : Context} :
    Context.ofJson? v = some c ↔ v = c.toJson := by
  cases v with
  | obj members => simp [Context.ofJson?, Context.toJson, Context.ofMembers?_eq_some_iff]
  | _ => simp [Context.ofJson?, Context.toJson]

/-- One member that is no context value makes the whole context unreadable. -/
theorem Context.ofJson?_eq_none_of_mem {members : List (String × Json)} {name : String} {v : Json}
    (member : (name, v) ∈ members) (no_text : ∀ text : String, v ≠ .str text)
    (no_texts : ∀ texts : List String, v ≠ .arr (texts.map .str)) :
    Context.ofJson? (.obj members) = none := by
  rw [Option.eq_none_iff_forall_ne_some]
  intro c read
  obtain rfl := Context.ofMembers?_eq_some_iff.mp read
  obtain ⟨⟨key, value⟩, -, same⟩ := List.mem_map.mp member
  obtain ⟨-, rfl⟩ := Prod.mk.inj same
  have unreadable := ContextValue.ofJson?_eq_none no_text no_texts
  rw [ContextValue.ofJson?_eq_some_iff.mpr rfl] at unreadable
  cases unreadable

/-! ## Effects and scopes -/

/-- The shapes that an effect is read from: its text, or an object that holds nothing but a
member of this name with the value null. -/
inductive Effect.ReadFrom (e : Effect) : Json → Prop where
  | text : e.ReadFrom (.str e.text)
  | member : e.ReadFrom (.obj [(e.text, .null)])

theorem Effect.parse_eq_ok_iff {text : String} {e : Effect} :
    Effect.parse text = .ok e ↔ text = e.text := by
  rw [Effect.parse, ← Effect.ofText?_eq_some_iff]
  cases Effect.ofText? text with
  | none => exact iff_of_false nofun nofun
  | some other => rw [Except.ok.injEq, Option.some.injEq]

theorem Effect.read_form_eq_ok_iff {v : Json} {e : Effect} :
    Effect.form.read v = .ok e ↔ e.ReadFrom v := by
  constructor
  · intro read
    simp only [Effect.form] at read
    split at read
    · next text =>
      cases parsed : Effect.parse text with
      | error _ => rw [parsed] at read; cases read
      | ok other =>
        rw [parsed] at read
        cases read
        obtain rfl := Effect.parse_eq_ok_iff.mp parsed
        exact .text
    · next text =>
      split at read
      · next other found =>
        cases read
        obtain rfl := Effect.ofText?_eq_some_iff.mp found
        exact .member
      · cases read
    · cases read
  · rintro (_ | _)
    · have parsed := Effect.parse_eq_ok_iff.mpr (rfl : e.text = e.text)
      simp only [Effect.form, parsed]
      rfl
    · simp only [Effect.form, Effect.ofText?_text]

theorem ScopeId.read_form_eq_ok_iff {v : Json} {id : ScopeId} :
    ScopeId.form.read v = .ok id ↔ v = .str id.text := by
  rcases id with ⟨text⟩
  cases v <;> simp [ScopeId.form]

/-! ## Audit records -/

/-- The shapes that a record is read from. -/
inductive TraceRecord.ReadFrom (record : TraceRecord) : Json → Prop where
  /-- An object with the fields of the record. An empty context may be left out, and other
  members do not matter. -/
  | object {members : List (String × Json)}
    (action : members.lookup "action" = some (.str record.action))
    (resource : members.lookup "resource" = some (.str record.resource))
    (subject : members.lookup "subject" = some (.str record.subject))
    (context : members.lookup "context" = some record.context.toJson ∨
      members.lookup "context" = none ∧ record.context = [])
    (result : members.lookup "result" = some (.bool record.result)) :
    record.ReadFrom (.obj members)
  /-- The list of all five fields, in their order. -/
  | list : record.ReadFrom (.arr [.str record.action, .str record.resource, .str record.subject,
      record.context.toJson, .bool record.result])

theorem TraceRecord.ofFields?_eq_some_iff {action resource subject context result : Json}
    {record : TraceRecord} :
    ofFields? action resource subject context result = some record ↔
      action = .str record.action ∧ resource = .str record.resource ∧
        subject = .str record.subject ∧ context = record.context.toJson ∧
        result = .bool record.result := by
  rcases record with ⟨a, r, s, c, b⟩
  constructor
  · intro read
    unfold ofFields? at read
    split at read
    · obtain ⟨_, found, same⟩ := Option.bind_eq_some_iff.mp read
      cases same
      exact ⟨rfl, rfl, rfl, Context.ofJson?_eq_some_iff.mp found, rfl⟩
    · cases read
  · rintro ⟨rfl, rfl, rfl, rfl, rfl⟩
    have found := Context.ofJson?_eq_some_iff.mpr (rfl : Context.toJson c = c.toJson)
    simp only [ofFields?, found]
    rfl

/-- A context that was left out is read as the empty one. -/
theorem TraceRecord.context_getD_iff {context : Option Json} {c : Context} :
    context.getD (.obj []) = c.toJson ↔ context = some c.toJson ∨ context = none ∧ c = [] := by
  cases context with
  | none => cases c <;> simp [Context.toJson]
  | some v => simp

theorem TraceRecord.read_form_eq_ok_iff {v : Json} {record : TraceRecord} :
    TraceRecord.form.read v = .ok record ↔ record.ReadFrom v := by
  have read : TraceRecord.form.read v = .ok record ↔ ofJson? v = some record :=
    Form.ofOption_eq_ok_iff
  rw [read]
  constructor
  · intro found
    unfold ofJson? at found
    split at found
    · next members =>
      simp only [Option.bind_eq_bind, Option.bind_eq_some_iff, ofFields?_eq_some_iff,
        context_getD_iff] at found
      obtain ⟨_, action, _, resource, _, subject, _, result, rfl, rfl, rfl, context, rfl⟩ := found
      exact .object action resource subject context result
    · obtain ⟨rfl, rfl, rfl, rfl, rfl⟩ := ofFields?_eq_some_iff.mp found
      exact .list
    · cases found
  · rintro (⟨action, resource, subject, context, result⟩ | _)
    · simp only [ofJson?, action, resource, subject, result, Option.bind_eq_bind,
        Option.bind_some, ofFields?_eq_some_iff, context_getD_iff, context, and_true]
    · simp only [ofJson?, ofFields?_eq_some_iff, true_and]

/-- A record is read from the object of all its fields. -/
theorem TraceRecord.readFrom_toJson (record : TraceRecord) : record.ReadFrom record.toJson :=
  .object rfl rfl rfl (.inl rfl) rfl

/-- A context that cannot be read makes the whole record unreadable. -/
theorem TraceRecord.read_form_eq_shape {v context : Json}
    (given : (∃ members, v = .obj members ∧ members.lookup "context" = some context) ∨
      ∃ action resource subject result, v = .arr [action, resource, subject, context, result])
    (unreadable : Context.ofJson? context = none) :
    TraceRecord.form.read v = .error .shape := by
  refine Form.ofOption_eq_shape_iff.mpr (Option.eq_none_iff_forall_ne_some.mpr ?_)
  intro record found
  have context_ne : context ≠ record.context.toJson := fun same =>
    Option.eq_none_iff_forall_ne_some.mp unreadable _ (Context.ofJson?_eq_some_iff.mpr same)
  have shape : record.ReadFrom v :=
    TraceRecord.read_form_eq_ok_iff.mp (Form.ofOption_eq_ok_iff.mpr found)
  rcases given with ⟨members, rfl, there⟩ | ⟨action, resource, subject, result, rfl⟩
  · cases shape with
    | object _ _ _ context _ =>
      rw [there] at context
      rcases context with same | ⟨missing, -⟩
      · exact context_ne (Option.some.inj same)
      · cases missing
  · cases shape with
    | list => exact context_ne rfl

/-! ## All forms -/

theorem Urn.read_form_iff {v : Json} {u : Urn} :
    Urn.form.read v = .ok u ↔ u.ColonFree ∧ v = .str u.text := by
  cases v with
  | str text => rw [Urn.read_form_eq_ok_iff, Urn.parse_eq_ok_iff, Json.str.injEq]
  | _ => exact iff_of_false nofun (by rintro ⟨-, same⟩; cases same)

/-- **What is kept for an audit has canonical forms.**

* Every record, context value, context, effect and scope is read from what it is written as, each
  context value as the one text or the list of texts that it was; and so is every URN without a
  colon in its segments. Whatever else is read, from whichever shape, has the same normal form as
  what it was read as, and that form is its own.
* A record is read from an object in which an empty context may be left out and other members do
  not matter, or from the list of its five fields; an effect is read from its text, or from an
  object with its text for the only name.
* A context value is a text or a list of texts. Anything else, under any name, makes the context
  unreadable, and with it the record. -/
theorem Form.audit_forms_canonical :
    (TraceRecord.form.Canonical fun _ => True) ∧
      (ContextValue.form.Canonical fun _ => True) ∧
      (Context.form.Canonical fun _ => True) ∧
      (Effect.form.Canonical fun _ => True) ∧
      (ScopeId.form.Canonical fun _ => True) ∧
      Urn.form.Canonical Urn.ColonFree ∧
      (∀ v record, TraceRecord.form.read v = .ok record ↔ record.ReadFrom v) ∧
      (∀ v e, Effect.form.read v = .ok e ↔ e.ReadFrom v) ∧
      ∀ value : Json, (∀ text : String, value ≠ .str text) →
        (∀ texts : List String, value ≠ .arr (texts.map .str)) →
          ContextValue.form.read value = .error .shape ∧
            ∀ members name, (name, value) ∈ members →
              Context.form.read (.obj members) = .error .shape ∧
                (∀ fields, fields.lookup "context" = some (.obj members) →
                  TraceRecord.form.read (.obj fields) = .error .shape) ∧
                ∀ action resource subject result,
                  TraceRecord.form.read (.arr [action, resource, subject, .obj members, result]) =
                    .error .shape := by
  refine ⟨.of_read_write (fun record _ => ?_) fun _ _ _ => trivial,
    .of_read_write (fun c _ => ?_) fun _ _ _ => trivial,
    .of_read_write (fun c _ => ?_) fun _ _ _ => trivial,
    .of_read_write (fun e _ => ?_) fun _ _ _ => trivial,
    .of_read_write (fun id _ => ?_) fun _ _ _ => trivial,
    .of_read_write (fun u free => ?_) fun v u read => (Urn.read_form_iff.mp read).1,
    fun _ _ => TraceRecord.read_form_eq_ok_iff, fun _ _ => Effect.read_form_eq_ok_iff,
    fun value no_text no_texts => ⟨?_, fun members name member => ?_⟩⟩
  · exact TraceRecord.read_form_eq_ok_iff.mpr record.readFrom_toJson
  · exact Form.ofOption_eq_ok_iff.mpr (ContextValue.ofJson?_eq_some_iff.mpr rfl)
  · exact Form.ofOption_eq_ok_iff.mpr (Context.ofJson?_eq_some_iff.mpr rfl)
  · exact Effect.read_form_eq_ok_iff.mpr .text
  · exact ScopeId.read_form_eq_ok_iff.mpr rfl
  · exact Urn.read_form_iff.mpr ⟨free, rfl⟩
  · exact Form.ofOption_eq_shape_iff.mpr (ContextValue.ofJson?_eq_none no_text no_texts)
  · have unreadable := Context.ofJson?_eq_none_of_mem member no_text no_texts
    exact ⟨Form.ofOption_eq_shape_iff.mpr unreadable,
      fun fields there =>
        TraceRecord.read_form_eq_shape (.inl ⟨fields, rfl, there⟩) unreadable,
      fun action resource subject result =>
        TraceRecord.read_form_eq_shape (.inr ⟨action, resource, subject, result, rfl⟩) unreadable⟩

end Arbiter
