import Arbiter.Json.Form
import Mathlib.Data.List.Basic

/-!
# URNs and their texts

A text is cut at its first five colons, so the segments of a URN that has been read hold
no colon, while its id may hold any number of them. Writing and reading undo each other
exactly on the URNs of this kind.

* `Urn.ColonFree`: no segment before the id holds a colon.
* `Urn.cutSegment?_eq_some_iff` and `Urn.ofSegments?_eq_some_iff`: what a cut, and what all
  five cuts find.
* `Urn.parse_eq_ok_iff`, `Urn.parse_eq_missingScheme_iff` and
  `Urn.parse_eq_tooFewSegments_iff`: the three answers of reading.
* `Urn.parse_roundTrip`: what reading and writing make of each other.
-/

namespace Arbiter

namespace Urn

/-- No segment before the id holds a colon. -/
structure ColonFree (u : Urn) : Prop where
  partition : ':' ∉ u.partition.toList
  service : ':' ∉ u.service.toList
  region : ':' ∉ u.region.toList
  owner : ':' ∉ u.owner.toList
  className : ':' ∉ u.className.toList

/-- The text of a URN behind the scheme. -/
def segmentChars (u : Urn) : List Char :=
  u.partition.toList ++ ':' :: (u.service.toList ++ ':' :: (u.region.toList ++
    ':' :: (u.owner.toList ++ ':' :: (u.className.toList ++ ':' :: u.id.toList))))

theorem chars_eq (u : Urn) : u.chars = scheme ++ u.segmentChars := by
  simp only [chars, segmentChars, List.append_assoc, List.cons_append]

theorem toList_text (u : Urn) : u.text.toList = scheme ++ u.segmentChars := by
  rw [text, String.toList_ofList, chars_eq]

/-- A text has at least the five colons behind the scheme that writing puts there. -/
theorem five_le_count_segmentChars (u : Urn) : 5 ≤ u.segmentChars.count ':' := by
  simp only [segmentChars, List.count_append, List.count_cons_self]
  omega

/-! ## A single cut -/

theorem cutSegment?_append {segment : String} (free : ':' ∉ segment.toList)
    (rest : List Char) :
    cutSegment? (segment.toList ++ ':' :: rest) = some (segment, rest) := by
  have inside : ∀ c ∈ segment.toList, (c != ':') = true := by
    intro c member
    rw [bne_iff_ne]
    rintro rfl
    exact free member
  rw [cutSegment?, List.dropWhile_append_of_pos inside, List.takeWhile_append_of_pos inside,
    List.dropWhile_cons_of_neg (by decide), List.takeWhile_cons_of_neg (by decide),
    List.append_nil, String.ofList_toList]

/-- A cut finds the first colon of a text. -/
theorem cutSegment?_eq_some_iff {text rest : List Char} {segment : String} :
    cutSegment? text = some (segment, rest) ↔
      ':' ∉ segment.toList ∧ text = segment.toList ++ ':' :: rest := by
  constructor
  · intro cut
    rw [cutSegment?] at cut
    split at cut
    · cases cut
    · next c behind found =>
      cases cut
      have stop := List.head?_dropWhile_not (· != ':') text
      have parts := List.takeWhile_append_dropWhile (p := (· != ':')) (l := text)
      rw [found] at stop parts
      rw [List.head?_cons] at stop
      obtain rfl : c = ':' := bne_eq_false_iff_eq.mp stop
      rw [String.toList_ofList]
      refine ⟨fun member => ?_, parts.symm⟩
      have before := List.all_eq_true.mp List.all_takeWhile ':' member
      exact absurd before (by decide)
  · rintro ⟨free, rfl⟩
    exact cutSegment?_append free rest

/-- A text with colons can be cut, and the cut takes away the first of them. -/
theorem exists_cutSegment? {text : List Char} {n : Nat} (enough : n + 1 ≤ text.count ':') :
    ∃ segment rest, cutSegment? text = some (segment, rest) ∧ n ≤ rest.count ':' := by
  have member : ':' ∈ text := List.count_pos_iff.mp (by omega)
  obtain ⟨before, rest, rfl, free⟩ := List.eq_append_cons_of_mem member
  refine ⟨String.ofList before, rest, ?_, ?_⟩
  · rw [cutSegment?_eq_some_iff, String.toList_ofList]
    exact ⟨free, rfl⟩
  · rw [List.count_append, List.count_eq_zero_of_not_mem free, List.count_cons_self] at enough
    omega

/-! ## All cuts -/

/-- The segments of a URN are found in its text if none of them holds a colon. -/
theorem ofSegments?_eq_some_iff {text : List Char} {u : Urn} :
    ofSegments? text = some u ↔ u.ColonFree ∧ text = u.segmentChars := by
  constructor
  · intro found
    simp only [ofSegments?, Option.bind_eq_bind, Option.bind_eq_some_iff, Prod.exists,
      cutSegment?_eq_some_iff] at found
    obtain ⟨partition, _, ⟨first, rfl⟩, service, _, ⟨second, rfl⟩, region, _, ⟨third, rfl⟩,
      owner, _, ⟨fourth, rfl⟩, className, id, ⟨fifth, rfl⟩, found⟩ := found
    cases found
    refine ⟨⟨first, second, third, fourth, fifth⟩, ?_⟩
    rw [segmentChars, String.toList_ofList]
  · rintro ⟨free, rfl⟩
    simp only [ofSegments?, segmentChars, cutSegment?_append free.partition,
      cutSegment?_append free.service, cutSegment?_append free.region,
      cutSegment?_append free.owner, cutSegment?_append free.className, Option.bind_eq_bind,
      Option.bind_some, String.ofList_toList]
    rfl

theorem exists_ofSegments? {text : List Char} (enough : 5 ≤ text.count ':') :
    ∃ u, ofSegments? text = some u := by
  obtain ⟨partition, _, first, enough⟩ := exists_cutSegment? enough
  obtain ⟨service, _, second, enough⟩ := exists_cutSegment? enough
  obtain ⟨region, _, third, enough⟩ := exists_cutSegment? enough
  obtain ⟨owner, _, fourth, enough⟩ := exists_cutSegment? enough
  obtain ⟨className, id, fifth, -⟩ := exists_cutSegment? enough
  refine ⟨⟨partition, service, region, owner, className, String.ofList id⟩, ?_⟩
  simp only [ofSegments?, first, second, third, fourth, fifth, Option.bind_eq_bind,
    Option.bind_some]
  rfl

theorem ofSegments?_eq_none_iff {text : List Char} :
    ofSegments? text = none ↔ text.count ':' < 5 := by
  constructor
  · intro missing
    apply Nat.lt_of_not_le
    intro enough
    obtain ⟨u, found⟩ := exists_ofSegments? enough
    rw [missing] at found
    cases found
  · intro few
    cases found : ofSegments? text with
    | none => rfl
    | some u =>
      obtain ⟨-, rfl⟩ := ofSegments?_eq_some_iff.mp found
      exact absurd few (Nat.not_lt.mpr u.five_le_count_segmentChars)

/-! ## Reading -/

/-- Reading finds exactly the URNs that the text is written from, and among these the one
without a colon in its segments. -/
theorem parse_eq_ok_iff {s : String} {u : Urn} :
    parse s = .ok u ↔ u.ColonFree ∧ s = u.text := by
  have written : s = u.text ↔ s.toList = scheme ++ u.segmentChars := by
    rw [← toList_text, String.toList_inj]
  rw [written, parse]
  cases behind : scheme.isPrefixOf? s.toList with
  | none =>
    refine iff_of_false nofun fun ⟨_, same⟩ => ?_
    rw [List.isPrefixOf?_eq_some_iff_append_eq.mpr same.symm] at behind
    cases behind
  | some rest =>
    rw [← List.isPrefixOf?_eq_some_iff_append_eq.mp behind, List.append_cancel_left_eq,
      ← ofSegments?_eq_some_iff]
    dsimp only
    cases ofSegments? rest with
    | none => exact iff_of_false nofun nofun
    | some v => rw [Except.ok.injEq, Option.some.injEq]

theorem parse_eq_missingScheme_iff {s : String} :
    parse s = .error (.missingScheme s) ↔ ¬ scheme <+: s.toList := by
  rw [parse]
  cases behind : scheme.isPrefixOf? s.toList with
  | none =>
    refine iff_of_true rfl ?_
    rintro ⟨rest, same⟩
    rw [List.isPrefixOf?_eq_some_iff_append_eq.mpr same] at behind
    cases behind
  | some rest =>
    have begun := List.isPrefixOf?_eq_some_iff_append_eq.mp behind
    refine iff_of_false ?_ fun absent => absent ⟨rest, begun⟩
    dsimp only
    cases ofSegments? rest with
    | none => nofun
    | some v => nofun

theorem parse_eq_tooFewSegments_iff {s : String} :
    parse s = .error (.tooFewSegments s) ↔
      ∃ rest, s.toList = scheme ++ rest ∧ rest.count ':' < 5 := by
  rw [parse]
  cases behind : scheme.isPrefixOf? s.toList with
  | none =>
    refine iff_of_false nofun ?_
    rintro ⟨rest, same, -⟩
    rw [List.isPrefixOf?_eq_some_iff_append_eq.mpr same.symm] at behind
    cases behind
  | some rest =>
    rw [List.isPrefixOf?_eq_some_iff_append_eq] at behind
    have few : (∃ rest, s.toList = scheme ++ rest ∧ rest.count ':' < 5) ↔ rest.count ':' < 5 := by
      simp only [← behind, List.append_cancel_left_eq, exists_eq_left']
    rw [few, ← ofSegments?_eq_none_iff]
    dsimp only
    cases ofSegments? rest with
    | none => exact iff_of_true rfl rfl
    | some v => exact iff_of_false nofun nofun

/-- A text with the scheme and five colons behind it is read as a URN. -/
theorem exists_parse {s : String} {rest : List Char} (behind : s.toList = scheme ++ rest)
    (enough : 5 ≤ rest.count ':') : ∃ u, parse s = .ok u := by
  obtain ⟨u, found⟩ := exists_ofSegments? enough
  refine ⟨u, ?_⟩
  rw [parse, List.isPrefixOf?_eq_some_iff_append_eq.mpr behind.symm]
  dsimp only
  rw [found]

/-- What any URN is written as can be read. -/
theorem exists_parse_text (u : Urn) : ∃ v, parse u.text = .ok v :=
  exists_parse u.toList_text u.five_le_count_segmentChars

/-- Among the URNs without a colon in their segments, the text names only one. -/
theorem text_injective {u v : Urn} (first : u.ColonFree) (second : v.ColonFree)
    (same : u.text = v.text) : u = v := by
  have read : parse u.text = .ok v := parse_eq_ok_iff.mpr ⟨second, same⟩
  rw [parse_eq_ok_iff.mpr ⟨first, rfl⟩] at read
  exact Except.ok.inj read

/-! ## Reading and writing -/

/-- The URN that is made of an id and a class, with segments set one after another. -/
def ofChanges (id className : String) (changes : List (Segment × String)) : Urn :=
  changes.foldl (fun u change => u.set change.1 change.2) (ofId id className)

theorem read_form_eq_ok_iff {s : String} {u : Urn} :
    form.read (.str s) = .ok u ↔ parse s = .ok u := by
  have read : form.read (.str s) = (parse s).mapError .urn := rfl
  rw [read]
  cases parse s with
  | ok v =>
    have kept : (Except.ok v).mapError FormError.urn = .ok v := rfl
    rw [kept, Except.ok.injEq, Except.ok.injEq]
  | error e => exact iff_of_false nofun nofun

/-- **Reading and writing URNs.**

* A text without the scheme, or with fewer than five colons behind it, is refused for this
  reason. Any other text is read as a URN without a colon in its segments, and this URN is
  written as the same text again.
* Whatever a URN is made of, its text can be read. The URN that is found has the same text,
  and is the same one exactly if no segment holds a colon.
* On URNs without a colon in their segments, different ones have different texts, whatever
  their ids hold, and the form that is exchanged loses nothing in either direction. -/
theorem parse_roundTrip :
    (∀ s : String,
      (parse s = .error (.missingScheme s) ↔ ¬ "urn:".toList <+: s.toList) ∧
      (parse s = .error (.tooFewSegments s) ↔
        ∃ rest, s.toList = "urn:".toList ++ rest ∧ rest.count ':' < 5) ∧
      ∀ rest, s.toList = "urn:".toList ++ rest → 5 ≤ rest.count ':' →
        ∃ u, parse s = .ok u ∧ u.ColonFree ∧ u.text = s) ∧
    (∀ (id className : String) (changes : List (Segment × String)),
      let u := ofChanges id className changes
      ∃ v, parse u.text = .ok v ∧ v.text = u.text ∧ (v = u ↔ u.ColonFree)) ∧
    (∀ u v : Urn, u.ColonFree → v.ColonFree → u.text = v.text → u = v) ∧
    (∀ u : Urn, form.read (form.write u) = .ok u ↔ u.ColonFree) ∧
    ∀ (s : String) (u : Urn), form.read (.str s) = .ok u → form.write u = .str s := by
  refine ⟨fun s => ⟨parse_eq_missingScheme_iff, parse_eq_tooFewSegments_iff,
    fun rest behind enough => ?_⟩, fun id className changes => ?_,
    fun u v => text_injective, fun u => ?_, fun s u read => ?_⟩
  · obtain ⟨u, found⟩ := exists_parse behind enough
    obtain ⟨free, same⟩ := parse_eq_ok_iff.mp found
    exact ⟨u, found, free, same.symm⟩
  · intro u
    obtain ⟨v, found⟩ := exists_parse_text u
    obtain ⟨free, same⟩ := parse_eq_ok_iff.mp found
    refine ⟨v, found, same.symm, ?_, fun own => text_injective free own same.symm⟩
    rintro rfl
    exact free
  · have written : form.write u = .str u.text := rfl
    rw [written, read_form_eq_ok_iff, parse_eq_ok_iff, and_iff_left rfl]
  · obtain ⟨-, rfl⟩ := parse_eq_ok_iff.mp (read_form_eq_ok_iff.mp read)
    rfl

-- A colon in the class moves the border between the class and the id.
example : parse (ofId "4" "a:b").text = .ok (ofId "b:4" "a") := by cbv

end Urn

end Arbiter
