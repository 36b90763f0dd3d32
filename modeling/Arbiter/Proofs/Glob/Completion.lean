import Arbiter.Proofs.Glob.Concatenation
import Arbiter.Proofs.Glob.Expression

/-!
# Globs that end too early

A glob may end with groups open, or behind a backslash that has nothing to escape. The groups
are closed there and the backslash is nothing, so the glob has the same tokens when its end is
completed: the backslash is taken away, and a brace is put for each group that is open. Neither
changes what stands before, since the text ahead matters only where a crossing goes on with stars.

* `tokens_append_closings` and `tokens_append_backslash`: braces that close the open groups, and
  a backslash with nothing behind it, change no tokens.
* `exists_settled_front`: before a backslash that is pending at the end, none is pending.
* `completed`: a glob with its end completed. `scan_completed` and `tokens_completed`: nothing
  is open or pending there, and the tokens are those of the glob.
* `eq_lone_star_of_scan`: only a lone star is read into a star and nothing else, so a lone star
  with a backslash behind it cannot be completed.
* `exists_closed_expression`: every other glob has the expression of a glob that ends complete.
* `Pattern.accepts_completed`: a glob that is not refused accepts the same when it is completed.
-/

namespace Arbiter.Glob

/-! ## Braces and backslashes at the end -/

/-- As many braces as there are open groups close all of them. -/
theorem scan_closings (depth : Nat) :
    scan ⟨false, depth⟩ (List.replicate depth '}') =
      (List.replicate depth .closing, .start) := by
  induction depth with
  | zero => rfl
  | succ depth ih =>
    have close (ahead : List Char) :
        Cursor.read ⟨false, depth + 1⟩ '}' ahead = (some .closing, ⟨false, depth⟩) := rfl
    rw [List.replicate_succ, Reading.scan_cons_of_read (close _), ih, List.replicate_succ]
    rfl

theorem scan_append_closings {s : Cursor} {text : List Char} {depth : Nat}
    (ended : (scan s text).2 = ⟨false, depth⟩) :
    scan s (text ++ List.replicate depth '}') =
      ((scan s text).1 ++ List.replicate depth .closing, .start) := by
  have braces : (List.replicate depth '}').head? ≠ some '*' := by
    intro star
    have brace := List.eq_of_mem_replicate (List.mem_of_mem_head? star)
    exact absurd brace (by decide)
  rw [scan_append (.of_head_ne braces text), ended, scan_closings]

/-- A backslash with none pending before it is pending itself. -/
theorem Cursor.read_backslash {s : Cursor} (settled : s.escaping = false) (ahead : List Char) :
    s.read '\\' ahead = (none, ⟨true, s.depth⟩) := by
  rcases s with ⟨escaping, depth⟩
  obtain rfl : escaping = false := settled
  rfl

/-- A backslash at the end is read where the text before it ends. -/
theorem scan_append_backslash {s next : Cursor} {text : List Char} {token : Option Token}
    (step : (scan s text).2.read '\\' [] = (token, next)) :
    scan s (text ++ ['\\']) = ((scan s text).1 ++ token.toList, next) := by
  have backslash : ['\\'].head? ≠ some '*' := by decide
  rw [scan_append (.of_head_ne backslash text), Reading.scan_cons_of_read step, scan,
    List.append_nil]

/-- Braces that close the groups left open by a glob change none of its tokens. -/
theorem tokens_append_closings {glob : List Char} {depth : Nat}
    (ended : (scan .start glob).2 = ⟨false, depth⟩) :
    tokens (glob ++ List.replicate depth '}') = tokens glob := by
  by_cases lone : glob = ['*']
  · subst lone
    obtain rfl : 0 = depth := congrArg Cursor.depth ended
    rfl
  · have braces : List.replicate depth '}' ≠ ['*'] := by
      intro star
      have brace : '*' ∈ List.replicate depth '}' := by
        rw [star]
        exact List.mem_singleton_self '*'
      exact absurd (List.eq_of_mem_replicate brace) (by decide)
    rw [tokens_of_several (append_ne_lone_star lone braces), scan_append_closings ended,
      tokens_of_several lone, ended]
    exact List.append_nil _

/-- A backslash with nothing behind it changes no tokens either. Behind a lone star it would:
the star is not alone then, and stays within its segment. -/
theorem tokens_append_backslash {glob : List Char} (several : glob ≠ ['*'])
    (settled : (scan .start glob).2.escaping = false) :
    tokens (glob ++ ['\\']) = tokens glob := by
  have backslash : ['\\'] ≠ ['*'] := by decide
  rw [tokens_of_several (append_ne_lone_star several backslash),
    scan_append_backslash (Cursor.read_backslash settled []), tokens_of_several several,
    Option.toList_none, List.append_nil]

/-! ## What stands before a pending backslash -/

/-- The last character of a text is read with nothing ahead of it. `scan_append` does not say
this of a star, which may end a crossing that begins before it. -/
theorem exists_read_last (s : Cursor) (text : List Char) (c : Char) :
    ∃ before : Cursor, (scan s (text ++ [c])).2 = (before.read c []).2 := by
  induction text generalizing s with
  | nil => exact ⟨s, rfl⟩
  | cons d text ih => exact ih (s.read d (text ++ [c])).2

/-- A text that ends behind a pending backslash has nothing pending before the backslash. -/
theorem exists_settled_front {text : List Char}
    (pending : (scan .start text).2.escaping = true) :
    ∃ front, text = front ++ ['\\'] ∧ (scan .start front).2.escaping = false := by
  rcases List.eq_nil_or_concat' text with empty | ⟨front, c, split⟩
  · subst empty
    cases pending
  · subst split
    obtain ⟨before, last⟩ := exists_read_last .start front c
    obtain rfl : c = '\\' := by
      rcases before.read_cases c [] with ⟨-, backslash, -⟩ | ⟨token, depth, step⟩
      · exact backslash
      · rw [last, step] at pending
        cases pending
    refine ⟨front, rfl, ?_⟩
    rcases (scan .start front).2.read_cases '\\' [] with ⟨settled, -, -⟩ | ⟨token, depth, step⟩
    · exact settled
    · rw [scan_append_backslash step] at pending
      cases pending

/-! ## Completing a glob -/

/-- A glob with its end completed: without a backslash that is pending there, and with the
groups closed that are open there. -/
def completed (glob : List Char) : List Char :=
  let last := (scan .start glob).2
  (if last.escaping then glob.dropLast else glob) ++ List.replicate last.depth '}'

/-- The completed glob closes the groups of a text in which no backslash is left pending. This
text is the glob, or the glob has one more backslash. -/
theorem completed_cases (glob : List Char) :
    ∃ front depth, (scan .start front).2 = ⟨false, depth⟩ ∧
      completed glob = front ++ List.replicate depth '}' ∧
      (glob = front ∨ glob = front ++ ['\\']) := by
  cases pending : (scan .start glob).2.escaping with
  | false =>
    refine ⟨glob, (scan .start glob).2.depth, ?_, ?_, .inl rfl⟩
    · rw [← pending]
    · rw [completed, pending]
      rfl
  | true =>
    obtain ⟨front, split, settled⟩ := exists_settled_front pending
    subst split
    refine ⟨front, (scan .start front).2.depth, ?_, ?_, .inr rfl⟩
    · rw [← settled]
    · rw [completed, pending, scan_append_backslash (Cursor.read_backslash settled []),
        if_pos rfl, List.dropLast_concat]

theorem scan_completed (glob : List Char) : (scan .start (completed glob)).2 = .start := by
  obtain ⟨front, depth, ended, closed, -⟩ := completed_cases glob
  rw [closed, scan_append_closings ended]

/-- A glob has the same tokens when it is completed, unless that would leave a lone star. -/
theorem tokens_completed {glob : List Char} (completable : glob ≠ ['*', '\\']) :
    tokens (completed glob) = tokens glob := by
  obtain ⟨front, depth, ended, closed, same | backslash⟩ := completed_cases glob
  · rw [closed, tokens_append_closings ended, same]
  · have several : front ≠ ['*'] := by
      rintro rfl
      exact completable backslash
    have settled : (scan .start front).2.escaping = false := congrArg Cursor.escaping ended
    rw [closed, tokens_append_closings ended, backslash, tokens_append_backslash several settled]

theorem tokens_toList_completed {glob : String} (completable : glob ≠ "*\\") :
    tokens (String.ofList (completed glob.toList)).toList = tokens glob.toList := by
  have list : glob.toList ≠ ['*', '\\'] := fun same => completable (String.toList_inj.mp same)
  rw [String.toList_ofList, tokens_completed list]

example : completed "a\x7b\\,\x7bb:*\\".toList = "a\x7b\\,\x7bb:*\x7d\x7d".toList := rfl

/-! ## The lone star -/

/-- A star is read from a star that nothing escapes. -/
theorem Cursor.eq_star_of_read {s next : Cursor} {c : Char} {ahead : List Char}
    (step : s.read c ahead = (some .star, next)) : s.escaping = false ∧ c = '*' := by
  rcases s with ⟨escaping, depth⟩
  unfold Cursor.read at step
  split at step
  · cases step
  · cases escaping with
    | true => cases step
    | false =>
      rw [if_neg Bool.false_ne_true] at step
      refine ⟨rfl, ?_⟩
      split at step
      · rfl
      · cases step
      · cases step
      · cases step
      · cases depth with
        | zero => cases step
        | succ depth => cases step
      · have comma := congrArg Prod.fst step
        dsimp only at comma
        split at comma
        · cases comma
        · cases comma
      · cases step

/-- A text that is read into nothing, and leaves no backslash pending, is empty. -/
theorem eq_nil_of_scan {s : Cursor} {text : List Char} (found : (scan s text).1 = [])
    (settled : (scan s text).2.escaping = false) : text = [] := by
  induction text generalizing s with
  | nil => rfl
  | cons c text ih =>
    rcases s.read_cases c text with ⟨-, -, step⟩ | ⟨token, depth, step⟩
    · -- The backslash is pending behind itself, so there has to be a character that ends it.
      rw [Reading.scan_cons_of_read step] at found settled
      obtain rfl := ih found settled
      cases settled
    · rw [Reading.scan_cons_of_read step] at found
      cases found

/-- A text that is read into a star alone, from its first character on, is that star. -/
theorem star_of_scan_cons {s next : Cursor} {c : Char} {text : List Char} {token : Token}
    (step : s.read c text = (some token, next))
    (found : scan s (c :: text) = ([.star], .start)) :
    s.escaping = false ∧ c = '*' ∧ text = [] := by
  rw [Reading.scan_cons_of_read step] at found
  obtain ⟨rfl, behind⟩ := List.cons.inj (congrArg Prod.fst found)
  obtain ⟨settled, star⟩ := Cursor.eq_star_of_read step
  have ended : (scan next text).2.escaping = false := congrArg (·.2.escaping) found
  exact ⟨settled, star, eq_nil_of_scan behind ended⟩

/-- Only a lone star is read into a star alone and leaves no backslash pending. -/
theorem eq_lone_star_of_scan {text : List Char} (found : scan .start text = ([.star], .start)) :
    text = ['*'] := by
  cases text with
  | nil => cases found
  | cons c text =>
    rcases Cursor.start.read_cases c text with ⟨-, -, pending⟩ | ⟨token, depth, step⟩
    · -- The token comes from the character behind the backslash, which makes it no star.
      rw [Reading.scan_cons_of_read pending] at found
      cases text with
      | nil => cases found
      | cons d text =>
        rcases Cursor.read_cases ⟨true, 0⟩ d text with ⟨settled, -, -⟩ | ⟨token, depth, step⟩
        · cases settled
        · obtain ⟨settled, -, -⟩ := star_of_scan_cons step found
          cases settled
    · obtain ⟨-, rfl, rfl⟩ := star_of_scan_cons step found
      rfl

/-- The tokens of a lone star with a backslash behind it belong to no glob that ends complete. -/
theorem tokens_ne_of_closed {closed : List Char} (ended : (scan .start closed).2 = .start) :
    tokens closed ≠ tokens ['*', '\\'] := by
  intro same
  have star : tokens ['*', '\\'] = [.star] := by decide
  rw [star] at same
  have several : closed ≠ ['*'] := by
    rintro rfl
    cases same
  have found : (scan .start closed).1 = [.star] := by
    rw [tokens_of_several several, ended] at same
    rw [← same]
    exact (List.append_nil _).symm
  exact several (eq_lone_star_of_scan (Prod.ext found ended))

/-! ## Expressions -/

/-- **Globs that end too early.** The braces that close the groups left open by a glob do not
change its expression, and neither does a backslash with nothing behind it, unless it stands
behind a lone star. So every glob has the expression of one that closes each group it opens and
leaves no backslash pending. A lone star with a backslash behind it is the one exception: no
such glob has its expression. -/
theorem exists_closed_expression (glob : String) :
    (∀ depth, (scan .start glob.toList).2 = ⟨false, depth⟩ →
        expression (glob ++ String.ofList (List.replicate depth '}')) = expression glob) ∧
      (glob ≠ "*" → (scan .start glob.toList).2.escaping = false →
        expression (glob ++ "\\") = expression glob) ∧
      ((∃ closed : String, (scan .start closed.toList).2 = .start ∧
          expression closed = expression glob) ↔
        glob ≠ "*\\") := by
  refine ⟨fun depth ended => ?_, fun several settled => ?_, ?_, fun completable => ?_⟩
  · rw [expression_eq_iff, String.toList_append, String.toList_ofList]
    exact tokens_append_closings ended
  · rw [expression_eq_iff, String.toList_append]
    exact tokens_append_backslash (toList_ne_lone_star several) settled
  · rintro ⟨closed, ended, same⟩ rfl
    exact tokens_ne_of_closed ended (expression_eq_iff.mp same)
  · refine ⟨String.ofList (completed glob.toList), ?_, ?_⟩
    · rw [String.toList_ofList]
      exact scan_completed glob.toList
    · exact expression_eq_iff.mpr (tokens_toList_completed completable)

/-- Two groups that are left open behind a stray brace and an escaped one, with the front of a
crossing at the end, and the same with a backslash behind it. -/
theorem exists_closed_expression_of_stray_braces :
    (scan .start "\x7d\x7ba\\\x7b\x7b,:*".toList).2 = ⟨false, 2⟩ ∧
      expression ("\x7d\x7ba\\\x7b\x7b,:*" ++ String.ofList (List.replicate 2 '}')) =
        expression "\x7d\x7ba\\\x7b\x7b,:*" ∧
      expression ("\x7d\x7ba\\\x7b\x7b,:*" ++ "\\") = expression "\x7d\x7ba\\\x7b\x7b,:*" ∧
      (∃ closed : String, (scan .start closed.toList).2 = .start ∧
        expression closed = expression "\x7d\x7ba\\\x7b\x7b,:*") ∧
      ¬ ∃ closed : String, (scan .start closed.toList).2 = .start ∧
        expression closed = expression "*\\" :=
  have early := exists_closed_expression "\x7d\x7ba\\\x7b\x7b,:*"
  have exception := (exists_closed_expression "*\\").2.2
  have ended : (scan .start "\x7d\x7ba\\\x7b\x7b,:*".toList).2 = ⟨false, 2⟩ := by decide
  ⟨ended, early.1 2 ended, early.2.1 (by decide) (congrArg Cursor.escaping ended),
    early.2.2.mpr (by decide), fun closed => exception.mp closed rfl⟩

end Arbiter.Glob

namespace Arbiter.Pattern

open Glob

/-- A glob that is not refused accepts the same when it is completed. -/
theorem accepts_completed [SizeLimit] {glob : String} (completable : glob ≠ "*\\")
    (readable : ¬ Refused (tokens glob.toList)) (candidate : String) :
    (compile (String.ofList (completed glob.toList))).accepts candidate =
      (compile glob).accepts candidate := by
  have same := tokens_toList_completed completable
  have readable' : ¬ Refused (tokens (String.ofList (completed glob.toList)).toList) := by
    rwa [same]
  rw [Bool.eq_iff_iff, accepts_compile_iff_mem_language readable',
    accepts_compile_iff_mem_language readable, same]

end Arbiter.Pattern
