import Arbiter.Glob.Marks
import Mathlib.Computability.MyhillNerode
import Mathlib.Data.List.Infix

/-!
# The language of a glob's tokens

The tokens of a glob account for a language of texts. The language is built
token by token: a literal or a wildcard is appended to what has been read, and a
group remembers the language before it and the languages of its ended branches.

* `Marks.ofLanguage`: the marks that a language leaves on a candidate. Every
  operation on marks is an operation on languages, seen through this map.
* `follow_marks`: reading a token commutes with leaving marks.
* `accepts_iff_mem_language`: the matcher decides the language of the tokens.
-/

namespace Arbiter.Glob

/-! ## Classes of characters -/

/-- The texts of a single character of the class. -/
def oneOf (inClass : Char → Bool) : Language Char :=
  {w | ∃ c, inClass c = true ∧ w = [c]}

/-- The texts all of whose characters are in the class. -/
def runOf (inClass : Char → Bool) : Language Char :=
  {w | ∀ c ∈ w, inClass c = true}

/-- The empty text, if a condition holds. -/
def emptyIf (p : Prop) : Language Char :=
  {w | w = [] ∧ p}

theorem mem_oneOf {inClass : Char → Bool} {w : List Char} :
    w ∈ oneOf inClass ↔ ∃ c, inClass c = true ∧ w = [c] :=
  Iff.rfl

theorem mem_emptyIf {p : Prop} {w : List Char} : w ∈ emptyIf p ↔ w = [] ∧ p :=
  Iff.rfl

theorem mem_runOf {inClass : Char → Bool} {w : List Char} :
    w ∈ runOf inClass ↔ ∀ c ∈ w, inClass c = true :=
  Iff.rfl

/-- No text of a class of single characters is empty. -/
theorem nil_notMem_mul_oneOf (l : Language Char) (inClass : Char → Bool) :
    [] ∉ l * oneOf inClass := by
  rintro ⟨u, -, v, ⟨c, -, rfl⟩, eq⟩
  simp at eq

/-- A single character at the end is split off in only one way. -/
theorem concat_mem_mul_oneOf {l : Language Char} {inClass : Char → Bool} {u : List Char}
    {c : Char} : u ++ [c] ∈ l * oneOf inClass ↔ u ∈ l ∧ inClass c = true := by
  constructor
  · rintro ⟨v, inL, x, ⟨d, inD, rfl⟩, eq⟩
    obtain ⟨rfl, same⟩ := List.append_inj' eq rfl
    cases same
    exact ⟨inL, inD⟩
  · rintro ⟨inL, inC⟩
    exact Language.append_mem_mul inL ⟨c, inC, rfl⟩

theorem nil_mem_mul_runOf {l : Language Char} {inClass : Char → Bool} :
    [] ∈ l * runOf inClass ↔ [] ∈ l := by
  constructor
  · rintro ⟨u, inL, v, -, eq⟩
    obtain ⟨rfl, -⟩ := List.append_eq_nil_iff.mp eq
    exact inL
  · intro inL
    exact Language.append_mem_mul inL fun c member => by cases member

/-- The first character of a text either belongs to the run, and nothing stands
before the run, or to what stands before it. -/
theorem leftQuotient_mul_runOf (l : Language Char) (inClass : Char → Bool) (c : Char) :
    (l * runOf inClass).leftQuotient [c] =
      (l.leftQuotient [c] + emptyIf ([] ∈ l ∧ inClass c = true)) * runOf inClass := by
  ext w
  rw [Language.mem_leftQuotient, List.singleton_append]
  constructor
  · rintro ⟨u, inL, v, inRun, eq⟩
    rcases u with _ | ⟨d, u⟩
    · subst eq
      exact Language.append_mem_mul (a := [])
        (Or.inr ⟨rfl, inL, inRun c List.mem_cons_self⟩)
        fun x member => inRun x (List.mem_cons_of_mem c member)
    · obtain ⟨rfl, rfl⟩ := List.cons.inj eq
      exact Language.append_mem_mul (Or.inl inL) inRun
  · rintro ⟨u, inL | ⟨rfl, inL, inC⟩, v, inRun, rfl⟩
    · exact Language.append_mem_mul (a := c :: u) inL inRun
    · refine Language.append_mem_mul (a := []) (b := c :: v) inL ?_
      rintro x (_ | ⟨_, member⟩)
      · exact inC
      · exact inRun x member

theorem emptyIf_false : emptyIf False = 0 := by
  ext w
  exact iff_of_false (fun member => member.2) (Language.notMem_zero w)

theorem leftQuotient_add_emptyIf (l : Language Char) (p : Prop) (c : Char) :
    (l + emptyIf p).leftQuotient [c] = l.leftQuotient [c] := by
  ext w
  simp [Language.mem_leftQuotient, Language.mem_add, mem_emptyIf]

/-! ## Marks of a language -/

namespace Marks

open Classical in
/-- The marks that a language leaves on a candidate: a position is marked when the
text before it belongs to the language. -/
noncomputable def ofLanguage (l : Language Char) (candidate : List Char) : Marks :=
  candidate.inits.map fun u => decide (u ∈ l)

theorem ofLanguage_nil (l : Language Char) [Decidable ([] ∈ l)] :
    ofLanguage l [] = [decide ([] ∈ l)] := by
  simp [ofLanguage]

theorem ofLanguage_cons (l : Language Char) (c : Char) (w : List Char)
    [Decidable ([] ∈ l)] :
    ofLanguage l (c :: w) = decide ([] ∈ l) :: ofLanguage (l.leftQuotient [c]) w := by
  simp [ofLanguage, Function.comp_def, Language.mem_leftQuotient]

theorem length_ofLanguage (l : Language Char) (w : List Char) :
    (ofLanguage l w).length = w.length + 1 := by
  simp [ofLanguage]

theorem getElem_ofLanguage (l : Language Char) (w : List Char) (i : Nat)
    (h : i < (ofLanguage l w).length) [Decidable (w.take i ∈ l)] :
    (ofLanguage l w)[i] = decide (w.take i ∈ l) := by
  simp [ofLanguage]

theorem start_eq (w : List Char) : start w = ofLanguage 1 w := by
  classical
  rcases w with _ | ⟨c, w⟩
  · simp [start, ofLanguage_nil]
  · have rest : ofLanguage ((1 : Language Char).leftQuotient [c]) w =
        List.replicate (w.length + 1) false := by
      simp [ofLanguage, Language.mem_leftQuotient]
    simp [start, ofLanguage_cons, rest]

theorem blank_ofLanguage (l : Language Char) (w : List Char) :
    (ofLanguage l w).blank = ofLanguage 0 w := by
  simp [blank, ofLanguage, Language.notMem_zero]

theorem union_ofLanguage (l k : Language Char) (w : List Char) :
    (ofLanguage l w).union (ofLanguage k w) = ofLanguage (l + k) w := by
  classical
  apply List.ext_getElem
  · simp [union, length_ofLanguage]
  · intro i before after
    simp only [union, List.getElem_zipWith, getElem_ofLanguage, Language.mem_add,
      Bool.decide_or]

theorem shift_ofLanguage (inClass : Char → Bool) (l : Language Char) (w : List Char) :
    (ofLanguage l w).shift inClass w = ofLanguage (l * oneOf inClass) w := by
  classical
  apply List.ext_getElem
  · simp [shift, length_ofLanguage]
  · intro i before after
    rw [getElem_ofLanguage]
    rcases i with _ | i
    · simp [shift, nil_notMem_mul_oneOf]
    · have inside : i < w.length := by
        simp only [length_ofLanguage] at after
        omega
      simp only [shift, List.getElem_cons_succ, List.getElem_zipWith, getElem_ofLanguage,
        List.take_succ_eq_append_getElem inside, concat_mem_mul_oneOf, Bool.decide_and,
        Bool.decide_eq_true]

/-- A mark that arrives from the left is a text of the language that has just been
used up. -/
theorem spread_ofLanguage (inClass : Char → Bool) (arriving : Bool) (l : Language Char)
    (w : List Char) :
    (ofLanguage l w).spread inClass arriving w =
      ofLanguage ((l + emptyIf (arriving = true)) * runOf inClass) w := by
  classical
  have here (arriving : Bool) (l : Language Char) :
      (arriving || decide ([] ∈ l)) = decide ([] ∈ l + emptyIf (arriving = true)) := by
    simp [Language.mem_add, mem_emptyIf, or_comm]
  induction w generalizing arriving l with
  | nil =>
    simp only [ofLanguage_nil, spread, nil_mem_mul_runOf, here]
  | cons c w ih =>
    simp only [ofLanguage_cons, spread, ih, leftQuotient_mul_runOf, nil_mem_mul_runOf, here,
      leftQuotient_add_emptyIf, Bool.and_eq_true, decide_eq_true_eq]

theorem final_ofLanguage (l : Language Char) (w : List Char) [Decidable (w ∈ l)] :
    (ofLanguage l w).final = decide (w ∈ l) := by
  have last : (ofLanguage l w).getLast? = some (decide (w ∈ l)) := by
    rw [List.getLast?_eq_getElem?, List.getElem?_eq_getElem (by simp [length_ofLanguage])]
    simp [ofLanguage]
  rw [final, last, Option.getD_some]

end Marks

/-! ## Languages, token by token -/

/-- A group whose branches are being read, by its languages. -/
structure OpenTexts where
  /-- The texts before the group: what each of its branches continues. -/
  before : Language Char
  /-- The texts that the ended branches account for. -/
  reached : Language Char

/-- What has been read: the texts that the tokens account for, and the groups that
are open, innermost first. -/
abbrev Texts := Language Char × List OpenTexts

def Token.texts : Token → Language Char
  | .lit c => {[c]}
  | .one => oneOf inSegment
  | .star => runOf inSegment
  | .cross => ⊤
  | _ => 1

def Texts.read : Texts → Token → Texts
  | (l, groups), .opening => (l, ⟨l, 0⟩ :: groups)
  | (l, g :: groups), .bar => (g.before, ⟨g.before, g.reached + l⟩ :: groups)
  | (l, g :: groups), .closing => (g.reached + l, groups)
  | (l, groups), token => (l * token.texts, groups)

def language (tokens : List Token) : Language Char :=
  (tokens.foldl Texts.read (1, [])).1

/-- The marks that what has been read leaves on a candidate. -/
noncomputable def Texts.marks (candidate : List Char) (t : Texts) : Marks × List OpenGroup :=
  (.ofLanguage t.1 candidate,
    t.2.map fun g => ⟨.ofLanguage g.before candidate, .ofLanguage g.reached candidate⟩)

theorem oneOf_beq (c : Char) : oneOf (· == c) = {[c]} := by
  ext w
  constructor
  · rintro ⟨d, same, rfl⟩
    cases eq_of_beq same
    rfl
  · rintro rfl
    exact ⟨c, beq_self_eq_true c, rfl⟩

theorem runOf_true : runOf (fun _ => true) = ⊤ := by
  ext w
  exact iff_of_true (fun _ _ => rfl) trivial

/-- Reading a token commutes with leaving marks: the marks after a token are those
of the language after it. -/
theorem follow_marks (candidate : List Char) (t : Texts) (token : Token) :
    follow candidate (t.marks candidate) token = (t.read token).marks candidate := by
  rcases t with ⟨l, groups⟩
  cases token with
  | lit c =>
    have shifted := Marks.shift_ofLanguage (· == c) l candidate
    rw [oneOf_beq] at shifted
    exact congrArg (·, _) shifted
  | one => exact congrArg (·, _) (Marks.shift_ofLanguage inSegment l candidate)
  | star =>
    have spread := Marks.spread_ofLanguage inSegment false l candidate
    rw [Bool.false_eq_true, emptyIf_false, add_zero] at spread
    exact congrArg (·, _) spread
  | cross =>
    have spread := Marks.spread_ofLanguage (fun _ => true) false l candidate
    rw [Bool.false_eq_true, emptyIf_false, add_zero, runOf_true] at spread
    exact congrArg (·, _) spread
  | opening =>
    exact congrArg (fun reached => (_, OpenGroup.mk _ reached :: _))
      (Marks.blank_ofLanguage l candidate)
  | bar =>
    rcases groups with _ | ⟨g, groups⟩
    · exact congrArg (fun l => (Marks.ofLanguage l candidate, [])) (mul_one l).symm
    · exact congrArg (fun reached => (_, OpenGroup.mk _ reached :: _))
        (Marks.union_ofLanguage g.reached l candidate)
  | closing =>
    rcases groups with _ | ⟨g, groups⟩
    · exact congrArg (fun l => (Marks.ofLanguage l candidate, [])) (mul_one l).symm
    · exact congrArg (·, _) (Marks.union_ofLanguage g.reached l candidate)

theorem foldl_follow_marks (candidate : List Char) (t : Texts) (tokens : List Token) :
    tokens.foldl (follow candidate) (t.marks candidate) =
      (tokens.foldl Texts.read t).marks candidate := by
  induction tokens generalizing t with
  | nil => rfl
  | cons token tokens ih => rw [List.foldl_cons, List.foldl_cons, follow_marks, ih]

/-- The matcher decides the language of the tokens. -/
theorem accepts_iff_mem_language (tokens : List Token) (candidate : List Char) :
    accepts tokens candidate = true ↔ candidate ∈ language tokens := by
  classical
  have begin : (Marks.start candidate, []) = Texts.marks candidate (1, []) := by
    rw [Marks.start_eq]
    rfl
  rw [accepts, begin, foldl_follow_marks, Texts.marks, Marks.final_ofLanguage, decide_eq_true_eq,
    language]

end Arbiter.Glob
