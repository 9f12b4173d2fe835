import Mathlib.Data.List.TakeWhile
import RouteAudit.Segment

/-!
# The grammar of segments

What a fragment of a path template reads as is told by a grammar, form by form and without any
reading: `:name*` is a wildcard, `:name(inner)` a constrained parameter, `:first-second` a compound
one, and so on. The reader accepts exactly this grammar. So no fragment can be read in two ways, and
a form that is tried earlier takes no fragment away from a later one, except that `:first-second*`
is a wildcard.
-/

namespace RouteAudit

/-- What is told of a segment. -/
structure Reading where
  kind : SegmentKind
  normalized : String
  paramName : Option String
  constraint : Option String
  deriving DecidableEq, Repr

namespace Segment

/-- What is told of a segment that has been read. -/
def reading (segment : Segment) : Reading :=
  ⟨segment.kind, segment.normalized, segment.paramName?, segment.constraint?⟩

/-! ## The grammar -/

/-- Whether a fragment ends with a question mark. -/
def isMarked (raw : String) : Bool :=
  raw.toList.getLast? == some '?'

/-- A fragment without the question mark at its end, if it has one. -/
def unmarked (raw : String) : String :=
  if isMarked raw then String.ofList raw.toList.dropLast else raw

/-- Whether a fragment begins with a colon. -/
def hasColon (raw : String) : Bool :=
  raw.toList.head? == some ':'

/-- A name that ends where a parenthesis opens. -/
def IsName (name : String) : Prop :=
  name ≠ "" ∧ '(' ∉ name.toList

/-- `:name*`, perhaps with a line feed behind it. -/
def NamesWildcard (base name : String) : Prop :=
  IsName name ∧ (base = ":" ++ name ++ "*" ∨ base = ":" ++ name ++ "*\n")

/-- `:name(inner)`, perhaps with a line feed behind it. The constraint is on one line and may hold
parentheses itself. -/
def Constrains (base name inner : String) : Prop :=
  IsName name ∧ (inner ≠ "" ∧ '\n' ∉ inner.toList) ∧
    (base = ":" ++ name ++ "(" ++ inner ++ ")" ∨ base = ":" ++ name ++ "(" ++ inner ++ ")\n")

/-- One of two names that share a fragment. -/
def IsHalf (name : String) : Prop :=
  name ≠ "" ∧ '-' ∉ name.toList ∧ ':' ∉ name.toList ∧ '(' ∉ name.toList

/-- `:first-second` or `:first-:second`. -/
def Pairs (base first second : String) : Prop :=
  IsHalf first ∧ IsHalf second ∧
    (base = ":" ++ first ++ "-" ++ second ∨ base = ":" ++ first ++ "-:" ++ second)

/-- None of the three forms above. -/
structure IsPlain (base : String) : Prop where
  noWildcard : ∀ name, ¬NamesWildcard base name
  noConstraint : ∀ name inner, ¬Constrains base name inner
  noPair : ∀ first second, ¬Pairs base first second

/-- What a fragment reads as. -/
inductive Grammar (raw : String) : Reading → Prop
  | anything (h : raw = "*" ∨ raw = "**") : Grammar raw ⟨.wildcard, "*", none, none⟩
  | namedWildcard {name : String} (h : NamesWildcard (unmarked raw) name) :
      Grammar raw ⟨.wildcard, "*", some name, none⟩
  | constrained {name inner : String} (h : Constrains (unmarked raw) name inner) :
      Grammar raw ⟨.constrainedParam, ":param", some name, some ("(" ++ inner ++ ")")⟩
  | compound {first second : String} (hother : ∀ name, ¬NamesWildcard (unmarked raw) name)
      (h : Pairs (unmarked raw) first second) :
      Grammar raw ⟨.compoundParam, ":param-:param", some (first ++ "-" ++ second), none⟩
  | optional {name : String} (hother : IsPlain (unmarked raw)) (h : unmarked raw = ":" ++ name)
      (hmark : isMarked raw = true) : Grammar raw ⟨.optionalParam, ":param?", some name, none⟩
  | param {name : String} (hother : IsPlain (unmarked raw)) (h : unmarked raw = ":" ++ name)
      (hmark : isMarked raw = false) : Grammar raw ⟨.param, ":param", some name, none⟩
  | literal (hother : raw ≠ "*" ∧ raw ≠ "**") (h : hasColon raw = false) :
      Grammar raw ⟨.static, raw, none, none⟩

/-! ## The three forms -/

/-- A text with a final line feed dropped ends with another character if the text does, or if the
text ends with this character and a line feed. -/
theorem dropFinalNewline_eq_concat_iff {body text : List Char} {c : Char} (hc : c ≠ '\n') :
    dropFinalNewline body = text ++ [c] ↔ body = text ++ [c] ∨ body = text ++ [c, '\n'] := by
  unfold dropFinalNewline
  split
  · next hlast =>
    obtain ⟨front, rfl⟩ := List.getLast?_eq_some_iff.mp hlast
    have hother : front ++ ['\n'] ≠ text ++ [c] := by
      intro heq
      exact hc (List.append_inj_right' heq rfl |> List.singleton_inj.mp).symm
    have hend : front ++ ['\n'] = text ++ [c, '\n'] ↔ front = text ++ [c] := by
      rw [show text ++ [c, '\n'] = (text ++ [c]) ++ ['\n'] by simp, List.append_left_inj]
    rw [List.dropLast_concat, hend]
    simp [hother]
  · next hlast =>
    have hother : body ≠ text ++ [c, '\n'] := by
      rintro rfl
      simp at hlast
    simp [hother]

/-- A text that goes on with a character that fails a test, behind characters that pass it, is
divided there. -/
theorem divide_of_stop {p : Char → Bool} {front : List Char} {c : Char}
    (hfront : ∀ d ∈ front, p d = true) (hc : p c = false) (rest : List Char) :
    (front ++ c :: rest).takeWhile p = front ∧ (front ++ c :: rest).dropWhile p = c :: rest := by
  constructor
  · rw [List.takeWhile_append_of_pos hfront, List.takeWhile_cons_of_neg (by simp [hc]),
      List.append_nil]
  · rw [List.dropWhile_append_of_pos hfront, List.dropWhile_cons_of_neg (by simp [hc])]

/-- Where a text is divided by a test, the first character behind the division fails the test. -/
theorem eq_false_of_dropWhile_eq_cons {p : Char → Bool} {body rest : List Char} {c : Char}
    (h : body.dropWhile p = c :: rest) : p c = false := by
  have hhead := List.head?_dropWhile_not p body
  rw [h] at hhead
  simpa using hhead

/-- `name*` is read exactly where it is written. -/
theorem wildcardName?_eq_some_iff {body name : List Char} :
    wildcardName? body = some name ↔
      (name ≠ [] ∧ '(' ∉ name) ∧ (body = name ++ ['*'] ∨ body = name ++ ['*', '\n']) := by
  have hstar : '*' ≠ '\n' := by decide
  rw [← dropFinalNewline_eq_concat_iff hstar]
  unfold wildcardName?
  simp only [Option.ite_none_right_eq_some, Option.some.injEq]
  constructor
  · rintro ⟨⟨hlast, hne, hparen⟩, rfl⟩
    refine ⟨⟨hne, hparen⟩, ?_⟩
    obtain ⟨front, hfront⟩ := List.getLast?_eq_some_iff.mp hlast
    rw [hfront, List.dropLast_concat]
  · rintro ⟨hname, hbody⟩
    rw [hbody, List.dropLast_concat]
    exact ⟨⟨List.getLast?_concat, hname⟩, rfl⟩

/-- `name(inner)` is read exactly where it is written. -/
theorem constrainedParts?_eq_some_iff {body name inner : List Char} :
    constrainedParts? body = some (name, inner) ↔
      (name ≠ [] ∧ '(' ∉ name) ∧ (inner ≠ [] ∧ '\n' ∉ inner) ∧
        (body = name ++ ('(' :: inner ++ [')']) ∨
          body = name ++ ('(' :: inner ++ [')', '\n'])) := by
  have hclose : ')' ≠ '\n' := by decide
  unfold constrainedParts?
  constructor
  · intro h
    split at h
    · next c rest hrest =>
      simp only [Option.ite_none_right_eq_some, Option.some.injEq, Prod.mk.injEq] at h
      obtain ⟨⟨hname, hlast, hinner, hline⟩, rfl, rfl⟩ := h
      have hparen : '(' ∉ body.takeWhile (· != '(') :=
        fun hmem => by simpa using List.mem_takeWhile_imp hmem
      refine ⟨⟨hname, hparen⟩, ⟨hinner, hline⟩, ?_⟩
      obtain ⟨front, rfl⟩ := List.getLast?_eq_some_iff.mp hlast
      have hbody := List.takeWhile_append_dropWhile (p := (· != '(')) (l := body)
      rw [List.dropLast_concat]
      rw [← List.cons_append, dropFinalNewline_eq_concat_iff hclose] at hrest
      rcases hrest with hrest | hrest
      · obtain rfl : c = '(' := by simpa using eq_false_of_dropWhile_eq_cons hrest
        exact .inl (hrest ▸ hbody.symm)
      · obtain rfl : c = '(' := by simpa using eq_false_of_dropWhile_eq_cons hrest
        exact .inr (hrest ▸ hbody.symm)
    · cases h
  · rintro ⟨⟨hname, hparen⟩, ⟨hinner, hline⟩, hbody⟩
    have hpass : ∀ d ∈ name, (d != '(') = true := by
      intro d hd
      exact bne_iff_ne.mpr fun h => hparen (h ▸ hd)
    have hrest : body.takeWhile (· != '(') = name ∧
        dropFinalNewline (body.dropWhile (· != '(')) = '(' :: inner ++ [')'] := by
      rw [dropFinalNewline_eq_concat_iff hclose]
      rcases hbody with rfl | rfl
      · obtain ⟨htake, hdrop⟩ := divide_of_stop hpass (bne_self_eq_false '(') (inner ++ [')'])
        exact ⟨htake, .inl hdrop⟩
      · obtain ⟨htake, hdrop⟩ := divide_of_stop hpass (bne_self_eq_false '(') (inner ++ [')', '\n'])
        exact ⟨htake, .inr hdrop⟩
    simp only [hrest.1, hrest.2, List.cons_append, List.dropLast_concat, List.getLast?_concat]
    rw [if_pos ⟨hname, trivial, hinner, hline⟩]

/-- Characters that may occur in one of two names are neither dashes nor colons, and open no
parenthesis. -/
theorem all_isCompoundChar_iff {name : List Char} :
    name.all isCompoundChar = true ↔ '-' ∉ name ∧ ':' ∉ name ∧ '(' ∉ name := by
  induction name with
  | nil => simp
  | cons c rest ih =>
    rw [List.all_cons, Bool.and_eq_true, ih]
    simp only [isCompoundChar, Bool.and_eq_true, bne_iff_ne, List.mem_cons, not_or, ne_comm]
    grind

/-- `first-second` and `first-:second` are read exactly where they are written. -/
theorem compoundParts?_eq_some_iff {body first second : List Char} :
    compoundParts? body = some (first, second) ↔
      (first ≠ [] ∧ first.all isCompoundChar = true) ∧
        (second ≠ [] ∧ second.all isCompoundChar = true) ∧
        (body = first ++ '-' :: second ∨ body = first ++ '-' :: ':' :: second) := by
  have hdash : isCompoundChar '-' = false := by decide
  unfold compoundParts?
  simp only [Option.ite_none_right_eq_some, Option.some.injEq, Prod.mk.injEq]
  constructor
  · rintro ⟨⟨hfirst, hsecond, hall⟩, rfl, hbehind⟩
    rw [hbehind] at hsecond hall
    refine ⟨⟨hfirst, List.all_takeWhile⟩, ⟨hsecond, hall⟩, ?_⟩
    have hbody := List.takeWhile_append_dropWhile (p := isCompoundChar) (l := body)
    split at hbehind
    · next rest hrest =>
      rw [hrest, hbehind] at hbody
      exact .inr hbody.symm
    · next rest _ hrest =>
      rw [hrest, hbehind] at hbody
      exact .inl hbody.symm
    · exact absurd hbehind.symm hsecond
  · rintro ⟨⟨hfirst, hpass⟩, ⟨hsecond, hall⟩, hbody⟩
    rw [List.all_eq_true] at hpass
    rcases hbody with rfl | rfl
    · obtain ⟨htake, hdrop⟩ := divide_of_stop hpass hdash second
      -- The second name does not begin with a colon, so all of it is behind the dash.
      obtain ⟨c, rest, rfl⟩ := List.exists_cons_of_ne_nil hsecond
      have hc : c ≠ ':' := by
        rintro rfl
        simp [isCompoundChar] at hall
      simp [htake, hdrop, hfirst, hc, hall]
    · obtain ⟨htake, hdrop⟩ := divide_of_stop hpass hdash (':' :: second)
      simp [htake, hdrop, hfirst, hsecond, hall]

/-! ## Fragments that begin with a colon -/

/-- The question mark at the end of a fragment is behind the colon at its beginning. -/
theorem isMarked_of_colon {raw : String} {body : List Char} (h : raw.toList = ':' :: body) :
    isMarked raw = (body.getLast? == some '?') := by
  unfold isMarked
  cases body with
  | nil => rw [h]; rfl
  | cons c rest => rw [h, List.getLast?_cons_cons]

/-- A fragment that begins with a colon does so without its question mark, and it is read by what is
between the two. -/
theorem exists_unmarked_of_colon {raw : String} (h : hasColon raw = true) :
    ∃ body, (unmarked raw).toList = ':' :: body ∧
      (parse raw).shape = paramShape body (isMarked raw) := by
  obtain ⟨body, hraw⟩ := List.head?_eq_some_iff.mp (beq_iff_eq.mp h)
  have hmark := isMarked_of_colon hraw
  by_cases hlast : body.getLast? = some '?'
  · obtain ⟨front, rfl⟩ := List.getLast?_eq_some_iff.mp hlast
    have hmarked : isMarked raw = true := by simp [hmark]
    refine ⟨front, ?_, ?_⟩
    · simp only [unmarked, hmarked, if_true, hraw, ← List.cons_append, List.dropLast_concat,
        String.toList_ofList]
    · simp [parse, shapeOf, hraw, hmarked]
  · have hplain : isMarked raw = false := by simp [hmark, hlast]
    refine ⟨body, ?_, ?_⟩
    · simp [unmarked, hplain, hraw]
    · simp [parse, shapeOf, hraw, hlast, hplain]

/-- A fragment begins with a colon if it does without its question mark. -/
theorem hasColon_of_unmarked {raw : String} {body : List Char}
    (h : (unmarked raw).toList = ':' :: body) : hasColon raw = true := by
  have hbegins : (unmarked raw).toList <+: raw.toList := by
    unfold unmarked
    split
    · simpa using List.dropLast_prefix raw.toList
    · exact List.prefix_rfl
  obtain ⟨behind, hraw⟩ := hbegins
  simp [hasColon, ← hraw, h]

/-- What is between the colon and the question mark of a fragment decides its shape. -/
theorem shape_of_unmarked {raw : String} {body : List Char}
    (h : (unmarked raw).toList = ':' :: body) :
    (parse raw).shape = paramShape body (isMarked raw) := by
  obtain ⟨_, hbase, hshape⟩ := exists_unmarked_of_colon (hasColon_of_unmarked h)
  obtain rfl := (List.cons.inj (hbase.symm.trans h)).2
  exact hshape

section Forms

variable {base : String} {body : List Char}

/-- A colon and a text behind it. -/
theorem toList_of_colon_append {text : String} (h : base = ":" ++ text) :
    base.toList = ':' :: text.toList := by
  simp [h]

/-- What is behind the colon of a text. -/
theorem eq_colon_append_iff (hbody : base.toList = ':' :: body) {text : String} :
    base = ":" ++ text ↔ body = text.toList := by
  rw [← String.toList_inj, hbody]
  simp

/-- A fragment that begins with a colon is a colon and a name, apart from its question mark. -/
theorem exists_name_of_colon {raw : String} (h : hasColon raw = true) :
    ∃ name, unmarked raw = ":" ++ name := by
  obtain ⟨body, hbody, -⟩ := exists_unmarked_of_colon h
  exact ⟨String.ofList body, (eq_colon_append_iff hbody).mpr (by simp)⟩

/-- The first form is written where its name is read. -/
theorem namesWildcard_iff (hbody : base.toList = ':' :: body) {name : String} :
    NamesWildcard base name ↔ wildcardName? body = some name.toList := by
  simp only [wildcardName?_eq_some_iff, NamesWildcard, IsName, String.append_assoc,
    eq_colon_append_iff hbody]
  simp

/-- The second form is written where its name and its constraint are read. -/
theorem constrains_iff (hbody : base.toList = ':' :: body) {name inner : String} :
    Constrains base name inner ↔ constrainedParts? body = some (name.toList, inner.toList) := by
  simp only [constrainedParts?_eq_some_iff, Constrains, IsName, String.append_assoc,
    eq_colon_append_iff hbody]
  simp

/-- The third form is written where its names are read. -/
theorem pairs_iff (hbody : base.toList = ':' :: body) {first second : String} :
    Pairs base first second ↔ compoundParts? body = some (first.toList, second.toList) := by
  simp only [compoundParts?_eq_some_iff, Pairs, IsHalf, all_isCompoundChar_iff,
    String.append_assoc, eq_colon_append_iff hbody]
  simp

/-- A text in the first form begins with a colon and opens no parenthesis. -/
theorem NamesWildcard.begins {name : String} (h : NamesWildcard base name) :
    (∃ body, base.toList = ':' :: body) ∧ '(' ∉ base.toList := by
  obtain ⟨⟨-, hparen⟩, hbase | hbase⟩ := h
  · simp [hbase, hparen]
  · simp [hbase, hparen]

/-- A text in the second form begins with a colon and opens a parenthesis. -/
theorem Constrains.begins {name inner : String} (h : Constrains base name inner) :
    (∃ body, base.toList = ':' :: body) ∧ '(' ∈ base.toList := by
  obtain ⟨-, -, hbase | hbase⟩ := h
  · simp [hbase]
  · simp [hbase]

/-- A text in the third form begins with a colon and opens no parenthesis. -/
theorem Pairs.begins {first second : String} (h : Pairs base first second) :
    (∃ body, base.toList = ':' :: body) ∧ '(' ∉ base.toList := by
  obtain ⟨⟨-, -, -, hfirst⟩, ⟨-, -, -, hsecond⟩, hbase | hbase⟩ := h
  · simp [hbase, hfirst, hsecond]
  · simp [hbase, hfirst, hsecond]

/-- Where the first form is not written, it is not read. -/
theorem wildcardName?_eq_none (hbody : base.toList = ':' :: body)
    (h : ∀ name, ¬NamesWildcard base name) : wildcardName? body = none := by
  refine Option.eq_none_iff_forall_ne_some.mpr fun name hname => ?_
  exact h (String.ofList name) ((namesWildcard_iff hbody).mpr (by simpa using hname))

/-- Where the second form is not written, it is not read. -/
theorem constrainedParts?_eq_none (hbody : base.toList = ':' :: body)
    (h : ∀ name inner, ¬Constrains base name inner) : constrainedParts? body = none := by
  refine Option.eq_none_iff_forall_ne_some.mpr fun ⟨name, inner⟩ hparts => ?_
  exact h (String.ofList name) (String.ofList inner)
    ((constrains_iff hbody).mpr (by simpa using hparts))

/-- Where the third form is not written, it is not read. -/
theorem compoundParts?_eq_none (hbody : base.toList = ':' :: body)
    (h : ∀ first second, ¬Pairs base first second) : compoundParts? body = none := by
  refine Option.eq_none_iff_forall_ne_some.mpr fun ⟨first, second⟩ hparts => ?_
  exact h (String.ofList first) (String.ofList second)
    ((pairs_iff hbody).mpr (by simpa using hparts))

end Forms

/-! ## Reading -/

/-- A fragment that begins with a colon and is in none of the three forms is a parameter. -/
theorem shape_of_isPlain {raw name : String} (hother : IsPlain (unmarked raw))
    (h : unmarked raw = ":" ++ name) : (parse raw).shape = .param name (isMarked raw) := by
  have hbody := toList_of_colon_append h
  rw [shape_of_unmarked hbody, paramShape, wildcardName?_eq_none hbody hother.noWildcard,
    constrainedParts?_eq_none hbody hother.noConstraint, compoundParts?_eq_none hbody hother.noPair]
  simp

/-- A fragment without a colon stands for itself, unless it is one of the bare wildcards. -/
theorem shape_of_noColon {raw : String} (hother : raw ≠ "*" ∧ raw ≠ "**")
    (h : hasColon raw = false) : (parse raw).shape = .literal := by
  simp only [parse, shapeOf]
  split
  · next hraw => exact absurd (String.toList_inj.mp hraw) hother.1
  · next hraw => exact absurd (String.toList_inj.mp hraw) hother.2
  · next hraw => simp [hasColon, hraw] at h
  · rfl

/-- What the grammar says of a fragment is what is read. -/
theorem reading_of_grammar {raw : String} {told : Reading} (h : Grammar raw told) :
    (parse raw).reading = told := by
  cases h with
  | anything h =>
    rcases h with rfl | rfl
    · decide
    · decide
  | namedWildcard h =>
    obtain ⟨⟨body, hbody⟩, -⟩ := h.begins
    have hshape := shape_of_unmarked hbody
    simp only [paramShape, (namesWildcard_iff hbody).mp h, String.ofList_toList] at hshape
    simp only [reading, kind, normalized, paramName?, constraint?, hshape]
  | constrained h =>
    obtain ⟨⟨body, hbody⟩, hparen⟩ := h.begins
    have hother := wildcardName?_eq_none hbody fun name hname => hname.begins.2 hparen
    have hshape := shape_of_unmarked hbody
    simp only [paramShape, hother, (constrains_iff hbody).mp h, String.ofList_toList] at hshape
    simp only [reading, kind, normalized, paramName?, constraint?, hshape]
  | compound hother h =>
    obtain ⟨⟨body, hbody⟩, hparen⟩ := h.begins
    have hwildcard := wildcardName?_eq_none hbody hother
    have hconstraint := constrainedParts?_eq_none hbody
      fun name inner hform => hparen hform.begins.2
    have hshape := shape_of_unmarked hbody
    simp only [paramShape, hwildcard, hconstraint, (pairs_iff hbody).mp h,
      String.ofList_toList] at hshape
    simp only [reading, kind, normalized, paramName?, constraint?, hshape]
  | optional hother h hmark =>
    have hshape := shape_of_isPlain hother h
    simp only [reading, kind, normalized, paramName?, constraint?, hshape, hmark, if_true]
  | param hother h hmark =>
    have hshape := shape_of_isPlain hother h
    simp only [reading, kind, normalized, paramName?, constraint?, hshape, hmark,
      Bool.false_eq_true, if_false]
  | literal hother h =>
    have hshape := shape_of_noColon hother h
    simp only [reading, kind, normalized, paramName?, constraint?, hshape]
    rfl

/-- The grammar says something of every fragment. -/
theorem exists_grammar (raw : String) : ∃ told, Grammar raw told := by
  by_cases hbare : raw = "*" ∨ raw = "**"
  · exact ⟨_, .anything hbare⟩
  cases hcolon : hasColon raw with
  | false => exact ⟨_, .literal (not_or.mp hbare) hcolon⟩
  | true =>
    by_cases hwildcard : ∃ name, NamesWildcard (unmarked raw) name
    · obtain ⟨name, h⟩ := hwildcard
      exact ⟨_, .namedWildcard h⟩
    by_cases hconstraint : ∃ name inner, Constrains (unmarked raw) name inner
    · obtain ⟨name, inner, h⟩ := hconstraint
      exact ⟨_, .constrained h⟩
    by_cases hpair : ∃ first second, Pairs (unmarked raw) first second
    · obtain ⟨first, second, h⟩ := hpair
      exact ⟨_, .compound (not_exists.mp hwildcard) h⟩
    have hplain : IsPlain (unmarked raw) :=
      ⟨not_exists.mp hwildcard, fun name inner h => hconstraint ⟨name, inner, h⟩,
        fun first second h => hpair ⟨first, second, h⟩⟩
    obtain ⟨name, hname⟩ := exists_name_of_colon hcolon
    cases hmark : isMarked raw with
    | false => exact ⟨_, .param hplain hname hmark⟩
    | true => exact ⟨_, .optional hplain hname hmark⟩

/-- What is read of a fragment is exactly what the grammar says of it. -/
theorem reading_eq_iff {raw : String} {told : Reading} :
    (parse raw).reading = told ↔ Grammar raw told := by
  constructor
  · rintro rfl
    obtain ⟨told, htold⟩ := exists_grammar raw
    rwa [reading_of_grammar htold]
  · exact reading_of_grammar

/-! ## Kinds -/

/-- The kind of a fragment is the kind that the grammar gives it. -/
theorem kind_eq_iff {raw : String} {kind : SegmentKind} :
    (parse raw).kind = kind ↔ ∃ told, Grammar raw told ∧ told.kind = kind := by
  constructor
  · rintro rfl
    exact ⟨_, reading_eq_iff.mp rfl, rfl⟩
  · rintro ⟨told, htold, rfl⟩
    rw [← reading_of_grammar htold]
    rfl

/-- Which fragments are wildcards. -/
theorem kind_eq_wildcard_iff (raw : String) :
    (parse raw).kind = .wildcard ↔
      raw = "*" ∨ raw = "**" ∨ ∃ name, NamesWildcard (unmarked raw) name := by
  rw [kind_eq_iff, ← or_assoc]
  constructor
  · rintro ⟨told, htold, hkind⟩
    cases htold with
    | anything h => exact .inl h
    | namedWildcard h => exact .inr ⟨_, h⟩
    | _ => cases hkind
  · rintro (h | ⟨name, h⟩)
    · exact ⟨_, .anything h, rfl⟩
    · exact ⟨_, .namedWildcard h, rfl⟩

/-- Which fragments are constrained parameters. -/
theorem kind_eq_constrainedParam_iff (raw : String) :
    (parse raw).kind = .constrainedParam ↔
      ∃ name inner, Constrains (unmarked raw) name inner := by
  rw [kind_eq_iff]
  constructor
  · rintro ⟨told, htold, hkind⟩
    cases htold with
    | constrained h => exact ⟨_, _, h⟩
    | _ => cases hkind
  · rintro ⟨name, inner, h⟩
    exact ⟨_, .constrained h, rfl⟩

/-- Which fragments are compound parameters. -/
theorem kind_eq_compoundParam_iff (raw : String) :
    (parse raw).kind = .compoundParam ↔
      (∀ name, ¬NamesWildcard (unmarked raw) name) ∧
        ∃ first second, Pairs (unmarked raw) first second := by
  rw [kind_eq_iff]
  constructor
  · rintro ⟨told, htold, hkind⟩
    cases htold with
    | compound hother h => exact ⟨hother, _, _, h⟩
    | _ => cases hkind
  · rintro ⟨hother, first, second, h⟩
    exact ⟨_, .compound hother h, rfl⟩

/-- Which fragments are parameters without a constraint, and which of these are optional. -/
theorem kind_eq_param_iff (raw : String) (optional : Bool) :
    (parse raw).kind = (if optional then .optionalParam else .param) ↔
      hasColon raw = true ∧ IsPlain (unmarked raw) ∧ isMarked raw = optional := by
  rw [kind_eq_iff]
  constructor
  · rintro ⟨told, htold, hkind⟩
    cases htold with
    | optional hother h hmark =>
      cases optional with
      | true => exact ⟨hasColon_of_unmarked (toList_of_colon_append h), hother, hmark⟩
      | false => cases hkind
    | param hother h hmark =>
      cases optional with
      | true => cases hkind
      | false => exact ⟨hasColon_of_unmarked (toList_of_colon_append h), hother, hmark⟩
    | _ => cases optional <;> cases hkind
  · rintro ⟨hcolon, hother, rfl⟩
    obtain ⟨name, hname⟩ := exists_name_of_colon hcolon
    cases hmark : isMarked raw with
    | true => exact ⟨_, .optional hother hname hmark, rfl⟩
    | false => exact ⟨_, .param hother hname hmark, rfl⟩

/-- Which fragments stand for themselves. -/
theorem kind_eq_static_iff (raw : String) :
    (parse raw).kind = .static ↔ (raw ≠ "*" ∧ raw ≠ "**") ∧ hasColon raw = false := by
  rw [kind_eq_iff]
  constructor
  · rintro ⟨told, htold, hkind⟩
    cases htold with
    | literal hother h => exact ⟨hother, h⟩
    | _ => cases hkind
  · rintro ⟨hother, h⟩
    exact ⟨_, .literal hother h, rfl⟩

/-- **The reader accepts exactly the grammar.** What is told of a fragment is what the grammar says
of it, and nothing else. In particular the fragments of every kind are those that are written in its
form; but what is written like a compound parameter is a wildcard if a star ends it. -/
theorem parse_accepts_grammar (raw : String) :
    (∀ told, (parse raw).reading = told ↔ Grammar raw told) ∧
      ((parse raw).kind = .wildcard ↔
        raw = "*" ∨ raw = "**" ∨ ∃ name, NamesWildcard (unmarked raw) name) ∧
      ((parse raw).kind = .constrainedParam ↔
        ∃ name inner, Constrains (unmarked raw) name inner) ∧
      ((parse raw).kind = .compoundParam ↔
        (∀ name, ¬NamesWildcard (unmarked raw) name) ∧
          ∃ first second, Pairs (unmarked raw) first second) ∧
      (∀ optional : Bool, (parse raw).kind = (if optional then .optionalParam else .param) ↔
        hasColon raw = true ∧ IsPlain (unmarked raw) ∧ isMarked raw = optional) ∧
      ((parse raw).kind = .static ↔ (raw ≠ "*" ∧ raw ≠ "**") ∧ hasColon raw = false) :=
  ⟨fun _ => reading_eq_iff, kind_eq_wildcard_iff raw, kind_eq_constrainedParam_iff raw,
    kind_eq_compoundParam_iff raw, kind_eq_param_iff raw, kind_eq_static_iff raw⟩

example : (parse ":from-:to?").reading = ⟨.compoundParam, ":param-:param", "from-to", none⟩ := by
  decide +kernel

end Segment

end RouteAudit
