import RouteAudit.Proofs.PatternSteps

/-!
# Faults of patterns

Every step of reading a regular expression goes on in the text, from the escapes up to the mutual
recursion over alternatives, sequences and groups. So a text that is refused for a fault other than
a malformed one provokes that fault, unless there was no room for it; and the fuel that reading
starts with is always enough.
-/

namespace RouteAudit.Pattern

variable {codes : List Nat} {limit : Nat}

/-! ## Escapes and classes -/

theorem keeps_takeHex (count : Nat) : Keeps codes limit (takeHex count) := by
  refine (keeps_takeWhile _ _).bind fun digits => ?_
  exact keeps_refuse.ite (keeps_pure _)

theorem keeps_takeNamedCode : Keeps codes limit takeNamedCode := by
  refine (keeps_expect _).bind fun _ => (keeps_takeName _).bind fun name => ?_
  refine reads_get_bind fun state _ => ?_
  split
  · exact keeps_pure _
  · exact keeps_refuse

theorem keeps_readCode (c : Char) : Keeps codes limit (readCode c) := by
  unfold readCode
  split
  · exact keeps_takeHex _
  split
  · exact keeps_takeHex _
  split
  · exact keeps_takeHex _
  split
  · exact keeps_takeNamedCode
  exact keeps_refuse.ite (keeps_pure _)

theorem keeps_readClassEscape (c : Char) : Keeps codes limit (readClassEscape c) := by
  unfold readClassEscape
  split
  · exact keeps_pure _
  · exact keeps_pure _
  split
  · refine (keeps_takeWhile _ _).bind fun digits => ?_
    exact keeps_refuse.ite (keeps_pure _)
  split
  · exact keeps_refuse
  · exact (keeps_readCode c).bind fun _ => keeps_pure _

theorem keeps_readClassItem (token : Token) : Keeps codes limit (readClassItem token) := by
  cases token with
  | plain c => exact keeps_pure _
  | escaped c => exact keeps_readClassEscape c
  | lone isEscaped code => exact keeps_pure _
  | dangling => exact keeps_refuse

/-- Fuel for every token that is left is enough to read a class. -/
theorem keeps_readClass {fuel : Nat} (hfuel : limit < fuel) (items : List ClassItem) :
    Keeps codes limit (readClass fuel items) := by
  induction fuel generalizing limit items with
  | zero => exact absurd hfuel (Nat.not_lt_zero limit)
  | succ fuel ih =>
    refine keeps_take_bind keeps_refuse fun token left hleft => ?_
    simp only
    split
    · exact keeps_pure _
    refine (keeps_readClassItem token).bind fun item => (keeps_accept _).bind fun isRange => ?_
    split
    · refine keeps_take.bind fun last => ?_
      cases last with
      | none => exact keeps_refuse
      | some last =>
        simp only
        split
        · exact keeps_pure _
        refine (keeps_readClassItem last).bind fun _ => ?_
        split
        · exact keeps_refuse.ite (ih (by omega) _)
        · exact keeps_refuse
    · exact ih (by omega) _

theorem keeps_readAgain (scope : Scope) (index : Nat) :
    Keeps codes limit (readAgain scope index) := by
  refine reads_get_bind fun state _ => ?_
  split
  · exact (keeps_pure _).ite keeps_refuse
  · exact keeps_refuse

theorem keeps_readEscape (scope : Scope) (c : Char) : Keeps codes limit (readEscape scope c) := by
  unfold readEscape
  simp only
  split
  iterate 4 exact keeps_pure _
  split
  · exact keeps_pure _
  · exact keeps_pure _
  split
  · exact (keeps_takeWhile _ _).bind fun _ => keeps_pure _
  split
  · refine (keeps_takeWhile _ _).bind fun digits => ?_
    split
    · split
      · refine (keeps_takeWhile _ _).bind fun last => ?_
        split
        · exact keeps_refuse.ite (keeps_pure _)
        · exact keeps_readAgain _ _
      · exact keeps_readAgain _ _
    · exact keeps_readAgain _ _
  · exact (keeps_readCode c).bind fun _ => keeps_pure _

/-! ## Flags -/

/-- The letters of flags turned on stand in the text, and so does the mark behind them. Fuel for
every token behind the letters is enough to read them. -/
theorem reads_readFlagsOn {fuel : Nat} {taken : List Char} {c : Char}
    (htaken : ∀ d ∈ c :: taken, isFlag d = true) (hfuel : limit < fuel + (taken.length + 3)) :
    Reads codes (Behind codes limit (('(' :: '?' :: taken.reverse ++ [c]).map .plain))
      (readFlagsOn fuel taken c) fun found state =>
        (∀ d ∈ found.1, isFlag d = true) ∧
          Behind codes limit (('(' :: '?' :: found.1.reverse ++ [found.2]).map .plain) state := by
  induction fuel generalizing taken c with
  | zero =>
    have hlength : (('(' :: '?' :: taken.reverse ++ [c]).map Token.plain).length =
        taken.length + 3 := by simp
    refine Reads.of_start fun state h => absurd h.length_le ?_
    rw [hlength]
    omega
  | succ fuel ih =>
    unfold readFlagsOn
    split
    · exact reads_refuse
    refine reads_take.bind fun token => ?_
    split
    · next d =>
      split
      · refine reads_pure fun state h => ⟨htaken, ?_⟩
        simpa using h
      split
      · next hd =>
        have hmore : limit < fuel + ((c :: taken).length + 3) := by
          rw [List.length_cons]
          omega
        refine (ih (List.forall_mem_cons.mpr ⟨hd, htaken⟩) hmore).weaken (fun state h => ?_)
          fun _ _ h => h
        simpa using h
      · exact reads_refuse
    · exact reads_refuse

/-- Fuel for every token that is left is enough to read flags turned off. -/
theorem keeps_readFlagsOff {fuel : Nat} (hfuel : limit < fuel) (taken : List Char) :
    Keeps codes limit (readFlagsOff fuel taken) := by
  induction fuel generalizing limit taken with
  | zero => exact absurd hfuel (Nat.not_lt_zero limit)
  | succ fuel ih =>
    refine keeps_take_bind keeps_refuse fun token left hleft => ?_
    split
    · exact (keeps_pure _).ite ((ih (by omega) _).ite keeps_refuse)
    · exact keeps_refuse

/-- Letters in parentheses that have been read are set by the text. -/
theorem Behind.setsFlag {state : Progress} {letters : List Char} {flag : Char}
    (h : Behind codes limit (('(' :: '?' :: letters.reverse ++ [')']).map .plain) state)
    (hletters : ∀ c ∈ letters, isFlag c = true) (hflag : letters.contains flag = true) :
    SetsFlag codes flag := by
  refine ⟨letters.reverse, by simpa using hflag, by simpa using hletters, ?_⟩
  exact stands_of_tokens ((List.prefix_append _ _).isInfix.trans h.place.isInfix)

/-- Flags for the whole expression are noted where the text sets them. Fuel for every token behind
the mark is enough. -/
theorem reads_settleFlags {fuel : Nat} {on : List Char} (mark : Char)
    (hon : ∀ c ∈ on, isFlag c = true) (hfuel : limit < fuel + (on.length + 2)) :
    Reads codes (Behind codes (limit + 1) (('(' :: '?' :: on.reverse ++ [mark]).map .plain))
      (settleFlags fuel on mark) fun _ => Behind codes limit [] := by
  have hlength : (('(' :: '?' :: on.reverse ++ [mark]).map Token.plain).length = on.length + 3 := by
    simp
  have hspent : 1 ≤ (('(' :: '?' :: on.reverse ++ [mark]).map Token.plain).length := by simp
  unfold settleFlags
  split
  · next hmark =>
    subst hmark
    refine Reads.bind (reads_modify fun state h => ?_) fun _ => keeps_pure _
    have hnext := h.spend hspent
    refine ⟨hnext.place, hnext.short, fun hascii => ?_, fun hunicode => ?_⟩
    · obtain hset | hletter := Bool.or_eq_true_iff.mp hascii
      · exact h.ascii hset
      · exact h.setsFlag hon hletter
    · obtain hset | hletter := Bool.or_eq_true_iff.mp hunicode
      · exact h.unicode hset
      · exact h.setsFlag hon hletter
  split
  · exact reads_refuse
  simp only
  split
  · refine Reads.of_start fun state h => ?_
    have hle : on.length + 3 ≤ limit + 1 := hlength ▸ h.length_le
    obtain ⟨left, hleft⟩ := Nat.exists_eq_add_of_le' hle
    have hoff : Keeps codes left (readFlagsOff fuel []) := keeps_readFlagsOff (by omega) []
    have hless : left ≤ limit := by omega
    rw [hleft]
    refine Reads.bind ((hoff.of_spent hlength.ge).relax hless) fun off => ?_
    exact keeps_refuse.ite (keeps_pure _)
  · refine ((keeps_pure _).of_spent hspent).bind fun off => ?_
    exact keeps_refuse.ite (keeps_pure _)

/-- Inline flags are read from their first character on. -/
theorem reads_readFlags {first : Char} (hfirst : isFlag first = true ∨ first = '-') :
    Reads codes (Behind codes (limit + 1) (['(', '?', first].map .plain)) (readFlags first)
      fun _ => Behind codes limit [] := by
  refine reads_get.bind fun state => Reads.of_start fun found hfound => ?_
  have hlimit : state.rest.length + 2 ≤ limit := by
    have hshort := hfound.2.short
    rw [← hfound.1, List.length_append] at hshort
    simp only [List.length_map, List.length_cons, List.length_nil] at hshort
    omega
  have hexact : ∀ found,
      state = found ∧ Behind codes (limit + 1) (['(', '?', first].map .plain) found →
        Behind codes (state.rest.length + 2 + 1) (['(', '?', first].map .plain) found := by
    rintro _ ⟨rfl, hbehind⟩
    exact hbehind.exact
  refine Reads.relax (Reads.weaken ?_ hexact fun _ _ h => h) hlimit
  simp only
  split
  · next hminus =>
    subst hminus
    have hnone : ∀ c ∈ ([] : List Char), isFlag c = true := nofun
    exact reads_settleFlags '-' hnone (Nat.lt_succ_self _)
  · next hminus =>
    have hflag : ∀ d ∈ [first], isFlag d = true :=
      fun d hd => by simpa [List.mem_singleton.mp hd, hminus] using hfirst
    refine (reads_readFlagsOn hflag (Nat.lt_succ_self _)).bind fun letters => ?_
    refine .of_fact fun _ hletters => ?_
    exact reads_settleFlags _ hletters (by omega)

/-! ## Groups -/

theorem keeps_readCondition : Keeps codes limit readCondition := by
  refine (keeps_takeName _).bind fun name => reads_get_bind fun state hbehind => ?_
  have hindex : ∀ index, Keeps codes limit
      (if state.behind.isSome && !canRefer state index then refuse else pure index) := by
    intro index
    exact keeps_refuse.ite (keeps_pure _)
  simp only
  split
  · split
    · exact (keeps_pure _).bind hindex
    · exact keeps_refuse.bind hindex
  · split
    · split
      · exact keeps_refuse.bind hindex
      · refine (keeps_set ?_).bind fun _ => (keeps_pure _).bind hindex
        exact hbehind.of_eq rfl rfl
    · exact keeps_refuse.bind hindex

theorem keeps_readNamed (scope : Scope) : Keeps codes limit (readNamed scope) := by
  refine (keeps_accept _).bind fun isGroup => ?_
  split
  · refine (keeps_takeName _).bind fun name => ?_
    exact (keeps_pure _).ite keeps_refuse
  refine (keeps_accept _).bind fun isReference => ?_
  split
  · refine (keeps_takeName _).bind fun name => reads_get_bind fun state _ => ?_
    split
    · exact (keeps_readAgain _ _).bind fun _ => keeps_pure _
    · exact keeps_refuse
  · exact keeps_refuse

/-- Fuel for every token that is left is enough to find the end of a comment. -/
theorem keeps_skipComment {fuel : Nat} (hfuel : limit < fuel) :
    Keeps codes limit (skipComment fuel) := by
  induction fuel generalizing limit with
  | zero => exact absurd hfuel (Nat.not_lt_zero limit)
  | succ fuel ih =>
    refine keeps_take_bind keeps_refuse fun token left hleft => ?_
    exact (keeps_pure _).ite (ih (by omega))

/-- Fuel for every token that is left is enough to find the end of a line. -/
theorem keeps_skipLine {fuel : Nat} (hfuel : limit < fuel) : Keeps codes limit (skipLine fuel) := by
  induction fuel generalizing limit with
  | zero => exact absurd hfuel (Nat.not_lt_zero limit)
  | succ fuel ih =>
    refine keeps_take_bind (keeps_pure _) fun token left hleft => ?_
    exact (keeps_pure _).ite (ih (by omega))

/-- What opens a group is read behind its parenthesis, where flags may be set. -/
theorem reads_readOpening (scope : Scope) :
    Reads codes (Behind codes (limit + 1) [.plain '(']) (readOpening scope)
      fun _ => Behind codes limit [] := by
  refine (reads_accept '?').bind fun isExtended => ?_
  cases isExtended with
  | false => exact (keeps_pure _).of_spent (Nat.le_refl 1)
  | true =>
    refine reads_take.bind fun token => ?_
    rcases token with _ | (c | c | _ | _)
    case none => exact reads_refuse
    case some.escaped => exact reads_refuse
    case some.lone => exact reads_refuse
    case some.dangling => exact reads_refuse
    change Reads codes (Behind codes (limit + 1) (['(', '?', c].map .plain)) _ _
    have hspent : 1 ≤ (['(', '?', c].map Token.plain).length := by simp
    simp only
    split
    · exact (keeps_readNamed scope).of_spent hspent
    · exact (keeps_pure _).of_spent hspent
    · refine Keeps.of_spent ?_ hspent
      refine reads_get.bind fun state => ?_
      exact (keeps_skipComment (Nat.lt_succ_self _)).of_rest.bind fun _ => keeps_pure _
    · exact (keeps_pure _).of_spent hspent
    · exact (keeps_pure _).of_spent hspent
    · refine ((keeps_accept _).of_spent hspent).bind fun isBehind => ?_
      split
      · exact keeps_pure _
      refine (keeps_accept _).bind fun isNegated => ?_
      exact (keeps_pure _).ite keeps_refuse
    · exact (keeps_readCondition.of_spent hspent).bind fun _ => keeps_pure _
    · exact (keeps_pure _).of_spent hspent
    split
    · next hflag =>
      refine (reads_readFlags hflag).bind fun change => ?_
      split
      · exact keeps_pure _
      · exact keeps_pure _
    · exact reads_refuse

theorem keeps_openGroup (name : Option String) : Keeps codes limit (openGroup name) := by
  refine reads_get_bind fun state hbehind => ?_
  cases name with
  | none =>
    refine Keeps.bind (keeps_set ?_) fun _ => keeps_pure _
    exact hbehind.of_eq rfl rfl
  | some name =>
    simp only
    split
    · exact keeps_refuse
    · refine (keeps_set ?_).bind fun _ => keeps_pure _
      exact hbehind.of_eq rfl rfl

theorem keeps_closeGroup (index : Nat) (width : Width) :
    Keeps codes limit (closeGroup index width) :=
  keeps_modify

/-! ## Bounds on repetitions -/

/-- A bound is refused only if it is too large or has too many digits. -/
theorem reads_readBound {start : Progress → Prop} {digits : List Char}
    (hbound : ∀ state, start state → HasBound codes digits) :
    Reads codes start (readBound digits) fun _ => start := by
  unfold readBound
  split
  · exact reads_pure fun _ h => h
  split
  · next hmany => exact reads_throw fun state h => .tooManyDigits (hbound state h) hmany
  simp only
  split
  · next hlarge => exact reads_throw fun state h => .repetitionTooLarge (hbound state h) hlarge
  · exact reads_pure fun _ h => h

theorem keeps_readGreed : Keeps codes limit readGreed := by
  refine (keeps_accept _).bind fun isLazy => ?_
  split
  · exact keeps_pure _
  refine (keeps_accept _).bind fun isPossessive => ?_
  exact (keeps_pure _).ite (keeps_pure _)

theorem keeps_readLoop (items : List Item) (least : Nat) (most : Option Nat) :
    Keeps codes limit (readLoop items least most) := by
  cases items with
  | nil => exact keeps_refuse
  | cons item before =>
    unfold readLoop
    simp only
    split
    · exact keeps_refuse
    · exact keeps_readGreed.bind fun _ => keeps_pure _

/-- Bounds that have been read stand in the text. -/
theorem Behind.hasBound {state : Progress} {digits bounds : List Char}
    (h : Behind codes limit (bounds.map .plain) state) (hbounds : Bounds digits bounds)
    (hdigits : ∀ c ∈ digits, c.isDigit = true) : HasBound codes digits :=
  ⟨hdigits, bounds, hbounds,
    stands_of_tokens ((List.prefix_append _ _).isInfix.trans h.place.isInfix)⟩

/-- Bounds are refused for their digits only where a closing brace stands behind them. -/
theorem reads_closeBounds {start : Progress} (hstart : Behind codes limit [] start)
    {low high text : List Char} (hlow : ∀ c ∈ low, c.isDigit = true)
    (hhigh : ∀ c ∈ high, c.isDigit = true) (hleast : Bounds low (text ++ ['\x7d']))
    (hmost : Bounds high (text ++ ['\x7d'])) :
    Reads codes (Behind codes (limit + 1) (text.map .plain)) (closeBounds start low high)
      fun _ => Behind codes limit [] := by
  refine (reads_accept _).bind fun isClosed => ?_
  cases isClosed with
  | false => exact reads_set (fun _ _ => hstart) |>.bind fun _ => keeps_pure _
  | true =>
    have hbound : ∀ digits, (∀ c ∈ digits, c.isDigit = true) → Bounds digits (text ++ ['\x7d']) →
        Reads codes (Behind codes (limit + 1) ((text ++ ['\x7d']).map .plain)) (readBound digits)
          fun _ => Behind codes (limit + 1) ((text ++ ['\x7d']).map .plain) :=
      fun digits hdigits hwritten => reads_readBound fun _ h => h.hasBound hwritten hdigits
    rw [if_pos rfl, if_pos rfl, ← List.map_singleton, ← List.map_append]
    refine (hbound low hlow hleast).bind fun least => (hbound high hhigh hmost).bind fun most => ?_
    split
    · exact reads_refuse
    · exact (keeps_pure _).of_spent (by simp)

/-- Bounds are read behind their opening brace. -/
theorem reads_readBounds :
    Reads codes (Behind codes (limit + 1) [.plain '\x7b']) readBounds
      fun _ => Behind codes limit [] := by
  refine reads_get_bind fun start hstart => reads_peek.bind fun token => ?_
  have hback : Behind codes limit [] start := hstart.spend (Nat.le_refl 1)
  refine Reads.of_fact fun _ _ => ?_
  simp only
  split
  · exact (keeps_pure _).of_spent (Nat.le_refl 1)
  refine (reads_takeWhile _ _).bind fun low => .of_fact fun _ hlow => ?_
  refine (reads_accept _).bind fun hasMost => ?_
  cases hasMost with
  | false =>
    have hwritten : Bounds low ('\x7b' :: low ++ ['\x7d']) := .alone
    refine (reads_closeBounds hback hlow hlow hwritten hwritten).weaken (fun state h => ?_)
      fun _ _ h => h
    simpa using h
  | true =>
    refine (reads_takeWhile _ _).bind fun high => .of_fact fun _ hhigh => ?_
    have hleast : Bounds low ('\x7b' :: low ++ ',' :: high ++ ['\x7d']) := .least hhigh
    have hmost : Bounds high ('\x7b' :: low ++ ',' :: high ++ ['\x7d']) := .most hlow
    refine (reads_closeBounds hback hlow hhigh hleast hmost).weaken (fun state h => ?_)
      fun _ _ h => h
    simpa using h

/-! ## Parts -/

/-- With some fuel, the parts of an expression are read on in the text: three steps for every token
that is left are enough, and one, two or three more to get to the next token. -/
structure KeepsAt (codes : List Nat) (fuel : Nat) : Prop where
  items {limit : Nat} (first : Bool) (scope : Scope) (items : List Item)
    (hfuel : 3 * limit + 1 ≤ fuel) : Keeps codes limit (readItems fuel first scope items)
  choice {limit : Nat} (top : Bool) (scope : Scope) (hfuel : 3 * limit + 2 ≤ fuel) :
    Keeps codes limit (readChoice fuel top scope)
  more {limit : Nat} (top : Bool) (scope : Scope) (before : Part) (hfuel : 3 * limit + 2 ≤ fuel) :
    Keeps codes limit (readMore fuel top scope before)
  look {limit : Nat} (scope : Scope) (behind negated : Bool) (hfuel : 3 * limit + 3 ≤ fuel) :
    Keeps codes limit (readLook fuel scope behind negated)
  ifGroup {limit : Nat} (scope : Scope) (index : Nat) (hfuel : 3 * limit + 3 ≤ fuel) :
    Keeps codes limit (readIfGroup fuel scope index)

namespace KeepsAt

variable {fuel : Nat}

theorem choice_succ (h : KeepsAt codes fuel) (top : Bool) (scope : Scope)
    (hfuel : 3 * limit + 2 ≤ fuel + 1) : Keeps codes limit (readChoice (fuel + 1) top scope) :=
  (h.items _ _ _ (by omega)).bind fun _ =>
    keeps_accept_bind (fun _ _ => h.more _ _ _ (by omega)) (keeps_pure _)

theorem more_succ (h : KeepsAt codes fuel) (top : Bool) (scope : Scope) (before : Part)
    (hfuel : 3 * limit + 2 ≤ fuel + 1) :
    Keeps codes limit (readMore (fuel + 1) top scope before) := by
  refine reads_get_bind fun state _ => (h.items _ _ _ (by omega)).bind fun next => ?_
  exact keeps_accept_bind (fun _ _ => h.more _ _ _ (by omega)) (keeps_pure _)

theorem look_succ (h : KeepsAt codes fuel) (scope : Scope) (behind negated : Bool)
    (hfuel : 3 * limit + 3 ≤ fuel + 1) :
    Keeps codes limit (readLook (fuel + 1) scope behind negated) := by
  refine reads_get_bind fun state _ => ?_
  simp only
  split
  case' isTrue => refine Keeps.bind keeps_modify fun _ => ?_
  all_goals
    refine (h.choice _ _ (by omega)).bind fun body => Keeps.bind keeps_modify fun _ => ?_
    refine (keeps_expect _).bind fun _ => ?_
    exact (Keeps.bind keeps_modify fun _ => keeps_pure _).ite (keeps_pure _)

theorem ifGroup_succ (h : KeepsAt codes fuel) (scope : Scope) (index : Nat)
    (hfuel : 3 * limit + 3 ≤ fuel + 1) :
    Keeps codes limit (readIfGroup (fuel + 1) scope index) := by
  refine (h.items _ _ _ (by omega)).bind fun yes => (keeps_accept _).bind fun hasNo => ?_
  simp only
  split
  · refine ((h.items _ _ _ (by omega)).bind fun no => keeps_pure _).bind fun no => ?_
    exact (keeps_expect _).bind fun _ => keeps_pure _
  · exact (keeps_pure _).bind fun no => (keeps_expect _).bind fun _ => keeps_pure _

theorem items_succ (h : KeepsAt codes fuel) (first : Bool) (scope : Scope) (items : List Item)
    (hfuel : 3 * limit + 1 ≤ fuel + 1) :
    Keeps codes limit (readItems (fuel + 1) first scope items) := by
  unfold readItems
  refine reads_peek.bind fun token => ?_
  split
  · exact reads_pure fun _ h => h.2
  · exact reads_pure fun _ h => h.2
  · exact reads_pure fun _ h => h.2
  next token _ _ =>
  refine (reads_take_of_peek _).bind fun _ => .of_fact fun _ _ => ?_
  -- The token that has been taken counts, so three more steps may be spent on what follows.
  refine Reads.of_start fun state hbehind => ?_
  have hone : 1 ≤ limit := hbehind.length_le
  obtain ⟨left, rfl⟩ := Nat.exists_eq_add_of_le' hone
  refine Reads.relax ?_ (Nat.le_succ left)
  have hitems : ∀ first scope items, Keeps codes left (readItems fuel first scope items) :=
    fun first scope items => h.items first scope items (by omega)
  have hchoice : ∀ scope, Keeps codes left (readChoice fuel false scope) :=
    fun scope => h.choice false scope (by omega)
  simp only
  cases token with
  | dangling => exact reads_refuse
  | lone isEscaped code => exact (hitems _ _ _).of_spent (Nat.le_refl 1)
  | escaped c =>
    exact ((keeps_readEscape scope c).of_spent (Nat.le_refl 1)).bind fun item => hitems _ _ _
  | plain c =>
    have hloop : ∀ least most, Keeps codes left
        (readLoop items least most >>= fun items => readItems fuel first scope items) :=
      fun least most => (keeps_readLoop items least most).bind fun _ => hitems _ _ _
    change Reads codes (Behind codes (left + 1) [.plain c]) _ _
    simp only
    split
    · exact (hitems _ _ _).of_spent (Nat.le_refl 1)
    split
    · refine Keeps.of_spent (reads_get.bind fun state => ?_) (Nat.le_refl 1)
      exact (keeps_skipLine (Nat.lt_succ_self _)).of_rest.bind fun _ => hitems _ _ _
    -- The characters that stand for something else than themselves, in the order of the reader.
    split
    · -- A class.
      refine ((keeps_accept _).of_spent (Nat.le_refl 1)).bind fun negated => ?_
      refine reads_get.bind fun state => ?_
      exact (keeps_readClass (Nat.lt_succ_self _) []).of_rest.bind fun _ => hitems _ _ _
    · exact (hloop _ _).of_spent (Nat.le_refl 1)
    · exact (hloop _ _).of_spent (Nat.le_refl 1)
    · exact (hloop _ _).of_spent (Nat.le_refl 1)
    · -- Bounds, or a brace that stands for itself.
      refine reads_readBounds.bind fun bounds => ?_
      split
      · exact hloop _ _
      · exact hitems _ _ _
    · exact (hitems _ _ _).of_spent (Nat.le_refl 1)
    · exact (hitems _ _ _).of_spent (Nat.le_refl 1)
    · exact (hitems _ _ _).of_spent (Nat.le_refl 1)
    · -- A group.
      refine (reads_readOpening scope).bind fun opening => ?_
      cases opening with
      | comment => exact hitems _ _ _
      | globalFlags =>
        refine reads_get_bind fun state _ => ?_
        exact (hitems _ _ _).ite keeps_refuse
      | item item => exact hitems _ _ _
      | capture name =>
        refine (keeps_openGroup name).bind fun index => (hchoice _).bind fun body => ?_
        refine (keeps_expect _).bind fun _ => (keeps_closeGroup _ _).bind fun _ => ?_
        exact hitems _ _ _
      | plain change =>
        exact (hchoice _).bind fun body => (keeps_expect _).bind fun _ => hitems _ _ _
      | atomic =>
        exact (hchoice _).bind fun body => (keeps_expect _).bind fun _ => hitems _ _ _
      | look behind negated =>
        exact (h.look _ _ _ (by omega)).bind fun _ => hitems _ _ _
      | condition index => exact (h.ifGroup _ _ (by omega)).bind fun _ => hitems _ _ _
    · exact (hitems _ _ _).of_spent (Nat.le_refl 1)

end KeepsAt

/-- With any fuel, the parts of an expression are read on in the text. -/
theorem keepsAt (codes : List Nat) (fuel : Nat) : KeepsAt codes fuel := by
  induction fuel with
  | zero =>
    constructor
    all_goals
      intros
      omega
  | succ fuel ih =>
    exact ⟨ih.items_succ, ih.choice_succ, ih.more_succ, ih.look_succ, ih.ifGroup_succ⟩

/-- Why a text is refused: there is no room for it, or something in it gives cause. -/
inductive Refused (support : Support) (source : String) : Fault → Prop where
  | noRoom {message : String} (hroom : support.readingError? source = some message) :
      Refused support source (.noRoom message)
  | provoked {fault : Fault} (hprovokes : Provokes (Text.codes source.toList) fault) :
      Refused support source fault

/-- A text is refused only for want of room or for what it provokes. -/
theorem refused_of_read {support : Support} {source : String} {fault : Fault}
    (h : read support source = .error fault) : Refused support source fault := by
  unfold read at h
  split at h
  · next message hroom =>
    cases h
    exact .noRoom hroom
  refine .provoked ?_
  generalize Text.codes source.toList = codes at h ⊢
  simp only at h
  split at h
  · cases h
    exact .malformed
  have hfuel : 3 * (tokens codes).length + 2 ≤ 4 * (tokens codes).length + 8 := by omega
  have hchoice := (keepsAt codes (4 * (tokens codes).length + 8)).choice true {} hfuel
  obtain ⟨hok, herror⟩ := hchoice { rest := tokens codes, character? := support.character? }
    ⟨List.suffix_rfl, Nat.le_refl _, nofun, nofun⟩
  cases hrun : (readChoice (4 * (tokens codes).length + 8) true {}).run
      { rest := tokens codes, character? := support.character? } with
  | error other =>
    rw [hrun] at h
    cases h
    exact herror fault hrun
  | ok done =>
    obtain ⟨part, state⟩ := done
    have hbehind := hok part state hrun
    rw [hrun] at h
    change (if (state.flags.ascii && state.flags.unicode) = true then _ else _) = _ at h
    split at h
    · next hflags =>
      cases h
      obtain ⟨hascii, hunicode⟩ := Bool.and_eq_true_iff.mp hflags
      exact .flagsIncompatible (hbehind.ascii hascii) (hbehind.unicode hunicode)
    split at h
    · cases h
      exact .malformed
    · cases h

/-- **Enough fuel.** No text is refused for want of fuel. -/
theorem read_ne_outOfFuel (support : Support) (source : String) :
    read support source ≠ .error .outOfFuel := by
  intro h
  cases refused_of_read h with
  | provoked hprovokes => cases hprovokes

end RouteAudit.Pattern
