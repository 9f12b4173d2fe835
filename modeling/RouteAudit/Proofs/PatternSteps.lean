import Mathlib.Data.List.Infix
import RouteAudit.Pattern.Reader
import RouteAudit.Proofs.CodePoints

/-!
# Steps of reading a pattern

What the steps of reading a regular expression keep to: they take what is left of the text from its
front, and they set flags for the whole expression only where the text does. A text is refused
for a fault other than a malformed one only if something in it provokes that fault: bounds on
repetitions that are too large or too long, or flags for the whole expression that exclude each
other. The number of tokens that are left has a limit, which tells how much fuel a step needs.
-/

namespace RouteAudit.Pattern

/-! ## What provokes a fault -/

/-- How bounds on repetitions are written, if one of them has the given digits. -/
inductive Bounds (digits : List Char) : List Char → Prop where
  | alone : Bounds digits ('\x7b' :: digits ++ ['\x7d'])
  | least {most : List Char} (hmost : ∀ c ∈ most, c.isDigit = true) :
      Bounds digits ('\x7b' :: digits ++ ',' :: most ++ ['\x7d'])
  | most {least : List Char} (hleast : ∀ c ∈ least, c.isDigit = true) :
      Bounds digits ('\x7b' :: least ++ ',' :: digits ++ ['\x7d'])

/-- Characters stand one behind the other among code points. -/
def Stands (part : List Char) (codes : List Nat) : Prop :=
  part.map Char.toNat <:+: codes

/-- A text has a bound on repetitions with the given digits. -/
structure HasBound (codes : List Nat) (digits : List Char) : Prop where
  isDigit : ∀ c ∈ digits, c.isDigit = true
  written : ∃ bounds, Bounds digits bounds ∧ Stands bounds codes

/-- A text sets a flag for the whole expression, perhaps with others. -/
def SetsFlag (codes : List Nat) (flag : Char) : Prop :=
  ∃ letters, flag ∈ letters ∧ (∀ c ∈ letters, isFlag c = true) ∧
    Stands ('(' :: '?' :: letters ++ [')']) codes

/-- The code points of a text give cause for a fault. Any text may be malformed. -/
inductive Provokes (codes : List Nat) : Fault → Prop where
  | malformed : Provokes codes .malformed
  | repetitionTooLarge {digits : List Char} (hbound : HasBound codes digits)
      (hlarge : repetitionLimit ≤ Text.decimalValue digits) : Provokes codes .repetitionTooLarge
  | tooManyDigits {digits : List Char} (hbound : HasBound codes digits)
      (hmany : Text.digitLimit < digits.length) : Provokes codes (.tooManyDigits digits.length)
  | flagsIncompatible (hascii : SetsFlag codes 'a') (hunicode : SetsFlag codes 'u') :
      Provokes codes .flagsIncompatible

/-- A code point without a backslash is what its token is of. -/
theorem codes_ofCode (code : Nat) : (Token.ofCode code).codes = [code] := by
  unfold Token.ofCode
  split
  · next hvalid => rw [Token.codes, Text.toNat_ofNat hvalid]
  · rfl

/-- A code point behind a backslash is what its token is of. -/
theorem codes_ofEscaped (code : Nat) : (Token.ofEscaped code).codes = [backslash, code] := by
  unfold Token.ofEscaped
  split
  · next hvalid => rw [Token.codes, Text.toNat_ofNat hvalid]
  · rfl

/-- A text has the code points of its tokens. -/
theorem flatMap_codes_tokens (codes : List Nat) : (tokens codes).flatMap Token.codes = codes := by
  fun_induction tokens codes with
  | case1 => rfl
  | case2 => rfl
  | case3 code => simp [codes_ofCode]
  | case4 next rest ih => simp [codes_ofEscaped, ih]
  | case5 code next rest _ ih => simp [codes_ofCode, ih]

/-- Characters whose tokens stand in the text stand in it. -/
theorem stands_of_tokens {codes : List Nat} {part : List Char}
    (h : part.map Token.plain <:+: tokens codes) : Stands part codes := by
  have hpart : (part.map Token.plain).flatMap Token.codes = part.map Char.toNat := by
    rw [List.flatMap_map, List.map_eq_flatMap]
    rfl
  obtain ⟨before, behind, htokens⟩ := h
  have hcodes := congrArg (List.flatMap Token.codes) htokens
  rw [flatMap_codes_tokens, List.flatMap_append, List.flatMap_append, hpart] at hcodes
  exact ⟨_, _, hcodes⟩

/-! ## Steps -/

/-- Where reading a text has come to: given tokens stand in front of what is left, all of them are
no more than a limit, and the flags for the whole expression are set by the text. -/
structure Behind (codes : List Nat) (limit : Nat) (before : List Token) (state : Progress) :
    Prop where
  place : before ++ state.rest <:+ tokens codes
  short : (before ++ state.rest).length ≤ limit
  ascii : state.flags.ascii = true → SetsFlag codes 'a'
  unicode : state.flags.unicode = true → SetsFlag codes 'u'

/-- Begun under a condition, a step of reading ends as described, or the text provokes the fault for
which it is refused. -/
def Reads {α : Type} (codes : List Nat) (start : Progress → Prop) (step : Reading α)
    (finish : α → Progress → Prop) : Prop :=
  ∀ state, start state →
    (∀ a next, step.run state = .ok (a, next) → finish a next) ∧
      ∀ fault, step.run state = .error fault → Provokes codes fault

/-- A step may be begun wherever no more than a number of tokens are left of a text, and goes on in
it. -/
def Keeps {α : Type} (codes : List Nat) (limit : Nat) (step : Reading α) : Prop :=
  Reads codes (Behind codes limit []) step fun _ => Behind codes limit []

variable {α β : Type} {codes : List Nat} {limit : Nat} {start : Progress → Prop}
  {before : List Token}

/-- What stands in front of the rest need not be remembered, but counts for the limit. -/
theorem Behind.spend {spent : Nat} {state : Progress}
    (h : Behind codes (limit + spent) before state) (hspent : spent ≤ before.length) :
    Behind codes limit [] state := by
  have hshort := h.short
  rw [List.length_append] at hshort
  exact ⟨(List.suffix_append _ _).trans h.place, by rw [List.nil_append]; omega, h.ascii,
    h.unicode⟩

/-- What stands in front of the rest need not be remembered. -/
theorem Behind.forget {state : Progress} (h : Behind codes limit before state) :
    Behind codes limit [] state :=
  h.spend (Nat.zero_le _)

/-- What stands in front of the rest is within the limit. -/
theorem Behind.length_le {state : Progress} (h : Behind codes limit before state) :
    before.length ≤ limit :=
  (List.prefix_append _ _).length_le.trans h.short

/-- The limit may be larger. -/
theorem Behind.mono {larger : Nat} {state : Progress} (h : Behind codes limit before state)
    (hlimit : limit ≤ larger) : Behind codes larger before state :=
  ⟨h.place, h.short.trans hlimit, h.ascii, h.unicode⟩

/-- The tokens there are may be the limit. -/
theorem Behind.exact {state : Progress} (h : Behind codes limit before state) :
    Behind codes (before ++ state.rest).length before state :=
  ⟨h.place, Nat.le_refl _, h.ascii, h.unicode⟩

/-- The place and the flags of the text are all that counts. -/
theorem Behind.of_eq {state other : Progress} (h : Behind codes limit before state)
    (hrest : other.rest = state.rest) (hflags : other.flags = state.flags) :
    Behind codes limit before other :=
  ⟨hrest ▸ h.place, hrest ▸ h.short, hflags ▸ h.ascii, hflags ▸ h.unicode⟩

/-- Nothing is read of the text. -/
theorem reads_pure {a : α} {finish : α → Progress → Prop}
    (h : ∀ state, start state → finish a state) : Reads codes start (pure a) finish := by
  intro state hstart
  constructor
  · rintro b next ⟨⟩
    exact h state hstart
  · exact nofun

/-- One step goes on where another one has come to. -/
theorem Reads.bind {first : Reading α} {next : α → Reading β} {middle : α → Progress → Prop}
    {finish : β → Progress → Prop} (h : Reads codes start first middle)
    (hnext : ∀ a, Reads codes (middle a) (next a) finish) :
    Reads codes start (first >>= next) finish := by
  intro state hstart
  obtain ⟨hok, herror⟩ := h state hstart
  rw [StateT.run_bind]
  cases hfirst : first.run state with
  | error fault =>
    constructor
    · intro _ _ h
      cases h
    · rintro _ ⟨⟩
      exact herror fault hfirst
  | ok done => exact hnext done.1 done.2 (hok done.1 done.2 hfirst)

/-- A step may be begun under more conditions, and less may be said of its end. -/
theorem Reads.weaken {step : Reading α} {middle finish : α → Progress → Prop}
    {begin : Progress → Prop} (h : Reads codes start step middle)
    (hstart : ∀ state, begin state → start state)
    (hfinish : ∀ a state, middle a state → finish a state) : Reads codes begin step finish := by
  intro state hbegin
  obtain ⟨hok, herror⟩ := h state (hstart state hbegin)
  exact ⟨fun a next hrun => hfinish a next (hok a next hrun), herror⟩

/-- A text may be refused for what it provokes. -/
theorem reads_throw {fault : Fault} {finish : α → Progress → Prop}
    (h : ∀ state, start state → Provokes codes fault) :
    Reads codes start (throw fault) finish := by
  intro state hstart
  constructor
  · intro _ _ h
    cases h
  · rintro _ ⟨⟩
    exact h state hstart

/-- Refusing a text as malformed needs no cause. -/
theorem reads_refuse {finish : α → Progress → Prop} : Reads codes start refuse finish :=
  reads_throw fun _ _ => .malformed

/-- Looking at the progress changes nothing. -/
theorem reads_get : Reads codes start get fun found state => found = state ∧ start state := by
  intro state hstart
  constructor
  · rintro _ _ ⟨⟩
    exact ⟨rfl, hstart⟩
  · exact nofun

/-- A step may depend on the progress it begins with. -/
theorem reads_get_bind {next : Progress → Reading α} {finish : α → Progress → Prop}
    (h : ∀ state, start state → Reads codes start (next state) finish) :
    Reads codes start (get >>= next) finish :=
  fun state hstart => h state hstart state hstart

/-- The progress may be replaced. -/
theorem reads_set {other : Progress} {finish : Unit → Progress → Prop}
    (h : ∀ state, start state → finish () other) : Reads codes start (set other) finish := by
  intro state hstart
  constructor
  · rintro _ _ ⟨⟩
    exact h state hstart
  · exact nofun

/-- The progress may be changed. -/
theorem reads_modify {change : Progress → Progress} {finish : Unit → Progress → Prop}
    (h : ∀ state, start state → finish () (change state)) :
    Reads codes start (modify change) finish := by
  intro state hstart
  constructor
  · rintro _ _ ⟨⟩
    exact h state hstart
  · exact nofun

/-- A step may depend on what is known at its beginning. -/
theorem Reads.of_start {step : Reading α} {finish : α → Progress → Prop}
    (h : ∀ state, start state → Reads codes start step finish) : Reads codes start step finish :=
  fun state hstart => h state hstart state hstart

/-- What is known at the beginning of a step may be used of the step. -/
theorem Reads.of_fact {fact : Progress → Prop} {step : Reading α} {finish : α → Progress → Prop}
    (h : ∀ state, fact state → Reads codes start step finish) :
    Reads codes (fun state => fact state ∧ start state) step finish :=
  fun state hstart => h state hstart.1 state hstart.2

/-! ## Taking tokens -/

/-- Looking at the next token changes nothing. -/
theorem reads_peek :
    Reads codes start peek fun token state => state.rest.head? = token ∧ start state :=
  reads_get.bind fun state => reads_pure fun _ h => ⟨by rw [h.1], h.2⟩

/-- The next token, once taken, stands in front of what is left. -/
theorem reads_take_of_peek (token : Option Token) :
    Reads codes (fun state => state.rest.head? = token ∧ Behind codes limit before state) take
      fun taken state => taken = token ∧ Behind codes limit (before ++ token.toList) state := by
  refine reads_get.bind fun state => ?_
  cases hrest : state.rest with
  | nil =>
    refine reads_pure ?_
    rintro _ ⟨rfl, htoken, hbehind⟩
    rw [hrest, List.head?_nil] at htoken
    subst htoken
    exact ⟨rfl, by simpa using hbehind⟩
  | cons first rest =>
    have hset : Reads codes
        (fun found => state = found ∧ found.rest.head? = token ∧ Behind codes limit before found)
        (set { state with rest }) fun _ next =>
          some first = token ∧ Behind codes limit (before ++ token.toList) next := by
      refine reads_set ?_
      rintro _ ⟨rfl, htoken, hbehind⟩
      rw [hrest, List.head?_cons] at htoken
      subst htoken
      have hplace := hbehind.place
      have hshort := hbehind.short
      rw [hrest] at hplace hshort
      exact ⟨rfl, by simpa using hplace, by simpa using hshort, hbehind.ascii, hbehind.unicode⟩
    simp only
    split
    · exact reads_refuse
    · exact hset.bind fun _ => reads_pure fun _ h => h

/-- A token that is taken stands in front of what is left. -/
theorem reads_take :
    Reads codes (Behind codes limit before) take fun taken =>
      Behind codes limit (before ++ taken.toList) := by
  intro state hbehind
  obtain ⟨hok, herror⟩ := reads_take_of_peek state.rest.head? state ⟨rfl, hbehind⟩
  refine ⟨fun taken next hrun => ?_, herror⟩
  obtain ⟨rfl, hnext⟩ := hok taken next hrun
  exact hnext

/-- A character that is accepted stands in front of what is left. -/
theorem reads_accept (c : Char) :
    Reads codes (Behind codes limit before) (accept c) fun found =>
      Behind codes limit (before ++ if found then [.plain c] else []) := by
  refine reads_peek.bind fun token => ?_
  split
  · next htoken =>
    subst htoken
    exact (reads_take_of_peek _).bind fun _ => reads_pure fun _ h => h.2
  · refine reads_pure fun _ h => ?_
    simpa using h.2

/-- A character that is demanded stands in front of what is left. -/
theorem reads_expect (c : Char) :
    Reads codes (Behind codes limit before) (expect c) fun _ =>
      Behind codes limit (before ++ [.plain c]) := by
  refine (reads_accept c).bind fun found => ?_
  cases found with
  | false => exact reads_refuse
  | true => exact reads_pure fun _ h => h

/-- Characters that are taken as long as they satisfy a test stand in front of what is left. -/
theorem reads_takeWhile (test : Char → Bool) (count : Nat) :
    Reads codes (Behind codes limit before) (takeWhile test count) fun taken state =>
      (∀ c ∈ taken, test c = true) ∧ Behind codes limit (before ++ taken.map .plain) state := by
  have hnone : ∀ state, Behind codes limit before state →
      (∀ c ∈ ([] : List Char), test c = true) ∧
        Behind codes limit (before ++ [].map .plain) state :=
    fun state h => ⟨nofun, by simpa using h⟩
  induction count generalizing before with
  | zero => exact reads_pure hnone
  | succ count ih =>
    refine reads_peek.bind fun token => ?_
    split
    · next c =>
      split
      · next hc =>
        refine (reads_take_of_peek _).bind fun _ => ?_
        have hrest : Reads codes (Behind codes limit (before ++ [.plain c])) (takeWhile test count)
            fun taken state => (∀ d ∈ taken, test d = true) ∧
              Behind codes limit (before ++ [.plain c] ++ taken.map .plain) state :=
          ih fun state h => ⟨nofun, by simpa using h⟩
        refine (hrest.weaken (fun _ h => h.2) fun _ _ h => h).bind fun taken => reads_pure ?_
        rintro state ⟨htaken, hbehind⟩
        exact ⟨List.forall_mem_cons.mpr ⟨hc, htaken⟩, by simpa using hbehind⟩
      · exact reads_pure fun state h => hnone state h.2
    · exact reads_pure fun state h => hnone state h.2

/-! ### Steps that go on in a text -/

/-- A step that goes on may go on behind tokens that count for the limit. -/
theorem Keeps.of_spent {spent : Nat} {step : Reading α} (h : Keeps codes limit step)
    (hspent : spent ≤ before.length) :
    Reads codes (Behind codes (limit + spent) before) step fun _ => Behind codes limit [] :=
  h.weaken (fun _ hbehind => hbehind.spend hspent) fun _ _ hbehind => hbehind

/-- A step that goes on may end within a larger limit. -/
theorem Reads.relax {larger : Nat} {step : Reading α}
    (h : Reads codes start step fun _ => Behind codes limit []) (hlimit : limit ≤ larger) :
    Reads codes start step fun _ => Behind codes larger [] :=
  h.weaken (fun _ hstart => hstart) fun _ _ hbehind => hbehind.mono hlimit

/-- A step that goes on from where what is left is known may have that for its limit. -/
theorem Keeps.of_rest {state : Progress} {step : Reading α}
    (h : Keeps codes state.rest.length step) :
    Reads codes (fun found => state = found ∧ Behind codes limit [] found) step
      fun _ => Behind codes limit [] := by
  refine Reads.of_start fun found hfound => ?_
  have hlimit : state.rest.length ≤ limit := hfound.1 ▸ hfound.2.short
  refine Reads.relax (Reads.weaken h ?_ fun _ _ hbehind => hbehind) hlimit
  rintro _ ⟨rfl, hbehind⟩
  exact hbehind.exact

/-- What a step leaves in front of the rest need not be remembered. -/
theorem Reads.keeps {step : Reading α} {left : α → List Token}
    (h : Reads codes (Behind codes limit []) step fun a => Behind codes limit (left a)) :
    Keeps codes limit step :=
  h.weaken (fun _ hbehind => hbehind) fun _ _ hbehind => hbehind.forget

/-- Steps that go on in a text do so one after another. -/
theorem Keeps.bind {first : Reading α} {next : α → Reading β} (h : Keeps codes limit first)
    (hnext : ∀ a, Keeps codes limit (next a)) : Keeps codes limit (first >>= next) :=
  Reads.bind h hnext

/-- Both ways of going on go on. -/
theorem Keeps.ite {condition : Prop} [Decidable condition] {step other : Reading α}
    (h : Keeps codes limit step) (hother : Keeps codes limit other) :
    Keeps codes limit (if condition then step else other) := by
  split
  · exact h
  · exact hother

/-- A step that reads nothing goes on. -/
theorem keeps_pure (a : α) : Keeps codes limit (pure a) :=
  reads_pure fun _ h => h

/-- Refusing a text goes on. -/
theorem keeps_refuse : Keeps codes limit (refuse (α := α)) :=
  reads_refuse

/-- The progress may be replaced where reading has come to the same place. -/
theorem keeps_set {other : Progress} (h : Behind codes limit [] other) :
    Keeps codes limit (set other) :=
  reads_set fun _ _ => h

/-- What is not about the place and the flags of the text may be changed. -/
theorem keeps_modify {change : Progress → Progress}
    (hrest : ∀ state, (change state).rest = state.rest := by exact fun _ => rfl)
    (hflags : ∀ state, (change state).flags = state.flags := by exact fun _ => rfl) :
    Keeps codes limit (modify change) :=
  reads_modify fun state h => h.of_eq (hrest state) (hflags state)

theorem keeps_take : Keeps codes limit take :=
  reads_take.keeps

theorem keeps_accept (c : Char) : Keeps codes limit (accept c) :=
  (reads_accept c).keeps

theorem keeps_expect (c : Char) : Keeps codes limit (expect c) :=
  (reads_expect c).keeps

theorem keeps_takeWhile (test : Char → Bool) (count : Nat) :
    Keeps codes limit (takeWhile test count) :=
  (reads_takeWhile test count).weaken (fun _ h => h) fun _ _ h => h.2.forget

/-- A token that is taken counts for the limit of what follows. -/
theorem keeps_take_bind {next : Option Token → Reading α} (hnone : Keeps codes limit (next none))
    (hsome : ∀ token left, left + 1 = limit → Keeps codes left (next (some token))) :
    Keeps codes limit (take >>= next) := by
  refine reads_take.bind fun token => ?_
  cases token with
  | none => exact hnone
  | some token =>
    refine Reads.of_start fun state hbehind => ?_
    obtain ⟨left, rfl⟩ := Nat.exists_eq_add_of_le' hbehind.length_le
    exact ((hsome token left rfl).of_spent (Nat.le_refl 1)).relax (Nat.le_succ left)

/-- A character that is accepted counts for the limit of what follows. -/
theorem keeps_accept_bind {c : Char} {step other : Reading α}
    (hstep : ∀ left, left + 1 = limit → Keeps codes left step) (hother : Keeps codes limit other) :
    Keeps codes limit (accept c >>= fun found => if found then step else other) := by
  refine (reads_accept c).bind fun found => ?_
  cases found with
  | false => exact hother
  | true =>
    refine Reads.of_start fun state hbehind => ?_
    obtain ⟨left, rfl⟩ := Nat.exists_eq_add_of_le' hbehind.length_le
    exact ((hstep left rfl).of_spent (Nat.le_refl 1)).relax (Nat.le_succ left)

/-- Fuel for every token that is left is enough to find a mark. -/
theorem keeps_takeUntil (mark : Char) {fuel : Nat} (hfuel : limit < fuel) (taken : List Char) :
    Keeps codes limit (takeUntil mark fuel taken) := by
  induction fuel generalizing limit taken with
  | zero => exact absurd hfuel (Nat.not_lt_zero limit)
  | succ fuel ih =>
    refine keeps_take_bind keeps_refuse fun token left hleft => ?_
    simp only
    split
    · split
      · exact keeps_refuse
      · exact keeps_pure _
    · exact ih (by omega) _

theorem keeps_takeName (mark : Char) : Keeps codes limit (takeName mark) :=
  reads_get.bind fun state =>
    Keeps.of_rest (keeps_takeUntil mark (Nat.lt_succ_self state.rest.length) [])

end RouteAudit.Pattern
