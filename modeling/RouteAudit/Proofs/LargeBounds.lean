import RouteAudit.Pattern.Reader
import RouteAudit.Proofs.CodePoints

/-!
# Bounds that are too large

A character with a bound on its repetitions is refused as soon as the bound has been read, if the
bound is too large or has too many digits. The way there is followed step by step.
-/

namespace RouteAudit.Pattern

/-- The token of a character that is no backslash. -/
theorem ofCode_toNat (c : Char) : Token.ofCode c.toNat = .plain c := by
  have hvalid : c.toNat.isValidChar := c.valid
  rw [Token.ofCode, if_pos hvalid, Char.ofNat_toNat]

/-- Characters without a backslash among them have a token each. -/
theorem tokens_of_notMem {chars : List Char} (h : '\\' ∉ chars) :
    tokens (chars.map Char.toNat) = chars.map .plain := by
  induction chars with
  | nil => rfl
  | cons c rest ih =>
    have hc : c.toNat ≠ backslash := fun hc => h (Char.toNat_inj.mp hc ▸ List.mem_cons_self)
    have htail := ih (List.not_mem_of_not_mem_cons h)
    cases rest with
    | nil => simp [tokens, hc, ofCode_toNat]
    | cons d others =>
      rw [List.map_cons, List.map_cons, tokens, if_neg hc, ofCode_toNat, ← List.map_cons, htail]
      rfl

/-- The first of two steps is taken. -/
theorem run_bind_of_ok {α β : Type} {first : Reading α} {rest : α → Reading β}
    {state next : Progress} {a : α} (h : first.run state = .ok (a, next)) :
    (first >>= rest).run state = (rest a).run next := by
  rw [StateT.run_bind, h]
  rfl

/-- The first of two steps refuses the text. -/
theorem run_bind_of_error {α β : Type} {first : Reading α} {rest : α → Reading β}
    {state : Progress} {fault : Fault} (h : first.run state = .error fault) :
    (first >>= rest).run state = .error fault := by
  rw [StateT.run_bind, h]
  rfl

/-- Progress with the given characters left. -/
def Progress.ahead (state : Progress) (chars : List Char) : Progress :=
  { state with rest := chars.map .plain }

/-! ## Steps -/

section Steps

variable (state : Progress) (c : Char) (chars : List Char)

theorem run_get_bind {α : Type} {rest : Progress → Reading α} :
    (get >>= rest).run state = (rest state).run state :=
  rfl

theorem run_peek_ahead :
    peek.run (state.ahead (c :: chars)) = .ok (some (.plain c), state.ahead (c :: chars)) :=
  rfl

theorem run_take_ahead :
    take.run (state.ahead (c :: chars)) = .ok (some (.plain c), state.ahead chars) := by
  cases chars with
  | nil => rfl
  | cons d rest => rfl

theorem run_accept_of_eq :
    (accept c).run (state.ahead (c :: chars)) = .ok (true, state.ahead chars) := by
  refine (run_bind_of_ok (run_peek_ahead state c chars)).trans ?_
  rw [if_pos rfl]
  exact run_bind_of_ok (run_take_ahead state c chars)

theorem run_accept_of_ne {d : Char} (h : c ≠ d) :
    (accept d).run (state.ahead (c :: chars)) = .ok (false, state.ahead (c :: chars)) := by
  refine (run_bind_of_ok (run_peek_ahead state c chars)).trans ?_
  rw [if_neg (by simpa using h)]
  rfl

/-- All characters that satisfy a test are taken, up to the first one that does not. -/
theorem run_takeWhile_ahead {test : Char → Bool} {taken : List Char} {count : Nat}
    (htaken : ∀ d ∈ taken, test d = true) (hc : test c = false) (hcount : taken.length ≤ count) :
    (takeWhile test count).run (state.ahead (taken ++ c :: chars)) =
      .ok (taken, state.ahead (c :: chars)) := by
  induction taken generalizing count with
  | nil =>
    cases count with
    | zero => rfl
    | succ count =>
      refine (run_bind_of_ok (run_peek_ahead state c chars)).trans ?_
      simp only [hc]
      rfl
  | cons d rest ih =>
    obtain ⟨count, rfl⟩ : ∃ n, count = n + 1 :=
      ⟨count - 1, by rw [List.length_cons] at hcount; omega⟩
    obtain ⟨hd, hrest⟩ := List.forall_mem_cons.mp htaken
    refine (run_bind_of_ok (run_peek_ahead state d _)).trans ?_
    simp only [hd, if_true]
    refine (run_bind_of_ok (run_take_ahead state d _)).trans ?_
    exact run_bind_of_ok (ih hrest (by simpa using hcount))

end Steps

/-! ## Bounds -/

variable {digits : List Char}

/-- A character with a bound on its repetitions. -/
def bounded (digits : List Char) : String :=
  String.ofList ('x' :: '\x7b' :: (digits ++ ['\x7d']))

/-- A bound is refused for the number of its digits before it is converted. -/
theorem run_readBound_of_many (hmany : Text.digitLimit < digits.length) (state : Progress) :
    (readBound digits).run state = .error (.tooManyDigits digits.length) := by
  have hdigits : digits.isEmpty = false := by
    cases digits with
    | nil => exact absurd hmany (Nat.not_lt_zero _)
    | cons c rest => rfl
  simp [readBound, hdigits, hmany]
  rfl

/-- Bounds are refused for the one number in them. -/
theorem run_readBounds_ahead {fault : Fault} (state : Progress) (chars : List Char)
    (hdigits : ∀ d ∈ digits, d.isDigit = true) (hne : digits ≠ [])
    (hfault : ∀ state, (readBound digits).run state = .error fault) :
    readBounds.run (state.ahead (digits ++ '\x7d' :: chars)) = .error fault := by
  obtain ⟨d, rest, rfl⟩ := List.exists_cons_of_ne_nil hne
  have hd : d ≠ '\x7d' := by
    rintro rfl
    exact absurd (hdigits _ List.mem_cons_self) (by decide)
  refine (run_get_bind _).trans ?_
  refine (run_bind_of_ok (run_peek_ahead state d _)).trans ?_
  rw [if_neg (by simpa using hd)]
  have hcount : (d :: rest).length ≤ (state.ahead (d :: rest ++ '\x7d' :: chars)).rest.length := by
    simp [Progress.ahead]
  refine (run_bind_of_ok
    (run_takeWhile_ahead state '\x7d' chars hdigits (by decide) hcount)).trans ?_
  refine (run_bind_of_ok (run_accept_of_ne state '\x7d' chars (by decide))).trans ?_
  -- Without a comma, the number is both bounds.
  change (closeBounds _ (d :: rest) (d :: rest)).run _ = _
  refine (run_bind_of_ok (run_accept_of_eq state '\x7d' chars)).trans ?_
  exact run_bind_of_error (hfault _)

variable {support : Support}

/-- A text that there is room for is refused for the bound on repetitions of its first character. -/
theorem read_of_readBound {fault : Fault} (hdigits : ∀ d ∈ digits, d.isDigit = true)
    (hne : digits ≠ []) (hfault : ∀ state, (readBound digits).run state = .error fault)
    (hroom : support.readingError? (bounded digits) = none) :
    read support (bounded digits) = .error fault := by
  have hnone : ∀ c, c.isDigit = false → c ∉ digits := by
    intro c hc hmem
    rw [hdigits c hmem] at hc
    cases hc
  have htokens : tokens (Text.codes (bounded digits).toList) =
      ('x' :: '\x7b' :: (digits ++ ['\x7d'])).map .plain := by
    rw [bounded, String.toList_ofList, Text.codes_of_notMem, tokens_of_notMem]
    · simpa using hnone '\\' (by decide)
    · have hdigit := hnone Text.mark (by decide)
      simp only [List.mem_cons, List.mem_append, List.not_mem_nil, or_false, not_or]
      exact ⟨by decide, by decide, hdigit, by decide⟩
  have hitems : ∀ fuel, (readItems (fuel + 1 + 1) true {} []).run
      (Progress.ahead { rest := [], character? := support.character? }
        ('x' :: '\x7b' :: (digits ++ ['\x7d']))) = .error fault := by
    intro fuel
    refine (run_bind_of_ok (run_peek_ahead _ 'x' _)).trans ?_
    refine (run_bind_of_ok (run_take_ahead _ 'x' _)).trans ?_
    refine (run_bind_of_ok (run_peek_ahead _ '\x7b' _)).trans ?_
    refine (run_bind_of_ok (run_take_ahead _ '\x7b' _)).trans ?_
    exact run_bind_of_error (run_readBounds_ahead _ _ hdigits hne hfault)
  have hchoice : ∀ fuel, (readChoice (fuel + 1 + 1 + 1) true {}).run
      (Progress.ahead { rest := [], character? := support.character? }
        ('x' :: '\x7b' :: (digits ++ ['\x7d']))) = .error fault :=
    fun fuel => run_bind_of_error (hitems fuel)
  unfold read
  simp only [hroom, htokens]
  rw [if_neg (by simp)]
  exact congrArg (· >>= _) (hchoice _)

/-- A bound of too many digits is refused for their number. -/
theorem read_of_many (hdigits : ∀ d ∈ digits, d.isDigit = true)
    (hmany : Text.digitLimit < digits.length)
    (hroom : support.readingError? (bounded digits) = none) :
    read support (bounded digits) = .error (.tooManyDigits digits.length) := by
  have hne : digits ≠ [] := List.ne_nil_of_length_pos (Nat.zero_lt_of_lt hmany)
  exact read_of_readBound hdigits hne (run_readBound_of_many hmany) hroom

end RouteAudit.Pattern
