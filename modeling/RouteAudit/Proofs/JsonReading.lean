import Mathlib.Data.List.Infix
import Mathlib.Data.List.TakeWhile
import RouteAudit.Proofs.CodePoints
import RouteAudit.Proofs.EventReading
import RouteAudit.Proofs.ShortNumbers

/-!
# Reading JSON to its end

Each part of a text is read from where the part before it ends, and takes at least one character. So
the fuel that reading begins with is enough for the whole text. A text is refused for its digits
only if it has a whole number of more digits than are converted, and otherwise it has no such
number.
-/

namespace RouteAudit.Json

/-- A row of digits in a text, more of them than are converted. -/
def HasLongNumeral (chars : List Char) (count : Nat) : Prop :=
  ∃ digits, digits <:+: chars ∧ (∀ c ∈ digits, Text.isDecimalDigit c = true) ∧
    digits.length = count ∧ Text.digitLimit < count

/-- The digits of a part of a text are digits of the text. -/
theorem HasLongNumeral.of_suffix {part chars : List Char} {count : Nat}
    (h : HasLongNumeral part count) (hpart : part <:+ chars) : HasLongNumeral chars count := by
  obtain ⟨digits, hdigits, hrow, hcount, hlimit⟩ := h
  exact ⟨digits, hdigits.trans hpart.isInfix, hrow, hcount, hlimit⟩

/-- What is left of a text behind its front, which has a character at least. -/
structure Beyond (part chars : List Char) : Prop where
  suffix : part <:+ chars
  shorter : part.length < chars.length

namespace Beyond

variable {part chars middle : List Char}

/-- A word of at least one character has been passed. -/
theorem of_append {word : List Char} (hword : word ≠ []) : Beyond part (word ++ part) :=
  ⟨List.suffix_append word part, by
    rw [List.length_append]
    exact Nat.lt_add_of_pos_left (List.length_pos_iff.mpr hword)⟩

/-- A character has been passed. -/
theorem of_suffix_cons {c : Char} (h : part <:+ chars) : Beyond part (c :: chars) :=
  ⟨h.trans (List.suffix_cons c chars), by
    rw [List.length_cons]
    exact Nat.lt_succ_of_le h.length_le⟩

/-- The front may be longer. -/
theorem of_suffix (h : Beyond part middle) (hmiddle : middle <:+ chars) : Beyond part chars :=
  ⟨h.suffix.trans hmiddle, h.shorter.trans_le hmiddle.length_le⟩

/-- More may be passed behind the front. -/
theorem suffix_trans (h : Beyond middle chars) (hpart : part <:+ middle) : Beyond part chars :=
  ⟨hpart.trans h.suffix, hpart.length_le.trans_lt h.shorter⟩

end Beyond

/-- What reading the start of a text comes to leaves the text behind it, and a value of a kind. It
is refused for digits only if the text has them, and never for want of fuel. -/
structure Leaves {α : Type} (kind : α → Prop) (chars : List Char)
    (result : Except Flaw (α × List Char)) : Prop where
  behind : ∀ value after, result = .ok (value, after) → Beyond after chars
  value : ∀ value after, result = .ok (value, after) → kind value
  digits : ∀ count, result = .error (.tooManyDigits count) → HasLongNumeral chars count
  finishes : result ≠ .error .outOfFuel

/-- A kind that all values are of. -/
def Anything {α : Type} (_ : α) : Prop := True

namespace Leaves

variable {α β : Type} {kind : α → Prop} {other : β → Prop} {chars part : List Char}
  {result : Except Flaw (α × List Char)}

/-- What is read leaves a part of the text. -/
theorem of_ok {value : α} (hvalue : kind value) (h : Beyond part chars) :
    Leaves kind chars (.ok (value, part)) := by
  constructor
  case behind =>
    intro _ _ hok
    cases hok
    exact h
  case value =>
    intro _ _ hok
    cases hok
    exact hvalue
  case digits => exact nofun
  case finishes => exact nofun

/-- A fault at a place has nothing to do with digits. -/
theorem of_malformed {cause : Cause} {left : Nat} :
    Leaves kind chars (.error (.malformed cause left)) := by
  constructor
  case behind => exact nofun
  case value => exact nofun
  case digits => exact nofun
  case finishes => exact nofun

/-- A text with the digits is refused for them. -/
theorem of_digits {count : Nat} (h : HasLongNumeral chars count) :
    Leaves kind chars (.error (.tooManyDigits count)) := by
  constructor
  case behind => exact nofun
  case value => exact nofun
  case digits =>
    rintro _ ⟨⟩
    exact h
  case finishes => exact nofun

/-- Reading may begin behind the start of a text. -/
theorem of_suffix (h : Leaves kind part result) (hpart : part <:+ chars) :
    Leaves kind chars result := by
  constructor
  case behind => exact fun value after hok => (h.behind value after hok).of_suffix hpart
  case value => exact h.value
  case digits => exact fun count herror => (h.digits count herror).of_suffix hpart
  case finishes => exact h.finishes

/-- A flaw of one kind of value is one of every kind. -/
theorem of_error {flaw : Flaw} (h : Leaves kind chars (.error flaw)) :
    Leaves other chars (.error flaw) := by
  constructor
  case behind => exact nofun
  case value => exact nofun
  case digits =>
    rintro count ⟨⟩
    exact h.digits count rfl
  case finishes =>
    rintro ⟨⟩
    exact h.finishes rfl

/-- One part of a text may be read behind another one. -/
theorem bind {next : α × List Char → Except Flaw (β × List Char)} (h : Leaves kind chars result)
    (hnext : ∀ value after, kind value → Beyond after chars →
      Leaves other after (next (value, after))) :
    Leaves other chars (result >>= next) := by
  cases result with
  | error flaw => exact h.of_error
  | ok read =>
    have hafter := h.behind read.1 read.2 rfl
    exact (hnext read.1 read.2 (h.value read.1 read.2 rfl) hafter).of_suffix hafter.suffix

/-- What is read may be made into another value. -/
theorem map {change : α × List Char → β × List Char} (h : Leaves kind chars result)
    (hkind : ∀ value after, kind value → other (change (value, after)).1)
    (hchange : ∀ value after, (change (value, after)).2 = after) :
    Leaves other chars (result.map change) := by
  cases result with
  | error flaw => exact h.of_error
  | ok read =>
    obtain ⟨value, after⟩ := read
    have hafter := h.behind value after rfl
    rw [← hchange value after] at hafter
    exact .of_ok (hkind value after (h.value value after rfl)) hafter

end Leaves

/-- Blank space is passed over. -/
theorem skipSpace_suffix (chars : List Char) : skipSpace chars <:+ chars :=
  List.dropWhile_suffix _

/-! ## Strings -/

/-- The code units of a string leave the text behind it. -/
theorem leaves_readUnits (opening : Nat) (chars : List Char) :
    Leaves Anything chars (readUnits opening chars) := by
  fun_induction readUnits opening chars with
  | case2 rest => exact .of_ok trivial (.of_suffix_cons List.suffix_rfl)
  | case4 a b c d first rest a' b' c' d' ha hb hc hd ih =>
    have hpart : first :: rest <:+ '\\' :: 'u' :: a :: b :: c :: d :: first :: rest :=
      ⟨['\\', 'u', a, b, c, d], rfl⟩
    exact (ih.of_suffix hpart).map (fun _ _ _ => trivial) fun _ _ => rfl
  | case7 c rest _ _ e he ih =>
    exact (ih.of_suffix ⟨['\\', c], rfl⟩).map (fun _ _ _ => trivial) fun _ _ => rfl
  | case10 c rest _ _ _ _ _ hc ih =>
    exact (ih.of_suffix (List.suffix_cons _ _)).map (fun _ _ _ => trivial) fun _ _ => rfl
  | _ => exact .of_malformed

/-- A string leaves the text behind it. -/
theorem leaves_readString (chars : List Char) : Leaves Anything chars (readString chars) :=
  (leaves_readUnits _ chars).map (fun _ _ _ => trivial) fun _ _ => rfl

/-! ## Numbers -/

/-- Digits are read up to the first character that is none. -/
theorem readDigits_eq (chars : List Char) :
    readDigits chars =
      (chars.takeWhile Text.isDecimalDigit, chars.dropWhile Text.isDecimalDigit) :=
  List.span_eq_takeWhile_dropWhile _ _

/-- Digits leave the text behind them. -/
theorem readDigits_suffix (chars : List Char) : (readDigits chars).2 <:+ chars := by
  rw [readDigits_eq]
  exact List.dropWhile_suffix _

/-- A fraction leaves the text behind it. -/
theorem readFraction_suffix (chars : List Char) : (readFraction chars).2 <:+ chars := by
  unfold readFraction
  split
  · split
    · exact (readDigits_suffix _).trans (List.suffix_cons _ _)
    · exact List.suffix_rfl
  · exact List.suffix_rfl

/-- An exponent leaves the text behind it. -/
theorem readExponent_suffix (chars : List Char) : (readExponent chars).2 <:+ chars := by
  unfold readExponent
  extract_lets unsigned
  have hunsigned : ∀ negative rest, rest <:+ chars → (unsigned negative rest).2 <:+ chars := by
    intro negative rest hrest
    have hdigits := (readDigits_suffix rest).trans hrest
    simp only [unsigned]
    split
    · exact List.suffix_rfl
    · exact hdigits
  split
  · next mark rest =>
    split
    · exact hunsigned true rest ⟨[mark, '-'], rfl⟩
    · exact List.suffix_rfl
  · next mark rest =>
    split
    · exact hunsigned false rest ⟨[mark, '+'], rfl⟩
    · exact List.suffix_rfl
  · next mark rest _ _ =>
    split
    · exact hunsigned false rest (List.suffix_cons _ _)
    · exact List.suffix_rfl
  · exact List.suffix_rfl

/-- A number without its sign leaves the text behind it. It can only be refused for its digits, and
otherwise it does not have too many. -/
theorem readUnsigned?_eq_some {negative : Bool} {chars after : List Char}
    {result : Except Flaw Json} (h : readUnsigned? negative chars = some (result, after)) :
    Beyond after chars ∧ (∀ value, result = .ok value → value.IsShort) ∧
      ∀ flaw, result = .error flaw →
        ∃ count, flaw = .tooManyDigits count ∧ HasLongNumeral chars count := by
  unfold readUnsigned? at h
  extract_lets whole? at h
  have hwhole : ∀ whole rest, whole? = some (whole, rest) → Beyond rest chars ∧
      whole <:+: chars ∧ ∀ c ∈ whole, Text.isDecimalDigit c = true := by
    intro whole rest hsome
    simp only [whole?] at hsome
    split at hsome
    · cases hsome
      refine ⟨.of_suffix_cons List.suffix_rfl, ⟨[], rest, rfl⟩, ?_⟩
      intro c hc
      rw [List.mem_singleton.mp hc]
      decide
    · split at hsome
      · next d others _ hdigit =>
        rw [readDigits_eq] at hsome
        obtain ⟨rfl, rfl⟩ := Prod.mk.inj (Option.some.inj hsome)
        refine ⟨?_, (List.takeWhile_prefix _).isInfix, fun c hc => List.mem_takeWhile_imp hc⟩
        rw [List.dropWhile_cons_of_pos hdigit]
        exact .of_suffix_cons (List.dropWhile_suffix _)
      · cases hsome
    · cases hsome
  obtain ⟨⟨whole, rest⟩, hsome, hresult⟩ := Option.map_eq_some_iff.mp h
  obtain ⟨hrest, hinfix, hdigits⟩ := hwhole whole rest hsome
  have hafter : Beyond (readExponent (readFraction rest).2).2 chars :=
    hrest.suffix_trans ((readExponent_suffix _).trans (readFraction_suffix rest))
  simp only at hresult
  split at hresult
  · split at hresult
    · next hlimit =>
      cases hresult
      refine ⟨hafter, nofun, ?_⟩
      rintro flaw ⟨⟩
      exact ⟨_, rfl, whole, hinfix, hdigits, rfl, hlimit⟩
    · next hlimit =>
      cases hresult
      refine ⟨hafter, ?_, nofun⟩
      rintro value ⟨⟩
      exact isShort_int_of_digits hdigits (Nat.le_of_not_lt hlimit) negative
  · cases hresult
    refine ⟨hafter, ?_, nofun⟩
    rintro value ⟨⟩
    rfl

/-- A number or a word leaves the text behind it. -/
theorem leaves_readScalar (chars : List Char) : Leaves IsShort chars (readScalar chars) := by
  unfold readScalar
  extract_lets refused number
  have hnumber : ∀ negative rest, rest <:+ chars →
      Leaves IsShort chars (number negative rest) := by
    intro negative rest hrest
    simp only [number]
    split
    · next value after hvalue =>
      obtain ⟨hafter, hshort, -⟩ := readUnsigned?_eq_some hvalue
      exact .of_ok (hshort value rfl) (hafter.of_suffix hrest)
    · next flaw after hflaw =>
      obtain ⟨-, -, hdigits⟩ := readUnsigned?_eq_some hflaw
      obtain ⟨count, rfl, hlong⟩ := hdigits flaw rfl
      exact .of_digits (hlong.of_suffix hrest)
    · exact .of_malformed
  split
  · exact .of_ok rfl (.of_append (List.cons_ne_nil 'n' ['u', 'l', 'l']))
  · exact .of_ok rfl (.of_append (List.cons_ne_nil 't' ['r', 'u', 'e']))
  · exact .of_ok rfl (.of_append (List.cons_ne_nil 'f' ['a', 'l', 's', 'e']))
  · exact .of_ok rfl (.of_append (List.cons_ne_nil 'N' ['a', 'N']))
  · exact .of_ok rfl (.of_append (List.cons_ne_nil 'I' ['n', 'f', 'i', 'n', 'i', 't', 'y']))
  · exact .of_ok rfl (.of_append (List.cons_ne_nil '-' ['I', 'n', 'f', 'i', 'n', 'i', 't', 'y']))
  · exact hnumber true _ (List.suffix_cons _ _)
  · exact hnumber false _ List.suffix_rfl

/-! ## Values -/

section Step

variable {fuel : Nat}

/-- A value leaves the text behind it, if items and fields do with less fuel. -/
theorem leaves_readValue_succ
    (hitems : ∀ before chars, ItemsShort before → 2 * chars.length + 2 ≤ fuel →
      Leaves ItemsShort chars (readItems fuel before chars))
    (hfields : ∀ before chars, FieldsShort before → 2 * chars.length + 2 ≤ fuel →
      Leaves FieldsShort chars (readFields fuel before chars))
    (chars : List Char) (hfuel : 2 * chars.length + 1 ≤ fuel + 1) :
    Leaves IsShort chars (readValue (fuel + 1) chars) := by
  unfold readValue
  split
  · next hzero => cases hzero
  · next rest _ =>
    exact ((leaves_readString rest).of_suffix (List.suffix_cons _ _)).map (fun _ _ _ => rfl)
      fun _ _ => rfl
  · next rest heq =>
    obtain rfl := Nat.succ.inj heq
    have hspace := skipSpace_suffix rest
    have hinside := hspace.trans (List.suffix_cons '[' rest)
    split
    · next after hafter =>
      rw [hafter] at hspace
      exact .of_ok rfl (.of_suffix_cons ((List.suffix_cons _ _).trans hspace))
    · have hlength := hspace.length_le
      have hless : 2 * (skipSpace rest).length + 2 ≤ fuel := by
        rw [List.length_cons] at hfuel
        omega
      exact ((hitems [] _ nofun hless).of_suffix hinside).map
        (fun _ _ => isShort_array_iff.mpr) fun _ _ => rfl
  · next rest heq =>
    obtain rfl := Nat.succ.inj heq
    have hspace := skipSpace_suffix rest
    have hinside := hspace.trans (List.suffix_cons '\x7b' rest)
    split
    · next after hafter =>
      rw [hafter] at hspace
      exact .of_ok rfl (.of_suffix_cons ((List.suffix_cons _ _).trans hspace))
    · have hlength := hspace.length_le
      have hless : 2 * (skipSpace rest).length + 2 ≤ fuel := by
        rw [List.length_cons] at hfuel
        omega
      exact ((hfields [] _ nofun hless).of_suffix hinside).map
        (fun _ _ => isShort_object_iff.mpr) fun _ _ => rfl
  · exact leaves_readScalar _

/-- Behind a mark and blank space there is less text than before it. -/
theorem length_skipSpace_of_cons {after rest : List Char} {c : Char}
    (hrest : skipSpace after = c :: rest) : (skipSpace rest).length + 1 ≤ after.length := by
  have hspace := (skipSpace_suffix after).length_le
  have hmore := (skipSpace_suffix rest).length_le
  rw [hrest, List.length_cons] at hspace
  omega

/-- Items of a list leave the text behind them, if a value and the next items do with less fuel. -/
theorem leaves_readItems_succ
    (hvalue : ∀ chars, 2 * chars.length + 1 ≤ fuel → Leaves IsShort chars (readValue fuel chars))
    (hitems : ∀ before chars, ItemsShort before → 2 * chars.length + 2 ≤ fuel →
      Leaves ItemsShort chars (readItems fuel before chars))
    {before : List Json} (hbefore : ItemsShort before) (chars : List Char)
    (hfuel : 2 * chars.length + 2 ≤ fuel + 1) :
    Leaves ItemsShort chars (readItems (fuel + 1) before chars) := by
  unfold readItems
  refine (hvalue chars (by omega)).bind fun item after hitem hshorter => ?_
  have hread : ItemsShort (item :: before) := List.forall_mem_cons.mpr ⟨hitem, hbefore⟩
  have hafter := skipSpace_suffix after
  dsimp only
  split
  · next rest hrest =>
    rw [hrest] at hafter
    exact .of_ok (fun value hvalue => hread value (List.mem_reverse.mp hvalue))
      (Beyond.of_suffix (.of_suffix_cons List.suffix_rfl) hafter)
  · next rest hrest =>
    have hlength := length_skipSpace_of_cons hrest
    have hlonger := hshorter.shorter
    rw [hrest] at hafter
    have hnext := (skipSpace_suffix rest).trans ((List.suffix_cons _ _).trans hafter)
    exact (hitems (item :: before) (skipSpace rest) hread (by omega)).of_suffix hnext
  · exact .of_malformed

/-- Fields of an object leave the text behind them, if a value and the next fields do with less
fuel. -/
theorem leaves_readFields_succ
    (hvalue : ∀ chars, 2 * chars.length + 1 ≤ fuel → Leaves IsShort chars (readValue fuel chars))
    (hfields : ∀ before chars, FieldsShort before → 2 * chars.length + 2 ≤ fuel →
      Leaves FieldsShort chars (readFields fuel before chars))
    {before : Named Json} (hbefore : FieldsShort before) (chars : List Char)
    (hfuel : 2 * chars.length + 2 ≤ fuel + 1) :
    Leaves FieldsShort chars (readFields (fuel + 1) before chars) := by
  unfold readFields
  split
  · next hzero => cases hzero
  · next rest heq =>
    obtain rfl := Nat.succ.inj heq
    rw [List.length_cons] at hfuel
    refine ((leaves_readString rest).of_suffix (List.suffix_cons _ _)).bind
      fun name after _ hname => ?_
    have hafter := skipSpace_suffix after
    have hshorter := hname.shorter
    rw [List.length_cons] at hshorter
    dsimp only
    split
    · next rest hrest =>
      have hlength := length_skipSpace_of_cons hrest
      rw [hrest] at hafter
      have hinside := (skipSpace_suffix rest).trans ((List.suffix_cons _ _).trans hafter)
      refine ((hvalue (skipSpace rest) (by omega)).of_suffix hinside).bind
        fun value behind hshort hbeyond => ?_
      have hread := hbefore.put name hshort
      have hbehind := skipSpace_suffix behind
      have hless := hbeyond.shorter
      dsimp only
      split
      · next others hothers =>
        rw [hothers] at hbehind
        exact .of_ok hread (Beyond.of_suffix (.of_suffix_cons List.suffix_rfl) hbehind)
      · next others hothers =>
        have hlast := length_skipSpace_of_cons hothers
        rw [hothers] at hbehind
        have hnext := (skipSpace_suffix others).trans ((List.suffix_cons _ _).trans hbehind)
        exact (hfields _ (skipSpace others) hread (by omega)).of_suffix hnext
      · exact .of_malformed
    · exact .of_malformed
  · exact .of_malformed

end Step

/-- With fuel for two steps per character, values, items of lists and fields of objects leave the
text behind them. -/
theorem leaves_read (fuel : Nat) :
    (∀ chars, 2 * chars.length + 1 ≤ fuel → Leaves IsShort chars (readValue fuel chars)) ∧
      (∀ before chars, ItemsShort before → 2 * chars.length + 2 ≤ fuel →
        Leaves ItemsShort chars (readItems fuel before chars)) ∧
      ∀ before chars, FieldsShort before → 2 * chars.length + 2 ≤ fuel →
        Leaves FieldsShort chars (readFields fuel before chars) := by
  -- The three readers call each other with less fuel, so they go through one induction. Items and
  -- fields start with a value at the same place, hence the one unit more.
  induction fuel with
  | zero => exact ⟨nofun, fun _ _ _ => nofun, fun _ _ _ => nofun⟩
  | succ fuel ih =>
    obtain ⟨hvalue, hitems, hfields⟩ := ih
    exact ⟨leaves_readValue_succ hitems hfields,
      fun _ chars hbefore => leaves_readItems_succ hvalue hitems hbefore chars,
      fun _ chars hbefore => leaves_readFields_succ hvalue hfields hbefore chars⟩

/-- Reading a text starts with fuel for its value. -/
theorem leaves_readValue_text (chars : List Char) :
    Leaves IsShort (skipSpace chars) (readValue (2 * chars.length + 2) (skipSpace chars)) := by
  have hlength := (skipSpace_suffix chars).length_le
  exact (leaves_read (2 * chars.length + 2)).1 (skipSpace chars) (by omega)

/-- **Long numerals.** A text that is refused for its digits has them. -/
theorem hasLongNumeral_of_read {text : String} {count : Nat}
    (h : read text = .error (.tooManyDigits count)) : HasLongNumeral text.toList count := by
  unfold read at h
  split at h
  · cases h
  · rcases bind_eq_error_iff.mp h with hvalue | ⟨⟨value, after⟩, -, hafter⟩
    · have hnumeral := (leaves_readValue_text text.toList).digits count hvalue
      exact hnumeral.of_suffix (skipSpace_suffix text.toList)
    · dsimp only at hafter
      split at hafter
      · cases hafter
      · cases hafter

/-- **Short numbers.** A text that is read has no number of more digits than are converted. -/
theorem isShort_of_read {text : String} {value : Json} (h : read text = .ok value) :
    value.IsShort := by
  unfold read at h
  split at h
  · cases h
  · obtain ⟨⟨found, after⟩, hvalue, hafter⟩ := bind_eq_ok_iff.mp h
    have hshort := (leaves_readValue_text text.toList).value found after hvalue
    dsimp only at hafter
    split at hafter
    · cases hafter
      exact hshort
    · cases hafter

/-- **Enough fuel.** No text is refused for want of fuel. -/
theorem read_ne_outOfFuel (text : String) : read text ≠ .error .outOfFuel := by
  intro h
  unfold read at h
  split at h
  · cases h
  · rcases bind_eq_error_iff.mp h with hvalue | ⟨⟨value, after⟩, -, hafter⟩
    · exact (leaves_readValue_text text.toList).finishes hvalue
    · dsimp only at hafter
      split at hafter
      · cases hafter
      · cases hafter

end RouteAudit.Json
