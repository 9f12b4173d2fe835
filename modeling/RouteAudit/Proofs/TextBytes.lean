import Mathlib.Tactic.Common
import RouteAudit.Text.Utf8

/-!
# The bytes of texts

Bytes are read as a text exactly if they are the UTF-8 encoding of characters, and then as these
characters. A first byte tells how many bytes follow and which bounds the second one keeps: they
rule out encodings that are longer than necessary, surrogates, and code points that are too large.
-/

namespace RouteAudit.Text

variable {byte : UInt8} {bytes rest : List UInt8} {lead code valid : Nat}
  {bounds : List (UInt8 × UInt8)}

/-! ## First bytes -/

/-- The first byte of a character of one byte. -/
theorem utf8Lead?_one (hbyte : byte.toNat < 0x80) : utf8Lead? byte = some ([], byte.toNat) := by
  unfold utf8Lead?
  rw [if_pos (UInt8.lt_iff_toNat_lt.mpr hbyte)]

/-- The first byte of a character of two bytes. -/
theorem utf8Lead?_two (hlow : 0xC2 ≤ byte.toNat) (hhigh : byte.toNat < 0xE0) :
    utf8Lead? byte = some ([(0x80, 0xBF)], byte.toNat - 0xC0) := by
  simp only [utf8Lead?, UInt8.lt_iff_toNat_lt, UInt8.toNat_ofNat]
  rw [if_neg (by omega), if_neg (by omega), if_pos (by omega)]

/-- The first byte of a character of three bytes. -/
theorem utf8Lead?_three (hlow : 0xE0 ≤ byte.toNat) (hhigh : byte.toNat < 0xF0) :
    utf8Lead? byte =
      some ([(if byte.toNat = 0xE0 then 0xA0 else 0x80, if byte.toNat = 0xED then 0x9F else 0xBF),
        (0x80, 0xBF)], byte.toNat - 0xE0) := by
  simp only [utf8Lead?, UInt8.lt_iff_toNat_lt, ← UInt8.toNat_inj, UInt8.toNat_ofNat]
  rw [if_neg (by omega), if_neg (by omega), if_neg (by omega)]
  by_cases hfirst : byte.toNat = 0xE0
  · simp [hfirst]
  · by_cases hsurrogates : byte.toNat = 0xED
    · simp [hsurrogates]
    · simp [hfirst, hsurrogates, hhigh]

/-- The first byte of a character of four bytes. -/
theorem utf8Lead?_four (hlow : 0xF0 ≤ byte.toNat) (hhigh : byte.toNat ≤ 0xF4) :
    utf8Lead? byte =
      some ([(if byte.toNat = 0xF0 then 0x90 else 0x80, if byte.toNat = 0xF4 then 0x8F else 0xBF),
        (0x80, 0xBF), (0x80, 0xBF)], byte.toNat - 0xF0) := by
  simp only [utf8Lead?, UInt8.lt_iff_toNat_lt, ← UInt8.toNat_inj, UInt8.toNat_ofNat]
  rw [if_neg (by omega), if_neg (by omega), if_neg (by omega), if_neg (by omega),
    if_neg (by omega), if_neg (by omega)]
  by_cases hfirst : byte.toNat = 0xF0
  · simp [hfirst]
  · by_cases hlast : byte.toNat = 0xF4
    · simp [hlast]
    · simp [hfirst, hlast]
      omega

/-- No other byte is the first one of a character. -/
theorem utf8Lead?_none (hbyte : 0x80 ≤ byte.toNat ∧ byte.toNat < 0xC2 ∨ 0xF4 < byte.toNat) :
    utf8Lead? byte = none := by
  simp only [utf8Lead?, UInt8.lt_iff_toNat_lt, ← UInt8.toNat_inj, UInt8.toNat_ofNat]
  rw [if_neg (by omega)]
  by_cases hsmall : byte.toNat < 0xC2
  · exact if_pos hsmall
  · rw [if_neg (by omega), if_neg (by omega), if_neg (by omega), if_neg (by omega),
      if_neg (by omega), if_neg (by omega), if_neg (by omega), if_neg (by omega)]

/-! ## Characters -/

/-- Where no byte has to follow, the code point is complete. -/
theorem utf8Rest_nil_eq_ok_iff {result : Nat × List UInt8} :
    utf8Rest [] lead valid bytes = .ok result ↔ result = (lead, bytes) := by
  simp [utf8Rest, eq_comm]

/-- A byte that has to follow is there and keeps its bounds. -/
theorem utf8Rest_cons_eq_ok_iff {low high : UInt8} {result : Nat × List UInt8} :
    utf8Rest ((low, high) :: bounds) lead valid bytes = .ok result ↔
      ∃ next others, bytes = next :: others ∧
        low.toNat ≤ next.toNat ∧ next.toNat ≤ high.toNat ∧
        utf8Rest bounds (lead * 64 + (next.toNat - 0x80)) (valid + 1) others = .ok result := by
  cases bytes with
  | nil => simp [utf8Rest]
  | cons next others =>
    simp only [utf8Rest, UInt8.le_iff_toNat_le, List.cons.injEq]
    split
    · next hbounds => simp [hbounds]
    · next hbounds =>
      constructor
      · intro herror
        cases herror
      · rintro ⟨_, _, ⟨rfl, rfl⟩, hlow, hhigh, -⟩
        exact absurd ⟨hlow, hhigh⟩ hbounds

/-- The bytes start with a character that has a code point, the others being behind it. -/
def ReadsFirst (byte : UInt8) (bytes : List UInt8) (code : Nat) (rest : List UInt8) : Prop :=
  ∃ bounds lead, utf8Lead? byte = some (bounds, lead) ∧
    utf8Rest bounds lead 0 bytes = .ok (code, rest)

/-- A number is the value of a byte exactly if the byte is made from it. -/
theorem ofNat_eq_of_toNat_eq {n : Nat} (h : byte.toNat = n) : UInt8.ofNat n = byte := by
  rw [← h, UInt8.ofNat_toNat]

/-- A code point that is valid is that of a character. -/
theorem exists_char_of_valid (hvalid : code.isValidChar) : ∃ c : Char, c.val.toNat = code :=
  ⟨Char.ofNatAux code hvalid, rfl⟩

/-- A lower bound that depends on a condition. -/
theorem ite_toNat_le_iff {p : Prop} [Decidable p] {low other next : UInt8} :
    (if p then low else other).toNat ≤ next.toNat ↔
      (p → low.toNat ≤ next.toNat) ∧ (¬p → other.toNat ≤ next.toNat) := by
  split <;> simp [*]

/-- An upper bound that depends on a condition. -/
theorem le_ite_toNat_iff {p : Prop} [Decidable p] {high other next : UInt8} :
    next.toNat ≤ (if p then high else other).toNat ↔
      (p → next.toNat ≤ high.toNat) ∧ (¬p → next.toNat ≤ other.toNat) := by
  split <;> simp [*]

/-! ### From bytes to characters -/

/-- One byte that is read as a character is its encoding. -/
theorem exists_char_one (hbyte : byte.toNat < 0x80)
    (hrest : utf8Rest [] byte.toNat 0 bytes = .ok (code, rest)) :
    ∃ c : Char, c.val.toNat = code ∧ byte :: bytes = String.utf8EncodeChar c ++ rest := by
  obtain ⟨rfl, rfl⟩ := Prod.mk.inj (utf8Rest_nil_eq_ok_iff.mp hrest)
  obtain ⟨c, hc⟩ := exists_char_of_valid (.inl (by omega) : byte.toNat.isValidChar)
  refine ⟨c, hc, ?_⟩
  rw [String.utf8EncodeChar, hc, if_pos (by omega), UInt8.ofNat_toNat]
  rfl

/-- Two bytes that are read as a character are its encoding. -/
theorem exists_char_two (hlow : 0xC2 ≤ byte.toNat) (hhigh : byte.toNat < 0xE0)
    (hrest : utf8Rest [(0x80, 0xBF)] (byte.toNat - 0xC0) 0 bytes = .ok (code, rest)) :
    ∃ c : Char, c.val.toNat = code ∧ byte :: bytes = String.utf8EncodeChar c ++ rest := by
  simp only [utf8Rest_cons_eq_ok_iff, utf8Rest_nil_eq_ok_iff, UInt8.toNat_ofNat,
    Prod.mk.injEq] at hrest
  obtain ⟨second, others, rfl, hlow₂, hhigh₂, hcode, rfl⟩ := hrest
  obtain ⟨c, hc⟩ := exists_char_of_valid (.inl (by omega) : code.isValidChar)
  refine ⟨c, hc, ?_⟩
  rw [String.utf8EncodeChar, hc, if_neg (by omega), if_pos (by omega),
    ofNat_eq_of_toNat_eq (by omega : byte.toNat = code / 64 % 32 + 192),
    ofNat_eq_of_toNat_eq (by omega : second.toNat = code % 64 + 128)]
  rfl

/-- Three bytes that are read as a character are its encoding. -/
theorem exists_char_three (hlow : 0xE0 ≤ byte.toNat) (hhigh : byte.toNat < 0xF0)
    (hrest : utf8Rest [(if byte.toNat = 0xE0 then 0xA0 else 0x80,
        if byte.toNat = 0xED then 0x9F else 0xBF), (0x80, 0xBF)] (byte.toNat - 0xE0) 0 bytes =
      .ok (code, rest)) :
    ∃ c : Char, c.val.toNat = code ∧ byte :: bytes = String.utf8EncodeChar c ++ rest := by
  simp only [utf8Rest_cons_eq_ok_iff, utf8Rest_nil_eq_ok_iff, ite_toNat_le_iff, le_ite_toNat_iff,
    UInt8.toNat_ofNat, Prod.mk.injEq] at hrest
  obtain ⟨second, _, rfl, hlow₂, hhigh₂, third, others, rfl, hlow₃, hhigh₃, hcode, rfl⟩ := hrest
  -- The bounds on the second byte leave out what two bytes encode, and the surrogates.
  obtain ⟨c, hc⟩ := exists_char_of_valid (by unfold Nat.isValidChar; omega : code.isValidChar)
  refine ⟨c, hc, ?_⟩
  rw [String.utf8EncodeChar, hc, if_neg (by omega), if_neg (by omega), if_pos (by omega),
    ofNat_eq_of_toNat_eq (by omega : byte.toNat = code / 4096 % 16 + 224),
    ofNat_eq_of_toNat_eq (by omega : second.toNat = code / 64 % 64 + 128),
    ofNat_eq_of_toNat_eq (by omega : third.toNat = code % 64 + 128)]
  rfl

/-- Four bytes that are read as a character are its encoding. -/
theorem exists_char_four (hlow : 0xF0 ≤ byte.toNat) (hhigh : byte.toNat ≤ 0xF4)
    (hrest : utf8Rest [(if byte.toNat = 0xF0 then 0x90 else 0x80,
        if byte.toNat = 0xF4 then 0x8F else 0xBF), (0x80, 0xBF), (0x80, 0xBF)]
        (byte.toNat - 0xF0) 0 bytes = .ok (code, rest)) :
    ∃ c : Char, c.val.toNat = code ∧ byte :: bytes = String.utf8EncodeChar c ++ rest := by
  simp only [utf8Rest_cons_eq_ok_iff, utf8Rest_nil_eq_ok_iff, ite_toNat_le_iff, le_ite_toNat_iff,
    UInt8.toNat_ofNat, Prod.mk.injEq] at hrest
  obtain ⟨second, _, rfl, hlow₂, hhigh₂, third, _, rfl, hlow₃, hhigh₃, fourth, others, rfl, hlow₄,
    hhigh₄, hcode, rfl⟩ := hrest
  -- The bounds on the second byte leave out what three bytes encode, and what is too large.
  obtain ⟨c, hc⟩ := exists_char_of_valid (.inr (by omega) : code.isValidChar)
  refine ⟨c, hc, ?_⟩
  rw [String.utf8EncodeChar, hc, if_neg (by omega), if_neg (by omega), if_neg (by omega),
    ofNat_eq_of_toNat_eq (by omega : byte.toNat = code / 262144 % 8 + 240),
    ofNat_eq_of_toNat_eq (by omega : second.toNat = code / 4096 % 64 + 128),
    ofNat_eq_of_toNat_eq (by omega : third.toNat = code / 64 % 64 + 128),
    ofNat_eq_of_toNat_eq (by omega : fourth.toNat = code % 64 + 128)]
  rfl

/-- What is read as a character is its encoding. -/
theorem ReadsFirst.exists_char (h : ReadsFirst byte bytes code rest) :
    ∃ c : Char, c.val.toNat = code ∧ byte :: bytes = String.utf8EncodeChar c ++ rest := by
  obtain ⟨bounds, lead, hlead, hrest⟩ := h
  by_cases hone : byte.toNat < 0x80
  · rw [utf8Lead?_one hone] at hlead
    cases hlead
    exact exists_char_one hone hrest
  by_cases htwo : 0xC2 ≤ byte.toNat ∧ byte.toNat < 0xE0
  · rw [utf8Lead?_two htwo.1 htwo.2] at hlead
    cases hlead
    exact exists_char_two htwo.1 htwo.2 hrest
  by_cases hthree : 0xE0 ≤ byte.toNat ∧ byte.toNat < 0xF0
  · rw [utf8Lead?_three hthree.1 hthree.2] at hlead
    cases hlead
    exact exists_char_three hthree.1 hthree.2 hrest
  by_cases hfour : 0xF0 ≤ byte.toNat ∧ byte.toNat ≤ 0xF4
  · rw [utf8Lead?_four hfour.1 hfour.2] at hlead
    cases hlead
    exact exists_char_four hfour.1 hfour.2 hrest
  · rw [utf8Lead?_none (by omega)] at hlead
    cases hlead

/-! ### From characters to bytes -/

/-- A byte that is made from a small number has this value. -/
theorem toNat_of_eq_ofNat {n : Nat} (h : byte = UInt8.ofNat n) (hn : n < 256) :
    byte.toNat = n := by
  rw [h, UInt8.toNat_ofNat', Nat.mod_eq_of_lt hn]

variable {c : Char}

/-- A character of one byte is read. -/
theorem readsFirst_one (hcode : c.val.toNat ≤ 0x7F)
    (hencoding : byte :: bytes = String.utf8EncodeChar c ++ rest) :
    ReadsFirst byte bytes c.val.toNat rest := by
  rw [String.utf8EncodeChar, if_pos hcode] at hencoding
  obtain ⟨hbyte, rfl⟩ := List.cons.inj hencoding
  have hfirst := toNat_of_eq_ofNat hbyte (by omega)
  refine ⟨_, _, utf8Lead?_one (by omega), ?_⟩
  rw [utf8Rest_nil_eq_ok_iff, hfirst]

/-- A character of two bytes is read. -/
theorem readsFirst_two (hlow : 0x7F < c.val.toNat) (hhigh : c.val.toNat ≤ 0x7FF)
    (hencoding : byte :: bytes = String.utf8EncodeChar c ++ rest) :
    ReadsFirst byte bytes c.val.toNat rest := by
  generalize hcode : c.val.toNat = code at hlow hhigh
  rw [String.utf8EncodeChar, hcode, if_neg (by omega), if_pos hhigh] at hencoding
  obtain ⟨hbyte, rfl⟩ := List.cons.inj hencoding
  have hfirst := toNat_of_eq_ofNat hbyte (by omega)
  have hsecond := toNat_of_eq_ofNat (rfl : UInt8.ofNat (code % 64 + 128) = _) (by omega)
  refine ⟨_, _, utf8Lead?_two (by omega) (by omega), ?_⟩
  simp only [utf8Rest_cons_eq_ok_iff, utf8Rest_nil_eq_ok_iff, UInt8.toNat_ofNat, Prod.mk.injEq]
  refine ⟨_, _, rfl, ?_, ?_, ?_, rfl⟩
  all_goals omega

/-- A character of three bytes is read. -/
theorem readsFirst_three (hlow : 0x7FF < c.val.toNat) (hhigh : c.val.toNat ≤ 0xFFFF)
    (hencoding : byte :: bytes = String.utf8EncodeChar c ++ rest) :
    ReadsFirst byte bytes c.val.toNat rest := by
  have hvalid : c.val.toNat < 55296 ∨ 57343 < c.val.toNat ∧ c.val.toNat < 1114112 := c.valid
  generalize hcode : c.val.toNat = code at hlow hhigh hvalid
  rw [String.utf8EncodeChar, hcode, if_neg (by omega), if_neg (by omega),
    if_pos hhigh] at hencoding
  obtain ⟨hbyte, rfl⟩ := List.cons.inj hencoding
  have hfirst := toNat_of_eq_ofNat hbyte (by omega)
  have hsecond := toNat_of_eq_ofNat (rfl : UInt8.ofNat (code / 64 % 64 + 128) = _) (by omega)
  have hthird := toNat_of_eq_ofNat (rfl : UInt8.ofNat (code % 64 + 128) = _) (by omega)
  refine ⟨_, _, utf8Lead?_three (by omega) (by omega), ?_⟩
  simp only [utf8Rest_cons_eq_ok_iff, utf8Rest_nil_eq_ok_iff, ite_toNat_le_iff, le_ite_toNat_iff,
    UInt8.toNat_ofNat, Prod.mk.injEq]
  refine ⟨_, _, rfl, ?_, ?_, _, _, rfl, ?_, ?_, ?_, rfl⟩
  all_goals omega

/-- A character of four bytes is read. -/
theorem readsFirst_four (hlow : 0xFFFF < c.val.toNat)
    (hencoding : byte :: bytes = String.utf8EncodeChar c ++ rest) :
    ReadsFirst byte bytes c.val.toNat rest := by
  have hvalid : c.val.toNat < 55296 ∨ 57343 < c.val.toNat ∧ c.val.toNat < 1114112 := c.valid
  generalize hcode : c.val.toNat = code at hlow hvalid
  rw [String.utf8EncodeChar, hcode, if_neg (by omega), if_neg (by omega),
    if_neg (by omega)] at hencoding
  obtain ⟨hbyte, rfl⟩ := List.cons.inj hencoding
  have hfirst := toNat_of_eq_ofNat hbyte (by omega)
  have hsecond := toNat_of_eq_ofNat (rfl : UInt8.ofNat (code / 4096 % 64 + 128) = _) (by omega)
  have hthird := toNat_of_eq_ofNat (rfl : UInt8.ofNat (code / 64 % 64 + 128) = _) (by omega)
  have hfourth := toNat_of_eq_ofNat (rfl : UInt8.ofNat (code % 64 + 128) = _) (by omega)
  refine ⟨_, _, utf8Lead?_four (by omega) (by omega), ?_⟩
  simp only [utf8Rest_cons_eq_ok_iff, utf8Rest_nil_eq_ok_iff, ite_toNat_le_iff, le_ite_toNat_iff,
    UInt8.toNat_ofNat, Prod.mk.injEq]
  refine ⟨_, _, rfl, ?_, ?_, _, _, rfl, ?_, ?_, _, _, rfl, ?_, ?_, ?_, rfl⟩
  all_goals omega

/-- The encoding of a character is read as this character. -/
theorem readsFirst_of_char (hencoding : byte :: bytes = String.utf8EncodeChar c ++ rest) :
    ReadsFirst byte bytes c.val.toNat rest := by
  by_cases hone : c.val.toNat ≤ 0x7F
  · exact readsFirst_one hone hencoding
  by_cases htwo : c.val.toNat ≤ 0x7FF
  · exact readsFirst_two (by omega) htwo hencoding
  by_cases hthree : c.val.toNat ≤ 0xFFFF
  · exact readsFirst_three (by omega) hthree hencoding
  · exact readsFirst_four (by omega) hencoding

/-! ## Texts -/

/-- Behind a character there are fewer bytes. -/
theorem length_lt_of_encoding
    (hencoding : byte :: bytes = String.utf8EncodeChar c ++ rest) :
    rest.length < (byte :: bytes).length := by
  have hsize := c.utf8Size_pos
  rw [hencoding, List.length_append, String.length_utf8EncodeChar]
  omega

/-- Bytes are read as characters exactly if they are the encoding of them. -/
theorem readUtf8_eq_ok_iff {fuel position : Nat} {chars : List Char}
    (hfuel : bytes.length ≤ fuel) :
    readUtf8 fuel position bytes = .ok chars ↔ bytes = chars.flatMap String.utf8EncodeChar := by
  induction fuel generalizing position bytes chars with
  | zero =>
    obtain rfl := List.length_eq_zero_iff.mp (Nat.le_zero.mp hfuel)
    cases chars <;> simp [readUtf8]
  | succ fuel ih =>
    cases bytes with
    | nil => cases chars <;> simp [readUtf8]
    | cons byte bytes =>
      constructor
      · intro hread
        unfold readUtf8 at hread
        split at hread
        · cases hread
        · next bounds lead hlead =>
          split at hread
          · cases hread
          · next code rest hrest =>
            obtain ⟨c, rfl, hbytes⟩ := ReadsFirst.exists_char ⟨bounds, lead, hlead, hrest⟩
            have hshorter := length_lt_of_encoding hbytes
            cases hothers : readUtf8 fuel (position + bounds.length + 1) rest with
            | error fault =>
              rw [hothers] at hread
              cases hread
            | ok others =>
              rw [hothers] at hread
              cases hread
              have hchar : Char.ofNat c.val.toNat = c := Char.ofNat_toNat c
              rw [ih (by omega)] at hothers
              rw [hbytes, List.flatMap_cons, hchar, hothers]
      · intro hbytes
        cases chars with
        | nil => cases hbytes
        | cons c others =>
          rw [List.flatMap_cons] at hbytes
          obtain ⟨bounds, lead, hlead, hrest⟩ := readsFirst_of_char hbytes
          have hshorter := length_lt_of_encoding hbytes
          have hchar : Char.ofNat c.val.toNat = c := Char.ofNat_toNat c
          have hothers : readUtf8 fuel (position + bounds.length + 1)
              (others.flatMap String.utf8EncodeChar) = .ok others :=
            (ih (by omega)).mpr rfl
          simp only [readUtf8, hlead, hrest, hothers, Except.map, hchar]

/-- The bytes of a text are the encoding of its characters. -/
theorem data_toUTF8 (chars : List Char) :
    (String.ofList chars).toUTF8.data.toList = chars.flatMap String.utf8EncodeChar := by
  have hbytes : (String.ofList chars).toUTF8 =
      (chars.flatMap String.utf8EncodeChar).toByteArray := rfl
  rw [hbytes, List.data_toByteArray]

/-- **Texts in bytes.** Bytes are read as a text exactly if they are the UTF-8 bytes of a text, and
then as this text with its line ends unified. -/
theorem ofBytes_eq_ok_iff {text : String} :
    ofBytes bytes = .ok text ↔
      ∃ written : String, bytes = written.toUTF8.data.toList ∧
        text = String.ofList (unifyNewlines written.toList) := by
  have hread : ∀ chars, readUtf8 bytes.length 0 bytes = .ok chars ↔
      bytes = (String.ofList chars).toUTF8.data.toList := by
    intro chars
    rw [data_toUTF8]
    exact readUtf8_eq_ok_iff (Nat.le_refl _)
  unfold ofBytes
  constructor
  · intro htext
    cases hchars : readUtf8 bytes.length 0 bytes with
    | error fault =>
      rw [hchars] at htext
      cases htext
    | ok chars =>
      rw [hchars] at htext
      cases htext
      refine ⟨String.ofList chars, (hread chars).mp hchars, ?_⟩
      rw [String.toList_ofList]
  · rintro ⟨written, hbytes, rfl⟩
    have hchars := (hread written.toList).mpr (by rwa [String.ofList_toList])
    rw [hchars]
    rfl

end RouteAudit.Text
