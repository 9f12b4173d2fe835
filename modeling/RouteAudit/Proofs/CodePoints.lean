import RouteAudit.Json.Reader

/-!
# Code points are kept

A text that is kept has the code points that it was made of, halves of surrogate pairs among them.
So the strings of a document differ wherever their code points do, and they are in the order of
these.
-/

namespace RouteAudit

namespace Text

/-- The number of a character is the one that it was made from. -/
theorem toNat_ofNat {code : Nat} (h : code.isValidChar) : (Char.ofNat code).toNat = code := by
  rw [Char.ofNat, dif_pos h]
  rfl

/-- A code point that is no surrogate is the number of a character. -/
theorem toNat_ofNat_of_not_isSurrogate {code : Nat} (hcode : code < 0x110000)
    (h : isSurrogate code = false) : (Char.ofNat code).toNat = code := by
  have hvalid : code.isValidChar := by
    simp [isSurrogate] at h
    unfold Nat.isValidChar
    omega
  exact toNat_ofNat hvalid

/-- A surrogate is the number of its stand-in, up to the distance. -/
theorem toNat_standIn {code : Nat} (h : isSurrogate code = true) :
    (Char.ofNat (standInOffset + code)).toNat = standInOffset + code := by
  have hvalid : (standInOffset + code).isValidChar := by
    simp [isSurrogate] at h
    unfold Nat.isValidChar standInOffset
    omega
  exact toNat_ofNat hvalid

/-- The mark is the code point before all surrogates. -/
theorem toNat_mark : mark.toNat = 0xD7FF := by decide

/-- A surrogate is read back from its stand-in. -/
theorem marked?_standIn {code : Nat} (h : isSurrogate code = true) :
    marked? (Char.ofNat (standInOffset + code)) = some code := by
  have hnat := toNat_standIn h
  have hne : Char.ofNat (standInOffset + code) ≠ mark := by
    intro hmark
    rw [hmark, toNat_mark] at hnat
    simp [isSurrogate] at h
    unfold standInOffset at hnat
    omega
  simp only [marked?, if_neg hne, hnat, Nat.add_sub_cancel_left, h, if_true]

/-- A code point is read back from the front of a text. -/
theorem codes_ofCode_append {code : Nat} (hcode : code < 0x110000) (rest : List Char) :
    codes (ofCode code ++ rest) = code :: codes rest := by
  unfold ofCode
  split
  · next hsurrogate =>
    simp only [List.cons_append, List.nil_append, codes, if_true, marked?_standIn hsurrogate]
  · next hsurrogate =>
    split
    · next hmark =>
      subst hmark
      simp only [List.cons_append, List.nil_append, codes, if_true, marked?]
    · next hmark =>
      have hnat := toNat_ofNat_of_not_isSurrogate hcode (by simpa using hsurrogate)
      have hne : Char.ofNat code ≠ mark := fun h => hmark (by rw [← h, hnat])
      cases rest with
      | nil => simp [codes, hnat]
      | cons d rest => simp [codes, hne, hnat]

/-- **Code points.** A text has the code points that it was made of. -/
theorem codes_ofCodes {given : List Nat} (h : ∀ code ∈ given, code < 0x110000) :
    codes (ofCodes given) = given := by
  induction given with
  | nil => rfl
  | cons code rest ih =>
    obtain ⟨hcode, hrest⟩ := List.forall_mem_cons.mp h
    rw [ofCodes, List.flatMap_cons, codes_ofCode_append hcode]
    exact congrArg _ (ih hrest)

/-- Characters are ordered by their numbers. -/
theorem lt_of_toNat_lt {c d : Char} (h : c.toNat < d.toNat) : c < d :=
  UInt32.lt_iff_toNat_lt.mpr h

/-- The mark and the surrogates are kept behind a mark, in their order. -/
theorem exists_ofCode_eq_mark {code : Nat} (h : mark.toNat ≤ code ∧ code < 0xE000) :
    ∃ second, ofCode code = [mark, second] ∧
      second.toNat = if code = mark.toNat then mark.toNat else standInOffset + code := by
  rw [toNat_mark] at h
  unfold ofCode
  by_cases hsurrogate : isSurrogate code = true
  · have hne : code ≠ mark.toNat := by
      simp [isSurrogate] at hsurrogate
      rw [toNat_mark]
      omega
    rw [if_pos hsurrogate, if_neg hne]
    exact ⟨_, rfl, toNat_standIn hsurrogate⟩
  · have hmark : code = mark.toNat := by
      simp [isSurrogate] at hsurrogate
      rw [toNat_mark]
      omega
    rw [if_neg hsurrogate, if_pos hmark, if_pos hmark]
    exact ⟨_, rfl, rfl⟩

/-- Every other code point is kept as its character. -/
theorem exists_ofCode_eq_char {code : Nat} (hcode : code < 0x110000)
    (h : ¬(mark.toNat ≤ code ∧ code < 0xE000)) :
    ∃ c : Char, ofCode code = [c] ∧ c.toNat = code := by
  rw [toNat_mark] at h
  have hsurrogate : isSurrogate code = false := by
    simp [isSurrogate]
    omega
  have hne : code ≠ mark.toNat := by
    rw [toNat_mark]
    omega
  rw [ofCode, hsurrogate, if_neg (by decide), if_neg hne]
  exact ⟨_, rfl, toNat_ofNat_of_not_isSurrogate hcode hsurrogate⟩

/-- Of two code points the smaller is kept before the other, whatever follows. -/
theorem ofCode_append_lt {code other : Nat} (hlt : code < other) (hother : other < 0x110000)
    (rest more : List Char) : ofCode code ++ rest < ofCode other ++ more := by
  by_cases hleft : mark.toNat ≤ code ∧ code < 0xE000 <;>
    by_cases hright : mark.toNat ≤ other ∧ other < 0xE000
  · -- Both stand behind a mark, so their second characters decide.
    obtain ⟨c, hc, hcode⟩ := exists_ofCode_eq_mark hleft
    obtain ⟨d, hd, hcodeOther⟩ := exists_ofCode_eq_mark hright
    rw [hc, hd]
    refine .cons (.rel (lt_of_toNat_lt ?_))
    rw [if_neg (by omega)] at hcodeOther
    rw [hcode, hcodeOther]
    split
    all_goals omega
  · obtain ⟨c, hc, -⟩ := exists_ofCode_eq_mark hleft
    obtain ⟨d, hd, hcodeOther⟩ := exists_ofCode_eq_char hother hright
    rw [hc, hd]
    exact .rel (lt_of_toNat_lt (by omega))
  · obtain ⟨c, hc, hcode⟩ := exists_ofCode_eq_char (Nat.lt_trans hlt hother) hleft
    obtain ⟨d, hd, -⟩ := exists_ofCode_eq_mark hright
    rw [hc, hd]
    rw [toNat_mark] at hleft hright
    exact .rel (lt_of_toNat_lt (by rw [toNat_mark]; omega))
  · obtain ⟨c, hc, hcode⟩ := exists_ofCode_eq_char (Nat.lt_trans hlt hother) hleft
    obtain ⟨d, hd, hcodeOther⟩ := exists_ofCode_eq_char hother hright
    rw [hc, hd]
    exact .rel (lt_of_toNat_lt (by omega))

/-- **Order.** Texts are in the order of their code points. -/
theorem ofCodes_lt_ofCodes {left right : List Nat} (hright : ∀ code ∈ right, code < 0x110000)
    (h : left < right) : ofCodes left < ofCodes right := by
  induction h with
  | @nil code rest =>
    obtain ⟨c, more, hkept⟩ : ∃ c more, ofCode code = c :: more := by
      unfold ofCode
      split
      · exact ⟨_, _, rfl⟩
      · split <;> exact ⟨_, _, rfl⟩
    rw [ofCodes, ofCodes, List.flatMap_cons, hkept]
    exact .nil
  | rel hlt =>
    exact ofCode_append_lt hlt (hright _ List.mem_cons_self) _ _
  | cons hrest ih =>
    rw [ofCodes, ofCodes, List.flatMap_cons, List.flatMap_cons]
    exact List.append_left_lt (ih fun code hcode => hright code (List.mem_cons_of_mem _ hcode))

/-- Without marks, the code points of a text are the numbers of its characters. -/
theorem codes_of_notMem {chars : List Char} (h : mark ∉ chars) :
    codes chars = chars.map Char.toNat := by
  fun_induction codes chars with
  | case1 => rfl
  | case2 c => rfl
  | case3 c d rest code hcode =>
    have hc : c ≠ mark := fun hc => h (hc ▸ List.mem_cons_self)
    rw [if_neg hc] at hcode
    cases hcode
  | case4 c d rest hcode ih => rw [List.map_cons, ih (List.not_mem_of_not_mem_cons h)]

end Text

namespace Json

/-- A hexadecimal digit is below sixteen. -/
theorem hexDigit?_lt {c : Char} {value : Nat} (h : Text.hexDigit? c = some value) : value < 16 := by
  have hle : ∀ {first last : Char}, first ≤ last → first.toNat ≤ last.toNat :=
    fun h => UInt32.le_iff_toNat_le.mp h
  unfold Text.hexDigit? at h
  split at h
  · next hdigit =>
    have hlast := hle (of_decide_eq_true (Bool.and_eq_true_iff.mp hdigit).2)
    cases h
    exact Nat.lt_of_le_of_lt (Nat.sub_le_sub_right hlast _) (by decide)
  split at h
  · next hletter =>
    have hlast := hle hletter.2
    cases h
    exact Nat.lt_of_le_of_lt (Nat.add_le_add_right (Nat.sub_le_sub_right hlast _) _) (by decide)
  split at h
  · next hletter =>
    have hlast := hle hletter.2
    cases h
    exact Nat.lt_of_le_of_lt (Nat.add_le_add_right (Nat.sub_le_sub_right hlast _) _) (by decide)
  · cases h

/-- Units behind a first one are those of the text behind it. -/
theorem map_cons_eq_ok {unit : Nat} {result : Except Flaw (List Nat × List Char)}
    {units : List Nat} {after : List Char}
    (h : (result.map fun (others, rest) => (unit :: others, rest)) = .ok (units, after)) :
    ∃ others, result = .ok (others, after) ∧ units = unit :: others := by
  cases result with
  | error flaw => cases h
  | ok read =>
    obtain ⟨rfl, rfl⟩ := Prod.mk.inj (Except.ok.inj h)
    exact ⟨read.1, rfl, rfl⟩

/-- Code units are code points. -/
theorem readUnits_lt {opening : Nat} {chars after : List Char} {units : List Nat}
    (h : readUnits opening chars = .ok (units, after)) : ∀ unit ∈ units, unit < 0x110000 := by
  have hchar : ∀ c : Char, c.toNat < 0x110000 := by
    intro c
    have hvalid : c.toNat.isValidChar := c.valid
    unfold Nat.isValidChar at hvalid
    omega
  fun_induction readUnits opening chars generalizing units with
  | case2 rest =>
    obtain ⟨rfl, -⟩ := Prod.mk.inj (Except.ok.inj h)
    exact nofun
  | case4 a b c d first rest a' b' c' d' ha hb hc hd ih =>
    obtain ⟨others, hothers, rfl⟩ := map_cons_eq_ok h
    refine List.forall_mem_cons.mpr ⟨?_, ih hothers⟩
    have := hexDigit?_lt ha
    have := hexDigit?_lt hb
    have := hexDigit?_lt hc
    have := hexDigit?_lt hd
    omega
  | case7 c rest _ _ e he ih =>
    obtain ⟨others, hothers, rfl⟩ := map_cons_eq_ok h
    exact List.forall_mem_cons.mpr ⟨hchar e, ih hothers⟩
  | case10 c rest _ _ _ _ _ hc ih =>
    obtain ⟨others, hothers, rfl⟩ := map_cons_eq_ok h
    exact List.forall_mem_cons.mpr ⟨hchar c, ih hothers⟩
  | _ => cases h

/-- Joined code units are code points. -/
theorem joinUnits_lt {units : List Nat} (h : ∀ unit ∈ units, unit < 0x110000) :
    ∀ code ∈ joinUnits units, code < 0x110000 := by
  fun_induction joinUnits units with
  | case1 high low rest hpair ih =>
    obtain ⟨-, hothers⟩ := List.forall_mem_cons.mp h
    obtain ⟨-, hrest⟩ := List.forall_mem_cons.mp hothers
    refine List.forall_mem_cons.mpr ⟨?_, ih hrest⟩
    omega
  | case2 high low rest hpair ih =>
    obtain ⟨hhigh, hothers⟩ := List.forall_mem_cons.mp h
    exact List.forall_mem_cons.mpr ⟨hhigh, ih hothers⟩
  | case3 => exact h

/-- **Strings keep their code points.** The code points of a string are those that its characters
and its escapes stand for, two escapes that are a pair being one. -/
theorem codes_of_readString {chars after : List Char} {text : String}
    (h : readString chars = .ok (text, after)) :
    ∃ units, readUnits (chars.length + 1) chars = .ok (units, after) ∧
      Text.codes text.toList = joinUnits units := by
  unfold readString at h
  cases hunits : readUnits (chars.length + 1) chars with
  | error flaw =>
    rw [hunits] at h
    cases h
  | ok read =>
    obtain ⟨units, rest⟩ := read
    rw [hunits] at h
    obtain ⟨rfl, rfl⟩ := Prod.mk.inj (Except.ok.inj h)
    refine ⟨units, rfl, ?_⟩
    rw [String.toList_ofList]
    exact Text.codes_ofCodes (joinUnits_lt (readUnits_lt hunits))

end Json

end RouteAudit
