import Mathlib.Tactic.Common
import SourceAudit.Proofs.Text.Ascii
import SourceAudit.Proofs.Text.Pieces
import SourceAudit.Proofs.Text.Utf8
import SourceAudit.Url.Percent

/-!
# Percent encoding is read back

The decoding of a text that was encoded gives the bytes that the decoding of the text itself gives
(`percentDecodeBytes_percentEncode`): the percent signs that the text has of its own are not
encoded, so that what stands for a byte already stands for it still. A text without such a sequence
is what it is decoded to, and any other gets shorter (`percentDecodeBytes_encode`,
`length_percentDecodeBytes_lt`). The fields of a form are read back as they were
(`formDecode_formEncode`).
-/

namespace SourceAudit.Url

open Text Utf8

variable {outside : Char → Bool} {b high low : UInt8} {as bs : List UInt8} {c h l : Char}
  {s t : List Char}

/-- The text starts with two hexadecimal digits, which a percent sign in front is read with. -/
def digitsFirst : List Char → Bool
  | h :: l :: _ => isHexDigit h && isHexDigit l
  | _ => false

/-- There is a percent sign in front of two hexadecimal digits. -/
def hasEscape : List Char → Bool
  | [] => false
  | c :: rest => (c = '%' && digitsFirst rest) || hasEscape rest

/-- A text without percent signs has none in front of digits. -/
theorem hasEscape_of_not_mem (h : '%' ∉ s) : hasEscape s = false := by
  induction s with
  | nil => rfl
  | cons c rest ih =>
    rw [List.mem_cons, not_or] at h
    rw [hasEscape, ih h.2, Bool.or_false, decide_eq_false (Ne.symm h.1), Bool.false_and]

/-! ### Bytes -/

/-- The byte of a hexadecimal digit. -/
def isHexByte (b : UInt8) : Bool :=
  isHexDigit (Char.ofNat b.toNat)

/-- The bytes start with those of two hexadecimal digits. -/
def hexBytesFirst : List UInt8 → Bool
  | high :: low :: _ => isHexByte high && isHexByte low
  | _ => false

/-- A byte that is no percent sign in front of two digits stays. -/
theorem percentDecodeBytes_cons (h : b = 0x25 → hexBytesFirst bs = false) :
    percentDecodeBytes (b :: bs) = b :: percentDecodeBytes bs := by
  rcases bs with _ | ⟨high, _ | ⟨low, rest⟩⟩
  · rfl
  · rfl
  · rw [percentDecodeBytes, if_neg]
    rintro ⟨hb, hhigh, hlow⟩
    have hfirst := h hb
    simp [hexBytesFirst, isHexByte, hhigh, hlow] at hfirst

/-- A percent sign and two digits are one byte. -/
theorem percentDecodeBytes_escape (hhigh : isHexByte high = true) (hlow : isHexByte low = true) :
    percentDecodeBytes (0x25 :: high :: low :: bs) =
      UInt8.ofNat (natOfDigits 16 [Char.ofNat high.toNat, Char.ofNat low.toNat]) ::
        percentDecodeBytes bs := by
  rw [percentDecodeBytes, if_pos ⟨rfl, hhigh, hlow⟩]

/-- Bytes without a percent sign stay. -/
theorem percentDecodeBytes_append (h : ∀ b ∈ as, b ≠ 0x25) :
    percentDecodeBytes (as ++ bs) = as ++ percentDecodeBytes bs := by
  induction as with
  | nil => rfl
  | cons a rest ih =>
    have ha : a ≠ 0x25 := h a List.mem_cons_self
    rw [List.cons_append, percentDecodeBytes_cons fun heq => absurd heq ha,
      ih fun b hb => h b (List.mem_cons_of_mem a hb), List.cons_append]

/-- Nothing gets longer. -/
theorem length_percentDecodeBytes_le (bs : List UInt8) :
    (percentDecodeBytes bs).length ≤ bs.length := by
  induction bs using percentDecodeBytes.induct with
  | case1 b high low rest _ _ hescape ih =>
    rw [percentDecodeBytes, if_pos hescape, List.length_cons, List.length_cons, List.length_cons,
      List.length_cons]
    omega
  | case2 b high low rest _ _ hescape ih =>
    rw [percentDecodeBytes, if_neg hescape, List.length_cons, List.length_cons]
    omega
  | case3 bs hshort =>
    rw [percentDecodeBytes.eq_2 _ hshort]

/-! ### Characters -/

/-- The first byte of a character is that of a hexadecimal digit exactly if the character is one, and
it is the only byte then. -/
theorem utf8EncodeChar_eq_cons (c : Char) : ∃ b bs, String.utf8EncodeChar c = b :: bs ∧
    isHexByte b = isHexDigit c ∧ (isHexDigit c = true → bs = []) := by
  by_cases hc : c.toNat < 128
  · refine ⟨_, _, utf8EncodeChar_of_ascii hc, ?_, fun _ => rfl⟩
    rw [isHexByte, ofNat_toNat_ofNat hc]
  · have hdigit : ¬ isHexDigit c = true := fun h => hc (toNat_lt_of_isHexDigit h)
    rcases hbytes : String.utf8EncodeChar c with _ | ⟨b, bs⟩
    · exact absurd hbytes String.utf8EncodeChar_ne_nil
    · have hb : 128 ≤ b.toNat :=
        le_of_mem_utf8EncodeChar (Nat.not_lt.1 hc) (hbytes ▸ List.mem_cons_self)
      have hbyte : ¬ isHexByte b = true := by
        intro h
        have hlt := toNat_lt_of_isHexDigit h
        rw [toNat_ofNat (.inl (by have := b.toNat_lt; omega))] at hlt
        omega
      exact ⟨b, bs, rfl, by simp [hdigit, hbyte], fun h => absurd h hdigit⟩

/-- A text whose first character is no digit. -/
theorem digitsFirst_cons (h : isHexDigit c = false) (s : List Char) :
    digitsFirst (c :: s) = false := by
  rcases s with _ | ⟨d, s⟩ <;> simp [digitsFirst, h]

/-- Bytes start with those of two digits if the text starts with two digits. -/
theorem hexBytesFirst_encode (s : List Char) : hexBytesFirst (encode s) = digitsFirst s := by
  rcases s with _ | ⟨c, rest⟩
  · rfl
  obtain ⟨b, bs, hbytes, hbyte, honly⟩ := utf8EncodeChar_eq_cons c
  rw [encode_cons, hbytes]
  by_cases hc : isHexDigit c = true
  · rw [honly hc]
    rcases rest with _ | ⟨d, rest⟩
    · rfl
    obtain ⟨b', bs', hbytes', hbyte', -⟩ := utf8EncodeChar_eq_cons d
    rw [encode_cons, hbytes']
    simp [hexBytesFirst, digitsFirst, hbyte, hbyte']
  · have hbytes : hexBytesFirst (b :: (bs ++ encode rest)) = false := by
      rcases bs ++ encode rest with _ | ⟨b', bs'⟩ <;> simp [hexBytesFirst, hbyte, hc]
    rw [List.cons_append, hbytes, digitsFirst_cons (by simpa using hc)]

/-- A character that is no percent sign in front of two digits stays. -/
theorem percentDecodeBytes_encode_cons (h : ¬ (c = '%' ∧ digitsFirst s = true)) :
    percentDecodeBytes (encode (c :: s)) =
      String.utf8EncodeChar c ++ percentDecodeBytes (encode s) := by
  rw [encode_cons]
  by_cases hc : c = '%'
  · obtain rfl := hc
    have hfirst : digitsFirst s = false := by simpa using h
    exact percentDecodeBytes_cons fun _ => (hexBytesFirst_encode s).trans hfirst
  · -- The only byte of a character of ASCII is its own, and the others have none below 128.
    refine percentDecodeBytes_append fun b hb hpercent => ?_
    by_cases hascii : c.toNat < 128
    · rw [utf8EncodeChar_of_ascii hascii, List.mem_singleton] at hb
      have hback := ofNat_toNat_ofNat hascii
      rw [← hb, hpercent] at hback
      exact hc hback.symm
    · have hle := le_of_mem_utf8EncodeChar (Nat.not_lt.1 hascii) hb
      rw [hpercent] at hle
      exact absurd hle (by decide)

/-- A percent sign and two digits are one byte. -/
theorem percentDecodeBytes_encode_escape (hh : isHexDigit h = true) (hl : isHexDigit l = true) :
    percentDecodeBytes (encode ('%' :: h :: l :: s)) =
      UInt8.ofNat (natOfDigits 16 [h, l]) :: percentDecodeBytes (encode s) := by
  have hascii := toNat_lt_of_isHexDigit hh
  have lascii := toNat_lt_of_isHexDigit hl
  have hbytes : encode ('%' :: h :: l :: s) =
      0x25 :: UInt8.ofNat h.toNat :: UInt8.ofNat l.toNat :: encode s := by
    rw [encode_cons, encode_cons, encode_cons, utf8EncodeChar_of_ascii hascii,
      utf8EncodeChar_of_ascii lascii]
    rfl
  rw [hbytes, percentDecodeBytes_escape, ofNat_toNat_ofNat hascii, ofNat_toNat_ofNat lascii]
  · rwa [isHexByte, ofNat_toNat_ofNat hascii]
  · rwa [isHexByte, ofNat_toNat_ofNat lascii]

/-- The digits that a byte is written with. -/
theorem percentByte_eq (b : UInt8) : ∃ h l, percentByte b = ['%', h, l] ∧ isHexDigit h = true ∧
    isHexDigit l = true ∧ UInt8.ofNat (natOfDigits 16 [h, l]) = b := by
  have hall : ∀ n < 256, ∃ h ∈ hexPadded true 2 n, ∃ l ∈ hexPadded true 2 n,
      hexPadded true 2 n = [h, l] ∧ isHexDigit h = true ∧ isHexDigit l = true ∧
        natOfDigits 16 [h, l] = n := by decide +kernel
  obtain ⟨h, -, l, -, heq, hh, hl, hvalue⟩ := hall b.toNat b.toNat_lt
  refine ⟨h, l, congrArg ('%' :: ·) heq, hh, hl, ?_⟩
  rw [hvalue, UInt8.ofNat_toNat]

/-- The characters that bytes are written with are percent signs and digits. -/
theorem mem_flatMap_percentByte (hc : c ∈ bs.flatMap percentByte) :
    c = '%' ∨ isHexDigit c = true := by
  obtain ⟨b, -, hb⟩ := List.mem_flatMap.1 hc
  obtain ⟨h, l, hbyte, hh, hl, -⟩ := percentByte_eq b
  rw [hbyte] at hb
  rcases List.mem_cons.1 hb with rfl | hb
  · exact .inl rfl
  rcases List.mem_cons.1 hb with rfl | hb
  · exact .inr hh
  · exact .inr (List.mem_singleton.1 hb ▸ hl)

/-- Bytes that are written with percent signs are read back. -/
theorem percentDecodeBytes_flatMap_percentByte (bs : List UInt8) (s : List Char) :
    percentDecodeBytes (encode (bs.flatMap percentByte ++ s)) =
      bs ++ percentDecodeBytes (encode s) := by
  induction bs with
  | nil => rfl
  | cons b rest ih =>
    obtain ⟨h, l, hbyte, hh, hl, hvalue⟩ := percentByte_eq b
    rw [List.flatMap_cons, hbyte]
    calc percentDecodeBytes (encode ('%' :: h :: l :: (rest.flatMap percentByte ++ s)))
        = UInt8.ofNat (natOfDigits 16 [h, l]) ::
            percentDecodeBytes (encode (rest.flatMap percentByte ++ s)) :=
          percentDecodeBytes_encode_escape hh hl
      _ = b :: rest ++ percentDecodeBytes (encode s) := by rw [hvalue, ih, List.cons_append]

/-! ### Texts -/

/-- A text that starts with two digits. -/
theorem exists_of_digitsFirst (hs : digitsFirst s = true) :
    ∃ h l t, s = h :: l :: t ∧ isHexDigit h = true ∧ isHexDigit l = true := by
  rcases s with _ | ⟨h, _ | ⟨l, t⟩⟩
  · cases hs
  · cases hs
  · exact ⟨h, l, t, rfl, Bool.and_eq_true_iff.1 hs⟩

/-- A text without percent signs in front of two digits is what it is decoded to. -/
theorem percentDecodeBytes_encode (h : hasEscape s = false) :
    percentDecodeBytes (encode s) = encode s := by
  induction s with
  | nil => rfl
  | cons c rest ih =>
    rw [hasEscape, Bool.or_eq_false_iff] at h
    have hc : ¬ (c = '%' ∧ digitsFirst rest = true) := by simpa using h.1
    rw [percentDecodeBytes_encode_cons hc, ih h.2, encode_cons]

/-- Any other text is decoded to fewer bytes than it has. -/
theorem length_percentDecodeBytes_lt (h : hasEscape s = true) :
    (percentDecodeBytes (encode s)).length < (encode s).length := by
  induction s with
  | nil => cases h
  | cons c rest ih =>
    by_cases hc : c = '%' ∧ digitsFirst rest = true
    · obtain ⟨rfl, hfirst⟩ := hc
      obtain ⟨d, l, t, rfl, hd, hl⟩ := exists_of_digitsFirst hfirst
      have hle := length_percentDecodeBytes_le (encode t)
      have hlength : (encode ('%' :: d :: l :: t)).length = (encode t).length + 3 := by
        rw [encode_cons, encode_cons, encode_cons,
          utf8EncodeChar_of_ascii (toNat_lt_of_isHexDigit hd),
          utf8EncodeChar_of_ascii (toNat_lt_of_isHexDigit hl)]
        rfl
      rw [percentDecodeBytes_encode_escape hd hl, List.length_cons, hlength]
      omega
    · rw [hasEscape, Bool.or_eq_true] at h
      have hrest : hasEscape rest = true := h.resolve_left (by simpa using hc)
      have hlt := ih hrest
      rw [percentDecodeBytes_encode_cons hc, List.length_append, encode_cons,
        List.length_append]
      omega

theorem percentEncode_cons_of_outside (h : outside c = true) (s : List Char) :
    percentEncode outside (c :: s) =
      (String.utf8EncodeChar c).flatMap percentByte ++ percentEncode outside s := by
  rw [percentEncode, List.flatMap_cons, if_pos h, percentEncode]

theorem percentEncode_cons_of_not_outside (h : outside c = false) (s : List Char) :
    percentEncode outside (c :: s) = c :: percentEncode outside s := by
  rw [percentEncode, List.flatMap_cons, if_neg (by simp [h]), percentEncode]
  rfl

/-- A text without such characters is encoded as it is. -/
theorem percentEncode_eq_self (h : ∀ c ∈ s, outside c = false) : percentEncode outside s = s := by
  induction s with
  | nil => rfl
  | cons c rest ih =>
    rw [percentEncode_cons_of_not_outside (h c List.mem_cons_self),
      ih fun d hd => h d (List.mem_cons_of_mem c hd)]

/-- The characters of an encoded text. -/
theorem mem_percentEncode (hc : c ∈ percentEncode outside s) :
    c = '%' ∨ isHexDigit c = true ∨ c ∈ s ∧ outside c = false := by
  obtain ⟨d, hd, hc⟩ := List.mem_flatMap.1 hc
  split_ifs at hc with hout
  · exact (mem_flatMap_percentByte hc).imp_right .inl
  · obtain rfl := List.mem_singleton.1 hc
    exact .inr (.inr ⟨hd, by simpa using hout⟩)

/-- What a character outside is written as starts with no digit. -/
theorem exists_flatMap_percentByte (c : Char) (s : List Char) :
    ∃ t, (String.utf8EncodeChar c).flatMap percentByte ++ s = '%' :: t := by
  obtain ⟨b, bs, hbytes, -⟩ := utf8EncodeChar_eq_cons c
  rw [hbytes, List.flatMap_cons, percentByte]
  exact ⟨_, rfl⟩

/-- Whether a text starts with two digits is not changed by an encoding that spares digits. -/
theorem digitsFirst_percentEncode (hdigits : ∀ c, isHexDigit c = true → outside c = false)
    (s : List Char) : digitsFirst (percentEncode outside s) = digitsFirst s := by
  have hout : ∀ c, outside c = true → isHexDigit c = false :=
    fun c hc => Bool.eq_false_iff.2 fun h => absurd (hdigits c h) (by simp [hc])
  -- Two characters are looked at, and one that is encoded is no digit before or after.
  rcases s with _ | ⟨h, rest⟩
  · rfl
  cases hh : outside h with
  | true =>
    obtain ⟨t, ht⟩ := exists_flatMap_percentByte h (percentEncode outside rest)
    rw [percentEncode_cons_of_outside hh, ht, digitsFirst_cons (by decide),
      digitsFirst_cons (hout h hh)]
  | false =>
    rw [percentEncode_cons_of_not_outside hh]
    rcases rest with _ | ⟨l, rest⟩
    · rfl
    cases hl : outside l with
    | true =>
      obtain ⟨t, ht⟩ := exists_flatMap_percentByte l (percentEncode outside rest)
      rw [percentEncode_cons_of_outside hl, ht]
      have hpercent : isHexDigit '%' = false := by decide
      simp [digitsFirst, hpercent, hout l hl]
    | false =>
      rw [percentEncode_cons_of_not_outside hl]
      rfl

/-- An encoding that spares percent signs and digits is undone: its text is decoded to what the text
before it is decoded to. -/
theorem percentDecodeBytes_percentEncode (hpercent : outside '%' = false)
    (hdigits : ∀ c, isHexDigit c = true → outside c = false) (s : List Char) :
    percentDecodeBytes (encode (percentEncode outside s)) = percentDecodeBytes (encode s) := by
  -- A sequence for a byte is three characters long, hence the induction on the length.
  induction hlength : s.length using Nat.strongRecOn generalizing s with
  | ind n ih =>
  obtain rfl := hlength
  rcases s with _ | ⟨c, rest⟩
  · rfl
  by_cases hescape : c = '%' ∧ digitsFirst rest = true
  · obtain ⟨rfl, hfirst⟩ := hescape
    obtain ⟨h, l, t, rfl, hh, hl⟩ := exists_of_digitsFirst hfirst
    have ht := ih t.length (by simp; omega) t rfl
    rw [percentEncode_cons_of_not_outside hpercent,
      percentEncode_cons_of_not_outside (hdigits h hh),
      percentEncode_cons_of_not_outside (hdigits l hl), percentDecodeBytes_encode_escape hh hl,
      percentDecodeBytes_encode_escape hh hl, ht]
  have hrest := ih rest.length (by simp) rest rfl
  rw [percentDecodeBytes_encode_cons hescape]
  cases hc : outside c with
  | true =>
    rw [percentEncode_cons_of_outside hc, percentDecodeBytes_flatMap_percentByte, hrest]
  | false =>
    have hescape' : ¬ (c = '%' ∧ digitsFirst (percentEncode outside rest) = true) := by
      rwa [digitsFirst_percentEncode hdigits]
    rw [percentEncode_cons_of_not_outside hc, percentDecodeBytes_encode_cons hescape', hrest]

/-! ### Forms -/

/-- The bytes of a name or a value of a form field: a plus sign stands for a space. -/
def formDecode (s : List Char) : List UInt8 :=
  percentDecodeBytes (encode (s.map fun c => if c = '+' then ' ' else c))

/-- The fields of a form: names and values, with an equals sign between the two. -/
def formFields (s : List Char) : List (List UInt8 × List UInt8) :=
  ((cut '&' s).filter fun field => !field.isEmpty).map fun field =>
    (formDecode (field.takeWhile (· ≠ '=')), formDecode (field.dropWhile (· ≠ '=')).tail)

/-- What a name or a value is written as is read back. -/
theorem formDecode_formEncode (s : List Char) : formDecode (formEncode s) = encode s := by
  induction s with
  | nil => rfl
  | cons c rest ih =>
    unfold formDecode at ih ⊢
    rw [formEncode, List.flatMap_cons, List.map_append, ← formEncode, encode_cons, ← ih]
    by_cases hspace : c = ' '
    · obtain rfl := hspace
      exact percentDecodeBytes_encode_cons (by simp)
    rw [if_neg hspace]
    cases hkept : keptInForm c with
    | true =>
      -- A plus sign of its own is not kept, so it is not taken for a space.
      have hplus : c ≠ '+' := by
        rintro rfl
        exact absurd hkept (by decide)
      have hpercent : c ≠ '%' := by
        rintro rfl
        exact absurd hkept (by decide)
      rw [if_pos rfl, List.map_singleton, if_neg hplus]
      exact percentDecodeBytes_encode_cons fun h => hpercent h.1
    | false =>
      have hbytes : ((String.utf8EncodeChar c).flatMap percentByte).map
          (fun c => if c = '+' then ' ' else c) = (String.utf8EncodeChar c).flatMap percentByte := by
        refine (List.map_congr_left fun d hd => if_neg ?_).trans (List.map_id' _)
        rintro rfl
        exact absurd (mem_flatMap_percentByte hd) (by decide)
      rw [if_neg Bool.false_ne_true, hbytes, percentDecodeBytes_flatMap_percentByte]

/-- The characters of names and values. -/
theorem mem_formEncode (hc : c ∈ formEncode s) :
    c = '+' ∨ keptInForm c = true ∨ c = '%' ∨ isHexDigit c = true := by
  obtain ⟨d, -, hd⟩ := List.mem_flatMap.1 hc
  split_ifs at hd with hspace hkept
  · exact .inl (List.mem_singleton.1 hd)
  · exact .inr (.inl (List.mem_singleton.1 hd ▸ hkept))
  · exact .inr (.inr (mem_flatMap_percentByte hd))

/-- A single field is read back. -/
theorem formFields_formEncode (name value : List Char) :
    formFields (formEncode name ++ '=' :: formEncode value) = [(encode name, encode value)] := by
  have hamp : '&' ∉ formEncode name ++ '=' :: formEncode value := by
    intro h
    rcases List.mem_append.1 h with h | h
    · exact absurd (mem_formEncode h) (by decide)
    rcases List.mem_cons.1 h with h | h
    · exact absurd h (by decide)
    · exact absurd (mem_formEncode h) (by decide)
  have hname : ∀ c ∈ formEncode name, decide (c ≠ '=') = true := by
    intro c hc
    refine decide_eq_true fun heq => ?_
    exact absurd (mem_formEncode (heq ▸ hc)) (by decide)
  rw [formFields, cut_eq_singleton hamp, List.filter_cons_of_pos (by simp), List.filter_nil,
    List.map_singleton, List.takeWhile_append_of_pos hname, List.dropWhile_append_of_pos hname]
  simp [formDecode_formEncode]

end SourceAudit.Url
