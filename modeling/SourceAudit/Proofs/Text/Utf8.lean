import Mathlib.Tactic.SplitIfs
import SourceAudit.Text.Utf8

/-!
# UTF-8 is read back

What a text is encoded as is decoded to the text (`decode?_encode`), no other bytes are decoded to it
(`decode?_eq_some_iff`), and fewer characters are encoded as fewer bytes
(`eq_of_sublist_of_length_le`).
-/

namespace SourceAudit.Text.Utf8

variable {b low high : UInt8} {bs : List UInt8} {value : Nat} {bounds : List (UInt8 × UInt8)}
  {s t : List Char}

/-- The number of a byte. -/
theorem toNat_byte {n : Nat} (h : n < 256) : (UInt8.ofNat n).toNat = n :=
  UInt8.toNat_ofNat_of_lt' h

/-- A byte within its bounds is added to the value. -/
theorem follow_cons (hlow : low.toNat ≤ b.toNat) (hhigh : b.toNat ≤ high.toNat) :
    follow value ((low, high) :: bounds) (b :: bs) =
      follow (value * 64 + (b.toNat - 0x80)) bounds bs := by
  have h : (decide (low ≤ b) && decide (b ≤ high)) = true := by
    simp [UInt8.le_iff_toNat_le, hlow, hhigh]
  rw [follow, if_pos h]

/-- The last six bits of a number are within the bounds that say no more than that a byte follows. -/
theorem follow_six (n : Nat) :
    follow value ((0x80, 0xBF) :: bounds) (UInt8.ofNat (n % 64 + 128) :: bs) =
      follow (value * 64 + n % 64) bounds bs := by
  have hbyte : (UInt8.ofNat (n % 64 + 128)).toNat = n % 64 + 128 := toNat_byte (by omega)
  have hlow : (0x80 : UInt8).toNat = 0x80 := rfl
  have hhigh : (0xBF : UInt8).toNat = 0xBF := rfl
  rw [follow_cons (by omega) (by omega), hbyte, Nat.add_sub_cancel]

/-- A first byte and those that follow it make up a character. -/
theorem decode_cons {n : Nat} {rest : List UInt8} (hlead : lead? b = some (value, bounds))
    (hfollow : follow value bounds bs = (some n, rest)) :
    decode (b :: bs) = some (Char.ofNat n) :: decode rest := by
  rw [decode, hlead]
  simp only [hfollow, Option.map_some]

/-! ### Characters by their number of bytes -/

/-- A byte that encodes a character alone. -/
theorem decode_one {n : Nat} (h : n < 0x80) :
    decode (UInt8.ofNat n :: bs) = some (Char.ofNat n) :: decode bs := by
  have hbyte : (UInt8.ofNat n).toNat = n := toNat_byte (by omega)
  refine decode_cons ?_ (follow.eq_1 ..)
  rw [lead?, hbyte, if_pos h]

/-- Two bytes. -/
theorem decode_two {first n : Nat} (hlow : 0xC2 ≤ first) (hhigh : first < 0xE0) :
    decode (UInt8.ofNat first :: UInt8.ofNat (n % 64 + 128) :: bs) =
      some (Char.ofNat ((first - 0xC0) * 64 + n % 64)) :: decode bs := by
  have hbyte : (UInt8.ofNat first).toNat = first := toNat_byte (by omega)
  refine decode_cons ?_ ((follow_six n).trans (follow.eq_1 ..))
  rw [lead?, hbyte, if_neg (by omega), if_neg (by omega), if_pos hhigh]

/-- Three bytes. The second has narrower bounds where the value would be too small or that of half a
surrogate pair. -/
theorem decode_three {first second n : Nat} (hlow : 0xE0 ≤ first) (hhigh : first < 0xF0)
    (hlow' : 0x80 ≤ second) (hhigh' : second ≤ 0xBF) (hsmall : first = 0xE0 → 0xA0 ≤ second)
    (hhalf : first = 0xED → second ≤ 0x9F) :
    decode (UInt8.ofNat first :: UInt8.ofNat second :: UInt8.ofNat (n % 64 + 128) :: bs) =
      some (Char.ofNat (((first - 0xE0) * 64 + (second - 0x80)) * 64 + n % 64)) :: decode bs := by
  have hbyte : (UInt8.ofNat first).toNat = first := toNat_byte (by omega)
  have hbyte' : (UInt8.ofNat second).toNat = second := toNat_byte (by omega)
  have hfollow : ∀ low high : UInt8, low.toNat ≤ second → second ≤ high.toNat →
      follow (first - 0xE0) [(low, high), (0x80, 0xBF)]
        (UInt8.ofNat second :: UInt8.ofNat (n % 64 + 128) :: bs) =
      (some (((first - 0xE0) * 64 + (second - 0x80)) * 64 + n % 64), bs) := by
    intro low high hl hh
    rw [follow_cons (by omega) (by omega), follow_six, follow, hbyte']
  by_cases hfirst : first = 0xE0
  · obtain rfl := hfirst
    exact decode_cons rfl (hfollow _ _ (hsmall rfl) hhigh')
  by_cases hfirst' : first = 0xED
  · obtain rfl := hfirst'
    exact decode_cons rfl (hfollow _ _ hlow' (hhalf rfl))
  · refine decode_cons ?_ (hfollow 0x80 0xBF hlow' hhigh')
    rw [lead?, hbyte, if_neg (by omega), if_neg (by omega), if_neg (by omega), if_neg hfirst,
      if_neg hfirst', if_pos hhigh]

/-- Four bytes. The second has narrower bounds where the value would be too small or too large. -/
theorem decode_four {first second n m : Nat} (hlow : 0xF0 ≤ first) (hhigh : first ≤ 0xF4)
    (hlow' : 0x80 ≤ second) (hhigh' : second ≤ 0xBF) (hsmall : first = 0xF0 → 0x90 ≤ second)
    (hlarge : first = 0xF4 → second ≤ 0x8F) :
    decode (UInt8.ofNat first :: UInt8.ofNat second :: UInt8.ofNat (m % 64 + 128) ::
        UInt8.ofNat (n % 64 + 128) :: bs) =
      some (Char.ofNat ((((first - 0xF0) * 64 + (second - 0x80)) * 64 + m % 64) * 64 + n % 64)) ::
        decode bs := by
  have hbyte : (UInt8.ofNat first).toNat = first := toNat_byte (by omega)
  have hbyte' : (UInt8.ofNat second).toNat = second := toNat_byte (by omega)
  have hfollow : ∀ low high : UInt8, low.toNat ≤ second → second ≤ high.toNat →
      follow (first - 0xF0) [(low, high), (0x80, 0xBF), (0x80, 0xBF)] (UInt8.ofNat second ::
        UInt8.ofNat (m % 64 + 128) :: UInt8.ofNat (n % 64 + 128) :: bs) =
      (some ((((first - 0xF0) * 64 + (second - 0x80)) * 64 + m % 64) * 64 + n % 64), bs) := by
    intro low high hl hh
    rw [follow_cons (by omega) (by omega), follow_six, follow_six, follow, hbyte']
  by_cases hfirst : first = 0xF0
  · obtain rfl := hfirst
    exact decode_cons rfl (hfollow _ _ (hsmall rfl) hhigh')
  by_cases hfirst' : first = 0xF4
  · obtain rfl := hfirst'
    exact decode_cons rfl (hfollow _ _ hlow' (hlarge rfl))
  · refine decode_cons ?_ (hfollow 0x80 0xBF hlow' hhigh')
    rw [lead?, hbyte, if_neg (by omega), if_neg (by omega), if_neg (by omega), if_neg (by omega),
      if_neg (by omega), if_neg (by omega), if_neg hfirst, if_pos (by omega)]

/-! ### Texts -/

theorem encode_cons (c : Char) (cs : List Char) :
    encode (c :: cs) = String.utf8EncodeChar c ++ encode cs :=
  List.flatMap_cons

theorem encode_append (cs ds : List Char) : encode (cs ++ ds) = encode cs ++ encode ds :=
  List.flatMap_append

theorem encode_flatten (names : List (List Char)) :
    (names.map encode).flatten = encode names.flatten := by
  induction names with
  | nil => rfl
  | cons name rest ih => rw [List.map_cons, List.flatten_cons, ih, List.flatten_cons, encode_append]

/-- What a character is encoded as is decoded to the character. -/
theorem decode_encodeChar (c : Char) (bs : List UInt8) :
    decode (String.utf8EncodeChar c ++ bs) = some c :: decode bs := by
  have hvalid : c.val.toNat < 0xD800 ∨ 0xDFFF < c.val.toNat ∧ c.val.toNat < 0x110000 := c.valid
  have hc : some (Char.ofNat c.val.toNat) :: decode bs = some c :: decode bs :=
    congrArg (some · :: decode bs) (Char.ofNat_toNat c)
  rw [String.utf8EncodeChar, ← hc]
  generalize c.val.toNat = n at hvalid
  by_cases h₁ : n ≤ 127
  · simp only [if_pos h₁, List.cons_append, List.nil_append]
    exact decode_one (by omega)
  by_cases h₂ : n ≤ 2047
  · simp only [if_neg h₁, if_pos h₂, List.cons_append, List.nil_append]
    have hvalue : (n / 64 % 32 + 192 - 0xC0) * 64 + n % 64 = n := by omega
    rw [decode_two (by omega) (by omega), hvalue]
  by_cases h₃ : n ≤ 65535
  · simp only [if_neg h₁, if_neg h₂, if_pos h₃, List.cons_append, List.nil_append]
    have hvalue : ((n / 4096 % 16 + 224 - 0xE0) * 64 + (n / 64 % 64 + 128 - 0x80)) * 64 + n % 64 =
        n := by omega
    rw [decode_three (by omega) (by omega) (by omega) (by omega) (by omega) (by omega), hvalue]
  · simp only [if_neg h₁, if_neg h₂, if_neg h₃, List.cons_append, List.nil_append]
    have hvalue : (((n / 262144 % 8 + 240 - 0xF0) * 64 + (n / 4096 % 64 + 128 - 0x80)) * 64 +
        n / 64 % 64) * 64 + n % 64 = n := by omega
    rw [decode_four (by omega) (by omega) (by omega) (by omega) (by omega) (by omega), hvalue]

/-- What a text is encoded as is decoded to its characters. -/
theorem decode_encode (cs : List Char) : decode (encode cs) = cs.map some := by
  induction cs with
  | nil => rw [encode, List.flatMap_nil, decode, List.map_nil]
  | cons c rest ih =>
    rw [encode, List.flatMap_cons, decode_encodeChar, ← encode, ih, List.map_cons]

/-- What a text is encoded as is decoded to the text. -/
theorem decode?_encode (cs : List Char) : decode? (encode cs) = some cs := by
  rw [decode?, decode_encode]
  induction cs with
  | nil => rfl
  | cons c rest ih => simp [List.mapM_cons, ih]

/-! ### Bytes that are a text -/

/-- A value that is not lost has a byte within its next bounds. -/
theorem exists_of_follow {n : Nat} {rest : List UInt8}
    (h : follow value ((low, high) :: bounds) bs = (some n, rest)) :
    ∃ b more, bs = b :: more ∧ low.toNat ≤ b.toNat ∧ b.toNat ≤ high.toNat ∧
      follow (value * 64 + (b.toNat - 0x80)) bounds more = (some n, rest) := by
  rcases bs with _ | ⟨b, more⟩
  · cases h
  · rw [follow] at h
    split_ifs at h with hin
    · simp only [Bool.and_eq_true, decide_eq_true_eq, UInt8.le_iff_toNat_le] at hin
      exact ⟨b, more, rfl, hin.1, hin.2, h⟩
    · cases h

/-- What a first byte says. -/
theorem lead?_cases (h : lead? b = some (value, bounds)) :
    (b.toNat < 0x80 ∧ value = b.toNat ∧ bounds = []) ∨
    ((0xC2 ≤ b.toNat ∧ b.toNat < 0xE0) ∧ value = b.toNat - 0xC0 ∧ bounds = [(0x80, 0xBF)]) ∨
    ((0xE0 ≤ b.toNat ∧ b.toNat < 0xF0) ∧ value = b.toNat - 0xE0 ∧
      ∃ low high, bounds = [(low, high), (0x80, 0xBF)] ∧ 0x80 ≤ low.toNat ∧ high.toNat ≤ 0xBF ∧
        (b.toNat = 0xE0 → 0xA0 ≤ low.toNat) ∧ (b.toNat = 0xED → high.toNat ≤ 0x9F)) ∨
    ((0xF0 ≤ b.toNat ∧ b.toNat ≤ 0xF4) ∧ value = b.toNat - 0xF0 ∧
      ∃ low high, bounds = [(low, high), (0x80, 0xBF), (0x80, 0xBF)] ∧ 0x80 ≤ low.toNat ∧
        high.toNat ≤ 0xBF ∧ (b.toNat = 0xF0 → 0x90 ≤ low.toNat) ∧
        (b.toNat = 0xF4 → high.toNat ≤ 0x8F)) := by
  have h80 : (0x80 : UInt8).toNat = 0x80 := rfl
  have hBF : (0xBF : UInt8).toNat = 0xBF := rfl
  have hA0 : (0xA0 : UInt8).toNat = 0xA0 := rfl
  have h9F : (0x9F : UInt8).toNat = 0x9F := rfl
  have h90 : (0x90 : UInt8).toNat = 0x90 := rfl
  have h8F : (0x8F : UInt8).toNat = 0x8F := rfl
  unfold lead? at h
  dsimp only at h
  generalize b.toNat = n at h
  split_ifs at h with hone hbad htwo hE0 hED hthree hF0 hfour hF4 <;>
    simp only [Option.some.injEq, Prod.mk.injEq] at h <;> obtain ⟨rfl, rfl⟩ := h
  · exact .inl ⟨hone, rfl, rfl⟩
  · exact .inr (.inl ⟨by omega, rfl, rfl⟩)
  · exact .inr (.inr (.inl ⟨by omega, by omega, _, _, rfl, by omega, by omega, by omega, by omega⟩))
  · exact .inr (.inr (.inl ⟨by omega, by omega, _, _, rfl, by omega, by omega, by omega, by omega⟩))
  · exact .inr (.inr (.inl ⟨by omega, by omega, _, _, rfl, by omega, by omega, by omega, by omega⟩))
  · exact .inr (.inr (.inr ⟨by omega, by omega, _, _, rfl, by omega, by omega, by omega, by omega⟩))
  · exact .inr (.inr (.inr ⟨by omega, by omega, _, _, rfl, by omega, by omega, by omega, by omega⟩))
  · exact .inr (.inr (.inr ⟨by omega, by omega, _, _, rfl, by omega, by omega, by omega, by omega⟩))

/-- A character is encoded as the bytes whose numbers are those of its bits. -/
theorem utf8EncodeChar_ofNat {n : Nat} (h : n.isValidChar) (bytes : List UInt8)
    (hbytes : bytes.map UInt8.toNat =
      if n ≤ 127 then [n]
      else if n ≤ 2047 then [n / 64 % 32 + 192, n % 64 + 128]
      else if n ≤ 65535 then [n / 4096 % 16 + 224, n / 64 % 64 + 128, n % 64 + 128]
      else [n / 262144 % 8 + 240, n / 4096 % 64 + 128, n / 64 % 64 + 128, n % 64 + 128]) :
    String.utf8EncodeChar (Char.ofNat n) = bytes := by
  have hn : (Char.ofNat n).val.toNat = n := by
    rw [Char.ofNat, dif_pos h]
    rfl
  have hnumbers : (bytes.map UInt8.toNat).map UInt8.ofNat = bytes := by
    rw [List.map_map]
    exact (List.map_congr_left fun b _ => UInt8.ofNat_toNat).trans (List.map_id' bytes)
  rw [← hnumbers, hbytes, String.utf8EncodeChar, hn]
  split_ifs <;> rfl

/-- The bytes that make up a character are the ones that it is encoded as. -/
theorem cons_eq_of_follow {n : Nat} {rest : List UInt8} (hlead : lead? b = some (value, bounds))
    (hfollow : follow value bounds bs = (some n, rest)) :
    b :: bs = String.utf8EncodeChar (Char.ofNat n) ++ rest := by
  have hlow : (0x80 : UInt8).toNat = 0x80 := rfl
  have hhigh : (0xBF : UInt8).toNat = 0xBF := rfl
  rcases lead?_cases hlead with ⟨hb, hvalue, hbounds⟩ | ⟨hb, hvalue, hbounds⟩ |
    ⟨hb, hvalue, low, high, hbounds, hl, hh, hsmall, hhalf⟩ |
    ⟨hb, hvalue, low, high, hbounds, hl, hh, hsmall, hlarge⟩ <;>
    rw [hvalue, hbounds] at hfollow
  · rw [follow, Prod.mk.injEq, Option.some.injEq] at hfollow
    obtain ⟨rfl, rfl⟩ := hfollow
    rw [utf8EncodeChar_ofNat (.inl (by omega)) [b]]
    · rfl
    · rw [if_pos (by omega), List.map_singleton]
  · obtain ⟨c, more, rfl, hc, hc', hfollow⟩ := exists_of_follow hfollow
    rw [follow, Prod.mk.injEq, Option.some.injEq] at hfollow
    obtain ⟨rfl, rfl⟩ := hfollow
    rw [utf8EncodeChar_ofNat (.inl (by omega)) [b, c]]
    · rfl
    · rw [if_neg (by omega), if_pos (by omega)]
      simp only [List.map_cons, List.map_nil, List.cons.injEq, and_true]
      omega
  · obtain ⟨c, more, rfl, hc, hc', hfollow⟩ := exists_of_follow hfollow
    obtain ⟨d, more, rfl, hd, hd', hfollow⟩ := exists_of_follow hfollow
    rw [follow, Prod.mk.injEq, Option.some.injEq] at hfollow
    obtain ⟨rfl, rfl⟩ := hfollow
    rw [utf8EncodeChar_ofNat (by unfold Nat.isValidChar; omega) [b, c, d]]
    · rfl
    · rw [if_neg (by omega), if_neg (by omega), if_pos (by omega)]
      simp only [List.map_cons, List.map_nil, List.cons.injEq, and_true]
      omega
  · obtain ⟨c, more, rfl, hc, hc', hfollow⟩ := exists_of_follow hfollow
    obtain ⟨d, more, rfl, hd, hd', hfollow⟩ := exists_of_follow hfollow
    obtain ⟨e, more, rfl, he, he', hfollow⟩ := exists_of_follow hfollow
    rw [follow, Prod.mk.injEq, Option.some.injEq] at hfollow
    obtain ⟨rfl, rfl⟩ := hfollow
    rw [utf8EncodeChar_ofNat (.inr (by omega)) [b, c, d, e]]
    · rfl
    · rw [if_neg (by omega), if_neg (by omega), if_neg (by omega)]
      simp only [List.map_cons, List.map_nil, List.cons.injEq, and_true]
      omega

/-- Bytes that are decoded to characters are what the characters are encoded as. -/
theorem encode_of_decode (h : decode bs = s.map some) : encode s = bs := by
  induction s generalizing bs with
  | nil =>
    rcases bs with _ | ⟨b, bs⟩
    · rfl
    · rw [decode] at h
      split at h <;> cases h
  | cons c s ih =>
    rcases bs with _ | ⟨b, bs⟩
    · rw [decode] at h
      cases h
    · rw [decode, List.map_cons] at h
      split at h
      · cases h
      · rename_i value bounds hlead
        rw [List.cons.injEq, Option.map_eq_some_iff] at h
        obtain ⟨⟨n, hn, rfl⟩, hrest⟩ := h
        rw [encode_cons, ih hrest, cons_eq_of_follow hlead (Prod.ext hn rfl)]

/-- Pieces that are all well-formed are the characters of the text. -/
theorem eq_map_some_of_mapM {pieces : List (Option Char)} (h : pieces.mapM id = some s) :
    pieces = s.map some := by
  induction pieces generalizing s with
  | nil =>
    cases h
    rfl
  | cons piece rest ih =>
    rw [List.mapM_cons] at h
    rcases piece with _ | c
    · cases h
    rcases hrest : rest.mapM id with _ | text
    · rw [hrest] at h
      cases h
    · rw [hrest] at h
      obtain rfl : c :: text = s := Option.some.inj h
      rw [ih hrest, List.map_cons]

/-- Texts are told by their bytes. -/
theorem encode_injective : Function.Injective encode := by
  intro s t heq
  have hdecode := congrArg decode? heq
  rwa [decode?_encode, decode?_encode, Option.some.injEq] at hdecode

/-- Bytes are a text exactly if they are what the text is encoded as. -/
theorem decode?_eq_some_iff : decode? bs = some s ↔ bs = encode s := by
  constructor
  · intro h
    exact (encode_of_decode (eq_map_some_of_mapM h)).symm
  · rintro rfl
    exact decode?_encode s

/-! ### Numbers of bytes -/

/-- A text with characters has bytes. -/
theorem length_encode_pos (h : s ≠ []) : 0 < (encode s).length := by
  obtain ⟨c, rest, rfl⟩ := List.exists_cons_of_ne_nil h
  rw [encode_cons, List.length_append]
  have hc : 0 < (String.utf8EncodeChar c).length := List.length_pos_iff.2 String.utf8EncodeChar_ne_nil
  omega

/-- Fewer characters have fewer bytes. -/
theorem length_encode_le (h : s.Sublist t) : (encode s).length ≤ (encode t).length := by
  induction h with
  | slnil => exact Nat.le_refl _
  | cons c _ ih =>
    rw [encode_cons, List.length_append]
    omega
  | cons_cons c _ ih =>
    rw [encode_cons, encode_cons, List.length_append, List.length_append]
    omega

/-- Characters that have as many bytes as more characters are all of them. -/
theorem eq_of_sublist_of_length_le (h : s.Sublist t) (hlength : (encode t).length ≤ (encode s).length) :
    s = t := by
  induction h with
  | slnil => rfl
  | cons c hsub ih =>
    have hle := length_encode_le hsub
    have hc := length_encode_pos (List.cons_ne_nil c [])
    rw [← List.singleton_append, encode_append, List.length_append] at hlength
    omega
  | cons_cons c hsub ih =>
    rw [encode_cons, encode_cons, List.length_append, List.length_append] at hlength
    rw [ih (by omega)]

end SourceAudit.Text.Utf8
