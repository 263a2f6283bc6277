import Mathlib.Algebra.BigOperators.Group.List.Basic
import SourceAudit.Proofs.Url.Percent
import SourceAudit.Url.Basic

/-!
# The segments of the path of a URL

Segments that stand for directories are taken out of a path, and all others are kept with what has no
place in a path encoded (`settleDots_directory`, `settleDots_name`). The bytes that are left are at
most those of the segments before, and as many only if no segment stood for a directory and none had
a byte written with a percent sign (`weight_settleDots`).
-/

namespace SourceAudit.Url

open Text Utf8

variable {names segments above : List (List Char)} {s t : List Char} {c : Char}

/-- The bytes that segments stand for. -/
def bytesOf (segments : List (List Char)) : List (List UInt8) :=
  segments.map fun s => percentDecodeBytes (encode s)

/-! ### Directories -/

/-- The characters of ASCII are the only ones that become such in lower case. -/
theorem toNat_lt_of_asciiLower (h : (asciiLower c).toNat < 128) : c.toNat < 128 := by
  rw [asciiLower] at h
  split_ifs at h with hcapital
  · have hle : c.toNat ≤ 'Z'.toNat := hcapital.2
    have hZ : 'Z'.toNat = 90 := rfl
    omega
  · exact h

/-- The characters that dots are written with, before they were put to lower case. -/
theorem asciiLower_eq (c : Char) : (asciiLower c = '.' → c = '.') ∧ (asciiLower c = '%' → c = '%') ∧
    (asciiLower c = '2' → c = '2') ∧ (asciiLower c = 'e' → isHexDigit c = true) := by
  by_cases hascii : c.toNat < 128
  · refine forall_ascii (P := fun c => (asciiLower c = '.' → c = '.') ∧
      (asciiLower c = '%' → c = '%') ∧ (asciiLower c = '2' → c = '2') ∧
      (asciiLower c = 'e' → isHexDigit c = true)) ?_ hascii
    decide +kernel
  · have hne : ∀ d : Char, d.toNat < 128 → asciiLower c ≠ d :=
      fun d hd heq => hascii (toNat_lt_of_asciiLower (heq ▸ hd))
    exact ⟨fun h => absurd h (hne _ (by decide)), fun h => absurd h (hne _ (by decide)),
      fun h => absurd h (hne _ (by decide)), fun h => absurd h (hne _ (by decide))⟩

/-- A dot that is written as a byte. -/
theorem hasEscape_of_map_asciiLower (h : s.map asciiLower = '%' :: '2' :: 'e' :: t) :
    hasEscape s = true := by
  obtain ⟨a, s, rfl, ha, h⟩ := List.map_eq_cons_iff.1 h
  obtain ⟨b, s, rfl, hb, h⟩ := List.map_eq_cons_iff.1 h
  obtain ⟨c, s, rfl, hc, -⟩ := List.map_eq_cons_iff.1 h
  obtain rfl := (asciiLower_eq a).2.1 ha
  obtain rfl := (asciiLower_eq b).2.2.1 hb
  have htwo : isHexDigit '2' = true := by decide
  simp [hasEscape, digitsFirst, htwo, (asciiLower_eq c).2.2.2 hc]

/-- A dot at the front is none that is written as a byte. -/
theorem eq_cons_of_map_asciiLower (h : s.map asciiLower = '.' :: t) :
    ∃ s', s = '.' :: s' ∧ s'.map asciiLower = t := by
  obtain ⟨a, s, rfl, ha, h⟩ := List.map_eq_cons_iff.1 h
  exact ⟨s, congrArg (· :: s) ((asciiLower_eq a).1 ha), h⟩

/-- A segment that stands for the directory itself, and is no dot, has one written as a byte. -/
theorem hasEscape_of_isDot (h : isDot s = true) (hdot : s ≠ ['.']) : hasEscape s = true := by
  have hcases : s.map asciiLower = ['.'] ∨ s.map asciiLower = ['%', '2', 'e'] := by
    simpa [isDot] using h
  rcases hcases with h | h
  · obtain ⟨s', rfl, hs⟩ := eq_cons_of_map_asciiLower h
    exact absurd (congrArg _ (List.map_eq_nil_iff.1 hs)) hdot
  · exact hasEscape_of_map_asciiLower h

/-- Likewise for the directory above. -/
theorem hasEscape_of_isDoubleDot (h : isDoubleDot s = true) (hdots : s ≠ ['.', '.']) :
    hasEscape s = true := by
  have hcases : s.map asciiLower = ['.', '.'] ∨ s.map asciiLower = ['%', '2', 'e', '.'] ∨
      s.map asciiLower = ['.', '%', '2', 'e'] ∨
      s.map asciiLower = ['%', '2', 'e', '%', '2', 'e'] := by
    simpa [isDoubleDot] using h
  rcases hcases with h | h | h | h
  · obtain ⟨s', rfl, h'⟩ := eq_cons_of_map_asciiLower h
    obtain ⟨s'', rfl, hs⟩ := eq_cons_of_map_asciiLower h'
    exact absurd (congrArg ('.' :: '.' :: ·) (List.map_eq_nil_iff.1 hs)) hdots
  · exact hasEscape_of_map_asciiLower h
  · obtain ⟨s', rfl, h'⟩ := eq_cons_of_map_asciiLower h
    rw [hasEscape, hasEscape_of_map_asciiLower h', Bool.or_true]
  · exact hasEscape_of_map_asciiLower h

/-- A segment that stands for a directory is not empty. -/
theorem ne_nil_of_isDot (h : isDot s = true ∨ isDoubleDot s = true) : s ≠ [] := by
  rintro rfl
  exact absurd h (by decide)

/-- A segment that stands for a directory is dropped, perhaps with the one before it. -/
theorem settleDots_directory (h : isDot s = true ∨ isDoubleDot s = true)
    (above rest : List (List Char)) : ∃ kept, (kept = above ∨ kept = above.tail) ∧
      (settleDots above (s :: rest) = ([] :: kept).reverse ∨
        rest ≠ [] ∧ settleDots above (s :: rest) = settleDots kept rest) := by
  rw [settleDots]
  split_ifs with hdots hempty hdot hempty
  · exact ⟨above.tail, .inr rfl, .inl rfl⟩
  · exact ⟨above.tail, .inr rfl, .inr ⟨by simpa using hempty, rfl⟩⟩
  · exact ⟨above, .inl rfl, .inl rfl⟩
  · exact ⟨above, .inl rfl, .inr ⟨by simpa using hempty, rfl⟩⟩
  · exact absurd h (by simp [hdots, hdot])

/-- Any other segment is kept. -/
theorem settleDots_name (hdot : isDot s = false) (hdots : isDoubleDot s = false)
    (above rest : List (List Char)) : settleDots above (s :: rest) =
      settleDots (percentEncode outsidePath s :: above) rest := by
  rw [settleDots, hdots, hdot, if_neg Bool.false_ne_true, if_neg Bool.false_ne_true]

/-- A segment stands for a directory, or is kept. -/
theorem directory_or_name (s : List Char) :
    (isDot s = true ∨ isDoubleDot s = true) ∨ isDot s = false ∧ isDoubleDot s = false := by
  cases isDot s <;> cases isDoubleDot s <;> simp

/-- Names are kept one by one. -/
theorem settleDots_eq (h : ∀ s ∈ segments, isDot s = false ∧ isDoubleDot s = false)
    (above : List (List Char)) :
    settleDots above segments = above.reverse ++ segments.map (percentEncode outsidePath) := by
  induction segments generalizing above with
  | nil => simp [settleDots]
  | cons s rest ih =>
    obtain ⟨hdot, hdots⟩ := h s List.mem_cons_self
    rw [settleDots_name hdot hdots, ih fun t ht => h t (List.mem_cons_of_mem s ht),
      List.reverse_cons, List.append_assoc, List.singleton_append, List.map_cons]

/-- There is always a segment. -/
theorem settleDots_ne_nil (hne : segments ≠ []) (above : List (List Char)) :
    settleDots above segments ≠ [] := by
  induction segments generalizing above with
  | nil => exact absurd rfl hne
  | cons s rest ih =>
    rcases directory_or_name s with hdirectory | ⟨hdot, hdots⟩
    · obtain ⟨kept, -, heq | ⟨hrest, heq⟩⟩ := settleDots_directory hdirectory above rest
      · rw [heq, Ne, List.reverse_eq_nil_iff]
        exact List.cons_ne_nil _ _
      · rw [heq]
        exact ih hrest kept
    · rw [settleDots_name hdot hdots]
      rcases rest with _ | ⟨v, rest⟩
      · rw [settleDots, Ne, List.reverse_eq_nil_iff]
        exact List.cons_ne_nil _ _
      · exact ih (List.cons_ne_nil _ _) _

/-- No segment has a slash or a question mark: the slashes were cut at, and a question mark is
encoded. -/
theorem not_mem_of_mem_settleDots (h : ∀ s ∈ segments, '/' ∉ s)
    (habove : ∀ s ∈ above, '/' ∉ s ∧ '?' ∉ s) :
    ∀ s ∈ settleDots above segments, '/' ∉ s ∧ '?' ∉ s := by
  induction segments generalizing above with
  | nil => exact fun s hs => habove s (List.mem_reverse.1 hs)
  | cons s rest ih =>
    have hrest : ∀ s ∈ rest, '/' ∉ s := fun t ht => h t (List.mem_cons_of_mem s ht)
    rcases directory_or_name s with hdirectory | ⟨hdot, hdots⟩
    · obtain ⟨kept, hkept, heq⟩ := settleDots_directory hdirectory above rest
      have hall : ∀ s ∈ kept, '/' ∉ s ∧ '?' ∉ s := by
        rcases hkept with rfl | rfl
        · exact habove
        · exact fun t ht => habove t (List.mem_of_mem_tail ht)
      rcases heq with heq | ⟨-, heq⟩
      · intro t ht
        rw [heq, List.mem_reverse] at ht
        rcases List.mem_cons.1 ht with rfl | ht
        · exact ⟨List.not_mem_nil, List.not_mem_nil⟩
        · exact hall t ht
      · rw [heq]
        exact ih hrest hall
    · rw [settleDots_name hdot hdots]
      refine ih hrest (List.forall_mem_cons.2 ⟨⟨fun hslash => ?_, fun hmark => ?_⟩, habove⟩)
      · rcases mem_percentEncode hslash with hc | hc | ⟨hc, -⟩
        · exact absurd hc (by decide)
        · exact absurd hc (by decide)
        · exact h s List.mem_cons_self hc
      · rcases mem_percentEncode hmark with hc | hc | ⟨-, hc⟩ <;> exact absurd hc (by decide)

/-! ### Bytes -/

/-- How many bytes segments stand for together. -/
def weight (segments : List (List Char)) : Nat :=
  (bytesOf segments).flatten.length

theorem weight_cons (s : List Char) (segments : List (List Char)) :
    weight (s :: segments) = (percentDecodeBytes (encode s)).length + weight segments := by
  rw [weight, bytesOf, List.map_cons, List.flatten_cons, List.length_append, weight, bytesOf]

/-- The order of segments has nothing to do with their bytes. -/
theorem weight_reverse (segments : List (List Char)) :
    weight segments.reverse = weight segments := by
  rw [weight, bytesOf, List.map_reverse, List.length_flatten, List.map_reverse, List.sum_reverse,
    ← List.length_flatten, weight, bytesOf]

theorem weight_tail_le (segments : List (List Char)) : weight segments.tail ≤ weight segments := by
  cases segments with
  | nil => exact Nat.le_refl _
  | cons s rest =>
    rw [List.tail_cons, weight_cons]
    exact Nat.le_add_left _ _

/-- What is encoded in a path stands for the same bytes. -/
theorem percentDecodeBytes_outsidePath (s : List Char) :
    percentDecodeBytes (encode (percentEncode outsidePath s)) = percentDecodeBytes (encode s) := by
  refine percentDecodeBytes_percentEncode (by decide) (fun c hc => ?_) s
  refine forall_ascii (P := fun c => isHexDigit c = true → outsidePath c = false) ?_
    (toNat_lt_of_isHexDigit hc) hc
  decide +kernel

/-- Segments stand for no more bytes than they have, and for fewer as soon as one of them stands for
a directory or has a byte written with a percent sign. -/
theorem weight_settleDots (above segments : List (List Char)) :
    weight (settleDots above segments) ≤ weight above + (encode segments.flatten).length ∧
      (weight (settleDots above segments) = weight above + (encode segments.flatten).length →
        ∀ s ∈ segments, isDot s = false ∧ isDoubleDot s = false ∧ hasEscape s = false) := by
  induction segments generalizing above with
  | nil => simp [settleDots, weight_reverse]
  | cons s rest ih =>
    rw [List.flatten_cons, encode_append, List.length_append]
    rcases directory_or_name s with hdirectory | ⟨hdot, hdots⟩
    · -- The segment is dropped with all its bytes, so that there are fewer.
      have hpos := length_encode_pos (ne_nil_of_isDot hdirectory)
      obtain ⟨kept, hkept, heq⟩ := settleDots_directory hdirectory above rest
      have hle : weight kept ≤ weight above := by
        rcases hkept with rfl | rfl
        · exact Nat.le_refl _
        · exact weight_tail_le above
      have hlt : weight (settleDots above (s :: rest)) <
          weight above + ((encode s).length + (encode rest.flatten).length) := by
        rcases heq with heq | ⟨-, heq⟩
        · have hnil : weight ([] :: kept).reverse = weight kept :=
            (weight_reverse _).trans ((weight_cons _ _).trans (Nat.zero_add _))
          rw [heq, hnil]
          omega
        · have hrest := (ih kept).1
          rw [heq]
          omega
      exact ⟨hlt.le, fun heq => absurd heq hlt.ne⟩
    · have hweight : weight (percentEncode outsidePath s :: above) =
          (percentDecodeBytes (encode s)).length + weight above := by
        rw [weight_cons, percentDecodeBytes_outsidePath]
      obtain ⟨hle, hrest⟩ := ih (percentEncode outsidePath s :: above)
      have hs := length_percentDecodeBytes_le (encode s)
      rw [settleDots_name hdot hdots]
      rw [hweight] at hle hrest
      refine ⟨by omega, fun heq => List.forall_mem_cons.2 ⟨⟨hdot, hdots, ?_⟩, hrest (by omega)⟩⟩
      by_contra hescape
      have hlt := length_percentDecodeBytes_lt (Bool.not_eq_false _ ▸ hescape)
      omega

end SourceAudit.Url
