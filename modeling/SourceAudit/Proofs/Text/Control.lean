import SourceAudit.Pattern.Build

/-!
# Characters that are no control characters

Words, digits and letters are free of control characters, and so is the lower case of a text that is
free of them (`isControl_of_mem_lower`). The classes outside ASCII are tables, whose entries are
looked through.
-/

namespace SourceAudit.Text

variable {c d : Char} {s : List Char}

/-- Whether the characters of a text have a property is found by going through the text, and not by
going through all characters that there are. -/
instance decidableForallMem (s : List Char) (p : Char → Prop) [DecidablePred p] :
    Decidable (∀ c ∈ s, p c) :=
  List.decidableBAll p s

/-- Likewise for whether one of them has it. -/
instance decidableExistsMem (s : List Char) (p : Char → Prop) [DecidablePred p] :
    Decidable (∃ c ∈ s, p c) :=
  List.decidableBEx p s

/-- Likewise for the character that there may be. -/
instance decidableForallMemOption (o : Option Char) (p : Char → Prop) [DecidablePred p] :
    Decidable (∀ c ∈ o, p c) :=
  decidable_of_iff (∀ c ∈ o.toList, p c) (by simp)

/-- The control characters are those up to 31 and those from 127 to 159. -/
theorem isControl_eq_false_iff :
    isControl c = false ↔ 0x1F < c.toNat ∧ (c.toNat < 0x7F ∨ 0x9F < c.toNat) := by
  rw [isControl, Bool.or_eq_false_iff, Bool.and_eq_false_iff, decide_eq_false_iff_not,
    decide_eq_false_iff_not, decide_eq_false_iff_not]
  omega

/-- What ASCII prints is no control character. -/
@[simp] theorem isControl_of_printable (hlow : 0x1F < c.toNat) (hhigh : c.toNat < 0x7F) :
    isControl c = false :=
  isControl_eq_false_iff.2 ⟨hlow, .inl hhigh⟩

/-- The number of a character is the one that it was made of. -/
theorem toNat_ofNat {n : Nat} (h : n.isValidChar) : (Char.ofNat n).toNat = n := by
  rw [Char.ofNat, dif_pos h]
  rfl

/-- A table beyond the control characters has none of them. -/
theorem isControl_of_inRanges {ranges : List (Nat × Nat)} (h : ∀ r ∈ ranges, 0x9F < r.1)
    (hc : inRanges ranges c.toNat = true) : isControl c = false := by
  obtain ⟨r, hr, hin⟩ := List.any_eq_true.1 hc
  have hlow := h r hr
  simp only [Bool.and_eq_true, decide_eq_true_eq] at hin
  rw [isControl_eq_false_iff]
  omega

/-- Letters and digits are capitals, small letters and digits. -/
theorem isAlphanum_eq : c.isAlphanum = (c.isUpper || c.isLower || c.isDigit) := rfl

/-- Letters and digits of ASCII are no control characters. -/
theorem isControl_of_isAlphanum (h : c.isAlphanum = true) : isControl c = false := by
  rw [isAlphanum_eq] at h
  delta Char.isUpper Char.isLower Char.isDigit at h
  simp only [Bool.or_eq_true, Bool.and_eq_true, decide_eq_true_eq, UInt32.le_iff_toNat_le] at h
  have hvalue : c.val.toNat = c.toNat := rfl
  rw [isControl_eq_false_iff, ← hvalue]
  have hA : 'A'.val.toNat = 65 := rfl
  have hZ : 'Z'.val.toNat = 90 := rfl
  have ha : 'a'.val.toNat = 97 := rfl
  have hz : 'z'.val.toNat = 122 := rfl
  have h0 : '0'.val.toNat = 48 := rfl
  have h9 : '9'.val.toNat = 57 := rfl
  omega

/-- Characters of words are no control characters. -/
theorem isControl_of_isWord (h : isWord c = true) : isControl c = false := by
  rw [isWord] at h
  split at h
  · rw [Bool.or_eq_true] at h
    rcases h with h | h
    · exact isControl_of_isAlphanum h
    · rw [eq_of_beq h]
      decide
  · have htable : ∀ r ∈ wordRanges, 0x9F < r.1 := by decide +kernel
    exact isControl_of_inRanges htable h

/-- Digits are no control characters. -/
theorem isControl_of_isDigit (h : isDigit c = true) : isControl c = false := by
  rw [isDigit] at h
  split at h
  · have halphanum : c.isAlphanum = true := by
      rw [Char.isAlphanum, h, Bool.or_true]
    exact isControl_of_isAlphanum halphanum
  · have htable : ∀ r ∈ digitRanges, 0x9F < r.1 := by decide +kernel
    exact isControl_of_inRanges htable h

/-- A small letter is a control character as little as the capital is. -/
@[simp] theorem isControl_asciiLower (c : Char) : isControl (asciiLower c) = isControl c := by
  rw [asciiLower]
  split
  · rename_i h
    have hA : 'A'.toNat ≤ c.toNat := h.1
    have hZ : c.toNat ≤ 'Z'.toNat := h.2
    have h65 : 'A'.toNat = 65 := rfl
    have h90 : 'Z'.toNat = 90 := rfl
    have hcapital : isControl c = false := isControl_eq_false_iff.2 (by omega)
    have hsmall : (Char.ofNat (c.toNat + 32)).toNat = c.toNat + 32 :=
      toNat_ofNat (.inl (by omega))
    rw [hcapital, isControl_eq_false_iff, hsmall]
    omega
  · rfl

/-- What counts as the same letter as a character that is no control character is none either. -/
theorem isControl_of_sameLetter (h : Pattern.sameLetter c d = true) (hc : isControl c = false) :
    isControl d = false := by
  rw [Pattern.sameLetter, Bool.or_eq_true, Bool.or_eq_true, Bool.and_eq_true, Bool.and_eq_true] at h
  rcases h with (h | ⟨-, h⟩) | ⟨-, h⟩
  · rw [← isControl_asciiLower, ← eq_of_beq h, isControl_asciiLower, hc]
  · rw [eq_of_beq h]
    decide
  · have hkelvin : d.toNat = 0x212A := eq_of_beq h
    rw [isControl_eq_false_iff]
    omega

/-- A run of the mapping to lower case leads to characters that are no control characters. -/
def LeadsClear (first last : Nat) (shift : Int) : Prop :=
  0x9F < first + shift ∧ last + shift < 0xD800 ∨
    0xDFFF < first + shift ∧ last + shift < 0x110000 ∨ 0x1F < first + shift ∧ last + shift < 0x7F

instance (first last : Nat) (shift : Int) : Decidable (LeadsClear first last shift) :=
  inferInstanceAs (Decidable (_ ∨ _ ∨ _))

/-- All runs do. -/
theorem leadsClear_lowerRuns : ∀ r ∈ lowerRuns, LeadsClear r.1 r.2.1 r.2.2.2 := by
  decide +kernel

/-- A member of such a run is mapped to a character. -/
theorem isValidChar_of_leadsClear {first last n : Nat} {shift : Int}
    (h : LeadsClear first last shift) (hfirst : first ≤ n) (hlast : n ≤ last) :
    (n + shift).toNat.isValidChar := by
  unfold Nat.isValidChar
  rcases h with h | h | h
  · exact .inl (by omega)
  · exact .inr (by omega)
  · exact .inl (by omega)

/-- A member of such a run is mapped to a character that is no control character. -/
theorem isControl_ofNat_of_leadsClear {first last n : Nat} {shift : Int}
    (h : LeadsClear first last shift) (hfirst : first ≤ n) (hlast : n ≤ last) :
    isControl (Char.ofNat (n + shift).toNat) = false := by
  rw [isControl_eq_false_iff, toNat_ofNat (isValidChar_of_leadsClear h hfirst hlast)]
  rcases h with h | h | h
  · omega
  · omega
  · omega

/-- The lower case of a character that is no control character has none. -/
theorem isControl_of_mem_lowerChar (hc : isControl c = false) :
    ∀ d ∈ lowerChar c, isControl d = false := by
  rw [lowerChar]
  -- The character is ASCII, the dotted capital I, in a run of the mapping, or stays as it is.
  split
  · simpa using hc
  split
  · decide
  split
  · rename_i first last gap shift hfind
    have hmem := List.mem_of_find?_eq_some hfind
    have hin := List.find?_some hfind
    simp only [Bool.and_eq_true, decide_eq_true_eq] at hin
    simpa using isControl_ofNat_of_leadsClear (leadsClear_lowerRuns _ hmem) hin.1.1 hin.1.2
  · simpa using hc

/-- The lower case of one character has at most two. -/
theorem length_lowerChar_le (c : Char) : (lowerChar c).length ≤ 2 := by
  have hone : ∀ c : Char, [c].length ≤ 2 := fun c => Nat.le_succ 1
  rw [lowerChar]
  split
  · exact hone _
  split
  · decide
  split
  · exact hone _
  · exact hone _

/-- The lower case of a text that is free of control characters is free of them. -/
theorem isControl_of_mem_lower (h : ∀ c ∈ s, isControl c = false) :
    ∀ d ∈ lower s, isControl d = false := by
  -- The mapping looks back for the final sigma, so the claim is made for whatever stands before.
  have hfrom : ∀ (before s : List Char), (∀ c ∈ s, isControl c = false) →
      ∀ d ∈ lowerFrom before s, isControl d = false := by
    intro before s
    induction s generalizing before with
    | nil =>
      intro _ d hd
      cases hd
    | cons c rest ih =>
      intro h d hd
      rw [lowerFrom] at hd
      rcases List.mem_append.1 hd with hd | hd
      · split at hd
        · -- A capital sigma becomes one of the two small ones.
          have hsigma : d = 'ς' ∨ d = 'σ' := by
            split at hd
            · exact .inl (List.mem_singleton.1 hd)
            · exact .inr (List.mem_singleton.1 hd)
          rcases hsigma with rfl | rfl
          · decide
          · decide
        · exact isControl_of_mem_lowerChar (h c List.mem_cons_self) d hd
      · exact ih (c :: before) (fun e he => h e (List.mem_cons_of_mem c he)) d hd
  exact hfrom [] s h

/-- The lower case of a text is at most twice as long. -/
theorem length_lower_le (s : List Char) : (lower s).length ≤ 2 * s.length := by
  have hfrom : ∀ (before s : List Char), (lowerFrom before s).length ≤ 2 * s.length := by
    intro before s
    induction s generalizing before with
    | nil => exact Nat.le_refl _
    | cons c rest ih =>
      have hrest := ih (c :: before)
      have hone : (if c = 'Σ' then (if casedNext before && !casedNext rest then ['ς'] else ['σ'])
          else lowerChar c).length ≤ 2 := by
        split
        · split <;> decide
        · exact length_lowerChar_le c
      rw [lowerFrom, List.length_append, List.length_cons]
      omega
  exact hfrom [] s

end SourceAudit.Text
