import Mathlib.Tactic.SplitIfs
import SourceAudit.Proofs.Text.Control
import SourceAudit.Text.Utf8

/-!
# ASCII and letter case

The characters below 128, and their bytes: such a character is one byte, and the bytes of all other
characters are from 128 up, so that no byte of one is taken for one of the others.

Whether a text starts with a keyword up to the case of letters may be asked of its lower case in full
or of its ASCII letters alone (`prefix_lower_iff`). What is not ASCII stays so in lower case, with two
exceptions: the Kelvin sign becomes `k`, and the capital I with a dot becomes an `i` with a combining
dot behind it. So the keyword must not have the letter `k`, nor end with `i`.
-/

/-! ## ASCII -/

namespace SourceAudit.Text

variable {c : Char} {b : UInt8}

/-- What holds of the 128 characters of ASCII one by one holds of all of them. -/
theorem forall_ascii {P : Char → Prop} (h : ∀ n < 128, P (Char.ofNat n)) (hc : c.toNat < 128) :
    P c := by
  have hn := h c.toNat hc
  rwa [Char.ofNat_toNat] at hn

/-- Letters and digits of ASCII are ASCII. -/
theorem toNat_lt_of_isAlphanum (h : c.isAlphanum = true) : c.toNat < 128 := by
  rw [isAlphanum_eq] at h
  delta Char.isUpper Char.isLower Char.isDigit at h
  simp only [Bool.or_eq_true, Bool.and_eq_true, decide_eq_true_eq, UInt32.le_iff_toNat_le] at h
  have hvalue : c.val.toNat = c.toNat := rfl
  have hZ : 'Z'.val.toNat = 90 := rfl
  have hz : 'z'.val.toNat = 122 := rfl
  have h9 : '9'.val.toNat = 57 := rfl
  omega

/-- A hexadecimal digit is ASCII. -/
theorem toNat_lt_of_isHexDigit (h : isHexDigit c = true) : c.toNat < 128 := by
  delta isHexDigit Char.isDigit at h
  simp only [Bool.or_eq_true, Bool.and_eq_true, decide_eq_true_eq, UInt32.le_iff_toNat_le,
    Char.le_def] at h
  have hvalue : c.val.toNat = c.toNat := rfl
  have hf : 'f'.val.toNat = 102 := rfl
  have hF : 'F'.val.toNat = 70 := rfl
  have h9 : '9'.val.toNat = 57 := rfl
  omega

/-- A character of ASCII is one byte. -/
theorem utf8EncodeChar_of_ascii (h : c.toNat < 128) :
    String.utf8EncodeChar c = [UInt8.ofNat c.toNat] := by
  have hle : c.val.toNat ≤ 127 := Nat.le_of_lt_succ h
  unfold String.utf8EncodeChar
  exact if_pos hle

/-- The bytes of all other characters are from 128 up. -/
theorem le_of_mem_utf8EncodeChar (h : 128 ≤ c.toNat) (hb : b ∈ String.utf8EncodeChar c) :
    128 ≤ b.toNat := by
  have hc : ¬ c.val.toNat ≤ 127 := Nat.not_le.2 h
  have hbyte : ∀ n, 128 ≤ n → n < 256 → 128 ≤ (UInt8.ofNat n).toNat :=
    fun n hlow hhigh => (UInt8.toNat_ofNat_of_lt' hhigh).symm ▸ hlow
  unfold String.utf8EncodeChar at hb
  generalize c.val.toNat = n at hc hb
  dsimp only at hb
  rw [if_neg hc] at hb
  -- What is added to the bits of a byte is from 128 up, however many bytes there are.
  split_ifs at hb <;> simp only [List.mem_cons, List.not_mem_nil, or_false] at hb <;>
    rcases hb with rfl | rfl | rfl | rfl <;> exact hbyte _ (by omega) (by omega)

/-- The byte of a character of ASCII is the number of the character. -/
theorem ofNat_toNat_ofNat (h : c.toNat < 128) : Char.ofNat (UInt8.ofNat c.toNat).toNat = c := by
  rw [UInt8.toNat_ofNat_of_lt' (Nat.lt_trans h (by decide)), Char.ofNat_toNat]

end SourceAudit.Text

/-! ## Keywords in lower case -/

namespace SourceAudit.Text

variable {c : Char} {k s : List Char}

/-- Outside ASCII a run of the mapping to lower case leads out of ASCII, but for the Kelvin sign. -/
theorem leadsOut_lowerRuns : ∀ r ∈ lowerRuns,
    128 ≤ r.1 + r.2.2.2 ∨ r.1 = 0x212A ∧ r.2.1 = 0x212A ∧ r.2.2.2 = -8383 := by
  decide +kernel

/-- What is not ASCII becomes `i` with a dot, or one character that is `k` or not ASCII. -/
theorem lowerChar_of_not_ascii (hc : 128 ≤ c.toNat) :
    lowerChar c = ['i', Char.ofNat 0x307] ∨
      ∃ d, lowerChar c = [d] ∧ (d = 'k' ∨ 128 ≤ d.toNat) := by
  rw [lowerChar, if_neg (Nat.not_lt.2 hc)]
  split
  · exact .inl rfl
  right
  split
  · rename_i first last gap shift hfind
    have hmem := List.mem_of_find?_eq_some hfind
    have hin := List.find?_some hfind
    simp only [Bool.and_eq_true, decide_eq_true_eq] at hin
    refine ⟨_, rfl, ?_⟩
    have hout : 128 ≤ first + shift ∨ first = 0x212A ∧ last = 0x212A ∧ shift = -8383 :=
      leadsOut_lowerRuns _ hmem
    rcases hout with hout | ⟨hfirst, hlast, hshift⟩
    · right
      have hvalid := isValidChar_of_leadsClear (leadsClear_lowerRuns _ hmem) hin.1.1 hin.1.2
      rw [toNat_ofNat hvalid]
      dsimp only
      omega
    · left
      obtain rfl : c = Char.ofNat 0x212A := by
        rw [← Char.ofNat_toNat c]
        exact congrArg Char.ofNat (by omega)
      rw [hshift]
      rfl
  · exact ⟨c, rfl, .inr hc⟩

/-- What is not ASCII is no capital of ASCII. -/
theorem asciiLower_of_not_ascii (hc : 128 ≤ c.toNat) : asciiLower c = c := by
  rw [asciiLower, if_neg]
  rintro ⟨-, hZ⟩
  have h : c.toNat ≤ 'Z'.toNat := hZ
  have h90 : 'Z'.toNat = 90 := rfl
  omega

/-- Only letters of ASCII become letters of ASCII. -/
theorem toNat_lt_of_asciiLower (h : (asciiLower c).toNat < 128) : c.toNat < 128 := by
  refine Nat.lt_of_not_le fun hc => ?_
  rw [asciiLower_of_not_ascii hc] at h
  omega

/-- The lower case of a text starts with a keyword exactly if its letters do up to their case. -/
theorem prefix_lower_iff (hk : ∀ d ∈ k, d.toNat < 128 ∧ d ≠ 'k') (hend : k.getLast? ≠ some 'i') :
    k <+: lower s ↔ k <+: s.map asciiLower := by
  -- By induction on the keyword, whatever was read of the text so far.
  have hfrom : ∀ before, k <+: lowerFrom before s ↔ k <+: s.map asciiLower := by
    induction k generalizing s with
    | nil => exact fun _ => iff_of_true List.nil_prefix List.nil_prefix
    | cons d rest ih =>
      intro before
      obtain ⟨⟨hd, hdk⟩, hrest⟩ := List.forall_mem_cons.1 hk
      have hendrest : rest.getLast? ≠ some 'i' := by
        rcases rest with _ | ⟨e, more⟩
        · simp
        · rwa [List.getLast?_cons_cons] at hend
      rcases s with _ | ⟨c, more⟩
      · exact Iff.rfl
      rw [lowerFrom, List.map_cons]
      by_cases hc : c.toNat < 128
      · have hsigma : c ≠ 'Σ' := by
          rintro rfl
          exact absurd hc (by decide)
        rw [if_neg hsigma, lowerChar, if_pos hc, List.singleton_append, List.cons_prefix_cons,
          List.cons_prefix_cons, ih hrest hendrest]
      · -- What is not ASCII does not become the keyword's character in either way.
        have hc : 128 ≤ c.toNat := Nat.not_lt.1 hc
        refine iff_of_false ?_ ?_
        · intro hpre
          split at hpre
          · split at hpre
            · obtain ⟨rfl, -⟩ := List.cons_prefix_cons.1 hpre
              exact absurd hd (by decide)
            · obtain ⟨rfl, -⟩ := List.cons_prefix_cons.1 hpre
              exact absurd hd (by decide)
          · rcases lowerChar_of_not_ascii hc with hlower | ⟨e, hlower, he⟩
            · rw [hlower] at hpre
              obtain ⟨rfl, htail⟩ := List.cons_prefix_cons.1 hpre
              rcases rest with _ | ⟨e, rest⟩
              · exact hend rfl
              · obtain ⟨rfl, -⟩ := List.cons_prefix_cons.1 htail
                exact absurd (hrest _ List.mem_cons_self).1 (by decide)
            · rw [hlower] at hpre
              obtain ⟨rfl, -⟩ := List.cons_prefix_cons.1 hpre
              rcases he with rfl | he
              · exact hdk rfl
              · omega
        · intro hpre
          rw [asciiLower_of_not_ascii hc] at hpre
          obtain ⟨rfl, -⟩ := List.cons_prefix_cons.1 hpre
          omega
  exact hfrom []

end SourceAudit.Text
