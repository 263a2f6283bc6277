import SourceAudit.Identity
import SourceAudit.Proofs.Text.Control
import SourceAudit.Proofs.Text.Pieces
import SourceAudit.Store.Validation

/-!
# What a store accepts

A text is accepted if it has a character that is no white space, is short enough and has no control
character (`text_ok_iff`); an identity that was derived is accepted everywhere (`id_deriveId`).
-/

namespace SourceAudit

namespace Text

/-- The text has a character that is no white space. -/
def Worded (s : String) : Prop :=
  ∃ c ∈ s.toList, isBlank c = false

/-- The text has no control characters. -/
def Clear (s : String) : Prop :=
  ∀ c ∈ s.toList, isControl c = false

instance (s : String) : Decidable (Worded s) :=
  inferInstanceAs (Decidable (∃ c ∈ _, _))

instance (s : String) : Decidable (Clear s) :=
  inferInstanceAs (Decidable (∀ c ∈ _, _))

/-- What follows a text with such a character leaves it there. -/
theorem Worded.append {s : String} (h : Worded s) (t : String) : Worded (s ++ t) := by
  obtain ⟨c, hc, hblank⟩ := h
  rw [Worded, String.toList_append]
  exact ⟨c, List.mem_append_left _ hc, hblank⟩

/-- Control characters do not come up where texts meet. -/
theorem clear_append {s t : String} : Clear (s ++ t) ↔ Clear s ∧ Clear t := by
  rw [Clear, String.toList_append, List.forall_mem_append]
  rfl

end Text

namespace Sha256

/-- A digest has eight words. -/
theorem length_digest (message : List UInt8) : (digest message).length = 8 := rfl

/-- A word has eight digits. -/
theorem length_hexWord (w : UInt32) : (hexWord w).length = 8 := by
  simp [hexWord]

/-- The digits are hexadecimal ones. -/
theorem isIdDigit_digitChar {n : Nat} (h : n < 16) :
    Validation.isIdDigit (Nat.digitChar n) = true := by
  have hall : ∀ i : Fin 16, Validation.isIdDigit (Nat.digitChar i) = true := by decide
  exact hall ⟨n, h⟩

theorem isIdDigit_of_mem_hexWord {w : UInt32} {c : Char} (h : c ∈ hexWord w) :
    Validation.isIdDigit c = true := by
  obtain ⟨i, -, rfl⟩ := List.mem_map.1 h
  exact isIdDigit_digitChar (Nat.mod_lt _ (by omega))

end Sha256

namespace Validation

/-- A digit of an identity takes one byte. -/
theorem utf8Size_of_isIdDigit {c : Char} (h : isIdDigit c = true) : c.utf8Size = 1 := by
  have hle : c.val ≤ 0x7F := by
    simp only [isIdDigit, Text.isAsciiDigit, Char.isDigit, Bool.or_eq_true, Bool.and_eq_true,
      decide_eq_true_eq, Char.le_def] at h
    rcases h with ⟨-, h⟩ | ⟨-, h⟩
    · exact UInt32.le_trans h (by decide)
    · exact UInt32.le_trans h (by decide)
  unfold Char.utf8Size
  exact if_pos hle

/-- A text of such digits takes a byte for each of them. -/
theorem utf8ByteSize_ofList {digits : List Char} (h : ∀ c ∈ digits, isIdDigit c = true) :
    (String.ofList digits).utf8ByteSize = digits.length := by
  induction digits with
  | nil => rfl
  | cons c rest ih =>
    rw [String.ofList_cons, String.utf8ByteSize_append, String.utf8ByteSize_singleton,
      utf8Size_of_isIdDigit (h c List.mem_cons_self),
      ih fun d hd => h d (List.mem_cons_of_mem c hd), List.length_cons, Nat.add_comm]

/-- A derived identity is an identity for every field. -/
theorem id_deriveId (field : String) (parts : List String) : id field (deriveId parts) = .ok () := by
  -- The identity is the hexadecimal form of a digest.
  have hdigits : ∀ c ∈ (Sha256.digest ("/".intercalate parts).toUTF8.toList).flatMap Sha256.hexWord,
      isIdDigit c = true := by
    intro c hc
    obtain ⟨w, -, hc⟩ := List.mem_flatMap.1 hc
    exact Sha256.isIdDigit_of_mem_hexWord hc
  have hlength : ((Sha256.digest ("/".intercalate parts).toUTF8.toList).flatMap
      Sha256.hexWord).length = idLength := by
    simp only [List.length_flatMap, Sha256.length_hexWord, List.map_const', Sha256.length_digest]
    rfl
  have hsize : (deriveId parts).utf8ByteSize = idLength :=
    (utf8ByteSize_ofList hdigits).trans hlength
  have hall : (deriveId parts).toList.all isIdDigit = true := by
    rw [deriveId, Sha256.hex, String.toList_ofList]
    exact List.all_eq_true.2 hdigits
  rw [id, hsize, hall]
  rfl

/-- A text that a store takes where it takes texts of this length. -/
structure Clean (max : Nat) (value : String) : Prop where
  worded : Text.Worded value
  short : value.length ≤ max
  clear : Text.Clear value

instance (max : Nat) (value : String) : Decidable (Clean max value) :=
  decidable_of_iff (Text.Worded value ∧ value.length ≤ max ∧ Text.Clear value)
    ⟨fun h => ⟨h.1, h.2.1, h.2.2⟩, fun h => ⟨h.worded, h.short, h.clear⟩⟩

/-- The texts that are accepted. -/
theorem text_ok_iff {field value : String} {max : Nat} :
    text field value max = .ok () ↔ Clean max value := by
  rw [text]
  -- The checks come in this order, and each refusal contradicts one part of what is claimed.
  by_cases hblank : (Text.trim value.toList).isEmpty
  · rw [if_pos hblank]
    rw [List.isEmpty_iff, Text.trim_eq_nil_iff] at hblank
    refine iff_of_false (by simp) ?_
    rintro ⟨⟨c, hc, hno⟩, -⟩
    rw [hblank c hc] at hno
    cases hno
  · have hsome : ∃ c ∈ value.toList, Text.isBlank c = false := by
      rw [List.isEmpty_iff, Text.trim_eq_nil_iff] at hblank
      simpa using hblank
    rw [if_neg hblank]
    by_cases hlong : max < value.length
    · rw [if_pos hlong]
      refine iff_of_false (by simp) ?_
      rintro ⟨-, hlength, -⟩
      omega
    · rw [if_neg hlong]
      by_cases hcontrol : value.toList.any Text.isControl
      · rw [if_pos hcontrol]
        refine iff_of_false (by simp) ?_
        rintro ⟨-, -, hclean⟩
        obtain ⟨c, hc, hyes⟩ := List.any_eq_true.1 hcontrol
        rw [hclean c hc] at hyes
        cases hyes
      · rw [if_neg hcontrol]
        refine iff_of_true rfl ⟨hsome, by omega, fun c hc => ?_⟩
        simpa using fun hyes => hcontrol (List.any_eq_true.2 ⟨c, hc, hyes⟩)

/-- The violations that are fit to be recorded. -/
theorem newViolation_ok_iff {v : NewViolation} :
    newViolation v = .ok () ↔
      (id "audit_id" v.auditId = .ok () ∧ id "repository_id" v.repositoryId = .ok ()) ∧
        Clean maxPath v.filePath ∧ Clean maxName v.ruleId ∧ Clean maxDescription v.description ∧
        v.lineNumber ≠ some 0 := by
  rw [← @text_ok_iff "file_path", ← @text_ok_iff "rule_id", ← @text_ok_iff "description",
    newViolation, path, description]
  rcases id "audit_id" v.auditId with e | u
  · simp [bind, Except.bind]
  rcases id "repository_id" v.repositoryId with e | u
  · simp [bind, Except.bind]
  rcases text "file_path" v.filePath maxPath with e | u
  · simp [bind, Except.bind]
  rcases text "rule_id" v.ruleId maxName with e | u
  · simp [bind, Except.bind]
  rcases text "description" v.description maxDescription with e | u
  · simp [bind, Except.bind]
  · simp [bind, Except.bind]

end Validation

end SourceAudit
