import Mathlib.Data.Set.Function
import SourceAudit.Proofs.Store.Frame
import SourceAudit.Proofs.Store.Validation
import SourceAudit.Proofs.Text.Ascii

/-!
# Identities

The identity of an audit is the digest of a text that ends in the number that the store has counted
up for it. As long as the counter has not come round, every audit gets a text of its own
(`auditText_injective`), so two audits can have one identity only if two texts have one digest.
`Store.Issuing` keeps account of the texts whose digests were given out; while SHA-256 tells these
apart, a new identity is unused (`Store.Issuing.unused`).

The identity of a repository is the digest of a text with its owner and its name in lower case and a
slash between them. A store accepts only names of ASCII letters, digits and a few marks, none of them
a slash, so that two such texts are equal exactly if owners and names agree up to the case of ASCII
letters (`repositoryText_eq_iff`). Names with other characters are put to lower case as well, by the
mapping of Unicode.
-/

/-! ## The identities of audits -/

namespace SourceAudit

/-- The text whose digest is the identity of an audit that is opened with this number. -/
def auditText (repositoryId : String) (startedAt : Instant) (number : Nat) : String :=
  "/".intercalate ["audit", repositoryId, startedAt.sinceEpoch.repr, number.repr]

/-- What follows the last slash of two equal texts is equal. -/
theorem eq_of_append_slash {before before' digits digits' : List Char}
    (h : before ++ '/' :: digits = before' ++ '/' :: digits') (hdigits : '/' ∉ digits)
    (hdigits' : '/' ∉ digits') : digits = digits' := by
  -- Read from behind, the digits are what comes up to the first slash.
  have htake : ∀ {before digits : List Char}, '/' ∉ digits →
      ((before ++ '/' :: digits).reverse.takeWhile (· ≠ '/')) = digits.reverse := by
    intro before digits hslash
    have hall : ∀ c ∈ digits.reverse, decide (c ≠ '/') = true := by
      intro c hc
      simpa using fun hslash' : c = '/' => hslash (hslash' ▸ List.mem_reverse.1 hc)
    rw [List.reverse_append, List.reverse_cons, List.append_assoc,
      List.takeWhile_append_of_pos hall]
    simp
  have hreverse := congrArg (fun t => t.reverse.takeWhile (· ≠ '/')) h
  rw [htake hdigits, htake hdigits'] at hreverse
  exact List.reverse_inj.1 hreverse

/-- Decimal digits are no slashes. -/
theorem slash_not_mem_repr (n : Nat) : '/' ∉ n.repr.toList := by
  intro h
  rw [Nat.toList_repr] at h
  have hdigit := Nat.isDigit_of_mem_toDigits (by omega) (by omega) h
  revert hdigit
  decide

/-- Two equal texts that end in a slash and a number have one number. -/
theorem number_eq_of_append_slash {before before' : List Char} {n n' : Nat}
    (h : before ++ '/' :: n.repr.toList = before' ++ '/' :: n'.repr.toList) : n = n' := by
  have hdigits := eq_of_append_slash h (slash_not_mem_repr n) (slash_not_mem_repr n')
  rw [Nat.toList_repr, Nat.toList_repr] at hdigits
  have hvalue := congrArg (fun d => Nat.ofDigitChars 10 d 0) hdigits
  simpa using hvalue

/-- The characters of the text of an audit. -/
theorem toList_auditText (repositoryId : String) (startedAt : Instant) (number : Nat) :
    (auditText repositoryId startedAt number).toList = "audit/".toList ++ repositoryId.toList ++
      '/' :: startedAt.sinceEpoch.repr.toList ++ '/' :: number.repr.toList := by
  simp [auditText, String.intercalate_cons_cons, String.intercalate_singleton]

/-- The texts of two numbers differ. -/
theorem auditText_injective {r r' : String} {t t' : Instant} {n n' : Nat}
    (h : auditText r t n = auditText r' t' n') : n = n' := by
  have hlist := congrArg String.toList h
  rw [toList_auditText, toList_auditText] at hlist
  exact number_eq_of_append_slash hlist

/-- The identity of the audit that a store opens next. -/
theorem Store.id_nextAudit (s : Store) (now : Instant) (repositoryId : String) :
    (s.nextAudit now repositoryId).id = Sha256.hex (auditText repositoryId now s.nextNumber) := rfl

namespace StoreCall

open Store

/-- The texts whose digests a call gives out as identities of audits: that of the audit that it
opens. -/
def issued : (c : StoreCall) → Except StoreError c.Result → Store → List String
  | createAudit _, .ok audit, s => [auditText audit.repositoryId audit.startedAt s.sequence]
  | _, _, _ => []

variable {c : StoreCall} {s s' : Store} {answer : Except StoreError c.Result}

/-- A text that is given out is that of the next number, and the counter is then there. -/
theorem Outcome.numbered (h : c.Outcome s answer s') {text : String}
    (htext : text ∈ c.issued answer s') :
    ∃ repositoryId startedAt, text = auditText repositoryId startedAt s.nextNumber ∧
      s'.sequence = s.nextNumber := by
  cases c with
  | createAudit repositoryId =>
    rcases answer with e | audit
    · cases htext
    · obtain ⟨now, h⟩ := h
      obtain ⟨-, -, rfl, rfl⟩ := createAudit_ok_iff.1 h
      exact ⟨repositoryId, now, List.mem_singleton.1 htext, rfl⟩
  | upsertRepository | repository? | audit? | listAudits | logViolation | listViolations
  | completeAudit | failAudit | deleteAudit => cases htext

/-- The identities of audits stay among those that were given out. -/
theorem Outcome.auditIdsIn {P : String → Prop} (h : c.Outcome s answer s') (hids : s.AuditIdsIn P)
    (hnew : ∀ text ∈ c.issued answer s', P (Sha256.hex text)) : s'.AuditIdsIn P := by
  cases c with
  | createAudit repositoryId =>
    rcases answer with e | audit
    · obtain rfl := h
      exact hids
    · obtain ⟨now, h⟩ := h
      obtain ⟨-, -, rfl, rfl⟩ := createAudit_ok_iff.1 h
      refine hids.afterCreate ?_
      rw [id_nextAudit]
      exact hnew _ List.mem_cons_self
  | upsertRepository | repository? | audit? | listAudits | logViolation | listViolations
  | completeAudit | failAudit | deleteAudit => exact h.effect.auditIdsIn hids fun _ => nofun

end StoreCall

namespace Store

/-- The texts are those whose digests the store has given out as identities of audits. -/
structure Issuing (s : Store) (texts : List String) : Prop where
  /-- Their numbers are up to that of the counter. -/
  numbered : ∀ text ∈ texts, ∃ repositoryId startedAt number,
    text = auditText repositoryId startedAt number ∧ number ≤ s.sequence
  /-- The store knows no identities of audits but their digests. -/
  known : s.AuditIdsIn fun id => ∃ text ∈ texts, id = Sha256.hex text

variable {s s' : Store} {texts : List String} {c : StoreCall}
  {answer : Except StoreError c.Result}

/-- An empty store has given out nothing. -/
theorem issuing_empty : Issuing {} [] :=
  ⟨List.forall_mem_nil _, List.forall_mem_nil _, List.forall_mem_nil _⟩

/-- A call adds the texts that it gives out. -/
theorem Issuing.step (h : s.Issuing texts) (hout : c.Outcome s answer s')
    (hroom : s.sequence + 1 < Decimal.wordCount) :
    s'.Issuing (texts ++ c.issued answer s') := by
  constructor
  · intro text htext
    rcases List.mem_append.1 htext with htext | htext
    · obtain ⟨repositoryId, startedAt, number, rfl, hle⟩ := h.numbered text htext
      have hseq := (hout.effect.sequence_le hroom).1
      exact ⟨repositoryId, startedAt, number, rfl, by omega⟩
    · obtain ⟨repositoryId, startedAt, rfl, hseq⟩ := hout.numbered htext
      exact ⟨repositoryId, startedAt, _, rfl, by omega⟩
  · refine hout.auditIdsIn ⟨fun a ha => ?_, fun v hv => ?_⟩ fun text htext =>
      ⟨text, List.mem_append_right _ htext, rfl⟩
    · obtain ⟨text, htext, hid⟩ := h.known.1 a ha
      exact ⟨text, List.mem_append_left _ htext, hid⟩
    · obtain ⟨text, htext, hid⟩ := h.known.2 v hv
      exact ⟨text, List.mem_append_left _ htext, hid⟩

/-- A text that a call gives out is a new one. -/
theorem Issuing.not_mem (h : s.Issuing texts) (hout : c.Outcome s answer s')
    (hroom : s.sequence + 1 < Decimal.wordCount) {text : String}
    (htext : text ∈ c.issued answer s') : text ∉ texts := by
  intro hold
  obtain ⟨repositoryId, startedAt, rfl, -⟩ := hout.numbered htext
  obtain ⟨repositoryId', startedAt', number, heq, hle⟩ := h.numbered _ hold
  -- The numbers of the texts so far are up to the counter, and this one is beyond it.
  have hnumber : s.nextNumber = number := auditText_injective heq
  have hnext : s.nextNumber = s.sequence + 1 := Nat.mod_eq_of_lt hroom
  omega

/-- An identity that a call gives out is none of those before, as far as SHA-256 tells the texts
apart. -/
theorem Issuing.hex_ne (h : s.Issuing texts) (hout : c.Outcome s answer s')
    (hroom : s.sequence + 1 < Decimal.wordCount)
    (hsha : Set.InjOn Sha256.hex {text | text ∈ texts ++ c.issued answer s'}) {text old : String}
    (htext : text ∈ c.issued answer s') (hold : old ∈ texts) :
    Sha256.hex text ≠ Sha256.hex old := by
  intro heq
  obtain rfl := hsha (List.mem_append_right _ htext) (List.mem_append_left _ hold) heq
  exact h.not_mem hout hroom htext hold

/-- An identity that a call gives out is unused, as far as SHA-256 tells the texts apart. -/
theorem Issuing.unused (h : s.Issuing texts) (hout : c.Outcome s answer s')
    (hroom : s.sequence + 1 < Decimal.wordCount)
    (hsha : Set.InjOn Sha256.hex {text | text ∈ texts ++ c.issued answer s'}) {text : String}
    (htext : text ∈ c.issued answer s') : s.Unused (Sha256.hex text) := by
  refine unused_of_auditIdsIn h.known ?_
  rintro ⟨old, hold, heq⟩
  exact h.hex_ne hout hroom hsha htext hold heq

end Store

end SourceAudit

/-! ## Repositories by name -/

namespace SourceAudit

namespace Text

variable {c : Char} {s t : List Char}

/-- The lower case of ASCII is that of its letters one by one. -/
theorem lower_of_ascii (h : ∀ c ∈ s, c.toNat < 128) : lower s = s.map asciiLower := by
  -- The mapping looks back for the final sigma, so the claim is made for whatever stands before.
  have hfrom : ∀ before, lowerFrom before s = s.map asciiLower := by
    induction s with
    | nil => exact fun _ => rfl
    | cons c rest ih =>
      intro before
      have hc := h c List.mem_cons_self
      have hrest := ih fun d hd => h d (List.mem_cons_of_mem c hd)
      have hsigma : c ≠ 'Σ' := by
        rintro rfl
        exact absurd hc (by decide)
      rw [lowerFrom, if_neg hsigma, lowerChar, if_pos hc, hrest, List.map_cons]
      rfl
  exact hfrom []

/-- Two texts of ASCII have one lower case exactly if they agree up to the case of letters. -/
theorem lower_eq_iff (hs : ∀ c ∈ s, c.toNat < 128) (ht : ∀ c ∈ t, c.toNat < 128) :
    lower s = lower t ↔ eqIgnoringAsciiCase s t = true := by
  rw [lower_of_ascii hs, lower_of_ascii ht, eqIgnoringAsciiCase, beq_iff_eq]

end Text

namespace Validation

variable {field value : String}

/-- The names that are accepted. -/
theorem name_ok_iff : name field value = .ok () ↔
    Clean maxName value ∧ (∀ c ∈ value.toList, isNameChar c = true) ∧ value ≠ "." ∧
      value ≠ ".." := by
  rw [name, ← @text_ok_iff field]
  rcases text field value maxName with e | u
  · simp
  · simp [and_assoc]

/-- The characters of names are ASCII. -/
theorem toNat_lt_of_isNameChar {c : Char} (h : isNameChar c = true) : c.toNat < 128 := by
  rw [isNameChar, Bool.or_eq_true, decide_eq_true_eq] at h
  rcases h with h | h
  · exact Text.toNat_lt_of_isAlphanum h
  · have hmarks : ∀ d ∈ ['-', '_', '.'], d.toNat < 128 := by decide
    exact hmarks c h

/-- What holds of the characters of names in ASCII one by one holds of all of them. -/
theorem forall_isNameChar {P : Char → Prop}
    (h : ∀ n < 128, isNameChar (Char.ofNat n) = true → P (Char.ofNat n)) {c : Char}
    (hc : isNameChar c = true) : P c :=
  Text.forall_ascii (P := fun c => isNameChar c = true → P c) h (toNat_lt_of_isNameChar hc) hc

/-- No character of a name becomes a slash in lower case. -/
theorem asciiLower_ne_slash {c : Char} (h : isNameChar c = true) : Text.asciiLower c ≠ '/' :=
  forall_isNameChar (P := fun c => Text.asciiLower c ≠ '/') (by decide +kernel) h

/-- The owner and the name are such as a store accepts. -/
structure Names (owner name : String) : Prop where
  owner : Validation.name "owner" owner = .ok ()
  name : Validation.name "name" name = .ok ()

instance (owner name : String) : Decidable (Names owner name) :=
  decidable_of_iff (_ ∧ _) ⟨fun h => ⟨h.1, h.2⟩, fun h => ⟨h.owner, h.name⟩⟩

/-- A name that is accepted has ASCII characters only. -/
theorem toNat_lt_of_name (h : name field value = .ok ()) : ∀ c ∈ value.toList, c.toNat < 128 :=
  fun c hc => toNat_lt_of_isNameChar ((name_ok_iff.1 h).2.1 c hc)

/-- The lower case of a name that is accepted has no slash. -/
theorem slash_not_mem_lower (h : name field value = .ok ()) :
    '/' ∉ Text.lower value.toList := by
  rw [Text.lower_of_ascii (toNat_lt_of_name h)]
  intro hslash
  obtain ⟨c, hc, heq⟩ := List.mem_map.1 hslash
  exact asciiLower_ne_slash ((name_ok_iff.1 h).2.1 c hc) heq

end Validation

/-- The text whose digest is the identity of a repository. -/
def repositoryText (owner name : String) : String :=
  "/".intercalate [String.ofList (Text.lower owner.toList), String.ofList (Text.lower name.toList)]

/-- The text has the owner in lower case, a slash, and the name in lower case. -/
theorem toList_repositoryText (owner name : String) : (repositoryText owner name).toList =
    Text.lower owner.toList ++ '/' :: Text.lower name.toList := by
  simp [repositoryText, String.intercalate_cons_cons, String.intercalate_singleton]

/-- The owner and the name agree with others in lower case. -/
def SameNames (owner name owner' name' : String) : Prop :=
  Text.lower owner.toList = Text.lower owner'.toList ∧
    Text.lower name.toList = Text.lower name'.toList

instance (owner name owner' name' : String) : Decidable (SameNames owner name owner' name') :=
  inferInstanceAs (Decidable (_ ∧ _))

variable {owner name owner' name' : String}

/-- Names that agree in lower case have one text. -/
theorem repositoryText_eq_of_sameNames (h : SameNames owner name owner' name') :
    repositoryText owner name = repositoryText owner' name' := by
  rw [repositoryText, repositoryText, h.1, h.2]

/-- The text of names that are accepted is that of no others but those that agree with them in lower
case. -/
theorem sameNames_of_repositoryText_eq (h : Validation.Names owner name)
    (heq : repositoryText owner name = repositoryText owner' name') :
    SameNames owner name owner' name' := by
  have hname := Validation.slash_not_mem_lower h.name
  have hlist := congrArg String.toList heq
  rw [toList_repositoryText, toList_repositoryText] at hlist
  -- The slash between the accepted names is the only one, so the other names have none either.
  have hslashes := congrArg (List.count '/') hlist
  rw [List.count_append, List.count_cons_self, List.count_append, List.count_cons_self,
    List.count_eq_zero.2 (Validation.slash_not_mem_lower h.owner), List.count_eq_zero.2 hname] at hslashes
  have hname' : '/' ∉ Text.lower name'.toList := List.count_eq_zero.1 (by omega)
  -- The names are what follows the last slash, and the owners are what is left.
  have hnames := eq_of_append_slash hlist hname hname'
  rw [hnames] at hlist
  exact ⟨List.append_cancel_right hlist, hnames⟩

/-- Of names that are accepted, those that agree in lower case are those that agree up to the case of
ASCII letters. -/
theorem sameNames_iff (h : Validation.Names owner name) (h' : Validation.Names owner' name') :
    SameNames owner name owner' name' ↔
      Text.eqIgnoringAsciiCase owner.toList owner'.toList = true ∧
        Text.eqIgnoringAsciiCase name.toList name'.toList = true := by
  rw [SameNames, Text.lower_eq_iff (Validation.toNat_lt_of_name h.owner)
      (Validation.toNat_lt_of_name h'.owner),
    Text.lower_eq_iff (Validation.toNat_lt_of_name h.name) (Validation.toNat_lt_of_name h'.name)]

/-- Of names that are accepted, those that agree up to the case of ASCII letters have one text. -/
theorem repositoryText_eq_iff (h : Validation.Names owner name)
    (h' : Validation.Names owner' name') :
    repositoryText owner name = repositoryText owner' name' ↔
      Text.eqIgnoringAsciiCase owner.toList owner'.toList = true ∧
        Text.eqIgnoringAsciiCase name.toList name'.toList = true :=
  Iff.trans ⟨sameNames_of_repositoryText_eq h, repositoryText_eq_of_sameNames⟩
    (sameNames_iff h h')

end SourceAudit
