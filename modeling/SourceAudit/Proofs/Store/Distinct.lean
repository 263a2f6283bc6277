import Mathlib.Data.List.Nodup
import SourceAudit.Proofs.Store.Identity
import SourceAudit.Proofs.Store.Storable

/-!
# Identities do not clash

The identities of repositories, audits and violations are digests of texts of three forms. The texts
of audits and violations carry the number that the store has counted up for them, and no text is of
two forms (`RecordKind.kindOf_text`). Through calls, refused and failed ones, deletions and restarts
the counter never goes back, so every audit and every violation gets a text of its own
(`Store.Passage.fresh`). As far as SHA-256 tells these texts apart, two identities that a store gives
out are equal only if both are those of repositories (`identities_apart`).
-/

namespace SourceAudit

/-! ### Texts of identities -/

/-- The text whose digest is the identity of a violation that is recorded with this number. -/
def violationText (auditId : String) (number : Nat) : String :=
  "/".intercalate ["violation", auditId, number.repr]

/-- The identity of the violation that a store records next. -/
theorem Store.id_nextViolation (s : Store) (now : Instant) (v : NewViolation) :
    (s.nextViolation now v).id = Sha256.hex (violationText v.auditId s.nextNumber) := rfl

/-- The characters of the text of a violation. -/
theorem toList_violationText (auditId : String) (number : Nat) :
    (violationText auditId number).toList = "violation/".toList ++ auditId.toList ++
      '/' :: number.repr.toList := by
  simp [violationText, String.intercalate_cons_cons, String.intercalate_singleton]

/-- The texts of two numbers differ. -/
theorem violationText_injective {auditId auditId' : String} {n n' : Nat}
    (h : violationText auditId n = violationText auditId' n') : n = n' := by
  have hlist := congrArg String.toList h
  rw [toList_violationText, toList_violationText] at hlist
  exact number_eq_of_append_slash hlist

/-- The kinds of records that get identities. -/
inductive RecordKind where
  | repository
  | audit
  | violation
deriving DecidableEq, Repr

namespace RecordKind

/-- The texts whose digests are identities of a kind, for records with a number. Repositories have
no numbers. -/
def HasText (number : Nat) : RecordKind → String → Prop
  | repository, text => ∃ owner name, Validation.Names owner name ∧ text = repositoryText owner name
  | audit, text => ∃ repositoryId startedAt, text = auditText repositoryId startedAt number
  | violation, text => ∃ auditId, text = violationText auditId number

/-- The kind that a text tells by its slashes and its first letter. -/
def ofText (text : String) : RecordKind :=
  if text.toList.count '/' < 2 then repository
  else if text.toList.head? = some 'a' then audit
  else violation

variable {kind kind' : RecordKind} {number number' : Nat} {text : String}

/-- A text of a kind tells its kind. -/
theorem ofText_eq (h : kind.HasText number text) : ofText text = kind := by
  cases kind with
  | repository =>
    obtain ⟨owner, name, hnames, rfl⟩ := h
    -- The slash between the names is the only one.
    have howner := List.count_eq_zero.2 (Validation.slash_not_mem_lower hnames.owner)
    have hname := List.count_eq_zero.2 (Validation.slash_not_mem_lower hnames.name)
    have hslashes : (repositoryText owner name).toList.count '/' = 1 := by
      rw [toList_repositoryText, List.count_append, List.count_cons_self, howner, hname]
    rw [ofText, hslashes]
    rfl
  | audit =>
    obtain ⟨repositoryId, startedAt, rfl⟩ := h
    have hslashes : 2 ≤ (auditText repositoryId startedAt number).toList.count '/' := by
      rw [toList_auditText, List.count_append, List.count_append, List.count_cons_self,
        List.count_cons_self]
      omega
    have hfirst : (auditText repositoryId startedAt number).toList.head? = some 'a' := by
      rw [toList_auditText]
      rfl
    rw [ofText, if_neg (Nat.not_lt.2 hslashes), if_pos hfirst]
  | violation =>
    obtain ⟨auditId, rfl⟩ := h
    have hword : "violation/".toList.count '/' = 1 := by decide
    have hslashes : 2 ≤ (violationText auditId number).toList.count '/' := by
      rw [toList_violationText, List.count_append, List.count_append, hword, List.count_cons_self]
      omega
    have hfirst : (violationText auditId number).toList.head? = some 'v' := by
      rw [toList_violationText]
      rfl
    rw [ofText, if_neg (Nat.not_lt.2 hslashes), hfirst]
    rfl

/-- No text is of two kinds. -/
theorem eq_of_text (h : kind.HasText number text) (h' : kind'.HasText number' text) :
    kind = kind' :=
  (ofText_eq h).symm.trans (ofText_eq h')

/-- No text of an audit or of a violation is of two numbers. -/
theorem number_eq_of_text (hkind : kind ≠ repository) (h : kind.HasText number text)
    (h' : kind.HasText number' text) : number = number' := by
  cases kind with
  | repository => exact absurd rfl hkind
  | audit =>
    obtain ⟨_, _, rfl⟩ := h
    obtain ⟨_, _, heq⟩ := h'
    exact auditText_injective heq
  | violation =>
    obtain ⟨_, rfl⟩ := h
    obtain ⟨_, heq⟩ := h'
    exact violationText_injective heq

end RecordKind

/-! ### What calls give out -/

/-- An identity that is given out. -/
structure Identity where
  kind : RecordKind
  id : String
deriving DecidableEq, Repr

/-- The text of an identity that is given out. -/
structure Issue where
  kind : RecordKind
  text : String
deriving DecidableEq, Repr

/-- The identity is the digest of the text. -/
def Issue.identity (issue : Issue) : Identity where
  kind := issue.kind
  id := Sha256.hex issue.text

namespace StoreCall

open Store

/-- The identity that the answer to a call gives out: that of the repository that is recorded, of the
audit that is opened or of the violation that is recorded. -/
def identity? : (c : StoreCall) → Except StoreError c.Result → Option Identity
  | upsertRepository .., .ok repository => some ⟨.repository, repository.id⟩
  | createAudit _, .ok audit => some ⟨.audit, audit.id⟩
  | logViolation _, .ok violation => some ⟨.violation, violation.id⟩
  | _, _ => none

/-- The text of the identity that a call gives out, which for audits and violations depends on the
number that the store has counted up to. -/
def issue? : (c : StoreCall) → Except StoreError c.Result → Store → Option Issue
  | upsertRepository owner name _, .ok _, _ => some ⟨.repository, repositoryText owner name⟩
  | createAudit _, .ok audit, s =>
    some ⟨.audit, auditText audit.repositoryId audit.startedAt s.sequence⟩
  | logViolation _, .ok violation, s =>
    some ⟨.violation, violationText violation.auditId s.sequence⟩
  | _, _, _ => none

variable {now : Instant} {c : StoreCall} {s s' : Store} {answer : Except StoreError c.Result}

/-- The identity that a call gives out is the digest of its text. -/
theorem identity?_eq (h : runOn (c.op now) s = (answer, s')) :
    c.identity? answer = (c.issue? answer s').map Issue.identity := by
  rcases answer with e | a
  · cases c <;> rfl
  cases c with
  | upsertRepository owner name url =>
    obtain ⟨-, rfl, -⟩ := upsertRepository_ok_iff.1 h
    have hid : (s.nextRepository now owner name url).id = Sha256.hex (repositoryText owner name) :=
      id_nextRepository owner name url
    exact congrArg (fun id => some (Identity.mk .repository id)) hid
  | createAudit repositoryId =>
    obtain ⟨-, -, rfl, rfl⟩ := createAudit_ok_iff.1 h
    exact congrArg (fun id => some (Identity.mk .audit id)) (id_nextAudit s now repositoryId)
  | logViolation v =>
    obtain ⟨-, -, rfl, rfl⟩ := logViolation_ok_iff.1 h
    exact congrArg (fun id => some (Identity.mk .violation id)) (id_nextViolation s now v)
  | repository? | audit? | listAudits | listViolations | completeAudit | failAudit
  | deleteAudit => rfl

/-- A text that is given out is of its kind and has the next number, and unless it is that of a
repository the counter is then there. -/
theorem issue?_hasText (h : runOn (c.op now) s = (answer, s')) {issue : Issue}
    (hissue : c.issue? answer s' = some issue) :
    issue.kind.HasText s.nextNumber issue.text ∧
      (issue.kind ≠ .repository → s'.sequence = s.nextNumber) := by
  rcases answer with e | a
  · cases c <;> cases hissue
  cases c with
  | upsertRepository owner name url =>
    obtain ⟨⟨howner, hname, -⟩, -, -⟩ := upsertRepository_ok_iff.1 h
    obtain rfl := Option.some.inj hissue
    exact ⟨⟨owner, name, ⟨howner, hname⟩, rfl⟩, fun hne => absurd rfl hne⟩
  | createAudit repositoryId =>
    obtain ⟨-, -, rfl, rfl⟩ := createAudit_ok_iff.1 h
    obtain rfl := Option.some.inj hissue
    exact ⟨⟨repositoryId, now, rfl⟩, fun _ => rfl⟩
  | logViolation v =>
    obtain ⟨-, -, rfl, rfl⟩ := logViolation_ok_iff.1 h
    obtain rfl := Option.some.inj hissue
    exact ⟨⟨v.auditId, rfl⟩, fun _ => rfl⟩
  | repository? | audit? | listAudits | listViolations | completeAudit | failAudit
  | deleteAudit => cases hissue

end StoreCall

/-- The identity that an exchange gives out. -/
def Exchange.identity? : Exchange → Option Identity
  | ⟨.store c, answer⟩ => c.identity? answer
  | _ => none

namespace Store

/-- What a store goes through, the calls with their answers, and the texts of the identities that
they give out, in their order. A call is made at any time, it may come to nothing because its change
cannot be saved, and between the calls the store may be dropped and read back from its document. -/
inductive Passage : Store → List Exchange → List Issue → Store → Prop
  | done (s : Store) : Passage s [] [] s
  | call {s next s' : Store} {record : List Exchange} {issued : List Issue} {c : TimedCall}
    {answer : Except StoreError c.call.Result} :
    c.Fits → runOn c.op s = (answer, next) → Passage next record issued s' →
    Passage s (⟨.store c.call, answer⟩ :: record) ((c.call.issue? answer next).toList ++ issued) s'
  | unsaved {s s' : Store} {record : List Exchange} {issued : List Issue} (c : StoreCall)
    (e : StoreError) :
    Passage s record issued s' → Passage s (⟨.store c, .error e⟩ :: record) issued s'
  | reload {s read s' : Store} {record : List Exchange} {issued : List Issue} :
    Store.parse? s.render = some read → Passage read record issued s' →
    Passage s record issued s'

/-- The texts are of numbers beyond the first, and those of audits and violations are not given out
twice. -/
structure Fresh (first : Nat) (issued : List Issue) : Prop where
  numbered : ∀ issue ∈ issued, ∃ number, first < number ∧ issue.kind.HasText number issue.text
  apart : issued.Pairwise fun issue later =>
    issue.text = later.text → issue.kind = .repository ∧ later.kind = .repository

variable {s s' : Store} {record : List Exchange} {issued : List Issue}

/-- Texts beyond a number are beyond a smaller one. -/
theorem Fresh.mono {first second : Nat} (h : Fresh second issued) (hle : first ≤ second) :
    Fresh first issued where
  numbered issue hissue := by
    obtain ⟨number, hlt, htext⟩ := h.numbered issue hissue
    exact ⟨number, by omega, htext⟩
  apart := h.apart

/-- A text that a call gives out is fresh before those that are given out after it. -/
theorem Fresh.cons {first second number : Nat} {issue : Issue} (h : Fresh second issued)
    (hle : first ≤ second) (hfirst : first < number)
    (htext : issue.kind.HasText number issue.text)
    (hsecond : issue.kind ≠ .repository → number ≤ second) : Fresh first (issue :: issued) where
  numbered := by
    rintro later hlater
    rcases List.mem_cons.1 hlater with rfl | hlater
    · exact ⟨number, hfirst, htext⟩
    · exact (h.mono hle).numbered later hlater
  apart := by
    refine List.pairwise_cons.2 ⟨fun later hlater heq => ?_, h.apart⟩
    obtain ⟨number', hlt, htext'⟩ := h.numbered later hlater
    rw [← heq] at htext'
    have hkind : issue.kind = later.kind := RecordKind.eq_of_text htext htext'
    by_cases hrepository : issue.kind = .repository
    · exact ⟨hrepository, hkind ▸ hrepository⟩
    · -- An audit or a violation has the number that the counter had then, and later ones have more.
      rw [← hkind] at htext'
      have hnumber := RecordKind.number_eq_of_text hrepository htext htext'
      have hle := hsecond hrepository
      omega

/-- As long as the counter does not come round, what a store gives out is fresh. -/
theorem Passage.fresh (h : Passage s record issued s') (hs : s.Storable)
    (hroom : s.sequence + record.length < Decimal.wordCount) : Fresh s.sequence issued := by
  induction h with
  | done s => exact ⟨List.forall_mem_nil _, List.Pairwise.nil⟩
  | @call s next s' record issued c answer hfits hrun _ ih =>
    rw [List.length_cons] at hroom
    have hnext : next = (runOn c.op s).2 := by rw [hrun]
    have hsequence : s.sequence ≤ next.sequence ∧ next.sequence ≤ s.sequence + 1 := by
      rw [hnext]
      exact (effect_runOn s c).sequence_le (by omega)
    have hrest : Fresh next.sequence issued := ih (hnext ▸ hs.runOn hfits) (by omega)
    cases hissue : c.call.issue? answer next with
    | none => exact hrest.mono hsequence.1
    | some issue =>
      obtain ⟨htext, hcounter⟩ := StoreCall.issue?_hasText hrun hissue
      have hnext : s.nextNumber = s.sequence + 1 := Nat.mod_eq_of_lt (by omega)
      exact hrest.cons hsequence.1 (by omega) htext fun hkind => (hcounter hkind).ge
  | unsaved c e _ ih =>
    rw [List.length_cons] at hroom
    exact ih hs (by omega)
  | reload hread _ ih =>
    -- The document of a store that the program can have is read as the store itself.
    rw [parse?_render hs] at hread
    obtain rfl := Option.some.inj hread
    exact ih hs hroom

/-- The identities that a store gives out are the digests of the texts. -/
theorem Passage.identities (h : Passage s record issued s') :
    record.filterMap Exchange.identity? = issued.map Issue.identity := by
  induction h with
  | done s => rfl
  | @call s next s' record issued c answer _ hrun _ ih =>
    have hidentity : Exchange.identity? ⟨.store c.call, answer⟩ =
        (c.call.issue? answer next).map Issue.identity := StoreCall.identity?_eq hrun
    rw [List.filterMap_cons, hidentity, List.map_append, ← ih]
    cases c.call.issue? answer next <;> rfl
  | unsaved c e _ ih =>
    have hnone : Exchange.identity? ⟨.store c, .error e⟩ = none := by cases c <;> rfl
    rw [List.filterMap_cons_none hnone, ih]
  | reload _ _ ih => exact ih

/-- Identities do not clash. Whatever a store that was empty goes through in fewer than 2^64 calls, at
whatever times, if SHA-256 tells apart the texts that it was applied to, then two identities that were
given out one after the other are equal only if both are those of repositories. And if it tells the
two texts apart, two repositories whose names are accepted have one identity exactly if their owners
and their names agree up to the case of ASCII letters. -/
theorem identities_apart (h : Passage {} record issued s)
    (hroom : record.length < Decimal.wordCount)
    (hsha : Set.InjOn Sha256.hex {text | ∃ issue ∈ issued, issue.text = text}) :
    ((record.filterMap Exchange.identity?).Pairwise fun identity later =>
      identity.id = later.id → identity.kind = .repository ∧ later.kind = .repository) ∧
    ∀ owner name owner' name', Validation.Names owner name → Validation.Names owner' name' →
      Set.InjOn Sha256.hex {repositoryText owner name, repositoryText owner' name'} →
      (repositoryId owner name = repositoryId owner' name' ↔
        Text.eqIgnoringAsciiCase owner.toList owner'.toList = true ∧
          Text.eqIgnoringAsciiCase name.toList name'.toList = true) := by
  constructor
  · have hfresh : Fresh 0 issued := h.fresh storable_empty (by simpa using hroom)
    rw [h.identities, List.pairwise_map]
    refine hfresh.apart.imp_of_mem fun {issue later} hissue hlater hapart hid => ?_
    exact hapart (hsha ⟨issue, hissue, rfl⟩ ⟨later, hlater, rfl⟩ hid)
  · intro owner name owner' name' hnames hnames' hinj
    have htexts : repositoryId owner name = repositoryId owner' name' ↔
        repositoryText owner name = repositoryText owner' name' :=
      hinj.eq_iff (.inl rfl) (.inr rfl)
    rw [htexts, repositoryText_eq_iff hnames hnames']

section Restarted

/-- The identity of the repository `acme/tool`. -/
def toolId : String :=
  repositoryId "acme" "tool"

/-- The call that records the repository. -/
def recordTool : TimedCall :=
  ⟨⟨0, 2, 0⟩, .upsertRepository "acme" "tool" "https://github.com/acme/tool"⟩

/-- The store with the repository. -/
def withTool : Store :=
  ({} : Store).afterUpsert ⟨0, 2, 0⟩ "acme" "tool" "https://github.com/acme/tool"

/-- The call that opens an audit of it, at a time before that. -/
def openTool : TimedCall :=
  ⟨⟨0, 1, 0⟩, .createAudit toolId⟩

/-- The identity of the first audit. -/
def firstId : String :=
  (withTool.nextAudit ⟨0, 1, 0⟩ toolId).id

/-- The call that drops the first audit. -/
def dropFirst : TimedCall :=
  ⟨⟨0, 1, 0⟩, .deleteAudit firstId⟩

/-- A store goes through this: the repository is recorded, an audit is opened, the store is read
back, the audit is dropped and another one is opened. The digests of the texts differ. -/
theorem exists_passage_restarted : ∃ record issued s, Passage {} record issued s ∧
    record.length = 4 ∧
    (record.filterMap Exchange.identity?).map Identity.kind = [.repository, .audit, .audit] ∧
    (issued.map fun issue => Sha256.hex issue.text).Nodup := by
  have hrecordFits : recordTool.Fits := ⟨by decide, trivial⟩
  have hopenFits : openTool.Fits := ⟨by decide, trivial⟩
  have hdropFits : dropFirst.Fits := ⟨by decide, trivial⟩
  have hid : ∀ field, Validation.id field toolId = .ok () := fun _ => Validation.id_deriveId _ _
  have hfirst : Validation.id "audit_id" firstId = .ok () := Validation.id_deriveId _ _
  have hknown : (withTool.repository? toolId).isSome := by
    rw [withTool, toolId, repository?_afterUpsert]
    rfl
  have hrecord : runOn recordTool.op {} = (.ok _, withTool) :=
    upsertRepository_ok_iff.2 ⟨by decide +kernel, rfl, rfl⟩
  have hopen : runOn openTool.op withTool = (.ok _, withTool.afterCreate ⟨0, 1, 0⟩ toolId) :=
    createAudit_ok_iff.2 ⟨hid _, hknown, rfl, rfl⟩
  have hstorable : (withTool.afterCreate ⟨0, 1, 0⟩ toolId).Storable :=
    (storable_empty.afterUpsert (by decide) _ _ _).afterCreate (by decide) _
  have hfound : ((withTool.afterCreate ⟨0, 1, 0⟩ toolId).audit? firstId).isSome := by
    rw [firstId, audit?_afterCreate_of_unused ⟨rfl, rfl⟩]
    rfl
  have hdrop : runOn dropFirst.op (withTool.afterCreate ⟨0, 1, 0⟩ toolId) = (.ok true, _) :=
    deleteAudit_ok_iff.2 ⟨hfirst, hfound.symm, (if_pos hfound).symm⟩
  have hstill : (((withTool.afterCreate ⟨0, 1, 0⟩ toolId).afterDelete firstId).repository?
      toolId).isSome := by
    rw [repository?_afterDelete, repository?_afterCreate]
    exact hknown
  have hagain : runOn openTool.op ((withTool.afterCreate ⟨0, 1, 0⟩ toolId).afterDelete firstId) =
      (.ok _, _) :=
    createAudit_ok_iff.2 ⟨hid _, hstill, rfl, rfl⟩
  have hpassage := Passage.call hrecordFits hrecord (.call hopenFits hopen
    (.reload (parse?_render hstorable) (.call hdropFits hdrop (.call hopenFits hagain (.done _)))))
  exact ⟨_, _, _, hpassage, rfl, rfl, by decide +kernel⟩

/-- An audit is opened, the store is read back, the audit is dropped and another one is opened at the
same time: the three identities that are given out are different ones. -/
theorem identities_apart_restarted :
    ∃ record issued s, Passage {} record issued s ∧ record.length = 4 ∧
      Set.InjOn Sha256.hex {text | ∃ issue ∈ issued, issue.text = text} ∧
      (record.filterMap Exchange.identity?).map Identity.kind = [.repository, .audit, .audit] ∧
      ((record.filterMap Exchange.identity?).Pairwise fun identity later =>
        identity.id = later.id → identity.kind = .repository ∧ later.kind = .repository) ∧
      repositoryId "Acme" "tool" = repositoryId "acme" "Tool" := by
  obtain ⟨record, issued, last, hpassage, hlength, hkinds, hdigests⟩ := exists_passage_restarted
  have hsha : Set.InjOn Sha256.hex {text | ∃ issue ∈ issued, issue.text = text} := by
    rintro _ ⟨issue, hissue, rfl⟩ _ ⟨issue', hissue', rfl⟩ heq
    rw [List.inj_on_of_nodup_map hdigests hissue hissue' heq]
  have hroom : record.length < Decimal.wordCount := by
    rw [hlength]
    decide
  obtain ⟨hapart, hnames⟩ := identities_apart hpassage hroom hsha
  -- The two names have one text.
  have htext : repositoryText "Acme" "tool" = repositoryText "acme" "Tool" := by decide +kernel
  have hone : Set.InjOn Sha256.hex {repositoryText "Acme" "tool", repositoryText "acme" "Tool"} := by
    rw [htext, Set.pair_eq_singleton]
    exact Set.injOn_singleton _ _
  have htool : repositoryId "Acme" "tool" = repositoryId "acme" "Tool" :=
    (hnames "Acme" "tool" "acme" "Tool" (by decide +kernel) (by decide +kernel) hone).2
      (by decide +kernel)
  exact ⟨record, issued, last, hpassage, hlength, hsha, hkinds, hapart, htool⟩

end Restarted

end Store

end SourceAudit
