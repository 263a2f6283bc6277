import SourceAudit.Store.Basic

/-!
# What the operations on a store do

Each operation checks before it changes anything: one that fails leaves the store as it is, and for
one that succeeds there is a lemma `…_ok_iff` with all that it has checked, its result and the store
after it. The operations are also described by what the store has under an identity after each of
them, in terms of what it had before.
-/

namespace SourceAudit.Store

/-- What an operation comes to on a store: its result and the store after it. -/
def runOn {α : Type} (op : StoreM α) (s : Store) : Except StoreError α × Store :=
  op.run.run s

/-- The number that tells the next new identity apart. -/
def nextNumber (s : Store) : Nat :=
  (s.sequence + 1) % Decimal.wordCount

/-- The audit that is opened at a time. -/
def nextAudit (s : Store) (now : Instant) (repositoryId : String) : Audit where
  id := deriveId ["audit", repositoryId, now.sinceEpoch.repr, s.nextNumber.repr]
  repositoryId := repositoryId
  startedAt := now

/-- The violation that is recorded at a time. -/
def nextViolation (s : Store) (now : Instant) (v : NewViolation) : Violation :=
  { v with id := deriveId ["violation", v.auditId, s.nextNumber.repr], createdAt := now }

/-- The record of a repository at a time: a new one, or the known one refreshed. -/
def nextRepository (s : Store) (now : Instant) (owner name url : String) : Repository :=
  match s.repository? (repositoryId owner name) with
  | some known => { known with url, lastSyncedAt := now }
  | none =>
    { id := repositoryId owner name, owner, name, url, createdAt := now, lastSyncedAt := now }

/-- The store after a repository was recorded. -/
def afterUpsert (s : Store) (now : Instant) (owner name url : String) : Store :=
  { s with
    repositories :=
      if (s.repository? (repositoryId owner name)).isSome then
        modifyFirst (·.id == repositoryId owner name) (fun _ => s.nextRepository now owner name url)
          s.repositories
      else s.repositories ++ [s.nextRepository now owner name url] }

/-- The store after an audit was opened. -/
def afterCreate (s : Store) (now : Instant) (repositoryId : String) : Store :=
  { s with audits := s.audits ++ [s.nextAudit now repositoryId], sequence := s.nextNumber }

/-- The store after a violation was recorded. -/
def afterLog (s : Store) (now : Instant) (v : NewViolation) : Store :=
  { s with violations := s.violations ++ [s.nextViolation now v], sequence := s.nextNumber }

/-- The store after an audit was replaced. -/
def afterSettle (s : Store) (id : String) (settled : Audit) : Store :=
  { s with audits := modifyFirst (·.id == id) (fun _ => settled) s.audits }

/-- The store after an audit was dropped with its violations. -/
def afterDelete (s : Store) (id : String) : Store :=
  { s with
    audits := s.audits.filter (·.id != id)
    violations := s.violations.filter (·.auditId != id) }

/-- An audit that was completed at a time with its counts. -/
def completedAudit (now : Instant) (totalFiles violationCount compliantFiles : Nat) (a : Audit) :
    Audit :=
  { a with status := .completed, totalFiles, violationCount, compliantFiles,
           completedAt := some now }

/-- An audit that was failed at a time for a reason. -/
def failedAudit (now : Instant) (reason : String) (a : Audit) : Audit :=
  { a with status := .failed, failureReason := some reason, completedAt := some now }

@[simp] theorem id_completedAudit (now : Instant) (total violations compliant : Nat) (a : Audit) :
    (completedAudit now total violations compliant a).id = a.id := rfl

@[simp] theorem id_failedAudit (now : Instant) (reason : String) (a : Audit) :
    (failedAudit now reason a).id = a.id := rfl

variable {s s' : Store} {now : Instant} {id : String} {a : Audit}

/-- A check that is passed changes nothing, and one that fails ends the operation. -/
theorem run_check_bind {α : Type} (c : Except ValidationError Unit) (next : Unit → StoreM α)
    (s : Store) :
    runOn (check c >>= next) s = match c with
      | .error e => (.error (.invalid e), s)
      | .ok () => runOn (next ()) s := by
  cases c <;> rfl

/-- To read the store changes nothing. -/
theorem run_get_bind {α : Type} (next : Store → StoreM α) (s : Store) :
    runOn (get >>= next) s = runOn (next s) s := rfl

/-- The audit with an identity, as long as it is pending. -/
def pending (s : Store) (id : String) : Except StoreError Audit :=
  match s.audit? id with
  | none => .error (.notFound "audit" id)
  | some audit =>
    if audit.status = .pending then .ok audit else .error (.notPending audit.id audit.status)

/-- To look up a pending audit leaves the store as it is. -/
theorem run_pendingAudit_bind {α : Type} (id : String) (next : Audit → StoreM α) (s : Store) :
    runOn (pendingAudit id >>= next) s = match s.pending id with
      | .error e => (.error e, s)
      | .ok audit => runOn (next audit) s := by
  rw [pendingAudit, bind_assoc, run_get_bind, pending]
  cases s.audit? id with
  | none => rfl
  | some audit =>
    by_cases h : audit.status = .pending
    · simp only [if_pos h, pure_bind]
    · simp only [if_neg h]
      rfl

/-- An audit is pending if the store has it so. -/
theorem pending_ok_iff : s.pending id = .ok a ↔ s.audit? id = some a ∧ a.status = .pending := by
  rw [pending]
  cases s.audit? id with
  | none => simp
  | some audit =>
    by_cases h : audit.status = .pending
    · simp only [if_pos h, Except.ok.injEq, Option.some.injEq]
      exact ⟨fun e => ⟨e, e ▸ h⟩, And.left⟩
    · simp only [if_neg h, reduceCtorEq, Option.some.injEq, false_iff]
      rintro ⟨rfl, h'⟩
      exact h h'

theorem run_createAudit (now : Instant) (repositoryId : String) (s : Store) :
    runOn (createAudit now repositoryId) s =
      match Validation.id "repository_id" repositoryId with
      | .error e => (.error (.invalid e), s)
      | .ok () =>
        if (s.repository? repositoryId).isNone then (.error (.notFound "repository" repositoryId), s)
        else (.ok (s.nextAudit now repositoryId), s.afterCreate now repositoryId) := by
  rw [createAudit, run_check_bind]
  cases Validation.id "repository_id" repositoryId with
  | error e => rfl
  | ok u =>
    simp only [run_get_bind]
    by_cases h : (s.repository? repositoryId).isNone
    · simp only [if_pos h]
      rfl
    · simp only [if_neg h]
      rfl

theorem run_logViolation (now : Instant) (v : NewViolation) (s : Store) :
    runOn (logViolation now v) s =
      match Validation.newViolation v with
      | .error e => (.error (.invalid e), s)
      | .ok () =>
        match s.pending v.auditId with
        | .error e => (.error e, s)
        | .ok audit =>
          if audit.repositoryId ≠ v.repositoryId then
            (.error (.notFound "repository" v.repositoryId), s)
          else (.ok (s.nextViolation now v), s.afterLog now v) := by
  rw [logViolation, run_check_bind]
  cases Validation.newViolation v with
  | error e => rfl
  | ok u =>
    simp only [run_pendingAudit_bind]
    cases s.pending v.auditId with
    | error e => rfl
    | ok audit =>
      by_cases h : audit.repositoryId ≠ v.repositoryId
      · simp only [if_pos h]
        rfl
      · simp only [if_neg h]
        rfl

theorem run_settle (id : String) (change : Audit → Audit) (s : Store) :
    runOn (settle id change) s =
      match s.pending id with
      | .error e => (.error e, s)
      | .ok audit => (.ok (change audit), s.afterSettle id (change audit)) := by
  rw [settle, run_pendingAudit_bind]
  cases s.pending id <;> rfl

theorem run_upsertRepository (now : Instant) (owner name url : String) (s : Store) :
    runOn (upsertRepository now owner name url) s =
      match Validation.name "owner" owner, Validation.name "name" name, Validation.url url with
      | .error e, _, _ => (.error (.invalid e), s)
      | .ok (), .error e, _ => (.error (.invalid e), s)
      | .ok (), .ok (), .error e => (.error (.invalid e), s)
      | .ok (), .ok (), .ok () =>
        (.ok (s.nextRepository now owner name url), s.afterUpsert now owner name url) := by
  rw [upsertRepository, run_check_bind]
  cases Validation.name "owner" owner with
  | error e => rfl
  | ok u =>
    simp only [run_check_bind]
    cases Validation.name "name" name with
    | error e => rfl
    | ok u =>
      cases Validation.url url with
      | error e => rfl
      | ok u =>
        simp only [run_get_bind, afterUpsert, nextRepository]
        cases h : s.repository? (repositoryId owner name) with
        | none => rfl
        | some known => rfl

theorem run_completeAudit (now : Instant) (id : String) (total violations compliant : Nat)
    (s : Store) :
    runOn (completeAudit now id total violations compliant) s =
      match Validation.id "audit_id" id, s.pending id with
      | .error e, _ => (.error (.invalid e), s)
      | .ok (), .error e => (.error e, s)
      | .ok (), .ok audit =>
        (.ok (completedAudit now total violations compliant audit),
          s.afterSettle id (completedAudit now total violations compliant audit)) := by
  rw [completeAudit, run_check_bind]
  cases Validation.id "audit_id" id with
  | error e => rfl
  | ok u =>
    simp only [run_settle]
    cases s.pending id <;> rfl

theorem run_failAudit (now : Instant) (id reason : String) (s : Store) :
    runOn (failAudit now id reason) s =
      match Validation.id "audit_id" id, Validation.description "failure_reason" reason,
        s.pending id with
      | .error e, _, _ => (.error (.invalid e), s)
      | .ok (), .error e, _ => (.error (.invalid e), s)
      | .ok (), .ok (), .error e => (.error e, s)
      | .ok (), .ok (), .ok audit =>
        (.ok (failedAudit now reason audit), s.afterSettle id (failedAudit now reason audit)) := by
  rw [failAudit, run_check_bind]
  cases Validation.id "audit_id" id with
  | error e => rfl
  | ok u =>
    simp only [run_check_bind]
    cases Validation.description "failure_reason" reason with
    | error e => rfl
    | ok u =>
      simp only [run_settle]
      cases s.pending id <;> rfl

theorem run_deleteAudit (id : String) (s : Store) :
    runOn (deleteAudit id) s =
      match Validation.id "audit_id" id with
      | .error e => (.error (.invalid e), s)
      | .ok () => if (s.audit? id).isNone then (.ok false, s) else (.ok true, s.afterDelete id) := by
  rw [deleteAudit, run_check_bind]
  cases Validation.id "audit_id" id with
  | error e => rfl
  | ok u =>
    simp only [run_get_bind]
    by_cases h : (s.audit? id).isNone
    · simp only [if_pos h]
      rfl
    · simp only [if_neg h]
      rfl

/-- An operation that records a repository succeeds if its fields are fit to be recorded. -/
theorem upsertRepository_ok_iff {owner name url : String} {r : Repository} :
    runOn (upsertRepository now owner name url) s = (.ok r, s') ↔
      (Validation.name "owner" owner = .ok () ∧ Validation.name "name" name = .ok () ∧
        Validation.url url = .ok ()) ∧
        r = s.nextRepository now owner name url ∧ s' = s.afterUpsert now owner name url := by
  rw [run_upsertRepository]
  rcases Validation.name "owner" owner with e | u <;>
    rcases Validation.name "name" name with e | u <;> rcases Validation.url url with e | u <;>
    simp [@eq_comm _ r, @eq_comm _ s']

/-- An audit is opened if the store has the repository. -/
theorem createAudit_ok_iff {repositoryId : String} :
    runOn (createAudit now repositoryId) s = (.ok a, s') ↔
      Validation.id "repository_id" repositoryId = .ok () ∧
        (s.repository? repositoryId).isSome ∧
        a = s.nextAudit now repositoryId ∧ s' = s.afterCreate now repositoryId := by
  rw [run_createAudit]
  rcases Validation.id "repository_id" repositoryId with e | u
  · simp
  · cases s.repository? repositoryId <;> simp [@eq_comm _ a, @eq_comm _ s']

/-- A violation is recorded if it is fit to be and its audit is a pending one of its repository. -/
theorem logViolation_ok_iff {v : NewViolation} {recorded : Violation} :
    runOn (logViolation now v) s = (.ok recorded, s') ↔
      Validation.newViolation v = .ok () ∧
        (∃ audit, s.audit? v.auditId = some audit ∧ audit.status = .pending ∧
          audit.repositoryId = v.repositoryId) ∧
        recorded = s.nextViolation now v ∧ s' = s.afterLog now v := by
  rw [run_logViolation]
  rcases Validation.newViolation v with e | u
  · simp
  · rcases h : s.pending v.auditId with e | audit
    · have hnone : ¬ ∃ audit, s.audit? v.auditId = some audit ∧ audit.status = .pending ∧
          audit.repositoryId = v.repositoryId := by
        rintro ⟨audit, hfound, hpending, -⟩
        rw [pending_ok_iff.2 ⟨hfound, hpending⟩] at h
        cases h
      simp [hnone]
    · obtain ⟨hfound, hpending⟩ := pending_ok_iff.1 h
      by_cases hr : audit.repositoryId = v.repositoryId
      · simp [hfound, hpending, hr, @eq_comm _ recorded, @eq_comm _ s']
      · simp [hfound, hr]

/-- An audit is settled if it is pending. -/
theorem settle_ok_iff {change : Audit → Audit} :
    runOn (settle id change) s = (.ok a, s') ↔
      ∃ audit, s.audit? id = some audit ∧ audit.status = .pending ∧ a = change audit ∧
        s' = s.afterSettle id a := by
  rw [run_settle]
  rcases h : s.pending id with e | audit
  · refine iff_of_false (by simp) ?_
    rintro ⟨audit, hfound, hpending, -⟩
    rw [pending_ok_iff.2 ⟨hfound, hpending⟩] at h
    cases h
  · obtain ⟨hfound, hpending⟩ := pending_ok_iff.1 h
    constructor
    · rintro ⟨⟩
      exact ⟨audit, hfound, hpending, rfl, rfl⟩
    · rintro ⟨audit', hfound', -, rfl, rfl⟩
      rw [hfound] at hfound'
      obtain rfl := Option.some.inj hfound'
      rfl

/-- An audit is completed if it is pending. -/
theorem completeAudit_ok_iff {total violations compliant : Nat} :
    runOn (completeAudit now id total violations compliant) s = (.ok a, s') ↔
      Validation.id "audit_id" id = .ok () ∧
        ∃ audit, s.audit? id = some audit ∧ audit.status = .pending ∧
          a = completedAudit now total violations compliant audit ∧ s' = s.afterSettle id a := by
  rw [completeAudit, run_check_bind]
  rcases Validation.id "audit_id" id with e | u
  · simp
  · exact settle_ok_iff.trans (and_iff_right rfl).symm

/-- An audit is failed if it is pending and the reason is fit to be recorded. -/
theorem failAudit_ok_iff {reason : String} :
    runOn (failAudit now id reason) s = (.ok a, s') ↔
      Validation.id "audit_id" id = .ok () ∧
        Validation.description "failure_reason" reason = .ok () ∧
        ∃ audit, s.audit? id = some audit ∧ audit.status = .pending ∧
          a = failedAudit now reason audit ∧ s' = s.afterSettle id a := by
  rw [failAudit, run_check_bind]
  rcases Validation.id "audit_id" id with e | u
  · simp
  dsimp only
  rw [run_check_bind]
  rcases Validation.description "failure_reason" reason with e | u
  · simp
  · exact settle_ok_iff.trans ⟨fun h => ⟨rfl, rfl, h⟩, fun h => h.2.2⟩

/-- To drop an audit succeeds for every well-formed identity. -/
theorem deleteAudit_ok_iff {dropped : Bool} :
    runOn (deleteAudit id) s = (.ok dropped, s') ↔
      Validation.id "audit_id" id = .ok () ∧ dropped = (s.audit? id).isSome ∧
        s' = if (s.audit? id).isSome then s.afterDelete id else s := by
  rw [run_deleteAudit]
  rcases Validation.id "audit_id" id with e | u
  · simp
  · by_cases h : (s.audit? id).isNone
    · have hsome : (s.audit? id).isSome = false := by simpa using h
      rw [if_pos h, hsome, if_neg Bool.false_ne_true]
      constructor
      · rintro ⟨⟩
        exact ⟨rfl, rfl, rfl⟩
      · rintro ⟨-, rfl, rfl⟩
        rfl
    · have hsome : (s.audit? id).isSome = true := by simpa [Option.isSome_iff_ne_none] using h
      rw [if_neg h, hsome, if_pos rfl]
      constructor
      · rintro ⟨⟩
        exact ⟨rfl, rfl, rfl⟩
      · rintro ⟨-, rfl, rfl⟩
        rfl

end SourceAudit.Store

/-! ## Looking up after an operation -/

namespace SourceAudit.Store

section ModifyFirst

variable {α : Type} {p q : α → Bool} {f : α → α}

/-- The first member that satisfies `p` is the one that is changed. -/
theorem find?_modifyFirst (l : List α) (hf : ∀ a, p a = true → p (f a) = true) :
    (modifyFirst p f l).find? p = (l.find? p).map f := by
  induction l with
  | nil => rfl
  | cons a rest ih =>
    rw [modifyFirst]
    by_cases h : p a = true
    · rw [if_pos h, List.find?_cons_of_pos (hf a h), List.find?_cons_of_pos h]
      rfl
    · rw [if_neg h, List.find?_cons_of_neg h, List.find?_cons_of_neg h, ih]

/-- A search that passes over the member before and after the change comes to the same. -/
theorem find?_modifyFirst_of_disjoint (l : List α) (hp : ∀ a, p a = true → q a = false)
    (hf : ∀ a, p a = true → q (f a) = false) : (modifyFirst p f l).find? q = l.find? q := by
  induction l with
  | nil => rfl
  | cons a rest ih =>
    rw [modifyFirst]
    by_cases h : p a = true
    · rw [if_pos h, List.find?_cons_of_neg (by simp [hf a h]),
        List.find?_cons_of_neg (by simp [hp a h])]
    · rw [if_neg h, List.find?_cons, List.find?_cons, ih]

end ModifyFirst

variable {s : Store} {now : Instant} {id id' repositoryId : String} {a settled : Audit}

/-- An audit is found under its own identity. -/
theorem id_of_audit? (h : s.audit? id = some a) : a.id = id := by
  simpa using List.find?_some h

/-- A repository is found under its own identity. -/
theorem id_of_repository? {r : Repository} (h : s.repository? id = some r) : r.id = id := by
  simpa using List.find?_some h

/-- To open an audit leaves the repositories as they are. -/
@[simp] theorem repository?_afterCreate :
    (s.afterCreate now repositoryId).repository? id = s.repository? id := rfl

/-- To drop an audit leaves the repositories as they are. -/
@[simp] theorem repository?_afterDelete : (s.afterDelete id').repository? id = s.repository? id := rfl

/-- Audits that were there before are found before the new one. -/
theorem audit?_afterCreate : (s.afterCreate now repositoryId).audit? id =
    (s.audit? id).or
      (if (s.nextAudit now repositoryId).id = id then some (s.nextAudit now repositoryId)
        else none) := by
  simp only [audit?, afterCreate, List.find?_append, List.find?_singleton, beq_iff_eq]

/-- The store has nothing under an identity. A new identity is such a one as far as SHA-256 tells the
texts of identities apart and the counter of the store does not come round. -/
def Unused (s : Store) (id : String) : Prop :=
  s.audit? id = none ∧ s.violationsOf id = []

/-- The audit that was opened under an unused identity is found under it. -/
theorem audit?_afterCreate_of_unused (h : s.Unused (s.nextAudit now repositoryId).id) :
    (s.afterCreate now repositoryId).audit? (s.nextAudit now repositoryId).id =
      some (s.nextAudit now repositoryId) := by
  rw [audit?_afterCreate, h.1, if_pos rfl, Option.none_or]

/-- An audit that is replaced is found as what it is replaced by. -/
theorem audit?_afterSettle (h : s.audit? id = some a) (hid : settled.id = id) :
    (s.afterSettle id settled).audit? id = some settled := by
  rw [audit?, afterSettle, find?_modifyFirst _ (by simp [hid])]
  rw [audit?] at h
  rw [h]
  rfl

/-- Other audits are found as before. -/
theorem audit?_afterSettle_of_ne (hid : settled.id = id) (hne : id' ≠ id) :
    (s.afterSettle id settled).audit? id' = s.audit? id' := by
  refine find?_modifyFirst_of_disjoint _ (fun b hb => ?_) (fun b _ => ?_)
  · obtain rfl : b.id = id := by simpa using hb
    simpa using hne.symm
  · simpa [hid] using hne.symm

/-- Other audits than the one that is dropped are found as before. -/
theorem audit?_afterDelete_of_ne (hne : id' ≠ id) :
    (s.afterDelete id).audit? id' = s.audit? id' := by
  simp only [audit?, afterDelete, List.find?_filter]
  congr 1
  funext b
  by_cases hb : b.id = id'
  · simp [hb, hne]
  · simp [hb]

/-- A violation is put at the end of those of its audit. -/
theorem violationsOf_afterLog {v : NewViolation} : (s.afterLog now v).violationsOf id =
    s.violationsOf id ++ if v.auditId = id then [s.nextViolation now v] else [] := by
  have hid : (s.nextViolation now v).auditId = v.auditId := rfl
  simp only [violationsOf, afterLog, List.filter_append, List.filter_cons, List.filter_nil, hid,
    beq_iff_eq]

/-- Violations of other audits than the one that is dropped stay. -/
theorem violationsOf_afterDelete_of_ne (hne : id' ≠ id) :
    (s.afterDelete id).violationsOf id' = s.violationsOf id' := by
  simp only [violationsOf, afterDelete, List.filter_filter]
  congr 1
  funext v
  by_cases hv : v.auditId = id'
  · simp [hv, hne]
  · simp [hv]

/-- A repository is recorded under the identity that belongs to its owner and name. -/
@[simp] theorem id_nextRepository (owner name url : String) :
    (s.nextRepository now owner name url).id = SourceAudit.repositoryId owner name := by
  unfold nextRepository
  split
  · rename_i known hknown
    have hid := id_of_repository? hknown
    exact hid
  · rfl

/-- The repository that was recorded is found. -/
theorem repository?_afterUpsert (owner name url : String) :
    (s.afterUpsert now owner name url).repository? (SourceAudit.repositoryId owner name) =
      some (s.nextRepository now owner name url) := by
  unfold afterUpsert
  cases h : s.repository? (SourceAudit.repositoryId owner name) with
  | none =>
    rw [repository?] at h
    simp [repository?, List.find?_append, h]
  | some known =>
    rw [Option.isSome_some, if_pos rfl, repository?, find?_modifyFirst _ (by simp)]
    rw [repository?] at h
    rw [h]
    rfl

/-- Other repositories are found as before. -/
theorem repository?_afterUpsert_of_ne {owner name url : String}
    (hne : SourceAudit.repositoryId owner name ≠ id) :
    (s.afterUpsert now owner name url).repository? id = s.repository? id := by
  unfold afterUpsert repository?
  split
  · refine find?_modifyFirst_of_disjoint _ (fun r hr => ?_) (fun r _ => ?_)
    · have hid : r.id = SourceAudit.repositoryId owner name := by simpa using hr
      simpa [hid] using hne
    · simpa using hne
  · simp [List.find?_append, hne]

end SourceAudit.Store
