import SourceAudit.Decimal.Bound
import SourceAudit.Files.Basic
import SourceAudit.Identity
import SourceAudit.Store.Validation

/-!
# Stores

A store holds repositories, audits in the order of their creation and violations in the order of
their recording. Every operation checks what it is given before it changes anything.
-/

/-! ## Store errors -/

namespace SourceAudit

/-- Why a store refuses or fails. -/
inductive StoreError where
  /-- A field is refused; nothing was changed. -/
  | invalid (e : ValidationError)
  /-- No record of this kind has this identity. -/
  | notFound (kind id : String)
  /-- The audit is no longer pending. -/
  | notPending (id : String) (status : AuditStatus)
  /-- The file of the store cannot be read or written. -/
  | file (path : String) (fault : FileFault)
  /-- The file of the store holds no document of a store. -/
  | malformed
deriving DecidableEq, Repr

/-- The text of an error. -/
def StoreError.message : StoreError → String
  | invalid e => "Validation failed: " ++ e.message
  | notFound kind id => kind ++ " '" ++ id ++ "' not found"
  | notPending id status => "Audit '" ++ id ++ "' is " ++ status.name ++ ", expected pending"
  | file path fault => "Failed to access store '" ++ path ++ "': " ++ fault.message
  | malformed => "Store serialization failed"

end SourceAudit

/-! ## Stores -/

namespace SourceAudit

/-- Everything that is stored. -/
structure Store where
  repositories : List Repository := []
  /-- The audits, oldest first. -/
  audits : List Audit := []
  /-- The violations, oldest first. -/
  violations : List Violation := []
  /-- The number that was last used to tell new identities apart. -/
  sequence : Nat := 0
deriving DecidableEq, Repr

/-- An operation on a store. It can change the store even if it fails. -/
abbrev StoreM := ExceptT StoreError (StateM Store)

namespace Store

/-- Refuses what fails a check. -/
def check (c : Except ValidationError Unit) : StoreM Unit :=
  match c with
  | .ok () => pure ()
  | .error e => throw (.invalid e)

/-- The repository with an identity. -/
def repository? (s : Store) (id : String) : Option Repository :=
  s.repositories.find? (·.id == id)

/-- The audit with an identity. -/
def audit? (s : Store) (id : String) : Option Audit :=
  s.audits.find? (·.id == id)

/-- The audits of a repository, newest first. -/
def auditsOf (s : Store) (repositoryId : String) : List Audit :=
  s.audits.reverse.filter (·.repositoryId == repositoryId)

/-- The violations of an audit, oldest first. -/
def violationsOf (s : Store) (auditId : String) : List Violation :=
  s.violations.filter (·.auditId == auditId)

/-- Changes the first member of a list that satisfies `p`. -/
def modifyFirst {α : Type} (p : α → Bool) (f : α → α) : List α → List α
  | [] => []
  | a :: r => if p a then f a :: r else a :: modifyFirst p f r

/-- Takes the next sequence number. The numbers have 64 bits and start again at zero. -/
def nextSequence : StoreM Nat := do
  modify fun s => { s with sequence := (s.sequence + 1) % Decimal.wordCount }
  pure (← get).sequence

/-- Records a repository, or refreshes its URL if it is known. -/
def upsertRepository (now : Instant) (owner name url : String) : StoreM Repository := do
  check (Validation.name "owner" owner)
  check (Validation.name "name" name)
  check (Validation.url url)
  let id := repositoryId owner name
  match (← get).repository? id with
  | some known =>
    let refreshed := { known with url, lastSyncedAt := now }
    modify fun s =>
      { s with repositories := modifyFirst (·.id == id) (fun _ => refreshed) s.repositories }
    pure refreshed
  | none =>
    let new : Repository := { id, owner, name, url, createdAt := now, lastSyncedAt := now }
    modify fun s => { s with repositories := s.repositories ++ [new] }
    pure new

/-- Starts an audit of a repository. -/
def createAudit (now : Instant) (repositoryId : String) : StoreM Audit := do
  check (Validation.id "repository_id" repositoryId)
  if ((← get).repository? repositoryId).isNone then
    throw (.notFound "repository" repositoryId)
  let sequence ← nextSequence
  let id := deriveId ["audit", repositoryId, now.sinceEpoch.repr, sequence.repr]
  let audit : Audit := { id, repositoryId, startedAt := now }
  modify fun s => { s with audits := s.audits ++ [audit] }
  pure audit

/-- The audit with an identity, as long as it is pending. -/
def pendingAudit (id : String) : StoreM Audit := do
  match (← get).audit? id with
  | none => throw (.notFound "audit" id)
  | some audit =>
    if audit.status = .pending then pure audit else throw (.notPending audit.id audit.status)

/-- Records a violation of a pending audit. -/
def logViolation (now : Instant) (v : NewViolation) : StoreM Violation := do
  check (Validation.newViolation v)
  let audit ← pendingAudit v.auditId
  if audit.repositoryId ≠ v.repositoryId then
    throw (.notFound "repository" v.repositoryId)
  let sequence ← nextSequence
  let recorded : Violation :=
    { v with id := deriveId ["violation", v.auditId, sequence.repr], createdAt := now }
  modify fun s => { s with violations := s.violations ++ [recorded] }
  pure recorded

/-- Replaces a pending audit. -/
def settle (id : String) (change : Audit → Audit) : StoreM Audit := do
  let settled := change (← pendingAudit id)
  modify fun s => { s with audits := modifyFirst (·.id == id) (fun _ => settled) s.audits }
  pure settled

/-- Completes a pending audit with its counts. -/
def completeAudit (now : Instant) (id : String)
    (totalFiles violationCount compliantFiles : Nat) : StoreM Audit := do
  check (Validation.id "audit_id" id)
  settle id fun a =>
    { a with status := .completed, totalFiles, violationCount, compliantFiles,
             completedAt := some now }

/-- Fails a pending audit for a reason. -/
def failAudit (now : Instant) (id reason : String) : StoreM Audit := do
  check (Validation.id "audit_id" id)
  check (Validation.description "failure_reason" reason)
  settle id fun a =>
    { a with status := .failed, failureReason := some reason, completedAt := some now }

/-- Drops an audit and its violations. Says whether there was one. -/
def deleteAudit (id : String) : StoreM Bool := do
  check (Validation.id "audit_id" id)
  if ((← get).audit? id).isNone then
    pure false
  else
    modify fun s =>
      { s with
        audits := s.audits.filter (·.id != id)
        violations := s.violations.filter (·.auditId != id) }
    pure true

end Store

end SourceAudit
