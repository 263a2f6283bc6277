import SourceAudit.Files.Basic
import SourceAudit.Store.Document

/-!
# Gateways

The operations on a store over any monad, with two stores behind them: one in memory, and one that
is also kept as a document in a file. The document is rewritten after every change: first under
another name and then moved to its place, so that a file in that place is always complete.
-/

namespace SourceAudit

/-- The operations on a store. -/
structure Gateway (m : Type → Type) where
  /-- Records a repository by owner, name and URL, or refreshes it. -/
  upsertRepository : (owner name url : String) → m (Except StoreError Repository)
  repository? : (id : String) → m (Except StoreError (Option Repository))
  /-- Starts an audit of a repository. -/
  createAudit : (repositoryId : String) → m (Except StoreError Audit)
  audit? : (id : String) → m (Except StoreError (Option Audit))
  /-- The audits of a repository, newest first. -/
  listAudits : (repositoryId : String) → m (Except StoreError (List Audit))
  logViolation : NewViolation → m (Except StoreError Violation)
  /-- The violations of an audit, oldest first. -/
  listViolations : (auditId : String) → m (Except StoreError (List Violation))
  /-- Completes an audit with its counts. -/
  completeAudit : (auditId : String) → (totalFiles violationCount compliantFiles : Nat) →
    m (Except StoreError Audit)
  /-- Fails an audit for a reason. -/
  failAudit : (auditId reason : String) → m (Except StoreError Audit)
  /-- Drops an audit. Says whether there was one. -/
  deleteAudit : (auditId : String) → m (Except StoreError Bool)

namespace Gateway

variable {m : Type → Type} [Monad m]

/-- The operations, where `change` runs what changes the store. -/
def ofChange [MonadStateOf Store m] (clock : m Instant)
    (change : {α : Type} → StoreM α → m (Except StoreError α)) : Gateway m where
  upsertRepository owner name url := do change (Store.upsertRepository (← clock) owner name url)
  repository? id := do pure (.ok ((← getThe Store).repository? id))
  createAudit repositoryId := do change (Store.createAudit (← clock) repositoryId)
  audit? id := do pure (.ok ((← getThe Store).audit? id))
  listAudits repositoryId := do pure (.ok ((← getThe Store).auditsOf repositoryId))
  logViolation v := do change (Store.logViolation (← clock) v)
  listViolations auditId := do pure (.ok ((← getThe Store).violationsOf auditId))
  completeAudit auditId total violations compliant := do
    change (Store.completeAudit (← clock) auditId total violations compliant)
  failAudit auditId reason := do change (Store.failAudit (← clock) auditId reason)
  deleteAudit auditId := change (Store.deleteAudit auditId)

/-- Runs an operation on the store in place. -/
def changeInPlace [MonadStateOf Store m] {α : Type} (op : StoreM α) : m (Except StoreError α) :=
  modifyGetThe Store fun s => op.run.run s

/-- A store in memory. -/
def inMemory [MonadStateOf Store m] (clock : m Instant) : Gateway m :=
  ofChange clock changeInPlace

end Gateway

namespace StoreFile

variable {m : Type → Type} [Monad m]

/-- The path that a new document is written to before it is moved to its place. -/
def temporaryPath (path : String) : String :=
  String.ofList (Path.withExtension path.toList "json.tmp".toList)

/-- The directory that a path is in, unless that is the working directory. -/
def directoryOf? (path : String) : Option String :=
  ((Path.parent? path.toList).filter (!·.isEmpty)).map String.ofList

/-- Writes the document of a store. -/
def save (files : Files m) (path : String) (s : Store) : m (Except FileFault Unit) := do
  let made ← match directoryOf? path with
    | some directory => files.makeDirectories directory
    | none => pure (.ok ())
  match made with
  | .error e => pure (.error e)
  | .ok () =>
    match ← files.writeText (temporaryPath path) s.render with
    | .error e => pure (.error e)
    | .ok () => files.rename (temporaryPath path) path

/-- The store whose document is in a file; without the file it is empty. -/
def load (files : Files m) (path : String) : m (Except StoreError Store) := do
  match ← files.readText path with
  | .ok document => pure (match Store.parse? document with
      | some s => .ok s
      | none => .error .malformed)
  | .error .notFound => pure (.ok {})
  | .error e => pure (.error (.file path e))

/-- Runs an operation on a copy of the store, which takes its place once its document is written. -/
def changeSaved [MonadStateOf Store m] (files : Files m) (path : String) {α : Type}
    (op : StoreM α) : m (Except StoreError α) := do
  match op.run.run (← getThe Store) with
  | (.error e, _) => pure (.error e)
  | (.ok a, next) =>
    match ← save files path next with
    | .error e => pure (.error (.file path e))
    | .ok () => do
      set next
      pure (.ok a)

/-- The store that is kept in a file. -/
def gateway [MonadStateOf Store m] (files : Files m) (path : String) (clock : m Instant) :
    Gateway m :=
  Gateway.ofChange clock (changeSaved files path)

end StoreFile

end SourceAudit
