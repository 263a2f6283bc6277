import SourceAudit.Proofs.Store.Frame
import SourceAudit.Proofs.Store.Identity

/-!
# What a store has acknowledged

The calls of a history that succeed leave a ledger: which repositories were recorded, which audits
were opened, settled and dropped, and which violations were recorded. A ledger tells by itself, with
no store at hand, which audits a repository should have (`Ledger.auditsOf`), which violations an audit
should have (`Ledger.violationsOf`) and what should be known of a repository (`Ledger.repository?`).
Each entry says what has become of the store by it (`Store.Enters`), and a call that leaves no entry
has changed nothing.
-/

namespace SourceAudit

/-- A repository as it was recorded: its names and its URL as they were given, and the time. -/
structure Sync where
  owner : String
  name : String
  url : String
  time : Instant
deriving DecidableEq, Repr

/-- What a store has acknowledged to a call: that a repository is recorded, that an audit of a
repository is opened, that the audit with an identity is settled, that a violation of it is recorded,
or that it is dropped. -/
inductive Entry where
  | synced (sync : Sync)
  | opened (repositoryId : String) (audit : Audit)
  | settled (auditId : String) (audit : Audit)
  | logged (auditId : String) (violation : Violation)
  | dropped (auditId : String)
deriving DecidableEq, Repr

/-- The entry of a call that is made at a time and has this answer. -/
def StoreCall.entry? (now : Instant) : (c : StoreCall) → Except StoreError c.Result → Option Entry
  | upsertRepository owner name url, .ok _ => some (.synced ⟨owner, name, url, now⟩)
  | createAudit repositoryId, .ok audit => some (.opened repositoryId audit)
  | completeAudit auditId .., .ok audit => some (.settled auditId audit)
  | failAudit auditId _, .ok audit => some (.settled auditId audit)
  | logViolation v, .ok violation => some (.logged v.auditId violation)
  | deleteAudit auditId, .ok true => some (.dropped auditId)
  | _, _ => none

/-- Entries, the earliest first. -/
abbrev Ledger := List Entry

/-- The entries that the calls of a history leave. -/
def Store.ledger (s : Store) : List TimedCall → Ledger
  | [] => []
  | c :: rest => (c.call.entry? c.time (runOn c.op s).1).toList ++ (runOn c.op s).2.ledger rest

/-- The first call of a history leaves the first entry, if it leaves one. -/
theorem Store.ledger_cons_of_eq {s s' : Store} {c : TimedCall}
    {answer : Except StoreError c.call.Result} (h : runOn c.op s = (answer, s'))
    (rest : List TimedCall) :
    s.ledger (c :: rest) = (c.call.entry? c.time answer).toList ++ s'.ledger rest := by
  rw [Store.ledger, h]

namespace Ledger

variable (l : Ledger)

/-- The repositories that were recorded, each as often as it was. -/
def syncs : List Sync :=
  l.filterMap fun
    | .synced sync => some sync
    | _ => none

/-- The audits that were opened, each with the repository that it was opened for. -/
def openings : List (String × Audit) :=
  l.filterMap fun
    | .opened repositoryId audit => some (repositoryId, audit)
    | _ => none

/-- What the audit with an identity was settled to. -/
def settlements (id : String) : List Audit :=
  l.filterMap fun
    | .settled auditId audit => if auditId = id then some audit else none
    | _ => none

/-- The violations that were recorded of the audit with an identity. -/
def logged (id : String) : List Violation :=
  l.filterMap fun
    | .logged auditId violation => if auditId = id then some violation else none
    | _ => none

/-- The audit with an identity was dropped. -/
def Dropped (id : String) : Prop :=
  .dropped id ∈ l

instance (id : String) : Decidable (l.Dropped id) :=
  inferInstanceAs (Decidable (_ ∈ _))

/-- The identities of the audits that were opened. -/
def auditIds : List String :=
  l.openings.map (·.2.id)

/-- An audit that was opened, as it was acknowledged last. -/
def current (opened : Audit) : Audit :=
  (l.settlements opened.id).getLast?.getD opened

/-- The audits that were opened for a repository and not dropped, newest first, each as it was
acknowledged last. -/
def auditsOf (repositoryId : String) : List Audit :=
  ((l.openings.filter fun opening => opening.1 = repositoryId ∧ ¬ l.Dropped opening.2.id).map
    fun opening => l.current opening.2).reverse

/-- The violations that were recorded of an audit, oldest first, or none once it was dropped. -/
def violationsOf (auditId : String) : List Violation :=
  if l.Dropped auditId then [] else l.logged auditId

/-- What is known of a repository with an identity that was recorded so: the names and the time are
those of the first time, the URL and the time of the last sync are those of the last one. -/
def summary (id : String) : List Sync → Option Repository
  | [] => none
  | first :: rest =>
    let last := rest.getLastD first
    some { id, owner := first.owner, name := first.name, url := last.url, createdAt := first.time,
           lastSyncedAt := last.time }

/-- What is known of the repository with these names, up to lower case. -/
def repository? (owner name : String) : Option Repository :=
  summary (repositoryId owner name)
    (l.syncs.filter fun sync => SameNames owner name sync.owner sync.name)

/-! ### One more entry -/

variable {l} {entry : Entry} {id : String}

@[simp] theorem syncs_append (l' : Ledger) : syncs (l ++ l') = syncs l ++ syncs l' :=
  List.filterMap_append

@[simp] theorem openings_append (l' : Ledger) : openings (l ++ l') = openings l ++ openings l' :=
  List.filterMap_append

@[simp] theorem settlements_append (l' : Ledger) :
    settlements (l ++ l') id = settlements l id ++ settlements l' id :=
  List.filterMap_append

@[simp] theorem logged_append (l' : Ledger) : logged (l ++ l') id = logged l id ++ logged l' id :=
  List.filterMap_append

/-- The identities of the audits that were opened stay, and new ones come at the end. -/
@[simp] theorem auditIds_append (l' : Ledger) : auditIds (l ++ l') = auditIds l ++ auditIds l' := by
  rw [auditIds, openings_append, List.map_append]
  rfl

/-- An audit that was dropped stays so, and only an entry that says so drops one. -/
theorem dropped_concat_iff : Dropped (l ++ [entry]) id ↔ l.Dropped id ∨ entry = .dropped id := by
  unfold Dropped
  rw [List.mem_append, List.mem_singleton, @eq_comm _ entry]

/-- What an audit was acknowledged as stays, unless the entry settles it. -/
theorem current_concat_of_nil {a : Audit} (h : settlements [entry] a.id = []) :
    current (l ++ [entry]) a = current l a := by
  unfold current
  rw [settlements_append, h, List.append_nil]

/-- An audit is acknowledged as what it was settled to. -/
theorem current_concat_settled {a settled : Audit} (hid : a.id = id) :
    current (l ++ [.settled id settled]) a = settled := by
  have hone : settlements [.settled id settled] a.id = [settled] :=
    List.filterMap_cons_some (if_pos hid.symm)
  unfold current
  rw [settlements_append, hone, List.getLast?_concat]
  rfl

/-- The violations of an audit stay, unless the entry records one of them or drops the audit. -/
theorem violationsOf_concat_of_nil (hlogs : logged [entry] id = []) (hdrops : entry ≠ .dropped id) :
    violationsOf (l ++ [entry]) id = violationsOf l id := by
  have hdropped : Dropped (l ++ [entry]) id ↔ l.Dropped id :=
    dropped_concat_iff.trans (or_iff_left hdrops)
  unfold violationsOf
  simp only [hdropped, logged_append, hlogs, List.append_nil]

/-- A repository that is recorded once more keeps its names and the time of the first time. -/
theorem summary_concat (syncs : List Sync) (sync : Sync) :
    summary id (syncs ++ [sync]) = some
      (match summary id syncs with
        | some known => { known with url := sync.url, lastSyncedAt := sync.time }
        | none =>
          { id, owner := sync.owner, name := sync.name, url := sync.url, createdAt := sync.time,
            lastSyncedAt := sync.time }) := by
  cases syncs with
  | nil => rfl
  | cons first rest => simp [summary]

end Ledger

/-! ### What an entry says of the store -/

namespace Store

/-- What has become of a store by what it has acknowledged. -/
inductive Enters (s : Store) : Entry → Store → Prop
  | synced (now : Instant) (owner name url : String) : Validation.Names owner name →
    Enters s (.synced ⟨owner, name, url, now⟩) (s.afterUpsert now owner name url)
  | opened (now : Instant) (repositoryId : String) :
    Enters s (.opened repositoryId (s.nextAudit now repositoryId)) (s.afterCreate now repositoryId)
  | settled (id : String) (audit settled : Audit) : s.audit? id = some audit →
    settled.id = audit.id → settled.repositoryId = audit.repositoryId →
    Enters s (.settled id settled) (s.afterSettle id settled)
  | logged (now : Instant) (v : NewViolation) (audit : Audit) : s.audit? v.auditId = some audit →
    Enters s (.logged v.auditId (s.nextViolation now v)) (s.afterLog now v)
  | dropped (id : String) (audit : Audit) : s.audit? id = some audit →
    Enters s (.dropped id) (s.afterDelete id)

/-- A call leaves an entry that says what has become of the store, or the store as it is. -/
theorem enters_of_runOn {now : Instant} {c : StoreCall} {s s' : Store}
    {answer : Except StoreError c.Result} (h : runOn (c.op now) s = (answer, s')) :
    match c.entry? now answer with
    | some entry => s.Enters entry s'
    | none => s' = s := by
  rcases answer with e | a
  · have hnone : c.entry? now (.error e) = none := by cases c <;> rfl
    rw [hnone]
    exact StoreCall.eq_of_runOn_error h
  cases c with
  | upsertRepository owner name url =>
    obtain ⟨⟨howner, hname, -⟩, -, rfl⟩ := upsertRepository_ok_iff.1 h
    exact .synced now owner name url ⟨howner, hname⟩
  | createAudit repositoryId =>
    obtain ⟨-, -, rfl, rfl⟩ := createAudit_ok_iff.1 h
    exact .opened now repositoryId
  | logViolation v =>
    obtain ⟨-, ⟨audit, hfound, -⟩, rfl, rfl⟩ := logViolation_ok_iff.1 h
    exact .logged now v audit hfound
  | completeAudit id total violations compliant =>
    obtain ⟨-, audit, hfound, -, rfl, rfl⟩ := completeAudit_ok_iff.1 h
    exact .settled id audit _ hfound rfl rfl
  | failAudit id reason =>
    obtain ⟨-, -, audit, hfound, -, rfl, rfl⟩ := failAudit_ok_iff.1 h
    exact .settled id audit _ hfound rfl rfl
  | deleteAudit id =>
    obtain ⟨-, rfl, rfl⟩ := deleteAudit_ok_iff.1 h
    cases hfound : s.audit? id with
    | none => rfl
    | some audit => exact .dropped id audit hfound
  | repository? | audit? | listAudits | listViolations => exact (Prod.mk.inj h).2.symm

end Store

end SourceAudit
