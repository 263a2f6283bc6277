import SourceAudit.Proofs.Dialogue.Conduct
import SourceAudit.Proofs.Store.Beside
import SourceAudit.Proofs.Store.Saved

/-!
# Calls on the two stores

A call on the store in memory or on the store that is kept in a file comes to an outcome of the
operation behind it: either it has the effect of the operation at some time, or it fails and leaves
the store as it is. The store in memory fails only where the operation does; the one in a file also
fails where its document cannot be written, whatever the files do.
-/

namespace SourceAudit

namespace StoreCall

/-- The operation behind a call, at a time. -/
def op (now : Instant) : (c : StoreCall) → StoreM c.Result
  | upsertRepository owner name url => Store.upsertRepository now owner name url
  | repository? id => do pure ((← get).repository? id)
  | createAudit repositoryId => Store.createAudit now repositoryId
  | audit? id => do pure ((← get).audit? id)
  | listAudits repositoryId => do pure ((← get).auditsOf repositoryId)
  | logViolation v => Store.logViolation now v
  | listViolations auditId => do pure ((← get).violationsOf auditId)
  | completeAudit auditId total violations compliant =>
    Store.completeAudit now auditId total violations compliant
  | failAudit auditId reason => Store.failAudit now auditId reason
  | deleteAudit auditId => Store.deleteAudit auditId

open Store

/-- An operation that fails leaves the store as it is. -/
theorem eq_of_runOn_error {now : Instant} {c : StoreCall} {s s' : Store} {e : StoreError}
    (h : runOn (c.op now) s = (.error e, s')) : s' = s := by
  cases c with
  | upsertRepository owner name url =>
    rw [op, run_upsertRepository] at h
    split at h <;> cases h <;> rfl
  | createAudit repositoryId =>
    rw [op, run_createAudit] at h
    split at h
    · cases h
      rfl
    · split at h <;> cases h
      rfl
  | logViolation v =>
    rw [op, run_logViolation] at h
    split at h
    · cases h
      rfl
    · split at h
      · cases h
        rfl
      · split at h <;> cases h
        rfl
  | completeAudit id total violations compliant =>
    rw [op, run_completeAudit] at h
    split at h <;> cases h <;> rfl
  | failAudit id reason =>
    rw [op, run_failAudit] at h
    split at h <;> cases h <;> rfl
  | deleteAudit id =>
    rw [op, run_deleteAudit] at h
    split at h
    · cases h
      rfl
    · split at h <;> cases h
  | repository? | audit? | listAudits | listViolations => cases h

/-- What may come of a call: the effect of the operation at some time, or an error that leaves the
store as it is. -/
def Outcome (c : StoreCall) (s : Store) (answer : Except StoreError c.Result) (s' : Store) : Prop :=
  match answer with
  | .ok a => ∃ now, runOn (c.op now) s = (.ok a, s')
  | .error _ => s' = s

/-- What the operation comes to at a time is an outcome of the call. -/
theorem outcome_of_runOn {now : Instant} {c : StoreCall} {s s' : Store}
    {answer : Except StoreError c.Result} (h : runOn (c.op now) s = (answer, s')) :
    c.Outcome s answer s' := by
  cases answer with
  | ok a => exact ⟨now, h⟩
  | error e => exact eq_of_runOn_error h

end StoreCall

namespace Gateway

variable {W : Type}

/-- A call on the store in memory is the operation behind it at the time of the call. -/
theorem perform_inMemory (clock : StateM W Instant) (c : StoreCall) (s : Store) (w : W) :
    ∃ now w', ((c.perform (inMemory (besideStore clock))).run s).run w =
      (Store.runOn (c.op now) s, w') := by
  cases c with
  | repository? | audit? | listAudits | listViolations => exact ⟨(clock.run w).1, w, rfl⟩
  | deleteAudit => exact ⟨(clock.run w).1, w, rfl⟩
  | upsertRepository | createAudit | logViolation | completeAudit | failAudit =>
    exact ⟨(clock.run w).1, (clock.run w).2, rfl⟩

end Gateway

namespace StoreFile

variable {W α : Type} (files : Files (StateM W))

/-- An operation on the store in a file has its effect if it succeeds, and leaves the store as it is
if it fails. -/
theorem changeSaved_outcome (path : String) (op : StoreM α) (s : Store) (w : W) :
    ∃ answer s' w', ((changeSaved (files.lift besideStore) path op).run s).run w =
        ((answer, s'), w') ∧
      match answer with
      | .ok a => Store.runOn op s = (.ok a, s')
      | .error _ => s' = s := by
  have hrun : (changeSaved (files.lift besideStore) path op).run s = _ :=
    run_changeSaved files path op s
  rw [hrun]
  rcases Store.runOn op s with ⟨e | a, next⟩
  · exact ⟨.error e, s, w, rfl, rfl⟩
  · rcases hsave : (save files path next).run w with ⟨e | u, w'⟩
    · exact ⟨.error (.file path e), s, w', run_bind_of_eq hsave, rfl⟩
    · exact ⟨.ok a, next, w', run_bind_of_eq hsave, rfl⟩

/-- A call on the store in a file comes to one of its outcomes, whatever the files do. -/
theorem perform_outcome (path : String) (clock : StateM W Instant) (c : StoreCall) (s : Store)
    (w : W) :
    ∃ answer s' w',
      ((c.perform (gateway (files.lift besideStore) path (besideStore clock))).run s).run w =
        ((answer, s'), w') ∧ c.Outcome s answer s' := by
  have hsaved : ∀ (now : Instant) (w : W), ∃ answer s' w',
      ((changeSaved (files.lift besideStore) path (c.op now)).run s).run w = ((answer, s'), w') ∧
        c.Outcome s answer s' := by
    intro now w
    obtain ⟨answer, s', w', h, hout⟩ := changeSaved_outcome files path (c.op now) s w
    refine ⟨answer, s', w', h, ?_⟩
    cases answer with
    | ok a => exact ⟨now, hout⟩
    | error e => exact hout
  cases c with
  | repository? | audit? | listAudits | listViolations =>
    exact ⟨_, s, w, rfl, (clock.run w).1, rfl⟩
  | deleteAudit => exact hsaved (clock.run w).1 w
  | upsertRepository | createAudit | logViolation | completeAudit | failAudit =>
    exact hsaved (clock.run w).1 (clock.run w).2

end StoreFile

/-! ### Calls at a time -/

namespace StoreCall

variable {n : Type → Type} [Monad n] [LawfulMonad n]

/-- The call only asks. -/
def isQuestion : StoreCall → Bool
  | repository? _ | audit? _ | listAudits _ | listViolations _ => true
  | _ => false

variable {c : StoreCall} (now : Instant) (s : Store)

/-- A question is answered and changes nothing. -/
theorem runOn_of_isQuestion (h : c.isQuestion = true) :
    ∃ a, Store.runOn (c.op now) s = (.ok a, s) := by
  cases c with
  | repository? | audit? | listAudits | listViolations => exact ⟨_, rfl⟩
  | _ => cases h

variable (files : Files n) (path : String)

/-- The store in a file answers a question from memory. -/
theorem run_perform_of_isQuestion (h : c.isQuestion = true) :
    (c.perform (StoreFile.gateway files.beside path (pure now)) : StateT Store n _).run s =
      pure (Store.runOn (c.op now) s) := by
  cases c with
  | repository? | audit? | listAudits | listViolations => exact pure_bind _ _
  | _ => cases h

/-- Any other call on the store in a file is a change by the operation behind it. -/
theorem perform_of_not_isQuestion (h : c.isQuestion = false) :
    (c.perform (StoreFile.gateway files.beside path (pure now)) : StateT Store n _) =
      StoreFile.changeSaved files.beside path (c.op now) := by
  cases c with
  | repository? | audit? | listAudits | listViolations => cases h
  | deleteAudit => rfl
  | _ => exact pure_bind _ _

/-- A call on the store in memory is the operation behind it. -/
theorem run_perform_inMemory (c : StoreCall) :
    (c.perform (Gateway.inMemory (pure now)) : StateT Store n _).run s =
      pure (Store.runOn (c.op now) s) := by
  cases c with
  | repository? | audit? | listAudits | listViolations => exact pure_bind _ _
  | deleteAudit => rfl
  | upsertRepository | createAudit | logViolation | completeAudit | failAudit =>
    exact (StateT.run_bind ..).trans (pure_bind _ _)

end StoreCall

end SourceAudit
