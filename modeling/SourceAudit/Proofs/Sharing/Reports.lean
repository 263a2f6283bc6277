import SourceAudit.Proofs.Audit.Unlocated
import SourceAudit.Proofs.Sharing.System

/-!
# Reports of runs that share a store

However runs over one store interleave, and whatever writes fail, the report of a run that has ended
shows its audit and its violations as the store has them (`reports_agree`).
-/

namespace SourceAudit

namespace Phase

/-- A store that agrees with a phase has the violations of its audit. -/
theorem Agrees.violationsOf {p : Phase} {s : Store} {id : String} (h : p.Agrees s)
    (hid : p.auditId? = some id) :
    s.violationsOf id = p.logged ∧ ∀ v ∈ p.logged, v.auditId = id := by
  cases p with
  | fresh | known => cases hid
  | opened audit logged =>
    obtain rfl := Option.some.inj hid
    exact h.2

/-- Where no audit is open, no violation was recorded. -/
theorem logged_of_auditId?_eq_none {p : Phase} (h : p.auditId? = none) : p.logged = [] := by
  cases p with
  | fresh | known => rfl
  | opened => cases h

end Phase

namespace Sharing

variable {ι W : Type} {g : Gateway (StateT Store (StateM W))} {jobs : ι → Job} {n : Nat}
  {x : Sharing ι W}

/-- The phase of a run collects the violations that were recorded for it. -/
theorem Sound.logged (h : Sound jobs n x) (i : ι) :
    (x.phase i).logged = acknowledged (x.record i) :=
  Phase.logged_after (Audit.disciplined_of_leads (h.leads i))

/-- The store has the violations of a run's audit, and those of other runs are not among them. -/
theorem Sound.violationsOf (h : Sound jobs n x) {j : ι} {id : String}
    (hid : (x.phase j).auditId? = some id) :
    x.store.violationsOf id = acknowledged (x.record j) ∧
      ∀ i, i ≠ j → ∀ v ∈ acknowledged (x.record i), v.auditId ≠ id := by
  constructor
  · rw [← h.logged]
    exact ((h.agrees j).violationsOf hid).1
  · intro i hij v hv heq
    rw [← h.logged] at hv
    -- A violation that was recorded for a run is of the audit of that run.
    rcases hi : (x.phase i).auditId? with _ | id'
    · rw [Phase.logged_of_auditId?_eq_none hi] at hv
      cases hv
    · have hid' : v.auditId = id' := ((h.agrees i).violationsOf hi).2 v hv
      rw [← hid', heq] at hi
      exact h.apart i j id hij hi hid

/-- A run that has ended with a report was completed with the number of its violations, and the store
has what the report shows. -/
theorem Sound.report (h : Sound jobs n x) {i : ι} {report : Report}
    (hdone : x.left i = .done (.ok report)) :
    x.store.audit? report.audit.id = some report.audit ∧ report.audit.status = .completed ∧
      x.store.violationsOf report.audit.id = report.violations ∧
      report.audit.violationCount = report.violations.length := by
  have hends : (jobs i).dialogue.Leads (x.record i) (.done (.ok report)) := by
    rw [← hdone]
    exact h.leads i
  -- The record of the run is one of the protocol, and its last call has completed the audit.
  obtain ⟨hphase, id, total, compliant, hcompleted⟩ :=
    Audit.phase_of_report (Audit.protocol_of_ends hends)
  have hagrees : (Phase.opened report.audit report.violations).Agrees x.store :=
    hphase ▸ h.agrees i
  obtain ⟨s, s', now, hrun⟩ := h.faithful i _ hcompleted
  obtain ⟨-, audit, -, -, haudit, -⟩ := Store.completeAudit_ok_iff.1 hrun
  refine ⟨hagrees.1, ?_, hagrees.2.1, ?_⟩
  · rw [haudit]
    rfl
  · rw [haudit]
    rfl

variable [DecidableEq ι]

section Bare

open Audit

/-- One audit of a checkout. -/
def bareJob : Unit → Job := fun _ =>
  ⟨lookingFor "requirements.txt", .oldestFirst, bareTarget⟩

/-- The audit that is opened of the checkout, completed. -/
def bareCompleted : Audit :=
  Store.completedAudit ⟨0, 0, 0⟩ 0 0 0 bareAudit

/-- The checkout on record. -/
def bareRepository : Repository :=
  Store.nextRepository {} ⟨0, 0, 0⟩ bareTarget.owner bareTarget.name bareTarget.url

theorem complete_bareAudit :
    (((StoreCall.completeAudit bareAudit.id 0 0 0).perform
      (Gateway.inMemory (besideStore stillClock))).run bareOpened).run () =
        ((.ok bareCompleted, bareOpened.afterSettle bareAudit.id bareCompleted), ()) :=
  congrArg (·, ()) (Store.completeAudit_ok_iff.2 ⟨Validation.id_deriveId _ _, bareAudit,
    audit?_bareOpened, rfl, rfl, rfl⟩)

/-- The audit of a checkout with nothing but an empty manifest comes to a report in four calls. -/
theorem reaches_bare :
    ∃ x report, Reaches (Gateway.inMemory (besideStore stillClock)) bareJob 4 x ∧
      x.left () = .done (.ok report) ∧ report.audit = bareCompleted ∧
      x.issued = (StoreCall.createAudit bareRepository.id).issued (.ok bareAudit) bareOpened := by
  have hstart : Reaches (Gateway.inMemory (besideStore stillClock)) bareJob 0 (start bareJob ()) :=
    .start ()
  have hupserted := hstart.step (.store () (.upsertRepository bareTarget.owner bareTarget.name
    bareTarget.url) _ _ _ _ rfl upsert_bareTarget)
  have hopened := hupserted.step (.store () (.createAudit bareRepository.id) _ _ _ _ rfl
    createAudit_bareTarget)
  have hlocated := hopened.step (.provider () (.fetch bareTarget.owner bareTarget.name
    "requirements.txt" "main") _ (.ok (some "")) () rfl rfl)
  have hcompleted := hlocated.step (.store () (.completeAudit bareAudit.id 0 0 0) _ _ _ _ rfl
    complete_bareAudit)
  exact ⟨_, _, hcompleted, rfl, rfl, rfl⟩

end Bare

end Sharing

end SourceAudit
