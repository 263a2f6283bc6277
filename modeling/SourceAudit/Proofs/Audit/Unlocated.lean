import SourceAudit.Audit.Run
import SourceAudit.Proofs.Store.Operation
import SourceAudit.Proofs.Store.Outcome
import SourceAudit.Proofs.Store.Validation

/-!
# Audits without a manifest

An audit that finds no manifest fails itself and gives the error as the reason. The store checks that
reason like any text that it is given: one that is too long or has control characters is refused, and
then the audit is left pending (`run_of_unlocated`). Names of manifests, paths and URLs go into the
texts of errors unchecked, so such reasons come up.
-/

namespace SourceAudit

/-- The text of an error is never blank. -/
theorem AuditError.worded_message (e : AuditError) : Text.Worded e.message := by
  cases e with
  | manifestNotFound =>
    have h : Text.Worded "No manifest found (tried: " := by decide
    exact (h.append _).append _
  | provider =>
    have h : Text.Worded "Provider error: " := by decide
    exact h.append _
  | store =>
    have h : Text.Worded "Persistence error: " := by decide
    exact h.append _
  | settings =>
    have h : Text.Worded "Configuration error: " := by decide
    exact h.append _
  | ambiguousId =>
    have h : Text.Worded "Audit id '" := by decide
    exact (((h.append _).append _).append _).append _
  | unwritable =>
    have h : Text.Worded "Failed to write '" := by decide
    exact ((h.append _).append _).append _

namespace Audit

/-- The store takes the text of an error for a reason. -/
def Recordable (e : AuditError) : Prop :=
  e.message.length ≤ Validation.maxDescription ∧ Text.Clear e.message

instance (e : AuditError) : Decidable (Recordable e) :=
  inferInstanceAs (Decidable (_ ∧ _))

/-- The text of an error is refused as a reason only for its length and its control characters. -/
theorem description_message_ok_iff {e : AuditError} :
    Validation.description "failure_reason" e.message = .ok () ↔ Recordable e := by
  rw [Validation.description, Validation.text_ok_iff]
  exact ⟨fun h => ⟨h.short, h.clear⟩, fun h => ⟨e.worded_message, h.1, h.2⟩⟩

/-- To fail a pending audit for an error has its effect exactly if the error is recordable. -/
theorem snd_runOn_failAudit {s : Store} {now : Instant} {audit : Audit} {e : AuditError}
    (hid : Validation.id "audit_id" audit.id = .ok ()) (hfound : s.audit? audit.id = some audit)
    (hpending : audit.status = .pending) :
    (Store.runOn (Store.failAudit now audit.id e.message) s).2 =
      if Recordable e then s.afterSettle audit.id (Store.failedAudit now e.message audit) else s := by
  by_cases hr : Recordable e
  · rw [if_pos hr, Store.failAudit_ok_iff.2 ⟨hid, description_message_ok_iff.2 hr, audit, hfound,
      hpending, rfl, rfl⟩]
  · rw [if_neg hr, Store.run_failAudit, hid]
    rcases hd : Validation.description "failure_reason" e.message with refusal | u
    · rfl
    · exact absurd (description_message_ok_iff.1 hd) hr

variable {W : Type}

section Unlocated

variable (p : Provider (StateM W)) (clock : StateM W Instant) (options : AuditOptions)
  (schedule : Schedule) (target : Target) {s s₁ s₂ : Store} {w w₁ w₂ w₃ : W}
  {repository : Repository} {audit : Audit} {e : AuditError}

/-- The run of an audit without a manifest, call by call: the audit is opened in the state `s₂`, and
then it is failed if the error is recordable. -/
theorem run_eq_of_unlocated
    (hupsert : (((Gateway.inMemory (besideStore clock)).upsertRepository target.owner target.name
      target.url).run s).run w = ((.ok repository, s₁), w₁))
    (hcreate : (((Gateway.inMemory (besideStore clock)).createAudit repository.id).run s₁).run w₁ =
      ((.ok audit, s₂), w₂))
    (hlocate : (Manifest.locate p target.owner target.name options.manifestNames
      options.branches).run w₂ = (.error e, w₃))
    (hid : Validation.id "audit_id" audit.id = .ok ()) (hfound : s₂.audit? audit.id = some audit)
    (hpending : audit.status = .pending) :
    ∃ now w',
      ((Audit.run (p.lift besideStore) (Gateway.inMemory (besideStore clock)) options schedule
        target).run s).run w =
      ((.error e, if Recordable e then
        s₂.afterSettle audit.id (Store.failedAudit now e.message audit) else s₂), w') := by
  have hlocated : ((besideStore (Manifest.locate p target.owner target.name options.manifestNames
      options.branches)).run s₂).run w₂ = ((.error e, s₂), w₃) := by
    rw [run_besideStore, hlocate]
  -- The call that fails the audit is the operation behind it, whose own outcome is left alone.
  obtain ⟨now, w', hfail⟩ :=
    Gateway.perform_inMemory clock (.failAudit audit.id e.message) s₂ w₃
  refine ⟨now, w', ?_⟩
  rw [Audit.run, run_bind_of_run hupsert]
  dsimp only
  rw [run_bind_of_run hcreate]
  dsimp only
  rw [locate_besideStore, run_bind_of_run hlocated,
    ← snd_runOn_failAudit hid hfound hpending]
  exact run_bind_of_run hfail

/-- An audit that was opened, and whose manifest is not found, is failed for the text of the error if
the store takes that for a reason, and stays pending otherwise; it has no violations, and the error
is the outcome. -/
theorem run_of_unlocated
    (hupsert : (((Gateway.inMemory (besideStore clock)).upsertRepository target.owner target.name
      target.url).run s).run w = ((.ok repository, s₁), w₁))
    (hcreate : (((Gateway.inMemory (besideStore clock)).createAudit repository.id).run s₁).run w₁ =
      ((.ok audit, s₂), w₂))
    (hlocate : (Manifest.locate p target.owner target.name options.manifestNames
      options.branches).run w₂ = (.error e, w₃))
    (hunused : s₁.Unused audit.id) :
    ∃ now s' w',
      ((Audit.run (p.lift besideStore) (Gateway.inMemory (besideStore clock)) options schedule
        target).run s).run w = ((.error e, s'), w') ∧
      s'.audit? audit.id =
        some (if Recordable e then Store.failedAudit now e.message audit else audit) ∧
      audit.status = .pending ∧ s'.violationsOf audit.id = [] := by
  -- The audit is the one that the store opens next, and it is found under its identity.
  obtain ⟨now, hopened⟩ : ∃ now, Store.runOn (Store.createAudit now repository.id) s₁ =
      (.ok audit, s₂) := ⟨(clock.run w₁).1, congrArg Prod.fst hcreate⟩
  obtain ⟨-, -, rfl, rfl⟩ := Store.createAudit_ok_iff.1 hopened
  have hfound := Store.audit?_afterCreate_of_unused hunused
  have hid : Validation.id "audit_id" (s₁.nextAudit now repository.id).id = .ok () :=
    Validation.id_deriveId _ _
  have hpending : (s₁.nextAudit now repository.id).status = .pending := rfl
  have hnone : (s₁.afterCreate now repository.id).violationsOf
      (s₁.nextAudit now repository.id).id = [] := hunused.2
  obtain ⟨later, w', hrun⟩ := run_eq_of_unlocated p clock options schedule target hupsert hcreate
    hlocate hid hfound hpending
  refine ⟨later, _, w', hrun, ?_, hpending, ?_⟩
  · by_cases hr : Recordable e
    · rw [if_pos hr, if_pos hr]
      exact Store.audit?_afterSettle hfound (Store.id_failedAudit ..)
    · rw [if_neg hr, if_neg hr, hfound]
  · split
    · exact hnone
    · exact hnone

end Unlocated

section Bare

/-- A provider of repositories without files. -/
def bareProvider : Provider (StateM Unit) where
  fetch _ _ _ _ := pure (.ok none)
  list _ _ _ := pure (.ok [])

/-- A clock that stands still. -/
def stillClock : StateM Unit Instant :=
  pure ⟨0, 0, 0⟩

/-- Options that look for a manifest of this name and at nothing else. -/
def lookingFor (name : String) : AuditOptions where
  maxFiles := 0
  concurrency := 1
  sourceRoots := []
  branches := ["main"]
  manifestNames := [name]
  walk := ⟨0, 0, [], [], []⟩
  scanner := Scanner.default

/-- A checkout. -/
def bareTarget : Target :=
  ⟨"local", "bare", "file:///bare"⟩

/-- An empty store after the checkout was recorded. -/
def bareStore : Store :=
  Store.afterUpsert {} ⟨0, 0, 0⟩ bareTarget.owner bareTarget.name bareTarget.url

/-- The audit that is opened of the checkout. -/
def bareAudit : Audit :=
  bareStore.nextAudit ⟨0, 0, 0⟩ (SourceAudit.repositoryId bareTarget.owner bareTarget.name)

/-- The store after the audit was opened. -/
def bareOpened : Store :=
  bareStore.afterCreate ⟨0, 0, 0⟩ (SourceAudit.repositoryId bareTarget.owner bareTarget.name)

theorem upsert_bareTarget :
    (((Gateway.inMemory (besideStore stillClock)).upsertRepository bareTarget.owner bareTarget.name
      bareTarget.url).run {}).run () =
      ((.ok (Store.nextRepository {} ⟨0, 0, 0⟩ bareTarget.owner bareTarget.name bareTarget.url),
        bareStore), ()) := by
  have hfit : Validation.name "owner" bareTarget.owner = .ok () ∧
      Validation.name "name" bareTarget.name = .ok () ∧ Validation.url bareTarget.url = .ok () := by
    decide +kernel
  exact congrArg (·, ()) (Store.upsertRepository_ok_iff.2 ⟨hfit, rfl, rfl⟩)

theorem createAudit_bareTarget :
    (((Gateway.inMemory (besideStore stillClock)).createAudit (Store.nextRepository {} ⟨0, 0, 0⟩
      bareTarget.owner bareTarget.name bareTarget.url).id).run bareStore).run () =
      ((.ok bareAudit, bareOpened), ()) := by
  rw [Store.id_nextRepository]
  refine congrArg (·, ()) (Store.createAudit_ok_iff.2 ⟨Validation.id_deriveId _ _, ?_, rfl, rfl⟩)
  rw [bareStore, Store.repository?_afterUpsert]
  rfl

theorem locate_bareProvider (name : String) :
    (Manifest.locate bareProvider bareTarget.owner bareTarget.name (lookingFor name).manifestNames
      (lookingFor name).branches).run () = (.error (.manifestNotFound [name]), ()) := rfl

theorem unused_bareAudit : bareStore.Unused bareAudit.id :=
  ⟨rfl, rfl⟩

theorem audit?_bareOpened : bareOpened.audit? bareAudit.id = some bareAudit :=
  Store.audit?_afterCreate_of_unused unused_bareAudit

/-- An audit of an empty checkout fails for the reason that there is no manifest. -/
theorem run_of_unlocated_bare :
    ∃ now s' w',
      ((Audit.run (bareProvider.lift besideStore) (Gateway.inMemory (besideStore stillClock))
        (lookingFor "requirements.txt") .oldestFirst bareTarget).run {}).run () =
          ((.error (.manifestNotFound ["requirements.txt"]), s'), w') ∧
      s'.audit? bareAudit.id = some (Store.failedAudit now
        "No manifest found (tried: requirements.txt)" bareAudit) ∧
      s'.violationsOf bareAudit.id = [] := by
  obtain ⟨now, s', w', hrun, hfound, -, hnone⟩ := run_of_unlocated bareProvider stillClock
    (lookingFor "requirements.txt") .oldestFirst bareTarget upsert_bareTarget
    createAudit_bareTarget (locate_bareProvider _) unused_bareAudit
  have hrecordable : Recordable (.manifestNotFound ["requirements.txt"]) := by decide
  rw [if_pos hrecordable] at hfound
  exact ⟨now, s', w', hrun, hfound, hnone⟩

/-- A tab in the name of the manifest leaves the audit pending. -/
theorem run_of_tab_in_manifest_name :
    ∃ s' w',
      ((Audit.run (bareProvider.lift besideStore) (Gateway.inMemory (besideStore stillClock))
        (lookingFor "a\tb") .oldestFirst bareTarget).run {}).run () =
          ((.error (.manifestNotFound ["a\tb"]), s'), w') ∧
      s'.audit? bareAudit.id = some bareAudit ∧ bareAudit.status = .pending := by
  obtain ⟨now, w', hrun⟩ := run_eq_of_unlocated bareProvider stillClock (lookingFor "a\tb")
    .oldestFirst bareTarget upsert_bareTarget createAudit_bareTarget
    (locate_bareProvider _) (Validation.id_deriveId _ _) audit?_bareOpened rfl
  have hrefused : ¬ Recordable (.manifestNotFound ["a\tb"]) := by decide
  rw [if_neg hrefused] at hrun
  exact ⟨_, w', hrun, audit?_bareOpened, rfl⟩

end Bare

end Audit

end SourceAudit
