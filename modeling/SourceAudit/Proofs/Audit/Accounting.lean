import SourceAudit.Proofs.Audit.Kept
import SourceAudit.Proofs.Dialogue.Conduct
import SourceAudit.Proofs.Scan.Order
import SourceAudit.Proofs.Sharing.System

/-!
# The accounting of an audit

A report sorts the candidates of its audit into those that were scanned, those that could not be
fetched and those that were left out, and counts them; its violations are in the order of the
candidates and of their lines (`Examination.Accounts`). This holds of every report that an audit comes
to with one of the two stores (`run_accounts`).

The lists of files follow from the record of the audit alone. That the violations are in order also
takes a store that gives back what it was asked to record (`acknowledged_sublist`).
-/

namespace SourceAudit

open Dialogue

/-! ### What a store gives back -/

/-- What a faithful store has recorded is what it was asked to record. -/
theorem Exchange.Faithful.logged {nv : NewViolation} {v : Violation}
    (h : Faithful ⟨.store (.logViolation nv), .ok v⟩) : v.toNewViolation = nv := by
  obtain ⟨s, s', now, hrun⟩ := h
  obtain ⟨-, -, rfl, -⟩ := Store.logViolation_ok_iff.1 hrun
  rfl

/-- What a faithful store has recorded is fit to be recorded. -/
theorem Exchange.Faithful.fit {nv : NewViolation} {v : Violation}
    (h : Faithful ⟨.store (.logViolation nv), .ok v⟩) : Validation.newViolation nv = .ok () := by
  obtain ⟨s, s', now, hrun⟩ := h
  exact (Store.logViolation_ok_iff.1 hrun).1

/-- An audit that a faithful store has opened carries well-formed identities. -/
theorem Exchange.Faithful.opened {repositoryId : String} {audit : Audit}
    (h : Faithful ⟨.store (.createAudit repositoryId), .ok audit⟩) :
    Validation.id "audit_id" audit.id = .ok () ∧
      Validation.id "repository_id" audit.repositoryId = .ok () := by
  obtain ⟨s, s', now, hrun⟩ := h
  obtain ⟨hrepository, -, rfl, -⟩ := Store.createAudit_ok_iff.1 hrun
  exact ⟨Validation.id_deriveId _ _, hrepository⟩

/-- What a faithful store has completed has the counts that it was given. -/
theorem Exchange.Faithful.completed {id : String} {total violations compliant : Nat} {audit : Audit}
    (h : Faithful ⟨.store (.completeAudit id total violations compliant), .ok audit⟩) :
    audit.status = .completed ∧ audit.totalFiles = total ∧ audit.violationCount = violations ∧
      audit.compliantFiles = compliant := by
  obtain ⟨s, s', now, hrun⟩ := h
  obtain ⟨-, found, -, -, rfl, -⟩ := Store.completeAudit_ok_iff.1 hrun
  exact ⟨rfl, rfl, rfl, rfl⟩

/-- The violations that a store has recorded are those of the calls that it has accepted. -/
theorem mem_acknowledged_iff {record : List Exchange} {v : Violation} :
    v ∈ acknowledged record ↔ ∃ nv, ⟨.store (.logViolation nv), .ok v⟩ ∈ record := by
  rw [acknowledged, List.mem_filterMap]
  constructor
  · rintro ⟨⟨c, answer⟩, he, hlogged⟩
    cases c with
    | fetch | list => cases hlogged
    | store c =>
      cases c with
      | logViolation nv =>
        rcases answer with e | recorded
        · cases hlogged
        · obtain rfl := Option.some.inj hlogged
          exact ⟨nv, he⟩
      | _ => cases hlogged
  · rintro ⟨nv, he⟩
    exact ⟨_, he, rfl⟩

/-- The violations that a faithful store has recorded are some of those that it was asked to record,
in their order. -/
theorem acknowledged_sublist {record : List Exchange} {vs : List NewViolation}
    (hfaithful : ∀ e ∈ record, e.Faithful)
    (hcalls : (record.filter (·.isStore)).map (·.call) =
      vs.map fun v => .store (.logViolation v)) :
    ((acknowledged record).map (·.toNewViolation)).Sublist vs := by
  induction record generalizing vs with
  | nil => exact List.nil_sublist vs
  | cons e rest ih =>
    obtain ⟨he, hrest⟩ := List.forall_mem_cons.1 hfaithful
    rcases e with ⟨c, answer⟩
    cases c with
    | fetch | list => exact ih hrest hcalls
    | store c =>
      -- The call is the first of those that record violations; it was answered or refused.
      have hstore : Exchange.isStore ⟨.store c, answer⟩ = true := rfl
      rw [List.filter_cons_of_pos hstore, List.map_cons] at hcalls
      obtain ⟨v, later, rfl, hcall, hlater⟩ := List.map_eq_cons_iff.1 hcalls.symm
      cases hcall
      have hsublist := ih hrest hlater.symm
      rcases answer with refusal | recorded
      · exact hsublist.cons v
      · have hsame : recorded.toNewViolation = v := he.logged
        have hlogged : acknowledged (⟨.store (.logViolation v), .ok recorded⟩ :: rest) =
            recorded :: acknowledged rest := rfl
        rw [hlogged, List.map_cons, hsame]
        exact hsublist.cons_cons v

/-- All that either store answers in the course of a record, it answers faithfully. -/
theorem Backend.faithful {W : Type} {p : Provider (StateT Store (StateM W))}
    {g : Gateway (StateT Store (StateM W))} {record : List Exchange} {s s' : Store} {w w' : W}
    (hg : Backend g) (h : Course p g s w record s' w') : ∀ e ∈ record, e.Faithful := by
  refine h.forall_mem fun c s w => ?_
  cases c with
  | fetch | list => trivial
  | store c => exact ⟨s, _, hg.outcome rfl⟩

/-! ### The order of violations -/

/-- Of two violations the first is in an earlier one of these files, or in the same file and at no
later line. -/
def NewViolation.Precedes (files : List String) (v w : NewViolation) : Prop :=
  files.idxOf v.filePath < files.idxOf w.filePath ∨
    v.filePath = w.filePath ∧
      ∃ m n, v.lineNumber = some m ∧ w.lineNumber = some n ∧ m ≤ n

namespace Examination

variable {x : Examination} {options : AuditOptions}

/-- The files without a text are some of those with an outcome, in their order. -/
theorem failures_sublist (x : Examination) : x.failures.Sublist (x.outcomes.map (·.1)) :=
  List.filter_sublist.map _

/-- The files with an outcome are those with a text and those without. -/
theorem perm_outcomes (x : Examination) :
    (x.texts.map (·.1) ++ x.failures).Perm (x.outcomes.map (·.1)) := by
  obtain ⟨manifest, walk, outcomes⟩ := x
  induction outcomes with
  | nil => exact .nil
  | cons o rest ih =>
    rcases o with ⟨path, fetched⟩
    rcases hf : fetched.text? with _ | content
    · rw [texts_cons_of_none hf, failures_cons_of_none hf]
      exact List.perm_middle.trans (ih.cons path)
    · rw [texts_cons_of_some hf, failures_cons_of_some hf]
      exact ih.cons path

/-- The violations of an examination are in the order of the candidates and of their lines. -/
theorem pairwise_violations {audit : Audit} (hfiles : x.walk.files.Nodup)
    (hselected : x.outcomes.map (·.1) = x.walk.files.take options.maxFiles) :
    (x.violations options audit).Pairwise (NewViolation.Precedes x.walk.files) := by
  refine List.pairwise_flatMap.2 ⟨fun t _ => ?_, ?_⟩
  · -- Within a file the hits are in the order of their lines.
    refine List.pairwise_map.2 (((x.scanner options).pairwise_scan _ _).imp fun hle => ?_)
    exact .inr ⟨rfl, _, _, rfl, rfl, hle⟩
  · -- The files with a text come in the order of the candidates.
    have hsublist : (x.texts.map (·.1)).Sublist x.walk.files := by
      have houtcomes := x.texts_sublist
      rw [hselected] at houtcomes
      exact houtcomes.trans (List.take_sublist _ _)
    have hordered := List.pairwise_map.1 ((pairwise_idxOf hfiles).sublist hsublist)
    refine hordered.imp fun hlt v hv w hw => ?_
    obtain ⟨h, -, rfl⟩ := List.mem_map.1 hv
    obtain ⟨h', -, rfl⟩ := List.mem_map.1 hw
    exact .inl hlt

/-- How a report accounts for the candidates of its audit. -/
structure Accounts (x : Examination) (options : AuditOptions) (report : Report) : Prop where
  /-- Every candidate is listed once. -/
  nodup : x.walk.files.Nodup
  /-- The candidates after the first ones are left out. -/
  skipped : report.skipped = x.walk.files.drop options.maxFiles
  /-- Those that were scanned, and those that could not be fetched, are some of the first ones, in
  their order. -/
  analyzed : report.analyzed.Sublist (x.walk.files.take options.maxFiles)
  failed : report.failed.Sublist (x.walk.files.take options.maxFiles)
  /-- No candidate is among both, and together they are all of the first ones. -/
  disjoint : report.analyzed.Disjoint report.failed
  selected : (report.analyzed ++ report.failed).Perm (x.walk.files.take options.maxFiles)
  /-- The audit counts all candidates. -/
  total : report.audit.totalFiles = x.walk.files.length ∧ report.audit.totalFiles =
    report.analyzed.length + report.failed.length + report.skipped.length
  truncated : report.truncated = true ↔ report.skipped ≠ []
  /-- Files are scanned that come with a text. -/
  scanned : report.analyzed = x.texts.map (·.1)
  /-- The audit counts the files whose scan has come to nothing. -/
  compliant : report.audit.compliantFiles =
    (x.texts.filter fun t => (x.hits options t.2).isEmpty).length
  /-- Violations are in files that were scanned. -/
  located : ∀ v ∈ report.violations, v.filePath ∈ report.analyzed
  /-- Violations are in the order of the candidates, and in a file in the order of the lines. -/
  ordered : (report.violations.map (·.toNewViolation)).Pairwise
    (NewViolation.Precedes x.walk.files)

/-- A record whose exchanges with the store are faithful has the accounts in its report. -/
theorem accounts_of_examined {target : Target} {record : List Exchange} {report : Report}
    (hexamined : Audit.Examined options target x record report)
    (hfaithful : ∀ e ∈ record, e.Faithful) : x.Accounts options report := by
  obtain ⟨repository, opened, completed, located, walked, files, -, -, hwalked, hfiles⟩ := hexamined
  have hnodup : x.walk.files.Nodup := Walk.nodup_of_ends_roots List.nodup_nil hwalked
  have hperm : (x.texts.map (·.1) ++ x.failures).Perm (x.walk.files.take options.maxFiles) := by
    rw [← hfiles.selected]
    exact x.perm_outcomes
  -- The audit in the report is what the last call has made of it.
  obtain ⟨-, htotal, -, hcompliant⟩ :=
    (hfaithful _ (List.mem_append_right _ (List.mem_singleton_self _))).completed
  -- The violations in the report are those that were recorded with the files.
  have hlogged : ((acknowledged files).map (·.toNewViolation)).Sublist
      (x.violations options opened) :=
    acknowledged_sublist (fun e he => hfaithful e
      (List.mem_append_left _ (List.mem_append_right _ he))) hfiles.logged
  refine
    { nodup := hnodup
      skipped := rfl
      analyzed := hfiles.selected ▸ x.texts_sublist
      failed := hfiles.selected ▸ x.failures_sublist
      disjoint := List.disjoint_of_nodup_append
        (hperm.nodup_iff.2 ((List.take_sublist _ _).nodup hnodup))
      selected := hperm
      total := ⟨htotal, ?_⟩
      truncated := ?_
      scanned := rfl
      compliant := hcompliant
      located := fun v hv => ?_
      ordered := (pairwise_violations hnodup hfiles.selected).sublist hlogged }
  · calc
      completed.totalFiles = x.walk.files.length := htotal
      _ = (x.walk.files.take options.maxFiles).length +
          (x.walk.files.drop options.maxFiles).length := by
        rw [← List.length_append, List.take_append_drop]
      _ = (x.texts.map (·.1)).length + x.failures.length +
          (x.walk.files.drop options.maxFiles).length := by
        rw [← hperm.length_eq, List.length_append]
  · simp [report]
  · obtain ⟨t, ht, hv⟩ := List.mem_flatMap.1 (hlogged.subset (List.mem_map_of_mem hv))
    obtain ⟨h, -, hsame⟩ := List.mem_map.1 hv
    have hpath : t.1 = v.filePath := congrArg NewViolation.filePath hsame
    rw [← hpath]
    exact List.mem_map_of_mem ht

end Examination

namespace Audit

variable {S W : Type} {options : AuditOptions} {schedule : Schedule} {target : Target}
  {report : Report}

/-- An audit that comes to a report has examined the repository, and its record is its course. -/
theorem exists_examined {p : Provider (StateT S (StateM W))} {g : Gateway (StateT S (StateM W))}
    {s s' : S} {w w' : W}
    (hrun : ((Audit.run p g options schedule target).run s).run w = ((.ok report, s'), w')) :
    ∃ (record : List Exchange) (x : Examination),
      (((Audit.run p.recorded g.recorded options schedule target).run []).run s).run w =
        (((.ok report, record), s'), w') ∧
      Examined options target x record report ∧ Course p g s w record s' w' := by
  obtain ⟨result, record, s₁, w₁, hrecorded, hconducted, hends, hcourse⟩ :=
    exists_course (Audit.run provider gateway options schedule target) p g s w
  rw [conduct_run] at hrecorded hconducted
  rw [hrun] at hconducted
  cases hconducted
  obtain ⟨x, hexamined⟩ := examined_of_protocol (protocol_of_ends hends)
  exact ⟨record, x, hrecorded, hexamined, hcourse⟩

/-- The report of every audit, with a store in memory or in a file and whatever the provider answers,
accounts for the candidates that the audit has come upon. -/
theorem run_accounts {p : Provider (StateT Store (StateM W))}
    {g : Gateway (StateT Store (StateM W))} {s s' : Store} {w w' : W} (hg : Backend g)
    (hrun : ((Audit.run p g options schedule target).run s).run w = ((.ok report, s'), w')) :
    ∃ (record : List Exchange) (x : Examination),
      (((Audit.run p.recorded g.recorded options schedule target).run []).run s).run w =
        (((.ok report, record), s'), w') ∧
      Examined options target x record report ∧ x.Accounts options report := by
  obtain ⟨record, x, hrecorded, hexamined, hcourse⟩ := exists_examined hrun
  exact ⟨record, x, hrecorded, hexamined,
    Examination.accounts_of_examined hexamined (hg.faithful hcourse)⟩

/-- The audit of one file with an evaluation accounts for that file. -/
theorem run_accounts_of_evaluation :
    ∃ report s',
      ((Audit.run ((singleProvider "a.py" "eval(x)").lift besideStore) (Gateway.inMemory
        (besideStore stillClock)) singleOptions .oldestFirst bareTarget).run {}).run () =
          ((.ok report, s'), ()) ∧
      Backend (Gateway.inMemory (besideStore stillClock)) ∧ report.analyzed = ["a.py"] ∧
      ∃ (record : List Exchange) (x : Examination),
        Examined singleOptions bareTarget x record report ∧
        x.Accounts singleOptions report := by
  obtain ⟨report, s', hrun, -, hanalyzed, -⟩ :=
    run_single_logged "a.py" "eval(x)" (by decide) (by decide)
  obtain ⟨record, x, -, hexamined, haccounts⟩ := run_accounts (.inMemory stillClock) hrun
  exact ⟨report, s', hrun, .inMemory stillClock, hanalyzed, record, x, hexamined, haccounts⟩

end Audit

end SourceAudit
