import SourceAudit.Program
import SourceAudit.Proofs.Report.Worst
import SourceAudit.Proofs.Store.Beside
import SourceAudit.Proofs.Store.Operation

/-!
# What the number 2 tells

A process ends with the number 2 in two cases: an audit was completed with violations, none of them of
high or critical severity, and its report was written; or the words of the command line are no
command, and then nothing was done (`start_code`). A caller that waits for 2 as the mark of violations
that do not block takes a mistyped option for one (`start_of_unknown_option`).

The other commands and all errors keep clear of that number, which is shown by what each command
yields, whatever state it is run in (`Yields`).
-/

namespace SourceAudit

section Yields

variable {S W α β : Type} {P : α → Prop} {Q : β → Prop} {act : StateT S (StateM W) α}
  {next : α → StateT S (StateM W) β}

/-- In whatever state an act is done, its result is of this kind. -/
def Yields (P : α → Prop) (act : StateT S (StateM W) α) : Prop :=
  ∀ s w, P ((act.run s).run w).1.1

namespace Yields

theorem pure {a : α} (h : P a) : Yields P (Pure.pure a : StateT S (StateM W) α) :=
  fun _ _ => h

/-- What comes after an act may rely on what the act yields. -/
theorem bind (h : Yields P act) (hnext : ∀ a, P a → Yields Q (next a)) :
    Yields Q (act >>= next) := by
  intro s w
  have hresult := h s w
  rcases hrun : (act.run s).run w with ⟨⟨a, s'⟩, w'⟩
  rw [hrun] at hresult
  rw [run_bind_of_run hrun]
  exact hnext a hresult s' w'

/-- What comes after an act may yield the same whatever the act yields. -/
theorem of_next (hnext : ∀ a, Yields Q (next a)) : Yields Q (act >>= next) :=
  bind (P := fun _ => True) (fun _ _ => trivial) fun a _ => hnext a

end Yields

/-- What an act results in, unless it fails, is of this kind. -/
def OkIs {ε : Type} (P : α → Prop) (r : Except ε α) : Prop :=
  ∀ a, r = .ok a → P a

theorem okIs_error {ε : Type} (e : ε) : OkIs P (.error e) := by
  intro a h
  cases h

theorem okIs_ok {ε : Type} {a : α} (h : P a) : OkIs P (.ok a : Except ε α) := by
  intro b hb
  cases hb
  exact h

end Yields

/-! ### Numbers and their statuses -/

/-- Only warnings have the number 2. -/
theorem ExitStatus.code_eq_two_iff {status : ExitStatus} :
    status.code = 2 ↔ status = .warnings := by
  cases status <;> decide

/-- A command that fails is told by other numbers. -/
theorem AuditError.code_exitStatus (e : AuditError) : e.exitStatus.code ≠ 2 := by
  rw [Ne, ExitStatus.code_eq_two_iff]
  cases e with
  | provider e => cases e <;> exact nofun
  | manifestNotFound | store | settings | ambiguousId | unwritable => exact nofun

/-- The status of an audit is that of warnings if it has violations and none of them blocks. -/
theorem ofWorst_eq_warnings_iff {violations : List Violation} :
    ExitStatus.ofWorst (worstOf? violations) = .warnings ↔
      violations ≠ [] ∧ ∀ v ∈ violations, v.severity.rank < Severity.high.rank := by
  rw [ofWorst_worstOf?]
  by_cases hnil : violations = []
  · simp [hnil]
  by_cases hblocking : ∃ v ∈ violations, Severity.high.rank ≤ v.severity.rank
  · rw [if_neg hnil, if_pos hblocking]
    obtain ⟨v, hv, hhigh⟩ := hblocking
    exact ⟨nofun, fun h => absurd (h.2 v hv) (Nat.not_lt.2 hhigh)⟩
  · rw [if_neg hnil, if_neg hblocking]
    refine iff_of_true rfl ⟨hnil, fun v hv => Nat.lt_of_not_le fun hhigh => ?_⟩
    exact hblocking ⟨v, hv, hhigh⟩

variable {W : Type}

/-! ### The other commands -/

/-- The making of a file of settings never ends with warnings. -/
theorem InitArguments.yields_run (host : Host (StateT Store (StateM W))) (a : InitArguments) :
    Yields (· ≠ .ok .warnings) (a.run host) := by
  refine .of_next fun isThere => ?_
  split
  · exact .of_next fun _ => .pure nofun
  · refine .of_next fun written => ?_
    rcases written with e | u
    · exact .pure nofun
    · exact .of_next fun _ => .pure nofun

/-- A look at a policy never ends with warnings. -/
theorem PolicyArguments.yields_run (host : Host (StateT Store (StateM W))) (a : PolicyArguments)
    (s : Settings) : Yields (· ≠ .ok .warnings) (a.run host s) := by
  refine .of_next fun target => ?_
  rcases target with e | target
  · exact .pure nofun
  refine .of_next fun provider => .of_next fun located => ?_
  rcases located with e | manifest
  · exact .pure nofun
  · refine .of_next fun emitted => ?_
    rcases emitted with e | u
    · exact .pure nofun
    · exact .pure nofun

/-- A look at past audits never ends with warnings. -/
theorem HistoryArguments.yields_run (host : Host (StateT Store (StateM W)))
    (a : HistoryArguments) (s : Settings) : Yields (· ≠ .ok .warnings) (a.run host s) := by
  refine .of_next fun target => ?_
  rcases target with e | target
  · exact .pure nofun
  refine .of_next fun opened => ?_
  rcases opened with e | gateway
  · exact .pure nofun
  refine .of_next fun found => ?_
  rcases found with e | _ | repository
  · exact .pure nofun
  · exact .of_next fun _ => .pure nofun
  refine .of_next fun listed => ?_
  rcases listed with e | audits
  · exact .pure nofun
  · refine .of_next fun handled => ?_
    rcases handled with e | u
    · exact .pure nofun
    · exact .pure nofun

/-! ### Audits that are completed -/

/-- A gateway does not complete audits but by making them completed. -/
def Completes (g : Gateway (StateT Store (StateM W))) : Prop :=
  ∀ id total violations compliant,
    Yields (OkIs (·.status = .completed)) (g.completeAudit id total violations compliant)

/-- An audit that was completed is completed. -/
theorem okIs_completeAudit (now : Instant) (id : String) (total violations compliant : Nat)
    (s : Store) : OkIs (·.status = .completed)
      (Store.runOn (Store.completeAudit now id total violations compliant) s).1 := by
  intro audit h
  obtain ⟨-, found, -, -, rfl, -⟩ := Store.completeAudit_ok_iff.1 (Prod.ext h rfl)
  rfl

theorem completes_inMemory (clock : StateT Store (StateM W) Instant) :
    Completes (Gateway.inMemory clock) :=
  fun _ _ _ _ => .of_next fun _ s _ => okIs_completeAudit _ _ _ _ _ s

theorem completes_file (files : Files (StateT Store (StateM W))) (path : String)
    (clock : StateT Store (StateM W) Instant) : Completes (StoreFile.gateway files path clock) := by
  intro id total violations compliant
  refine .of_next fun now => .of_next fun s => ?_
  have hcompleted := okIs_completeAudit now id total violations compliant s
  rw [Store.runOn] at hcompleted
  rcases hrun : (Store.completeAudit now id total violations compliant).run.run s with ⟨e | a, next⟩
  · exact .pure (okIs_error _)
  · -- The audit is what the operation gives, once the document has been saved.
    rw [hrun] at hcompleted
    refine .of_next fun saved => ?_
    rcases saved with e | u
    · exact .pure (okIs_error _)
    · exact .of_next fun _ => .pure hcompleted

namespace Audit

/-- The audit in a report is completed. -/
theorem yields_completed {p : Provider (StateT Store (StateM W))}
    {g : Gateway (StateT Store (StateM W))} (hg : Completes g) (options : AuditOptions)
    (schedule : Schedule) (target : Target) :
    Yields (OkIs (·.audit.status = .completed)) (Audit.run p g options schedule target) := by
  refine .of_next fun upserted => ?_
  rcases upserted with e | repository
  · exact .pure (okIs_error _)
  refine .of_next fun created => ?_
  rcases created with e | audit
  · exact .pure (okIs_error _)
  refine .of_next fun located => ?_
  rcases located with e | manifest
  · exact .of_next fun _ => .pure (okIs_error _)
  -- The last call completes the audit, and the report has what it gives.
  refine .of_next fun walk => .of_next fun progress => .bind (hg _ _ _ _) fun answer hanswer => ?_
  rcases answer with e | completed
  · exact .pure (okIs_error _)
  · exact .pure (okIs_ok (hanswer completed rfl))

end Audit

namespace AuditArguments

section Parts

variable {m : Type → Type} [Monad m] [MonadStateOf Store m]

/-- Audits what the command is about. -/
def report (host : Host m) (a : AuditArguments) (s : Settings) : m (Except AuditError Report) := do
  let s := a.override s
  match ← host.target a.source with
  | .error e => pure (.error e)
  | .ok target =>
    match ← a.openStore host s with
    | .error e => pure (.error e)
    | .ok gateway => do
      a.announce host target
      match AuditOptions.ofSettings s with
      | .error e => pure (.error (.settings e))
      | .ok options => do
        let provider ← host.provider s a.source
        Audit.run provider gateway options Schedule.oldestFirst target

/-- Writes the report of an audit, if it comes to one. -/
def conclude (host : Host m) (a : AuditArguments) :
    Except AuditError Report → m (Except AuditError ExitStatus)
  | .error e => pure (.error e)
  | .ok report => do
    match ← host.emit (report.renderAs host.inColor a.detailed a.format) a.output with
    | .error e => pure (.error e)
    | .ok () => pure (.ok (ExitStatus.ofWorst report.worst?))

/-- The command audits, and then it writes the report. -/
theorem run_eq [LawfulMonad m] (host : Host m) (a : AuditArguments) (s : Settings) :
    a.run host s = a.report host s >>= a.conclude host := by
  rw [run, report, bind_assoc]
  refine bind_congr fun target => ?_
  rcases target with e | target
  · dsimp only
    rw [pure_bind]
    rfl
  dsimp only
  rw [bind_assoc]
  refine bind_congr fun opened => ?_
  rcases opened with e | gateway
  · dsimp only
    rw [pure_bind]
    rfl
  dsimp only
  rw [bind_assoc]
  refine bind_congr fun _ => ?_
  rw [audit]
  rcases AuditOptions.ofSettings (a.override s) with e | options
  · dsimp only
    rw [pure_bind]
    rfl
  dsimp only
  rw [bind_assoc]
  refine bind_congr fun provider => bind_congr fun result => ?_
  rcases result with e | report
  · rfl
  · rfl

end Parts

/-- Either store that an audit is kept in completes audits. -/
theorem yields_openStore (host : Host (StateT Store (StateM W))) (a : AuditArguments)
    (s : Settings) : Yields (OkIs Completes) (a.openStore host s) := by
  rw [openStore]
  split
  · exact .bind (P := Completes) (.of_next fun _ => .pure (completes_inMemory _))
      fun g hg => .pure (okIs_ok hg)
  · refine .of_next fun loaded => ?_
    rcases loaded with e | store
    · exact .pure (okIs_error _)
    · exact .of_next fun _ => .pure (okIs_ok (completes_file _ _ _))

/-- The audit of a report that the command comes to is completed. -/
theorem yields_report (host : Host (StateT Store (StateM W))) (a : AuditArguments)
    (s : Settings) : Yields (OkIs (·.audit.status = .completed)) (a.report host s) := by
  refine .of_next fun target => ?_
  rcases target with e | target
  · exact .pure (okIs_error _)
  refine .bind (a.yields_openStore host _) fun opened hopened => ?_
  rcases opened with e | gateway
  · exact .pure (okIs_error _)
  refine .of_next fun _ => ?_
  rcases AuditOptions.ofSettings (a.override s) with e | options
  · exact .pure (okIs_error _)
  · exact .of_next fun provider => Audit.yields_completed (hopened gateway rfl) _ _ _

end AuditArguments

/-! ### Endings -/

namespace Program

variable {words : List String} {call : Invocation}

/-- The words run an audit that is completed with violations, none of them of high or critical
severity, and whose report is written. -/
inductive Warned (host : Host (StateT Store (StateM W))) (words : List String) (s : Store) (w : W) :
    Prop
  | intro {call : Invocation} {a : AuditArguments} {settings : Settings} {report : Report}
    {s₁ s₂ s₃ : Store} {w₁ w₂ w₃ : W} :
    Invocation.parse words = .ok call → call.command = .audit a →
    ((Program.settings host call.globals).run s).run w = ((.ok settings, s₁), w₁) →
    ((a.report host settings).run s₁).run w₁ = ((.ok report, s₂), w₂) →
    ((host.emit (report.renderAs host.inColor a.detailed a.format) a.output).run s₂).run w₂ =
      ((.ok (), s₃), w₃) →
    report.audit.status = .completed → report.violations ≠ [] →
    (∀ v ∈ report.violations, v.severity.rank < Severity.high.rank) → Warned host words s w

/-- A command ends with warnings exactly if it is such an audit. -/
theorem execute_eq_warnings_iff (host : Host (StateT Store (StateM W))) (s : Store) (w : W)
    (hparse : Invocation.parse words = .ok call) :
    (((execute host call).run s).run w).1.1 = .ok .warnings ↔ Warned host words s w := by
  rcases hsettings : ((Program.settings host call.globals).run s).run w with ⟨⟨loaded, s₁⟩, w₁⟩
  rw [execute, run_bind_of_run hsettings]
  constructor
  · intro h
    rcases hcommand : call.command with a | a | a | a
    · rw [hcommand] at h
      rcases loaded with e | settings
      · cases h
      rcases hreport : ((a.report host settings).run s₁).run w₁ with ⟨⟨result, s₂⟩, w₂⟩
      have hcompleted := a.yields_report host settings s₁ w₁
      dsimp only at h
      rw [AuditArguments.run_eq, run_bind_of_run hreport] at h
      rw [hreport] at hcompleted
      rcases result with e | report
      · cases h
      rcases hemit : ((host.emit (report.renderAs host.inColor a.detailed a.format) a.output).run
        s₂).run w₂ with ⟨⟨emitted, s₃⟩, w₃⟩
      rw [AuditArguments.conclude, run_bind_of_run hemit] at h
      rcases emitted with e | u
      · cases h
      obtain ⟨hsome, hlow⟩ := ofWorst_eq_warnings_iff.1 (Except.ok.inj h)
      exact ⟨hparse, hcommand, hsettings, hreport, hemit, hcompleted report rfl, hsome, hlow⟩
    -- The other commands never end so.
    · rw [hcommand] at h
      rcases loaded with e | settings
      · cases h
      · exact absurd h (a.yields_run host settings s₁ w₁)
    · rw [hcommand] at h
      rcases loaded with e | settings
      · cases h
      · exact absurd h (a.yields_run host settings s₁ w₁)
    · rw [hcommand] at h
      exact absurd h (a.yields_run host s₁ w₁)
  · rintro ⟨hparse', hcommand, hsettings', hreport, hemit, -, hsome, hlow⟩
    cases hparse.symm.trans hparse'
    cases hsettings.symm.trans hsettings'
    rw [hcommand]
    dsimp only
    rw [AuditArguments.run_eq, run_bind_of_run hreport, AuditArguments.conclude,
      run_bind_of_run hemit]
    exact congrArg Except.ok (ofWorst_eq_warnings_iff.2 ⟨hsome, hlow⟩)

/-- A program ends as its command does; what is told of a failure changes nothing about that. -/
theorem run_start (host : Host (StateT Store (StateM W))) (words : List String) (s : Store)
    (w : W) : (((start host words).run s).run w).1.1 = (((run host words).run s).run w).1.1 := by
  rcases hrun : ((run host words).run s).run w with ⟨⟨ending, s₁⟩, w₁⟩
  rcases htold : ((report host ending).run s₁).run w₁ with ⟨⟨u, s₂⟩, w₂⟩
  rw [start, run_bind_of_run hrun, run_bind_of_run htold]
  rfl

/-- The process ends with the number 2 exactly in two cases: the words of the command line are no
command and ask for neither help nor the version, or they run an audit that is completed with
violations, none of them of high or critical severity. Words that are no command do nothing and end
the process at once, and never with the number of bad arguments. -/
theorem start_code (host : Host (StateT Store (StateM W))) (words : List String) (s : Store)
    (w : W) :
    ∃ ending s' w', ((start host words).run s).run w = ((ending, s'), w') ∧
      (∀ u, Invocation.parse words = .error u →
        ending = .usage u ∧ s' = s ∧ w' = w ∧ ending.code ≠ ExitStatus.badArguments.code ∧
          (u ≠ .help → u ≠ .version → ending.code = 2)) ∧
      (ending.code = 2 ↔
        (∃ u, Invocation.parse words = .error u ∧ u ≠ .help ∧ u ≠ .version) ∨
          Warned host words s w) := by
  rcases hparse : Invocation.parse words with u | call
  · have hrun : ((start host words).run s).run w = ((.usage u, s), w) := by
      rw [start, run, hparse]
      rfl
    have hcode : u.code = 2 ↔ u ≠ .help ∧ u ≠ .version := by cases u <;> decide
    have hgood : u.code ≠ ExitStatus.badArguments.code := by cases u <;> decide
    refine ⟨_, s, w, hrun, fun u' hu => ?_, ?_⟩
    · cases hu
      exact ⟨rfl, rfl, rfl, hgood, fun hhelp hversion => hcode.2 ⟨hhelp, hversion⟩⟩
    · constructor
      · exact fun h => .inl ⟨u, rfl, hcode.1 h⟩
      · rintro (⟨u', hu, hasked⟩ | ⟨hparse', -⟩)
        · cases hu
          exact hcode.2 hasked
        · cases hparse.symm.trans hparse'
  · rcases hexecute : ((execute host call).run s).run w with ⟨⟨result, s₁⟩, w₁⟩
    rcases hstart : ((start host words).run s).run w with ⟨⟨ending, s'⟩, w'⟩
    have hending : ending =
        (match result with
          | .ok status => .finished status
          | .error e => .failed e) := by
      have hrun := run_start host words s w
      rw [hstart, run, hparse] at hrun
      dsimp only at hrun
      rw [run_bind_of_run hexecute] at hrun
      rcases result with e | status
      · exact hrun
      · exact hrun
    have hwarned := execute_eq_warnings_iff host s w hparse
    rw [hexecute] at hwarned
    refine ⟨ending, s', w', rfl, nofun, ?_⟩
    rw [or_iff_right (by rintro ⟨u, hu, -⟩; cases hu), ← hwarned, hending]
    rcases result with e | status
    · exact iff_of_false e.code_exitStatus nofun
    · rw [Except.ok.injEq]
      exact ExitStatus.code_eq_two_iff

/-- A host without files whose messages nobody reads. -/
def silentHost : Host (StateT Store (StateM Unit)) where
  files :=
    { kind? := fun _ => pure none
      read := fun _ => pure (.error .notFound)
      write := fun _ _ => pure (.error .notFound)
      makeDirectory := fun _ => pure (.error .notFound)
      rename := fun _ _ => pure (.error .notFound)
      list := fun _ => pure (.error .notFound)
      canonical := fun _ => pure (.error .notFound) }
  transport := fun _ => pure (.error (.unreachable "no transport is available"))
  clock := pure ⟨0, 0, 0⟩
  environment := fun _ => pure none
  home := none
  inColor := false
  say := fun _ => pure ()
  note := fun _ => pure ()

/-- An option that there is not ends the process with the number of warnings, and no audit was
made. -/
theorem start_of_unknown_option :
    ∃ ending s' w', ((start silentHost ["--bogus"]).run {}).run () = ((ending, s'), w') ∧
      ending = .usage .unknownArgument ∧ s'.audits = [] ∧ ending.code = ExitStatus.warnings.code ∧
      ending.code ≠ ExitStatus.badArguments.code :=
  ⟨_, _, _, rfl, by decide, rfl, by decide, by decide⟩

end Program

end SourceAudit
