import SourceAudit.Proofs.Audit.Kept
import SourceAudit.Proofs.Dialogue.Conduct
import SourceAudit.Proofs.Dialogue.Sequence

/-!
# Overlapping fetches do not show

An audit whose fetches overlap calls the store as one does that fetches one file at a time, and comes
to the same report. This takes a provider whose answers to fetches depend on what is asked alone; the
number of fetches under way and the order in which they finish are any.

Said of records, the store answers the same in both audits, whatever it is, and then the two have
everything but fetches in common (`matched_audit`). Said of two runs that start alike, the store may
put other times and identities on what it records, since the fetches take their time; its answers
must not depend on the fetches otherwise (`Steady`, `Alike`).
-/

namespace SourceAudit

open Dialogue Fetches

/-- The answers to fetches, where they depend on what is asked alone. -/
abbrev Content := (owner repo path branch : String) → Except ProviderError (Option String)

/-- The answers to calls, as far as they are fetches. -/
def Content.answers (content : Content) : (c : Call) → c.Answer
  | .fetch owner repo path branch => content owner repo path branch
  | c => c.refusal

variable {S W V : Type} {p : Provider (StateT S (StateM W))} {g : Gateway (StateT S (StateM W))}
  {content : Content} {s s₁ s₂ : S} {w w₁ w₂ : W} {record record' : List Exchange}

/-- What is fetched depends on what is asked alone. -/
def Provider.Supplies (p : Provider (StateT S (StateM W))) (content : Content) : Prop :=
  ∀ owner repo path branch s w,
    (((p.fetch owner repo path branch).run s).run w).1.1 = content owner repo path branch

theorem Course.foreseen (hcontent : p.Supplies content) (h : Course p g s w record s₁ w₁) :
    Foreseen content.answers record := by
  refine h.forall_mem fun c s w hfetch => ?_
  cases c with
  | fetch owner repo path branch => exact hcontent owner repo path branch s w
  | list | store => cases hfetch

/-- The options with so many fetches under way. -/
def AuditOptions.fetching (o : AuditOptions) (concurrency : Nat) : AuditOptions :=
  { o with concurrency }

/-! ### Reports up to times -/

/-- The violation without its identity and its time. -/
def Violation.undated (v : Violation) : Violation :=
  { v with id := "", createdAt := ⟨0, 0, 0⟩ }

/-- The audit without the time of its completion. -/
def Audit.undated (a : Audit) : Audit :=
  { a with completedAt := none }

/-- The report without what the store puts on records while files are scanned. -/
def Report.undated (r : Report) : Report :=
  { r with audit := r.audit.undated, violations := r.violations.map Violation.undated }

/-- Two runs make the same calls on the store and come to the same, but for identities and times. -/
structure Alike (record record' : List Exchange) (result result' : Except AuditError Report) :
    Prop where
  calls : (record.filter (·.isStore)).map (·.call) = (record'.filter (·.isStore)).map (·.call)
  result : result.map Report.undated = result'.map Report.undated

theorem Alike.refl (record : List Exchange) (result : Except AuditError Report) :
    Alike record record result result :=
  ⟨rfl, rfl⟩

/-- Runs that begin alike may go on alike. -/
theorem Alike.prepend {result result' : Except AuditError Report}
    (h : Alike record record' result result') (first : List Exchange) :
    Alike (first ++ record) (first ++ record') result result' := by
  refine ⟨?_, h.result⟩
  simp only [List.filter_append, List.map_append, h.calls]

/-! ### Stores that fetching leaves alone -/

/-- As far as identities and times do not matter, a store answers out of a view of the state, and
what is done for fetches is not in view. -/
structure Steady (p : Provider (StateT S (StateM W))) (g : Gateway (StateT S (StateM W)))
    (view : S → W → V) (log : V → NewViolation → Except StoreError Violation × V)
    (complete : V → String → Nat → Nat → Nat → Except StoreError Audit) : Prop where
  fetch : ∀ owner repo path branch s w {answer s' w'},
    ((p.fetch owner repo path branch).run s).run w = ((answer, s'), w') → view s' w' = view s w
  log : ∀ v s w {answer s' w'}, ((g.logViolation v).run s).run w = ((answer, s'), w') →
    (answer.map Violation.undated, view s' w') = log (view s w) v
  complete : ∀ auditId total violations compliant s w {answer s' w'},
    ((g.completeAudit auditId total violations compliant).run s).run w = ((answer, s'), w') →
      answer.map Audit.undated = complete (view s w) auditId total violations compliant

/-- What is recorded of violations, one after the other. -/
def logAll (log : V → NewViolation → Except StoreError Violation × V) :
    V → List NewViolation → List Violation × V
  | v, [] => ([], v)
  | v, new :: rest =>
    let first := log v new
    let later := logAll log first.2 rest
    (first.1.toOption.toList ++ later.1, later.2)

variable {view : S → W → V} {log : V → NewViolation → Except StoreError Violation × V}
  {complete : V → String → Nat → Nat → Nat → Except StoreError Audit}

/-- What comes of recording violations follows from the view, whatever is fetched in between. -/
theorem Steady.logged (hsteady : Steady p g view log complete)
    (hcourse : Course p g s w record s₁ w₁)
    (hrest : ∀ e ∈ record, e.isStore = false → e.isFetch = true) {vs : List NewViolation}
    (hcalls : (record.filter (·.isStore)).map (·.call) =
      vs.map fun v => .store (.logViolation v)) :
    ((acknowledged record).map Violation.undated, view s₁ w₁) = logAll log (view s w) vs := by
  induction hcourse generalizing vs with
  | nil s w =>
    obtain rfl : vs = [] := by simpa using hcalls
    rfl
  | @cons s s' s₁ w w' w₁ c answer record hrun _ ih =>
    have hothers : ∀ e ∈ record, e.isStore = false → e.isFetch = true :=
      fun e he => hrest e (List.mem_cons_of_mem _ he)
    cases c with
    | list => cases hrest _ List.mem_cons_self rfl
    | fetch owner repo path branch =>
      rw [← hsteady.fetch owner repo path branch s w hrun]
      exact ih hothers hcalls
    | store c =>
      have hstore : Exchange.isStore ⟨.store c, answer⟩ = true := rfl
      rw [List.filter_cons_of_pos hstore, List.map_cons] at hcalls
      obtain ⟨v, later, rfl, hcall, hlater⟩ := List.map_eq_cons_iff.1 hcalls.symm
      cases hcall
      -- What this call has recorded comes before what is recorded later.
      have hfirst : acknowledged (⟨.store (.logViolation v), answer⟩ :: record) =
          answer.toOption.toList ++ acknowledged record := by
        rcases answer with e | recorded
        · rfl
        · rfl
      have hanswer : (answer.map Violation.undated).toOption.toList =
          answer.toOption.toList.map Violation.undated := by
        rcases answer with e | recorded
        · rfl
        · rfl
      rw [logAll, ← hsteady.log v s w hrun, ← ih hothers hlater.symm, hfirst, List.map_append,
        ← hanswer]

/-! ### Two audits -/

/-- The outcomes of an examination are those that the answers to fetches make them. -/
theorem Examination.Recorded.outcomes_eq {x : Examination} {options : AuditOptions}
    {target : Target} {audit : Audit} (h : x.Recorded options target audit record)
    (hforeseen : Foreseen content.answers record) :
    x.outcomes = (x.walk.files.take options.maxFiles).map fun path =>
      (path, (provider.fetchAny target.owner target.name path options.branches).reply
        content.answers) := by
  obtain ⟨fetches, hfetched, hends, hperm⟩ := h.fetched
  rw [← h.selected]
  exact results_eq (fun path => Audit.asks_fetchAny fun _ => rfl) hforeseen hfetched hends hperm

/-- What is recorded of scanning files is of the store or a fetch. -/
theorem Examination.Recorded.isFetch {x : Examination} {options : AuditOptions} {target : Target}
    {audit : Audit} (h : x.Recorded options target audit record) :
    ∀ e ∈ record, e.isStore = false → e.isFetch = true := by
  obtain ⟨fetches, hfetched, hends, -⟩ := h.fetched
  have hasks : ∀ path, (provider.fetchAny target.owner target.name path options.branches).Asks
      (·.isFetch = true) := fun path => Audit.asks_fetchAny fun _ => rfl
  exact isFetch_of_finished hasks hfetched hends

namespace Audit

variable {options : AuditOptions} {schedule schedule' : Schedule} {target : Target}
  {repository : Repository} {audit : SourceAudit.Audit} {manifest : Manifest}
  {result result' : Except AuditError Report} {n : Nat}

/-- Two examinations that start alike go on alike. -/
theorem alike_examine (hsteady : Steady p g view log complete) (hcontent : p.Supplies content)
    (h : (examine provider gateway options schedule target repository audit manifest).Ends record
      result)
    (hcourse : Course p g s w record s₁ w₁)
    (h' : (examine provider gateway (options.fetching n) schedule' target repository audit
      manifest).Ends record' result')
    (hcourse' : Course p g s w record' s₂ w₂) : Alike record record' result result' := by
  obtain ⟨x, walked, files, answer, hmanifest, hwalked, hfiles, rfl, rfl⟩ := ends_examine h
  obtain ⟨x', walked', files', answer', hmanifest', hwalked', hfiles', rfl, rfl⟩ := ends_examine h'
  obtain ⟨t, v, hbefore, hlast⟩ := Course.append_iff.1 hcourse
  obtain ⟨t', v', hbefore', hlast'⟩ := Course.append_iff.1 hcourse'
  obtain ⟨t₀, v₀, hwalk, hscan⟩ := Course.append_iff.1 hbefore
  obtain ⟨t₁, v₁, hwalk', hscan'⟩ := Course.append_iff.1 hbefore'
  -- Both walk alike, and then both fetch the same.
  obtain ⟨rfl, hsame, rfl, rfl⟩ := course_unique hwalked hwalk hwalked' hwalk'
  have houtcomes := hfiles.outcomes_eq (hscan.foreseen hcontent)
  have houtcomes' := hfiles'.outcomes_eq (hscan'.foreseen hcontent)
  obtain ⟨manifest, walk, outcomes⟩ := x
  obtain ⟨manifest', walk', outcomes'⟩ := x'
  dsimp only at hmanifest hmanifest' hsame houtcomes houtcomes'
  subst hmanifest hmanifest' hsame
  obtain rfl : outcomes = outcomes' := houtcomes.trans houtcomes'.symm
  -- So they record the same violations, and what comes of it is the same but for times.
  obtain ⟨hviolations, hview⟩ := Prod.mk.inj
    ((hsteady.logged hscan hfiles.isFetch hfiles.logged).trans
      (hsteady.logged hscan' hfiles'.isFetch hfiles'.logged).symm)
  have hlength : (acknowledged files).length = (acknowledged files').length := by
    simpa using congrArg List.length hviolations
  have hcompleted : answer.map Audit.undated = answer'.map Audit.undated := by
    cases hlast with
    | cons hcomplete _ =>
      cases hlast' with
      | cons hcomplete' _ =>
        calc
          answer.map Audit.undated = complete (view t v) _ _ _ _ :=
            hsteady.complete _ _ _ _ t v hcomplete
          _ = complete (view t' v') _ _ _ _ := by rw [hview, hlength]; rfl
          _ = answer'.map Audit.undated := (hsteady.complete _ _ _ _ t' v' hcomplete').symm
  refine ⟨?_, ?_⟩
  · simp only [List.filter_append, List.map_append, hfiles.logged, hfiles'.logged]
    exact congrArg (fun count => (walked.filter (·.isStore)).map (·.call) ++
      (Examination.violations options audit ⟨manifest', walk, outcomes⟩).map
        (fun v => Call.store (.logViolation v)) ++
      [Call.store (.completeAudit audit.id walk.files.length count
        (Examination.compliant options ⟨manifest', walk, outcomes⟩).length)]) hlength
  · rcases answer with e | completed
    · rcases answer' with e' | completed'
      · cases hcompleted
        rfl
      · cases hcompleted
    · rcases answer' with e' | completed'
      · cases hcompleted
      · have hundated : completed.undated = completed'.undated := Except.ok.inj hcompleted
        simp only [Except.map, Except.mapError, Examination.report, Report.undated, hundated,
          hviolations]
        rfl

/-- Two audits that start alike go on alike, whatever number of fetches they have under way. -/
theorem alike_run (hsteady : Steady p g view log complete) (hcontent : p.Supplies content)
    (h : (Audit.run provider gateway options schedule target).Ends record result)
    (hcourse : Course p g s w record s₁ w₁)
    (h' : (Audit.run provider gateway (options.fetching n) schedule' target).Ends record' result')
    (hcourse' : Course p g s w record' s₂ w₂) : Alike record record' result result' := by
  -- Up to the walk both make the same calls and get the same answers.
  obtain ⟨first, answer, rest, rest', t, v, rfl, rfl, -, -, hrest, hcourse₁, hrest', hcourse₁'⟩ :=
    exists_common_course h hcourse h' hcourse'
  refine Alike.prepend ?_ first
  rcases answer with e | repository
  · obtain ⟨rfl, rfl, -, -⟩ := course_unique hrest hcourse₁ hrest' hcourse₁'
    exact .refl _ _
  obtain ⟨second, answer, rest, rest', t, v, rfl, rfl, -, -, hrest, hcourse₂, hrest', hcourse₂'⟩ :=
    exists_common_course hrest hcourse₁ hrest' hcourse₁'
  refine Alike.prepend ?_ second
  rcases answer with e | audit
  · obtain ⟨rfl, rfl, -, -⟩ := course_unique hrest hcourse₂ hrest' hcourse₂'
    exact .refl _ _
  obtain ⟨third, located, rest, rest', t, v, rfl, rfl, -, -, hrest, hcourse₃, hrest', hcourse₃'⟩ :=
    exists_common_course hrest hcourse₂ hrest' hcourse₂'
  refine Alike.prepend ?_ third
  rcases located with e | manifest
  · obtain ⟨rfl, rfl, -, -⟩ := course_unique hrest hcourse₃ hrest' hcourse₃'
    exact .refl _ _
  · exact alike_examine hsteady hcontent hrest hcourse₃ hrest' hcourse₃'

/-- Whatever an audit comes to, the audit that fetches one file at a time can come to as well by a
record that differs in fetches only. -/
theorem matched_audit (options : AuditOptions) (schedule schedule' : Schedule) (target : Target)
    (answers : (c : Call) → c.Answer) :
    Matched answers (Audit.run provider gateway options schedule target)
      (Audit.run provider gateway (options.fetching 1) schedule' target) := by
  refine Matched.bind (.refl _) fun answer => ?_
  rcases answer with e | repository
  · exact .refl _
  refine Matched.bind (.refl _) fun answer => ?_
  rcases answer with e | audit
  · exact .refl _
  refine Matched.bind (.refl _) fun located => ?_
  rcases located with e | manifest
  · exact .refl _
  -- The walk is the same, and so is the completion.
  refine Matched.bind (.refl _) fun walk => Matched.bind ?_ fun progress => .refl _
  exact matched_run (fun path => asks_fetchAny fun _ => rfl) (fun s path r => asks_takeFile ..) _ _
    _ _ _

end Audit

/-! ### The store in memory -/

/-- What comes of recording a violation in a store with these audits. -/
def logIn (audits : List Audit) (v : NewViolation) : Except StoreError Violation × List Audit :=
  ((Store.runOn (Store.logViolation ⟨0, 0, 0⟩ v) { audits }).1.map Violation.undated, audits)

/-- What comes of completing an audit in a store with these audits. -/
def completeIn (audits : List Audit) (auditId : String) (total violations compliant : Nat) :
    Except StoreError Audit :=
  (Store.runOn (Store.completeAudit ⟨0, 0, 0⟩ auditId total violations compliant)
    { audits }).1.map Audit.undated

/-- What is recorded is what was asked for, with an identity and a time. -/
theorem undated_nextViolation (s : Store) (now : Instant) (v : NewViolation) :
    (s.nextViolation now v).undated = { v with id := "", createdAt := ⟨0, 0, 0⟩ } := rfl

/-- To record a violation, a store looks at its audits and leaves them. -/
theorem undated_runOn_logViolation (now : Instant) (v : NewViolation) (s : Store) :
    ((Store.runOn (Store.logViolation now v) s).1.map Violation.undated,
      (Store.runOn (Store.logViolation now v) s).2.audits) = logIn s.audits v := by
  have hpending : Store.pending { audits := s.audits } v.auditId = s.pending v.auditId := rfl
  rw [logIn, Store.run_logViolation, Store.run_logViolation, hpending]
  rcases Validation.newViolation v with e | u
  · rfl
  rcases s.pending v.auditId with e | audit
  · rfl
  dsimp only
  by_cases h : audit.repositoryId ≠ v.repositoryId
  · rw [if_pos h, if_pos h]
  · rw [if_neg h, if_neg h]
    simp only [Except.map, undated_nextViolation, Store.afterLog]

/-- To complete an audit, a store looks at its audits. -/
theorem undated_runOn_completeAudit (now : Instant) (auditId : String)
    (total violations compliant : Nat) (s : Store) :
    (Store.runOn (Store.completeAudit now auditId total violations compliant) s).1.map
      Audit.undated = completeIn s.audits auditId total violations compliant := by
  have hpending : Store.pending { audits := s.audits } auditId = s.pending auditId := rfl
  rw [completeIn, Store.run_completeAudit, Store.run_completeAudit, hpending]
  rcases Validation.id "audit_id" auditId with e | u
  · rfl
  rcases s.pending auditId with e | audit
  · rfl
  · rfl

/-- The store in memory answers out of its audits. -/
theorem steady_inMemory (p : Provider (StateM W)) (clock : StateM W Instant) :
    Steady (p.lift besideStore) (Gateway.inMemory (besideStore clock)) (fun s _ => s.audits) logIn
      completeIn where
  fetch owner repo path branch s w answer s' w' hrun := by
    cases hrun
    rfl
  log v s w answer s' w' hrun := by
    obtain ⟨now, w₁, hlog⟩ := Gateway.perform_inMemory clock (.logViolation v) s w
    obtain ⟨hsame, -⟩ := Prod.mk.inj (hlog.symm.trans hrun)
    have hundated := undated_runOn_logViolation now v s
    rwa [show Store.runOn (Store.logViolation now v) s = (answer, s') from hsame] at hundated
  complete auditId total violations compliant s w answer s' w' hrun := by
    obtain ⟨now, w₁, hcomplete⟩ := Gateway.perform_inMemory clock
      (.completeAudit auditId total violations compliant) s w
    obtain ⟨hsame, -⟩ := Prod.mk.inj (hcomplete.symm.trans hrun)
    have hundated := undated_runOn_completeAudit now auditId total violations compliant s
    rwa [show Store.runOn (Store.completeAudit now auditId total violations compliant) s =
      (answer, s') from hsame] at hundated

namespace Audit

end Audit

end SourceAudit
