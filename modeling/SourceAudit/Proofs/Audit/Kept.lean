import SourceAudit.Proofs.Walk.Queue
import SourceAudit.Proofs.Audit.Logged
import SourceAudit.Proofs.Audit.Unlocated
import SourceAudit.Proofs.Report.Worst
import SourceAudit.Proofs.Scan.Order

/-!
# What a store keeps of the hits

The hits of a scan are recorded one by one, and a store checks each like any violation that it is
given. What it refuses is left out of the report, of the counts and of the exit status. It refuses
all hits in a file whose path it does not take, and none in another file as far as the descriptions
are quotable (`run_keeps_hits`).
-/

namespace SourceAudit

open Dialogue Validation

namespace Audit

/-- The records of an audit that has examined a repository and was completed, with its report. -/
inductive Examined (options : AuditOptions) (target : Target) (x : Examination) :
    List Exchange → Report → Prop
  | intro (repository : Repository) (opened completed : Audit)
    (located walked files : List Exchange) :
    (∀ e ∈ located ++ walked, e.isStore = false) →
    (Manifest.locate provider target.owner target.name options.manifestNames
      options.branches).Ends located (.ok x.manifest) →
    (Walk.roots provider target.owner target.name options.walk {} options.sourceRoots).Ends walked
      x.walk →
    x.Recorded options target opened files →
    Examined options target x
      (opening target repository opened ++ located ++ walked ++ files ++
        [⟨.store (.completeAudit opened.id x.walk.files.length (acknowledged files).length
          (x.compliant options).length), .ok completed⟩])
      (x.report options repository (acknowledged files) completed)

/-- An audit that comes to a report has examined the repository. -/
theorem examined_of_protocol {options : AuditOptions} {target : Target} {record : List Exchange}
    {report : Report} (h : Protocol options target record (.ok report)) :
    ∃ x, Examined options target x record report := by
  generalize hresult : Except.ok report = result at h
  cases h with
  | refused | unopened | failed => cases hresult
  | examined repository audit x located walked files answer hbeside hlocated hwalked hfiles =>
    rcases answer with e | completed
    · cases hresult
    · obtain rfl := Except.ok.inj hresult
      exact ⟨x, .intro repository audit completed located walked files hbeside hlocated hwalked
        hfiles⟩

/-- The record of an audit with a store in memory falls into parts: the audit is opened, its files are
scanned while it is pending, and it is completed. -/
theorem replays_files {target : Target} {repository : Repository}
    {opened completed : SourceAudit.Audit} {located walked files : List Exchange}
    {total violations compliant : Nat} {s s' : Store}
    (hbeside : ∀ e ∈ located ++ walked, e.isStore = false)
    (h : s.Replays (opening target repository opened ++ located ++ walked ++ files ++
      [⟨.store (.completeAudit opened.id total violations compliant), .ok completed⟩]) s')
    (hunused : s.Unused completed.id) :
    ∃ (s₁ s₂ : Store) (now : Instant),
      (s₁.audit? opened.id = some opened ∧ opened.status = .pending ∧
        s₁.violationsOf opened.id = [] ∧ Validation.id "audit_id" opened.id = .ok () ∧
        Validation.id "repository_id" opened.repositoryId = .ok ()) ∧
      s₁.Replays files s₂ ∧
      Store.runOn (Store.completeAudit now opened.id total violations compliant) s₂ =
        (.ok completed, s') := by
  rw [List.append_assoc (opening ..)] at h
  obtain ⟨s₃, hbefore, hcomplete⟩ := Store.replays_append_iff.1 h
  obtain ⟨s₂, hbefore, hfiles⟩ := Store.replays_append_iff.1 hbefore
  obtain ⟨s₁, hopening, hlooked⟩ := Store.replays_append_iff.1 hbefore
  obtain rfl := hlooked.eq_of_beside hbeside
  obtain ⟨now, hcomplete⟩ := Store.replays_singleton_iff.1 hcomplete
  -- The audit that is completed is the one that was opened, under an identity that was unused.
  obtain ⟨-, found, hfound, -, rfl, -⟩ := Store.completeAudit_ok_iff.1 hcomplete
  have hid : found.id = opened.id := Store.id_of_audit? hfound
  have hunused' : s.Unused opened.id := hid ▸ hunused
  exact ⟨s₂, s₃, now, hopening.opened hunused', hfiles, hcomplete⟩

/-- A store in memory refuses only what is not fit to be recorded, if the audit has an identity that
is new to it. -/
theorem Examined.refusesUnfit {options : AuditOptions} {target : Target} {x : Examination}
    {record : List Exchange} {report : Report} {s s' : Store}
    (h : Examined options target x record report) (hreplays : s.Replays record s')
    (hunused : s.Unused report.audit.id) : RefusesUnfit record := by
  obtain ⟨repository, opened, completed, located, walked, files, hbeside, -, -, hfiles⟩ := h
  obtain ⟨s₁, s₂, -, ⟨hopened, hpending, -⟩, hlogged, -⟩ := replays_files hbeside hreplays hunused
  intro v e he
  -- Violations are recorded with the files and nowhere else.
  rcases List.mem_append.1 he with he | he
  · rcases List.mem_append.1 he with he | he
    · rw [List.append_assoc] at he
      rcases List.mem_append.1 he with he | he
      · simp [opening] at he
      · cases hbeside _ he
    · exact hlogged.refusesUnfit hopened hpending (x.forall_violations options opened)
        hfiles.logged v e he
  · simp at he

end Audit

namespace Examination

variable (x : Examination) (options : AuditOptions) (keep : Hit → Bool)

/-- The hits that are kept of a file: none where the store does not take the path, and else those of
its text that `keep` says. -/
def keptIn (t : String × String) : List Hit :=
  if Clean maxPath t.1 then (x.hits options t.2).filter keep else []

/-- The hits that are kept, with their files. -/
def kept : List (String × Hit) :=
  x.texts.flatMap fun t => (x.keptIn options keep t).map (t.1, ·)

variable {x options keep}

/-- The files with a text are some of those with an outcome, in their order. -/
theorem texts_sublist (x : Examination) : (x.texts.map (·.1)).Sublist (x.outcomes.map (·.1)) := by
  obtain ⟨manifest, walk, outcomes⟩ := x
  induction outcomes with
  | nil => exact .slnil
  | cons o rest ih =>
    rcases o with ⟨path, fetched⟩
    rcases hf : fetched.text? with _ | content
    · rw [texts_cons_of_none hf]
      exact ih.cons _
    · rw [texts_cons_of_some hf]
      exact ih.cons_cons _

/-- Every file is scanned once. -/
theorem nodup_texts {target : Target} {audit : Audit} {record walked : List Exchange}
    (hwalked : (Walk.roots provider target.owner target.name options.walk {}
      options.sourceRoots).Ends walked x.walk)
    (hrecorded : x.Recorded options target audit record) : (x.texts.map (·.1)).Nodup := by
  have hfiles : x.walk.files.Nodup := Walk.nodup_of_ends_roots List.nodup_nil hwalked
  -- The files with a text are some of the candidates, and these are taken up once each.
  refine (x.texts_sublist).nodup ?_
  rw [hrecorded.selected]
  exact (List.take_sublist _ _).nodup hfiles

/-- What is paired with a file is all of that file. -/
theorem filter_pairs (file path : String) (hits : List Hit) :
    (hits.map (file, ·)).filter (·.1 == path) = if file = path then hits.map (file, ·) else [] := by
  split
  · rename_i h
    exact List.filter_eq_self.2 fun k hk => by
      obtain ⟨hit, -, rfl⟩ := List.mem_map.1 hk
      exact beq_iff_eq.2 h
  · rename_i h
    exact List.filter_eq_nil_iff.2 fun k hk => by
      obtain ⟨hit, -, rfl⟩ := List.mem_map.1 hk
      exact fun hpath => h (beq_iff_eq.1 hpath)

/-- Of what is kept, what is in one file is what is kept in that file. -/
theorem filter_kept (hnodup : (x.texts.map (·.1)).Nodup) {t : String × String}
    (ht : t ∈ x.texts) :
    (x.kept options keep).filter (·.1 == t.1) = (x.keptIn options keep t).map (t.1, ·) := by
  rw [kept, List.filter_flatMap]
  simp only [filter_pairs]
  generalize x.texts = texts at hnodup ht ⊢
  induction texts with
  | nil => cases ht
  | cons first rest ih =>
    rw [List.map_cons, List.nodup_cons] at hnodup
    rw [List.flatMap_cons]
    rcases List.mem_cons.1 ht with rfl | ht
    · -- The file does not come up again.
      have hrest : (rest.flatMap fun u =>
          if u.1 = t.1 then (x.keptIn options keep u).map (u.1, ·) else []) = [] := by
        refine List.flatMap_eq_nil_iff.2 fun u hu => if_neg fun hpath => hnodup.1 ?_
        rw [← hpath]
        exact List.mem_map_of_mem hu
      rw [hrest, if_pos rfl, List.append_nil]
    · have hfirst : first.1 ≠ t.1 := by
        intro hpath
        refine hnodup.1 ?_
        rw [hpath]
        exact List.mem_map_of_mem ht
      rw [if_neg hfirst, List.nil_append, ih hnodup.2 ht]

/-- What a store records of the violations of an examination are the kept hits. -/
theorem filter_violations {audit : Audit} (haudit : id "audit_id" audit.id = .ok ())
    (hrepository : id "repository_id" audit.repositoryId = .ok ())
    (hwellformed : ∀ t ∈ x.texts, ∀ h ∈ x.hits options t.2, h.Wellformed) :
    (x.violations options audit).filter (newViolation · = .ok ()) =
      (x.kept options fun h => Clean maxDescription h.description).map fun k =>
        .ofHit audit k.1 k.2 := by
  rw [violations, kept, List.filter_flatMap, List.map_flatMap]
  refine List.flatMap_congr fun t ht => ?_
  rw [List.filter_map, keptIn, List.map_map]
  -- Of what a store checks, only the path and the description may be refused.
  have hfit : ∀ h ∈ x.hits options t.2, newViolation (.ofHit audit t.1 h) = .ok () ↔
      Clean maxPath t.1 ∧ Clean maxDescription h.description := fun h hh =>
    newViolation_ofHit_iff haudit hrepository (hwellformed t ht h hh)
  by_cases hpath : Clean maxPath t.1
  · rw [if_pos hpath]
    refine congrArg _ (List.filter_congr fun h hh => ?_)
    exact decide_eq_decide.2 ((hfit h hh).trans (and_iff_right hpath))
  · rw [if_neg hpath]
    refine congrArg _ (List.filter_eq_nil_iff.2 fun h hh => ?_)
    simpa using fun hok => hpath ((hfit h hh).1 hok).1

/-- A report, and the store that its audit was written to, show the kept hits and nothing else. -/
structure Shows (x : Examination) (options : AuditOptions) (keep : Hit → Bool) (report : Report)
    (s : Store) : Prop where
  /-- The store has the violations that the report shows. -/
  stored : s.violationsOf report.audit.id = report.violations
  /-- They are the kept hits, file by file: the lines, rules, categories, severities and
  descriptions are theirs. -/
  violations : report.violations.map (·.toNewViolation) =
    (x.kept options keep).map fun k => .ofHit report.audit k.1 k.2
  /-- Those in one file are the hits that are kept in it, in their order. -/
  inFile : ∀ t ∈ x.texts,
    ((s.violationsOf report.audit.id).filter (·.filePath == t.1)).map (·.toNewViolation) =
      (x.keptIn options keep t).map (.ofHit report.audit t.1)
  counted : report.audit.violationCount = (x.kept options keep).length
  /-- No kept hit is more urgent than the worst severity of the report. -/
  worst : ∀ k ∈ x.kept options keep,
    ∃ worst, report.worst? = some worst ∧ k.2.severity.rank ≤ worst.rank
  /-- The worst severity is that of a kept hit. -/
  attained : ∀ worst, report.worst? = some worst →
    ∃ k ∈ x.kept options keep, k.2.severity = worst
  /-- The exit status tells whether there are kept hits and whether one of them is blocking. -/
  status : ExitStatus.ofWorst report.worst? =
    if x.kept options keep = [] then .success
    else if ∃ k ∈ x.kept options keep, Severity.high.rank ≤ k.2.severity.rank then .blocking
    else .warnings

/-- The violations that are recorded of hits have the severities of the hits. -/
theorem exists_severity_iff {violations : List Violation} {hits : List (String × Hit)}
    {audit : Audit} (h : violations.map (·.toNewViolation) =
      hits.map fun k => .ofHit audit k.1 k.2) (P : Severity → Prop) :
    (∃ v ∈ violations, P v.severity) ↔ ∃ k ∈ hits, P k.2.severity := by
  have hseverities : violations.map (·.severity) = hits.map (·.2.severity) := by
    have hmap := congrArg (List.map (·.severity)) h
    rwa [List.map_map, List.map_map] at hmap
  have hexists := congrArg (fun severities => ∃ severity ∈ severities, P severity) hseverities
  simpa using hexists

/-- All of it follows from the violations. -/
theorem shows_of_violations {report : Report} {s : Store} (hnodup : (x.texts.map (·.1)).Nodup)
    (hstored : s.violationsOf report.audit.id = report.violations)
    (hcounted : report.audit.violationCount = report.violations.length)
    (hviolations : report.violations.map (·.toNewViolation) =
      (x.kept options keep).map fun k => .ofHit report.audit k.1 k.2) :
    x.Shows options keep report s := by
  have hseverity := exists_severity_iff hviolations
  refine ⟨hstored, hviolations, fun t ht => ?_, ?_, fun k hk => ?_, fun worst hworst => ?_, ?_⟩
  · have hfile : ((report.violations.map (·.toNewViolation)).filter (·.filePath == t.1)) =
        (x.keptIn options keep t).map (.ofHit report.audit t.1) := by
      rw [hviolations, List.filter_map]
      have hpath : ((fun v : NewViolation => v.filePath == t.1) ∘
          fun k : String × Hit => NewViolation.ofHit report.audit k.1 k.2) = (·.1 == t.1) := rfl
      rw [hpath, filter_kept hnodup ht, List.map_map]
      rfl
    rw [hstored, ← hfile, List.filter_map]
    rfl
  · rw [hcounted, ← List.length_map (f := (·.toNewViolation)), hviolations, List.length_map]
  · obtain ⟨v, hv, heq⟩ := (hseverity (· = k.2.severity)).2 ⟨k, hk, rfl⟩
    obtain ⟨worst, hworst, hrank⟩ := rank_le_worstOf? hv
    exact ⟨worst, hworst, heq ▸ hrank⟩
  · exact (hseverity (· = worst)).1 (mem_of_worstOf? hworst)
  · have hnil : report.violations = [] ↔ x.kept options keep = [] := by
      rw [← List.map_eq_nil_iff (f := (·.toNewViolation)), hviolations, List.map_eq_nil_iff]
    rw [Report.worst?, ofWorst_worstOf?]
    simp only [hnil, hseverity (Severity.high.rank ≤ ·.rank)]

/-- An audit with a store in memory shows the hits that the store takes. -/
theorem shows_of_replays {target : Target} {record : List Exchange} {report : Report}
    {s s' : Store} (hexamined : Audit.Examined options target x record report)
    (hreplays : s.Replays record s') (hunused : s.Unused report.audit.id)
    (hwellformed : ∀ t ∈ x.texts, ∀ h ∈ x.hits options t.2, h.Wellformed) :
    x.Shows options (fun h => Clean maxDescription h.description) report s' := by
  obtain ⟨repository, opened, completed, located, walked, files, hbeside, -, hwalked, hfiles⟩ :=
    hexamined
  obtain ⟨s₁, s₂, now, ⟨hopened, hpending, hnone, haudit, hrepository⟩, hlogged, hcomplete⟩ :=
    Audit.replays_files hbeside hreplays hunused
  obtain ⟨-, found, hfound, -, rfl, rfl⟩ := Store.completeAudit_ok_iff.1 hcomplete
  obtain ⟨hfound', hmap, hviolations⟩ := hlogged.logged hopened hpending
    (x.forall_violations options opened) hfiles.logged
  obtain rfl := Option.some.inj (hfound'.symm.trans hfound)
  rw [hnone, List.nil_append] at hviolations
  refine shows_of_violations (nodup_texts hwalked hfiles) hviolations rfl ?_
  exact hmap.trans (filter_violations haudit hrepository hwellformed)

end Examination

namespace Audit

variable {W : Type} (p : Provider (StateM W)) (clock : StateM W Instant) {settings : Settings}
  {options : AuditOptions} (schedule : Schedule) (target : Target) {s s' : Store} {w w' : W}
  {report : Report}

/-- The scanner of options in settings is the one in the settings. -/
theorem scanner_of_ofSettings (h : AuditOptions.ofSettings settings = .ok options) :
    options.scanner = .ofSettings settings := by
  rw [AuditOptions.ofSettings] at h
  rcases hglobs : settings.excludeGlobs with e | exclude
  · rw [hglobs] at h
    cases h
  · rw [hglobs] at h
    rw [← Except.ok.inj h]

/-- The hits of an examination with settings are well-formed. -/
theorem wellformed_of_mem_hits {x : Examination} {content : String} {h : Hit}
    (hoptions : AuditOptions.ofSettings settings = .ok options) (hh : h ∈ x.hits options content) :
    h.Wellformed := by
  rw [Examination.hits, Examination.scanner, scanner_of_ofSettings hoptions] at hh
  exact Scanner.wellformed_of_mem_scan hh

/-! ### Repositories of one file -/

/-- A provider of an empty manifest and of one other file. -/
def singleProvider (path content : String) : Provider (StateM Unit) where
  fetch _ _ asked _ := pure (.ok (some (if asked = "requirements.txt" then "" else content)))
  list _ _ _ := pure (.ok [⟨path, path, .file⟩])

/-- Settings to look for the manifest and at the root of the repository. -/
def singleSettings : Settings where
  analysis := { sourceRoots := [""], maxDepth := 1 }
  manifest := { filenames := ["requirements.txt"], branches := ["main"] }

/-- The options in the settings. -/
def singleOptions : AuditOptions where
  maxFiles := singleSettings.analysis.maxFiles
  concurrency := singleSettings.analysis.concurrency
  sourceRoots := [""]
  branches := ["main"]
  manifestNames := ["requirements.txt"]
  walk := .ofSettings singleSettings.analysis []
  scanner := .ofSettings singleSettings

theorem ofSettings_single : AuditOptions.ofSettings singleSettings = .ok singleOptions := rfl

/-- The examination of the one file. -/
def singleExamination (path content : String) : Examination where
  manifest := ⟨"requirements.txt", ""⟩
  walk := { files := [path] }
  outcomes := [(path, .ok (some content))]

section Monad

variable {m : Type → Type} [Monad m] [LawfulMonad m] {q : Provider m} {path : String}

/-- Where every listing has the one file, it is the candidate. -/
theorem roots_single (hlist : ∀ owner repo directory,
      q.list owner repo directory = pure (.ok [⟨path, path, .file⟩]))
    (hcandidate : singleOptions.walk.isCandidate path = true) (owner repo : String) :
    Walk.roots q owner repo singleOptions.walk {} singleOptions.sourceRoots =
      pure { files := [path] } := by
  have hentries : Walk.addEntries singleOptions.walk {} [⟨path, path, .file⟩] =
      ({ files := [path] }, []) := by
    have hroom : singleOptions.walk.maxCandidates ≠ 0 := by decide
    simp [Walk.addEntries, Walk.addFile, hcandidate, hroom]
  have hdepth : singleOptions.walk.maxDepth = 1 := rfl
  have hroots : singleOptions.sourceRoots = [""] := rfl
  simp [hroots, Walk.roots, Walk.into, hdepth, Walk.levels, Walk.level, hlist, hentries]

/-- One fetch is taken when it has finished. -/
theorem fetches_single {ρ σ : Type} {fetch : String → m ρ} {take : σ → String → ρ → m σ} {r : ρ}
    (hfetch : fetch path = pure r) (start : σ) :
    Fetches.run singleOptions.concurrency .oldestFirst fetch take start [path] =
      take start path r := by
  have hconcurrency : singleOptions.concurrency = 4 := rfl
  simp [hconcurrency, Fetches.run, Fetches.drain, Fetches.refill, Fetches.finishNth,
    Fetches.unfinished, Schedule.oldestFirst, hfetch]

/-- Where one file is selected, to examine the repository is to record its hits and to complete the
audit. -/
theorem examine_first {g : Gateway m} {o : AuditOptions} {x : Examination} {content : String}
    (target : Target)
    (hroots : Walk.roots q target.owner target.name o.walk {} o.sourceRoots = pure x.walk)
    (hselected : x.walk.files.take o.maxFiles = [path])
    (hconcurrency : o.concurrency = singleOptions.concurrency)
    (hfetch : q.fetchAny target.owner target.name path o.branches = pure (.ok (some content)))
    (houtcomes : x.outcomes = [(path, .ok (some content))])
    (repository : Repository) (audit : Audit) :
    examine q g o .oldestFirst target repository audit x.manifest = (do
      let logged ← logHits g audit path (x.hits o content)
      match ← g.completeAudit audit.id x.walk.files.length logged.length
          (if (x.hits o content).isEmpty then 1 else 0) with
      | .error e => pure (.error (.store e))
      | .ok completed => pure (.ok (x.report o repository logged completed))) := by
  obtain ⟨manifest, walk, outcomes⟩ := x
  dsimp only at hroots hselected houtcomes ⊢
  subst houtcomes
  rw [examine, hroots, pure_bind]
  dsimp only
  rw [hselected, hconcurrency, fetches_single hfetch, takeFile, bind_assoc]
  refine bind_congr fun logged => ?_
  rw [pure_bind]
  rfl

end Monad

/-- An audit for which one file is selected comes to a report if its hits leave the audit open. -/
theorem run_first {q : Provider (StateM Unit)} {o : AuditOptions} {x : Examination}
    {path content : String} {logged : List Violation} {s₃ : Store}
    (hlocate : ((Manifest.locate (q.lift besideStore) bareTarget.owner bareTarget.name
      o.manifestNames o.branches).run bareOpened).run () = ((.ok x.manifest, bareOpened), ()))
    (hroots : Walk.roots (q.lift besideStore) bareTarget.owner bareTarget.name o.walk {}
      o.sourceRoots = pure x.walk)
    (hselected : x.walk.files.take o.maxFiles = [path])
    (hconcurrency : o.concurrency = singleOptions.concurrency)
    (hfetch : (q.lift (besideStore (W := Unit))).fetchAny bareTarget.owner bareTarget.name path
      o.branches = pure (.ok (some content)))
    (houtcomes : x.outcomes = [(path, .ok (some content))])
    (hlogged : ((logHits (Gateway.inMemory (besideStore stillClock)) bareAudit path
      (x.hits o content)).run bareOpened).run () = ((logged, s₃), ()))
    (hfound : s₃.audit? bareAudit.id = some bareAudit) :
    ∃ compliant, ((Audit.run (q.lift besideStore) (Gateway.inMemory (besideStore stillClock)) o
      .oldestFirst bareTarget).run {}).run () =
        ((.ok (x.report o (Store.nextRepository {} ⟨0, 0, 0⟩ bareTarget.owner bareTarget.name
          bareTarget.url) logged
          (Store.completedAudit ⟨0, 0, 0⟩ x.walk.files.length logged.length compliant bareAudit)),
          s₃.afterSettle bareAudit.id (Store.completedAudit ⟨0, 0, 0⟩ x.walk.files.length
            logged.length compliant bareAudit)), ()) := by
  have hcomplete : ∀ total compliant, (((Gateway.inMemory (besideStore stillClock)).completeAudit
      bareAudit.id total logged.length compliant).run s₃).run () =
        ((.ok (Store.completedAudit ⟨0, 0, 0⟩ total logged.length compliant bareAudit),
          s₃.afterSettle bareAudit.id
            (Store.completedAudit ⟨0, 0, 0⟩ total logged.length compliant bareAudit)), ()) :=
    fun total compliant => congrArg (·, ()) (Store.completeAudit_ok_iff.2
      ⟨Validation.id_deriveId _ _, bareAudit, hfound, rfl, rfl, rfl⟩)
  refine ⟨if (x.hits o content).isEmpty then 1 else 0, ?_⟩
  rw [Audit.run, run_bind_of_run upsert_bareTarget]
  dsimp only
  rw [run_bind_of_run createAudit_bareTarget]
  dsimp only
  rw [run_bind_of_run hlocate]
  dsimp only
  rw [examine_first bareTarget hroots hselected hconcurrency hfetch houtcomes]
  rw [run_bind_of_run hlogged, run_bind_of_run (hcomplete _ _)]
  rfl

/-- An audit of the one file comes to a report if its hits leave the audit open. -/
theorem run_single {path content : String} {logged : List Violation} {s₃ : Store}
    (hcandidate : singleOptions.walk.isCandidate path = true)
    (hmanifest : path ≠ "requirements.txt")
    (hlogged : ((logHits (Gateway.inMemory (besideStore stillClock)) bareAudit path
      ((singleExamination path content).hits singleOptions content)).run bareOpened).run () =
        ((logged, s₃), ()))
    (hfound : s₃.audit? bareAudit.id = some bareAudit) :
    ∃ compliant, ((Audit.run ((singleProvider path content).lift besideStore) (Gateway.inMemory
      (besideStore stillClock)) singleOptions .oldestFirst bareTarget).run {}).run () =
        ((.ok ((singleExamination path content).report singleOptions (Store.nextRepository {}
          ⟨0, 0, 0⟩ bareTarget.owner bareTarget.name bareTarget.url) logged
          (Store.completedAudit ⟨0, 0, 0⟩ 1 logged.length compliant bareAudit)),
          s₃.afterSettle bareAudit.id
            (Store.completedAudit ⟨0, 0, 0⟩ 1 logged.length compliant bareAudit)), ()) := by
  have hfetch : ((singleProvider path content).lift (besideStore (W := Unit))).fetchAny
      bareTarget.owner bareTarget.name path singleOptions.branches = pure (.ok (some content)) := by
    have hone : ((singleProvider path content).lift (besideStore (W := Unit))).fetch
        bareTarget.owner bareTarget.name path "main" = pure (.ok (some content)) := by
      simp [Provider.lift, singleProvider, hmanifest]
    have hbranches : singleOptions.branches = ["main"] := rfl
    simp [hbranches, Provider.fetchAny, Provider.fetchFrom, hone]
  exact run_first (x := singleExamination path content) rfl
    (roots_single (fun _ _ _ => rfl) hcandidate _ _) rfl rfl hfetch rfl hlogged hfound

/-- What a rule reports of the evaluation of a text. -/
def evaluationHit : Hit where
  ruleId := "SEC001"
  line := 1
  category := .security
  severity := .critical
  description := "Unsafe dynamic evaluation: eval()"

theorem evaluationHit_mem (path : String) :
    evaluationHit ∈ (singleExamination path "eval(x)").hits singleOptions "eval(x)" := by
  refine Scanner.mem_scan.2 ⟨Rule.dynamicEvaluation, ?_, ?_⟩
  · exact List.mem_map.2 ⟨Rule.dynamicEvaluation, List.mem_filter.2
      ⟨by simp [Rule.catalogue], rfl⟩, rfl⟩
  · have hhits : ∀ c, Rule.dynamicEvaluation.hits c (Text.lines "eval(x)".toList) =
        [evaluationHit] := fun c => rfl
    rw [hhits]
    exact List.mem_singleton_self _

/-- What comes of the hits in the one file: those that the store takes are in the report and in the
store, and the audit is the one that was opened. -/
theorem run_single_logged (path content : String)
    (hcandidate : singleOptions.walk.isCandidate path = true)
    (hmanifest : path ≠ "requirements.txt") :
    ∃ report s',
      ((Audit.run ((singleProvider path content).lift besideStore) (Gateway.inMemory
        (besideStore stillClock)) singleOptions .oldestFirst bareTarget).run {}).run () =
          ((.ok report, s'), ()) ∧
      report.audit.id = bareAudit.id ∧ report.analyzed = [path] ∧
      report.audit.violationCount = report.violations.length ∧
      s'.violationsOf report.audit.id = report.violations ∧
      report.violations.map (·.toNewViolation) =
        (((singleExamination path content).hits singleOptions content).map
          (.ofHit bareAudit path)).filter (newViolation · = .ok ()) := by
  obtain ⟨logged, s₃, w, hlogged, hfound, hmap, hviolations⟩ := run_logHits stillClock ()
    audit?_bareOpened rfl path ((singleExamination path content).hits singleOptions content)
  obtain ⟨compliant, hrun⟩ := run_single hcandidate hmanifest hlogged hfound
  exact ⟨_, _, hrun, rfl, rfl, rfl, hviolations, hmap⟩

/-- An audit with a store in memory, under an identity that is new to the store, loses no hit but by
what no store takes. For every file that was scanned and whose path is one that a store takes, the
store has the hits of its text, in their order, all those that are quotable and perhaps others; for a
file with another path it has none. The violations of the report, their number, the worst severity
and the exit status are those of the hits that were kept. -/
theorem run_keeps_hits (hoptions : AuditOptions.ofSettings settings = .ok options)
    (hrun : ((Audit.run (p.lift besideStore) (Gateway.inMemory (besideStore clock)) options schedule
      target).run s).run w = ((.ok report, s'), w'))
    (hunused : s.Unused report.audit.id) :
    ∃ (record : List Exchange) (x : Examination) (keep : Hit → Bool),
      (((Audit.run (p.lift besideStore).recorded (Gateway.inMemory (besideStore clock)).recorded
        options schedule target).run []).run s).run w = (((.ok report, record), s'), w') ∧
      Examined options target x record report ∧
      (∀ t ∈ x.texts, ∀ h ∈ x.hits options t.2, h.Quotable → keep h = true) ∧
      x.Shows options keep report s' := by
  rw [← conduct_run] at hrun
  obtain ⟨record, htranscript⟩ := exists_transcript_of_conduct hrun
  obtain ⟨hends, hreplays⟩ := replays_of_transcript htranscript
  obtain ⟨x, hexamined⟩ := examined_of_protocol (protocol_of_ends hends)
  have hwellformed : ∀ t ∈ x.texts, ∀ h ∈ x.hits options t.2, h.Wellformed := fun t _ h hh =>
    wellformed_of_mem_hits hoptions hh
  refine ⟨record, x, _, ?_, hexamined, fun t ht h hh hquotable => ?_,
    Examination.shows_of_replays hexamined hreplays hunused hwellformed⟩
  · rw [← conduct_run, run_conduct_recorded, StateT.run_map, StateT.run_map, htranscript]
    rfl
  · exact decide_eq_true (hquotable.clean (hwellformed t ht h hh).description)

/-- A tab in the path of a file hides an evaluation in it: the scan has a critical hit, and the audit
shows none and succeeds. -/
theorem run_loses_hits_of_tab_in_path :
    evaluationHit ∈ (singleExamination "a\tb.py" "eval(x)").hits singleOptions "eval(x)" ∧
      evaluationHit.severity = .critical ∧
      ∃ report s',
        ((Audit.run ((singleProvider "a\tb.py" "eval(x)").lift besideStore) (Gateway.inMemory
          (besideStore stillClock)) singleOptions .oldestFirst bareTarget).run {}).run () =
            ((.ok report, s'), ()) ∧
        report.analyzed = ["a\tb.py"] ∧ s'.violationsOf report.audit.id = [] ∧
        report.audit.violationCount = 0 ∧ report.worst? = none ∧
        ExitStatus.ofWorst report.worst? = .success := by
  refine ⟨evaluationHit_mem _, rfl, ?_⟩
  obtain ⟨report, s', hrun, -, hanalyzed, hcount, hstored, hmap⟩ :=
    run_single_logged "a\tb.py" "eval(x)" (by decide) (by decide)
  have hunclean : ¬ Clean maxPath "a\tb.py" := by decide
  have hnone : report.violations = [] := by
    rw [List.filter_eq_nil_iff.2, List.map_eq_nil_iff] at hmap
    · exact hmap
    · intro v hv
      obtain ⟨h, -, rfl⟩ := List.mem_map.1 hv
      simpa using fun hok => hunclean (newViolation_ok_iff.1 hok).2.1
  have hworst : report.worst? = none := by
    rw [Report.worst?, hnone]
    rfl
  refine ⟨report, s', hrun, hanalyzed, hstored.trans hnone, ?_, hworst, ?_⟩
  · rw [hcount, hnone]
    rfl
  · rw [hworst]
    rfl

/-- An evaluation in a file with a plain path is kept. -/
theorem run_keeps_hits_of_evaluation :
    ∃ report s',
      ((Audit.run ((singleProvider "a.py" "eval(x)").lift besideStore) (Gateway.inMemory
        (besideStore stillClock)) singleOptions .oldestFirst bareTarget).run {}).run () =
          ((.ok report, s'), ()) ∧
      Store.Unused {} report.audit.id ∧
      (∃ v ∈ report.violations, v.severity = .critical) ∧
      ∃ (record : List Exchange) (x : Examination) (keep : Hit → Bool),
        Examined singleOptions bareTarget x record report ∧
        (∀ t ∈ x.texts, ∀ h ∈ x.hits singleOptions t.2, h.Quotable → keep h = true) ∧
        x.Shows singleOptions keep report s' := by
  obtain ⟨report, s', hrun, hid, -, -, -, hmap⟩ :=
    run_single_logged "a.py" "eval(x)" (by decide) (by decide)
  have hunused : Store.Unused {} report.audit.id := ⟨rfl, rfl⟩
  have hdescription : Clean maxDescription evaluationHit.description := clean_ofList (by decide)
  have hwellformed : evaluationHit.Wellformed :=
    wellformed_of_mem_hits ofSettings_single (evaluationHit_mem "a.py")
  have haudit : Validation.id "audit_id" bareAudit.id = .ok () := id_deriveId _ _
  have hrepository : Validation.id "repository_id" bareAudit.repositoryId = .ok () :=
    id_deriveId _ _
  have hfit : newViolation (.ofHit bareAudit "a.py" evaluationHit) = .ok () :=
    (newViolation_ofHit_iff haudit hrepository hwellformed).2 ⟨by decide, hdescription⟩
  have hmem : NewViolation.ofHit bareAudit "a.py" evaluationHit ∈
      report.violations.map (·.toNewViolation) := by
    rw [hmap]
    exact List.mem_filter.2 ⟨List.mem_map_of_mem (evaluationHit_mem "a.py"), by simpa using hfit⟩
  obtain ⟨v, hv, heq⟩ := List.mem_map.1 hmem
  obtain ⟨record, x, keep, -, hexamined, hkeep, hshows⟩ := run_keeps_hits
    (singleProvider "a.py" "eval(x)") stillClock .oldestFirst bareTarget ofSettings_single hrun
    hunused
  exact ⟨report, s', hrun, hunused, ⟨v, hv, congrArg NewViolation.severity heq⟩, record, x, keep,
    hexamined, hkeep, hshows⟩

end Audit

end SourceAudit
