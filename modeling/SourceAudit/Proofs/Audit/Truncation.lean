import SourceAudit.Proofs.Audit.Accounting
import SourceAudit.Proofs.Audit.Listing

/-!
# What an audit leaves out

Two bounds cut the candidates of an audit down: the walk collects so many, and so many of these are
selected. A report that is not truncated leaves out none that the walk has collected, but it does not
say whether the walk was capped. So its files are the first of the candidates, as many as the walk
may collect (`run_untruncated`), and there may be more of them (`run_untruncated_of_capped`).

Where fewer are selected than the walk may collect, the second bound speaks for both: a walk that is
capped has collected more than are selected, and then the report is truncated.
-/

namespace SourceAudit

open Dialogue

variable {S W : Type} {p : Provider (StateT S (StateM W))} {g : Gateway (StateT S (StateM W))}
  {owner repo : String} {listing : Listing}

/-- The listings of a repository depend on the directory alone. -/
def Provider.Lists (p : Provider (StateT S (StateM W))) (owner repo : String) (listing : Listing) :
    Prop :=
  ∀ directory s w, (((p.list owner repo directory).run s).run w).1.1 = listing directory

/-- The listings in a record of such surroundings are those of the directories. -/
theorem Provider.Lists.answer_eq {record : List Exchange} {s s' : S} {w w' : W}
    (hlist : p.Lists owner repo listing) (hcourse : Course p g s w record s' w') :
    ∀ e ∈ record, (∃ directory, e.call = .list owner repo directory) →
      e.answer = listing.answers e.call := by
  refine hcourse.forall_mem ?_
  rintro c s w ⟨directory, rfl⟩
  exact hlist directory s w

namespace Walk

variable {o : WalkOptions} {roots : List String}

/-- These files are what the walk collects if no bound is put on the candidates: in any surroundings,
a walk that may collect so many collects them and is not capped. -/
def Unbounded (p : Provider (StateT S (StateM W))) (owner repo : String) (o : WalkOptions)
    (roots all : List String) : Prop :=
  ∀ bound, all.length ≤ bound → ∀ s w,
    ∃ walk s' w', ((Walk.roots p owner repo (o.collecting bound) {} roots).run s).run w =
      ((walk, s'), w') ∧ walk.files = all ∧ walk.capped = false

/-- A walk in surroundings whose listings depend on the directory alone collects the first of the
candidates. -/
theorem collected_of_course {record : List Exchange} {walk : Walk} {s s' : S} {w w' : W}
    (hlist : p.Lists owner repo listing)
    (hends : (Walk.roots provider owner repo o {} roots).Ends record walk)
    (hcourse : Course p g s w record s' w') : Collected o (foundFrom o listing roots) walk := by
  have hasks : (Walk.roots provider owner repo o {} roots).Asks
      fun c => ∃ directory, c = .list owner repo directory :=
    Audit.asks_roots {} fun directory => ⟨directory, rfl⟩
  rw [eq_reply_of_ends hasks (hlist.answer_eq hcourse) hends]
  exact collected_roots .empty roots

/-- Without a bound the candidates are collected. -/
theorem unbounded_candidates (g : Gateway (StateT S (StateM W)))
    (hlist : p.Lists owner repo listing) (o : WalkOptions) (roots : List String) :
    Unbounded p owner repo o roots (candidates o listing roots) := by
  intro bound hbound s w
  obtain ⟨walk, record, s', w', -, hconducted, hends, hcourse⟩ :=
    exists_course (Walk.roots provider owner repo (o.collecting bound) {} roots) p g s w
  rw [conduct_roots] at hconducted
  have hcollected := collected_of_course hlist hends hcourse
  have hall : (foundFrom (o.collecting bound) listing roots).eraseDups =
      candidates o listing roots := candidates_collecting bound roots
  have hopen : walk.capped = false := by
    have hnot : ¬ walk.capped = true := by
      rw [hcollected.capped, hall]
      exact Nat.not_lt.2 hbound
    simpa using hnot
  exact ⟨walk, s', w', hconducted, (hcollected.files_eq hopen).1.trans hall, hopen⟩

end Walk

/-- A file has an outcome if it has a text or is a failure. -/
theorem Examination.mem_outcomes_iff {x : Examination} {path : String} :
    path ∈ x.outcomes.map (·.1) ↔ path ∈ x.texts.map (·.1) ∨ path ∈ x.failures := by
  rw [← List.mem_append]
  exact x.perm_outcomes.mem_iff.symm

namespace Audit

variable {options : AuditOptions} {schedule : Schedule} {target : Target} {s s' : S} {w w' : W}
  {report : Report}

/-- A report that is not truncated has the first of the files that its walk collects without a bound,
as many as the walk may collect. It has all of them if there are no more, or if fewer are selected
than the walk may collect. -/
theorem run_untruncated (hlist : p.Lists target.owner target.name listing)
    (hrun : ((Audit.run p g options schedule target).run s).run w = ((.ok report, s'), w'))
    (hwhole : report.truncated = false) :
    ∃ all, Walk.Unbounded p target.owner target.name options.walk options.sourceRoots all ∧
      (∀ path, path ∈ report.analyzed ∨ path ∈ report.failed ↔
        path ∈ all.take options.walk.maxCandidates) ∧
      (all.length ≤ options.walk.maxCandidates ∨
          options.maxFiles < options.walk.maxCandidates →
        ∀ path ∈ all, path ∈ report.analyzed ∨ path ∈ report.failed) := by
  obtain ⟨record, x, -, hexamined, hcourse⟩ := exists_examined hrun
  obtain ⟨repository, opened, completed, located, walked, files, -, -, hwalked, hfiles⟩ := hexamined
  -- The walk of the audit is a part of its course.
  obtain ⟨s₂, w₂, hcourse, -⟩ := Course.append_iff.1 hcourse
  obtain ⟨s₃, w₃, hcourse, -⟩ := Course.append_iff.1 hcourse
  obtain ⟨s₄, w₄, -, hcourse⟩ := Course.append_iff.1 hcourse
  have hcollected := Walk.collected_of_course hlist hwalked hcourse
  -- Nothing comes after the selected files, so they are all that the walk has collected.
  have hskipped : x.walk.files.drop options.maxFiles = [] := by
    simpa [Examination.report] using hwhole
  have hfew : x.walk.files.length ≤ options.maxFiles := List.drop_eq_nil_iff.1 hskipped
  have hmem : ∀ path, path ∈ x.texts.map (·.1) ∨ path ∈ x.failures ↔ path ∈ x.walk.files := by
    intro path
    rw [← Examination.mem_outcomes_iff, hfiles.selected, List.take_of_length_le hfew]
  refine ⟨Walk.candidates options.walk listing options.sourceRoots,
    Walk.unbounded_candidates g hlist _ _, fun path => ?_, fun hbounds path hpath => ?_⟩
  · have hfirst := hmem path
    rwa [hcollected.files] at hfirst
  · -- A walk that is capped has collected what it may, which would be more than are selected.
    have hopen : x.walk.capped = false := by
      rcases hcapped : x.walk.capped with _ | _
      · rfl
      · have hmore := hcollected.capped.1 hcapped
        have hlength : x.walk.files.length = options.walk.maxCandidates := by
          rw [hcollected.files, List.length_take]
          exact Nat.min_eq_left hmore.le
        rcases hbounds with hall | hselected
        · exact absurd hmore (Nat.not_lt.2 hall)
        · omega
    refine (hmem path).2 ?_
    rw [(hcollected.files_eq hopen).1]
    exact hpath

/-- The audit of one file with an evaluation has all files. -/
theorem run_untruncated_of_evaluation :
    (((singleProvider "a.py" "eval(x)").lift (besideStore (W := Unit))).Lists bareTarget.owner
        bareTarget.name fun _ => .ok [⟨"a.py", "a.py", .file⟩]) ∧
      ∃ report s',
        ((Audit.run ((singleProvider "a.py" "eval(x)").lift besideStore) (Gateway.inMemory
          (besideStore stillClock)) singleOptions .oldestFirst bareTarget).run {}).run () =
            ((.ok report, s'), ()) ∧
        report.truncated = false ∧
        ∃ all, Walk.Unbounded ((singleProvider "a.py" "eval(x)").lift (besideStore (W := Unit)))
            bareTarget.owner bareTarget.name singleOptions.walk singleOptions.sourceRoots all ∧
          (∀ path, path ∈ report.analyzed ∨ path ∈ report.failed ↔
            path ∈ all.take singleOptions.walk.maxCandidates) ∧
          ∀ path ∈ all, path ∈ report.analyzed ∨ path ∈ report.failed := by
  have hlist : ((singleProvider "a.py" "eval(x)").lift (besideStore (W := Unit))).Lists
      bareTarget.owner bareTarget.name fun _ => .ok [⟨"a.py", "a.py", .file⟩] := fun _ _ _ => rfl
  obtain ⟨logged, s₃, w, hlogged, hfound, -, -⟩ := run_logHits stillClock ()
    audit?_bareOpened rfl "a.py" ((singleExamination "a.py" "eval(x)").hits singleOptions "eval(x)")
  obtain ⟨compliant, hrun⟩ := run_single (by decide) (by decide) hlogged hfound
  have hbounds : singleOptions.maxFiles < singleOptions.walk.maxCandidates := by decide
  obtain ⟨all, hunbounded, hfirst, hall⟩ := run_untruncated hlist hrun rfl
  exact ⟨hlist, _, _, hrun, rfl, all, hunbounded, hfirst, hall (.inr hbounds)⟩

/-! ### Bounds of one -/

/-- A provider of an empty manifest and of two files without a text. -/
def pairProvider : Provider (StateM Unit) where
  fetch _ _ asked _ := pure (.ok (if asked = "requirements.txt" then some "" else none))
  list _ _ _ := pure (.ok [⟨"a.py", "a.py", .file⟩, ⟨"b.py", "b.py", .file⟩])

/-- Options for a walk that may collect one file. -/
def cappedOptions : AuditOptions :=
  { singleOptions with walk := singleOptions.walk.collecting 1 }

theorem roots_pair (owner repo : String) :
    Walk.roots (pairProvider.lift (besideStore (W := Unit))) owner repo cappedOptions.walk {}
      cappedOptions.sourceRoots = pure { files := ["a.py"], capped := true } := by
  rfl

/-- The examination of the two files with that walk. -/
def pairExamination : Examination where
  manifest := ⟨"requirements.txt", ""⟩
  walk := { files := ["a.py"], capped := true }
  outcomes := [("a.py", .ok none)]

/-- The audit of the two files when it is completed. -/
def pairAudit : SourceAudit.Audit :=
  Store.completedAudit ⟨0, 0, 0⟩ 1 0 0 bareAudit

/-- The report of that audit. -/
def pairReport : Report :=
  pairExamination.report cappedOptions (Store.nextRepository {} ⟨0, 0, 0⟩ bareTarget.owner
    bareTarget.name bareTarget.url) [] pairAudit

/-- The audit of the two files comes to that report. -/
theorem run_pair :
    ((Audit.run (pairProvider.lift besideStore) (Gateway.inMemory (besideStore stillClock))
      cappedOptions .oldestFirst bareTarget).run {}).run () =
        ((.ok pairReport, bareOpened.afterSettle bareAudit.id pairAudit), ()) := by
  have hlocate : ((Manifest.locate (pairProvider.lift besideStore) bareTarget.owner bareTarget.name
      cappedOptions.manifestNames cappedOptions.branches).run bareOpened).run () =
        ((.ok ⟨"requirements.txt", ""⟩, bareOpened), ()) := rfl
  have hfetch : ∀ owner repo, (pairProvider.lift (besideStore (W := Unit))).fetchAny owner repo
      "a.py" cappedOptions.branches = pure (.ok none) := fun _ _ => rfl
  have htake : ∀ scanner policy, takeFile (Gateway.inMemory (besideStore stillClock)) bareAudit
      scanner policy {} "a.py" (.ok none) = pure { failed := ["a.py"] } := fun _ _ => rfl
  have hcomplete : (((Gateway.inMemory (besideStore stillClock)).completeAudit bareAudit.id 1 0
      0).run bareOpened).run () =
        ((.ok pairAudit, bareOpened.afterSettle bareAudit.id pairAudit), ()) :=
    congrArg (·, ()) (Store.completeAudit_ok_iff.2
      ⟨Validation.id_deriveId _ _, bareAudit, audit?_bareOpened, rfl, rfl, rfl⟩)
  have hconcurrency : cappedOptions.concurrency = singleOptions.concurrency := rfl
  have hselected : ["a.py"].take cappedOptions.maxFiles = ["a.py"] := rfl
  rw [Audit.run, run_bind_of_run upsert_bareTarget]
  dsimp only
  rw [run_bind_of_run createAudit_bareTarget]
  dsimp only
  rw [run_bind_of_run hlocate]
  dsimp only
  rw [examine, roots_pair, pure_bind]
  dsimp only
  rw [hselected, hconcurrency, fetches_single (hfetch ..), htake, pure_bind]
  exact run_bind_of_run hcomplete

/-- A report need not have all files where its walk was capped: the walk has left one out, and
neither the mark of the report nor its lists show it. -/
theorem run_untruncated_of_capped :
    (pairProvider.lift (besideStore (W := Unit))).Lists bareTarget.owner bareTarget.name
        (fun _ => .ok [⟨"a.py", "a.py", .file⟩, ⟨"b.py", "b.py", .file⟩]) ∧
      ∃ report s',
        ((Audit.run (pairProvider.lift besideStore) (Gateway.inMemory (besideStore stillClock))
          cappedOptions .oldestFirst bareTarget).run {}).run () = ((.ok report, s'), ()) ∧
        report.truncated = false ∧ report.unreadable = [] ∧
        Walk.Unbounded (pairProvider.lift (besideStore (W := Unit))) bareTarget.owner
          bareTarget.name cappedOptions.walk cappedOptions.sourceRoots ["a.py", "b.py"] ∧
        "b.py" ∉ report.analyzed ∧ "b.py" ∉ report.failed := by
  have hlist : (pairProvider.lift (besideStore (W := Unit))).Lists bareTarget.owner bareTarget.name
      fun _ => .ok [⟨"a.py", "a.py", .file⟩, ⟨"b.py", "b.py", .file⟩] := fun _ _ _ => rfl
  have hall := Walk.unbounded_candidates (Gateway.inMemory (besideStore stillClock)) hlist
    cappedOptions.walk cappedOptions.sourceRoots
  have hcandidates : Walk.candidates cappedOptions.walk
      (fun _ => .ok [⟨"a.py", "a.py", .file⟩, ⟨"b.py", "b.py", .file⟩])
      cappedOptions.sourceRoots = ["a.py", "b.py"] := by decide
  rw [hcandidates] at hall
  exact ⟨hlist, pairReport, _, run_pair, rfl, rfl, hall, by decide, by decide⟩

end Audit

end SourceAudit
