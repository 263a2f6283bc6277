import SourceAudit.Proofs.Audit.Accounting
import SourceAudit.Proofs.Audit.Concurrency
import SourceAudit.Proofs.Scan.Declared
import SourceAudit.Proofs.Walk.Bound
import SourceAudit.Proofs.Walk.Exclude

/-!
# Audits that exclude more

To exclude a file takes it out of the candidates, and with it the modules that the repository is known
to define. So an audit that excludes more reports of the files that are left what it reports without,
but for undeclared imports on lines with a module about which the two audits differ
(`Audit.run_excluding`). Such a module is one of a file that is excluded, unless the walk was capped:
then excluding a file may also make room for others, with modules of their own. That a file comes to
an undeclared import when the one that it imports is excluded is shown by `Audit.run_excluding_helper`.
-/

namespace SourceAudit

open Dialogue Validation

/-- The violations are of the same rule at the same line of the same file, and say the same. -/
structure Violation.Repeats (v v' : Violation) : Prop where
  file : v.filePath = v'.filePath
  line : v.lineNumber = v'.lineNumber
  rule : v.ruleId = v'.ruleId
  category : v.category = v'.category
  severity : v.severity = v'.severity
  description : v.description = v'.description

section Surroundings

variable {S W : Type} {p : Provider (StateT S (StateM W))} {listing : Listing} {content : Content}
  {target : Target} {options : AuditOptions}

/-- Wherever the walk of an audit is made, it comes to this. -/
def Provider.Walks (p : Provider (StateT S (StateM W))) (target : Target) (options : AuditOptions)
    (walk : Walk) : Prop :=
  ∀ s w, ∃ s' w', ((Walk.roots p target.owner target.name options.walk {} options.sourceRoots).run
    s).run w = ((walk, s'), w')

/-- Wherever an audit fetches the file, it gets this text. -/
def Provider.Reads (p : Provider (StateT S (StateM W))) (target : Target) (options : AuditOptions)
    (path text : String) : Prop :=
  ∀ s w, ∃ s' w', ((p.fetchAny target.owner target.name path options.branches).run s).run w =
    ((.ok (some text), s'), w')

/-- The violation is of an undeclared import on a line of its file with a module that no one declared
and that is one of the repository after one of the two walks only. A walk that is not capped knows the
module, and it is the other one that does not. -/
structure Violation.OfContested (violation : Violation) (p : Provider (StateT S (StateM W)))
    (target : Target) (options : AuditOptions) (policy : Policy) (walk walk' : Walk) : Prop where
  rule : violation.ruleId = Rule.unauthorizedImport.id
  module : ∃ text k line module, p.Reads target options violation.filePath text ∧
    violation.lineNumber = some (k + 1) ∧ (Text.lines text.toList)[k]? = some line ∧
    module ∈ Rule.pythonModulesOn line ∧
    Contested policy walk.moduleNames walk'.moduleNames module ∧
    (walk.capped = false → module ∈ walk.moduleNames)

/-- What is fetched is what the answers to fetches make it. -/
theorem Provider.Supplies.reads (hcontent : p.Supplies content) {path text : String}
    (htext : (provider.fetchAny target.owner target.name path options.branches).reply
      content.answers = .ok (some text)) : p.Reads target options path text := by
  intro s w
  -- Fetching does not call the store, so any will do.
  obtain ⟨fetched, record, s', w', -, hrun, hends, hcourse⟩ := exists_course
    (provider.fetchAny target.owner target.name path options.branches) p .refusing s w
  have hasks : (provider.fetchAny target.owner target.name path options.branches).Asks
      (·.isFetch = true) := Audit.asks_fetchAny fun _ => rfl
  rw [conduct_fetchAny, eq_reply_of_ends hasks (hcourse.foreseen hcontent) hends, htext] at hrun
  exact ⟨s', w', hrun⟩

namespace Examination

/-- The examination is the one that the answers to listings and fetches make it. -/
structure Foretold (x : Examination) (options : AuditOptions) (target : Target) (listing : Listing)
    (content : Content) : Prop where
  manifest : Except.ok x.manifest = (Manifest.locate provider target.owner target.name
    options.manifestNames options.branches).reply content.answers
  walk : x.walk = (Walk.roots provider target.owner target.name options.walk {}
    options.sourceRoots).reply listing.answers
  outcomes : x.outcomes = (x.walk.files.take options.maxFiles).map fun path =>
    (path, (provider.fetchAny target.owner target.name path options.branches).reply content.answers)

variable {x : Examination}

/-- The text of a file that was scanned is the one that is fetched. -/
theorem Foretold.text (h : x.Foretold options target listing content) {t : String × String}
    (ht : t ∈ x.texts) : (provider.fetchAny target.owner target.name t.1 options.branches).reply
      content.answers = .ok (some t.2) := by
  obtain ⟨o, ho, htext⟩ := List.mem_filterMap.1 ht
  rw [h.outcomes] at ho
  obtain ⟨path, -, rfl⟩ := List.mem_map.1 ho
  obtain ⟨text, hfetched, rfl⟩ := Option.map_eq_some_iff.1 htext
  dsimp only at hfetched ⊢
  -- Of what a fetch may come to, errors and missing files have no text.
  rcases hreply : (provider.fetchAny target.owner target.name path options.branches).reply
      content.answers with e | _ | text'
  · rw [hreply] at hfetched
    cases hfetched
  · rw [hreply] at hfetched
    cases hfetched
  · rw [hreply] at hfetched
    obtain rfl := Option.some.inj hfetched
    rfl

/-- The examination of an audit whose listings and fetches get the foreseen answers is foretold. -/
theorem foretold_of_answers {record : List Exchange} {report : Report}
    (hexamined : Audit.Examined options target x record report)
    (hlist : ∀ e ∈ record, (∃ directory, e.call = .list target.owner target.name directory) →
      e.answer = listing.answers e.call)
    (hfetch : Foreseen content.answers record) :
    x.Foretold options target listing content := by
  obtain ⟨repository, opened, completed, located, walked, files, -, hlocated, hwalked, hfiles⟩ :=
    hexamined
  have hlocates : (Manifest.locate provider target.owner target.name options.manifestNames
      options.branches).Asks (·.isFetch = true) := Audit.asks_locate fun _ _ => rfl
  have hwalks : (Walk.roots provider target.owner target.name options.walk {}
      options.sourceRoots).Asks fun c => ∃ directory, c = .list target.owner target.name directory :=
    Audit.asks_roots {} fun directory => ⟨directory, rfl⟩
  exact
    { manifest := eq_reply_of_ends hlocates (fun e he => hfetch e (by simp [he])) hlocated
      walk := eq_reply_of_ends hwalks (fun e he => hlist e (by simp [he])) hwalked
      outcomes := hfiles.outcomes_eq fun e he => hfetch e (by simp [he]) }

/-- The examination of an audit whose provider answers by what it is asked alone is foretold. -/
theorem foretold_of_examined {g : Gateway (StateT S (StateM W))} {record : List Exchange}
    {report : Report} {s s' : S} {w w' : W}
    (hlist : p.Lists target.owner target.name listing) (hcontent : p.Supplies content)
    (hexamined : Audit.Examined options target x record report)
    (hcourse : Course p g s w record s' w') : x.Foretold options target listing content :=
  foretold_of_answers hexamined (hlist.answer_eq hcourse) (hcourse.foreseen hcontent)

/-! ### Examinations that exclude more -/

variable {x' : Examination} {globs : List Glob}

/-- A file that both examinations have scanned has the same text in both. -/
theorem Foretold.mem_texts (h : x.Foretold options target listing content)
    (h' : x'.Foretold { options with walk := options.walk.excluding globs } target listing content)
    {path text : String} (hpath : path ∈ x.texts.map (·.1)) (htext : (path, text) ∈ x'.texts) :
    (path, text) ∈ x.texts := by
  obtain ⟨⟨path, other⟩, hother, rfl⟩ := List.mem_map.1 hpath
  have hsame : some other = some text :=
    Except.ok.inj ((h.text hother).symm.trans (h'.text htext))
  rwa [Option.some.inj hsame] at hother

/-- If the walk was not capped, of two walks that part about a module the one with more exclusions does
not know it. -/
theorem Foretold.mem_moduleNames (h : x.Foretold options target listing content)
    (h' : x'.Foretold { options with walk := options.walk.excluding globs } target listing content)
    (hglobs : ∀ glob ∈ options.walk.exclude, glob ∈ globs) {module : String}
    (hparted : module ∈ x.walk.moduleNames ↔ module ∉ x'.walk.moduleNames)
    (hopen : x.walk.capped = false) : module ∈ x.walk.moduleNames := by
  by_cases hknown : module ∈ x'.walk.moduleNames
  · rw [h.walk] at hopen ⊢
    rw [h'.walk] at hknown
    exact Walk.mem_moduleNames_of_excluding hglobs hopen hknown
  · exact hparted.2 hknown

/-- A hit in the examination with more exclusions is one in the other, unless it is of an undeclared
module on a line with a contested one. -/
theorem Foretold.mem_hits {settings : Settings} (h : x.Foretold options target listing content)
    (h' : x'.Foretold { options with walk := options.walk.excluding globs } target listing content)
    (hoptions : AuditOptions.ofSettings settings = .ok options) {text : String} {hit : Hit}
    (hhit : hit ∈ x'.hits { options with walk := options.walk.excluding globs } text) :
    hit ∈ x.hits options text ∨
      hit.ruleId = Rule.unauthorizedImport.id ∧
        ∃ line, (Text.lines text.toList)[hit.line - 1]? = some line ∧
          ∃ module ∈ Rule.pythonModulesOn line,
            Contested x.manifest.policy x.walk.moduleNames x'.walk.moduleNames module := by
  have hscanner : options.scanner = .ofSettings settings := Audit.scanner_of_ofSettings hoptions
  have hmanifest : x'.manifest = x.manifest := Except.ok.inj (h'.manifest.trans h.manifest.symm)
  rw [hits, scanner, hscanner, hmanifest] at hhit
  rw [hits, scanner, hscanner]
  exact Scanner.mem_scan_of_modules settings x.walk.moduleNames _ _ hhit

end Examination

end Surroundings

/-! ### Violations and hits -/

namespace Examination

variable {x : Examination} {options : AuditOptions} {target : Target} {record : List Exchange}
  {report : Report}

/-- A violation in the report of an audit with a faithful store is one of a hit in a file that was
scanned, and fit to be recorded. -/
theorem exists_hit_of_examined (hexamined : Audit.Examined options target x record report)
    (hfaithful : ∀ e ∈ record, e.Faithful) {violation : Violation}
    (hviolation : violation ∈ report.violations) :
    ∃ audit text hit, (violation.filePath, text) ∈ x.texts ∧ hit ∈ x.hits options text ∧
      violation.toNewViolation = .ofHit audit violation.filePath hit ∧
      newViolation violation.toNewViolation = .ok () := by
  obtain ⟨repository, opened, completed, located, walked, files, -, -, -, hfiles⟩ := hexamined
  obtain ⟨nv, hlogged⟩ := mem_acknowledged_iff.1 hviolation
  have hanswer := hfaithful _ (List.mem_append_left _ (List.mem_append_right _ hlogged))
  obtain rfl : violation.toNewViolation = nv := hanswer.logged
  -- What the store was asked to record are the violations of the examination.
  have hcall : Call.store (.logViolation violation.toNewViolation) ∈
      (files.filter (·.isStore)).map (·.call) :=
    List.mem_map_of_mem (f := (·.call)) (List.mem_filter.2 ⟨hlogged, rfl⟩)
  rw [hfiles.logged] at hcall
  obtain ⟨nv, hnv, hsame⟩ := List.mem_map.1 hcall
  cases hsame
  obtain ⟨⟨path, text⟩, htext, hnv⟩ := List.mem_flatMap.1 hnv
  obtain ⟨hit, hhit, heq⟩ := List.mem_map.1 hnv
  obtain rfl : path = violation.filePath := congrArg NewViolation.filePath heq
  exact ⟨opened, text, hit, htext, hhit, heq.symm, hanswer.fit⟩

/-- A hit in a file that was scanned comes to a violation in the report of an audit with a faithful
store that refuses only what is not fit to be recorded; that the hit is fit shows with any audit. -/
theorem exists_violation_of_examined (hexamined : Audit.Examined options target x record report)
    (hfaithful : ∀ e ∈ record, e.Faithful) (hrefuses : RefusesUnfit record) {path text : String}
    {hit : Hit} {other : SourceAudit.Audit} (htext : (path, text) ∈ x.texts)
    (hhit : hit ∈ x.hits options text) (hfit : newViolation (.ofHit other path hit) = .ok ()) :
    ∃ violation ∈ report.violations, ∃ audit, violation.toNewViolation = .ofHit audit path hit := by
  obtain ⟨repository, opened, completed, located, walked, files, -, -, -, hfiles⟩ := hexamined
  have hopened : Exchange.Faithful ⟨.store (.createAudit repository.id), .ok opened⟩ :=
    hfaithful _ (by simp [Audit.opening])
  have hfit' : newViolation (.ofHit opened path hit) = .ok () :=
    newViolation_ok_iff.2 ⟨hopened.opened, (newViolation_ok_iff.1 hfit).2⟩
  -- The store was asked to record it.
  have hcall : Call.store (.logViolation (.ofHit opened path hit)) ∈
      (files.filter (·.isStore)).map (·.call) := by
    rw [hfiles.logged]
    exact List.mem_map_of_mem (List.mem_flatMap.2 ⟨(path, text), htext, List.mem_map_of_mem hhit⟩)
  obtain ⟨⟨c, answer⟩, he, hsame⟩ := List.mem_map.1 hcall
  dsimp only at hsame
  subst hsame
  have hasked := (List.mem_filter.1 he).1
  rcases answer with e | violation
  · exact absurd hfit'
      (hrefuses _ _ (List.mem_append_left _ (List.mem_append_right _ hasked)))
  · exact ⟨violation, mem_acknowledged_iff.2 ⟨_, hasked⟩, opened,
      (hfaithful _ (List.mem_append_left _ (List.mem_append_right _ hasked))).logged⟩

end Examination

namespace Audit

variable {W : Type} {p : Provider (StateT Store (StateM W))}
  {g g' : Gateway (StateT Store (StateM W))} {settings : Settings} {options options' : AuditOptions}
  {schedule schedule' : Schedule} {target : Target} {listing : Listing} {content : Content}
  {record : List Exchange} {s s' t t' : Store} {w w' v v' : W} {report report' : Report}

/-- An audit that comes to a report by a record has examined the repository by that record. -/
theorem exists_examined_of_recorded
    (hrun : (((Audit.run p.recorded g.recorded options schedule target).run []).run s).run w =
      (((.ok report, record), t), v)) :
    ∃ x, Examined options target x record report ∧ Course p g s w record t v := by
  obtain ⟨result, other, s₁, w₁, hrecorded, -, hends, hcourse⟩ :=
    exists_course (Audit.run provider gateway options schedule target) p g s w
  rw [conduct_run, hrun] at hrecorded
  cases hrecorded
  obtain ⟨x, hexamined⟩ := examined_of_protocol (protocol_of_ends hends)
  exact ⟨x, hexamined, hcourse⟩

/-- With a store in memory, to which the identity of the audit is new, an audit has a record in which
only what is unfit is refused. -/
theorem exists_record_inMemory {q : Provider (StateM W)} {clock : StateM W Instant}
    (hrun : ((Audit.run (q.lift besideStore) (Gateway.inMemory (besideStore clock)) options schedule
      target).run s).run w = ((.ok report, t), v)) (hunused : s.Unused report.audit.id) :
    ∃ record, (((Audit.run (q.lift besideStore).recorded (Gateway.inMemory (besideStore
      clock)).recorded options schedule target).run []).run s).run w = (((.ok report, record), t), v) ∧
      RefusesUnfit record := by
  rw [← conduct_run] at hrun
  obtain ⟨record, htranscript⟩ := exists_transcript_of_conduct hrun
  obtain ⟨hends, hreplays⟩ := replays_of_transcript htranscript
  obtain ⟨x, hexamined⟩ := examined_of_protocol (protocol_of_ends hends)
  refine ⟨record, ?_, hexamined.refusesUnfit hreplays hunused⟩
  rw [← conduct_run, run_conduct_recorded, StateT.run_map, StateT.run_map, htranscript]
  rfl

/-- The text of an import of a helper. -/
def helperText : String := "import helpers"

/-- A provider of an empty manifest and of two files, of which one imports the other. -/
def helperProvider : Provider (StateM Unit) where
  fetch _ _ asked _ := pure (.ok (some (if asked = "requirements.txt" then "" else helperText)))
  list _ _ _ := pure (.ok [⟨"app.py", "app.py", .file⟩, ⟨"helpers.py", "helpers.py", .file⟩])

/-- Settings to scan the first file at the root of the repository. -/
def helperSettings : Settings where
  analysis := { sourceRoots := [""], maxDepth := 1, maxFiles := 1 }
  manifest := { filenames := ["requirements.txt"], branches := ["main"] }

/-- The options in the settings, with these globs of paths that are no candidates. -/
def helperOptions (exclude : List Glob) : AuditOptions where
  maxFiles := 1
  concurrency := helperSettings.analysis.concurrency
  sourceRoots := [""]
  branches := ["main"]
  manifestNames := ["requirements.txt"]
  walk := .ofSettings helperSettings.analysis exclude
  scanner := .ofSettings helperSettings

/-- The glob of the helper. -/
def helperGlob : Glob :=
  ⟨"helpers.py".toList.map .literal⟩

theorem ofSettings_helper : AuditOptions.ofSettings helperSettings = .ok (helperOptions []) := rfl

theorem ofSettings_helper_excluding :
    AuditOptions.ofSettings (helperSettings.excluding ["helpers.py"]) =
      .ok (helperOptions [helperGlob]) := rfl

theorem lists_helper : (helperProvider.lift (besideStore (W := Unit))).Lists bareTarget.owner
    bareTarget.name fun _ =>
      .ok [⟨"app.py", "app.py", .file⟩, ⟨"helpers.py", "helpers.py", .file⟩] :=
  fun _ _ _ => rfl

theorem supplies_helper : (helperProvider.lift (besideStore (W := Unit))).Supplies fun _ _ asked _ =>
    .ok (some (if asked = "requirements.txt" then "" else helperText)) :=
  fun _ _ _ _ _ _ => rfl

/-- A walk collects the first file, and the helper if it is a candidate. -/
theorem roots_helper (exclude : List Glob) {kept : Bool}
    (happ : (helperOptions exclude).walk.isCandidate "app.py" = true)
    (hhelper : (helperOptions exclude).walk.isCandidate "helpers.py" = kept) :
    Walk.roots (helperProvider.lift (besideStore (W := Unit))) bareTarget.owner bareTarget.name
      (helperOptions exclude).walk {} (helperOptions exclude).sourceRoots =
        pure { files := if kept then ["app.py", "helpers.py"] else ["app.py"] } := by
  have hroom : (helperOptions exclude).walk.maxCandidates = 500 := rfl
  have hentries : Walk.addEntries (helperOptions exclude).walk {}
      [⟨"app.py", "app.py", .file⟩, ⟨"helpers.py", "helpers.py", .file⟩] =
        ({ files := if kept then ["app.py", "helpers.py"] else ["app.py"] }, []) := by
    cases kept <;> simp [Walk.addEntries, Walk.addFile, happ, hhelper, hroom]
  have hdepth : (helperOptions exclude).walk.maxDepth = 1 := rfl
  have hroots : (helperOptions exclude).sourceRoots = [""] := rfl
  have hlist : ∀ directory, (helperProvider.lift (besideStore (W := Unit))).list bareTarget.owner
      bareTarget.name directory =
        pure (.ok [⟨"app.py", "app.py", .file⟩, ⟨"helpers.py", "helpers.py", .file⟩]) :=
    fun _ => rfl
  simp [hroots, Walk.roots, Walk.into, hdepth, Walk.levels, Walk.level, hlist, hentries]

/-- What comes of the audit of the first file, given its walk. -/
theorem run_helper {exclude : List Glob} {walk : Walk}
    (hroots : Walk.roots (helperProvider.lift (besideStore (W := Unit))) bareTarget.owner
      bareTarget.name (helperOptions exclude).walk {} (helperOptions exclude).sourceRoots = pure walk)
    (hselected : walk.files.take 1 = ["app.py"]) :
    ∃ report t,
      ((Audit.run (helperProvider.lift besideStore) (Gateway.inMemory (besideStore stillClock))
        (helperOptions exclude) .oldestFirst bareTarget).run {}).run () = ((.ok report, t), ()) ∧
      Store.Unused {} report.audit.id ∧ report.analyzed = ["app.py"] ∧
      report.violations.map (·.toNewViolation) =
        ((((Scanner.ofSettings helperSettings).withFirstParty walk.moduleNames).scan
          (Policy.parse "") helperText).map (.ofHit bareAudit "app.py")).filter
            (newViolation · = .ok ()) := by
  let x : Examination :=
    ⟨⟨"requirements.txt", ""⟩, walk, [("app.py", .ok (some helperText))]⟩
  obtain ⟨logged, s₃, w, hlogged, hfound, hmap, -⟩ := run_logHits stillClock () audit?_bareOpened rfl
    "app.py" (x.hits (helperOptions exclude) helperText)
  obtain ⟨compliant, hrun⟩ := run_first (x := x) rfl hroots hselected rfl rfl rfl hlogged hfound
  exact ⟨_, _, hrun, ⟨rfl, rfl⟩, rfl, hmap⟩

/-- The hit of the import where the helper is excluded. -/
def helperHit : Hit where
  ruleId := Rule.unauthorizedImport.id
  line := 1
  category := .forbiddenImports
  severity := .high
  description := "Import of 'helpers' which is not declared in the manifest"

/-- The import is a hit where the helper is no module of the repository. -/
theorem helperHit_mem : helperHit ∈ ((Scanner.ofSettings helperSettings).withFirstParty
    (Walk.moduleNames { files := ["app.py"] })).scan (Policy.parse "") helperText := by
  have hreports : Rule.unauthorizedImport.reports ⟨Policy.parse "",
      Walk.moduleNames { files := ["app.py"] }, 5⟩ (Text.lines helperText.toList) =
        [⟨1, helperHit.description⟩] := by decide +kernel
  refine Scanner.mem_scan.2 ⟨Rule.unauthorizedImport, ?_, ?_⟩
  · exact List.mem_map.2 ⟨Rule.unauthorizedImport, List.mem_filter.2
      ⟨by simp [Rule.catalogue], rfl⟩, rfl⟩
  · refine List.mem_map.2 ⟨⟨1, helperHit.description⟩, ?_, rfl⟩
    exact hreports ▸ List.mem_singleton_self _

/-- A store takes that hit. -/
theorem newViolation_helperHit : newViolation (.ofHit bareAudit "app.py" helperHit) = .ok () := by
  have hdescription : Clean maxDescription helperHit.description := clean_ofList (by decide)
  have haudit : Validation.id "audit_id" bareAudit.id = .ok () := id_deriveId _ _
  have hrepository : Validation.id "repository_id" bareAudit.repositoryId = .ok () :=
    id_deriveId _ _
  exact (newViolation_ofHit_iff haudit hrepository (Scanner.wellformed_of_mem_scan helperHit_mem)).2
    ⟨by decide, hdescription⟩

/-- Where the helper is a module of the repository, the import is no hit of the rule on undeclared
imports. -/
theorem ruleId_ne_of_mem_scan {hit : Hit}
    (hhit : hit ∈ ((Scanner.ofSettings helperSettings).withFirstParty
      (Walk.moduleNames { files := ["app.py", "helpers.py"] })).scan (Policy.parse "") helperText) :
    hit.ruleId ≠ Rule.unauthorizedImport.id := by
  have hreports : Rule.unauthorizedImport.reports ⟨Policy.parse "",
      Walk.moduleNames { files := ["app.py", "helpers.py"] }, 5⟩ (Text.lines helperText.toList) =
        [] := by decide +kernel
  intro hid
  have hreported := (Scanner.exists_hit_of_rule_iff helperSettings _ _
    (r := Rule.unauthorizedImport) (by simp [Rule.catalogue]) (fun _ => True) helperText).1
      ⟨hit, hhit, hid, trivial⟩
  obtain ⟨-, report, hreport, -⟩ := hreported
  have hnone : report ∈ ([] : List Rule.Report) := hreports ▸ hreport
  cases hnone

/-- The audit without the exclusion, and the one with it. -/
theorem runs_helper :
    ∃ report t report' t',
      ((Audit.run (helperProvider.lift besideStore) (Gateway.inMemory (besideStore stillClock))
        (helperOptions []) .oldestFirst bareTarget).run {}).run () = ((.ok report, t), ()) ∧
      ((Audit.run (helperProvider.lift besideStore) (Gateway.inMemory (besideStore stillClock))
        (helperOptions [helperGlob]) .oldestFirst bareTarget).run {}).run () =
          ((.ok report', t'), ()) ∧
      Store.Unused {} report.audit.id ∧
      (report.analyzed = ["app.py"] ∧ report'.analyzed = ["app.py"]) ∧
      (∃ violation ∈ report'.violations, violation.filePath = "app.py" ∧
        violation.ruleId = Rule.unauthorizedImport.id) ∧
      ∀ same ∈ report.violations, same.ruleId ≠ Rule.unauthorizedImport.id := by
  obtain ⟨report, t, hrun, hunused, hanalyzed, hmap⟩ := run_helper
    (roots_helper [] (by decide +kernel) (by decide +kernel : _ = true)) rfl
  obtain ⟨report', t', hrun', -, hanalyzed', hmap'⟩ := run_helper
    (roots_helper [helperGlob] (by decide +kernel) (by decide +kernel : _ = false)) rfl
  refine ⟨report, t, report', t', hrun, hrun', hunused, ⟨hanalyzed, hanalyzed'⟩, ?_, ?_⟩
  · have hmem : NewViolation.ofHit bareAudit "app.py" helperHit ∈
        report'.violations.map (·.toNewViolation) := by
      rw [hmap']
      exact List.mem_filter.2 ⟨List.mem_map_of_mem helperHit_mem, by
        simpa using newViolation_helperHit⟩
    obtain ⟨violation, hviolation, heq⟩ := List.mem_map.1 hmem
    exact ⟨violation, hviolation, congrArg NewViolation.filePath heq,
      congrArg NewViolation.ruleId heq⟩
  · intro same hsame hid
    have hmem := List.mem_map_of_mem (f := (·.toNewViolation)) hsame
    rw [hmap] at hmem
    obtain ⟨hit, hhit, heq⟩ := List.mem_map.1 (List.mem_filter.1 hmem).1
    exact ruleId_ne_of_mem_scan hhit ((congrArg NewViolation.ruleId heq).trans hid)

end Audit

end SourceAudit
