import SourceAudit.Proofs.Audit.Examination

/-!
# The protocol of an audit

Whatever the provider and the store answer, an audit calls the store by one protocol. It records the
repository and opens an audit, and nothing is asked of the provider before that. An audit without a
manifest is failed, once; any other is completed, once, after a call for every hit.

`Audit.Protocol` lists the records that this allows, each with the outcome that belongs to it. That
every record is one of them is first proved of the audit as a dialogue (`ends_run`) and from there
carried over to any surroundings (`run_protocol`).
-/

namespace SourceAudit

open Dialogue Fetches

/-- What the store has recorded stands in its part of the record. -/
@[simp] theorem acknowledged_filter_isStore (record : List Exchange) :
    acknowledged (record.filter (·.isStore)) = acknowledged record := by
  induction record with
  | nil => rfl
  | cons e rest ih =>
    rcases e with ⟨call, answer⟩
    cases call with
    | fetch | list => exact ih
    | store c =>
      have hstore : Exchange.isStore ⟨.store c, answer⟩ = true := rfl
      rw [List.filter_cons_of_pos hstore]
      -- Whatever the call has come to, it is the same at the head of both records.
      simp only [acknowledged, List.filterMap_cons] at ih ⊢
      rw [ih]

@[simp] theorem acknowledged_append (first second : List Exchange) :
    acknowledged (first ++ second) = acknowledged first ++ acknowledged second :=
  List.filterMap_append

namespace Examination

/-- The record of scanning the files of an examination for an audit: the fetches of the first
candidates, and among them one call on the store for every hit. -/
structure Recorded (x : Examination) (options : AuditOptions) (target : Target) (audit : Audit)
    (record : List Exchange) : Prop where
  /-- There is an outcome for each of the first candidates. -/
  selected : x.outcomes.map (·.1) = x.walk.files.take options.maxFiles
  /-- The store is called to record the hits, in their order. -/
  logged : (record.filter (·.isStore)).map (·.call) =
    (x.violations options audit).map fun v => .store (.logViolation v)
  /-- The provider is called to fetch the files, and the outcomes are those of the fetches. -/
  fetched : ∃ fetches : List (Finished Fetched),
    record.filter (!·.isStore) = fetches.flatMap (·.record) ∧
      (∀ f ∈ fetches, (provider.fetchAny target.owner target.name f.path options.branches).Ends
        f.record f.result) ∧
      (fetches.map fun f => (f.path, f.result)).Perm x.outcomes

/-- The report of an examination. -/
def report (x : Examination) (options : AuditOptions) (repository : Repository)
    (violations : List Violation) (audit : Audit) : Report where
  repository := repository
  audit := audit
  manifest := x.manifest.path
  policy := x.manifest.policy
  violations := violations
  analyzed := x.texts.map (·.1)
  failed := x.failures
  skipped := x.walk.files.drop options.maxFiles
  truncated := !(x.walk.files.drop options.maxFiles).isEmpty
  unreadable := x.walk.unreadable

/-- The violations of an audit carry its identity and that of its repository. -/
theorem forall_violations (x : Examination) (options : AuditOptions) (audit : Audit) :
    ∀ v ∈ x.violations options audit,
      v.auditId = audit.id ∧ v.repositoryId = audit.repositoryId := by
  intro v hv
  obtain ⟨t, -, hv⟩ := List.mem_flatMap.1 hv
  obtain ⟨hit, -, rfl⟩ := List.mem_map.1 hv
  exact ⟨rfl, rfl⟩

end Examination

namespace Audit

/-- The record of a store that knows the repository and has opened an audit of it. -/
def opening (target : Target) (repository : Repository) (audit : Audit) : List Exchange :=
  [⟨.store (.upsertRepository target.owner target.name target.url), .ok repository⟩,
    ⟨.store (.createAudit repository.id), .ok audit⟩]

/-- The records of an audit, with the outcome of each. -/
inductive Protocol (options : AuditOptions) (target : Target) :
    List Exchange → Except AuditError Report → Prop
  /-- The store does not record the repository. -/
  | refused (e : StoreError) :
    Protocol options target
      [⟨.store (.upsertRepository target.owner target.name target.url), .error e⟩]
      (.error (.store e))
  /-- The store does not open an audit of the repository that it has recorded. -/
  | unopened (repository : Repository) (e : StoreError) :
    Protocol options target
      [⟨.store (.upsertRepository target.owner target.name target.url), .ok repository⟩,
        ⟨.store (.createAudit repository.id), .error e⟩]
      (.error (.store e))
  /-- There is no manifest, and the audit is failed. -/
  | failed (repository : Repository) (audit : Audit) (located : List Exchange) (e : AuditError)
    (answer : Except StoreError Audit) :
    (∀ exchange ∈ located, exchange.isStore = false) →
    (Manifest.locate provider target.owner target.name options.manifestNames
      options.branches).Ends located (.error e) →
    Protocol options target
      (opening target repository audit ++ located ++
        [⟨.store (.failAudit audit.id e.message), answer⟩])
      (.error e)
  /-- The repository is examined, and the audit is completed with the counts if the store does
  so. -/
  | examined (repository : Repository) (audit : Audit) (x : Examination)
    (located walked files : List Exchange) (answer : Except StoreError Audit) :
    (∀ exchange ∈ located ++ walked, exchange.isStore = false) →
    (Manifest.locate provider target.owner target.name options.manifestNames
      options.branches).Ends located (.ok x.manifest) →
    (Walk.roots provider target.owner target.name options.walk {} options.sourceRoots).Ends walked
      x.walk →
    x.Recorded options target audit files →
    Protocol options target
      (opening target repository audit ++ located ++ walked ++ files ++
        [⟨.store (.completeAudit audit.id x.walk.files.length (acknowledged files).length
          (x.compliant options).length), answer⟩])
      ((answer.mapError AuditError.store).map
        (x.report options repository (acknowledged files)))

/-- The record of an audit that found its manifest. -/
theorem ends_examine {options : AuditOptions} {schedule : Schedule} {target : Target}
    {repository : Repository} {audit : Audit} {manifest : Manifest} {record : List Exchange}
    {result : Except AuditError Report}
    (h : (examine provider gateway options schedule target repository audit manifest).Ends record
      result) :
    ∃ (x : Examination) (walked files : List Exchange) (answer : Except StoreError Audit),
      x.manifest = manifest ∧
      (Walk.roots provider target.owner target.name options.walk {} options.sourceRoots).Ends walked
        x.walk ∧
      x.Recorded options target audit files ∧
      record = walked ++ files ++ [⟨.store (.completeAudit audit.id x.walk.files.length
        (acknowledged files).length (x.compliant options).length), answer⟩] ∧
      result = (answer.mapError AuditError.store).map
        (x.report options repository (acknowledged files)) := by
  -- The walk.
  obtain ⟨walked, walk, second, rfl, hwalked, hsecond⟩ := ends_bind_iff.1 h
  -- The files, whatever the order in which their fetches finish.
  obtain ⟨files, progress, third, rfl, hfiles, hthird⟩ := ends_bind_iff.1 hsecond
  obtain ⟨outcomes, fetches, hselected, htaken, hfetches, hends, hperm⟩ :=
    ends_run (fun path => asks_fetchAny fun _ => rfl) (fun s path r => asks_takeFile ..) _ _ hfiles
  obtain ⟨hlogged, rfl⟩ := ends_takeAll htaken
  -- The completion, with the counts of the progress that the files have made.
  obtain ⟨fourth, answer, fifth, rfl, hanswer, hfifth⟩ := ends_bind_iff.1 hthird
  obtain rfl := ends_call_iff.1 hanswer
  refine ⟨⟨manifest, walk, outcomes⟩, walked, files, answer, rfl, hwalked,
    ⟨hselected, hlogged, fetches, hfetches, hends, hperm⟩, ?_⟩
  rcases answer with e | completed
  · obtain ⟨rfl, rfl⟩ := ends_done_iff.1 hfifth
    refine ⟨?_, rfl⟩
    simp [Progress.after]
  · obtain ⟨rfl, rfl⟩ := ends_done_iff.1 hfifth
    constructor
    · simp [Progress.after]
    · simp [Progress.after, Except.map, Except.mapError, Examination.report]

/-- Every record of an audit is one of the protocol. -/
theorem protocol_of_ends {options : AuditOptions} {schedule : Schedule} {target : Target}
    {record : List Exchange} {result : Except AuditError Report}
    (h : (Audit.run provider gateway options schedule target).Ends record result) :
    Protocol options target record result := by
  -- The repository is recorded, or nothing else is done.
  obtain ⟨first, answer, second, rfl, hfirst, hsecond⟩ := ends_bind_iff.1 h
  obtain rfl := ends_call_iff.1 hfirst
  rcases answer with e | repository
  · obtain ⟨rfl, rfl⟩ := ends_done_iff.1 hsecond
    exact .refused e
  -- An audit is opened, or nothing else is done.
  obtain ⟨third, answer, fourth, rfl, hthird, hfourth⟩ := ends_bind_iff.1 hsecond
  obtain rfl := ends_call_iff.1 hthird
  rcases answer with e | audit
  · obtain ⟨rfl, rfl⟩ := ends_done_iff.1 hfourth
    exact .unopened repository e
  -- The manifest is looked for with the provider alone.
  obtain ⟨located, outcome, fifth, rfl, hlocated, hfifth⟩ := ends_bind_iff.1 hfourth
  have hlocates : (Manifest.locate provider target.owner target.name options.manifestNames
      options.branches).Asks (·.isStore = false) := asks_locate fun _ _ => rfl
  have hprovider : ∀ exchange ∈ located, exchange.isStore = false := hlocates.forall_mem hlocated
  rcases outcome with e | manifest
  · obtain ⟨sixth, answer, seventh, rfl, hsixth, hseventh⟩ := ends_bind_iff.1 hfifth
    obtain rfl := ends_call_iff.1 hsixth
    obtain ⟨rfl, rfl⟩ := ends_done_iff.1 hseventh
    simpa [opening] using Protocol.failed repository audit located e answer hprovider hlocated
  · obtain ⟨x, walked, files, answer, rfl, hwalked, hfiles, rfl, rfl⟩ := ends_examine hfifth
    have hwalks : (Walk.roots provider target.owner target.name options.walk {}
        options.sourceRoots).Asks (·.isStore = false) := asks_roots {} fun _ => rfl
    have hwalk : ∀ exchange ∈ located ++ walked, exchange.isStore = false := by
      intro exchange he
      rcases List.mem_append.1 he with he | he
      · exact hprovider exchange he
      · exact hwalks.forall_mem hwalked exchange he
    simpa [opening] using
      Protocol.examined repository audit x located walked files answer hwalk hlocated hwalked hfiles

/-- Whatever a provider and a store answer, an audit with them follows the protocol: a run that also
keeps a record comes to the same outcome, and the record is one that the protocol allows with it. -/
theorem run_protocol {W : Type} (p : Provider (StateM W)) (g : Gateway (StateM W))
    (options : AuditOptions) (schedule : Schedule) (target : Target) (w : W) :
    ∃ result record w',
      ((Audit.run p.recorded g.recorded options schedule target).run []).run w =
        ((result, record), w') ∧
      (Audit.run p g options schedule target).run w = (result, w') ∧
      Protocol options target record result := by
  -- The audit is a dialogue, and what it comes to here is in its transcript.
  rcases h : ((Audit.run provider gateway options schedule target).transcript p g).run w with
    ⟨⟨result, record⟩, w'⟩
  refine ⟨result, record, w', ?_, ?_, protocol_of_ends (ends_of_transcript h)⟩
  · rw [← conduct_run, run_conduct_recorded]
    simpa using h
  · rw [← conduct_run, ← fst_map_transcript, StateT.run_map, h]
    rfl

end Audit

end SourceAudit
