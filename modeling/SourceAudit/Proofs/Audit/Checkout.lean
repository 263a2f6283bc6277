import SourceAudit.Proofs.Audit.Exclude
import SourceAudit.Proofs.Walk.Checkout

/-!
# Audits of a checkout

A checkout serves every file that it lists, so that in an audit of it no file fails: as long as there
is a branch to ask for, and the paths are not too long for a file system, each candidate is fetched and
scanned (`Audit.run_local_fetched`).

The tree of the checkout must stay as it is while the audit goes on. The store may be anywhere else.
-/

namespace SourceAudit

open Dialogue LocalProvider

variable {S : Type} {t u : FileTree} {root : String}

/-- A store keeps its records elsewhere: a call on it leaves this tree as it is. -/
def Gateway.Spares (g : Gateway (StateT S (StateM FileTree))) (t : FileTree) : Prop :=
  ∀ (c : StoreCall) s, (((c.perform g).run s).run t).2 = t

/-- A checkout, read beside a store. -/
abbrev Provider.localBeside (S : Type) (root : String) : Provider (StateT S (StateM FileTree)) :=
  (Provider.local FileTree.files root).lift StateT.lift

namespace LocalProvider

/-- The answers to calls, as far as a checkout gives them. -/
def answers (t : FileTree) (root : String) : (c : Call) → c.Answer
  | .fetch _ _ path _ => content t root path
  | .list _ _ directory => listing t root directory
  | .store c => (Call.store c).refusal

/-- A call on a checkout is answered out of the tree, which stays as it is. -/
theorem run_perform_local (t : FileTree) (root : String) (g : Gateway (StateT S (StateM FileTree)))
    (s : S) {c : Call} (h : c.isStore = false) :
    ((c.perform (.localBeside S root) g).run s).run t = ((answers t root c, s), t) := by
  have hlift : ∀ {α : Type} {act : StateM FileTree α} {a : α}, act.run t = (a, t) →
      ((StateT.lift act : StateT S (StateM FileTree) α).run s).run t = ((a, s), t) := by
    intro α act a hact
    rw [StateT.run_lift, run_bind_of_eq hact]
    rfl
  cases c with
  | fetch owner repo path branch => exact hlift (run_fetch_eq t root path)
  | list owner repo directory => exact hlift (run_list_eq t root directory)
  | store c => cases h

/-- While a store spares the tree of a checkout, all that is asked of the checkout is answered out of
it. -/
theorem answer_eq_of_course {g : Gateway (StateT S (StateM FileTree))} {record : List Exchange}
    {s s' : S} {w : FileTree} (hg : g.Spares t) (hw : w = t)
    (h : Course (.localBeside S root) g s w record s' u) :
    u = t ∧ ∀ e ∈ record, e.isStore = false → e.answer = answers t root e.call := by
  induction h with
  | nil => exact ⟨hw, List.forall_mem_nil _⟩
  | @cons s s₁ _ w w₁ _ c answer record hcall _ ih =>
    rw [hw] at hcall
    have hafter : w₁ = t ∧ (c.isStore = false → answer = answers t root c) := by
      rcases hstore : c.isStore
      · rw [run_perform_local t root g s hstore] at hcall
        cases hcall
        exact ⟨rfl, fun _ => rfl⟩
      · refine ⟨?_, fun hnot => by cases hnot⟩
        cases c with
        | fetch | list => cases hstore
        | store c => exact (congrArg (·.2) hcall).symm.trans (hg c s)
    obtain ⟨hend, hanswers⟩ := ih hafter.1
    exact ⟨hend, List.forall_mem_cons.2 ⟨hafter.2, hanswers⟩⟩

/-- The texts of a checkout do not depend on the branch. -/
def contents (t : FileTree) (root : String) : Content := fun _ _ path _ => content t root path

end LocalProvider

namespace Audit

variable {options : AuditOptions} {schedule : Schedule} {target : Target} {report : Report}
  {walk : Walk}

/-- A file that the first branch has is what an attempt on all branches comes to. -/
theorem reply_fetchAny {content : Content} {owner repo path branch text : String}
    (h : content owner repo path branch = .ok (some text)) (rest : List String) :
    (provider.fetchAny owner repo path (branch :: rest)).reply content.answers =
      .ok (some text) := by
  have hanswer : (provider.fetch owner repo path branch).reply content.answers = .ok (some text) := h
  rw [Provider.fetchAny, Provider.fetchFrom, reply_bind, hanswer]
  rfl

/-- An audit of a checkout, whose store spares the tree, has examined what the tree makes of it. -/
theorem exists_foretold_local {g : Gateway (StateT S (StateM FileTree))} {s s' : S} (hg : g.Spares t)
    (hrun : ((Audit.run (.localBeside S root) g options schedule target).run s).run t =
      ((.ok report, s'), u)) :
    u = t ∧ ∃ x : Examination, x.Foretold options target (listing t root) (contents t root) ∧
      report.failed = x.failures ∧ report.analyzed = x.texts.map (·.1) := by
  obtain ⟨record, x, -, hexamined, hcourse⟩ := exists_examined hrun
  obtain ⟨hstays, hanswers⟩ := answer_eq_of_course hg rfl hcourse
  refine ⟨hstays, x, Examination.foretold_of_answers hexamined ?_ ?_, ?_, ?_⟩
  · rintro ⟨c, answer⟩ he ⟨directory, rfl⟩
    exact hanswers _ he rfl
  · rintro ⟨c, answer⟩ he hfetch
    cases c with
    | fetch => exact hanswers _ he rfl
    | list | store => cases hfetch
  all_goals
    cases hexamined
    rfl

/-- Where every fetch gives a text, no file fails and all of them are scanned. -/
theorem failures_eq_nil {x : Examination} (h : ∀ o ∈ x.outcomes, ∃ text, o.2 = .ok (some text)) :
    x.failures = [] ∧ x.texts.map (·.1) = x.outcomes.map (·.1) := by
  constructor
  · rw [Examination.failures, List.map_eq_nil_iff, List.filter_eq_nil_iff]
    intro o ho
    obtain ⟨text, htext⟩ := h o ho
    simp [htext, Fetched.text?]
  · rw [Examination.texts, List.map_filterMap, ← List.filterMap_eq_map]
    refine List.filterMap_congr fun o ho => ?_
    obtain ⟨text, htext⟩ := h o ho
    simp [htext, Fetched.text?]

/-- A candidate of a proper checkout is the path of a file, and the text of the file is what a fetch
comes to unless the path is too long. -/
theorem exists_content_of_mem_files {owner repo path : String} {o : WalkOptions}
    {roots : List String} (hproper : t.IsProper)
    (hpath : path ∈ ((Walk.roots provider owner repo o {} roots).reply
      (listing t root : Listing).answers).files)
    (hsize : Text.Utf8.size (Path.join root.toList path.toList) ≤ maxPathSize) :
    ∃ loc bytes, t.ResolvesTo (Path.join root.toList path.toList) loc ∧
      (loc, .file bytes) ∈ t.entries ∧
      content t root path = .ok (some (String.ofList (Text.Utf8.decodeLossy bytes))) := by
  obtain ⟨directory, -, loc, e, hlists, hfile, rfl, hend⟩ :=
    Walk.exists_lists_of_mem_files hproper hpath
  obtain ⟨bytes, hmem, hcontent⟩ := hlists.fetch hproper hend hfile hsize
  exact ⟨_, bytes, hlists.resolvesTo hproper hend, hmem, hcontent⟩

/-- Every candidate of a proper checkout whose path is not too long is served: it is the path of a file,
whose bytes are what comes of a fetch on any branch and of an attempt on all branches. So an audit of
the checkout that has a branch to ask for, and whose store spares the tree, scans all the candidates
that are selected, and no file fails in it. -/
theorem run_local_fetched (hproper : t.IsProper)
    (hwalk : (Walk.roots (Provider.local FileTree.files root) target.owner target.name options.walk {}
      options.sourceRoots).run t = (walk, u))
    (hsize : ∀ path ∈ walk.files,
      Text.Utf8.size (Path.join root.toList path.toList) ≤ maxPathSize) :
    u = t ∧
      (∀ path ∈ walk.files, ∃ loc bytes,
        t.ResolvesTo (Path.join root.toList path.toList) loc ∧ (loc, .file bytes) ∈ t.entries ∧
        ∀ branch rest,
          ((Provider.local FileTree.files root).fetch target.owner target.name path branch).run t =
            (.ok (some (String.ofList (Text.Utf8.decodeLossy bytes))), t) ∧
          ((Provider.local FileTree.files root).fetchAny target.owner target.name path
            (branch :: rest)).run t =
              (.ok (some (String.ofList (Text.Utf8.decodeLossy bytes))), t)) ∧
      ∀ (S : Type) (g : Gateway (StateT S (StateM FileTree))) (schedule : Schedule) (s s' : S)
        (t' : FileTree) (report : Report), g.Spares t → options.branches ≠ [] →
        ((Audit.run (.localBeside S root) g options schedule target).run s).run t =
          ((.ok report, s'), t') →
        t' = t ∧ report.failed = [] ∧ report.analyzed = walk.files.take options.maxFiles := by
  rw [Walk.run_roots_local] at hwalk
  obtain ⟨rfl, rfl⟩ := Prod.mk.inj hwalk
  refine ⟨rfl, fun path hpath => ?_, fun S g schedule s s' t' report hg hbranches hrun => ?_⟩
  · obtain ⟨loc, bytes, hleads, hmem, hcontent⟩ :=
      exists_content_of_mem_files hproper hpath (hsize path hpath)
    refine ⟨loc, bytes, hleads, hmem, fun branch rest => ?_⟩
    have hfetch : ((Provider.local FileTree.files root).fetch target.owner target.name path
        branch).run t = (.ok (some (String.ofList (Text.Utf8.decodeLossy bytes))), t) := by
      rw [← hcontent]
      exact run_fetch_eq t root path
    refine ⟨hfetch, ?_⟩
    rw [Provider.fetchAny, Provider.fetchFrom, run_bind_of_eq hfetch]
    rfl
  · obtain ⟨hstays, x, hforetold, hfailed, hanalyzed⟩ := exists_foretold_local hg hrun
    obtain ⟨branch, rest, hbranches⟩ := List.exists_cons_of_ne_nil hbranches
    have hserved : ∀ o ∈ x.outcomes, ∃ text, o.2 = .ok (some text) := by
      intro o ho
      rw [hforetold.outcomes] at ho
      obtain ⟨path, hpath, rfl⟩ := List.mem_map.1 ho
      rw [hforetold.walk] at hpath
      have hpath := List.mem_of_mem_take hpath
      obtain ⟨-, bytes, -, -, hcontent⟩ :=
        exists_content_of_mem_files hproper hpath (hsize path hpath)
      rw [hbranches]
      exact ⟨_, reply_fetchAny hcontent rest⟩
    obtain ⟨hnone, htexts⟩ := failures_eq_nil hserved
    refine ⟨hstays, hfailed.trans hnone, ?_⟩
    rw [hanalyzed, htexts, hforetold.outcomes, hforetold.walk, List.map_map]
    exact List.map_id _

/-! ### An audit of one file -/

/-- A provider with these answers. -/
def answering (listing : Listing) (content : Content) : Provider (StateM Unit) where
  fetch owner repo path branch := pure (content owner repo path branch)
  list _ _ directory := pure (listing directory)

/-- A dialogue whose calls get the foreseen answers whatever the surroundings comes to what is foreseen. -/
theorem conduct_eq_pure {m : Type → Type} [Monad m] [LawfulMonad m] {p : Provider m} {g : Gateway m}
    {α : Type} {d : Dialogue α} {P : Call → Prop} {foreseen : (c : Call) → c.Answer}
    (hasks : d.Asks P) (hcall : ∀ c, P c → c.perform p g = pure (foreseen c)) :
    d.conduct p g = pure (d.reply foreseen) := by
  induction d with
  | done a => rfl
  | ask c next ih =>
    rw [conduct, hcall c hasks.1, pure_bind]
    exact ih _ (hasks.2 _)

/-- The store in memory that an audit of a checkout has its records in while the clock stands still. -/
abbrev stillGateway : Gateway (StateT Store (StateM FileTree)) :=
  Gateway.inMemory (besideStore (pure ⟨0, 0, 0⟩))

theorem spares_stillGateway (t : FileTree) : stillGateway.Spares t := by
  intro c s
  cases c <;> rfl

/-- With a store in memory, an audit does not see whether it reads a checkout or gets its answers. -/
theorem run_stillGateway {α : Type} (t : FileTree) (root : String) (d : Dialogue α) (s : Store) :
    ((d.conduct (.localBeside Store root) stillGateway).run s).run t =
      ((((d.conduct ((answering (listing t root) (contents t root)).lift besideStore)
        (Gateway.inMemory (besideStore stillClock))).run s).run ()).1, t) := by
  have hcall : ∀ (c : Call) (s : Store),
      ((c.perform (.localBeside Store root) stillGateway).run s).run t =
        ((((c.perform ((answering (listing t root) (contents t root)).lift besideStore)
          (Gateway.inMemory (besideStore stillClock))).run s).run ()).1, t) := by
    intro c s
    cases c with
    | fetch | list => exact run_perform_local t root stillGateway s rfl
    | store c => cases c <;> rfl
  induction d generalizing s with
  | done a => rfl
  | ask c next ih =>
    rw [conduct, conduct, run_bind_of_run (hcall c s), run_bind_of_run (Prod.eta _).symm]
    exact ih _ _

open Walk (sampleTree isProper_sampleTree listing_sampleTree_root)

/-- What is listed at the root of the checkout is served. -/
theorem content_sampleTree (name text : String)
    (he : ⟨name, name, .file⟩ ∈ Listing.entries (listing sampleTree "p") "")
    (hsize : Text.Utf8.size (Path.join ['p'] name.toList) ≤ maxPathSize)
    (honly : ∀ e ∈ sampleTree.entries, e.1.getLast? = some name →
      e.2 = .file (Text.Utf8.encode text.toList)) :
    content sampleTree "p" name = .ok (some text) := by
  obtain ⟨loc, hlists⟩ := exists_lists he
  obtain ⟨bytes, hmem, hcontent⟩ := hlists.fetch isProper_sampleTree (by decide) rfl hsize
  obtain rfl := TreeEntry.file.inj (honly _ hmem List.getLast?_concat)
  have htext : Text.Utf8.decodeLossy (Text.Utf8.encode text.toList) = text.toList := by
    rw [Text.Utf8.decodeLossy, Text.Utf8.decode_encode, List.map_map]
    exact List.map_id _
  rwa [htext, String.ofList_toList] at hcontent

theorem content_sampleTree_app : content sampleTree "p" "app.py" = .ok (some "x = 1\n") :=
  content_sampleTree _ _ (by rw [Listing.entries, listing_sampleTree_root]; decide) (by decide)
    (by decide)

theorem content_sampleTree_manifest : content sampleTree "p" "requirements.txt" = .ok (some "") :=
  content_sampleTree _ _ (by rw [Listing.entries, listing_sampleTree_root]; decide) (by decide)
    (by decide)

/-- The answers of the checkout. -/
abbrev sampleProvider : Provider (StateT Store (StateM Unit)) :=
  (answering (listing sampleTree "p") (contents sampleTree "p")).lift besideStore

theorem fetchAny_sampleProvider {name text : String}
    (h : content sampleTree "p" name = .ok (some text)) :
    sampleProvider.fetchAny bareTarget.owner bareTarget.name name singleOptions.branches =
      pure (.ok (some text)) := by
  have hfetch : sampleProvider.fetch bareTarget.owner bareTarget.name name "main" =
      pure (.ok (some text)) := by
    rw [← h]
    rfl
  have hbranches : singleOptions.branches = ["main"] := rfl
  rw [hbranches, Provider.fetchAny, Provider.fetchFrom, hfetch, pure_bind]

/-- A walk of the checkout collects the file. -/
theorem exists_roots_sampleProvider : ∃ walk,
    Walk.roots sampleProvider bareTarget.owner bareTarget.name singleOptions.walk {}
      singleOptions.sourceRoots = pure walk ∧ walk.files = ["app.py"] := by
  have hasks : (Walk.roots provider bareTarget.owner bareTarget.name singleOptions.walk {}
      singleOptions.sourceRoots).Asks
        fun c => ∃ directory, c = .list bareTarget.owner bareTarget.name directory :=
    asks_roots {} fun directory => ⟨directory, rfl⟩
  refine ⟨_, ?_, Walk.files_sampleTree bareTarget.owner bareTarget.name⟩
  rw [← conduct_roots (g := .refusing)]
  refine conduct_eq_pure hasks ?_
  rintro _ ⟨directory, rfl⟩
  rfl

/-- An audit of the checkout comes to a report: with a store in memory it scans the file. -/
theorem run_sampleTree : ∃ report s',
    ((Audit.run (.localBeside Store "p") stillGateway singleOptions .oldestFirst bareTarget).run
      {}).run sampleTree = ((.ok report, s'), sampleTree) := by
  obtain ⟨walk, hroots, hfiles⟩ := exists_roots_sampleProvider
  let x : Examination := ⟨⟨"requirements.txt", ""⟩, walk, [("app.py", .ok (some "x = 1\n"))]⟩
  have hlocate : Manifest.locate sampleProvider bareTarget.owner bareTarget.name
      singleOptions.manifestNames singleOptions.branches = pure (.ok x.manifest) := by
    have hnames : singleOptions.manifestNames = ["requirements.txt"] := rfl
    rw [hnames, Manifest.locate, Manifest.locateFrom,
      fetchAny_sampleProvider content_sampleTree_manifest, pure_bind]
  have hselected : x.walk.files.take singleOptions.maxFiles = ["app.py"] := by
    rw [hfiles]
    rfl
  obtain ⟨logged, s₃, w, hlogged, hfound, -⟩ := run_logHits stillClock () audit?_bareOpened rfl
    "app.py" (x.hits singleOptions "x = 1\n")
  obtain ⟨compliant, hrun⟩ := run_first (x := x) (by rw [hlocate]; rfl) hroots hselected rfl
    (fetchAny_sampleProvider content_sampleTree_app) rfl hlogged hfound
  rw [← conduct_run] at hrun ⊢
  rw [run_stillGateway, hrun]
  exact ⟨_, _, rfl⟩

/-- The audit of the checkout scans the file, and none fails. -/
theorem run_local_fetched_sampleTree : sampleTree.IsProper ∧ ∃ walk,
    (Walk.roots (Provider.local FileTree.files "p") bareTarget.owner bareTarget.name
      singleOptions.walk {} singleOptions.sourceRoots).run sampleTree = (walk, sampleTree) ∧
    walk.files = ["app.py"] ∧
    (∀ path ∈ walk.files, Text.Utf8.size (Path.join "p".toList path.toList) ≤ maxPathSize) ∧
    (∃ loc bytes, sampleTree.ResolvesTo "p/app.py".toList loc ∧
      (loc, .file bytes) ∈ sampleTree.entries ∧
      ((Provider.local FileTree.files "p").fetch bareTarget.owner bareTarget.name "app.py"
        "main").run sampleTree =
          (.ok (some (String.ofList (Text.Utf8.decodeLossy bytes))), sampleTree)) ∧
    stillGateway.Spares sampleTree ∧ singleOptions.branches ≠ [] ∧
    ∃ report s',
      ((Audit.run (.localBeside Store "p") stillGateway singleOptions .oldestFirst bareTarget).run
        {}).run sampleTree = ((.ok report, s'), sampleTree) ∧
      report.failed = [] ∧ report.analyzed = ["app.py"] := by
  have hfiles := Walk.files_sampleTree bareTarget.owner bareTarget.name
  have hsize : ∀ path ∈ ["app.py"],
      Text.Utf8.size (Path.join "p".toList path.toList) ≤ maxPathSize := by decide
  rw [← hfiles] at hsize
  obtain ⟨-, hserved, haudits⟩ := run_local_fetched isProper_sampleTree
    (Walk.run_roots_local sampleTree "p" bareTarget.owner bareTarget.name singleOptions.walk
      singleOptions.sourceRoots) hsize
  obtain ⟨loc, bytes, hleads, hmem, hfetched⟩ := hserved "app.py" (hfiles ▸ List.mem_singleton_self _)
  obtain ⟨report, s', hrun⟩ := run_sampleTree
  have hbranches : singleOptions.branches ≠ [] := List.cons_ne_nil _ _
  obtain ⟨-, hnone, hanalyzed⟩ := haudits Store stillGateway .oldestFirst {} s' sampleTree report
    (spares_stillGateway sampleTree) hbranches hrun
  rw [hfiles] at hanalyzed
  exact ⟨isProper_sampleTree, _, Walk.run_roots_local .., hfiles, hsize,
    ⟨loc, bytes, hleads, hmem, (hfetched "main" []).1⟩, spares_stillGateway sampleTree, hbranches,
    report, s', hrun, hnone, hanalyzed⟩

end Audit

end SourceAudit
