import SourceAudit.Audit.Run
import SourceAudit.Proofs.Audit.Listing
import SourceAudit.Proofs.Walk.Modules

/-!
# Walks that exclude more

A walk that excludes more has no other candidates (`Walk.foundFrom_subset`), so a walk that is not
capped has collected all of those that one with more exclusions collects, and knows all of its modules
(`Walk.mem_moduleNames_of_excluding`). A walk that is capped may have stopped before candidates that
the one with more exclusions has room for.
-/

namespace SourceAudit

/-! ### More exclusions in settings -/

namespace Settings

/-- The settings with these patterns of paths that are no candidates. -/
def excluding (s : Settings) (exclude : List String) : Settings :=
  { s with analysis := { s.analysis with exclude } }

/-- The globs that are read are those of the patterns. -/
theorem mem_readGlobs_iff {patterns : List String} {globs : List Glob}
    (h : readGlobs patterns = .ok globs) (glob : Glob) :
    glob ∈ globs ↔ ∃ pattern ∈ patterns, Glob.parse pattern = .ok glob := by
  induction patterns generalizing globs with
  | nil =>
    obtain rfl := Except.ok.inj h
    simp
  | cons pattern rest ih =>
    rw [readGlobs] at h
    rcases hfirst : Glob.parse pattern with fault | first
    · rw [hfirst] at h
      cases h
    rw [hfirst] at h
    rcases hrest : readGlobs rest with e | later
    · rw [hrest] at h
      cases h
    · rw [hrest] at h
      obtain rfl := Except.ok.inj h
      simp [ih hrest, hfirst, eq_comm]

/-- The globs of settings are those of their patterns. -/
theorem readGlobs_of_excludeGlobs {s : Settings} {globs : List Glob}
    (h : s.excludeGlobs = .ok globs) : readGlobs s.analysis.exclude = .ok globs := by
  rw [excludeGlobs] at h
  rcases hread : readGlobs s.analysis.exclude with e | read
  · rw [hread] at h
    cases h
  rw [hread] at h
  dsimp only at h
  split at h
  · cases h
  · exact congrArg Except.ok (Except.ok.inj h)

end Settings

/-- The options with these globs of paths that are no candidates. -/
def WalkOptions.excluding (o : WalkOptions) (exclude : List Glob) : WalkOptions :=
  { o with exclude }

/-- Settings with more patterns differ in nothing but that their walk excludes more. -/
theorem AuditOptions.eq_of_excluding {s : Settings} {exclude : List String}
    {options options' : AuditOptions} (h : AuditOptions.ofSettings s = .ok options)
    (h' : AuditOptions.ofSettings (s.excluding exclude) = .ok options')
    (hmore : ∀ pattern ∈ s.analysis.exclude, pattern ∈ exclude) :
    ∃ globs, options' = { options with walk := options.walk.excluding globs } ∧
      ∀ glob ∈ options.walk.exclude, glob ∈ globs := by
  rw [ofSettings] at h h'
  rcases hglobs : s.excludeGlobs with e | globs
  · rw [hglobs] at h
    cases h
  rcases hglobs' : (s.excluding exclude).excludeGlobs with e | globs'
  · rw [hglobs'] at h'
    cases h'
  rw [hglobs] at h
  rw [hglobs'] at h'
  obtain rfl := Except.ok.inj h
  obtain rfl := Except.ok.inj h'
  -- A glob of the settings is that of a pattern, which the other settings have too.
  refine ⟨globs', rfl, fun glob hglob => ?_⟩
  obtain ⟨pattern, hpattern, hparse⟩ :=
    (Settings.mem_readGlobs_iff (Settings.readGlobs_of_excludeGlobs hglobs) glob).1 hglob
  exact (Settings.mem_readGlobs_iff (Settings.readGlobs_of_excludeGlobs hglobs') glob).2
    ⟨pattern, hmore pattern hpattern, hparse⟩

/-! ### The modules of a walk -/

namespace Walk

open Dialogue

variable {o : WalkOptions} {exclude : List Glob} {listing : Listing}

/-- Candidates that are not excluded by more globs are not excluded by fewer. -/
theorem candidatesAmong_excluding (h : ∀ glob ∈ o.exclude, glob ∈ exclude)
    (entries : List DirectoryEntry) :
    (o.excluding exclude).candidatesAmong entries ⊆ o.candidatesAmong entries := by
  have hcandidate : ∀ path, (o.excluding exclude).isCandidate path = true →
      o.isCandidate path = true := by
    intro path hpath
    obtain ⟨hwants, hnone⟩ := Bool.and_eq_true_iff.1 hpath
    refine Bool.and_eq_true_iff.2 ⟨hwants, ?_⟩
    rw [Bool.not_eq_true', List.any_eq_false] at hnone ⊢
    exact fun glob hglob => hnone glob (h glob hglob)
  refine List.map_subset _ fun e he => ?_
  obtain ⟨he, hkeep⟩ := List.mem_filter.1 he
  obtain ⟨hkind, hpath⟩ := Bool.and_eq_true_iff.1 hkeep
  exact List.mem_filter.2 ⟨he, Bool.and_eq_true_iff.2 ⟨hkind, hcandidate _ hpath⟩⟩

/-- The candidates on levels are no others where more is excluded; the directories are the same. -/
theorem found_subset (h : ∀ glob ∈ o.exclude, glob ∈ exclude) (depth : Nat)
    (directories : List String) :
    found (o.excluding exclude) listing depth directories ⊆ found o listing depth directories := by
  induction depth generalizing directories with
  | zero => exact List.Subset.refl _
  | succ depth ih =>
    rw [found, found]
    refine List.append_subset.2 ⟨fun path hpath => ?_, ?_⟩
    · obtain ⟨directory, hdirectory, hpath⟩ := List.mem_flatMap.1 hpath
      exact List.mem_append_left _ (List.mem_flatMap.2
        ⟨directory, hdirectory, candidatesAmong_excluding h _ hpath⟩)
    · exact List.subset_append_of_subset_right _ (ih _)

/-- The candidates from source roots on are no others where more is excluded. -/
theorem foundFrom_subset (h : ∀ glob ∈ o.exclude, glob ∈ exclude) (roots : List String) :
    foundFrom (o.excluding exclude) listing roots ⊆ foundFrom o listing roots := by
  intro path hpath
  obtain ⟨root, hroot, hpath⟩ := List.mem_flatMap.1 hpath
  exact List.mem_flatMap.2 ⟨root, hroot, found_subset h _ _ hpath⟩

/-- A walk that is not capped knows all modules that one with more exclusions knows. -/
theorem mem_moduleNames_of_excluding (h : ∀ glob ∈ o.exclude, glob ∈ exclude) {owner repo : String}
    {roots : List String} {module : String}
    (hopen : ((Walk.roots provider owner repo o {} roots).reply listing.answers).capped = false)
    (hmodule : module ∈
      ((Walk.roots provider owner repo (o.excluding exclude) {} roots).reply
        listing.answers).moduleNames) :
    module ∈ ((Walk.roots provider owner repo o {} roots).reply listing.answers).moduleNames := by
  have hcollected : Collected o (foundFrom o listing roots)
      ((Walk.roots provider owner repo o {} roots).reply listing.answers) :=
    collected_roots .empty roots
  have hcollected' : Collected (o.excluding exclude) (foundFrom (o.excluding exclude) listing roots)
      ((Walk.roots provider owner repo (o.excluding exclude) {} roots).reply listing.answers) :=
    collected_roots .empty roots
  -- The one walk has some of the candidates that it finds, and the other one has all of them.
  obtain ⟨file, hfile, hmodule⟩ := mem_moduleNames_iff.1 hmodule
  rw [hcollected'.files] at hfile
  refine mem_moduleNames_iff.2 ⟨file, ?_, hmodule⟩
  rw [(hcollected.files_eq hopen).1, List.mem_eraseDups]
  exact foundFrom_subset h roots (List.mem_eraseDups.1 (List.mem_of_mem_take hfile))

end Walk

end SourceAudit
