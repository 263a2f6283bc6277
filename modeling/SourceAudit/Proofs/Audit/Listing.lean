import SourceAudit.Proofs.Dialogue.Basic
import SourceAudit.Walk

/-!
# What a walk collects

Where the listing of a directory depends on the directory alone, the candidates that a walk comes
upon can be told from the listings, level by level (`Walk.candidates`). A walk collects the first of
them, as many as it wants, and it is capped exactly if there are more (`Walk.collected_roots`). So a
walk that wants enough collects all of them.

The invariant is `Walk.Collected`: it relates a walk to the paths of candidates that it has come
upon so far. Every step of a walk that is not capped adds paths to these, and a walk that is capped
has collected what it wants, whatever paths are still to come.
-/

namespace SourceAudit

/-- The answers to listings, where they depend on the directory alone. -/
abbrev Listing := (directory : String) → Except ProviderError (List DirectoryEntry)

namespace Listing

/-- The entries of a directory; one that cannot be listed has none. -/
def entries (listing : Listing) (directory : String) : List DirectoryEntry :=
  (listing directory).toOption.getD []

/-- The answers to calls, as far as they are listings. -/
def answers (listing : Listing) : (c : Call) → c.Answer
  | .list _ _ directory => listing directory
  | c => c.refusal

end Listing

namespace WalkOptions

/-- The candidates among entries. -/
def candidatesAmong (o : WalkOptions) (entries : List DirectoryEntry) : List String :=
  (entries.filter fun e => e.kind = .file && o.isCandidate e.path).map (·.path)

/-- The directories among entries that are entered. -/
def enteredAmong (o : WalkOptions) (entries : List DirectoryEntry) : List String :=
  (entries.filter fun e => e.kind = .directory && o.enters e.name).map (·.path)

/-- The options with another bound on the candidates. -/
def collecting (o : WalkOptions) (bound : Nat) : WalkOptions :=
  { o with maxCandidates := bound }

end WalkOptions

namespace Walk

/-- The paths of candidates on so many levels from directories on, in the order of a walk. -/
def found (o : WalkOptions) (listing : Listing) : (depth : Nat) → List String → List String
  | 0, _ => []
  | depth + 1, directories =>
    directories.flatMap (fun d => o.candidatesAmong (listing.entries d)) ++
      found o listing depth (directories.flatMap fun d => o.enteredAmong (listing.entries d))

/-- The paths of candidates from source roots on, in the order of a walk. -/
def foundFrom (o : WalkOptions) (listing : Listing) (roots : List String) : List String :=
  roots.flatMap fun root =>
    found o listing o.maxDepth [String.ofList (Text.trimWhile (· == '/') root.toList)]

/-- The candidates from source roots on, each once. -/
def candidates (o : WalkOptions) (listing : Listing) (roots : List String) : List String :=
  (foundFrom o listing roots).eraseDups

section Found

variable {o : WalkOptions} {listing : Listing}

@[simp] theorem found_nil (depth : Nat) : found o listing depth [] = [] := by
  induction depth with
  | zero => rfl
  | succ depth ih => exact ih

@[simp] theorem found_collecting (bound depth : Nat) (directories : List String) :
    found (o.collecting bound) listing depth directories = found o listing depth directories := by
  induction depth generalizing directories with
  | zero => rfl
  | succ depth ih =>
    rw [found, found, ih]
    rfl

/-- What the candidates are does not depend on how many are wanted. -/
@[simp] theorem candidates_collecting (bound : Nat) (roots : List String) :
    candidates (o.collecting bound) listing roots = candidates o listing roots := by
  have hdepth : (o.collecting bound).maxDepth = o.maxDepth := rfl
  simp [candidates, foundFrom, hdepth]

end Found

/-- The walk has come upon these paths of candidates, and has collected the first of them. -/
structure Collected (o : WalkOptions) (paths : List String) (w : Walk) : Prop where
  files : w.files = paths.eraseDups.take o.maxCandidates
  capped : w.capped = true ↔ o.maxCandidates < paths.eraseDups.length

/-- A walk has come upon these paths with one level, and unless it is capped it goes on with these
directories. -/
structure Reached (o : WalkOptions) (paths below : List String) (r : Walk × List String) : Prop where
  collected : Collected o paths r.1
  below : r.1.capped = false → r.2 = below

/-- A path that comes last is kept if it does not come before. -/
theorem eraseDups_concat (paths : List String) (path : String) :
    (paths ++ [path]).eraseDups =
      if path ∈ paths then paths.eraseDups else paths.eraseDups ++ [path] := by
  rw [List.eraseDups_append]
  by_cases h : path ∈ paths
  · simp [List.removeAll, h]
  · simp [List.removeAll, h, List.eraseDups_cons]

namespace Collected

variable {o : WalkOptions} {paths : List String} {w : Walk}

theorem empty : Collected o [] {} :=
  ⟨by simp, by simp⟩

/-- A walk that is not capped has collected all candidates. -/
theorem files_eq (h : Collected o paths w) (hopen : w.capped = false) :
    w.files = paths.eraseDups ∧ paths.eraseDups.length ≤ o.maxCandidates := by
  have hle : paths.eraseDups.length ≤ o.maxCandidates := by
    refine Nat.le_of_not_lt fun hlt => ?_
    rw [h.capped.2 hlt] at hopen
    cases hopen
  exact ⟨h.files.trans (List.take_of_length_le hle), hle⟩

/-- A walk that is capped has collected what it wants of any more paths. -/
theorem append (h : Collected o paths w) (hcapped : w.capped = true) (more : List String) :
    Collected o (paths ++ more) w := by
  have hlt : o.maxCandidates < paths.eraseDups.length := h.capped.1 hcapped
  refine ⟨?_, iff_of_true hcapped ?_⟩
  · rw [List.eraseDups_append, List.take_append_of_le_length (Nat.le_of_lt hlt)]
    exact h.files
  · rw [List.eraseDups_append, List.length_append]
    omega

/-- A candidate is collected if it is new, or else caps the walk if it is one too many. -/
theorem addFile (h : Collected o paths w) (hopen : w.capped = false) {path : String}
    (hcandidate : o.isCandidate path = true) :
    Collected o (paths ++ [path]) (w.addFile o path) := by
  obtain ⟨hfiles, hle⟩ := h.files_eq hopen
  by_cases hmem : path ∈ paths
  · -- The path has come before, so that it is neither collected again nor counted.
    have hsame : w.addFile o path = w := by
      simp [Walk.addFile, hfiles, List.mem_eraseDups, hmem]
    have hpaths : (paths ++ [path]).eraseDups = paths.eraseDups := by
      rw [eraseDups_concat, if_pos hmem]
    rw [hsame]
    exact ⟨by rw [hpaths, h.files], by rw [hpaths, h.capped]⟩
  · have hpaths : (paths ++ [path]).eraseDups = paths.eraseDups ++ [path] := by
      rw [eraseDups_concat, if_neg hmem]
    by_cases hroom : o.maxCandidates ≤ paths.eraseDups.length
    · -- A new path that there is no room for is the one that the bound leaves out.
      have hcapped : w.addFile o path = { w with capped := true } := by
        simp [Walk.addFile, hcandidate, hfiles, List.mem_eraseDups, hmem, hroom]
      rw [hcapped]
      refine ⟨?_, iff_of_true rfl ?_⟩
      · rw [hpaths, List.take_append_of_le_length hroom]
        exact h.files
      · rw [hpaths, List.length_append, List.length_singleton]
        omega
    · have hadded : w.addFile o path = { w with files := w.files ++ [path] } := by
        simp [Walk.addFile, hcandidate, hfiles, List.mem_eraseDups, hmem, hroom]
      have hlength : (paths.eraseDups ++ [path]).length ≤ o.maxCandidates := by
        rw [List.length_append, List.length_singleton]
        omega
      rw [hadded]
      refine ⟨?_, ?_⟩
      · rw [hpaths, List.take_of_length_le hlength, ← hfiles]
      · rw [hpaths]
        simpa [hopen] using hlength

/-- A file that is no candidate changes nothing. -/
theorem addFile_of_not {path : String} (w : Walk) (hcandidate : o.isCandidate path = false) :
    w.addFile o path = w := by
  simp [Walk.addFile, hcandidate]

/-- The candidates of a listing are collected, and unless the walk is capped then, the directories
to enter are given. -/
theorem addEntries (h : Collected o paths w) (hopen : w.capped = false)
    (entries : List DirectoryEntry) :
    Reached o (paths ++ o.candidatesAmong entries) (o.enteredAmong entries)
      (w.addEntries o entries) := by
  induction entries generalizing paths w with
  | nil => exact ⟨by simpa [WalkOptions.candidatesAmong, Walk.addEntries] using h, fun _ => rfl⟩
  | cons e rest ih =>
    rcases hkind : e.kind with _ | _
    · -- A file is collected before the rest, which is passed over if the walk is capped then.
      have hentered : o.enteredAmong (e :: rest) = o.enteredAmong rest := by
        simp [WalkOptions.enteredAmong, hkind]
      have hstep : w.addEntries o (e :: rest) =
          if (w.addFile o e.path).capped then (w.addFile o e.path, [])
          else (w.addFile o e.path).addEntries o rest := by
        simp only [Walk.addEntries, hkind]
      rw [hentered, hstep]
      rcases hcandidate : o.isCandidate e.path with _ | _
      · have hamong : o.candidatesAmong (e :: rest) = o.candidatesAmong rest := by
          simp [WalkOptions.candidatesAmong, hcandidate]
        rw [addFile_of_not w hcandidate, hamong, hopen]
        exact ih h hopen
      · have hamong : paths ++ o.candidatesAmong (e :: rest) =
            paths ++ [e.path] ++ o.candidatesAmong rest := by
          simp [WalkOptions.candidatesAmong, hkind, hcandidate]
        have hadded := h.addFile hopen hcandidate
        rw [hamong]
        rcases hcapped : (w.addFile o e.path).capped with _ | _
        · exact ih hadded hcapped
        · refine ⟨hadded.append hcapped _, fun hnot => ?_⟩
          rw [if_pos rfl, hcapped] at hnot
          cases hnot
    · have hamong : o.candidatesAmong (e :: rest) = o.candidatesAmong rest := by
        simp [WalkOptions.candidatesAmong, hkind]
      have hentered : o.enteredAmong (e :: rest) =
          if o.enters e.name then e.path :: o.enteredAmong rest else o.enteredAmong rest := by
        simp [WalkOptions.enteredAmong, hkind, List.filter_cons, apply_ite]
      have hstep : w.addEntries o (e :: rest) = ((w.addEntries o rest).1,
          if o.enters e.name then e.path :: (w.addEntries o rest).2
          else (w.addEntries o rest).2) := by
        simp only [Walk.addEntries, hkind]
      have hrest := ih h hopen
      rw [hamong, hentered, hstep]
      exact ⟨hrest.collected, fun hnot => by rw [hrest.below hnot]⟩

/-- A directory that cannot be listed has no candidates. -/
theorem addUnreadable (h : Collected o paths w) (directory : String) :
    Collected o paths (w.addUnreadable directory) := by
  rw [Walk.addUnreadable]
  split
  · exact h
  · exact ⟨h.files, h.capped⟩

end Collected

/-! ### The steps of a walk -/

open Dialogue

variable {owner repo : String} {o : WalkOptions} {listing : Listing} {paths : List String} {w : Walk}

@[simp] theorem capped_addUnreadable (w : Walk) (directory : String) :
    (w.addUnreadable directory).capped = w.capped := by
  rw [addUnreadable]
  split <;> rfl

/-- A level goes on after a directory that cannot be listed. -/
theorem reply_level_cons_of_error {directory : String} {rest : List String} {e : ProviderError}
    (h : listing directory = .error e) :
    (level provider owner repo o w (directory :: rest)).reply listing.answers =
      (level provider owner repo o (w.addUnreadable directory) rest).reply listing.answers := by
  have hanswer : (provider.list owner repo directory).reply listing.answers = .error e := h
  rw [level, reply_bind, hanswer]

/-- A level that the entries of a directory cap ends there. -/
theorem reply_level_cons_of_capped {directory : String} {rest : List String}
    {entries : List DirectoryEntry} (h : listing directory = .ok entries)
    (hcapped : (w.addEntries o entries).1.capped = true) :
    (level provider owner repo o w (directory :: rest)).reply listing.answers =
      ((w.addEntries o entries).1, []) := by
  have hanswer : (provider.list owner repo directory).reply listing.answers = .ok entries := h
  rw [level, reply_bind, hanswer]
  dsimp only
  rw [if_pos hcapped]
  rfl

/-- A level takes the entries of a directory before those of the rest. -/
theorem reply_level_cons_of_open {directory : String} {rest : List String}
    {entries : List DirectoryEntry} (h : listing directory = .ok entries)
    (hopen : (w.addEntries o entries).1.capped = false) {r : Walk × List String}
    (hr : (level provider owner repo o (w.addEntries o entries).1 rest).reply listing.answers = r) :
    (level provider owner repo o w (directory :: rest)).reply listing.answers =
      (r.1, (w.addEntries o entries).2 ++ r.2) := by
  have hanswer : (provider.list owner repo directory).reply listing.answers = .ok entries := h
  have hnot : ¬ (w.addEntries o entries).1.capped = true := by simp [hopen]
  rw [level, reply_bind, hanswer]
  dsimp only
  rw [if_neg hnot, reply_bind, hr]
  rfl

/-- A level of a walk collects the candidates in its directories. -/
theorem reached_level (owner repo : String) (listing : Listing) (h : Collected o paths w)
    (hopen : w.capped = false) (directories : List String) :
    Reached o (paths ++ directories.flatMap fun d => o.candidatesAmong (listing.entries d))
      (directories.flatMap fun d => o.enteredAmong (listing.entries d))
      ((level provider owner repo o w directories).reply listing.answers) := by
  induction directories generalizing paths w with
  | nil => exact ⟨by simpa [level] using h, fun _ => rfl⟩
  | cons directory rest ih =>
    rw [List.flatMap_cons, List.flatMap_cons]
    rcases hlisting : listing directory with e | entries
    · have hnone : listing.entries directory = [] := by
        rw [Listing.entries, hlisting]
        rfl
      rw [hnone, reply_level_cons_of_error hlisting]
      exact ih (h.addUnreadable directory) (by rw [capped_addUnreadable, hopen])
    · have hentries : listing.entries directory = entries := by
        rw [Listing.entries, hlisting]
        rfl
      have hfirst := h.addEntries hopen entries
      rw [hentries, ← List.append_assoc]
      rcases hcapped : (w.addEntries o entries).1.capped with _ | _
      · have hrest := ih hfirst.collected hcapped
        rw [reply_level_cons_of_open hlisting hcapped rfl]
        exact ⟨hrest.collected, fun hnot => by rw [hfirst.below hcapped, hrest.below hnot]⟩
      · rw [reply_level_cons_of_capped hlisting hcapped]
        refine ⟨hfirst.collected.append hcapped _, fun hnot => ?_⟩
        exact absurd hcapped (by simpa using hnot)

/-- A walk that is capped goes no further. -/
theorem reply_levels_of_capped (hcapped : w.capped = true) (depth : Nat)
    (directories : List String) :
    (levels provider owner repo o depth w directories).reply listing.answers = w := by
  cases depth with
  | zero => rfl
  | succ depth =>
    have hstop : (directories.isEmpty || w.capped) = true := by simp [hcapped]
    rw [levels, if_pos hstop]
    rfl

/-- Levels of a walk collect the candidates on them. -/
theorem collected_levels (h : Collected o paths w) (depth : Nat) (directories : List String) :
    Collected o (paths ++ found o listing depth directories)
      ((levels provider owner repo o depth w directories).reply listing.answers) := by
  induction depth generalizing paths w directories with
  | zero => simpa [levels, found] using h
  | succ depth ih =>
    rw [levels]
    split
    · -- There is no directory to go on with, or the walk is capped.
      rename_i hstop
      rcases (Bool.or_eq_true _ _).mp hstop with hnil | hcapped
      · rw [List.isEmpty_iff.1 hnil, found_nil, List.append_nil]
        exact h
      · exact h.append hcapped _
    · rename_i hgo
      have hopen : w.capped = false := by
        simpa using fun hcapped => hgo ((Bool.or_eq_true _ _).mpr (.inr hcapped))
      have hlevel := reached_level owner repo listing h hopen directories
      rw [reply_bind, found, ← List.append_assoc]
      rcases hcapped : ((level provider owner repo o w directories).reply
          listing.answers).1.capped with _ | _
      · dsimp only
        rw [hlevel.below hcapped]
        exact ih hlevel.collected _
      · rw [reply_levels_of_capped hcapped]
        exact hlevel.collected.append hcapped _

/-- A walk from source roots on collects the candidates below them. -/
theorem collected_roots (h : Collected o paths w) (roots : List String) :
    Collected o (paths ++ foundFrom o listing roots)
      ((Walk.roots provider owner repo o w roots).reply listing.answers) := by
  induction roots generalizing paths w with
  | nil => simpa [Walk.roots, foundFrom] using h
  | cons root rest ih =>
    rw [Walk.roots]
    split
    · rename_i hcapped
      exact h.append hcapped _
    · have hfound : foundFrom o listing (root :: rest) = found o listing o.maxDepth
          [String.ofList (Text.trimWhile (· == '/') root.toList)] ++ foundFrom o listing rest := rfl
      rw [reply_bind, hfound, ← List.append_assoc]
      exact ih (collected_levels h _ _)

end Walk

end SourceAudit
