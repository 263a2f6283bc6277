import SourceAudit.Proofs.Audit.Truncation
import SourceAudit.Proofs.Walk.Queue

/-!
# The order of a walk

Where the listing of a directory depends on the directory alone, the directories that a walk lists can
be told level by level: the start is on the first level, and the next level has the directories to
enter that the listings of this one name, in order and as often as they are named. A walk with room
for all candidates lists the directories of as many levels as it may go down, root by root, and no
others. It collects the candidates that their listings name, each where it first comes up, and takes
down which of them could not be listed (`roots_breadthFirst`).

This holds of any listings, also of ones that lead round in a circle: what bounds a walk is the number
of levels alone.
-/

namespace SourceAudit

namespace Listing

/-- The directory cannot be listed. -/
def fails (listing : Listing) (directory : String) : Bool :=
  match listing directory with
  | .error _ => true
  | .ok _ => false

end Listing

namespace Walk

open Dialogue

variable {owner repo : String} {o : WalkOptions} {listing : Listing} {w : Walk}
  {visited directories roots : List String}

/-! ### Levels -/

/-- The directories to enter that the listings of directories name. -/
def namedIn (o : WalkOptions) (listing : Listing) (directories : List String) : List String :=
  directories.flatMap fun d => o.enteredAmong (listing.entries d)

/-- The candidates that the listings of directories name. -/
def candidatesIn (o : WalkOptions) (listing : Listing) (directories : List String) : List String :=
  directories.flatMap fun d => o.candidatesAmong (listing.entries d)

/-- The directories so many levels below some directories. -/
def levelBelow (o : WalkOptions) (listing : Listing) (directories : List String) : Nat → List String
  | 0 => directories
  | depth + 1 => namedIn o listing (levelBelow o listing directories depth)

/-- The directories on so many levels, level by level. -/
def levelOrder (o : WalkOptions) (listing : Listing) (depth : Nat) (directories : List String) :
    List String :=
  (List.range depth).flatMap (levelBelow o listing directories)

/-- The directories that a walk from source roots on lists, in order. -/
def visits (o : WalkOptions) (listing : Listing) (roots : List String) : List String :=
  roots.flatMap fun root => levelOrder o listing o.maxDepth [startOf root]

theorem candidatesIn_append (first second : List String) :
    candidatesIn o listing (first ++ second) =
      candidatesIn o listing first ++ candidatesIn o listing second :=
  List.flatMap_append

/-- The levels below a level are those below it one level further down. -/
theorem levelBelow_succ (directories : List String) (depth : Nat) :
    levelBelow o listing directories (depth + 1) =
      levelBelow o listing (namedIn o listing directories) depth := by
  induction depth with
  | zero => rfl
  | succ depth ih => rw [levelBelow, ih, levelBelow]

/-- The first level comes before the levels below it. -/
theorem levelOrder_succ (depth : Nat) (directories : List String) :
    levelOrder o listing (depth + 1) directories =
      directories ++ levelOrder o listing depth (namedIn o listing directories) := by
  have hbelow : (fun depth => levelBelow o listing directories (depth + 1)) =
      levelBelow o listing (namedIn o listing directories) :=
    funext (levelBelow_succ directories)
  rw [levelOrder, List.range_succ_eq_map, List.flatMap_cons, List.flatMap_map, hbelow]
  rfl

/-- Nothing is below no directories. -/
theorem levelOrder_nil (depth : Nat) : levelOrder o listing depth [] = [] := by
  induction depth with
  | zero => rfl
  | succ depth ih =>
    have hnamed : namedIn o listing [] = [] := rfl
    rw [levelOrder_succ, hnamed, ih, List.append_nil]

/-! ### What a walk has done so far -/

/-- A walk has listed these directories: it has collected the candidates in them, has taken down those
of them that could not be listed, and is not capped. -/
structure Surveyed (o : WalkOptions) (listing : Listing) (visited : List String) (w : Walk) : Prop where
  collected : Collected o (candidatesIn o listing visited) w
  unreadable : w.unreadable = (visited.filter listing.fails).eraseDups
  uncapped : w.capped = false

/-- There is room for the candidates in these directories. -/
def HasRoom (o : WalkOptions) (listing : Listing) (visited : List String) : Prop :=
  (candidatesIn o listing visited).eraseDups.length ≤ o.maxCandidates

/-- Where there is room for all candidates, there is room for the first ones. -/
theorem HasRoom.left {more : List String} (h : HasRoom o listing (visited ++ more)) :
    HasRoom o listing visited := by
  unfold HasRoom at h ⊢
  rw [candidatesIn_append, List.eraseDups_append, List.length_append] at h
  omega

/-- A walk with room for what it has come upon is not capped. -/
theorem HasRoom.not_capped (h : HasRoom o listing visited)
    (hcollected : Collected o (candidatesIn o listing visited) w) : w.capped = false := by
  have hnot : ¬ w.capped = true := by
    rw [hcollected.capped]
    exact Nat.not_lt.2 h
  simpa using hnot

/-- Files leave the directories that could not be listed. -/
@[simp] theorem unreadable_addFile (w : Walk) (path : String) :
    (w.addFile o path).unreadable = w.unreadable := by
  unfold addFile
  split
  · rfl
  · split <;> rfl

/-- The entries of a listing leave the directories that could not be listed. -/
@[simp] theorem unreadable_addEntries (w : Walk) (entries : List DirectoryEntry) :
    (w.addEntries o entries).1.unreadable = w.unreadable := by
  induction entries generalizing w with
  | nil => rfl
  | cons e rest ih =>
    unfold addEntries
    split
    · exact ih w
    · dsimp only
      split
      · exact unreadable_addFile w e.path
      · rw [ih, unreadable_addFile]

namespace Surveyed

theorem empty : Surveyed o listing [] {} :=
  ⟨.empty, rfl, rfl⟩

/-- A directory that cannot be listed is taken down, and has no candidates. -/
theorem addUnreadable (h : Surveyed o listing visited w) {directory : String} {e : ProviderError}
    (hfails : listing directory = .error e) :
    Surveyed o listing (visited ++ [directory]) (w.addUnreadable directory) := by
  have hnone : candidatesIn o listing (visited ++ [directory]) = candidatesIn o listing visited := by
    rw [candidatesIn_append]
    simp [candidatesIn, Listing.entries, hfails, WalkOptions.candidatesAmong, Except.toOption]
  have hfailing : (visited ++ [directory]).filter listing.fails =
      visited.filter listing.fails ++ [directory] := by
    simp [Listing.fails, hfails]
  refine ⟨?_, ?_, ?_⟩
  · rw [hnone]
    exact h.collected.addUnreadable directory
  · rw [hfailing, eraseDups_concat, Walk.addUnreadable, h.unreadable]
    by_cases hmem : directory ∈ visited.filter listing.fails
    · rw [if_pos (by simpa using hmem), if_pos hmem, h.unreadable]
    · rw [if_neg (by simpa using hmem), if_neg hmem]
  · rw [capped_addUnreadable, h.uncapped]

/-- The candidates of a directory are collected if there is room for them, and the directories to
enter are given. -/
theorem addEntries (h : Surveyed o listing visited w) {directory : String}
    {entries : List DirectoryEntry} (hlisted : listing directory = .ok entries)
    (hroom : HasRoom o listing (visited ++ [directory])) :
    Surveyed o listing (visited ++ [directory]) (w.addEntries o entries).1 ∧
      (w.addEntries o entries).2 = namedIn o listing [directory] := by
  have hentries : listing.entries directory = entries := by
    rw [Listing.entries, hlisted]
    rfl
  have hcandidates : candidatesIn o listing (visited ++ [directory]) =
      candidatesIn o listing visited ++ o.candidatesAmong entries := by
    rw [candidatesIn_append, candidatesIn, candidatesIn, List.flatMap_singleton, hentries]
  have hnamed : namedIn o listing [directory] = o.enteredAmong entries := by
    rw [namedIn, List.flatMap_singleton, hentries]
  have hlists : listing.fails directory = false := by
    rw [Listing.fails, hlisted]
  have hreached := h.collected.addEntries h.uncapped entries
  rw [← hcandidates, ← hnamed] at hreached
  have hopen := hroom.not_capped hreached.collected
  refine ⟨⟨hreached.collected, ?_, hopen⟩, hreached.below hopen⟩
  rw [unreadable_addEntries, h.unreadable, List.filter_append, List.filter_singleton, hlists,
    Bool.cond_false, List.append_nil]

end Surveyed

/-! ### The steps of a walk -/

/-- A level asks for the listing of its first directory, and goes on with the answer. -/
theorem asked_level_cons {directory : String} {rest : List String} {calls : List Call}
    (h : ∀ e, listing directory = .error e →
      (level provider owner repo o (w.addUnreadable directory) rest).asked listing.answers = calls)
    (h' : ∀ entries, listing directory = .ok entries →
      (w.addEntries o entries).1.capped = false ∧
        (level provider owner repo o (w.addEntries o entries).1 rest).asked listing.answers =
          calls) :
    (level provider owner repo o w (directory :: rest)).asked listing.answers =
      Call.list owner repo directory :: calls := by
  have hasked : (provider.list owner repo directory).asked listing.answers =
      [Call.list owner repo directory] := rfl
  have hanswer : (provider.list owner repo directory).reply listing.answers = listing directory := rfl
  rw [level, asked_bind, hasked, hanswer, List.singleton_append]
  congr 1
  rcases hlisting : listing directory with e | entries
  · exact h e hlisting
  · obtain ⟨hopen, hrest⟩ := h' entries hlisting
    dsimp only
    rw [hopen, if_neg Bool.false_ne_true, asked_bind, hrest]
    exact List.append_nil _

/-- A level of a walk lists its directories in order, and gives those that they name. -/
theorem surveyed_level (owner repo : String) (h : Surveyed o listing visited w)
    (hroom : HasRoom o listing (visited ++ directories)) :
    Surveyed o listing (visited ++ directories)
        ((level provider owner repo o w directories).reply listing.answers).1 ∧
      ((level provider owner repo o w directories).reply listing.answers).2 =
        namedIn o listing directories ∧
      (level provider owner repo o w directories).asked listing.answers =
        directories.map (Call.list owner repo) := by
  induction directories generalizing visited w with
  | nil =>
    rw [List.append_nil]
    exact ⟨h, rfl, rfl⟩
  | cons directory rest ih =>
    rw [List.append_cons] at hroom ⊢
    have hnamed : namedIn o listing (directory :: rest) =
        namedIn o listing [directory] ++ namedIn o listing rest := by
      rw [← List.singleton_append, namedIn, List.flatMap_append]
      rfl
    rcases hlisting : listing directory with e | entries
    · have hfirst := h.addUnreadable hlisting
      obtain ⟨hsurveyed, hbelow, hasked⟩ := ih hfirst hroom
      have hnone : namedIn o listing [directory] = [] := by
        simp [namedIn, Listing.entries, hlisting, WalkOptions.enteredAmong, Except.toOption]
      refine ⟨?_, ?_, asked_level_cons (fun _ _ => hasked) fun entries hentries => ?_⟩
      · rw [reply_level_cons_of_error hlisting]
        exact hsurveyed
      · rw [reply_level_cons_of_error hlisting, hnamed, hnone, List.nil_append]
        exact hbelow
      · rw [hlisting] at hentries
        cases hentries
    · obtain ⟨hfirst, hentered⟩ := h.addEntries hlisting hroom.left
      obtain ⟨hsurveyed, hbelow, hasked⟩ := ih hfirst hroom
      rw [reply_level_cons_of_open hlisting hfirst.uncapped rfl]
      refine ⟨hsurveyed, ?_, asked_level_cons (fun e he => ?_) fun entries' hentries => ?_⟩
      · rw [hbelow, hentered, hnamed]
      · rw [hlisting] at he
        cases he
      · rw [hlisting] at hentries
        cases hentries
        exact ⟨hfirst.uncapped, hasked⟩

/-- The levels of a walk list their directories level by level. -/
theorem surveyed_levels (owner repo : String) (h : Surveyed o listing visited w) (depth : Nat)
    (hroom : HasRoom o listing (visited ++ levelOrder o listing depth directories)) :
    Surveyed o listing (visited ++ levelOrder o listing depth directories)
        ((levels provider owner repo o depth w directories).reply listing.answers) ∧
      (levels provider owner repo o depth w directories).asked listing.answers =
        (levelOrder o listing depth directories).map (Call.list owner repo) := by
  induction depth generalizing visited w directories with
  | zero =>
    have hnone : levelOrder o listing 0 directories = [] := rfl
    rw [hnone, List.append_nil]
    exact ⟨h, rfl⟩
  | succ depth ih =>
    rw [levels, h.uncapped, Bool.or_false]
    rcases directories with _ | ⟨directory, rest⟩
    · rw [levelOrder_nil, List.append_nil]
      exact ⟨h, rfl⟩
    rw [levelOrder_succ, ← List.append_assoc] at hroom ⊢
    rw [List.isEmpty_cons, if_neg Bool.false_ne_true, reply_bind, asked_bind]
    obtain ⟨hlevel, hbelow, hasked⟩ := surveyed_level owner repo h hroom.left
    -- The walk goes on with what the level names, as the rest of the order does.
    obtain ⟨hsurveyed, hlater⟩ := ih hlevel hroom
    rw [hasked, ← hbelow, List.map_append]
    rw [← hbelow] at hsurveyed hlater
    exact ⟨hsurveyed, congrArg _ hlater⟩

/-- A walk from source roots on lists the directories below them, root by root. -/
theorem surveyed_roots (owner repo : String) (h : Surveyed o listing visited w)
    (hroom : HasRoom o listing (visited ++ visits o listing roots)) :
    Surveyed o listing (visited ++ visits o listing roots)
        ((Walk.roots provider owner repo o w roots).reply listing.answers) ∧
      (Walk.roots provider owner repo o w roots).asked listing.answers =
        (visits o listing roots).map (Call.list owner repo) := by
  induction roots generalizing visited w with
  | nil =>
    have hnone : visits o listing [] = [] := rfl
    rw [hnone, List.append_nil]
    exact ⟨h, rfl⟩
  | cons root rest ih =>
    have hvisits : visits o listing (root :: rest) =
        levelOrder o listing o.maxDepth [startOf root] ++ visits o listing rest := rfl
    rw [hvisits, ← List.append_assoc] at hroom ⊢
    rw [Walk.roots, h.uncapped, if_neg Bool.false_ne_true, reply_bind, asked_bind]
    obtain ⟨hinto, hasked⟩ := surveyed_levels owner repo h o.maxDepth hroom.left
    obtain ⟨hsurveyed, hlater⟩ := ih hinto hroom
    rw [List.map_append, ← hasked]
    exact ⟨hsurveyed, congrArg _ hlater⟩

/-! ### Walks in surroundings -/

/-- A walk in surroundings whose listings depend on the directory alone, and with room for all
candidates, lists the directories below its roots level by level, and no others. It collects the
candidates that they name, each where it first comes up, and takes down the directories among them
that cannot be listed. With a queue for each root it is the same walk. -/
theorem roots_breadthFirst {S W : Type} {p : Provider (StateT S (StateM W))}
    (g : Gateway (StateT S (StateM W))) (hlist : p.Lists owner repo listing)
    (hroom : (candidatesIn o listing (visits o listing roots)).eraseDups.length ≤ o.maxCandidates)
    (s : S) (w : W) :
    ∃ walk record s' w',
      ((Walk.roots p owner repo o {} roots).run s).run w = ((walk, s'), w') ∧
      (((Walk.roots p.recorded owner repo o {} roots).run []).run s).run w =
        (((walk, record), s'), w') ∧
      Walk.roots p owner repo o {} roots = drainRoots p owner repo o {} roots ∧
      record.map (·.call) = (visits o listing roots).map (Call.list owner repo) ∧
      walk.files = (candidatesIn o listing (visits o listing roots)).eraseDups ∧
      walk.unreadable = ((visits o listing roots).filter listing.fails).eraseDups ∧
      walk.capped = false := by
  obtain ⟨walk, record, s', w', hrecorded, hrun, hends, hcourse⟩ :=
    exists_course (Walk.roots provider owner repo o {} roots) p g s w
  rw [conduct_roots] at hrecorded hrun
  have hasks : (Walk.roots provider owner repo o {} roots).Asks
      fun c => ∃ directory, c = .list owner repo directory :=
    Audit.asks_roots {} fun directory => ⟨directory, rfl⟩
  have hanswers := hlist.answer_eq hcourse
  have hempty : Surveyed o listing [] {} := .empty
  obtain ⟨hsurveyed, hasked⟩ := surveyed_roots owner repo hempty hroom
  rw [List.nil_append, ← eq_reply_of_ends hasks hanswers hends] at hsurveyed
  refine ⟨walk, record, s', w', hrun, hrecorded, roots_eq_drainRoots _ _, ?_, ?_,
    hsurveyed.unreadable, hsurveyed.uncapped⟩
  · rw [map_call_of_ends hasks hanswers hends, hasked]
  · exact (hsurveyed.collected.files_eq hsurveyed.uncapped).1

section Circle

/-- The listings of a repository whose directory `lib` leads back to its root, and whose directory
`tmp` cannot be listed. -/
def circleListing : Listing
  | "" => .ok [⟨"a.py", "a.py", .file⟩, ⟨"lib", "lib", .directory⟩, ⟨"tmp", "tmp", .directory⟩,
      ⟨".git", ".git", .directory⟩]
  | "lib" => .ok [⟨"b.PY", "lib/b.PY", .file⟩, ⟨"up", "", .directory⟩]
  | "tmp" => .error (.status 500 "tmp")
  | _ => .ok []

/-- A provider with these listings. -/
def circleProvider : Provider (StateT Store (StateM Unit)) where
  fetch _ _ _ _ := pure (.ok none)
  list _ _ directory := pure (circleListing directory)

/-- Options for a walk down three levels. -/
def circleOptions : WalkOptions where
  maxDepth := 3
  maxCandidates := 500
  extensions := ["py"]
  ignoreDirs := []
  exclude := []

/-- A walk round the circle comes to its end: it goes back to the root as often as its levels let it,
and collects every candidate once. -/
theorem roots_breadthFirst_circle :
    circleProvider.Lists "acme" "tool" circleListing ∧
    ∃ walk record s' w',
      ((Walk.roots circleProvider "acme" "tool" circleOptions {} ["", "/lib/"]).run {}).run () =
        ((walk, s'), w') ∧
      (((Walk.roots circleProvider.recorded "acme" "tool" circleOptions {} ["", "/lib/"]).run
        []).run {}).run () = (((walk, record), s'), w') ∧
      record.map (·.call) = ["", "lib", "tmp", "", "lib", "", "lib", "tmp"].map
        (Call.list "acme" "tool") ∧
      walk = { files := ["a.py", "lib/b.PY"], unreadable := ["tmp"] } := by
  have hlist : circleProvider.Lists "acme" "tool" circleListing := fun _ _ _ => rfl
  have hvisits : visits circleOptions circleListing ["", "/lib/"] =
      ["", "lib", "tmp", "", "lib", "", "lib", "tmp"] := by decide
  have hfiles : (candidatesIn circleOptions circleListing
      ["", "lib", "tmp", "", "lib", "", "lib", "tmp"]).eraseDups = ["a.py", "lib/b.PY"] := by decide
  have hfailing : (["", "lib", "tmp", "", "lib", "", "lib", "tmp"].filter
      circleListing.fails).eraseDups = ["tmp"] := by decide
  have hroom : (candidatesIn circleOptions circleListing
      (visits circleOptions circleListing ["", "/lib/"])).eraseDups.length ≤
        circleOptions.maxCandidates := by
    rw [hvisits, hfiles]
    decide
  obtain ⟨⟨files, unreadable, capped⟩, record, s', w', hrun, hrecorded, -, hcalls, hcollected, hfailed,
    huncapped⟩ := roots_breadthFirst (Gateway.inMemory (pure ⟨0, 0, 0⟩)) hlist hroom {} ()
  rw [hvisits] at hcalls hcollected hfailed
  rw [hfiles] at hcollected
  rw [hfailing] at hfailed
  refine ⟨hlist, _, record, s', w', hrun, hrecorded, hcalls, ?_⟩
  rw [Walk.mk.injEq]
  exact ⟨hcollected, hfailed, huncapped⟩

end Circle

end Walk

end SourceAudit
