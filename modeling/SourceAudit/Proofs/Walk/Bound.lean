import SourceAudit.Proofs.Walk.LevelOrder

/-!
# The bound of a walk

A walk with a bound on its candidates goes the same way as one without, and stops where it comes upon
a candidate too many. So it collects the first candidates, and takes down the first of the directories
that cannot be listed (`roots_collecting`). It stops at the candidate after the last one that it may
collect: where there are just as many as it may, it is not capped.

The invariant is `Walk.Followed`. It is about the directories that a walk would list if it were not
stopped: of the candidates in them it has the first ones, and of those that cannot be listed it has
some first ones, all of them unless it is capped. Once a walk is capped, what else there is to list
does not matter (`Followed.append`).
-/

namespace SourceAudit

/-- The store that refuses every call. -/
def Gateway.refusing {m : Type → Type} [Monad m] : Gateway m where
  upsertRepository _ _ _ := pure (.error .malformed)
  repository? _ := pure (.error .malformed)
  createAudit _ := pure (.error .malformed)
  audit? _ := pure (.error .malformed)
  listAudits _ := pure (.error .malformed)
  logViolation _ := pure (.error .malformed)
  listViolations _ := pure (.error .malformed)
  completeAudit _ _ _ _ := pure (.error .malformed)
  failAudit _ _ := pure (.error .malformed)
  deleteAudit _ := pure (.error .malformed)

namespace Walk

open Dialogue

variable {S W : Type} {p : Provider (StateT S (StateM W))} {owner repo : String} {o : WalkOptions}
  {listing : Listing} {w : Walk} {visited more directories roots : List String}

/-! ### Walks in surroundings -/

/-- In surroundings whose listings depend on the directory alone a walk comes to what the listings
make of it. -/
theorem run_roots (hlist : p.Lists owner repo listing) (o : WalkOptions) (roots : List String) (s : S)
    (v : W) :
    ∃ s' v', ((Walk.roots p owner repo o {} roots).run s).run v =
      (((Walk.roots provider owner repo o {} roots).reply listing.answers, s'), v') := by
  -- A walk does not call the store, so any will do.
  obtain ⟨walk, record, s', v', -, hrun, hends, hcourse⟩ :=
    exists_course (Walk.roots provider owner repo o {} roots) p .refusing s v
  have hasks : (Walk.roots provider owner repo o {} roots).Asks
      fun c => ∃ directory, c = .list owner repo directory :=
    Audit.asks_roots {} fun directory => ⟨directory, rfl⟩
  rw [conduct_roots, eq_reply_of_ends hasks (hlist.answer_eq hcourse) hends] at hrun
  exact ⟨s', v', hrun⟩

/-! ### Walks that may be capped -/

/-- A walk has followed these directories as far as its bound lets it. -/
structure Followed (o : WalkOptions) (listing : Listing) (visited : List String) (w : Walk) : Prop where
  collected : Collected o (candidatesIn o listing visited) w
  /-- It has taken down the first of them that cannot be listed, -/
  begun : w.unreadable <+: (visited.filter listing.fails).eraseDups
  /-- and all of them unless it is capped. -/
  whole : w.capped = false → w.unreadable = (visited.filter listing.fails).eraseDups

/-- What the first of some directories are without repetition comes first in what they all are. -/
theorem prefix_eraseDups_filter (listing : Listing) (first second : List String) :
    (first.filter listing.fails).eraseDups <+: ((first ++ second).filter listing.fails).eraseDups := by
  rw [List.filter_append, List.eraseDups_append]
  exact List.prefix_append _ _

namespace Followed

theorem empty : Followed o listing [] {} :=
  ⟨.empty, List.prefix_rfl, fun _ => rfl⟩

/-- A walk that is not capped has listed the directories. -/
theorem surveyed (h : Followed o listing visited w) (hopen : w.capped = false) :
    Surveyed o listing visited w :=
  ⟨h.collected, h.whole hopen, hopen⟩

/-- A walk that has listed directories has followed them. -/
theorem of_surveyed (h : Surveyed o listing visited w) : Followed o listing visited w :=
  ⟨h.collected, h.unreadable ▸ List.prefix_rfl, fun _ => h.unreadable⟩

/-- A walk that is capped has gone as far as it may, whatever else there is. -/
theorem append (h : Followed o listing visited w) (hcapped : w.capped = true)
    (more : List String) : Followed o listing (visited ++ more) w := by
  refine ⟨?_, h.begun.trans (prefix_eraseDups_filter listing visited more), fun hopen => ?_⟩
  · rw [candidatesIn_append]
    exact h.collected.append hcapped _
  · rw [hcapped] at hopen
    cases hopen

/-- A directory that can be listed is followed as far as there is room for its candidates, and unless
the walk is capped then, the directories to enter are given. -/
theorem addEntries (h : Followed o listing visited w) (hopen : w.capped = false) {directory : String}
    {entries : List DirectoryEntry} (hlisted : listing directory = .ok entries) :
    Followed o listing (visited ++ [directory]) (w.addEntries o entries).1 ∧
      ((w.addEntries o entries).1.capped = false →
        (w.addEntries o entries).2 = namedIn o listing [directory]) := by
  have hentries : listing.entries directory = entries := by
    rw [Listing.entries, hlisted]
    rfl
  have hcandidates : candidatesIn o listing (visited ++ [directory]) =
      candidatesIn o listing visited ++ o.candidatesAmong entries := by
    rw [candidatesIn_append, candidatesIn, candidatesIn, List.flatMap_singleton, hentries]
  have hnamed : namedIn o listing [directory] = o.enteredAmong entries := by
    rw [namedIn, List.flatMap_singleton, hentries]
  -- The directory is none of those that cannot be listed, and these stay as they are.
  have hfails : (visited ++ [directory]).filter listing.fails = visited.filter listing.fails := by
    simp [Listing.fails, hlisted]
  have hreached := h.collected.addEntries hopen entries
  rw [← hcandidates, ← hnamed] at hreached
  refine ⟨⟨hreached.collected, ?_, fun _ => ?_⟩, hreached.below⟩
  · rw [unreadable_addEntries, hfails]
    exact h.begun
  · rw [unreadable_addEntries, hfails]
    exact h.whole hopen

end Followed

/-- A level of a walk follows its directories, and unless the walk is capped then, it gives those that
they name. -/
theorem followed_level (owner repo : String) (h : Followed o listing visited w)
    (hopen : w.capped = false) (directories : List String) :
    Followed o listing (visited ++ directories)
        ((level provider owner repo o w directories).reply listing.answers).1 ∧
      (((level provider owner repo o w directories).reply listing.answers).1.capped = false →
        ((level provider owner repo o w directories).reply listing.answers).2 =
          namedIn o listing directories) := by
  induction directories generalizing visited w with
  | nil =>
    rw [List.append_nil]
    exact ⟨h, fun _ => rfl⟩
  | cons directory rest ih =>
    have hnamed : namedIn o listing (directory :: rest) =
        namedIn o listing [directory] ++ namedIn o listing rest := by
      rw [← List.singleton_append, namedIn, List.flatMap_append]
      rfl
    rw [List.append_cons, hnamed]
    -- Only a directory that can be listed may bring the candidate too many.
    rcases hlisting : listing directory with e | entries
    · have hfirst : Followed o listing (visited ++ [directory]) (w.addUnreadable directory) :=
        .of_surveyed ((h.surveyed hopen).addUnreadable hlisting)
      have hnone : namedIn o listing [directory] = [] := by
        simp [namedIn, Listing.entries, hlisting, WalkOptions.enteredAmong, Except.toOption]
      rw [reply_level_cons_of_error hlisting, hnone, List.nil_append]
      exact ih hfirst (by rw [capped_addUnreadable, hopen])
    · obtain ⟨hfirst, hbelow⟩ := h.addEntries hopen hlisting
      rcases hcapped : (w.addEntries o entries).1.capped with _ | _
      · obtain ⟨hrest, hmore⟩ := ih hfirst hcapped
        rw [reply_level_cons_of_open hlisting hcapped rfl]
        exact ⟨hrest, fun hnot => by rw [hbelow hcapped, hmore hnot]⟩
      · rw [reply_level_cons_of_capped hlisting hcapped]
        refine ⟨hfirst.append hcapped rest, fun hnot => ?_⟩
        rw [hcapped] at hnot
        cases hnot

/-- The levels of a walk follow their directories level by level. -/
theorem followed_levels (owner repo : String) (h : Followed o listing visited w) (depth : Nat)
    (directories : List String) :
    Followed o listing (visited ++ levelOrder o listing depth directories)
      ((levels provider owner repo o depth w directories).reply listing.answers) := by
  induction depth generalizing visited w directories with
  | zero =>
    have hnone : levelOrder o listing 0 directories = [] := rfl
    rw [hnone, List.append_nil]
    exact h
  | succ depth ih =>
    rw [levels]
    split
    · -- There is no directory to go on with, or the walk is capped.
      rename_i hstop
      rcases (Bool.or_eq_true _ _).mp hstop with hnil | hcapped
      · rw [List.isEmpty_iff.1 hnil, levelOrder_nil, List.append_nil]
        exact h
      · exact h.append hcapped _
    · rename_i hgo
      have hopen : w.capped = false := by
        simpa using fun hcapped => hgo ((Bool.or_eq_true _ _).mpr (.inr hcapped))
      obtain ⟨hlevel, hbelow⟩ := followed_level owner repo h hopen directories
      rw [reply_bind, levelOrder_succ, ← List.append_assoc]
      rcases hcapped : ((level provider owner repo o w directories).reply
          listing.answers).1.capped with _ | _
      · dsimp only
        rw [hbelow hcapped]
        exact ih hlevel _
      · rw [reply_levels_of_capped hcapped]
        exact hlevel.append hcapped _

/-- A walk from source roots on follows the directories below them, root by root. -/
theorem followed_roots (owner repo : String) (h : Followed o listing visited w)
    (roots : List String) :
    Followed o listing (visited ++ visits o listing roots)
      ((Walk.roots provider owner repo o w roots).reply listing.answers) := by
  induction roots generalizing visited w with
  | nil =>
    have hnone : visits o listing [] = [] := rfl
    rw [hnone, List.append_nil]
    exact h
  | cons root rest ih =>
    rw [Walk.roots]
    split
    · rename_i hcapped
      exact h.append hcapped _
    · have hvisits : visits o listing (root :: rest) =
          levelOrder o listing o.maxDepth [startOf root] ++ visits o listing rest := rfl
      rw [reply_bind, hvisits, ← List.append_assoc]
      exact ih (followed_levels owner repo h o.maxDepth _)

/-! ### Walks with any bound -/

/-- The bound on candidates does not change what there is to list. -/
theorem levelOrder_collecting (bound depth : Nat) (directories : List String) :
    levelOrder (o.collecting bound) listing depth directories =
      levelOrder o listing depth directories := by
  induction depth generalizing directories with
  | zero => rfl
  | succ depth ih =>
    rw [levelOrder_succ, levelOrder_succ, ih]
    rfl

/-- The bound on candidates changes neither the directories that there are to list nor the candidates
in them. -/
theorem visits_collecting (o : WalkOptions) (listing : Listing) (bound : Nat)
    (roots : List String) :
    visits (o.collecting bound) listing roots = visits o listing roots ∧
      candidatesIn (o.collecting bound) listing (visits o listing roots) =
        candidatesIn o listing (visits o listing roots) :=
  ⟨List.flatMap_congr fun _ _ => levelOrder_collecting bound _ _, rfl⟩

/-- The walk whose bound is no bound: it lists all that there is to list. -/
def unbounded (o : WalkOptions) (listing : Listing) (roots : List String) : Walk where
  files := (candidatesIn o listing (visits o listing roots)).eraseDups
  unreadable := ((visits o listing roots).filter listing.fails).eraseDups

/-- A walk with a bound on its candidates has the first candidates of the walk without a bound, as
many as it may have, and some first ones of the directories that cannot be listed. It is capped
exactly if there are more candidates, and otherwise it is the walk without a bound. -/
theorem roots_collecting (hlist : p.Lists owner repo listing) (o : WalkOptions)
    (roots : List String) :
    ∃ whole : Walk, whole.capped = false ∧ ∀ bound s v, ∃ walk s' v',
      ((Walk.roots p owner repo (o.collecting bound) {} roots).run s).run v = ((walk, s'), v') ∧
      walk.files = whole.files.take bound ∧
      (walk.capped = true ↔ bound < whole.files.length) ∧
      walk.unreadable <+: whole.unreadable ∧
      (whole.files.length ≤ bound → walk = whole) := by
  refine ⟨unbounded o listing roots, rfl, fun bound s v => ?_⟩
  obtain ⟨s', v', hrun⟩ := run_roots hlist (o.collecting bound) roots s v
  have hempty : Followed (o.collecting bound) listing [] {} := .empty
  have hfollowed := followed_roots owner repo hempty roots
  obtain ⟨hvisits, hcandidates⟩ := visits_collecting o listing bound roots
  rw [List.nil_append, hvisits] at hfollowed
  generalize (Walk.roots provider owner repo (o.collecting bound) {} roots).reply listing.answers =
    walk at hrun hfollowed
  obtain ⟨⟨hfiles, hcapped⟩, hbegun, hall⟩ := hfollowed
  rw [hcandidates] at hfiles hcapped
  refine ⟨walk, s', v', hrun, hfiles, hcapped, hbegun, fun hroom => ?_⟩
  -- A walk with room for all candidates is not capped, and so has all that there is.
  have hopen : walk.capped = false := by
    have hnot : ¬ walk.capped = true := fun h => absurd (hcapped.1 h) (Nat.not_lt.2 hroom)
    simpa using hnot
  have hfiles' : walk.files = (unbounded o listing roots).files :=
    hfiles.trans (List.take_of_length_le hroom)
  rcases walk with ⟨files, unreadable, capped⟩
  rw [unbounded, Walk.mk.injEq]
  exact ⟨hfiles', hall hopen, hopen⟩

/-- A walk round the circle that may collect one file stops at the second one, and before the
directory that cannot be listed. -/
theorem roots_collecting_circle :
    circleProvider.Lists "acme" "tool" circleListing ∧
    ∃ whole : Walk, whole = { files := ["a.py", "lib/b.PY"], unreadable := ["tmp"] } ∧
      ∃ walk s' v',
        ((Walk.roots circleProvider "acme" "tool" (circleOptions.collecting 1) {} [""]).run {}).run
          () = ((walk, s'), v') ∧
        walk.files = ["a.py"] ∧ walk.capped = true ∧ walk.unreadable <+: whole.unreadable := by
  have hlist : circleProvider.Lists "acme" "tool" circleListing := fun _ _ _ => rfl
  obtain ⟨whole, -, hbounded⟩ := roots_collecting hlist circleOptions [""]
  -- With room for two candidates the walk goes all the way.
  have htwo : ((Walk.roots circleProvider "acme" "tool" (circleOptions.collecting 2) {} [""]).run
      {}).run () = (({ files := ["a.py", "lib/b.PY"], unreadable := ["tmp"] }, {}), ()) := rfl
  obtain ⟨walk, s', v', hrun, -, hcapped, -, hwhole⟩ := hbounded 2 {} ()
  rw [htwo] at hrun
  obtain ⟨⟨rfl, -⟩, -⟩ := Prod.mk.inj hrun |>.imp_left Prod.mk.inj
  have hroom : whole.files.length ≤ 2 := Nat.not_lt.1 fun h => absurd (hcapped.2 h) Bool.false_ne_true
  obtain rfl := hwhole hroom
  obtain ⟨walk, s', v', hrun, hfiles, hcapped, hbegun, -⟩ := hbounded 1 {} ()
  exact ⟨hlist, _, rfl, walk, s', v', hrun, hfiles, hcapped.2 (by decide), hbegun⟩

end Walk

end SourceAudit
