import Mathlib.Data.Multiset.DershowitzManna
import SourceAudit.Proofs.Audit.Listing
import SourceAudit.Proofs.Dialogue.Basic
import SourceAudit.Walk

/-!
# Walks with a queue

A walk goes level by level. It can also be made with one queue, in which each directory stands with
the number of levels that are left to it: the first directory is taken off and listed, and those to
enter join the queue behind all others with one level less. This is the same walk, whatever the
listings name (`roots_eq_drainRoots`).

A listing can name its own directory, or one above it, so a queue may grow without a bound on what
it grows by. It still runs dry: the numbers in it get smaller in the order of multisets, where any
number of smaller numbers may take the place of a greater one (`Multiset.IsDershowitzMannaLT`).

A walk takes up every candidate once, however often the listings name it (`nodup_of_ends_roots`).
-/

namespace SourceAudit.Walk

/-- The numbers of levels that are left to the directories of a queue. -/
def levelsLeft (queue : List (String × Nat)) : Multiset Nat :=
  (queue.map (·.2) : List Nat)

/-- To take a directory off a queue makes its numbers of levels smaller, as do any directories with
fewer levels in its place. -/
theorem levelsLeft_lt (directory : String) (left : Nat) (rest below : List (String × Nat))
    (hbelow : ∀ d ∈ below, d.2 < left) :
    (levelsLeft (rest ++ below)).IsDershowitzMannaLT (levelsLeft ((directory, left) :: rest)) := by
  refine ⟨levelsLeft rest, levelsLeft below, {left}, Multiset.singleton_ne_zero left, ?_, ?_, ?_⟩
  · simp only [levelsLeft, List.map_append, Multiset.coe_add]
  · simp only [levelsLeft, List.map_cons, ← Multiset.cons_coe, ← Multiset.singleton_add, add_comm]
  · intro n hn
    obtain ⟨d, hd, rfl⟩ := List.mem_map.1 (Multiset.mem_coe.1 hn)
    exact ⟨left, Multiset.mem_singleton_self left, hbelow d hd⟩

variable {m : Type → Type} [Monad m]

/-- Lists the directories of a queue one after the other, each as long as levels are left to it. The
directories to enter are put at the end of the queue with one level less. -/
def drain (p : Provider m) (owner repo : String) (o : WalkOptions) (w : Walk) :
    List (String × Nat) → m Walk
  | [] => pure w
  | (_, 0) :: rest => drain p owner repo o w rest
  | (directory, left + 1) :: rest => do
    match ← p.list owner repo directory with
    | .error _ => drain p owner repo o (w.addUnreadable directory) rest
    | .ok entries =>
      let (w, below) := addEntries o w entries
      if w.capped then pure w else drain p owner repo o w (rest ++ below.map (·, left))
termination_by queue => levelsLeft queue
decreasing_by
  · have hlt := levelsLeft_lt ‹String› 0 rest [] (List.forall_mem_nil _)
    rwa [List.append_nil] at hlt
  · have hlt := levelsLeft_lt directory (left + 1) rest [] (List.forall_mem_nil _)
    rwa [List.append_nil] at hlt
  · refine levelsLeft_lt directory (left + 1) rest _ fun d hd => ?_
    obtain ⟨path, -, rfl⟩ := List.mem_map.1 hd
    exact Nat.lt_succ_self left

/-- Where a walk from a source root starts: at the root without the slashes around it. -/
def startOf (root : String) : String :=
  String.ofList (Text.trimWhile (· == '/') root.toList)

/-- Walks from each of the source roots on, with a queue for each. -/
def drainRoots (p : Provider m) (owner repo : String) (o : WalkOptions) : Walk → List String → m Walk
  | w, [] => pure w
  | w, root :: rest => do
    if w.capped then pure w
    else drainRoots p owner repo o (← drain p owner repo o w [(startOf root, o.maxDepth)]) rest

variable {p : Provider m} {owner repo : String} {o : WalkOptions}

/-- Directories without any levels left are passed over. -/
theorem drain_of_none_left (w : Walk) (directories : List String) :
    drain p owner repo o w (directories.map (·, 0)) = pure w := by
  induction directories with
  | nil => rw [List.map_nil, drain]
  | cons directory rest ih => rw [List.map_cons, drain, ih]

/-- A walk that is capped goes no further. -/
theorem levels_of_capped {w : Walk} (hcapped : w.capped = true) (depth : Nat)
    (directories : List String) : levels p owner repo o depth w directories = pure w := by
  cases depth with
  | zero => rfl
  | succ depth => rw [levels, if_pos (by rw [hcapped, Bool.or_true])]

variable [LawfulMonad m]

/-- A queue that holds what is left of one level, and behind it what the next one has so far, goes on
to hold all of the next level. -/
theorem drain_level {w : Walk} (hopen : w.capped = false) (left : Nat)
    (directories below : List String) :
    drain p owner repo o w (directories.map (·, left + 1) ++ below.map (·, left)) = (do
      let (w, more) ← level p owner repo o w directories
      if w.capped then pure w else drain p owner repo o w ((below ++ more).map (·, left))) := by
  induction directories generalizing w below with
  | nil =>
    rw [level, pure_bind, List.map_nil, List.nil_append]
    dsimp only
    rw [hopen, if_neg Bool.false_ne_true, List.append_nil]
  | cons directory rest ih =>
    rw [List.map_cons, List.cons_append, drain, level, bind_assoc]
    refine bind_congr fun answer => ?_
    rcases answer with e | entries
    · exact ih (by rw [capped_addUnreadable, hopen]) below
    · dsimp only
      rcases hcapped : (addEntries o w entries).1.capped with _ | _
      · -- The directories to enter come behind those that the next level has so far.
        have hqueue : rest.map (·, left + 1) ++ below.map (·, left) ++
              (addEntries o w entries).2.map (·, left) =
            rest.map (·, left + 1) ++ (below ++ (addEntries o w entries).2).map (·, left) := by
          rw [List.map_append, List.append_assoc]
        rw [if_neg Bool.false_ne_true, if_neg Bool.false_ne_true, hqueue, ih hcapped, bind_assoc]
        refine bind_congr fun result => ?_
        obtain ⟨w, more⟩ := result
        rw [pure_bind]
        dsimp only
        rw [List.append_assoc]
      · rw [if_pos rfl, if_pos rfl, pure_bind, if_pos hcapped]

/-- A queue of directories with so many levels left is those levels of a walk. -/
theorem drain_eq_levels {w : Walk} (hopen : w.capped = false) (depth : Nat)
    (directories : List String) :
    drain p owner repo o w (directories.map (·, depth)) = levels p owner repo o depth w directories := by
  induction depth generalizing w directories with
  | zero => exact drain_of_none_left w directories
  | succ depth ih =>
    rw [levels, hopen, Bool.or_false]
    rcases directories with _ | ⟨directory, rest⟩
    · rw [List.map_nil, drain]
      rfl
    · -- The queue holds all of this level and nothing of the next one.
      have hqueue : (directory :: rest).map (·, depth + 1) =
          (directory :: rest).map (·, depth + 1) ++ ([] : List String).map (·, depth) := by
        rw [List.map_nil, List.append_nil]
      rw [hqueue, drain_level hopen, List.isEmpty_cons, if_neg Bool.false_ne_true]
      refine bind_congr fun result => ?_
      obtain ⟨w, more⟩ := result
      dsimp only
      rcases hcapped : w.capped with _ | _
      · rw [if_neg Bool.false_ne_true, List.nil_append]
        exact ih hcapped more
      · rw [if_pos rfl, levels_of_capped hcapped]

/-- A walk from source roots on is the same with a queue for each of them. -/
theorem roots_eq_drainRoots (w : Walk) (roots : List String) :
    Walk.roots p owner repo o w roots = drainRoots p owner repo o w roots := by
  induction roots generalizing w with
  | nil => rfl
  | cons root rest ih =>
    rw [Walk.roots, drainRoots]
    rcases hcapped : w.capped with _ | _
    · have hinto : drain p owner repo o w [(startOf root, o.maxDepth)] = into p owner repo o w root :=
        drain_eq_levels hcapped o.maxDepth [startOf root]
      rw [if_neg Bool.false_ne_true, if_neg Bool.false_ne_true, hinto]
      exact bind_congr ih
    · rw [if_pos rfl, if_pos rfl]

end SourceAudit.Walk

/-! ## The candidates of a walk -/

namespace SourceAudit.Walk

open Dialogue

variable {o : WalkOptions} {w w' : Walk} {owner repo : String} {record : List Exchange}

/-- A file that is there already is not taken up again. -/
theorem nodup_addFile (h : w.files.Nodup) (path : String) : (addFile o w path).files.Nodup := by
  rw [addFile]
  split
  · exact h
  rename_i hnew
  split
  · exact h
  · have hnot : path ∉ w.files := by
      intro hmem
      exact hnew (by simp [hmem])
    rw [List.nodup_append]
    refine ⟨h, by simp, fun a ha b hb hab => ?_⟩
    rw [hab, List.mem_singleton.1 hb] at ha
    exact hnot ha

/-- The entries of a listing are taken up once each. -/
theorem nodup_addEntries {entries : List DirectoryEntry} (h : w.files.Nodup) :
    (addEntries o w entries).1.files.Nodup := by
  induction entries generalizing w with
  | nil => exact h
  | cons e rest ih =>
    rw [addEntries]
    split
    · exact ih h
    · dsimp only
      split
      · exact nodup_addFile h e.path
      · exact ih (nodup_addFile h e.path)

/-- A directory that cannot be listed leaves the candidates. -/
@[simp] theorem files_addUnreadable (w : Walk) (directory : String) :
    (w.addUnreadable directory).files = w.files := by
  rw [addUnreadable]
  split <;> rfl

/-- The candidates of a level are taken up once each. -/
theorem nodup_of_ends_level {directories below : List String} (h : w.files.Nodup)
    (hends : (level provider owner repo o w directories).Ends record (w', below)) :
    w'.files.Nodup := by
  induction directories generalizing w record below with
  | nil =>
    obtain ⟨-, heq⟩ := ends_done_iff.1 hends
    obtain ⟨rfl, -⟩ := Prod.mk.inj heq
    exact h
  | cons directory rest ih =>
    obtain ⟨first, answer, second, rfl, -, hsecond⟩ := ends_bind_iff.1 hends
    rcases answer with e | entries
    · exact ih (by simpa using h) hsecond
    · dsimp only at hsecond
      split at hsecond
      · obtain ⟨-, heq⟩ := ends_done_iff.1 hsecond
        obtain ⟨rfl, -⟩ := Prod.mk.inj heq
        exact nodup_addEntries h
      · obtain ⟨third, ⟨w₁, more⟩, fourth, rfl, hthird, hfourth⟩ := ends_bind_iff.1 hsecond
        obtain ⟨-, heq⟩ := ends_done_iff.1 hfourth
        obtain ⟨rfl, -⟩ := Prod.mk.inj heq
        exact ih (nodup_addEntries h) hthird

/-- The candidates of all levels are taken up once each. -/
theorem nodup_of_ends_levels {depth : Nat} {directories : List String} (h : w.files.Nodup)
    (hends : (levels provider owner repo o depth w directories).Ends record w') :
    w'.files.Nodup := by
  induction depth generalizing w record directories with
  | zero =>
    obtain ⟨-, rfl⟩ := ends_done_iff.1 hends
    exact h
  | succ depth ih =>
    rw [levels] at hends
    split at hends
    · obtain ⟨-, rfl⟩ := ends_done_iff.1 hends
      exact h
    · obtain ⟨first, ⟨w₁, below⟩, second, rfl, hfirst, hsecond⟩ := ends_bind_iff.1 hends
      exact ih (nodup_of_ends_level h hfirst) hsecond

/-- The candidates of a walk are taken up once each. -/
theorem nodup_of_ends_roots {roots : List String} (h : w.files.Nodup)
    (hends : (Walk.roots provider owner repo o w roots).Ends record w') : w'.files.Nodup := by
  induction roots generalizing w record with
  | nil =>
    obtain ⟨-, rfl⟩ := ends_done_iff.1 hends
    exact h
  | cons root rest ih =>
    rw [Walk.roots] at hends
    split at hends
    · obtain ⟨-, rfl⟩ := ends_done_iff.1 hends
      exact h
    · obtain ⟨first, w₁, second, rfl, hfirst, hsecond⟩ := ends_bind_iff.1 hends
      exact ih (nodup_of_ends_levels h hfirst) hsecond

end SourceAudit.Walk
