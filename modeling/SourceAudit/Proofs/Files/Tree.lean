import SourceAudit.Files.Tree
import SourceAudit.Proofs.Store.Storable

/-!
# A file tree serves a store

In a file tree, a store in a file of the working directory is served as long as nothing but files is
in its way (`FileTree.serves`).
-/

namespace SourceAudit.FileTree

/-! ### Entries -/

variable {t : FileTree} {loc other : Location} {e : TreeEntry}

/-- What was put at a place is there. -/
theorem entry?_put (t : FileTree) (e : TreeEntry) (hloc : loc ≠ []) :
    entry? (t.put loc e) loc = some e := by
  unfold entry?
  rw [if_neg hloc, put]
  split
  next hthere =>
    generalize t.entries = entries at hthere
    dsimp only
    induction entries with
    | nil => cases hthere
    | cons x rest ih =>
      rw [List.map_cons]
      split
      · simp only [List.find?_cons, beq_self_eq_true, Option.map_some]
      next hx =>
        rw [List.any_cons, Bool.or_eq_true, or_iff_right hx] at hthere
        simp only [List.find?_cons, eq_false_of_ne_true hx]
        exact ih hthere
  next hfree =>
    have hnone : t.entries.find? (fun x => x.1 == loc) = none :=
      List.find?_eq_none.2 fun x hx hloc => hfree (List.any_eq_true.2 ⟨x, hx, hloc⟩)
    dsimp only
    simp only [List.find?_append, hnone, List.find?_cons, beq_self_eq_true, Option.none_or,
      Option.map_some]

/-- What was put at a place is not anywhere else. -/
theorem entry?_put_of_ne (t : FileTree) (e : TreeEntry) (hne : other ≠ loc) :
    entry? (t.put loc e) other = t.entry? other := by
  have hnew : (loc == other) = false := by simpa using Ne.symm hne
  have hfind : (t.put loc e).entries.find? (fun x => x.1 == other) =
      t.entries.find? (fun x => x.1 == other) := by
    rw [put]
    split
    · dsimp only
      induction t.entries with
      | nil => rfl
      | cons x rest ih =>
        rw [List.map_cons]
        split
        next hx =>
          have hold : (x.1 == other) = false := by rwa [eq_of_beq hx]
          simp only [List.find?_cons, hnew, hold, ih]
        next hx => simp only [List.find?_cons, ih]
    · simp only [List.find?_append, List.find?_cons, hnew, List.find?_nil, Option.or_none]
  unfold entry?
  rw [hfind]

/-- What was taken from a place is not there. -/
theorem entry?_erase (t : FileTree) (hloc : loc ≠ []) : entry? (t.erase loc) loc = none := by
  have hnone : (t.erase loc).entries.find? (fun x => x.1 == loc) = none := by
    refine List.find?_eq_none.2 fun x hx heq => ?_
    rw [erase, List.mem_filter, eq_of_beq heq] at hx
    simp at hx
  unfold entry?
  rw [if_neg hloc, hnone]
  rfl

/-- Nothing is taken from anywhere else. -/
theorem entry?_erase_of_ne (t : FileTree) (hne : other ≠ loc) :
    entry? (t.erase loc) other = t.entry? other := by
  have hfind : (t.erase loc).entries.find? (fun x => x.1 == other) =
      t.entries.find? (fun x => x.1 == other) := by
    rw [erase, List.find?_filter]
    refine congrArg (List.find? · t.entries) (funext fun x => ?_)
    by_cases hx : x.1 = other
    · simp [hx, hne]
    · simp [hx]
  unfold entry?
  rw [hfind]

@[simp] theorem start_put (t : FileTree) (loc : Location) (e : TreeEntry) :
    (t.put loc e).start = t.start := by
  rw [put]
  split <;> rfl

/-! ### Files of the working directory -/

/-- The path is the name of an entry of the working directory. -/
structure IsName (path : String) : Prop where
  steps : PathStep.ofPath path.toList = [.enter path]
  noSlash : withoutEndSlash path.toList = path.toList
  isRelative : Path.isAbsolute path.toList = false
  noNul : '\x00' ∉ path.toList
  isShort : path.utf8ByteSize ≤ maxNameSize
  size : Text.Utf8.size path.toList ≤ maxPathSize

/-- There is a file at a place, or nothing. -/
def IsClear (t : FileTree) (loc : Location) : Prop :=
  t.entry? loc = none ∨ ∃ bytes, t.entry? loc = some (.file bytes)

/-- What the file of the working directory with a name holds. -/
def held (t : FileTree) (path : String) : Option Bytes :=
  match t.entry? (t.start ++ [path]) with
  | some (.file bytes) => some bytes
  | _ => none

/-- The working directory is there, and nothing but files is in the way of a store. -/
structure IsSound (path : String) (t : FileTree) : Prop where
  start : t.entry? t.start = some .directory
  store : t.IsClear (t.start ++ [path])
  temporary : t.IsClear (t.start ++ [StoreFile.temporaryPath path])

variable {path : String}

/-- A name leads to its entry of the working directory, or to the free place for it. -/
theorem locate_of_isClear (hname : IsName path) (hstart : t.entry? t.start = some .directory)
    (hclear : t.IsClear (t.start ++ [path])) (purpose : Purpose) :
    t.locate purpose path.toList =
      .ok (if (t.entry? (t.start ++ [path])).isSome then .found (t.start ++ [path])
        else .free (t.start ++ [path])) := by
  have hne : path.toList ≠ [] := by
    intro hnil
    have hsteps := hname.steps
    rw [hnil] at hsteps
    cases hsteps
  have hlong : ¬ maxPathSize < Text.Utf8.size path.toList := Nat.not_lt.2 hname.size
  have hshort : ¬ maxNameSize < path.utf8ByteSize := Nat.not_lt.2 hname.isShort
  rw [locate, if_neg hname.noNul, if_neg hne, if_neg hlong, hname.steps, hname.isRelative,
    if_neg Bool.false_ne_true, follow, if_neg (not_not_intro hstart)]
  rcases hclear with hnone | ⟨bytes, hfile⟩
  · simp [hnone, hshort]
  · simp [hfile, hshort, follow]

/-- A file with a name is read. -/
theorem read_of_isClear (hname : IsName path) (hstart : t.entry? t.start = some .directory)
    (hclear : t.IsClear (t.start ++ [path])) :
    t.read path = (t.held path).elim (.error .notFound) .ok := by
  rw [read, locate_of_isClear hname hstart hclear, held]
  rcases hclear with hnone | ⟨bytes, hfile⟩
  · simp [hnone]
  · simp [hfile]

/-- A file with a name is written. -/
theorem write_of_isClear (hname : IsName path) (hstart : t.entry? t.start = some .directory)
    (hclear : t.IsClear (t.start ++ [path])) (bytes : Bytes) :
    t.write path bytes = .ok (t.put (t.start ++ [path]) (.file bytes)) := by
  rw [write, locate_of_isClear hname hstart hclear]
  rcases hclear with hnone | ⟨bytes, hfile⟩
  · simp [hnone]
  · simp [hfile]

/-- A file with a name is moved to another name. -/
theorem rename_of_isClear {target : String} (hname : IsName path) (htarget : IsName target)
    (hne : path ≠ target) (hstart : t.entry? t.start = some .directory) {bytes : Bytes}
    (hfile : t.entry? (t.start ++ [path]) = some (.file bytes))
    (hclear : t.IsClear (t.start ++ [target])) :
    t.rename path target =
      .ok ((t.erase (t.start ++ [path])).put (t.start ++ [target]) (.file bytes)) := by
  have hlong : ¬ maxPathSize < Text.Utf8.size path.toList := Nat.not_lt.2 hname.size
  have hlongTarget : ¬ maxPathSize < Text.Utf8.size target.toList := Nat.not_lt.2 htarget.size
  have hplace := locate_of_isClear hname hstart (.inr ⟨bytes, hfile⟩) .entry
  rw [hfile, Option.isSome_some, if_pos rfl] at hplace
  have hends : endsInName target.toList = true := by
    rw [endsInName, htarget.noSlash, htarget.steps]
    rfl
  have hslash : endsInSlash target.toList = false := by
    refine eq_false_of_ne_true fun hlast => ?_
    have hsteps := htarget.steps
    rw [PathStep.ofPath, if_pos (eq_of_beq hlast)] at hsteps
    have hslash := congrArg List.getLast? hsteps
    rw [List.getLast?_append] at hslash
    cases hslash
  rw [rename, locateEntry, if_neg hlong, hname.noSlash, hplace, locateEntry, if_neg hlongTarget,
    htarget.noSlash, locate_of_isClear htarget hstart hclear, hends]
  have hother : ¬ t.start ++ [target] = t.start ++ [path] := by simpa using Ne.symm hne
  rcases hclear with hnone | ⟨other, hthere⟩
  · simp [hnone, hfile, hslash]
  · simp [hthere, hfile, hslash, hother]

open StoreFile (temporaryPath directoryOf? Serves)

/-- A place in the working directory is not the root. -/
theorem append_name_ne_nil (start : Location) (name : String) : start ++ [name] ≠ [] := by
  simp

theorem append_name_ne (start : Location) {name other : String} (hne : name ≠ other) :
    start ++ [name] ≠ start ++ [other] := by
  simpa using hne

theorem IsClear.put {start : Location} {name : String} (h : t.IsClear (start ++ [name]))
    (written : String) (bytes : Bytes) :
    (t.put (start ++ [written]) (.file bytes)).IsClear (start ++ [name]) := by
  by_cases hname : name = written
  · rw [hname]
    exact .inr ⟨bytes, entry?_put t _ (append_name_ne_nil start written)⟩
  · rw [IsClear, entry?_put_of_ne t _ (append_name_ne start hname)]
    exact h

theorem IsClear.erase {start : Location} {name : String} (h : t.IsClear (start ++ [name]))
    (taken : String) : (t.erase (start ++ [taken])).IsClear (start ++ [name]) := by
  by_cases hname : name = taken
  · rw [hname]
    exact .inl (entry?_erase t (append_name_ne_nil start taken))
  · rw [IsClear, entry?_erase_of_ne t (append_name_ne start hname)]
    exact h

/-- Files are written in the working directory soundly. -/
theorem IsSound.put (h : t.IsSound path) (written : String) (bytes : Bytes) :
    (t.put (t.start ++ [written]) (.file bytes)).IsSound path := by
  have hstart : t.start ≠ t.start ++ [written] := by simp
  refine ⟨?_, ?_, ?_⟩ <;> rw [start_put]
  · rw [entry?_put_of_ne t _ hstart]
    exact h.start
  · exact h.store.put written bytes
  · exact h.temporary.put written bytes

/-- Files are taken from the working directory soundly. -/
theorem IsSound.erase (h : t.IsSound path) (taken : String) :
    (t.erase (t.start ++ [taken])).IsSound path := by
  have hstart : t.start ≠ t.start ++ [taken] := by simp
  exact ⟨(entry?_erase_of_ne t hstart).trans h.start, h.store.erase taken,
    h.temporary.erase taken⟩

/-- A file that was written is held. -/
theorem held_put (t : FileTree) (written : String) (bytes : Bytes) :
    (t.put (t.start ++ [written]) (.file bytes)).held written = some bytes := by
  rw [held, start_put, entry?_put t _ (append_name_ne_nil t.start written)]

/-- A file tree serves a store in a file of its working directory. -/
theorem serves (hname : IsName path) (htemporary : IsName (temporaryPath path))
    (hne : temporaryPath path ≠ path) (hparent : directoryOf? path = none) :
    Serves files path (IsSound path) held where
  makeParent t ht := by
    refine ⟨t, ?_, ht⟩
    rw [StoreFile.makeParent, hparent]
    rfl
  write t bytes ht := by
    have hwrite := write_of_isClear htemporary ht.start ht.temporary bytes
    refine ⟨_, ?_, ht.put (temporaryPath path) bytes, held_put ..⟩
    simp only [files, changing, StateT.run, hwrite]
  rename t bytes ht hheld := by
    have hfile : t.entry? (t.start ++ [temporaryPath path]) = some (.file bytes) := by
      rw [held] at hheld
      split at hheld
      next hfile => rw [hfile, Option.some.inj hheld]
      next => cases hheld
    have hrename := rename_of_isClear htemporary hname hne ht.start hfile ht.store
    refine ⟨_, ?_, (ht.erase (temporaryPath path)).put path bytes, held_put ..⟩
    simp only [files, changing, StateT.run, hrename]
    rfl
  read t ht := by
    refine ⟨t, ?_, ht, rfl⟩
    simp only [files, StateT.run, read_of_isClear hname ht.start ht.store]

end SourceAudit.FileTree
