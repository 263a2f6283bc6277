import SourceAudit.Proofs.Audit.Listing
import SourceAudit.Proofs.Files.Proper
import SourceAudit.Proofs.Provider.Checkout

/-!
# The entries of a checkout

A checkout lists an entry of a directory under the path of the directory with the name behind it, and
reads such a path from its text again. The two agree in a proper tree: what was listed as a file is
served, as far as its path is not too long for a file system (`Lists.fetch`).

The directory must be given without a slash at its end, as a walk does. The path of its entries is made
without that slash, which may be the one that asks for a directory.
-/

namespace SourceAudit

namespace LocalProvider

open FileTree (IsEntryName)

variable {t : FileTree} {root directory path name : String} {loc : Location} {e : DirectoryEntry}

/-- The listings of a checkout. -/
def listing (t : FileTree) (root : String) : Listing := fun directory =>
  ((list FileTree.files root directory).run t).1

/-- The answers to fetches from a checkout. -/
def content (t : FileTree) (root path : String) : Except ProviderError (Option String) :=
  ((fetch FileTree.files root path).run t).1

/-- To list a directory leaves the tree alone. -/
theorem run_list_eq (t : FileTree) (root directory : String) :
    (list FileTree.files root directory).run t = (listing t root directory, t) := by
  cases hfull : resolve root directory with
  | error e =>
    rw [listing, list, hfull]
    rfl
  | ok full => rw [listing, run_list hfull]

/-- To fetch a file leaves the tree alone. -/
theorem run_fetch_eq (t : FileTree) (root path : String) :
    (fetch FileTree.files root path).run t = (content t root path, t) := by
  cases hfull : resolve root path with
  | error e =>
    rw [content, fetch, hfull]
    rfl
  | ok full => rw [content, run_fetch hfull]

/-! ### The paths of entries -/

/-- A path may lead out of where it starts if it is absolute or has a segment of two dots. -/
theorem escapes_eq_false_iff : escapes path = false ↔
    Path.isAbsolute path.toList = false ∧ ['.', '.'] ∉ Path.segments path.toList := by
  constructor
  · intro h
    refine ⟨isAbsolute_of_escapes h, fun hup => ?_⟩
    rw [escapes, List.any_eq_false] at h
    exact h .up (List.mem_append_right _ (List.mem_filterMap.2 ⟨_, hup, rfl⟩)) rfl
  · rintro ⟨hrelative, hup⟩
    rw [escapes, List.any_eq_false]
    intro part hpart
    rcases List.mem_append.1 hpart with hfront | hsegments
    · rw [hrelative] at hfront
      split_ifs at hfront <;> simp_all
    · obtain ⟨segment, hsegment, hof⟩ := List.mem_filterMap.1 hsegments
      have hdots : segment ≠ ['.', '.'] := fun heq => hup (heq ▸ hsegment)
      rw [Path.Part.ofSegment?] at hof
      split_ifs at hof
      obtain rfl := Option.some.inj hof
      simp

/-- The path of an entry at the root of a checkout is its name. -/
theorem entryPath_empty (name : String) : entryPath "" name = name :=
  if_pos rfl

/-- Behind a directory without a slash at its end the name stands after one slash. -/
theorem toList_entryPath (name : String) (hne : directory ≠ "") (hend : directory.toList.getLast? ≠ some '/') :
    (entryPath directory name).toList = directory.toList ++ '/' :: name.toList := by
  obtain ⟨front, c, hdirectory⟩ :=
    List.eq_nil_or_concat directory.toList |>.resolve_left (mt String.toList_eq_nil_iff.1 hne)
  rw [List.concat_eq_append] at hdirectory
  have hcut : Text.dropEndWhile (· == '/') directory.toList = directory.toList := by
    rw [hdirectory] at hend ⊢
    exact Text.dropEndWhile_concat (by simpa using hend)
  rw [entryPath, if_neg hne, hcut]
  simp

/-- The segments of the path of an entry are those of its directory and the name. -/
theorem segments_entryPath (hend : directory.toList.getLast? ≠ some '/')
    (hname : Url.IsName name.toList) : Path.segments (entryPath directory name).toList =
      if directory = "" then [name.toList] else Path.segments directory.toList ++ [name.toList] := by
  have hcut : Path.segments name.toList = [name.toList] := Text.cut_eq_singleton hname.slash
  by_cases hne : directory = ""
  · rw [hne, entryPath_empty, hcut, if_pos rfl]
  · rw [toList_entryPath name hne hend, if_neg hne, ← hcut]
    exact Text.cutFrom_append (beq_self_eq_true '/')

/-- The path of an entry does not lead out of where its directory does not. -/
theorem escapes_entryPath (h : escapes directory = false)
    (hend : directory.toList.getLast? ≠ some '/') (hname : Url.IsName name.toList) :
    escapes (entryPath directory name) = false := by
  rw [escapes_eq_false_iff] at h ⊢
  rw [segments_entryPath hend hname]
  by_cases hne : directory = ""
  · rw [if_pos hne, hne, entryPath_empty]
    exact ⟨FileTree.isAbsolute_of_isName hname, by simpa using hname.dots.symm⟩
  · rw [if_neg hne, toList_entryPath name hne hend,
      FileTree.isAbsolute_append (mt String.toList_eq_nil_iff.1 hne)]
    refine ⟨h.1, fun hup => ?_⟩
    rcases List.mem_append.1 hup with hup | hup
    · exact h.2 hup
    · exact hname.dots (List.mem_singleton.1 hup).symm

/-- The path of an entry is the path of its directory with the name behind it, seen from anywhere. -/
theorem join_entryPath (hend : directory.toList.getLast? ≠ some '/') (hname : Url.IsName name.toList)
    (hne : Path.join root.toList directory.toList ≠ []) :
    Path.join root.toList (entryPath directory name).toList =
      Path.join (Path.join root.toList directory.toList) name.toList := by
  rw [FileTree.join_name_eq hne hname]
  by_cases hempty : directory = ""
  · -- The root of the checkout is asked for by a slash behind it.
    subst hempty
    have hroot : root.toList ≠ [] := by
      rintro hroot
      rw [hroot] at hne
      exact hne rfl
    have hjoin : Path.join root.toList "".toList =
        if root.toList.getLast? = some '/' then root.toList else root.toList ++ ['/'] := by
      simp [Path.join, Path.isAbsolute, mt String.toList_eq_nil_iff.2 hroot]
    rw [entryPath_empty, FileTree.join_name_eq hroot hname, hjoin]
    by_cases hslash : root.toList.getLast? = some '/'
    · rw [if_pos hslash, if_pos hslash, if_pos hslash]
    · rw [if_neg hslash, if_neg hslash, if_pos List.getLast?_concat, List.append_assoc,
        List.singleton_append]
  · have hdirectory : directory.toList ≠ [] := mt String.toList_eq_nil_iff.1 hempty
    rw [toList_entryPath name hempty hend, FileTree.join_append root.toList hdirectory,
      FileTree.getLast?_join root.toList hdirectory, if_neg hend]

theorem entryPath_ne_empty (hend : directory.toList.getLast? ≠ some '/')
    (hname : Url.IsName name.toList) : entryPath directory name ≠ "" := by
  by_cases hne : directory = ""
  · rw [hne, entryPath_empty]
    exact fun hempty => hname.ne_nil (String.toList_eq_nil_iff.2 hempty)
  · intro hempty
    have htext := toList_entryPath name hne hend
    rw [hempty] at htext
    simp at htext

/-- The path of an entry has no slash at its end. -/
theorem getLast?_entryPath (hend : directory.toList.getLast? ≠ some '/')
    (hname : Url.IsName name.toList) : (entryPath directory name).toList.getLast? ≠ some '/' := by
  by_cases hne : directory = ""
  · rw [hne, entryPath_empty]
    exact hname.getLast?_ne
  · rw [toList_entryPath name hne hend, List.getLast?_append_cons,
      List.getLast?_cons_of_ne_nil hname.ne_nil]
    exact hname.getLast?_ne

/-! ### What is listed and what is served -/

/-- A checkout lists an entry of the directory at a place. -/
structure Lists (t : FileTree) (root directory : String) (loc : Location) (e : DirectoryEntry) :
    Prop where
  plain : escapes directory = false
  found : t.locate .target (Path.join root.toList directory.toList) = .ok (.found loc)
  isDirectory : t.entry? loc = some .directory
  holds : t.Holds loc e.name e.kind
  path : e.path = entryPath directory e.name

theorem exists_lists (h : e ∈ (listing t root).entries directory) :
    ∃ loc, Lists t root directory loc e := by
  rcases hlisting : listing t root directory with fault | entries
  · rw [Listing.entries, hlisting] at h
    cases h
  · rw [Listing.entries, hlisting] at h
    have hrun := run_list_eq t root directory
    rw [hlisting] at hrun
    obtain ⟨-, full, hfull, hmem⟩ := mem_of_list hrun
    obtain ⟨hescapes, rfl⟩ := resolve_eq_ok_iff.1 hfull
    obtain ⟨hpath, loc, hfound, hdirectory, hholds⟩ := (hmem e).1 h
    rw [String.toList_ofList] at hfound
    exact ⟨loc, hescapes, hfound, hdirectory, hholds, hpath⟩

namespace Lists

variable (h : Lists t root directory loc e) (hproper : t.IsProper)

include h

/-- An entry that is listed is in the tree, and is no link. -/
theorem exists_mem : ∃ entry, (loc ++ [e.name], entry) ∈ t.entries ∧
    ∀ target, entry ≠ .link target := by
  have hholds := h.holds
  rcases hkind : e.kind
  · rw [hkind] at hholds
    obtain ⟨bytes, hmem⟩ := hholds
    exact ⟨_, hmem, TreeEntry.file_ne_link bytes⟩
  · rw [hkind] at hholds
    exact ⟨_, hholds, TreeEntry.directory_ne_link⟩

/-- An entry that is listed as a file is one. -/
theorem exists_file (hfile : e.kind = .file) :
    ∃ bytes, (loc ++ [e.name], .file bytes) ∈ t.entries := by
  have hholds := h.holds
  rwa [hfile] at hholds

include hproper

theorem isEntryName : IsEntryName e.name := by
  obtain ⟨entry, hmem, -⟩ := h.exists_mem
  exact hproper.isEntryName hmem

/-- An entry that is listed is found in a proper tree. -/
theorem exists_entry : ∃ entry, t.entry? (loc ++ [e.name]) = some entry ∧
    ∀ target, entry ≠ .link target := by
  obtain ⟨entry, hmem, hplain⟩ := h.exists_mem
  exact ⟨entry, hproper.entry?_concat hmem, hplain⟩

variable (hend : directory.toList.getLast? ≠ some '/')

include hend

theorem join_path : Path.join root.toList e.path.toList =
    Path.join (Path.join root.toList directory.toList) e.name.toList := by
  rw [h.path]
  exact join_entryPath hend (h.isEntryName hproper).toIsName
    (FileTree.resolvesTo_of_locate h.found).1

/-- The path of an entry that is listed leads to the entry. -/
theorem resolvesTo :
    t.ResolvesTo (Path.join root.toList e.path.toList) (loc ++ [e.name]) := by
  obtain ⟨hne, hresolves⟩ := FileTree.resolvesTo_of_locate h.found
  obtain ⟨entry, hthere, hplain⟩ := h.exists_entry hproper
  rw [h.join_path hproper hend]
  exact hresolves.join_name hne h.isDirectory (h.isEntryName hproper).toIsName hthere hplain

/-- The path of an entry that is listed does not lead out of the checkout. -/
theorem escapes_path : escapes e.path = false := by
  rw [h.path]
  exact escapes_entryPath h.plain hend (h.isEntryName hproper).toIsName

/-- A file that is listed is served, unless its path is too long. -/
theorem fetch (hfile : e.kind = .file)
    (hsize : Text.Utf8.size (Path.join root.toList e.path.toList) ≤ maxPathSize) :
    ∃ bytes, (loc ++ [e.name], .file bytes) ∈ t.entries ∧
      content t root e.path = .ok (some (String.ofList (Text.Utf8.decodeLossy bytes))) := by
  obtain ⟨bytes, hmem⟩ := h.exists_file hfile
  have hthere := hproper.entry?_concat hmem
  have hescapes := h.escapes_path hproper hend
  have hfound : t.locate .target (Path.join root.toList e.path.toList) =
      .ok (.found (loc ++ [e.name])) := by
    rw [h.join_path hproper hend] at hsize ⊢
    exact FileTree.locate_join_name h.found h.isDirectory (h.isEntryName hproper) hthere
      (TreeEntry.file_ne_link bytes) hsize
  refine ⟨bytes, hmem, ?_⟩
  have hread : t.read (String.ofList (Path.join root.toList e.path.toList)) = .ok bytes :=
    FileTree.read_eq_ok_iff.2 ⟨_, by rw [String.toList_ofList]; exact hfound, hthere⟩
  have hrun := fetch_eq_some_iff.2 ⟨rfl, _, bytes, resolve_eq_ok_iff.2 ⟨hescapes, rfl⟩, hread, rfl⟩
  rw [content, hrun]

end Lists

end LocalProvider

end SourceAudit
