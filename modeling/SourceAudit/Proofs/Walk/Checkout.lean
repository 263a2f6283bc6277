import SourceAudit.Proofs.Provider.Entry
import SourceAudit.Proofs.Walk.Bound

/-!
# Walks of a checkout

A walk of a checkout is that of its listing, which stays as it is (`Walk.run_roots_local`). In a proper
tree each path that it collects is one of a file, and where there are no links, two paths lead to the
same file exactly if the names in them are the same (`Walk.roots_local_distinct`).

No path is collected twice, but a file may be: a dot, or a slash beside another one, in a source root is
part of the paths below it and leads nowhere else, so that the file comes up under two paths
(`Walk.roots_local_sampleTree_dot`). Where no source root has any, but for slashes around it, no file
does.
-/

namespace SourceAudit

namespace Dialogue

variable {W α : Type} {p : Provider (StateM W)} {g : Gateway (StateM W)} {d : Dialogue α}
  {P : Call → Prop} {answers : (c : Call) → c.Answer} {w : W}

/-- A dialogue whose calls get the foreseen answers in surroundings that stay as they are comes to what
is foreseen, and leaves them so. -/
theorem run_conduct_of_still (hasks : d.Asks P)
    (hcall : ∀ c, P c → (c.perform p g).run w = (answers c, w)) :
    (d.conduct p g).run w = (d.reply answers, w) := by
  induction d with
  | done a => rfl
  | ask c next ih =>
    rw [conduct, run_bind_of_eq (hcall c hasks.1)]
    exact ih _ (hasks.2 _)

end Dialogue

namespace Walk

open Dialogue

variable {owner repo root : String} {o : WalkOptions} {listing : Listing} {roots : List String}
  {path : String} {t : FileTree}

/-! ### The directories of a walk -/

/-- What holds where a walk starts, and of the directories that are listed where it holds, holds of all
directories of the walk. -/
theorem forall_visits {P : String → Prop} (hstart : ∀ root ∈ roots, P (startOf root))
    (hlisted : ∀ directory, P directory → ∀ e ∈ listing.entries directory, P e.path) :
    ∀ directory ∈ visits o listing roots, P directory := by
  have hbelow : ∀ directories : List String, (∀ d ∈ directories, P d) → ∀ depth,
      ∀ d ∈ levelBelow o listing directories depth, P d := by
    intro directories hdirectories depth
    induction depth with
    | zero => exact hdirectories
    | succ depth ih =>
      intro d hd
      obtain ⟨above, habove, hd⟩ := List.mem_flatMap.1 hd
      obtain ⟨e, he, rfl⟩ := List.mem_map.1 hd
      exact hlisted above (ih above habove) e (List.mem_of_mem_filter he)
  intro directory hdirectory
  obtain ⟨root, hroot, hdirectory⟩ := List.mem_flatMap.1 hdirectory
  obtain ⟨depth, -, hdirectory⟩ := List.mem_flatMap.1 hdirectory
  exact hbelow [startOf root] (by simpa using hstart root hroot) depth directory hdirectory

/-- A walk collects the first of the candidates in its directories. -/
theorem files_reply_roots (owner repo : String) (o : WalkOptions) (listing : Listing)
    (roots : List String) :
    ((Walk.roots provider owner repo o {} roots).reply listing.answers).files =
      (candidatesIn o listing (visits o listing roots)).eraseDups.take o.maxCandidates := by
  have hempty : Followed o listing [] {} := .empty
  have hfollowed := (followed_roots owner repo hempty roots).collected.files
  rwa [List.nil_append] at hfollowed

/-- The candidates of a walk are files that directories of the walk list. -/
theorem exists_entry_of_mem_files
    (h : path ∈ ((Walk.roots provider owner repo o {} roots).reply listing.answers).files) :
    ∃ directory ∈ visits o listing roots, ∃ e ∈ listing.entries directory,
      e.kind = .file ∧ e.path = path := by
  rw [files_reply_roots] at h
  have hcandidate := List.mem_eraseDups.1 (List.mem_of_mem_take h)
  obtain ⟨directory, hdirectory, hcandidate⟩ := List.mem_flatMap.1 hcandidate
  obtain ⟨e, he, rfl⟩ := List.mem_map.1 hcandidate
  obtain ⟨hlisted, hfile⟩ := List.mem_filter.1 he
  exact ⟨directory, hdirectory, e, hlisted, by simpa using (Bool.and_eq_true_iff.1 hfile).1, rfl⟩

/-! ### Walks of a checkout -/

/-- A walk of a checkout is what its listings make it, and leaves the tree alone. -/
theorem run_roots_local (t : FileTree) (root owner repo : String) (o : WalkOptions)
    (roots : List String) :
    (Walk.roots (Provider.local FileTree.files root) owner repo o {} roots).run t =
      ((Walk.roots provider owner repo o {} roots).reply
        (LocalProvider.listing t root : Listing).answers, t) := by
  have hasks : (Walk.roots provider owner repo o {} roots).Asks
      fun c => ∃ directory, c = .list owner repo directory :=
    Audit.asks_roots {} fun directory => ⟨directory, rfl⟩
  rw [← conduct_roots (g := .refusing)]
  refine run_conduct_of_still hasks ?_
  rintro _ ⟨directory, rfl⟩
  exact LocalProvider.run_list_eq t root directory

/-- A walk starts without a slash at the end. -/
theorem getLast?_startOf (root : String) : (startOf root).toList.getLast? ≠ some '/' := by
  rw [startOf, String.toList_ofList, Text.trimWhile]
  rcases Text.dropEndWhile_eq_nil_or (· == '/') (root.toList.dropWhile (· == '/')) with
    hnil | ⟨front, c, hconcat, hc⟩
  · rw [hnil]
    simp
  · rw [hconcat, List.getLast?_concat]
    simpa using hc

/-- A walk of a proper checkout goes from directory to directory without slashes at the end, and what
holds where it starts and of every entry of a directory where it holds, holds of all of them. -/
theorem forall_visits_local {P : String → Prop} (hproper : t.IsProper)
    (hstart : ∀ start ∈ roots, P (startOf start))
    (hentry : ∀ directory name, P directory → directory.toList.getLast? ≠ some '/' →
      Url.IsName name.toList → P (LocalProvider.entryPath directory name)) :
    ∀ directory ∈ visits o (LocalProvider.listing t root) roots,
      P directory ∧ directory.toList.getLast? ≠ some '/' := by
  refine forall_visits (P := fun directory => P directory ∧ directory.toList.getLast? ≠ some '/')
    (fun start hroot => ⟨hstart start hroot, getLast?_startOf start⟩) ?_
  rintro directory ⟨hdirectory, hend⟩ e he
  obtain ⟨loc, hlists⟩ := LocalProvider.exists_lists he
  have hname := (hlists.isEntryName hproper).toIsName
  rw [hlists.path]
  exact ⟨hentry directory e.name hdirectory hend hname,
    LocalProvider.getLast?_entryPath hend hname⟩

/-- A candidate of a walk of a proper checkout is a file that the checkout lists. -/
theorem exists_lists_of_mem_files (hproper : t.IsProper)
    (h : path ∈ ((Walk.roots provider owner repo o {} roots).reply
      (LocalProvider.listing t root : Listing).answers).files) :
    ∃ directory ∈ visits o (LocalProvider.listing t root) roots, ∃ loc e,
      LocalProvider.Lists t root directory loc e ∧ e.kind = .file ∧ e.path = path ∧
        directory.toList.getLast? ≠ some '/' := by
  obtain ⟨directory, hvisited, e, he, hfile, hpath⟩ := exists_entry_of_mem_files h
  obtain ⟨loc, hlists⟩ := LocalProvider.exists_lists he
  obtain ⟨-, hend⟩ := forall_visits_local (P := fun _ => True) hproper (fun _ _ => trivial)
    (fun _ _ _ _ _ => trivial) directory hvisited
  exact ⟨directory, hvisited, loc, e, hlists, hfile, hpath, hend⟩

end Walk

namespace LocalProvider

variable {t : FileTree} {root path path' : String} {loc : Location}

/-! ### Spellings of paths -/

/-- There are no links at the root of a checkout or below. -/
def IsLinkFree (t : FileTree) (root : String) : Prop :=
  ∀ base, t.ResolvesTo root.toList base → ∀ place, base <+: place → ∀ target,
    t.entry? place ≠ some (.link target)

/-- In a tree without links no checkout has any. -/
theorem isLinkFree_of_entries (h : ∀ e ∈ t.entries, ∀ target, e.2 ≠ .link target) (root : String) :
    IsLinkFree t root := by
  intro _ _ place _ target hlink
  rw [FileTree.entry?] at hlink
  split_ifs at hlink
  · cases hlink
  · obtain ⟨e, hfound, heq⟩ := Option.map_eq_some_iff.1 hlink
    exact h e (List.mem_of_find?_eq_some hfound) target heq

/-- Paths of a checkout lead to the same place. -/
def SamePlace (t : FileTree) (root path path' : String) : Prop :=
  ∃ loc, t.ResolvesTo (Path.join root.toList path.toList) loc ∧
    t.ResolvesTo (Path.join root.toList path'.toList) loc

/-- The names in a path of a checkout. -/
def names (path : String) : List String :=
  FileTree.entered (FileTree.stepsWithin path.toList)

/-- A path is spelled with its names alone: unless it is empty, no segment of it is empty or a dot. -/
def IsTidy (path : String) : Prop :=
  path = "" ∨ ∀ segment ∈ Path.segments path.toList, segment ≠ [] ∧ segment ≠ ['.']

instance (path : String) : Decidable (IsTidy path) :=
  inferInstanceAs (Decidable (_ ∨ _))

/-- Where there are no links, the names in a path are those on the way to where it leads. -/
theorem exists_eq_append_names (hlinks : IsLinkFree t root) (hescapes : escapes path = false)
    (hne : Path.join root.toList path.toList ≠ [])
    (h : t.ResolvesTo (Path.join root.toList path.toList) loc) :
    ∃ base, t.ResolvesTo root.toList base ∧ loc = base ++ names path := by
  obtain ⟨base, hroot, -, hleads⟩ :=
    FileTree.exists_base_of_join (isAbsolute_of_escapes hescapes) hne h
  exact ⟨base, hroot, hleads.eq_append_entered (not_mem_stepsWithin_of_escapes hescapes)
    (hlinks base hroot)⟩

/-- The names in a path that is spelled with them alone are its segments. -/
theorem names_eq (hne : path ≠ "") (htidy : IsTidy path) (hescapes : escapes path = false) :
    names path = (Path.segments path.toList).map String.ofList := by
  have hslash : ∀ steps : List PathStep, FileTree.entered (steps ++
      if path.toList.getLast? = some '/' then [.slash] else []) = FileTree.entered steps := by
    intro steps
    split_ifs <;> simp [FileTree.entered]
  rw [names, FileTree.stepsWithin, if_neg (mt String.toList_eq_nil_iff.1 hne), PathStep.ofPath,
    hslash, FileTree.entered, List.filterMap_filterMap, ← List.filterMap_eq_map]
  refine List.filterMap_congr fun segment hsegment => ?_
  obtain ⟨hempty, hdot⟩ := htidy.resolve_left hne segment hsegment
  have hdots : segment ≠ ['.', '.'] := fun heq =>
    (escapes_eq_false_iff.1 hescapes).2 (heq ▸ hsegment)
  simp [PathStep.ofSegment?, hempty, hdot, hdots]

/-- A path that is spelled with its names alone is told by them. -/
theorem eq_of_names (hne : path ≠ "") (hne' : path' ≠ "") (htidy : IsTidy path)
    (htidy' : IsTidy path') (hescapes : escapes path = false) (hescapes' : escapes path' = false)
    (h : names path = names path') : path = path' := by
  rw [names_eq hne htidy hescapes, names_eq hne' htidy' hescapes'] at h
  have hsegments : Path.segments path.toList = Path.segments path'.toList :=
    List.map_injective_iff.2 (fun s s' hs => String.ofList_injective hs) h
  have hjoined := congrArg (Text.joinWith ['/']) hsegments
  rw [Path.segments, Path.segments, Text.joinWith_cut, Text.joinWith_cut] at hjoined
  exact String.toList_injective hjoined

/-- Where there are no links, paths lead to the same place exactly if they have the same names. -/
theorem samePlace_iff (hlinks : IsLinkFree t root) {other : Location}
    (hescapes : escapes path = false) (hescapes' : escapes path' = false)
    (hne : Path.join root.toList path.toList ≠ []) (hne' : Path.join root.toList path'.toList ≠ [])
    (h : t.ResolvesTo (Path.join root.toList path.toList) loc)
    (h' : t.ResolvesTo (Path.join root.toList path'.toList) other) :
    SamePlace t root path path' ↔ names path = names path' := by
  obtain ⟨base, hroot, hloc⟩ := exists_eq_append_names hlinks hescapes hne h
  obtain ⟨base', hroot', hother⟩ := exists_eq_append_names hlinks hescapes' hne' h'
  obtain rfl : base = base' := hroot.unique hroot'
  constructor
  · rintro ⟨place, hplace, hplace'⟩
    have hsame : loc = other := (h.unique hplace).trans (hplace'.unique h')
    exact List.append_cancel_left (hloc.symm.trans (hsame.trans hother))
  · intro hnames
    have hsame : other = loc := by rw [hother, hloc, hnames]
    exact ⟨loc, h, hsame ▸ h'⟩

/-- The path of an entry is spelled with its names alone if that of its directory is. -/
theorem IsTidy.entryPath {directory name : String} (h : IsTidy directory)
    (hend : directory.toList.getLast? ≠ some '/') (hname : Url.IsName name.toList) :
    IsTidy (entryPath directory name) := by
  refine .inr fun segment hsegment => ?_
  rw [segments_entryPath hend hname] at hsegment
  split_ifs at hsegment with hne
  · rw [List.mem_singleton.1 hsegment]
    exact ⟨hname.ne_nil, hname.dot⟩
  · rcases List.mem_append.1 hsegment with hsegment | hsegment
    · exact h.resolve_left hne segment hsegment
    · rw [List.mem_singleton.1 hsegment]
      exact ⟨hname.ne_nil, hname.dot⟩

end LocalProvider

/-! ### The files of a walk -/

namespace Walk

open Dialogue LocalProvider

variable {owner repo root path : String} {o : WalkOptions} {roots : List String} {t u : FileTree}
  {walk : Walk}

/-- A path of a checkout leads to a file of it. -/
structure IsFile (t : FileTree) (root path : String) : Prop where
  ne : path ≠ ""
  plain : escapes path = false
  file : ∃ loc bytes, t.ResolvesTo (Path.join root.toList path.toList) loc ∧
    (loc, .file bytes) ∈ t.entries

/-- The candidates of a walk of a proper checkout are files of it. -/
theorem isFile_of_mem_files (hproper : t.IsProper)
    (h : path ∈ ((Walk.roots provider owner repo o {} roots).reply
      (LocalProvider.listing t root : Listing).answers).files) : IsFile t root path := by
  obtain ⟨directory, -, loc, e, hlists, hfile, rfl, hend⟩ := exists_lists_of_mem_files hproper h
  obtain ⟨bytes, hmem⟩ := hlists.exists_file hfile
  refine ⟨?_, hlists.escapes_path hproper hend, _, bytes, hlists.resolvesTo hproper hend, hmem⟩
  rw [hlists.path]
  exact entryPath_ne_empty hend (hlists.isEntryName hproper).toIsName

/-- Files of a checkout without links are the same exactly if their paths have the same names. -/
theorem IsFile.samePlace_iff {path' : String} (h : IsFile t root path) (h' : IsFile t root path')
    (hlinks : IsLinkFree t root) : SamePlace t root path path' ↔ names path = names path' := by
  obtain ⟨loc, -, hloc, -⟩ := h.file
  obtain ⟨other, -, hother, -⟩ := h'.file
  exact LocalProvider.samePlace_iff hlinks h.plain h'.plain
    (FileTree.join_ne_nil _ (mt String.toList_eq_nil_iff.1 h.ne))
    (FileTree.join_ne_nil _ (mt String.toList_eq_nil_iff.1 h'.ne)) hloc hother

/-- A walk from source roots that are spelled with names alone collects such paths. -/
theorem isTidy_of_mem_files (hproper : t.IsProper)
    (hroots : ∀ start ∈ roots, IsTidy (startOf start))
    (h : path ∈ ((Walk.roots provider owner repo o {} roots).reply
      (LocalProvider.listing t root : Listing).answers).files) : IsTidy path := by
  obtain ⟨directory, hvisited, loc, e, hlists, -, rfl, hend⟩ := exists_lists_of_mem_files hproper h
  obtain ⟨htidy, -⟩ := forall_visits_local hproper hroots
    (fun _ _ htidy hend hname => IsTidy.entryPath htidy hend hname) directory hvisited
  rw [hlists.path]
  exact htidy.entryPath hend (hlists.isEntryName hproper).toIsName

/-- In a proper checkout without links a walk collects paths of files, each path once. Two of them lead
to the same file exactly if they have the same names, so that no file comes up twice if every source
root is spelled with names alone, but for slashes around it. -/
theorem roots_local_distinct (hproper : t.IsProper) (hlinks : IsLinkFree t root)
    (hrun : (Walk.roots (Provider.local FileTree.files root) owner repo o {} roots).run t =
      (walk, u)) :
    u = t ∧ walk.files.Nodup ∧
      (∀ path ∈ walk.files, ∃ loc bytes, t.ResolvesTo (Path.join root.toList path.toList) loc ∧
        (loc, .file bytes) ∈ t.entries) ∧
      (∀ path ∈ walk.files, ∀ path' ∈ walk.files,
        SamePlace t root path path' ↔ names path = names path') ∧
      ((∀ start ∈ roots, IsTidy (startOf start)) →
        walk.files.Pairwise fun path path' => ¬ SamePlace t root path path') := by
  rw [run_roots_local] at hrun
  obtain ⟨rfl, rfl⟩ := Prod.mk.inj hrun
  obtain ⟨record, hends, -⟩ := exists_ends_reply (LocalProvider.listing t root : Listing).answers
    (Walk.roots provider owner repo o {} roots)
  have hnodup := nodup_of_ends_roots List.nodup_nil hends
  refine ⟨rfl, hnodup, fun path hpath => (isFile_of_mem_files hproper hpath).file,
    fun path hpath path' hpath' => (isFile_of_mem_files hproper hpath).samePlace_iff
      (isFile_of_mem_files hproper hpath') hlinks, fun hroots => ?_⟩
  refine hnodup.imp_of_mem fun hpath hpath' hne hsame => hne ?_
  have hfile := isFile_of_mem_files hproper hpath
  have hfile' := isFile_of_mem_files hproper hpath'
  exact eq_of_names hfile.ne hfile'.ne (isTidy_of_mem_files hproper hroots hpath)
    (isTidy_of_mem_files hproper hroots hpath') hfile.plain hfile'.plain
    ((hfile.samePlace_iff hfile' hlinks).1 hsame)

/-! ### A file with two spellings -/

/-- A checkout `p` of a source file and a manifest. -/
def sampleTree : FileTree where
  entries :=
    [(["p"], .directory), (["p", "app.py"], .file (Text.Utf8.encode "x = 1\n".toList)),
      (["p", "requirements.txt"], .file [])]

theorem isProper_sampleTree : sampleTree.IsProper := by decide

theorem isLinkFree_sampleTree : IsLinkFree sampleTree "p" :=
  isLinkFree_of_entries (by simp [sampleTree]) "p"

/-- Every path that starts in the checkout is looked up in it. -/
theorem follow_sampleTree (rest : List PathStep) :
    sampleTree.follow .target maxLinks [] (.enter "p" :: rest) =
      sampleTree.follow .target maxLinks ["p"] rest :=
  FileTree.follow_enter rfl (by decide) rfl TreeEntry.directory_ne_link

/-- What is listed of the checkout where a path leads to its root. -/
theorem listing_sampleTree {directory : String} (path : List Char) {step : PathStep}
    (hescapes : escapes directory = false) (hpath : Path.join ['p'] directory.toList = path)
    (haccepted : '\x00' ∉ path ∧ Text.Utf8.size path ≤ maxPathSize)
    (hsteps : PathStep.ofPath path = [.enter "p", step]) (hstep : step = .slash ∨ step = .stay) :
    LocalProvider.listing sampleTree "p" directory =
      .ok [⟨"app.py", entryPath directory "app.py", .file⟩,
        ⟨"requirements.txt", entryPath directory "requirements.txt", .file⟩] := by
  have hne : path ≠ [] := by
    rintro rfl
    cases hsteps
  have hdirectory : sampleTree.entry? ["p"] = some .directory := rfl
  have horigin : sampleTree.origin path = [] := by
    rw [FileTree.origin]
    split <;> rfl
  have hfound : sampleTree.locate .target path = .ok (.found ["p"]) := by
    rw [FileTree.locate_eq haccepted.1 hne haccepted.2, hsteps, horigin, follow_sampleTree]
    rcases hstep with rfl | rfl <;>
      rw [FileTree.follow, if_neg (not_not_intro hdirectory), FileTree.follow]
  have hchildren : sampleTree.children ["p"] =
      [("app.py", .file (Text.Utf8.encode "x = 1\n".toList)), ("requirements.txt", .file [])] :=
    List.mergeSort_of_pairwise (by decide)
  have hresolve : resolve "p" directory = .ok (String.ofList path) :=
    resolve_eq_ok_iff.2 ⟨hescapes, by rw [← hpath]; rfl⟩
  rw [← String.toList_ofList (l := path)] at hfound
  rw [LocalProvider.listing, run_list hresolve, FileTree.kind?_of_directory hfound hdirectory,
    FileTree.list, hfound]
  dsimp only
  rw [hdirectory, hchildren]
  rfl

theorem listing_sampleTree_root : LocalProvider.listing sampleTree "p" "" =
    .ok [⟨"app.py", "app.py", .file⟩, ⟨"requirements.txt", "requirements.txt", .file⟩] :=
  listing_sampleTree "p/".toList (by decide) (by decide) (by decide) (by decide) (.inl rfl)

theorem listing_sampleTree_dot : LocalProvider.listing sampleTree "p" "." =
    .ok [⟨"app.py", "./app.py", .file⟩, ⟨"requirements.txt", "./requirements.txt", .file⟩] :=
  listing_sampleTree "p/.".toList (by decide) (by decide) (by decide) (by decide) (.inr rfl)

/-- A walk of the root of the checkout collects the source file. -/
theorem files_sampleTree (owner repo : String) :
    ((Walk.roots provider owner repo Audit.singleOptions.walk {} Audit.singleOptions.sourceRoots).reply
      (LocalProvider.listing sampleTree "p" : Listing).answers).files = ["app.py"] := by
  have hvisits : visits Audit.singleOptions.walk (LocalProvider.listing sampleTree "p")
      Audit.singleOptions.sourceRoots = [""] := rfl
  rw [files_reply_roots, hvisits, candidatesIn, List.flatMap_singleton, Listing.entries,
    listing_sampleTree_root]
  decide +kernel

/-- With slashes around it, the root of the checkout is the same source root again: the file is collected
once. -/
theorem roots_local_distinct_sampleTree : sampleTree.IsProper ∧ IsLinkFree sampleTree "p" ∧
    (∀ start ∈ ["", "/"], IsTidy (startOf start)) ∧
    ∃ walk, (Walk.roots (Provider.local FileTree.files "p") "acme" "tool" Audit.singleOptions.walk {}
        ["", "/"]).run sampleTree = (walk, sampleTree) ∧
      walk.files = ["app.py"] ∧
      (∃ loc bytes, sampleTree.ResolvesTo "p/app.py".toList loc ∧
        (loc, .file bytes) ∈ sampleTree.entries) ∧
      walk.files.Pairwise fun path path' => ¬ SamePlace sampleTree "p" path path' := by
  have hroots : ∀ start ∈ ["", "/"], IsTidy (startOf start) := by decide
  have hvisits : visits Audit.singleOptions.walk (LocalProvider.listing sampleTree "p") ["", "/"] =
      ["", ""] := rfl
  have hrun := run_roots_local sampleTree "p" "acme" "tool" Audit.singleOptions.walk ["", "/"]
  obtain ⟨-, -, hfile, -, hdistinct⟩ := roots_local_distinct isProper_sampleTree
    isLinkFree_sampleTree hrun
  have hfiles : ((Walk.roots provider "acme" "tool" Audit.singleOptions.walk {} ["", "/"]).reply
      (LocalProvider.listing sampleTree "p" : Listing).answers).files = ["app.py"] := by
    rw [files_reply_roots, hvisits, candidatesIn, List.flatMap_cons, List.flatMap_singleton,
      Listing.entries, listing_sampleTree_root]
    decide +kernel
  refine ⟨isProper_sampleTree, isLinkFree_sampleTree, hroots, _, hrun, hfiles, ?_, hdistinct hroots⟩
  exact hfile "app.py" (hfiles ▸ List.mem_singleton_self _)

/-- A walk that starts at the root of the checkout and at a dot collects the file twice: under its name,
and under its name behind the dot. -/
theorem roots_local_sampleTree_dot : sampleTree.IsProper ∧ IsLinkFree sampleTree "p" ∧ ∃ walk,
    (Walk.roots (Provider.local FileTree.files "p") "acme" "tool" Audit.singleOptions.walk {}
      ["", "."]).run sampleTree = (walk, sampleTree) ∧
      walk.files = ["app.py", "./app.py"] ∧ SamePlace sampleTree "p" "app.py" "./app.py" := by
  refine ⟨isProper_sampleTree, isLinkFree_sampleTree, _, run_roots_local .., ?_, ["p", "app.py"], ?_,
    ?_⟩
  · have hvisits : visits Audit.singleOptions.walk (LocalProvider.listing sampleTree "p") ["", "."] =
        ["", "."] := rfl
    rw [files_reply_roots, hvisits, candidatesIn, List.flatMap_cons, List.flatMap_singleton,
      Listing.entries, Listing.entries, listing_sampleTree_root, listing_sampleTree_dot]
    decide +kernel
  · have hsteps : PathStep.ofPath (Path.join "p".toList "app.py".toList) =
        [.enter "p", .enter "app.py"] := by decide
    rw [FileTree.ResolvesTo, hsteps]
    exact .enter rfl rfl TreeEntry.directory_ne_link
      (.enter rfl rfl (TreeEntry.file_ne_link _) (.arrived _))
  · have hsteps : PathStep.ofPath (Path.join "p".toList "./app.py".toList) =
        [.enter "p", .stay, .enter "app.py"] := by decide
    rw [FileTree.ResolvesTo, hsteps]
    exact .enter rfl rfl TreeEntry.directory_ne_link
      (.stay rfl (.enter rfl rfl (TreeEntry.file_ne_link _) (.arrived _)))

end Walk

end SourceAudit
