import SourceAudit.Proofs.Files.Resolution
import SourceAudit.Proofs.Text.Utf8
import SourceAudit.Provider.Local

/-!
# Where a checkout is read

A path that a checkout serves is not absolute and does not go up, so its steps start from the directory
of the checkout (`reaches_of_locate`). The provider looks at the text of the path only, and the file
system follows the links on the way. What is served lies at the root or below, unless a link below the
root leads out of it (`answers_inside_or_leaves`). Such links are followed (`answers_outside`).
-/

namespace SourceAudit

namespace FileTree

variable {t : FileTree} {loc : Location} {path name : String}

/-- The tree holds an entry of a kind in a directory. -/
def Holds (t : FileTree) (directory : Location) (name : String) : EntryKind → Prop
  | .file => ∃ bytes, (directory ++ [name], .file bytes) ∈ t.entries
  | .directory => (directory ++ [name], .directory) ∈ t.entries

/-- The names and entries in a directory are those of the tree. -/
theorem mem_children_iff {entry : TreeEntry} :
    (name, entry) ∈ t.children loc ↔ (loc ++ [name], entry) ∈ t.entries := by
  rw [children, List.mem_mergeSort, List.mem_filterMap]
  constructor
  · rintro ⟨⟨place, held⟩, hmem, hchild⟩
    split_ifs at hchild with hloc
    obtain ⟨last, hlast, heq⟩ := Option.map_eq_some_iff.1 hchild
    obtain ⟨rfl, rfl⟩ := Prod.mk.inj heq
    dsimp only at hloc hlast
    rwa [← hloc, List.dropLast_append_getLast? last hlast]
  · intro hmem
    exact ⟨(loc ++ [name], entry), hmem, by simp⟩

theorem kind?_of_file {bytes : Bytes} (hfound : t.locate .target path.toList = .ok (.found loc))
    (hfile : t.entry? loc = some (.file bytes)) : t.kind? path = some .file := by
  rw [kind?, hfound]
  dsimp only
  rw [hfile]

theorem kind?_of_directory (hfound : t.locate .target path.toList = .ok (.found loc))
    (hdirectory : t.entry? loc = some .directory) : t.kind? path = some .directory := by
  rw [kind?, hfound]
  dsimp only
  rw [hdirectory]

/-- The bytes that are read are those of the file where the path leads. -/
theorem read_eq_ok_iff {bytes : Bytes} : t.read path = .ok bytes ↔
    ∃ loc, t.locate .target path.toList = .ok (.found loc) ∧
      t.entry? loc = some (.file bytes) := by
  constructor
  · intro h
    rw [read] at h
    split at h
    · cases h
    · cases h
    next loc hfound =>
      refine ⟨loc, hfound, ?_⟩
      split at h
      next hfile => rw [hfile, Except.ok.inj h]
      · cases h
      · cases h
  · rintro ⟨loc, hfound, hfile⟩
    rw [read, hfound]
    dsimp only
    rw [hfile]

/-- What is there is listed. -/
theorem exists_list (h : (t.kind? path).isSome = true) : ∃ entries, t.list path = .ok entries := by
  rw [kind?] at h
  split at h
  next loc hfound =>
    rw [list, hfound]
    dsimp only
    split
    · exact ⟨_, rfl⟩
    · exact ⟨[], rfl⟩
  · cases h

/-- The entries that are listed are those of the directory where the path leads. -/
theorem mem_list_iff {kind : EntryKind} {entries : List (String × EntryKind)}
    (h : t.list path = .ok entries) : (name, kind) ∈ entries ↔
      ∃ loc, t.locate .target path.toList = .ok (.found loc) ∧
        t.entry? loc = some .directory ∧ t.Holds loc name kind := by
  rw [list] at h
  split at h
  · cases h
  · cases h
  next place hfound =>
    have hplace : (∃ loc, t.locate .target path.toList = .ok (.found loc) ∧
        t.entry? loc = some .directory ∧ t.Holds loc name kind) ↔
        t.entry? place = some .directory ∧ t.Holds place name kind := by
      simp [hfound]
    rw [hplace]
    split at h
    next hdirectory =>
      obtain rfl := Except.ok.inj h
      rw [and_iff_right hdirectory, List.mem_filterMap]
      constructor
      · rintro ⟨⟨child, entry⟩, hchild, hlisted⟩
        cases entry with
        | file bytes =>
          cases hlisted
          exact ⟨bytes, mem_children_iff.1 hchild⟩
        | directory =>
          cases hlisted
          exact mem_children_iff.1 hchild
        | link target => cases hlisted
      · intro hholds
        cases kind with
        | file =>
          obtain ⟨bytes, hmem⟩ := hholds
          exact ⟨(name, .file bytes), mem_children_iff.2 hmem, rfl⟩
        | directory => exact ⟨(name, .directory), mem_children_iff.2 hholds, rfl⟩
    next hplain =>
      obtain rfl := Except.ok.inj h
      exact iff_of_false List.not_mem_nil fun hdirectory => hplain hdirectory.1

end FileTree

namespace LocalProvider

variable {t : FileTree} {root path full : String} {loc : Location}

/-! ### Paths of a checkout -/

/-- A path that does not escape is not absolute. -/
theorem isAbsolute_of_escapes (h : escapes path = false) : Path.isAbsolute path.toList = false := by
  refine eq_false_of_ne_true fun habsolute => ?_
  rw [escapes, Path.parts, if_pos habsolute] at h
  cases h

/-- A path that does not escape does not go up. -/
theorem not_mem_stepsWithin_of_escapes (h : escapes path = false) :
    .up ∉ FileTree.stepsWithin path.toList := by
  intro hup
  rw [FileTree.stepsWithin] at hup
  split_ifs at hup
  · simp at hup
  rw [PathStep.ofPath, List.mem_append] at hup
  rcases hup with hup | hup
  -- The steps and the parts of a path are read from the same segments.
  · obtain ⟨segment, hsegment, hstep⟩ := List.mem_filterMap.1 hup
    have hdots : segment = ['.', '.'] := by grind [PathStep.ofSegment?]
    have hpart : .up ∈ Path.parts path.toList :=
      List.mem_append_right _ (List.mem_filterMap.2 ⟨segment, hsegment, by rw [hdots]; rfl⟩)
    rw [escapes, List.any_eq_false] at h
    exact h _ hpart rfl
  · split_ifs at hup <;> simp at hup

theorem resolve_eq_ok_iff : resolve root path = .ok full ↔
    escapes path = false ∧ full = String.ofList (Path.join root.toList path.toList) := by
  rw [resolve]
  rcases escapes path
  · simp [eq_comm]
  · simp

/-- A path leads to a place in a checkout, or out of it through a link below its root. -/
structure Reaches (t : FileTree) (root path : String) (base loc : Location) : Prop where
  plain : escapes path = false
  /-- The root of the checkout leads to a directory. -/
  start : t.ResolvesTo root.toList base
  isDirectory : t.entry? base = some .directory
  /-- The path leads to the place, -/
  place : t.ResolvesTo (Path.join root.toList path.toList) loc
  /-- and the file system finds it there. -/
  found : t.locate .target (Path.join root.toList path.toList) = .ok (.found loc)
  inside : base <+: loc ∨ t.Leaves base base (FileTree.stepsWithin path.toList)

/-- What the path of a file of the checkout is found to lead to is reached from its root. -/
theorem reaches_of_locate (h : resolve root path = .ok full)
    (hfound : t.locate .target full.toList = .ok (.found loc)) :
    ∃ base, Reaches t root path base loc := by
  obtain ⟨hescapes, rfl⟩ := resolve_eq_ok_iff.1 h
  rw [String.toList_ofList] at hfound
  obtain ⟨hne, hplace⟩ := FileTree.resolvesTo_of_locate hfound
  obtain ⟨base, hroot, hdirectory, hleads⟩ :=
    FileTree.exists_base_of_join (isAbsolute_of_escapes hescapes) hne hplace
  have hinside := hleads.inside_or_leaves (not_mem_stepsWithin_of_escapes hescapes)
    List.prefix_rfl
  exact ⟨base, hescapes, hroot, hdirectory, hplace, hfound, hinside⟩

/-- What is reached is where the path of the file is found to lead. -/
theorem Reaches.exists_locate {base : Location} (h : Reaches t root path base loc) :
    ∃ full, resolve root path = .ok full ∧ t.locate .target full.toList = .ok (.found loc) := by
  refine ⟨_, resolve_eq_ok_iff.2 ⟨h.plain, rfl⟩, ?_⟩
  rw [String.toList_ofList]
  exact h.found

/-! ### Answers -/

/-- A text is read from what is no directory. -/
theorem run_fetch (hfull : resolve root path = .ok full) :
    (fetch FileTree.files root path).run t =
      (if t.kind? full = some .directory then .ok none
        else match t.read full with
          | .ok bytes => .ok (some (String.ofList (Text.Utf8.decodeLossy bytes)))
          | .error .notFound => .ok none
          | .error fault => .error (.unreadable path fault), t) := by
  have hkind : (FileTree.files.isDirectory full).run t =
      pure (t.kind? full == some .directory, t) := rfl
  have hread : (FileTree.files.read full).run t = pure (t.read full, t) := rfl
  rw [fetch, hfull]
  dsimp only
  rw [StateT.run_bind, hkind, pure_bind]
  by_cases hdirectory : t.kind? full = some .directory
  · rw [if_pos (beq_iff_eq.2 hdirectory), if_pos hdirectory]
    rfl
  · rw [if_neg fun h => hdirectory (beq_iff_eq.1 h), if_neg hdirectory, StateT.run_bind, hread,
      pure_bind]
    cases t.read full with
    | ok bytes => rfl
    | error fault => cases fault <;> rfl

/-- Entries are listed of what is there. -/
theorem run_list (hfull : resolve root path = .ok full) :
    (list FileTree.files root path).run t =
      (if (t.kind? full).isSome then
          match t.list full with
          | .ok listed => .ok (listed.map fun e => ⟨e.1, entryPath path e.1, e.2⟩)
          | .error fault => .error (.unreadable path fault)
        else .ok [], t) := by
  have hthere : (FileTree.files.isThere full).run t = pure ((t.kind? full).isSome, t) := rfl
  have hlist : (FileTree.files.list full).run t = pure (t.list full, t) := rfl
  rw [list, hfull]
  dsimp only
  rw [StateT.run_bind, hthere, pure_bind]
  by_cases hkind : (t.kind? full).isSome = true
  · rw [if_pos hkind, if_pos hkind, StateT.run_bind, hlist, pure_bind]
    cases t.list full <;> rfl
  · rw [if_neg hkind, if_neg hkind]
    rfl

/-- A checkout serves the texts of the files that paths lead to. -/
theorem fetch_eq_some_iff {u : FileTree} {text : String} :
    (fetch FileTree.files root path).run t = (.ok (some text), u) ↔
      u = t ∧ ∃ full bytes, resolve root path = .ok full ∧ t.read full = .ok bytes ∧
        text = String.ofList (Text.Utf8.decodeLossy bytes) := by
  constructor
  · intro h
    cases hfull : resolve root path with
    | error e =>
      rw [fetch, hfull] at h
      cases h
    | ok full =>
      rw [run_fetch hfull] at h
      obtain ⟨hanswer, rfl⟩ := Prod.mk.inj h
      refine ⟨rfl, full, ?_⟩
      split at hanswer
      · cases hanswer
      split at hanswer
      next bytes hread =>
        exact ⟨bytes, rfl, hread, (Option.some.inj (Except.ok.inj hanswer)).symm⟩
      · cases hanswer
      · cases hanswer
  · rintro ⟨rfl, full, bytes, hfull, hread, rfl⟩
    -- What is read is a file, so that the question for a directory does not get in the way.
    obtain ⟨loc, hfound, hfile⟩ := FileTree.read_eq_ok_iff.1 hread
    rw [run_fetch hfull, FileTree.kind?_of_file hfound hfile, hread, if_neg (by decide)]

/-- A checkout lists what is in the directory that a path leads to. -/
theorem mem_of_list {u : FileTree} {entries : List DirectoryEntry}
    (h : (list FileTree.files root path).run t = (.ok entries, u)) :
    u = t ∧ ∃ full, resolve root path = .ok full ∧ ∀ e, e ∈ entries ↔
      e.path = entryPath path e.name ∧
        ∃ loc, t.locate .target full.toList = .ok (.found loc) ∧
          t.entry? loc = some .directory ∧ t.Holds loc e.name e.kind := by
  cases hfull : resolve root path with
  | error e =>
    rw [list, hfull] at h
    cases h
  | ok full =>
    rw [run_list hfull] at h
    obtain ⟨hanswer, rfl⟩ := Prod.mk.inj h
    refine ⟨rfl, full, rfl, fun e => ?_⟩
    split at hanswer
    · split at hanswer
      next listed hlist =>
        obtain rfl := Except.ok.inj hanswer
        rw [← FileTree.mem_list_iff hlist, List.mem_map]
        constructor
        · rintro ⟨entry, hmem, rfl⟩
          exact ⟨rfl, hmem⟩
        · rintro ⟨hpath, hmem⟩
          exact ⟨(e.name, e.kind), hmem, by rw [← hpath]⟩
      · cases hanswer
    next hthere =>
      -- Nothing is there, so there is no directory either.
      obtain rfl := Except.ok.inj hanswer
      refine iff_of_false List.not_mem_nil ?_
      rintro ⟨-, loc, hfound, hdirectory, -⟩
      rw [FileTree.kind?_of_directory hfound hdirectory] at hthere
      exact hthere rfl

/-- A listing is refused just for the path. -/
theorem exists_list_iff : (∃ entries, (list FileTree.files root path).run t = (.ok entries, t)) ↔
    escapes path = false := by
  constructor
  · rintro ⟨entries, h⟩
    obtain ⟨-, full, hfull, -⟩ := mem_of_list h
    exact (resolve_eq_ok_iff.1 hfull).1
  · intro hescapes
    rw [run_list (resolve_eq_ok_iff.2 ⟨hescapes, rfl⟩)]
    split
    next hthere =>
      obtain ⟨listed, hlist⟩ := FileTree.exists_list hthere
      rw [hlist]
      exact ⟨_, rfl⟩
    · exact ⟨[], rfl⟩

/-! ### A link out of a checkout -/

/-- A checkout `p` with a link to the directory beside it. -/
def linkedOut : FileTree where
  entries :=
    [(["p"], .directory), (["p", "src"], .link "../outside"), (["outside"], .directory),
      (["outside", "secret.py"], .file (Text.Utf8.encode "eval(x)\n".toList))]

/-- The link of the checkout leads out of it. -/
theorem follow_linkedOut (rest : List PathStep) :
    linkedOut.follow .target maxLinks [] (.enter "p" :: .enter "src" :: rest) =
      linkedOut.follow .target (maxLinks - 1) ["outside"] rest := by
  have htarget : PathStep.ofPath "../outside".toList = [.up, .enter "outside"] := by decide
  have hsize : "src".utf8ByteSize ≤ maxNameSize := by decide
  have hlink : linkedOut.entry? (["p"] ++ ["src"]) = some (.link "../outside") := rfl
  calc linkedOut.follow .target maxLinks [] (.enter "p" :: .enter "src" :: rest)
      = linkedOut.follow .target maxLinks ["p"] (.enter "src" :: rest) :=
        FileTree.follow_enter rfl (by decide) rfl TreeEntry.directory_ne_link
    _ = linkedOut.follow .target (maxLinks - 1) ["p"] ([.up, .enter "outside"] ++ rest) := by
        rw [← htarget]
        exact FileTree.follow_link rfl hsize hlink
    _ = linkedOut.follow .target (maxLinks - 1) [] (.enter "outside" :: rest) :=
        FileTree.follow_up rfl
    _ = linkedOut.follow .target (maxLinks - 1) ["outside"] rest :=
        FileTree.follow_enter rfl (by decide) rfl TreeEntry.directory_ne_link

/-- The path of a directory in the checkout is found to lead to the one beside it. -/
theorem locate_linkedOut_directory :
    linkedOut.locate .target "p/src".toList = .ok (.found ["outside"]) := by
  have hsteps : PathStep.ofPath "p/src".toList = [.enter "p", .enter "src"] := by decide
  rw [FileTree.locate_eq (by decide) (by decide) (by decide), hsteps]
  refine (follow_linkedOut []).trans ?_
  rw [FileTree.follow]

/-- The path of a file in the checkout is found to lead to one beside it. -/
theorem locate_linkedOut_file :
    linkedOut.locate .target "p/src/secret.py".toList = .ok (.found ["outside", "secret.py"]) := by
  have hsteps : PathStep.ofPath "p/src/secret.py".toList =
      [.enter "p", .enter "src", .enter "secret.py"] := by decide
  rw [FileTree.locate_eq (by decide) (by decide) (by decide), hsteps]
  calc linkedOut.follow .target maxLinks [] [.enter "p", .enter "src", .enter "secret.py"]
      = linkedOut.follow .target (maxLinks - 1) ["outside"] [.enter "secret.py"] :=
        follow_linkedOut [.enter "secret.py"]
    _ = linkedOut.follow .target (maxLinks - 1) ["outside", "secret.py"] [] :=
        FileTree.follow_enter rfl (by decide) rfl (TreeEntry.file_ne_link _)
    _ = .ok (.found ["outside", "secret.py"]) := by rw [FileTree.follow]

theorem fetch_linkedOut (owner repo branch : String) :
    ((Provider.local FileTree.files "p").fetch owner repo "src/secret.py" branch).run linkedOut =
      (.ok (some "eval(x)\n"), linkedOut) := by
  have hresolve : resolve "p" "src/secret.py" = .ok "p/src/secret.py" := by decide
  have hkind : linkedOut.kind? "p/src/secret.py" = some .file := by
    rw [FileTree.kind?, locate_linkedOut_file]
    rfl
  have hread : linkedOut.read "p/src/secret.py" = .ok (Text.Utf8.encode "eval(x)\n".toList) := by
    rw [FileTree.read, locate_linkedOut_file]
    rfl
  have htext :
      Text.Utf8.decodeLossy (Text.Utf8.encode "eval(x)\n".toList) = "eval(x)\n".toList := by
    rw [Text.Utf8.decodeLossy, Text.Utf8.decode_encode]
    rfl
  refine (run_fetch hresolve).trans ?_
  rw [hkind, if_neg (by decide), hread]
  dsimp only
  rw [htext, String.ofList_toList]

theorem list_linkedOut (owner repo : String) :
    ((Provider.local FileTree.files "p").list owner repo "src").run linkedOut =
      (.ok [⟨"secret.py", "src/secret.py", .file⟩], linkedOut) := by
  have hresolve : resolve "p" "src" = .ok "p/src" := by decide
  have hkind : linkedOut.kind? "p/src" = some .directory := by
    rw [FileTree.kind?, locate_linkedOut_directory]
    rfl
  have hchildren : linkedOut.children ["outside"] =
      [("secret.py", .file (Text.Utf8.encode "eval(x)\n".toList))] :=
    List.mergeSort_singleton _
  have hlist : linkedOut.list "p/src" = .ok [("secret.py", .file)] := by
    rw [FileTree.list, locate_linkedOut_directory]
    dsimp only
    rw [hchildren]
    rfl
  have hpath : entryPath "src" "secret.py" = "src/secret.py" := by decide
  refine (run_list hresolve).trans ?_
  rw [hkind, hlist, ← hpath]
  rfl

/-! ### What a checkout serves -/

/-- A checkout serves the texts of the files and the entries of the directories that paths lead to, and
it refuses paths that are absolute or go up. What it serves lies at its root or below, unless a link
below the root leads out of it. -/
theorem answers_inside_or_leaves (t : FileTree) (owner repo root path branch : String) :
    (∀ text u, ((Provider.local FileTree.files root).fetch owner repo path branch).run t =
        (.ok (some text), u) ↔
      u = t ∧ ∃ base loc bytes, Reaches t root path base loc ∧ loc ≠ base ∧
        t.entry? loc = some (.file bytes) ∧
        text = String.ofList (Text.Utf8.decodeLossy bytes)) ∧
    ((∃ entries, ((Provider.local FileTree.files root).list owner repo path).run t =
        (.ok entries, t)) ↔ escapes path = false) ∧
    (∀ entries u, ((Provider.local FileTree.files root).list owner repo path).run t =
        (.ok entries, u) →
      u = t ∧ ∀ e, e ∈ entries ↔ e.path = entryPath path e.name ∧
        ∃ base loc, Reaches t root path base loc ∧ t.entry? loc = some .directory ∧
          t.Holds loc e.name e.kind) := by
  refine ⟨fun text u => fetch_eq_some_iff.trans (and_congr_right fun _ => ?_), exists_list_iff,
    fun entries u h => ?_⟩
  · constructor
    · rintro ⟨full, bytes, hfull, hread, htext⟩
      obtain ⟨loc, hfound, hfile⟩ := FileTree.read_eq_ok_iff.1 hread
      obtain ⟨base, hreaches⟩ := reaches_of_locate hfull hfound
      refine ⟨base, loc, bytes, hreaches, ?_, hfile, htext⟩
      -- The root is a directory, so the file lies below it.
      rintro rfl
      rw [hreaches.isDirectory] at hfile
      cases hfile
    · rintro ⟨base, loc, bytes, hreaches, -, hfile, htext⟩
      obtain ⟨full, hfull, hfound⟩ := hreaches.exists_locate
      exact ⟨full, bytes, hfull, FileTree.read_eq_ok_iff.2 ⟨loc, hfound, hfile⟩, htext⟩
  · obtain ⟨hstate, full, hfull, hmem⟩ := mem_of_list h
    refine ⟨hstate, fun e => (hmem e).trans (and_congr_right fun _ => ?_)⟩
    constructor
    · rintro ⟨loc, hfound, hdirectory, hholds⟩
      obtain ⟨base, hreaches⟩ := reaches_of_locate hfull hfound
      exact ⟨base, loc, hreaches, hdirectory, hholds⟩
    · rintro ⟨base, loc, hreaches, hdirectory, hholds⟩
      obtain ⟨full', hfull', hfound⟩ := hreaches.exists_locate
      obtain rfl := Except.ok.inj (hfull.symm.trans hfull')
      exact ⟨loc, hfound, hdirectory, hholds⟩

/-- The text that is served through the link is that of a file. -/
theorem answers_inside_or_leaves_linkedOut :
    ((Provider.local FileTree.files "p").fetch "acme" "tool" "src/secret.py" "main").run linkedOut =
        (.ok (some "eval(x)\n"), linkedOut) ∧
      ∃ base loc bytes, Reaches linkedOut "p" "src/secret.py" base loc ∧ loc ≠ base ∧
        linkedOut.entry? loc = some (.file bytes) ∧
        "eval(x)\n" = String.ofList (Text.Utf8.decodeLossy bytes) :=
  have answers := answers_inside_or_leaves linkedOut "acme" "tool" "p" "src/secret.py" "main"
  ⟨fetch_linkedOut .., ((answers.1 _ _).1 (fetch_linkedOut ..)).2⟩

/-- A checkout is read outside its root: no directory and no file at its root or below has what is
served. -/
theorem answers_outside :
    ((Provider.local FileTree.files "p").fetch "acme" "tool" "src/secret.py" "main").run linkedOut =
        (.ok (some "eval(x)\n"), linkedOut) ∧
      ((Provider.local FileTree.files "p").list "acme" "tool" "src").run linkedOut =
        (.ok [⟨"secret.py", "src/secret.py", .file⟩], linkedOut) ∧
      ∀ base loc, linkedOut.ResolvesTo "p".toList base → base <+: loc →
        (∀ bytes, linkedOut.entry? loc ≠ some (.file bytes)) ∧
          ¬ linkedOut.Holds loc "secret.py" .file := by
  refine ⟨fetch_linkedOut .., list_linkedOut .., fun base loc hroot hbelow => ?_⟩
  have hsteps : PathStep.ofPath "p".toList = [.enter "p"] := by decide
  have hbase : linkedOut.ResolvesTo "p".toList ["p"] := by
    rw [FileTree.ResolvesTo, hsteps]
    exact .enter rfl rfl TreeEntry.directory_ne_link (.arrived ["p"])
  obtain rfl := hroot.unique hbase
  obtain ⟨below, rfl⟩ := hbelow
  constructor
  · intro bytes hfile
    simp [FileTree.entry?, linkedOut] at hfile
  · rintro ⟨bytes, hmem⟩
    simp [linkedOut] at hmem

end LocalProvider

end SourceAudit
