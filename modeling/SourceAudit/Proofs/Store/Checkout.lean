import SourceAudit.Proofs.Files.Proper
import SourceAudit.Proofs.Store.Beside
import SourceAudit.Proofs.Store.Identity
import SourceAudit.Proofs.Store.Operation
import SourceAudit.Target

/-!
# Checkouts that a store takes

The target of a directory is made to fit what a store requires: characters that no name may have are
replaced, and the path is encoded into a URL. Whatever the names on the way to the directory are, text
or not, the URL can be read (`Url.exists_parse_ofDirectory`), and the name has the right characters. What
is left are the bounds on lengths: with a name that is short enough, the target is taken exactly if its
URL is (`Target.accepts_checkout`).

A directory whose path is long is therefore refused, and one whose name is long
(`Target.refuses_nestedTree`). Characters outside of ASCII make a URL long soon: each of their bytes
takes three characters of it.
-/

namespace SourceAudit

/-! ### URLs of directories -/

namespace Url

open Text

variable {c : Char} {s : List Char} {outside : Char → Bool} {bs : List UInt8}

/-- The characters of encoded bytes. -/
theorem mem_percentEncodeBytes (hc : c ∈ percentEncodeBytes outside bs) :
    c = '%' ∨ isHexDigit c = true ∨ outside c = false := by
  obtain ⟨b, hb, hc⟩ := List.mem_flatMap.1 hc
  dsimp only at hc
  split_ifs at hc with hout
  · exact (mem_flatMap_percentByte (List.mem_flatMap.2 ⟨b, hb, hc⟩)).imp_right .inl
  · obtain rfl := List.mem_singleton.1 hc
    exact .inr (.inr (by simpa using hout))

/-- A byte that is encoded takes three characters. -/
theorem length_percentEncodeBytes (h : ∀ b ∈ bs, outside (Char.ofNat b.toNat) = true) :
    (percentEncodeBytes outside bs).length = 3 * bs.length := by
  induction bs with
  | nil => rfl
  | cons b rest ih =>
    have hrest := ih fun b hb => h b (List.mem_cons_of_mem _ hb)
    obtain ⟨high, low, hbyte, -⟩ := percentByte_eq b
    rw [percentEncodeBytes] at hrest ⊢
    rw [List.flatMap_cons, List.length_append, hrest, if_pos (h b List.mem_cons_self), hbyte]
    simp only [List.length_cons, List.length_nil]
    omega

/-- What a directory is called in its URL has characters that ASCII prints. -/
theorem printed_of_not_outsideName (h : outsideName c = false) : 0x20 < c.toNat ∧ c.toNat < 0x7F := by
  simp only [outsideName, outsidePath, outsideFragment, outsideText, Bool.or_eq_false_iff,
    decide_eq_false_iff_not] at h
  have hspace : c.toNat ≠ 0x20 := by
    intro heq
    have hc : c = ' ' := by rw [← Char.ofNat_toNat c, heq]
    exact h.1.1.2 (hc ▸ List.mem_cons_self)
  omega

/-- The URL of a directory has characters that ASCII prints only. -/
theorem printed_of_mem_ofDirectory {names : List (List UInt8)} (hc : c ∈ ofDirectory names) :
    0x20 < c.toNat ∧ c.toNat < 0x7F := by
  have hscheme : ∀ c ∈ "file://".toList ++ ['/', '%'], 0x20 < c.toNat ∧ c.toNat < 0x7F := by
    decide +kernel
  unfold ofDirectory at hc
  rw [List.mem_append, List.mem_append, List.mem_flatMap] at hc
  rcases hc with (hc | ⟨name, -, hc⟩) | hc
  · exact hscheme c (List.mem_append_left _ hc)
  · rcases List.mem_cons.1 hc with rfl | hc
    · exact hscheme '/' (by decide)
    rcases mem_percentEncodeBytes hc with rfl | hc | hc
    · exact hscheme '%' (by decide)
    · have hdigits : ∀ n < 128, isHexDigit (Char.ofNat n) = true →
          0x20 < (Char.ofNat n).toNat ∧ (Char.ofNat n).toNat < 0x7F := by decide +kernel
      exact forall_ascii (P := fun c => isHexDigit c = true → 0x20 < c.toNat ∧ c.toNat < 0x7F)
        hdigits (toNat_lt_of_isHexDigit hc) hc
    · exact printed_of_not_outsideName hc
  · exact hscheme c (List.mem_append_right _ (List.mem_cons.2 (.inl (List.mem_singleton.1 hc))))

/-- Nothing is dropped from a text without spaces and control characters. -/
theorem clean_eq_self (h : ∀ c ∈ s, 0x20 < c.toNat) : clean s = s := by
  have hstart : s.dropWhile (fun c => c.toNat ≤ 0x20) = s := by
    rcases s with _ | ⟨c, rest⟩
    · rfl
    · exact List.dropWhile_cons_of_neg (by simpa using h c List.mem_cons_self)
  rw [clean, trimWhile, hstart]
  exact tidy_eq_self h

/-- The path of the URL of a directory starts after two slashes, without a host in between. -/
theorem exists_ofDirectory_eq (names : List (List UInt8)) :
    ∃ path, ofDirectory names = "file://".toList ++ '/' :: path := by
  rcases names with _ | ⟨name, rest⟩
  · exact ⟨[], rfl⟩
  · refine ⟨percentEncodeBytes outsideName name ++
      (rest.flatMap fun n => '/' :: percentEncodeBytes outsideName n) ++ ['/'], ?_⟩
    unfold ofDirectory
    simp

/-- The length of the URL of a directory. -/
theorem length_ofDirectory (names : List (List UInt8)) : (ofDirectory names).length =
    8 + (names.flatMap fun n => '/' :: percentEncodeBytes outsideName n).length := by
  have hscheme : "file://".toList.length = 7 := by decide
  unfold ofDirectory
  rw [List.length_append, List.length_append, hscheme, List.length_singleton]
  omega

/-- The URL of a directory can be read. -/
theorem exists_parse_ofDirectory (names : List (List UInt8)) :
    ∃ u, parse (ofDirectory names) = .ok u := by
  obtain ⟨path, hpath⟩ := exists_ofDirectory_eq names
  have hclean : clean (ofDirectory names) = ofDirectory names :=
    clean_eq_self fun c hc => (printed_of_mem_ofDirectory hc).1
  have hscheme : cutScheme? ("file://".toList ++ '/' :: path) =
      some ("file".toList, '/' :: '/' :: '/' :: path) := rfl
  have hhost : cutFileHost ('/' :: '/' :: '/' :: path) = ([], '/' :: path) := rfl
  have hfile : parseFile ('/' :: '/' :: '/' :: path) =
      .ok (Url.withTail { scheme := "file", host := [], segments := [[]] } ('/' :: path)) := by
    rw [parseFile, hhost]
    rfl
  have hknown : parseKnown (ofDirectory names) =
      .ok (Url.withTail { scheme := "file", host := [], segments := [[]] } ('/' :: path)) := by
    rw [parseKnown, hclean, hpath, hscheme]
    exact hfile
  rw [parse, hknown]
  exact ⟨_, rfl⟩

end Url

/-! ### Names -/

namespace Validation

open Text

variable {c : Char} {s : List Char} {field value : String}

/-- The URLs that are accepted. -/
theorem url_ok_iff : url value = .ok () ↔ Clean maxUrl value ∧ ∃ u, Url.parse value.toList = .ok u := by
  rw [url, ← @text_ok_iff "url"]
  rcases text "url" value maxUrl with e | u
  · simp
  · rcases Url.parse value.toList with e | u <;> simp

/-- A character of a name is printed. -/
theorem printed_of_isNameChar (h : isNameChar c = true) :
    isBlank c = false ∧ isControl c = false :=
  forall_isNameChar (P := fun c => isBlank c = false ∧ isControl c = false)
    (by decide +kernel) h

/-- Every character becomes one of a name. -/
theorem isNameChar_of_mem_repositoryName (h : c ∈ (Target.repositoryName s).toList) :
    isNameChar c = true := by
  rw [Target.repositoryName, String.toList_ofList] at h
  obtain ⟨d, -, rfl⟩ := List.mem_map.1 h
  split_ifs with hd
  · exact hd
  · decide

theorem length_repositoryName (s : List Char) : (Target.repositoryName s).length = s.length := by
  rw [Target.repositoryName, String.length_ofList, List.length_map]

/-- Dots come from dots only. -/
theorem eq_of_repositoryName_eq {dots : List Char} (hdots : ∀ c ∈ dots, c = '.')
    (h : Target.repositoryName s = String.ofList dots) : s = dots := by
  have hmap := String.ofList_injective h
  have hkept : ∀ d ∈ s, (if isNameChar d then d else '-') = d := by
    intro d hd
    have hdot := hdots _ (hmap ▸ List.mem_map_of_mem hd)
    split_ifs at hdot ⊢
    · rfl
    · cases hdot
  rw [← hmap, List.map_congr_left hkept, List.map_id']

/-- What a directory is called becomes a name that is accepted unless it is too long. -/
theorem name_repositoryName_ok_iff (hne : s ≠ []) (hdot : s ≠ ['.']) (hdots : s ≠ ['.', '.']) :
    name field (Target.repositoryName s) = .ok () ↔ s.length ≤ maxName := by
  have hchars : ∀ c ∈ (Target.repositoryName s).toList, isNameChar c = true :=
    fun c hc => isNameChar_of_mem_repositoryName hc
  rw [name_ok_iff, ← length_repositoryName s]
  constructor
  · rintro ⟨hclean, -⟩
    exact hclean.short
  · intro hshort
    have hsome : (Target.repositoryName s).toList ≠ [] := by
      rw [Target.repositoryName, String.toList_ofList]
      simpa using hne
    obtain ⟨c, hc⟩ := List.exists_mem_of_ne_nil _ hsome
    have hclean : Clean maxName (Target.repositoryName s) :=
      ⟨⟨c, hc, (printed_of_isNameChar (hchars c hc)).1⟩, hshort,
        fun c hc => (printed_of_isNameChar (hchars c hc)).2⟩
    exact ⟨hclean, hchars, fun h => hdot (eq_of_repositoryName_eq (by simp) h),
      fun h => hdots (eq_of_repositoryName_eq (by simp) h)⟩

end Validation

/-! ### Targets -/

/-- The store takes the target. -/
def Store.Accepts (s : Store) (now : Instant) (target : Target) : Prop :=
  ∃ r s', runOn (upsertRepository now target.owner target.name target.url) s = (.ok r, s')

/-- The targets that a store takes are the same for all stores and times. -/
theorem Store.accepts_iff {s : Store} {now : Instant} {target : Target} : s.Accepts now target ↔
    Validation.name "owner" target.owner = .ok () ∧ Validation.name "name" target.name = .ok () ∧
      Validation.url target.url = .ok () := by
  constructor
  · rintro ⟨r, s', h⟩
    exact (upsertRepository_ok_iff.1 h).1
  · intro h
    exact ⟨_, _, upsertRepository_ok_iff.2 ⟨h, rfl, rfl⟩⟩

/-- Bytes that a directory can be called, as far as this matters here: they are there, and are no name of
the directory itself or of the one above. -/
structure IsDirectoryName (name : Bytes) : Prop where
  ne_nil : name ≠ []
  dot : name ≠ Text.Utf8.encode ['.']
  dots : name ≠ Text.Utf8.encode ['.', '.']

instance (name : Bytes) : Decidable (IsDirectoryName name) :=
  decidable_of_iff (_ ∧ _ ∧ _) ⟨fun h => ⟨h.1, h.2.1, h.2.2⟩, fun h => ⟨h.ne_nil, h.dot, h.dots⟩⟩

namespace Target

open Store

variable {names : List Bytes} {t : FileTree} {loc : Location} {s : Store} {now : Instant}

theorem name_ofDirectory (names : List Bytes) : (ofDirectory names).name =
    repositoryName ((names.getLast?.bind Text.Utf8.decode?).getD rootName.toList) := rfl

/-- The name of a checkout is accepted unless it is too long. -/
theorem name_ofDirectory_ok_iff (hlast : ∀ name ∈ names.getLast?, IsDirectoryName name) :
    Validation.name "name" (ofDirectory names).name = .ok () ↔
      (ofDirectory names).name.length ≤ Validation.maxName := by
  rw [name_ofDirectory, Validation.length_repositoryName]
  rcases hname : names.getLast?.bind Text.Utf8.decode? with _ | name
  · -- The root, or a name that is no text.
    have hroot : Validation.name "name" (repositoryName rootName.toList) = .ok () :=
      Validation.name_ok_iff.2 (by decide +kernel)
    exact iff_of_true hroot (by decide)
  · obtain ⟨bytes, hbytes, htext⟩ := Option.bind_eq_some_iff.1 hname
    obtain rfl := Text.Utf8.decode?_eq_some_iff.1 htext
    obtain ⟨hne, hdot, hdots⟩ := hlast _ hbytes
    refine Validation.name_repositoryName_ok_iff ?_ ?_ ?_
    · rintro rfl
      exact hne rfl
    · rintro rfl
      exact hdot rfl
    · rintro rfl
      exact hdots rfl

/-- The URL of a checkout is accepted unless it is too long. -/
theorem url_ofDirectory_ok_iff (names : List Bytes) :
    Validation.url (ofDirectory names).url = .ok () ↔
      (ofDirectory names).url.length ≤ Validation.maxUrl := by
  have hchars : ∀ c ∈ (ofDirectory names).url.toList, 0x20 < c.toNat ∧ c.toNat < 0x7F := by
    rw [ofDirectory, String.toList_ofList]
    exact fun c hc => Url.printed_of_mem_ofDirectory hc
  rw [Validation.url_ok_iff]
  constructor
  · rintro ⟨hclean, -⟩
    exact hclean.short
  · intro hshort
    have hworded : Text.Worded (ofDirectory names).url := by
      refine ⟨'f', ?_, by decide⟩
      obtain ⟨path, hpath⟩ := Url.exists_ofDirectory_eq names
      rw [ofDirectory, String.toList_ofList, hpath]
      exact List.mem_cons_self
    refine ⟨⟨hworded, hshort, fun c hc => ?_⟩, ?_⟩
    · have hc := hchars c hc
      exact Text.isControl_of_printable (by omega) (by omega)
    · rw [ofDirectory, String.toList_ofList]
      exact Url.exists_parse_ofDirectory names

/-- A store takes a checkout whose name is short enough exactly if the URL is. -/
theorem accepts_ofDirectory_iff (hlast : ∀ name ∈ names.getLast?, IsDirectoryName name)
    (hshort : (ofDirectory names).name.length ≤ Validation.maxName) :
    s.Accepts now (ofDirectory names) ↔ (ofDirectory names).url.length ≤ Validation.maxUrl := by
  rw [accepts_iff, name_ofDirectory_ok_iff hlast, url_ofDirectory_ok_iff]
  have howner : Validation.name "owner" localOwner = .ok () :=
    Validation.name_ok_iff.2 (by decide +kernel)
  constructor
  · rintro ⟨-, -, hurl⟩
    exact hurl
  · intro hurl
    exact ⟨howner, hshort, hurl⟩

/-! ### Directories of a tree -/

/-- The names on the way to a place, as bytes. -/
def bytesOf (loc : Location) : List Bytes :=
  loc.map fun name => Text.Utf8.encode name.toList

theorem isDirectoryName_encode {name : List Char} (h : Url.IsName name) :
    IsDirectoryName (Text.Utf8.encode name) := by
  have hinj := Text.Utf8.encode_injective
  exact ⟨fun heq => h.ne_nil (@hinj name [] heq), fun heq => h.dot (hinj heq),
    fun heq => h.dots (hinj heq)⟩

/-- The names in the path of a place are those on the way to it. -/
theorem namesIn_pathOf (h : ∀ name ∈ loc, Url.IsName name.toList) :
    namesIn (FileTree.pathOf loc) = bytesOf loc := by
  have hpath : (FileTree.pathOf loc).toList = '/' :: Text.joinWith ['/'] (loc.map String.toList) := by
    rw [FileTree.pathOf, String.toList_append, String.toList_intercalate]
    rfl
  have hsegments : (Path.segments (FileTree.pathOf loc).toList).filter (!·.isEmpty) =
      loc.map String.toList := by
    have hcut : Path.segments (FileTree.pathOf loc).toList =
        [] :: Path.segments (Text.joinWith ['/'] (loc.map String.toList)) := by
      rw [hpath]
      rfl
    rw [hcut, List.filter_cons_of_neg (by simp)]
    by_cases hloc : loc = []
    · subst hloc
      rfl
    · have hnames : ∀ w ∈ loc.map String.toList, Url.IsName w := by
        intro w hw
        obtain ⟨name, hname, rfl⟩ := List.mem_map.1 hw
        exact h name hname
      rw [Path.segments, Text.cut_joinWith (by simpa using hloc) fun w hw => (hnames w hw).slash,
        List.filter_eq_self]
      exact fun w hw => by simpa using (hnames w hw).ne_nil
  rw [namesIn, hsegments, bytesOf, List.map_map]
  rfl

/-- A path of a directory comes to the target of the directory. -/
theorem run_ofPath {path : String} (h : t.locate .target path.toList = .ok (.found loc))
    (hnames : ∀ name ∈ loc, Url.IsName name.toList) :
    (ofPath FileTree.files path).run t = (.ok (ofDirectory (bytesOf loc)), t) := by
  have hcanonical : (FileTree.files.canonical path).run t = (.ok (FileTree.pathOf loc), t) := by
    have hpath : t.canonical path = .ok (FileTree.pathOf loc) := by rw [FileTree.canonical, h]
    exact congrArg (·, t) hpath
  rw [ofPath, run_bind_of_eq hcanonical, ← namesIn_pathOf hnames]
  rfl

/-- The path of a directory of a proper tree comes to a target, and a store takes the target of a
directory, be the names on the way to it texts or not, exactly if the URL is short enough, as long as
the name is. -/
theorem accepts_checkout :
    (∀ {t : FileTree} {path : String} {loc : Location}, t.IsProper →
      t.locate .target path.toList = .ok (.found loc) → t.entry? loc = some .directory →
      (ofPath FileTree.files path).run t = (.ok (ofDirectory (bytesOf loc)), t) ∧
        ∀ name ∈ (bytesOf loc).getLast?, IsDirectoryName name) ∧
    ∀ {names : List Bytes}, (∀ name ∈ names.getLast?, IsDirectoryName name) →
      (ofDirectory names).name.length ≤ Validation.maxName → ∀ (s : Store) (now : Instant),
        s.Accepts now (ofDirectory names) ↔
          (ofDirectory names).url.length ≤ Validation.maxUrl := by
  refine ⟨fun hproper hfound hdirectory => ?_, fun hlast hshort s now =>
    accepts_ofDirectory_iff hlast hshort⟩
  have hnames := hproper.isEntryName_of_entry? hdirectory
  refine ⟨run_ofPath hfound fun name hname => (hnames name hname).toIsName, fun bytes hbytes => ?_⟩
  obtain ⟨name, hname, rfl⟩ := List.mem_map.1 (List.mem_of_getLast? hbytes)
  exact isDirectoryName_encode (hnames name hname).toIsName

/-- A tree with a directory whose name has a letter and a space that no name of a repository may have. -/
def worldTree : FileTree where
  entries := [(["srv"], .directory), (["srv", "wörld map"], .directory)]
  start := ["srv"]

/-- The directory is taken under another name. -/
theorem accepts_checkout_worldTree : worldTree.IsProper ∧
    worldTree.locate .target "wörld map".toList = .ok (.found ["srv", "wörld map"]) ∧
    worldTree.entry? ["srv", "wörld map"] = some .directory ∧
    ∃ target, (ofPath FileTree.files "wörld map").run worldTree = (.ok target, worldTree) ∧
      target = ⟨"local", "w-rld-map", "file:///srv/w%C3%B6rld%20map/"⟩ ∧
      ∀ (s : Store) (now : Instant), s.Accepts now target := by
  have hproper : worldTree.IsProper := by decide
  have hdirectory : worldTree.entry? ["srv", "wörld map"] = some .directory := by decide
  have hfound : worldTree.locate .target "wörld map".toList =
      .ok (.found ["srv", "wörld map"]) := by
    have hsteps : PathStep.ofPath "wörld map".toList = [.enter "wörld map"] := by decide
    rw [FileTree.locate_eq (by decide) (by decide) (by decide), hsteps]
    exact (FileTree.follow_enter rfl (by decide) hdirectory TreeEntry.directory_ne_link).trans
      (FileTree.follow.eq_1 ..)
  obtain ⟨hrun, hlast⟩ := accepts_checkout.1 hproper hfound hdirectory
  refine ⟨hproper, hfound, hdirectory, _, hrun, by decide +kernel, fun s now => ?_⟩
  exact (accepts_checkout.2 hlast (by decide +kernel) s now).2 (by decide +kernel)

/-- A tree with directories of one name, each in the one before, that paths start from the last of. -/
def nestedTree (name : String) (depth : Nat) : FileTree where
  entries := (List.range depth).map fun above => (List.replicate (above + 1) name, .directory)
  start := List.replicate depth name

/-- A path that stays there comes to the target of the last directory. -/
theorem run_ofPath_nestedTree {name : String} (hname : FileTree.IsEntryName name) {depth : Nat}
    (hdepth : depth ≠ 0) : (nestedTree name depth).IsProper ∧
      (nestedTree name depth).kind? "." = some .directory ∧
      (ofPath FileTree.files ".").run (nestedTree name depth) =
        (.ok (ofDirectory (List.replicate depth (Text.Utf8.encode name.toList))),
          nestedTree name depth) := by
  have hproper : (nestedTree name depth).IsProper := by
    constructor
    · rw [nestedTree, List.map_map]
      refine List.Nodup.map (fun above above' heq => ?_) List.nodup_range
      have hlength := congrArg List.length heq
      simpa using hlength
    · intro e he other hother
      obtain ⟨above, -, rfl⟩ := List.mem_map.1 he
      exact List.eq_of_mem_replicate hother ▸ hname
  have hdirectory : FileTree.entry? (nestedTree name depth) (List.replicate depth name) =
      some .directory := by
    obtain ⟨above, rfl⟩ := Nat.exists_eq_succ_of_ne_zero hdepth
    refine hproper.entry?_eq (List.mem_map.2 ⟨above, ?_, rfl⟩) (List.cons_ne_nil _ _)
    exact List.mem_range.2 above.lt_succ_self
  have hfound : (nestedTree name depth).locate .target ".".toList =
      .ok (.found (List.replicate depth name)) := by
    have hsteps : PathStep.ofPath ".".toList = [.stay] := by decide
    rw [FileTree.locate_eq (by decide) (by decide) (by decide), hsteps, FileTree.follow]
    exact (if_neg (not_not_intro hdirectory)).trans (FileTree.follow.eq_1 ..)
  have hkind : (nestedTree name depth).kind? "." = some .directory := by
    rw [FileTree.kind?, hfound]
    dsimp only
    rw [hdirectory]
  refine ⟨hproper, hkind, ?_⟩
  have hrun := run_ofPath hfound fun other hother =>
    (List.eq_of_mem_replicate hother ▸ hname.toIsName)
  rwa [bytesOf, List.map_replicate] at hrun

/-- A name of 85 characters with all the bytes that a name may have. -/
def wideName : String :=
  String.ofList (List.replicate 85 '中')

/-- A name of 101 characters. -/
def longName : String :=
  String.ofList (List.replicate 101 'a')

theorem toList_wideName : wideName.toList = List.replicate 85 '中' :=
  String.toList_ofList

theorem toList_longName : longName.toList = List.replicate 101 'a' :=
  String.toList_ofList

/-- A character of no meaning in paths is a name however often it is repeated, within the bound. -/
theorem isEntryName_replicate {c : Char} {n : Nat} (hn : n ≠ 0) (hc : c ∉ ['/', '.', '\x00'])
    (hshort : (String.ofList (List.replicate n c)).utf8ByteSize ≤ maxNameSize) :
    FileTree.IsEntryName (String.ofList (List.replicate n c)) := by
  have honly : ∀ d ∈ ['/', '.', '\x00'], d ∉ (String.ofList (List.replicate n c)).toList := by
    intro d hd hmem
    rw [String.toList_ofList] at hmem
    exact hc (List.eq_of_mem_replicate hmem ▸ hd)
  have hdot := honly '.' (by decide)
  refine ⟨⟨?_, honly '/' (by decide), ?_, ?_⟩, honly '\x00' (by decide), hshort⟩
  · rw [String.toList_ofList]
    exact mt (List.replicate_eq_nil_iff c).1 hn
  · exact fun heq => hdot (heq ▸ List.mem_cons_self)
  · exact fun heq => hdot (heq ▸ List.mem_cons_self)

theorem isEntryName_wideName : FileTree.IsEntryName wideName :=
  isEntryName_replicate (by decide) (by decide) (by decide +kernel)

theorem isEntryName_longName : FileTree.IsEntryName longName :=
  isEntryName_replicate (by decide) (by decide) (by decide +kernel)

/-- The lengths for a directory below others of its name. -/
theorem length_ofDirectory_replicate (name : List Char) {depth : Nat} (hdepth : depth ≠ 0) :
    (ofDirectory (List.replicate depth (Text.Utf8.encode name))).name.length = name.length ∧
      (ofDirectory (List.replicate depth (Text.Utf8.encode name))).url.length =
        8 + depth * ((Url.percentEncodeBytes Url.outsideName (Text.Utf8.encode name)).length + 1) := by
  constructor
  · have hlast : (List.replicate depth (Text.Utf8.encode name)).getLast? =
        some (Text.Utf8.encode name) := by rw [List.getLast?_replicate, if_neg hdepth]
    rw [name_ofDirectory, Validation.length_repositoryName, hlast, Option.bind_some,
      Text.Utf8.decode?_encode, Option.getD_some]
  · rw [ofDirectory, String.length_ofList, Url.length_ofDirectory, List.length_flatMap,
      List.map_replicate, List.sum_replicate_nat, List.length_cons]

/-- Three directories down, the URL may be too long though all names are short enough, and a name alone
may be too long: the targets of both directories are refused. -/
theorem refuses_nestedTree :
    ((nestedTree wideName 3).IsProper ∧ (nestedTree wideName 3).kind? "." = some .directory ∧
      ∃ target, (ofPath FileTree.files ".").run (nestedTree wideName 3) =
          (.ok target, nestedTree wideName 3) ∧
        target.name.length = 85 ∧ target.url.length = 2306 ∧
        ∀ (s : Store) (now : Instant), ¬ s.Accepts now target) ∧
    (nestedTree longName 1).IsProper ∧ (nestedTree longName 1).kind? "." = some .directory ∧
      ∃ target, (ofPath FileTree.files ".").run (nestedTree longName 1) =
          (.ok target, nestedTree longName 1) ∧
        target.name.length = 101 ∧ ∀ (s : Store) (now : Instant), ¬ s.Accepts now target := by
  have hmax : Validation.maxUrl = 2048 ∧ Validation.maxName = 100 := ⟨rfl, rfl⟩
  constructor
  · obtain ⟨hproper, hkind, hrun⟩ := run_ofPath_nestedTree isEntryName_wideName (Nat.succ_ne_zero 2)
    obtain ⟨hname, hurl⟩ := length_ofDirectory_replicate wideName.toList (Nat.succ_ne_zero 2)
    have hbytes : (Text.Utf8.encode (List.replicate 85 '中')).length = 255 := by decide +kernel
    have hencoded : (Url.percentEncodeBytes Url.outsideName
        (Text.Utf8.encode wideName.toList)).length = 765 := by
      rw [toList_wideName, Url.length_percentEncodeBytes (by decide +kernel), hbytes]
    have hchars : wideName.toList.length = 85 := by rw [toList_wideName, List.length_replicate]
    rw [hencoded] at hurl
    rw [hchars] at hname
    refine ⟨hproper, hkind, _, hrun, hname, by omega, fun s now haccepts => ?_⟩
    have hshort := (url_ofDirectory_ok_iff _).1 (accepts_iff.1 haccepts).2.2
    omega
  · obtain ⟨hproper, hkind, hrun⟩ := run_ofPath_nestedTree isEntryName_longName Nat.one_ne_zero
    have hname := (length_ofDirectory_replicate longName.toList Nat.one_ne_zero).1
    have hchars : longName.toList.length = 101 := by rw [toList_longName, List.length_replicate]
    rw [hchars] at hname
    refine ⟨hproper, hkind, _, hrun, hname, fun s now haccepts => ?_⟩
    have hshort := (Validation.name_ok_iff.1 (accepts_iff.1 haccepts).2.1).1.short
    omega

end Target

end SourceAudit
