import SourceAudit.Identity
import SourceAudit.Proofs.Store.Identity
import SourceAudit.Proofs.Url.Target
import SourceAudit.Target

/-!
# Spellings of a repository

A repository is referred to by its owner and name, by a path on the code host or by a URL, perhaps with
the mark of a clone URL, with the path of something in it, with slashes at the end and with white space
around. All of these are read as the same reference (`RepositoryRef.parse_text`), among them what the
reference is written as, so that a repository has one identity however it is spelled.

Not every owner and name can be spelled in all of these ways: an owner that is called as the host is
taken for it, and a name that ends in the mark loses it. `RepositoryRef.IsPlain` leaves these out.
-/

namespace SourceAudit

open Text

/-! ### Plain segments -/

namespace Url

variable {c : Char} {s : List Char} {segments : List (List Char)}

/-- A segment that is read as it is: it has characters of names only, and does not stand for the
directory itself or for the one above. It may be empty. -/
structure IsPlain (segment : List Char) : Prop where
  chars : ∀ c ∈ segment, Validation.isNameChar c = true
  dot : segment ≠ ['.']
  dots : segment ≠ ['.', '.']

instance (segment : List Char) : Decidable (IsPlain segment) :=
  decidable_of_iff (_ ∧ _ ∧ _) ⟨fun h => ⟨h.1, h.2.1, h.2.2⟩, fun h => ⟨h.chars, h.dot, h.dots⟩⟩

/-- A character of a name stands for itself in a URL, and is no white space. -/
theorem plain_of_isNameChar (h : Validation.isNameChar c = true) :
    isBlank c = false ∧ 0x20 < c.toNat ∧ c ∉ [':', '/', '%'] ∧ c ∉ misread ∧
      outsidePath c = false :=
  Validation.forall_isNameChar (P := fun c => isBlank c = false ∧ 0x20 < c.toNat ∧
    c ∉ [':', '/', '%'] ∧ c ∉ misread ∧ outsidePath c = false) (by decide +kernel) h

theorem IsPlain.slash (h : IsPlain s) : '/' ∉ s :=
  fun hmem => (plain_of_isNameChar (h.chars '/' hmem)).2.2.1 (by decide)

/-- The characters of plain segments with slashes in between. -/
theorem plain_of_mem_joinWith (h : ∀ s ∈ segments, IsPlain s) (hc : c ∈ joinWith ['/'] segments) :
    isBlank c = false ∧ 0x20 < c.toNat ∧ c ≠ ':' := by
  rcases mem_of_mem_joinWith hc with hc | ⟨s, hs, hc⟩
  · rw [List.mem_singleton.1 hc]
    decide
  · obtain ⟨hblank, hlow, hmarks, -⟩ := plain_of_isNameChar ((h s hs).chars c hc)
    exact ⟨hblank, hlow, fun heq => hmarks (heq ▸ List.mem_cons_self)⟩

/-- A plain segment is kept as a name. -/
theorem IsPlain.not_dot (h : IsPlain s) : isDot s = false ∧ isDoubleDot s = false := by
  have hescape : ¬ hasEscape s = true := by
    rw [hasEscape_of_not_mem fun hmem => ?_]
    · exact Bool.false_ne_true
    · exact (plain_of_isNameChar (h.chars '%' hmem)).2.2.1 (by decide)
  exact ⟨eq_false_of_ne_true fun hdot => hescape (hasEscape_of_isDot hdot h.dot),
    eq_false_of_ne_true fun hdots => hescape (hasEscape_of_isDoubleDot hdots h.dots)⟩

/-- Plain segments behind the address of a server are the path of the URL. -/
theorem parse_joinWith (server : Server) (hne : segments ≠ []) (h : ∀ s ∈ segments, IsPlain s) :
    parse (server.text ++ '/' :: joinWith ['/'] segments) =
      .ok { server.url with segments, query := none, fragment := none } := by
  have htidy : tidy (joinWith ['/'] segments) = joinWith ['/'] segments :=
    tidy_eq_self fun c hc => (plain_of_mem_joinWith h hc).2.1
  have hplain : ∀ s ∈ segments, ∀ c ∈ s, c ∉ misread :=
    fun s hs c hc => (plain_of_isNameChar ((h s hs).chars c hc)).2.2.2.1
  have hcut : cutWhere isSlash (joinWith ['/'] segments) = segments := by
    refine cutWhere_joinWith hne rfl fun s hs c hc => ?_
    have hslash : c ≠ '/' := fun heq => (h s hs).slash (heq ▸ hc)
    have hback : c ≠ '\\' := fun heq => hplain s hs c hc (heq ▸ by decide)
    simp [isSlash, hslash, hback]
  have hsegments : pathSegments ('/' :: joinWith ['/'] segments) = segments := by
    have hencode : segments.map (percentEncode outsidePath) = segments :=
      (List.map_congr_left fun s hs => percentEncode_eq_self fun c hc =>
        (plain_of_isNameChar ((h s hs).chars c hc)).2.2.2.2).trans (List.map_id' segments)
    have hslash : pathSegments ('/' :: joinWith ['/'] segments) =
        settleDots [] (cutWhere isSlash (joinWith ['/'] segments)) := rfl
    rw [hslash, hcut, settleDots_eq (fun s hs => (h s hs).not_dot), hencode]
    rfl
  have hknown : parseKnown (server.text ++ '/' :: joinWith ['/'] segments) =
      .ok { server.url with segments, query := none, fragment := none } := by
    rw [server.parseKnown_append, htidy, withTail, cutTail_slash, cutTail_joinWith hplain]
    dsimp only
    rw [hsegments]
    rfl
  have hweb : ({ server.url with segments, query := none, fragment := none } : Url).isWeb = true :=
    server.isWeb_url
  rw [parse, hknown]
  dsimp only
  rw [hweb]
  rfl

end Url

/-! ### Spellings -/

namespace RepositoryRef

/-- What may stand in front of owner and name. -/
def fronts : List String :=
  ["", "github.com/", "http://github.com/", "https://github.com/"]

/-- The mark of a clone URL. -/
def cloneMark : List Char := ".git".toList

/-- The owner and the name can be spelled in all ways. -/
structure IsPlain (r : RepositoryRef) : Prop where
  owner : Url.IsPlain r.owner.toList
  owner_ne : r.owner ≠ ""
  owner_host : r.owner ≠ "github.com"
  name : Url.IsPlain r.name.toList
  name_ne : r.name ≠ ""
  name_mark : ¬ cloneMark <:+ r.name.toList

instance (r : RepositoryRef) : Decidable r.IsPlain :=
  decidable_of_iff (_ ∧ _ ∧ _ ∧ _ ∧ _ ∧ _)
    ⟨fun h => ⟨h.1, h.2.1, h.2.2.1, h.2.2.2.1, h.2.2.2.2.1, h.2.2.2.2.2⟩,
      fun h => ⟨h.owner, h.owner_ne, h.owner_host, h.name, h.name_ne, h.name_mark⟩⟩

/-- A way to spell a reference: what stands in front of owner and name, how often the mark of a clone URL
stands behind the name, the segments and the number of slashes that follow, and the white space around
it all. -/
structure Spelling where
  before : List Char
  front : String
  marks : Nat
  more : List (List Char)
  slashes : Nat
  after : List Char
  before_blank : ∀ c ∈ before, isBlank c = true
  front_mem : front ∈ fronts
  more_plain : ∀ s ∈ more, Url.IsPlain s
  after_blank : ∀ c ∈ after, isBlank c = true

namespace Spelling

/-- The name with its marks. -/
def marked (w : Spelling) (r : RepositoryRef) : List Char :=
  r.name.toList ++ (List.replicate w.marks cloneMark).flatten

/-- The segments of the path. Slashes at its end are empty segments. -/
def segments (w : Spelling) (r : RepositoryRef) : List (List Char) :=
  r.owner.toList :: w.marked r :: (w.more ++ List.replicate w.slashes [])

/-- The spelling without the white space around it. -/
def core (w : Spelling) (r : RepositoryRef) : List Char :=
  w.front.toList ++ joinWith ['/'] (w.segments r)

/-- The spelling of a reference. -/
def text (w : Spelling) (r : RepositoryRef) : String :=
  String.ofList (w.before ++ w.core r ++ w.after)

end Spelling

/-! ### Marks -/

variable {r : RepositoryRef} {s mark owner name rest : List Char} {more : List (List Char)}

/-- Marks are dropped from a text that does not end in one itself. -/
theorem dropMarks_append (h : ¬ mark <:+ s) {n fuel : Nat} (hfuel : n ≤ fuel) :
    dropMarks mark fuel (s ++ (List.replicate n mark).flatten) = s := by
  induction n generalizing fuel with
  | zero =>
    rw [List.replicate_zero, List.flatten_nil, List.append_nil]
    cases fuel with
    | zero => rfl
    | succ fuel => rw [dropMarks, if_neg (by rwa [List.isSuffixOf_iff_suffix])]
  | succ n ih =>
    obtain ⟨fuel, rfl⟩ := Nat.exists_eq_add_of_le' (Nat.lt_of_lt_of_le n.succ_pos hfuel)
    have hlast : s ++ (List.replicate (n + 1) mark).flatten =
        s ++ (List.replicate n mark).flatten ++ mark := by
      rw [List.replicate_succ', List.flatten_append, List.flatten_singleton, List.append_assoc]
    have hsuffix : mark.isSuffixOf (s ++ (List.replicate n mark).flatten ++ mark) = true :=
      List.isSuffixOf_iff_suffix.2 (List.suffix_append _ _)
    rw [hlast, dropMarks, if_pos hsuffix, List.length_append, Nat.add_sub_cancel, List.take_left',
      ih (by omega)]
    rfl

/-- A name that does not end in the mark of a clone URL is what is left when it has such marks. -/
theorem withoutCloneMark_append (h : ¬ cloneMark <:+ name) (n : Nat) :
    withoutCloneMark (name ++ (List.replicate n cloneMark).flatten) = name := by
  have hmark : cloneMark.length = 4 := by decide
  refine dropMarks_append h ?_
  rw [List.length_append, List.length_flatten, List.map_replicate, List.sum_replicate_nat, hmark]
  omega

/-! ### The segments of a spelling -/

theorem IsPlain.owner_toList_ne (h : r.IsPlain) : r.owner.toList ≠ [] :=
  mt String.toList_eq_nil_iff.1 h.owner_ne

theorem IsPlain.name_toList_ne (h : r.IsPlain) : r.name.toList ≠ [] :=
  mt String.toList_eq_nil_iff.1 h.name_ne

namespace Spelling

/-- A plain name stays plain with marks behind it. -/
theorem isPlain_marked (w : Spelling) (h : r.IsPlain) : Url.IsPlain (w.marked r) := by
  have hmark : ∀ c ∈ cloneMark, Validation.isNameChar c = true := by decide
  -- A mark has letters, so a name with marks is no dots.
  have hdots : ∀ dots : List Char, (∀ c ∈ dots, c = '.') → w.marked r = dots →
      r.name.toList = dots := by
    rintro dots hdots rfl
    cases hmarks : w.marks with
    | zero => rw [marked, hmarks, List.replicate_zero, List.flatten_nil, List.append_nil]
    | succ n =>
      have hmem : 'g' ∈ w.marked r := List.mem_append_right _
        (List.mem_flatten.2 ⟨cloneMark, by simp [hmarks], by decide⟩)
      exact absurd (hdots 'g' hmem) (by decide)
  refine ⟨fun c hc => ?_, fun heq => h.name.dot (hdots _ (by simp) heq),
    fun heq => h.name.dots (hdots _ (by simp) heq)⟩
  rcases List.mem_append.1 hc with hc | hc
  · exact h.name.chars c hc
  · obtain ⟨m, hm, hc⟩ := List.mem_flatten.1 hc
    exact hmark c (List.eq_of_mem_replicate hm ▸ hc)

/-- All segments of a spelling are plain. -/
theorem isPlain_of_mem_segments (w : Spelling) (h : r.IsPlain) (hs : s ∈ w.segments r) :
    Url.IsPlain s := by
  have hempty : Url.IsPlain [] := by decide
  rcases List.mem_cons.1 hs with rfl | hs
  · exact h.owner
  rcases List.mem_cons.1 hs with rfl | hs
  · exact w.isPlain_marked h
  rcases List.mem_append.1 hs with hs | hs
  · exact w.more_plain s hs
  · rwa [List.eq_of_mem_replicate hs]

end Spelling

/-! ### Paths -/

/-- Owner and name are the first two pieces of a path, whatever follows. -/
theorem exists_cut_trimWhile (howner : owner ≠ []) (hname : name ≠ []) (hslash : '/' ∉ owner)
    (hslash' : '/' ∉ name) (more : List (List Char)) :
    ∃ rest, cut '/' (trimWhile (· == '/') (joinWith ['/'] (owner :: name :: more))) =
      owner :: name :: rest := by
  have hkeep : ∀ c ∈ owner, (c == '/') = false := beq_eq_false_of_not_mem hslash
  have hkeep' : ∀ c ∈ name, (c == '/') = false := beq_eq_false_of_not_mem hslash'
  have hpath : joinWith ['/'] (owner :: name :: more) =
      owner ++ '/' :: (name ++ more.flatMap ('/' :: ·)) := by
    have hcons : (owner :: name :: more).flatMap ('/' :: ·) =
        '/' :: joinWith ['/'] (owner :: name :: more) :=
      flatMap_cons_eq (List.cons_ne_nil owner (name :: more))
    simpa using hcons.symm
  -- The owner starts the text, and the name is in front of all that is dropped at the end.
  have hstart : (owner ++ '/' :: (name ++ more.flatMap ('/' :: ·))).dropWhile (· == '/') =
      owner ++ '/' :: (name ++ more.flatMap ('/' :: ·)) := by
    obtain ⟨c, owner, rfl⟩ := List.exists_cons_of_ne_nil howner
    exact List.dropWhile_cons_of_neg (by simp [hkeep c List.mem_cons_self])
  have hend : dropEndWhile (· == '/') ('/' :: (name ++ more.flatMap ('/' :: ·))) =
      '/' :: (name ++ dropEndWhile (· == '/') (more.flatMap ('/' :: ·))) := by
    obtain ⟨c, hc⟩ := List.exists_mem_of_ne_nil name hname
    have hsome : ∃ c ∈ name ++ more.flatMap ('/' :: ·), (c == '/') = false :=
      ⟨c, List.mem_append_left _ hc, hkeep' c hc⟩
    have hdrop := dropEndWhile_append_of_exists hsome ['/']
    rw [dropEndWhile_append_of_neg hkeep'] at hdrop
    exact hdrop
  rw [hpath, trimWhile, hstart, dropEndWhile_append_of_neg hkeep, hend, cut_append_cons hslash]
  -- What is left behind the name starts with a slash.
  obtain ⟨dropped, hdropped⟩ := dropEndWhile_prefix (· == '/') (more.flatMap ('/' :: ·))
  rcases hrest : dropEndWhile (· == '/') (more.flatMap ('/' :: ·)) with _ | ⟨c, rest⟩
  · rw [List.append_nil, cut_eq_singleton hslash']
    exact ⟨[], rfl⟩
  · rw [hrest] at hdropped
    obtain rfl : c = '/' := by
      rcases more with _ | ⟨segment, more⟩
      · cases hdropped
      · exact (List.cons.inj hdropped).1
    rw [cut_append_cons hslash']
    exact ⟨_, rfl⟩

/-- A text whose path is cut into owner, name and more is a reference to these. -/
theorem parse_eq {text : String} {path : List Char} (h : r.IsPlain)
    (hpath : pathOf? (trim text.toList) = some path)
    (hcut : cut '/' (trimWhile (· == '/') path) = r.owner.toList :: name :: more)
    (hmarks : withoutCloneMark name = r.name.toList) : parse text = .ok r := by
  have howner : r.owner.toList.isEmpty = false := by simpa using h.owner_ne
  have hname : r.name.toList.isEmpty = false := by simpa using h.name_ne
  have hparse : parse? text = some r := by
    rw [parse?, hpath]
    dsimp only
    rw [hcut]
    dsimp only
    rw [hmarks, howner, hname]
    simp
  rw [parse, hparse]

/-- The code host as a server. -/
def host (secure : Bool) : Url.Server where
  scheme := (if secure then "https" else "http").toList
  authority := "github.com".toList
  url :=
    { scheme := if secure then "https" else "http", host := "github.com".toList, segments := [[]] }
  web := by
    cases secure
    · exact .inl rfl
    · exact .inr rfl
  plain := by decide
  read := by cases secure <;> decide +kernel

/-- Only a URL has a colon. -/
theorem pathOf?_eq (h : ':' ∉ s) : pathOf? s =
    some (if "github.com/".toList.isPrefixOf s then s.drop "github.com/".toList.length else s) := by
  have hscheme : ∀ scheme : List Char, ':' ∈ scheme → scheme.isPrefixOf s = false := by
    intro scheme hmem
    refine eq_false_of_ne_true fun hprefix => h ?_
    exact (List.isPrefixOf_iff_prefix.1 hprefix).subset hmem
  rw [pathOf?, hscheme _ (by decide), hscheme _ (by decide)]
  rfl

/-- A path starts with the host only if the owner is called so. -/
theorem isPrefixOf_host_eq_false (hslash : '/' ∉ owner) (hhost : owner ≠ "github.com".toList) :
    "github.com/".toList.isPrefixOf (owner ++ '/' :: rest) = false := by
  refine eq_false_of_ne_true fun hprefix => hhost ?_
  obtain ⟨t, ht⟩ := List.isPrefixOf_iff_prefix.1 hprefix
  have hfirst : ∀ s t : List Char, '/' ∉ s → (s ++ '/' :: t).takeWhile (· ≠ '/') = s := by
    intro s t hs
    have hall : ∀ c ∈ s, decide (c ≠ '/') = true :=
      fun c hc => decide_eq_true fun heq => hs (heq ▸ hc)
    rw [List.takeWhile_append_of_pos hall]
    simp
  calc owner = (owner ++ '/' :: rest).takeWhile (· ≠ '/') := (hfirst owner rest hslash).symm
    _ = ("github.com".toList ++ '/' :: t).takeWhile (· ≠ '/') := by rw [← ht]; rfl
    _ = "github.com".toList := hfirst _ t (by decide)

/-- The path of a spelling is that of its segments, behind a slash if it is that of a URL. -/
theorem exists_pathOf?_core (h : r.IsPlain) (w : Spelling) :
    ∃ path, pathOf? (w.core r) = some path ∧
      trimWhile (· == '/') path = trimWhile (· == '/') (joinWith ['/'] (w.segments r)) := by
  have hplain : ∀ s ∈ w.segments r, Url.IsPlain s := fun s hs => w.isPlain_of_mem_segments h hs
  have hhost : r.owner.toList ≠ "github.com".toList := fun heq =>
    h.owner_host (String.toList_injective heq)
  have hcolon : ':' ∉ joinWith ['/'] (w.segments r) := fun hmem =>
    (Url.plain_of_mem_joinWith hplain hmem).2.2 rfl
  have hurl : ∀ secure, (host secure).text ++ '/' :: joinWith ['/'] (w.segments r) = w.core r →
      ∃ path, pathOf? (w.core r) = some path ∧
        trimWhile (· == '/') path = trimWhile (· == '/') (joinWith ['/'] (w.segments r)) := by
    intro secure hcore
    have hscheme : ("http://".toList.isPrefixOf (w.core r) ||
        "https://".toList.isPrefixOf (w.core r)) = true := by
      rw [← hcore]
      cases secure <;> rfl
    have hne : w.segments r ≠ [] := List.cons_ne_nil _ _
    rw [pathOf?, if_pos hscheme, ← hcore, Url.parse_joinWith (host secure) hne hplain]
    exact ⟨_, rfl, rfl⟩
  have hfront := w.front_mem
  simp only [fronts, List.mem_cons, List.not_mem_nil, or_false] at hfront
  rcases hfront with hfront | hfront | hfront | hfront
  · have hcore : w.core r = joinWith ['/'] (w.segments r) := by
      rw [Spelling.core, hfront]
      rfl
    rw [hcore, pathOf?_eq hcolon, Spelling.segments, joinWith_cons_cons, List.singleton_append,
      isPrefixOf_host_eq_false h.owner.slash hhost, if_neg Bool.false_ne_true]
    exact ⟨_, rfl, rfl⟩
  · have hcore : w.core r = "github.com/".toList ++ joinWith ['/'] (w.segments r) := by
      rw [Spelling.core, hfront]
    have hprefix : "github.com/".toList.isPrefixOf
        ("github.com/".toList ++ joinWith ['/'] (w.segments r)) = true :=
      List.isPrefixOf_iff_prefix.2 (List.prefix_append _ _)
    rw [hcore, pathOf?_eq, if_pos hprefix, List.drop_left]
    · exact ⟨_, rfl, rfl⟩
    · exact List.not_mem_append (by decide) hcolon
  · refine hurl false ?_
    rw [Spelling.core, hfront]
    rfl
  · refine hurl true ?_
    rw [Spelling.core, hfront]
    rfl

/-- White space around a spelling is trimmed. -/
theorem trim_text (h : r.IsPlain) (w : Spelling) : trim (w.text r).toList = w.core r := by
  have hplain : ∀ s ∈ w.segments r, Url.IsPlain s := fun s hs => w.isPlain_of_mem_segments h hs
  have hfronts : ∀ front ∈ fronts, ∀ c ∈ front.toList, isBlank c = false := by decide +kernel
  have hblank : ∀ c ∈ w.core r, isBlank c = false := by
    intro c hc
    rcases List.mem_append.1 hc with hc | hc
    · exact hfronts w.front w.front_mem c hc
    · exact (Url.plain_of_mem_joinWith hplain hc).1
  have hne : w.core r ≠ [] := by
    rw [Spelling.core, Spelling.segments, joinWith_cons_cons]
    simp
  have hstart : (w.before ++ (w.core r ++ w.after)).dropWhile isBlank =
      (w.core r ++ w.after).dropWhile isBlank := List.dropWhile_append_of_pos w.before_blank
  have hend : dropEndWhile isBlank w.after = [] := dropEndWhile_eq_nil_iff.2 w.after_blank
  rw [Spelling.text, String.toList_ofList, List.append_assoc, ← trim_dropWhile, hstart,
    trim_dropWhile, trim_append_of_not_blank hblank hne, hend, List.append_nil]

/-- A reference is read from each of its spellings. -/
theorem parse_spelling (h : r.IsPlain) (w : Spelling) : parse (w.text r) = .ok r := by
  have hne : w.marked r ≠ [] := List.append_ne_nil_of_left_ne_nil h.name_toList_ne _
  obtain ⟨path, hpath, htrim⟩ := exists_pathOf?_core h w
  obtain ⟨rest, hcut⟩ := exists_cut_trimWhile h.owner_toList_ne hne h.owner.slash
    (w.isPlain_marked h).slash (w.more ++ List.replicate w.slashes [])
  refine parse_eq h ?_ (htrim ▸ hcut) (withoutCloneMark_append h.name_mark w.marks)
  rw [trim_text h, hpath]

/-- Owner and name behind what may stand in front of them are a spelling. -/
theorem exists_text_eq {front : String} (hfront : front ∈ fronts) (r : RepositoryRef) :
    ∃ w : Spelling, w.text r = front ++ r.fullName := by
  have hblank : ∀ c ∈ ([] : List Char), isBlank c = true := List.forall_mem_nil _
  refine ⟨⟨[], front, 0, [], 0, [], hblank, hfront, List.forall_mem_nil _, hblank⟩,
    String.toList_injective ?_⟩
  simp [Spelling.text, Spelling.core, Spelling.segments, Spelling.marked, fullName, joinWith]

/-- The identity of a repository that is referred to. -/
def identity (r : RepositoryRef) : String :=
  repositoryId r.owner r.name

/-- A reference whose owner and name are plain is read from each of its spellings, and from what it is
written as with and without the host, so that all of these lead to one identity. -/
theorem parse_text (h : r.IsPlain) : (∀ w : Spelling, parse (w.text r) = .ok r) ∧
    parse r.fullName = .ok r ∧ parse r.url = .ok r ∧
    ∀ w : Spelling, (parse (w.text r)).map identity = .ok (repositoryId r.owner r.name) := by
  have hweb : "https://github.com/" ∈ fronts := by decide
  refine ⟨parse_spelling h, ?_, ?_, fun w => ?_⟩
  · obtain ⟨w, htext⟩ := exists_text_eq List.mem_cons_self r
    have hbare := parse_spelling h w
    rwa [htext, String.empty_append] at hbare
  · obtain ⟨w, htext⟩ := exists_text_eq hweb r
    have hbare := parse_spelling h w
    rwa [htext] at hbare
  · rw [parse_spelling h w]
    rfl

/-- A spelling with something of everything. -/
def lavish : Spelling where
  before := "\t ".toList
  front := "http://github.com/"
  marks := 2
  more := ["tree".toList, [], "v1.0".toList]
  slashes := 2
  after := ['\n']
  before_blank := by decide
  front_mem := by decide
  more_plain := by decide
  after_blank := by decide

/-- It is read as the reference all the same. -/
theorem parse_text_lavish : (⟨"octo-cat", "hello.world"⟩ : RepositoryRef).IsPlain ∧
    parse "\t http://github.com/octo-cat/hello.world.git.git/tree//v1.0//\n" =
      .ok ⟨"octo-cat", "hello.world"⟩ ∧
    parse "octo-cat/hello.world" = .ok ⟨"octo-cat", "hello.world"⟩ ∧
    parse "https://github.com/octo-cat/hello.world" = .ok ⟨"octo-cat", "hello.world"⟩ := by
  have hplain : (⟨"octo-cat", "hello.world"⟩ : RepositoryRef).IsPlain := by decide +kernel
  have htext : lavish.text ⟨"octo-cat", "hello.world"⟩ =
      "\t http://github.com/octo-cat/hello.world.git.git/tree//v1.0//\n" := by decide +kernel
  obtain ⟨hspelling, hname, hurl, -⟩ := parse_text hplain
  exact ⟨hplain, htext ▸ hspelling lavish, hname, hurl⟩

end RepositoryRef

end SourceAudit
