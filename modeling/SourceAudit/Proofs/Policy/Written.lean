import SourceAudit.Proofs.Policy.Parse
import SourceAudit.Proofs.Text.Ascii

/-!
# Manifests that are written

A manifest is written as requirements, denials, options, comments and blank lines, in any order and
with any white space around them, each line with a line feed or a carriage return and a line feed at
its end. A requirement is the name of a package with anything behind it that does not go on with the
name; a denial is a negation keyword in any letter case, a name, and a comment if there is one.

What is written is read back (`Policy.parse_written`): the allowed packages are those that are
required, the forbidden ones those that are denied, all by their normal forms. A keyword is looked for
in the lower case of a line, which has other lengths than the line and letters from outside ASCII; that
it is found exactly where the line has it is `ManifestItem.afterNegation_append` and
`ManifestItem.afterNegation_eq_none`.
-/

namespace SourceAudit

open Text

/-- A negation keyword in any letter case. -/
def IsNegation (keyword : List Char) : Prop :=
  keyword.map asciiLower ∈ negationKeywords

instance (keyword : List Char) : Decidable (IsNegation keyword) :=
  inferInstanceAs (Decidable (_ ∈ _))

/-- A requirement: the name of a package, and what follows it on the line. -/
structure Requirement where
  name : List Char
  suffix : List Char
  name_ne_nil : name ≠ []
  isPackageChar_of_mem : ∀ c ∈ name, isPackageChar c = true
  not_option : name.head? ≠ some '-'
  suffix_apart : ∀ c ∈ suffix.head?, isPackageChar c = false
  one_line : '\n' ∉ suffix
  /-- The line does not start with a keyword, in whatever letter case. -/
  no_keyword : ∀ k ∈ negationKeywords, ¬ k <+: (name ++ suffix).map asciiLower

/-- A denial: a keyword, the name of a package, and a comment. -/
structure Denial where
  keyword : List Char
  name : List Char
  comment : Option (List Char)
  isNegation : IsNegation keyword
  not_blank : ∃ c ∈ name, isBlank c = false
  no_comment : '#' ∉ name
  one_line : '\n' ∉ name ∧ ∀ text ∈ comment, '\n' ∉ text

/-- A line of a manifest. -/
inductive WrittenLine where
  | requirement (r : Requirement)
  | denial (d : Denial)
  | option (text : List Char) (one_line : '\n' ∉ text)
  | comment (text : List Char) (one_line : '\n' ∉ text)
  | blank

namespace WrittenLine

/-- The text of a line, without the white space around it. -/
def text : WrittenLine → List Char
  | requirement r => r.name ++ r.suffix
  | denial d => d.keyword ++ (d.name ++ (d.comment.map ('#' :: ·)).getD [])
  | option text _ => '-' :: text
  | comment text _ => '#' :: text
  | blank => []

/-- The normal form of the package that a line requires. -/
def required? : WrittenLine → Option String
  | requirement r => some (normalizeName (String.ofList r.name))
  | _ => none

/-- The normal form of the package that a line denies. -/
def denied? : WrittenLine → Option String
  | denial d => some (normalizeName (String.ofList d.name))
  | _ => none

end WrittenLine

/-- A line with white space around it. -/
structure LaidLine where
  before : List Char
  line : WrittenLine
  after : List Char
  blank_before : ∀ c ∈ before, isBlank c = true
  blank_after : ∀ c ∈ after, isBlank c = true

/-- The text of a line with the white space around it. -/
def LaidLine.text (l : LaidLine) : List Char :=
  l.before ++ (l.line.text ++ l.after)

/-- What ends a line. -/
inductive LineEnd where
  | feed
  | returnFeed

/-- The characters that end a line. -/
def LineEnd.text : LineEnd → List Char
  | feed => ['\n']
  | returnFeed => ['\r', '\n']

/-- A manifest that is written: lines with their ends, and at last a line that may lack its own. -/
structure WrittenManifest where
  ended : List (LaidLine × LineEnd)
  last : Option LaidLine

namespace WrittenManifest

/-- The lines of a written manifest. -/
def lines (m : WrittenManifest) : List WrittenLine :=
  m.ended.map (·.1.line) ++ m.last.toList.map (·.line)

/-- The text of a written manifest. -/
def text (m : WrittenManifest) : List Char :=
  m.ended.flatMap (fun l => l.1.text ++ l.2.text) ++ m.last.toList.flatMap LaidLine.text

end WrittenManifest

/-- A text of ASCII has as many bytes as characters. -/
theorem dropBytes_append {k : List Char} (hk : ∀ c ∈ k, c.toNat < 128) (s : List Char) :
    dropBytes k.length (k ++ s) = some s := by
  induction k with
  | nil => exact dropBytes.eq_1 s
  | cons c rest ih =>
    have hsize : c.utf8Size = 1 :=
      forall_ascii (P := fun c => c.utf8Size = 1) (by decide) (hk c List.mem_cons_self)
    rw [List.length_cons, List.cons_append, dropBytes, if_pos (by omega), hsize,
      Nat.add_sub_cancel, ih fun d hd => hk d (List.mem_cons_of_mem c hd)]

namespace ManifestItem

variable {keyword line name suffix : List Char}

/-! ### Negation keywords -/

/-- The keywords are ASCII, and there are no letters in them that others become in lower case. -/
theorem forall_mem_negationKeywords : ∀ k ∈ negationKeywords,
    (∀ d ∈ k, d.toNat < 128 ∧ d ≠ 'k') ∧ k.getLast? ≠ some 'i' := by
  decide

/-- No keyword starts with another. -/
theorem eq_of_negationKeywords : ∀ k ∈ negationKeywords, ∀ k' ∈ negationKeywords,
    k <+: k' → k = k' := by
  decide

/-- A line that does not start with a keyword, in whatever letter case, is no denial. -/
theorem afterNegation_eq_none (h : ∀ k ∈ negationKeywords, ¬ k <+: line.map asciiLower) :
    afterNegation line = none := by
  have hfind : negationKeywords.find? (fun k => k.isPrefixOf (lower line)) = none := by
    rw [List.find?_eq_none]
    intro k hk
    obtain ⟨hchars, hend⟩ := forall_mem_negationKeywords k hk
    rw [List.isPrefixOf_iff_prefix, prefix_lower_iff hchars hend]
    exact h k hk
  rw [afterNegation, hfind]

/-- A line that starts with a keyword, in whatever letter case, denies what follows it. -/
theorem afterNegation_append (h : IsNegation keyword) (rest : List Char) :
    afterNegation (keyword ++ rest) = some (trim rest) := by
  obtain ⟨hchars, hend⟩ := forall_mem_negationKeywords _ h
  have hascii : ∀ c ∈ keyword, c.toNat < 128 := fun c hc =>
    toNat_lt_of_asciiLower (hchars _ (List.mem_map_of_mem hc)).1
  have hprefix : keyword.map asciiLower <+: (keyword ++ rest).map asciiLower := by
    rw [List.map_append]
    exact List.prefix_append _ _
  -- The keyword that is found is this one, since none starts with another.
  have hfind : negationKeywords.find? (fun k => k.isPrefixOf (lower (keyword ++ rest))) =
      some (keyword.map asciiLower) := by
    rcases hfound : negationKeywords.find? (fun k => k.isPrefixOf (lower (keyword ++ rest))) with _ | k
    · have hnone := List.find?_eq_none.1 hfound _ h
      rw [List.isPrefixOf_iff_prefix, prefix_lower_iff hchars hend] at hnone
      exact absurd hprefix hnone
    · have hk := List.mem_of_find?_eq_some hfound
      obtain ⟨hchars', hend'⟩ := forall_mem_negationKeywords k hk
      have hprefix' := List.find?_some hfound
      rw [List.isPrefixOf_iff_prefix, prefix_lower_iff hchars' hend'] at hprefix'
      have heq : k = keyword.map asciiLower := by
        rcases List.prefix_or_prefix_of_prefix hprefix' hprefix with hle | hle
        · exact eq_of_negationKeywords _ hk _ h hle
        · exact (eq_of_negationKeywords _ h _ hk hle).symm
      rw [hfound, heq]
  rw [afterNegation, hfind]
  dsimp only
  rw [List.length_map, dropBytes_append hascii, Option.map_some]

/-! ### The lines one by one -/

theorem isBlank_of_isPackageChar {c : Char} (h : isPackageChar c = true) : isBlank c = false := by
  have hascii : c.toNat < 128 := by
    simp only [isPackageChar, Bool.or_eq_true, beq_iff_eq] at h
    rcases h with ((h | rfl) | rfl) | rfl
    · exact toNat_lt_of_isAlphanum h
    · decide
    · decide
    · decide
  have hall : ∀ n < 128, isPackageChar (Char.ofNat n) = true → isBlank (Char.ofNat n) = false := by
    decide
  exact forall_ascii (P := fun c => isPackageChar c = true → isBlank c = false) hall hascii h

/-- A requirement allows the package that it names. -/
theorem parse?_requirement (r : Requirement) :
    parse? (r.name ++ r.suffix) = some (.allow (normalizeName (String.ofList r.name))) := by
  have hblank : ∀ c ∈ r.name, isBlank c = false := fun c hc =>
    isBlank_of_isPackageChar (r.isPackageChar_of_mem c hc)
  obtain ⟨more, hmore⟩ := dropEndWhile_prefix isBlank r.suffix
  have hafter : afterNegation (r.name ++ dropEndWhile isBlank r.suffix) = none := by
    refine afterNegation_eq_none fun k hk hstart => r.no_keyword k hk (hstart.trans ?_)
    exact List.IsPrefix.map asciiLower ⟨more, by rw [List.append_assoc, hmore]⟩
  -- The name ends where the suffix starts.
  have hname : (r.name ++ dropEndWhile isBlank r.suffix).takeWhile isPackageChar = r.name := by
    rw [List.takeWhile_append_of_pos r.isPackageChar_of_mem]
    rcases hsuffix : dropEndWhile isBlank r.suffix with _ | ⟨c, rest⟩
    · exact List.append_nil _
    · have hc := r.suffix_apart c (by rw [← hmore, hsuffix]; rfl)
      rw [List.takeWhile_cons_of_neg (by simp [hc]), List.append_nil]
  obtain ⟨c, rest, hcons⟩ := List.exists_cons_of_ne_nil r.name_ne_nil
  have hc : c ≠ '#' := by
    rintro rfl
    exact absurd (r.isPackageChar_of_mem '#' (hcons ▸ List.mem_cons_self)) (by decide)
  have hoption := r.not_option
  rw [parse?, trim_append_of_not_blank hblank r.name_ne_nil, hafter, hname, normalizeName,
    String.toList_ofList]
  simp_all

/-- A keyword starts with a letter. -/
theorem exists_cons_of_isNegation (h : IsNegation keyword) :
    ∃ c rest, keyword = c :: rest ∧ c.isAlpha = true := by
  have hkeywords : ∀ k ∈ negationKeywords, ∀ d ∈ k.head?, d.toNat < 128 ∧ d.isAlpha = true := by
    decide
  have hne : ∀ k ∈ negationKeywords, k ≠ [] := by decide
  rcases keyword with _ | ⟨c, rest⟩
  · exact absurd rfl (hne _ h)
  · obtain ⟨hascii, halpha⟩ := hkeywords _ h (asciiLower c) rfl
    have hall : ∀ n < 128,
        (asciiLower (Char.ofNat n)).isAlpha = true → (Char.ofNat n).isAlpha = true := by decide
    exact ⟨c, rest, rfl, forall_ascii
      (P := fun c => (asciiLower c).isAlpha = true → c.isAlpha = true) hall
      (toNat_lt_of_asciiLower hascii) halpha⟩

theorem isBlank_of_isAlpha {c : Char} (h : c.isAlpha = true) : isBlank c = false :=
  isBlank_of_isPackageChar (by simp [isPackageChar, isAsciiAlphanumeric, Char.isAlphanum, h])

/-- The name of a denial is what stands before its comment. -/
theorem trim_takeWhile_comment (hname : '#' ∉ name) (comment : Option (List Char)) :
    trim ((trim (name ++ (comment.map ('#' :: ·)).getD [])).takeWhile (· != '#')) = trim name := by
  have hkeep : ∀ c ∈ name, (c != '#') = true := fun c hc =>
    bne_iff_ne.2 fun heq => hname (heq ▸ hc)
  rcases comment with _ | text
  · have htrim : (trim name).takeWhile (· != '#') = trim name :=
      List.takeWhile_eq_self_iff.2 fun c hc => hkeep c (mem_of_mem_trim hc)
    rw [Option.map_none, Option.getD_none, List.append_nil, htrim, trim_trim]
  · have htake : (name.dropWhile isBlank ++ '#' :: dropEndWhile isBlank text).takeWhile (· != '#') =
        name.dropWhile isBlank := by
      rw [List.takeWhile_append_of_pos fun c hc =>
        hkeep c ((List.dropWhile_sublist isBlank).mem hc)]
      exact List.append_nil _
    rw [Option.map_some, Option.getD_some, trim_append_cons (by decide), htake, trim_dropWhile]

/-- A denial forbids the package that it names. -/
theorem parse?_denial (d : Denial) :
    parse? (d.keyword ++ (d.name ++ (d.comment.map ('#' :: ·)).getD [])) =
      some (.deny (normalizeName (String.ofList d.name))) := by
  generalize htail : (d.comment.map ('#' :: ·)).getD [] = tail
  have hblank : ∃ c ∈ d.name ++ tail, isBlank c = false := by
    obtain ⟨c, hmem, hc⟩ := d.not_blank
    exact ⟨c, List.mem_append_left _ hmem, hc⟩
  obtain ⟨c, rest, hkeyword, hc⟩ := exists_cons_of_isNegation d.isNegation
  -- The white space at the end of the keyword is not that of the line.
  have htrim : trim (d.keyword ++ (d.name ++ tail)) =
      d.keyword ++ dropEndWhile isBlank (d.name ++ tail) := by
    rw [hkeyword, List.cons_append, trim_cons (isBlank_of_isAlpha hc),
      dropEndWhile_append_of_exists hblank, List.cons_append]
  have hguard : ((d.keyword ++ dropEndWhile isBlank (d.name ++ tail)).isEmpty ||
      (d.keyword ++ dropEndWhile isBlank (d.name ++ tail)).head? == some '#') = false := by
    have hcomment : c ≠ '#' := by
      rintro rfl
      exact absurd hc (by decide)
    simpa [hkeyword] using hcomment
  have hname : trim ((trim (d.name ++ tail)).takeWhile (· != '#')) = trim d.name := by
    rw [← htail, trim_takeWhile_comment d.no_comment]
  have hne : (trim d.name).isEmpty = false := by
    simpa [trim_eq_nil_iff] using d.not_blank
  rw [parse?, htrim]
  dsimp only
  rw [hguard, afterNegation_append d.isNegation, trim_dropEndWhile hblank]
  dsimp only
  rw [hname, hne, normalizeName, String.toList_ofList, normalizeChars, normalizeChars, trim_trim]
  rfl

/-- An option says nothing. -/
theorem parse?_option (text : List Char) : parse? ('-' :: text) = none := by
  have hafter : afterNegation ('-' :: dropEndWhile isBlank text) = none := by
    have hkeywords : ∀ k ∈ negationKeywords, k.head? ≠ some (asciiLower '-') ∧ k ≠ [] := by decide
    refine afterNegation_eq_none fun k hk hprefix => ?_
    rw [List.map_cons] at hprefix
    rcases k with _ | ⟨c, rest⟩
    · exact (hkeywords _ hk).2 rfl
    · obtain ⟨rfl, -⟩ := List.cons_prefix_cons.1 hprefix
      exact (hkeywords _ hk).1 rfl
  rw [parse?, trim_cons (by decide)]
  dsimp only
  rw [hafter]
  rfl

/-- A comment says nothing. -/
theorem parse?_comment (text : List Char) : parse? ('#' :: text) = none := by
  rw [parse?, trim_cons (by decide)]
  rfl

/-- What a written line says. -/
def ofWritten? : WrittenLine → Option ManifestItem
  | .requirement r => some (.allow (normalizeName (String.ofList r.name)))
  | .denial d => some (.deny (normalizeName (String.ofList d.name)))
  | _ => none

/-- A line is read as it was written. -/
theorem parse?_text (line : WrittenLine) : parse? line.text = ofWritten? line := by
  cases line with
  | requirement r => exact parse?_requirement r
  | denial d => exact parse?_denial d
  | option text _ => exact parse?_option text
  | comment text _ => exact parse?_comment text
  | blank => rfl

/-- White space at the start of a line says nothing. -/
theorem parse?_blank_cons {c : Char} (hc : isBlank c = true) (line : List Char) :
    parse? (c :: line) = parse? line := by
  rw [← parse?_trim, trim_blank_cons hc, parse?_trim]

/-- White space at the end of a line says nothing. -/
theorem parse?_concat {c : Char} (hc : isBlank c = true) (line : List Char) :
    parse? (line ++ [c]) = parse? line := by
  rw [← parse?_trim, trim_concat hc, parse?_trim]

/-! ### The items of a text -/

/-- What the lines of a text say. -/
def itemsOf (s : List Char) : List ManifestItem :=
  (cut '\n' s).filterMap parse?

variable {s t : List Char} {c : Char}

/-- The lines before the end of a line and those after it are read on their own. -/
theorem itemsOf_append_cons (s t : List Char) :
    itemsOf (s ++ '\n' :: t) = itemsOf s ++ itemsOf t := by
  rw [itemsOf, cut, cutWhere, cutFrom_append (p := (· == '\n')) (beq_self_eq_true '\n'),
    List.filterMap_append]
  rfl

/-- A text without the end of a line is one line. -/
theorem itemsOf_of_notMem (h : '\n' ∉ s) : itemsOf s = (parse? s).toList := by
  rw [itemsOf, cut_eq_singleton h, List.filterMap_eq_flatMap_toList, List.flatMap_singleton]

/-- White space at the start of a text says nothing. -/
theorem itemsOf_blank_cons (hc : isBlank c = true) (s : List Char) :
    itemsOf (c :: s) = itemsOf s := by
  by_cases hline : c = '\n'
  · rw [hline]
    exact itemsOf_append_cons [] s
  · -- By induction on the text, whatever was read of the first line so far.
    have hfrom : ∀ piece, (cutFrom (· == '\n') (piece ++ [c]) s).filterMap parse? =
        (cutFrom (· == '\n') piece s).filterMap parse? := by
      have hpiece : ∀ piece : List Char,
          parse? (piece ++ [c]).reverse = parse? piece.reverse := by
        intro piece
        rw [List.reverse_append, List.reverse_singleton, List.singleton_append,
          parse?_blank_cons hc]
      induction s with
      | nil =>
        intro piece
        rw [cutFrom, cutFrom, List.filterMap_cons, List.filterMap_cons, hpiece]
      | cons d rest ih =>
        intro piece
        rw [cutFrom, cutFrom]
        split
        · rw [List.filterMap_cons, List.filterMap_cons, hpiece]
        · exact ih (d :: piece)
    have hfirst : cut '\n' (c :: s) = cutFrom (· == '\n') [c] s :=
      if_neg (by simpa using hline)
    rw [itemsOf, hfirst]
    exact hfrom []

/-- White space at the end of a text says nothing. -/
theorem itemsOf_concat (hc : isBlank c = true) (s : List Char) :
    itemsOf (s ++ [c]) = itemsOf s := by
  by_cases hline : c = '\n'
  · rw [hline, itemsOf_append_cons]
    exact List.append_nil _
  · have hfrom : ∀ piece, (cutFrom (· == '\n') piece (s ++ [c])).filterMap parse? =
        (cutFrom (· == '\n') piece s).filterMap parse? := by
      induction s with
      | nil =>
        intro piece
        have hpiece : cutFrom (· == '\n') piece [c] = [(c :: piece).reverse] :=
          if_neg (by simpa using hline)
        rw [List.nil_append, hpiece, cutFrom, List.filterMap_cons, List.filterMap_cons,
          List.reverse_cons, parse?_concat hc]
      | cons d rest ih =>
        intro piece
        rw [List.cons_append, cutFrom, cutFrom]
        split
        · rw [List.filterMap_cons, List.filterMap_cons, ih]
        · exact ih (d :: piece)
    exact hfrom []

theorem itemsOf_blank_append {before : List Char} (h : ∀ c ∈ before, isBlank c = true)
    (s : List Char) : itemsOf (before ++ s) = itemsOf s := by
  induction before with
  | nil => rfl
  | cons c rest ih =>
    obtain ⟨hc, hrest⟩ := List.forall_mem_cons.1 h
    rw [List.cons_append, itemsOf_blank_cons hc, ih hrest]

theorem itemsOf_append_blank {after : List Char} (h : ∀ c ∈ after, isBlank c = true)
    (s : List Char) : itemsOf (s ++ after) = itemsOf s := by
  induction after generalizing s with
  | nil => rw [List.append_nil]
  | cons c rest ih =>
    obtain ⟨hc, hrest⟩ := List.forall_mem_cons.1 h
    rw [List.append_cons, ih hrest, itemsOf_concat hc]

end ManifestItem

namespace WrittenLine

/-- A line has no end of a line in it. -/
theorem newline_notMem_text (line : WrittenLine) : '\n' ∉ line.text := by
  cases line with
  | requirement r =>
    have hname : '\n' ∉ r.name := fun h =>
      absurd (r.isPackageChar_of_mem _ h) (by decide)
    exact List.not_mem_append hname r.one_line
  | denial d =>
    have hkeywords : ∀ k ∈ negationKeywords, '\n' ∉ k := by decide
    have hkeyword : '\n' ∉ d.keyword := fun h =>
      hkeywords _ d.isNegation (List.mem_map_of_mem (f := asciiLower) h)
    have hcomment : '\n' ∉ (d.comment.map ('#' :: ·)).getD [] := by
      rcases hcomment : d.comment with _ | text
      · exact List.not_mem_nil
      · have htext := d.one_line.2 text hcomment
        simpa using htext
    exact List.not_mem_append hkeyword (List.not_mem_append d.one_line.1 hcomment)
  | option rest h => simpa [text] using h
  | comment rest h => simpa [text] using h
  | blank => exact List.not_mem_nil

end WrittenLine

namespace LaidLine

open ManifestItem

/-- A line says what it says without the white space around it. -/
theorem itemsOf_text (l : LaidLine) : itemsOf l.text = (ofWritten? l.line).toList := by
  rw [LaidLine.text, itemsOf_blank_append l.blank_before, itemsOf_append_blank l.blank_after,
    itemsOf_of_notMem l.line.newline_notMem_text, parse?_text]

/-- A line with its end is read on its own. -/
theorem itemsOf_append (l : LaidLine) (e : LineEnd) (rest : List Char) :
    itemsOf (l.text ++ e.text ++ rest) = (ofWritten? l.line).toList ++ itemsOf rest := by
  cases e with
  | feed => rw [LineEnd.text, List.append_assoc, List.singleton_append, itemsOf_append_cons,
      itemsOf_text]
  | returnFeed =>
    have hreturn : l.text ++ ['\r', '\n'] ++ rest = (l.text ++ ['\r']) ++ '\n' :: rest := by simp
    rw [LineEnd.text, hreturn, itemsOf_append_cons, itemsOf_concat (by decide), itemsOf_text]

end LaidLine

namespace WrittenManifest

open ManifestItem

/-- The text of a manifest says what its lines say. -/
theorem itemsOf_text (m : WrittenManifest) : itemsOf m.text = m.lines.filterMap ofWritten? := by
  obtain ⟨ended, last⟩ := m
  have hlast : itemsOf (last.toList.flatMap LaidLine.text) =
      (last.toList.map (·.line)).filterMap ofWritten? := by
    rcases last with _ | l
    · rfl
    · rw [Option.toList_some, List.flatMap_singleton, LaidLine.itemsOf_text, List.map_singleton,
        List.filterMap_eq_flatMap_toList, List.flatMap_singleton]
  rw [text, lines, List.filterMap_append, ← hlast]
  induction ended with
  | nil => rfl
  | cons l rest ih =>
    rw [List.flatMap_cons, List.append_assoc, LaidLine.itemsOf_append, ih, List.map_cons,
      List.filterMap_eq_flatMap_toList, List.filterMap_eq_flatMap_toList, List.flatMap_cons,
      List.append_assoc]

/-- The normal forms of the packages that are required. -/
def required (m : WrittenManifest) : List String :=
  m.lines.filterMap WrittenLine.required?

/-- The normal forms of the packages that are denied. -/
def denied (m : WrittenManifest) : List String :=
  m.lines.filterMap WrittenLine.denied?

theorem allow_mem_iff (m : WrittenManifest) {name : String} :
    .allow name ∈ m.lines.filterMap ofWritten? ↔ name ∈ m.required := by
  have hline : ∀ line : WrittenLine,
      ofWritten? line = some (.allow name) ↔ line.required? = some name := by
    intro line
    cases line <;> simp [ofWritten?, WrittenLine.required?]
  rw [required, List.mem_filterMap, List.mem_filterMap]
  simp only [hline]

theorem deny_mem_iff (m : WrittenManifest) {name : String} :
    .deny name ∈ m.lines.filterMap ofWritten? ↔ name ∈ m.denied := by
  have hline : ∀ line : WrittenLine,
      ofWritten? line = some (.deny name) ↔ line.denied? = some name := by
    intro line
    cases line <;> simp [ofWritten?, WrittenLine.denied?]
  rw [denied, List.mem_filterMap, List.mem_filterMap]
  simp only [hline]

end WrittenManifest

namespace Policy

/-- What the lines of a manifest say is what they say without the white space around them. -/
theorem filterMap_parse?_trim (lines : List Line) :
    ((lines.map trim).filter (!·.isEmpty)).filterMap ManifestItem.parse? =
      lines.filterMap ManifestItem.parse? := by
  induction lines with
  | nil => rfl
  | cons line rest ih =>
    rw [List.map_cons]
    rcases htrim : trim line with _ | ⟨c, more⟩
    · rw [List.filter_cons_of_neg (by simp), ih,
        List.filterMap_cons_none (ManifestItem.parse?_of_trim_eq_nil htrim)]
    · rw [List.filter_cons_of_pos (by simp), List.filterMap_cons, List.filterMap_cons, ih,
        ← htrim, ManifestItem.parse?_trim]

/-- A manifest is read line by line, between line feeds. -/
theorem parse_eq_ofItems (manifest : String) :
    parse manifest = ofItems (ManifestItem.itemsOf manifest.toList) := by
  have hlines : (lines manifest.toList).filterMap ManifestItem.parse? =
      ManifestItem.itemsOf manifest.toList := by
    rw [← filterMap_parse?_trim, ← manifestLines, manifestLines_eq, filterMap_parse?_trim,
      ManifestItem.itemsOf]
  rw [parse, hlines]

/-- What is written is read back: the packages that are required are allowed, those that are denied
are forbidden, and nothing else is. -/
theorem parse_written (m : WrittenManifest) :
    parse (String.ofList m.text) = ⟨NameSet.ofList m.required, NameSet.ofList m.denied⟩ := by
  have hparse : parse (String.ofList m.text) =
      ofItems (m.lines.filterMap ManifestItem.ofWritten?) := by
    rw [parse_eq_ofItems, String.toList_ofList, m.itemsOf_text]
  have hallowed : (parse (String.ofList m.text)).allowed = NameSet.ofList m.required :=
    NameSet.ext fun name => by
      rw [hparse, mem_allowed_ofItems, m.allow_mem_iff, NameSet.mem_ofList]
  have hforbidden : (parse (String.ofList m.text)).forbidden = NameSet.ofList m.denied :=
    NameSet.ext fun name => by
      rw [hparse, mem_forbidden_ofItems, m.deny_mem_iff, NameSet.mem_ofList]
  rw [← hallowed, ← hforbidden]

/-- A manifest with a line of each kind: names that start like a keyword, keywords in capitals, and
line ends of both kinds. -/
def mixedManifest : WrittenManifest where
  ended :=
    [(⟨[], .requirement ⟨"nose".toList, ">=1 # no x".toList, by decide, by decide, by decide,
        by decide, by decide, by decide⟩, [], by decide, by decide⟩, .feed),
     (⟨"\t".toList, .denial ⟨"NO ".toList, " Zope.Interface ".toList, some " no # flask".toList,
        by decide, by decide, by decide, by decide⟩, " ".toList, by decide, by decide⟩, .returnFeed),
     (⟨[], .option "r no.txt".toList (by decide), [], by decide, by decide⟩, .feed),
     (⟨" ".toList, .comment " forbidden y".toList (by decide), [], by decide, by decide⟩, .feed),
     (⟨[], .blank, "\x0c".toList, by decide, by decide⟩, .feed)]
  last := some ⟨[], .denial ⟨"ForBidden ".toList, "keras".toList, none, by decide, by decide,
    by decide, by decide⟩, [], by decide, by decide⟩

/-- It allows the one package, and forbids the other two. -/
theorem parse_written_mixed :
    parse ("nose>=1 # no x\n\tNO  Zope.Interface # no # flask \r\n-r no.txt\n # forbidden y\n" ++
      "\x0c\nForBidden keras") = ⟨NameSet.ofList ["nose"], NameSet.ofList ["zope-interface", "keras"]⟩ :=
  parse_written mixedManifest

end Policy

end SourceAudit
