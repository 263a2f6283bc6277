import SourceAudit.Proofs.Url.Segments

/-!
# The names in the path of a URL

A text that is put together of names with slashes is read as a URL by rules of its own: spaces and
control characters at its end are dropped, tabs and line breaks anywhere, a number sign and a
question mark end the path, a backslash is a slash, and a percent sign with two digits is another
byte. The path has the names that were put together exactly if there is nothing of this in them
(`bytesOf_segmentsOf_iff`). What the reading does beyond that only takes bytes away: a path with the
names has as many bytes as they have, so that nothing of the text was dropped, cut or replaced.
-/

namespace SourceAudit.Url

open Text Utf8

variable {names names' : List (List Char)} {s : List Char} {c : Char}

/-- A name of a path: it has characters, none of them a slash, and is not the name of the directory
itself or of the one above. -/
structure IsName (name : List Char) : Prop where
  ne_nil : name ≠ []
  slash : '/' ∉ name
  dot : name ≠ ['.']
  dots : name ≠ ['.', '.']

instance (name : List Char) : Decidable (IsName name) :=
  decidable_of_iff (_ ∧ _ ∧ _ ∧ _)
    ⟨fun h => ⟨h.1, h.2.1, h.2.2.1, h.2.2.2⟩, fun h => ⟨h.ne_nil, h.slash, h.dot, h.dots⟩⟩

/-- A name has no slash at its end. -/
theorem IsName.getLast?_ne {name : List Char} (h : IsName name) : name.getLast? ≠ some '/' :=
  fun hlast => h.slash (List.mem_of_getLast? hlast)

/-- The characters that are not read as characters of a name. -/
def misread : List Char := ['\\', '?', '#', '\t', '\n', '\r']

/-- The names stand in the text of a URL as they are. -/
structure Verbatim (names : List (List Char)) : Prop where
  plain : ∀ name ∈ names, ∀ c ∈ name, c ∉ misread
  unescaped : ∀ name ∈ names, hasEscape name = false
  untrimmed : ∀ name ∈ names.getLast?, ∀ c ∈ name.getLast?, 0x20 < c.toNat

instance (names : List (List Char)) : Decidable (Verbatim names) :=
  decidable_of_iff (_ ∧ _ ∧ _)
    ⟨fun h => ⟨h.1, h.2.1, h.2.2⟩, fun h => ⟨h.plain, h.unescaped, h.untrimmed⟩⟩

/-- The end of the text of a URL without what is dropped in it. -/
def tidy (s : List Char) : List Char :=
  (dropEndWhile (fun c => c.toNat ≤ 0x20) s).filter fun c => c ∉ ['\t', '\n', '\r']

/-- Nothing is dropped from a text without spaces and control characters. -/
theorem tidy_eq_self (h : ∀ c ∈ s, 0x20 < c.toNat) : tidy s = s := by
  have hall : ∀ c ∈ s, decide (c.toNat ≤ 0x20) = false := fun c hc => by simpa using h c hc
  rw [tidy, dropEndWhile_eq_self hall]
  refine List.filter_eq_self.2 fun c hc => decide_eq_true fun hmem => ?_
  have hle : ∀ d ∈ ['\t', '\n', '\r'], d.toNat ≤ 0x20 := by decide
  exact Nat.not_le.2 (h c hc) (hle c hmem)

/-- The segments of the path of a URL whose text ends in a slash and this text. -/
def segmentsOf (s : List Char) : List (List Char) :=
  pathSegments (cutTail ('/' :: tidy s)).1

/-- Names stand verbatim after others that do. -/
theorem Verbatim.append (h : Verbatim names) (h' : Verbatim names') :
    Verbatim (names ++ names') where
  plain := List.forall_mem_append.2 ⟨h.plain, h'.plain⟩
  unescaped := List.forall_mem_append.2 ⟨h.unescaped, h'.unescaped⟩
  untrimmed := by
    intro name hname
    rw [List.getLast?_append] at hname
    rcases hlast : names'.getLast? with _ | last
    · rw [hlast] at hname
      exact h.untrimmed name hname
    · rw [hlast] at hname
      exact h'.untrimmed name (hlast ▸ hname)

/-- The last of names that stand verbatim do. -/
theorem Verbatim.of_append (h : Verbatim (names ++ names')) : Verbatim names' where
  plain := (List.forall_mem_append.1 h.plain).2
  unescaped := (List.forall_mem_append.1 h.unescaped).2
  untrimmed := by
    intro name hname
    refine h.untrimmed name ?_
    rw [List.getLast?_append, hname]
    rfl

/-! ### Texts of names -/

/-- What is not a slash in a text of names is what the names are together. -/
theorem filter_joinWith (hne : names ≠ []) (h : ∀ name ∈ names, '/' ∉ name) :
    (joinWith ['/'] names).filter (fun c => !(c == '/')) = names.flatten := by
  have hcut : cutWhere (· == '/') (joinWith ['/'] names) = names := cut_joinWith hne h
  have hflatten := flatten_cutFrom (p := (· == '/')) [] (joinWith ['/'] names)
  rw [← cutWhere, hcut] at hflatten
  exact hflatten.symm

/-- A slash in front belongs to the path. -/
theorem cutTail_slash (s : List Char) :
    cutTail ('/' :: s) = ('/' :: (cutTail s).1, (cutTail s).2) := by
  simp [cutTail]

/-- The path starts after the slash that the text goes on with. -/
theorem segmentsOf_eq (s : List Char) :
    segmentsOf s = settleDots [] (cutWhere isSlash (cutTail (tidy s)).1) := by
  rw [segmentsOf, cutTail_slash]
  rfl

theorem segmentsOf_ne_nil (s : List Char) : segmentsOf s ≠ [] := by
  rw [segmentsOf_eq]
  exact settleDots_ne_nil (cutFrom_ne_nil _ _ _) []

/-- There are no slashes and no question marks in the segments of a path. -/
theorem not_mem_of_mem_segmentsOf (s : List Char) : ∀ t ∈ segmentsOf s, '/' ∉ t ∧ '?' ∉ t := by
  rw [segmentsOf_eq]
  refine not_mem_of_mem_settleDots (fun t ht hslash => ?_) fun t ht => absurd ht List.not_mem_nil
  rcases mem_of_mem_cutFrom ht hslash with hmem | ⟨-, hmem⟩
  · cases hmem
  · exact absurd hmem (by decide)

/-- What is left of the text for the path. -/
theorem cutTail_tidy_sublist (s : List Char) :
    (cutTail (tidy s)).1.Sublist (dropEndWhile (fun c => c.toNat ≤ 0x20) s) := by
  have hpath : (cutTail (tidy s)).1.Sublist (tidy s) :=
    (List.takeWhile_sublist _).trans (List.takeWhile_sublist _)
  exact hpath.trans List.filter_sublist

/-- A character that is left for the path, and is not cut at, is read as one of a name. -/
theorem not_mem_misread (hc : c ∈ (cutTail (tidy s)).1) (hslash : isSlash c = false) :
    c ∉ misread := by
  have hmark : c ≠ '?' := by simpa using List.mem_takeWhile_imp hc
  have hfront := (List.takeWhile_sublist _).subset hc
  have hsign : c ≠ '#' := by simpa using List.mem_takeWhile_imp hfront
  have htidy := (List.mem_filter.1 ((List.takeWhile_sublist _).subset hfront)).2
  simp only [isSlash, Bool.or_eq_false_iff, decide_eq_false_iff_not] at hslash
  simpa [misread, hmark, hsign, hslash.2] using htidy

section

variable (hne : names ≠ []) (h : ∀ name ∈ names, IsName name)

include hne h

/-- The last character of names. -/
theorem exists_concat : ∃ front name c, names = front ++ [name ++ [c]] := by
  obtain ⟨front, last, rfl⟩ := (List.eq_nil_or_concat names).resolve_left hne
  have hlast := (h last (by simp)).ne_nil
  obtain ⟨name, c, rfl⟩ := (List.eq_nil_or_concat last).resolve_left hlast
  exact ⟨front, name, c, by simp⟩

/-- The first character of names. -/
theorem exists_cons : ∃ c s, joinWith ['/'] names = c :: s ∧ c ≠ '/' := by
  obtain ⟨first, rest, rfl⟩ := List.exists_cons_of_ne_nil hne
  have hfirst := h first List.mem_cons_self
  obtain ⟨c, first, rfl⟩ := List.exists_cons_of_ne_nil hfirst.ne_nil
  have hc : c ≠ '/' := fun heq => hfirst.slash (heq ▸ List.mem_cons_self)
  rcases rest with _ | ⟨v, rest⟩
  · exact ⟨c, first, joinWith_singleton _ _, hc⟩
  · exact ⟨c, _, joinWith_cons_cons _ _ _ _, hc⟩

/-- A text of names has no slash at its ends. -/
theorem trimWhile_joinWith :
    trimWhile (· == '/') (joinWith ['/'] names) = joinWith ['/'] names := by
  have hstart : (joinWith ['/'] names).dropWhile (· == '/') = joinWith ['/'] names := by
    obtain ⟨c, s, hs, hc⟩ := exists_cons hne h
    rw [hs, List.dropWhile_cons_of_neg (by simpa using hc)]
  obtain ⟨front, name, c, rfl⟩ := exists_concat hne h
  have hc : c ≠ '/' := fun heq => (h (name ++ [c]) (by simp)).slash (by simp [heq])
  rw [trimWhile, hstart, joinWith_concat_append, dropEndWhile_concat (by simpa using hc)]

omit hne h in
/-- The characters of a text of names are slashes and those of the names. -/
theorem eq_slash_or_not_mem_misread (hplain : ∀ name ∈ names, ∀ c ∈ name, c ∉ misread) :
    ∀ c ∈ joinWith ['/'] names, c = '/' ∨ c ∉ misread := by
  intro c hc
  rcases mem_of_mem_joinWith hc with hslash | ⟨name, hname, hc⟩
  · exact .inl (List.mem_singleton.1 hslash)
  · exact .inr (hplain name hname c hc)

/-- Nothing is dropped in a text of names if there is no character in them that is dropped, and none
at the end. -/
theorem tidy_joinWith (hplain : ∀ name ∈ names, ∀ c ∈ name, c ∉ misread)
    (hend : ∀ name ∈ names.getLast?, ∀ c ∈ name.getLast?, 0x20 < c.toNat) :
    tidy (joinWith ['/'] names) = joinWith ['/'] names := by
  have htrim : dropEndWhile (fun c => c.toNat ≤ 0x20) (joinWith ['/'] names) =
      joinWith ['/'] names := by
    obtain ⟨front, name, c, rfl⟩ := exists_concat hne h
    have hc : 0x20 < c.toNat := hend (name ++ [c]) (by simp) c (by simp)
    rw [joinWith_concat_append, dropEndWhile_concat (by simpa using hc)]
  rw [tidy, htrim, List.filter_eq_self]
  intro c hc
  refine decide_eq_true fun hdropped => ?_
  rcases eq_slash_or_not_mem_misread hplain c hc with rfl | hmis
  · exact absurd hdropped (by decide)
  · exact hmis ((by decide : ∀ d ∈ ['\t', '\n', '\r'], d ∈ misread) c hdropped)

omit hne h in
/-- All of it is path if no character in the names ends the path. -/
theorem cutTail_joinWith (hplain : ∀ name ∈ names, ∀ c ∈ name, c ∉ misread) :
    cutTail (joinWith ['/'] names) = (joinWith ['/'] names, none, none) := by
  have hmark : ∀ d ∈ ['#', '?'], ∀ c ∈ joinWith ['/'] names, decide (c ≠ d) = true := by
    intro d hd c hc
    refine decide_eq_true ?_
    rintro rfl
    rcases eq_slash_or_not_mem_misread hplain c hc with rfl | hmis
    · exact absurd hd (by decide)
    · exact hmis ((by decide : ∀ d ∈ ['#', '?'], d ∈ misread) c hd)
  rw [cutTail, List.takeWhile_eq_self_iff.2 (hmark '#' (by decide)),
    List.takeWhile_eq_self_iff.2 (hmark '?' (by decide)),
    List.dropWhile_eq_nil_iff.2 (hmark '#' (by decide)),
    List.dropWhile_eq_nil_iff.2 (hmark '?' (by decide))]

/-- The path is cut into the names then. -/
theorem cutWhere_joinWith_names (hplain : ∀ name ∈ names, ∀ c ∈ name, c ∉ misread)
    (hend : ∀ name ∈ names.getLast?, ∀ c ∈ name.getLast?, 0x20 < c.toNat) :
    cutWhere isSlash (cutTail (tidy (joinWith ['/'] names))).1 = names := by
  rw [tidy_joinWith hne h hplain hend, cutTail_joinWith hplain]
  refine cutWhere_joinWith hne rfl fun name hname c hc => ?_
  have hslash : c ≠ '/' := fun heq => (h name hname).slash (heq ▸ hc)
  have hback : c ≠ '\\' := fun heq => hplain name hname c hc (heq ▸ by decide)
  simp [isSlash, hslash, hback]

/-- Names that stand as they are are the segments of the path. -/
theorem segmentsOf_joinWith (hv : Verbatim names) :
    segmentsOf (joinWith ['/'] names) = names.map (percentEncode outsidePath) := by
  rw [segmentsOf_eq, cutWhere_joinWith_names hne h hv.plain hv.untrimmed]
  refine settleDots_eq (fun name hname => ?_) []
  have hescape := hv.unescaped name hname
  have hname := h name hname
  constructor
  · by_contra hdot
    rw [Bool.not_eq_false] at hdot
    exact absurd (hasEscape_of_isDot hdot hname.dot) (by simp [hescape])
  · by_contra hdots
    rw [Bool.not_eq_false] at hdots
    exact absurd (hasEscape_of_isDoubleDot hdots hname.dots) (by simp [hescape])

/-- A path that is read as names has all their characters, and none of its own segments stands for
anything else than it says. -/
theorem filter_eq_of_bytesOf
    (hread : bytesOf (segmentsOf (joinWith ['/'] names)) = names.map encode) :
    ((cutTail (tidy (joinWith ['/'] names))).1.filter fun c => !isSlash c) = names.flatten ∧
      ∀ s ∈ cutWhere isSlash (cutTail (tidy (joinWith ['/'] names))).1, hasEscape s = false := by
  have hnames := filter_joinWith hne fun name hname => (h name hname).slash
  generalize joinWith ['/'] names = x at *
  have hcut : (cutWhere isSlash (cutTail (tidy x)).1).flatten =
      (cutTail (tidy x)).1.filter fun c => !isSlash c := flatten_cutFrom [] _
  have hweight : weight (segmentsOf x) = (encode names.flatten).length := by
    rw [weight, hread, encode_flatten]
  obtain ⟨hle, hkept⟩ := weight_settleDots [] (cutWhere isSlash (cutTail (tidy x)).1)
  rw [← segmentsOf_eq, hweight, hcut] at hle hkept
  have hzero : weight [] = 0 := rfl
  -- What is left has no more characters than the names, but as many bytes.
  have hsub : ((cutTail (tidy x)).1.filter fun c => !isSlash c).Sublist names.flatten := by
    have hpath := (cutTail_tidy_sublist x).trans (dropEndWhile_sublist _ x)
    rw [← hnames]
    refine (List.monotone_filter_right _ fun c hc => ?_).trans (hpath.filter _)
    simp only [isSlash, Bool.not_eq_true', Bool.or_eq_false_iff, decide_eq_false_iff_not] at hc
    simp [hc.1]
  have heq := eq_of_sublist_of_length_le hsub (by omega)
  exact ⟨heq, fun s hs => (hkept (by rw [heq, hzero, Nat.zero_add]) s hs).2.2⟩

/-- Nothing is dropped at the end of a text that has all characters of the names still. -/
theorem untrimmed_of_sublist
    (hsub : names.flatten.Sublist (dropEndWhile (fun c => c.toNat ≤ 0x20) (joinWith ['/'] names))) :
    ∀ name ∈ names.getLast?, ∀ c ∈ name.getLast?, 0x20 < c.toNat := by
  have hnames := filter_joinWith hne fun name hname => (h name hname).slash
  obtain ⟨front, name, c, rfl⟩ := exists_concat hne h
  suffices hc : 0x20 < c.toNat by simpa using hc
  by_contra hc
  have hslash : ∀ w ∈ front ++ [name], '/' ∉ w := by
    intro w hw
    rcases List.mem_append.1 hw with hw | hw
    · exact (h w (List.mem_append_left _ hw)).slash
    · rw [List.mem_singleton.1 hw]
      exact fun hmem => (h (name ++ [c]) (by simp)).slash (List.mem_append_left _ hmem)
  -- Without the last character, the text has one character less outside slashes.
  have hshort := filter_joinWith (by simp) hslash
  rw [joinWith_concat_append, dropEndWhile_append (by simpa using hc)] at hsub
  have hself : ((front ++ [name ++ [c]]).flatten.filter fun c => !(c == '/')) =
      (front ++ [name ++ [c]]).flatten := by
    rw [← hnames, List.filter_filter]
    simp only [Bool.and_self]
  have hle := ((hsub.trans (dropEndWhile_sublist _ _)).filter fun c => !(c == '/')).length_le
  rw [hself, hshort, List.flatten_append, List.flatten_append, List.flatten_singleton,
    List.flatten_singleton, List.length_append, List.length_append, List.length_append,
    List.length_singleton] at hle
  omega

/-- Names that are read back stand as they are. -/
theorem verbatim_of_bytesOf
    (hread : bytesOf (segmentsOf (joinWith ['/'] names)) = names.map encode) : Verbatim names := by
  obtain ⟨hfilter, hescape⟩ := filter_eq_of_bytesOf hne h hread
  have hplain : ∀ name ∈ names, ∀ c ∈ name, c ∉ misread := by
    intro name hname c hc
    have hmem : c ∈ names.flatten := List.mem_flatten_of_mem hname hc
    rw [← hfilter, List.mem_filter, Bool.not_eq_true'] at hmem
    exact not_mem_misread hmem.1 hmem.2
  have hend := untrimmed_of_sublist hne h
    (hfilter ▸ List.filter_sublist.trans (cutTail_tidy_sublist _))
  refine ⟨hplain, ?_, hend⟩
  rwa [cutWhere_joinWith_names hne h hplain hend] at hescape

end

/-- The path of a URL that ends in a text of names has these names exactly if they stand in it as
they are. -/
theorem bytesOf_segmentsOf_iff (hne : names ≠ []) (h : ∀ name ∈ names, IsName name) :
    bytesOf (segmentsOf (joinWith ['/'] names)) = names.map encode ↔ Verbatim names := by
  refine ⟨verbatim_of_bytesOf hne h, fun hv => ?_⟩
  rw [segmentsOf_joinWith hne h hv, bytesOf, List.map_map]
  refine List.map_congr_left fun name hname => ?_
  have hescape := hv.unescaped name hname
  exact (percentDecodeBytes_outsidePath name).trans (percentDecodeBytes_encode hescape)

end SourceAudit.Url
