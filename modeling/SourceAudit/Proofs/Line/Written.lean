import SourceAudit.Proofs.Line.Import
import SourceAudit.Proofs.Pattern.Preferred
import SourceAudit.Proofs.Text.Pieces

/-!
# Python imports that are written

A Python import on one line is `import` with dotted names, or `from` with an origin and `import` with
names. A name may have an `as` clause. White space stands wherever it may, parentheses and a last comma
may stand around the names of the second form, and a comment at the end. Names are runs of word
characters, as all identifiers of ASCII are.

The clauses of either form are cut apart at their commas, and the name of each is its first word,
whatever white space and parentheses stand around it (`Clauses.filterMap_head?_words`,
`FromImport.clauseNames_tail`).
-/

namespace SourceAudit.Import

open Text

/-! ### Layouts -/

/-- White space that does not end the line. -/
def IsGap (c : Char) : Prop :=
  isBlank c = true ∧ c ≠ '\n'

instance (c : Char) : Decidable (IsGap c) :=
  inferInstanceAs (Decidable (_ ∧ _))

/-- White space within a line. -/
structure Spacing where
  text : List Char
  isGap : ∀ c ∈ text, IsGap c

/-- No white space. -/
def Spacing.empty : Spacing :=
  ⟨[], by simp⟩

theorem Spacing.blank (gap : Spacing) : ∀ c ∈ gap.text, isBlank c = true :=
  fun c hc => (gap.isGap c hc).1

/-- White space within a line, at least one character. -/
structure Space extends Spacing where
  ne_nil : text ≠ []

/-- One space. -/
def Space.single : Space :=
  ⟨⟨" ".toList, by decide⟩, by decide⟩

/-- A name is made of word characters. -/
def IsName (s : List Char) : Prop :=
  s ≠ [] ∧ ∀ c ∈ s, isWord c = true

instance (s : List Char) : Decidable (IsName s) :=
  inferInstanceAs (Decidable (_ ∧ _))

/-- A dotted name is made of names. -/
def IsDotted (s : List Char) : Prop :=
  ∃ names, names ≠ [] ∧ (∀ n ∈ names, IsName n) ∧ s = joinWith ['.'] names

/-- What is imported from a module is a name, or all names. -/
def IsImported (s : List Char) : Prop :=
  IsName s ∨ s = ['*']

/-- An `as` clause. -/
structure Alias where
  before : Space
  after : Space
  name : List Char
  isName : IsName name

/-- The text of an `as` clause. -/
def Alias.text (a : Alias) : List Char :=
  a.before.text ++ "as".toList ++ a.after.text ++ a.name

/-- A clause of an import: what is imported, and its alias. -/
structure Clause (IsItem : List Char → Prop) where
  name : List Char
  isItem : IsItem name
  alias? : Option Alias

/-- The text of a clause behind its name. -/
def Clause.aliasText {IsItem : List Char → Prop} (c : Clause IsItem) : List Char :=
  c.alias?.elim [] Alias.text

/-- The text of a clause. -/
def Clause.text {IsItem : List Char → Prop} (c : Clause IsItem) : List Char :=
  c.name ++ c.aliasText

/-- Clauses with commas between them, and white space before and after each comma. -/
structure Clauses (IsItem : List Char → Prop) where
  first : Clause IsItem
  others : List (Spacing × Spacing × Clause IsItem)

namespace Clauses

variable {IsItem : List Char → Prop}

/-- The text of the clauses but the first. -/
def otherText (others : List (Spacing × Spacing × Clause IsItem)) : List Char :=
  others.flatMap fun o => o.1.text ++ [','] ++ o.2.1.text ++ o.2.2.text

/-- The text of the clauses. -/
def text (cs : Clauses IsItem) : List Char :=
  cs.first.text ++ otherText cs.others

/-- What is imported, without aliases. -/
def names (cs : Clauses IsItem) : List (List Char) :=
  cs.first.name :: cs.others.map (·.2.2.name)

end Clauses

/-- What stands at the end of a line: white space, and a comment. -/
structure Ending where
  gap : Spacing
  comment : Option (List Char)
  one_line : ∀ text ∈ comment, '\n' ∉ text

/-- The text of the comment. -/
def Ending.commentText (e : Ending) : List Char :=
  e.comment.elim [] ('#' :: ·)

/-- An `import` of dotted names. -/
structure PlainImport where
  indent : Spacing
  space : Space
  clauses : Clauses IsDotted
  ending : Ending

/-- The text of an `import`. -/
def PlainImport.text (i : PlainImport) : List Char :=
  i.indent.text ++ "import".toList ++ i.space.text ++ i.clauses.text ++ i.ending.gap.text ++
    i.ending.commentText

/-- What stands before the names of an `import` from somewhere: leading dots, a module, or both. -/
structure Origin where
  indent : Spacing
  space : Space
  dots : Nat
  module : Option (List Char)
  isDotted : ∀ m ∈ module, IsDotted m
  somewhere : dots ≠ 0 ∨ module ≠ none
  beforeImport : Space
  afterImport : Space

/-- The text of an origin, with both keywords. -/
def Origin.text (o : Origin) : List Char :=
  o.indent.text ++ "from".toList ++ o.space.text ++ List.replicate o.dots '.' ++ o.module.getD [] ++
    o.beforeImport.text ++ "import".toList ++ o.afterImport.text

/-- An `import` of names from an origin. -/
structure FromImport extends Origin where
  clauses : Clauses IsImported
  /-- The white space before a last comma. -/
  lastComma : Option Spacing
  /-- The white space within parentheses, at both ends. -/
  parens : Option (Spacing × Spacing)
  ending : Ending

namespace FromImport

/-- What stands before the clauses. -/
def opening (i : FromImport) : List Char :=
  i.parens.elim [] fun p => '(' :: p.1.text

/-- A last comma. -/
def commaText (i : FromImport) : List Char :=
  i.lastComma.elim [] fun gap => gap.text ++ [',']

/-- What stands behind the clauses, the comma and the comment apart. -/
def closing (i : FromImport) : List Char :=
  i.parens.elim [] (fun p => p.2.text ++ [')']) ++ i.ending.gap.text

/-- The text behind the second keyword. -/
def tail (i : FromImport) : List Char :=
  i.opening ++ i.clauses.text ++ i.commaText ++ i.closing ++ i.ending.commentText

/-- The text of an `import` from an origin. -/
def text (i : FromImport) : List Char :=
  i.toOrigin.text ++ i.tail

end FromImport

/-- A Python import on one line. -/
inductive PythonImport where
  | plain (i : PlainImport)
  | selective (i : FromImport)

namespace PythonImport

/-- The text of an import. -/
def text : PythonImport → List Char
  | plain i => i.text
  | selective i => i.text

/-- The modules of an import, as they are written. -/
def modules : PythonImport → List (List Char)
  | plain i => i.clauses.names
  | selective i => i.module.toList

/-- The names that are taken from the module. -/
def names : PythonImport → List (List Char)
  | plain _ => []
  | selective i => i.clauses.names

/-- The module is given relative to the file. -/
def relative : PythonImport → Bool
  | plain _ => false
  | selective i => i.dots != 0

end PythonImport

/-! ### Characters -/

section Characters

variable {c : Char} {s : List Char}

/-- What holds of a text that is not empty holds of the first character, whatever follows. -/
theorem forall_head?_append {P : Char → Prop} (hne : s ≠ []) (h : ∀ c ∈ s, P c) (rest : List Char) :
    ∀ c ∈ (s ++ rest).head?, P c := by
  obtain ⟨d, more, rfl⟩ := List.exists_cons_of_ne_nil hne
  rintro c ⟨⟩
  exact h d List.mem_cons_self

/-- White space is no word character. -/
theorem isWord_of_isBlank (h : isBlank c = true) : isWord c = false := by
  have hall : ∀ r ∈ blankRanges, ∀ n ∈ List.range' r.1 (r.2 + 1 - r.1),
      isWord (Char.ofNat n) = false := by
    decide +kernel
  obtain ⟨r, hr, hin⟩ := List.any_eq_true.1 h
  simp only [Bool.and_eq_true, decide_eq_true_eq] at hin
  have hc := hall r hr c.toNat (List.mem_range'_1.2 (by omega))
  rwa [Char.ofNat_toNat] at hc

/-- What names and dotted names are made of, and the star. -/
def IsSolid (c : Char) : Prop :=
  isPathChar c = true ∨ c = '*'

theorem IsSolid.isBlank (h : IsSolid c) : isBlank c = false := by
  rcases h with h | rfl
  · by_contra hblank
    rw [Bool.not_eq_false] at hblank
    rcases Bool.or_eq_true_iff.1 h with h | h
    · rw [isWord_of_isBlank hblank] at h
      cases h
    · rw [eq_of_beq h] at hblank
      exact absurd hblank (by decide)
  · decide

/-- A mark is not solid. -/
theorem IsSolid.ne {d : Char} (h : IsSolid c) (hpath : isPathChar d = false) (hstar : d ≠ '*') :
    c ≠ d := by
  rintro rfl
  rcases h with h | h
  · rw [hpath] at h
    cases h
  · exact hstar h

theorem IsName.isSolid (h : IsName s) : ∀ c ∈ s, IsSolid c := fun c hc =>
  .inl (Bool.or_eq_true_iff.2 (.inl (h.2 c hc)))

/-- A dotted name is made of path characters, and does not start with a dot. -/
theorem IsDotted.isPathChar (h : IsDotted s) :
    s ≠ [] ∧ (∀ c ∈ s, isPathChar c = true) ∧ ∀ c ∈ s.head?, (c == '.') = false := by
  obtain ⟨names, hne, hnames, rfl⟩ := h
  obtain ⟨first, rest, rfl⟩ := List.exists_cons_of_ne_nil hne
  obtain ⟨c, more, rfl⟩ := List.exists_cons_of_ne_nil (hnames _ List.mem_cons_self).1
  have hc := (hnames _ List.mem_cons_self).2 c List.mem_cons_self
  have hfirst : ∃ later, joinWith ['.'] ((c :: more) :: rest) = c :: later := by
    rcases rest with _ | ⟨v, rest⟩
    · exact ⟨more, joinWith_singleton _ _⟩
    · exact ⟨_, joinWith_cons_cons _ _ _ _⟩
  obtain ⟨later, hlater⟩ := hfirst
  refine ⟨by rw [hlater]; exact List.cons_ne_nil _ _, fun d hd => ?_, fun d hd => ?_⟩
  · rcases mem_of_mem_joinWith hd with hd | ⟨w, hw, hd⟩
    · rw [List.mem_singleton.1 hd]
      decide
    · exact Bool.or_eq_true_iff.2 (.inl ((hnames w hw).2 d hd))
  · rw [hlater] at hd
    obtain rfl := Option.some.inj hd
    refine beq_false_of_ne ?_
    rintro rfl
    exact absurd hc (by decide)

end Characters

/-! ### Clauses -/

/-- An item of a clause is not empty, and solid. -/
def Solid (IsItem : List Char → Prop) : Prop :=
  ∀ s, IsItem s → s ≠ [] ∧ ∀ c ∈ s, IsSolid c

theorem solid_isDotted : Solid IsDotted := fun _ h =>
  ⟨h.isPathChar.1, fun c hc => .inl (h.isPathChar.2.1 c hc)⟩

theorem solid_isImported : Solid IsImported := by
  rintro s (h | rfl)
  · exact ⟨h.1, h.isSolid⟩
  · exact ⟨List.cons_ne_nil _ _, fun c hc => .inr (List.mem_singleton.1 hc)⟩

/-- White space at the start of a text is no word of it. -/
theorem words_append {blank : List Char} (h : ∀ c ∈ blank, isBlank c = true) (s : List Char) :
    words (blank ++ s) = words s := by
  induction blank with
  | nil => rfl
  | cons c rest ih =>
    obtain ⟨hc, hrest⟩ := List.forall_mem_cons.1 h
    have hcut : cutWhere isBlank (c :: (rest ++ s)) = [] :: cutWhere isBlank (rest ++ s) := if_pos hc
    rw [List.cons_append, words, hcut, List.filter_cons_of_neg (by simp), ← words, ih hrest]

/-- A text that starts without white space has its first word there. -/
theorem words_append_of_not_isBlank {name s : List Char} (hne : name ≠ [])
    (hname : ∀ c ∈ name, isBlank c = false) (hs : ∀ c ∈ s.head?, isBlank c = true) :
    words (name ++ s) = name :: words s := by
  have hkeep : ∀ more, ((name :: more).filter fun w => !w.isEmpty) =
      name :: more.filter fun w => !w.isEmpty := fun more =>
    List.filter_cons_of_pos (by simpa using hne)
  rcases s with _ | ⟨c, rest⟩
  · rw [List.append_nil, words, cutWhere, cutFrom_eq_singleton hname, List.reverse_nil,
      List.nil_append, hkeep]
    rfl
  · have hblank : ∀ d ∈ [c], isBlank d = true := fun d hd => by
      rw [List.mem_singleton.1 hd]
      exact hs c rfl
    rw [words, cutWhere, cutFrom_append_cons hname (hs c rfl), List.reverse_nil, List.nil_append,
      hkeep, ← List.singleton_append (l := rest), words_append hblank]
    rfl

namespace Clause

variable {IsItem : List Char → Prop} (c : Clause IsItem)

/-- An alias is set off by white space. -/
theorem isBlank_of_head?_aliasText {s : List Char} (hs : ∀ d ∈ s.head?, isBlank d = true) :
    ∀ d ∈ (c.aliasText ++ s).head?, isBlank d = true := by
  rw [aliasText]
  rcases c.alias? with _ | a
  · exact hs
  · rw [Option.elim_some, Alias.text, List.append_assoc, List.append_assoc, List.append_assoc]
    exact forall_head?_append a.before.ne_nil a.before.blank _

/-- The name of a clause is its first word. -/
theorem head?_words (hsolid : Solid IsItem) {before after : List Char}
    (hbefore : ∀ d ∈ before, isBlank d = true) (hafter : ∀ d ∈ after, isBlank d = true) :
    (words (before ++ (c.text ++ after))).head? = some c.name := by
  obtain ⟨hne, hname⟩ := hsolid c.name c.isItem
  rw [words_append hbefore, text, List.append_assoc, words_append_of_not_isBlank hne
    (fun d hd => (hname d hd).isBlank)
    (c.isBlank_of_head?_aliasText fun d hd => hafter d (List.mem_of_head? hd)), List.head?_cons]

/-- The characters of a clause are solid or white space. -/
theorem solid_or_gap (hsolid : Solid IsItem) : ∀ d ∈ c.text, IsSolid d ∨ IsGap d := by
  intro d hd
  rcases List.mem_append.1 hd with hd | hd
  · exact .inl ((hsolid c.name c.isItem).2 d hd)
  · rw [aliasText] at hd
    rcases halias : c.alias? with _ | a
    · rw [halias] at hd
      cases hd
    · rw [halias] at hd
      have has : ∀ e ∈ "as".toList, isPathChar e = true := by decide
      simp only [Option.elim_some, Alias.text, List.mem_append] at hd
      rcases hd with ((hd | hd) | hd) | hd
      · exact .inr (a.before.isGap d hd)
      · exact .inl (.inl (has d hd))
      · exact .inr (a.after.isGap d hd)
      · exact .inl (a.isName.isSolid d hd)

/-- A clause ends with a solid character. -/
theorem exists_concat (hsolid : Solid IsItem) : ∃ front d, c.text = front ++ [d] ∧ IsSolid d := by
  have hend : ∀ front s : List Char, s ≠ [] → (∀ d ∈ s, IsSolid d) →
      ∃ front' d, front ++ s = front' ++ [d] ∧ IsSolid d := by
    intro front s hne hs
    refine ⟨front ++ s.dropLast, s.getLast hne, ?_, hs _ (List.getLast_mem hne)⟩
    rw [List.append_assoc, List.dropLast_append_getLast]
  rw [text, aliasText]
  rcases c.alias? with _ | a
  · rw [Option.elim_none, List.append_nil]
    exact hend [] _ (hsolid c.name c.isItem).1 (hsolid c.name c.isItem).2
  · rw [Option.elim_some, Alias.text, ← List.append_assoc]
    exact hend _ _ a.isName.1 a.isName.isSolid

/-- A clause starts with a solid character. -/
theorem exists_cons (hsolid : Solid IsItem) : ∃ d rest, c.text = d :: rest ∧ IsSolid d := by
  obtain ⟨hne, hname⟩ := hsolid c.name c.isItem
  obtain ⟨d, rest, hcons⟩ := List.exists_cons_of_ne_nil hne
  exact ⟨d, rest ++ c.aliasText, by rw [text, hcons, List.cons_append],
    hname d (hcons ▸ List.mem_cons_self)⟩

end Clause

/-! ### Clauses between commas -/

namespace Clauses

variable {IsItem : List Char → Prop} {f : List Char → Option (List Char)}

/-- If a clause is read whatever loose characters stand around it, clauses between commas are read one
by one. Behind them there may be loose characters, or what is read as nothing. -/
theorem filterMap_cut (Loose : Char → Prop) (tail : List Char) (hsolid : Solid IsItem)
    (hread : ∀ (c : Clause IsItem) (before after : List Char), (∀ d ∈ before, Loose d) →
      (∀ d ∈ after, Loose d) → f (before ++ (c.text ++ after)) = some c.name)
    (hblank : ∀ d, isBlank d = true → Loose d) (hcomma : ¬ Loose ',')
    (htail : ∀ piece, ',' ∉ piece → ∃ after, (∀ d ∈ after, Loose d) ∧
      (cut ',' (piece ++ tail)).filterMap f = (f (piece ++ after)).toList)
    (cs : Clauses IsItem) {before : List Char} (hbefore : ∀ d ∈ before, Loose d) :
    (cut ',' (before ++ (cs.text ++ tail))).filterMap f = cs.names := by
  have hpiece : ∀ (c : Clause IsItem) (before after : List Char), (∀ d ∈ before, Loose d) →
      (∀ d ∈ after, isBlank d = true) → ',' ∉ before ++ (c.text ++ after) := by
    intro c before after hbefore hafter hmem
    rcases List.mem_append.1 hmem with hmem | hmem
    · exact hcomma (hbefore _ hmem)
    rcases List.mem_append.1 hmem with hmem | hmem
    · rcases c.solid_or_gap hsolid _ hmem with hmem | hmem
      · exact hmem.ne (by decide) (by decide) rfl
      · exact absurd hmem (by decide)
    · exact absurd (hafter _ hmem) (by decide)
  obtain ⟨first, others⟩ := cs
  induction others generalizing before first with
  | nil =>
    obtain ⟨after, hafter, hcut⟩ := htail (before ++ (first.text ++ []))
      (hpiece first before [] hbefore (List.forall_mem_nil _))
    have htext : before ++ (text ⟨first, []⟩ ++ tail) = before ++ (first.text ++ []) ++ tail := by
      simp [text, otherText]
    rw [htext, hcut, List.append_nil, List.append_assoc, hread first before after hbefore hafter]
    rfl
  | cons o rest ih =>
    -- The white space around a comma belongs to the pieces on its sides.
    have htext : before ++ (text ⟨first, o :: rest⟩ ++ tail) =
        (before ++ (first.text ++ o.1.text)) ++
          ',' :: (o.2.1.text ++ (text ⟨o.2.2, rest⟩ ++ tail)) := by
      simp [text, otherText]
    have hloose : ∀ gap : Spacing, ∀ d ∈ gap.text, Loose d := fun gap d hd =>
      hblank d (gap.blank d hd)
    rw [htext, cut_append_cons (hpiece first before _ hbefore o.1.blank),
      List.filterMap_cons_some (hread first before _ hbefore (hloose o.1)), ih (hloose o.2.1)]
    rfl

/-- The characters of clauses are solid, white space or commas. -/
theorem mem_text (hsolid : Solid IsItem) (cs : Clauses IsItem) {d : Char} (hd : d ∈ cs.text) :
    IsSolid d ∨ IsGap d ∨ d = ',' := by
  have hclause : ∀ c : Clause IsItem, d ∈ c.text → IsSolid d ∨ IsGap d ∨ d = ',' := fun c hc =>
    (c.solid_or_gap hsolid d hc).imp_right .inl
  rcases List.mem_append.1 hd with hd | hd
  · exact hclause _ hd
  · obtain ⟨o, -, hd⟩ := List.mem_flatMap.1 hd
    simp only [List.mem_append, List.mem_singleton] at hd
    rcases hd with ((hd | hd) | hd) | hd
    · exact .inr (.inl (o.1.isGap d hd))
    · exact .inr (.inr hd)
    · exact .inr (.inl (o.2.1.isGap d hd))
    · exact hclause _ hd

/-- The clauses of a plain import are read by their first words. -/
theorem filterMap_head?_words (cs : Clauses IsDotted) :
    (cut ',' cs.text).filterMap (fun clause => (words clause).head?) = cs.names := by
  have hread := filterMap_cut (f := fun clause => (words clause).head?) (fun d => isBlank d = true) []
    solid_isDotted
    (fun c before after hbefore hafter => c.head?_words solid_isDotted hbefore hafter)
    (fun d hd => hd) (by decide)
    (fun piece hpiece => ⟨[], List.forall_mem_nil _, by
      rw [List.append_nil, cut_eq_singleton hpiece, List.filterMap_eq_flatMap_toList,
        List.flatMap_singleton]⟩)
    cs (List.forall_mem_nil _)
  rwa [List.nil_append, List.append_nil] at hread

end Clauses

/-- White space and parentheses, which are dropped around a name. -/
def isLoose (c : Char) : Bool :=
  c == '(' || c == ')' || isBlank c

theorem IsSolid.not_isLoose {c : Char} (h : IsSolid c) : isLoose c = false := by
  rw [isLoose, h.isBlank, Bool.or_false, Bool.or_eq_false_iff]
  exact ⟨beq_false_of_ne (h.ne (by decide) (by decide)),
    beq_false_of_ne (h.ne (by decide) (by decide))⟩

/-- What is loose around a solid text is dropped. -/
theorem trimWhile_append {p : Char → Bool} {before after s : List Char}
    (hbefore : ∀ c ∈ before, p c = true) (hafter : ∀ c ∈ after, p c = true)
    (hfirst : ∃ c rest, s = c :: rest ∧ p c = false)
    (hlast : ∃ front c, s = front ++ [c] ∧ p c = false) :
    trimWhile p (before ++ (s ++ after)) = s := by
  obtain ⟨c, rest, hcons, hc⟩ := hfirst
  obtain ⟨front, d, hconcat, hd⟩ := hlast
  have hstart : (s ++ after).dropWhile p = s ++ after := by
    rw [hcons, List.cons_append, List.dropWhile_cons_of_neg (by simp [hc])]
  rw [trimWhile, List.dropWhile_append_of_pos hbefore, hstart, dropEndWhile_append hafter, hconcat,
    dropEndWhile_concat hd]

/-- The name of a clause is read whatever is loose around it. -/
theorem clauseName_append (c : Clause IsImported) {before after : List Char}
    (hbefore : ∀ d ∈ before, isLoose d = true) (hafter : ∀ d ∈ after, isLoose d = true) :
    clauseName (before ++ (c.text ++ after)) = c.name := by
  obtain ⟨d, rest, hcons, hd⟩ := c.exists_cons solid_isImported
  obtain ⟨front, e, hconcat, he⟩ := c.exists_concat solid_isImported
  have htrim : trimWhile (fun c => c == '(' || c == ')' || isBlank c) (before ++ (c.text ++ after)) =
      c.text :=
    trimWhile_append hbefore hafter ⟨d, rest, hcons, hd.not_isLoose⟩
      ⟨front, e, hconcat, he.not_isLoose⟩
  have hhead := c.head?_words solid_isImported (List.forall_mem_nil _) (List.forall_mem_nil _)
  rw [List.nil_append, List.append_nil] at hhead
  rw [clauseName, htrim, hhead]
  rfl

/-- Where all is loose there is no name. -/
theorem clauseName_of_isLoose {s : List Char} (h : ∀ d ∈ s, isLoose d = true) : clauseName s = [] := by
  have htrim : trimWhile (fun c => c == '(' || c == ')' || isBlank c) s = [] := by
    have hdrop : s.dropWhile (fun c => c == '(' || c == ')' || isBlank c) = [] :=
      List.dropWhile_eq_nil_iff.2 h
    rw [trimWhile, hdrop]
    rfl
  rw [clauseName, htrim]
  rfl

namespace FromImport

variable (i : FromImport)

theorem isLoose_of_isBlank {c : Char} (h : isBlank c = true) : isLoose c = true := by
  rw [isLoose, h, Bool.or_true]

theorem isLoose_opening : ∀ c ∈ i.opening, isLoose c = true := by
  rw [opening]
  rcases i.parens with _ | p
  · exact List.forall_mem_nil _
  · exact List.forall_mem_cons.2 ⟨by decide, fun c hc => isLoose_of_isBlank (p.1.blank c hc)⟩

theorem isLoose_closing : ∀ c ∈ i.closing, isLoose c = true := by
  have hgap : ∀ c ∈ i.ending.gap.text, isLoose c = true := fun c hc =>
    isLoose_of_isBlank (i.ending.gap.blank c hc)
  rw [closing]
  rcases i.parens with _ | p
  · exact hgap
  · intro c hc
    rcases List.mem_append.1 hc with hc | hc
    · rcases List.mem_append.1 hc with hc | hc
      · exact isLoose_of_isBlank (p.2.blank c hc)
      · rw [List.mem_singleton.1 hc]
        decide
    · exact hgap c hc

theorem mem_commaText {c : Char} (hc : c ∈ i.commaText) : IsGap c ∨ c = ',' := by
  rw [commaText] at hc
  rcases hcomma : i.lastComma with _ | gap
  · rw [hcomma] at hc
    cases hc
  · rw [hcomma] at hc
    rcases List.mem_append.1 hc with hc | hc
    · exact .inl (gap.isGap c hc)
    · exact .inr (List.mem_singleton.1 hc)

/-- The names behind the second keyword are those of the clauses, up to the comment. -/
theorem clauseNames_tail : clauseNames i.tail = i.clauses.names := by
  have htake : i.tail.takeWhile (· != '#') =
      i.opening ++ (i.clauses.text ++ (i.commaText ++ i.closing)) := by
    have hloose : ∀ c, isLoose c = true → (c != '#') = true := by
      intro c hc
      refine bne_iff_ne.2 ?_
      rintro rfl
      exact absurd hc (by decide)
    have hall : ∀ c ∈ i.opening ++ (i.clauses.text ++ (i.commaText ++ i.closing)),
        (c != '#') = true := by
      intro c hc
      simp only [List.mem_append] at hc
      rcases hc with hc | hc | hc | hc
      · exact hloose c (i.isLoose_opening c hc)
      · rcases i.clauses.mem_text solid_isImported hc with hc | hc | rfl
        · exact bne_iff_ne.2 (hc.ne (by decide) (by decide))
        · exact hloose c (isLoose_of_isBlank hc.1)
        · decide
      · rcases i.mem_commaText hc with hc | rfl
        · exact hloose c (isLoose_of_isBlank hc.1)
        · decide
      · exact hloose c (i.isLoose_closing c hc)
    have hcomment : i.ending.commentText.takeWhile (· != '#') = [] := by
      rw [Ending.commentText]
      rcases i.ending.comment with _ | text <;> rfl
    have htail : i.tail = (i.opening ++ (i.clauses.text ++ (i.commaText ++ i.closing))) ++
        i.ending.commentText := by
      simp [tail]
    rw [htail, List.takeWhile_append_of_pos hall, hcomment, List.append_nil]
  -- A piece without a name counts for nothing.
  have hfilter : ∀ pieces : List (List Char), (pieces.map clauseName).filter (fun n => !n.isEmpty) =
      pieces.filterMap fun piece => Option.guard (fun n => !n.isEmpty) (clauseName piece) := by
    intro pieces
    rw [← List.filterMap_eq_filter, List.filterMap_map]
    rfl
  rw [clauseNames, htake, hfilter]
  refine Clauses.filterMap_cut (fun d => isLoose d = true) _ solid_isImported ?_
    (fun d hd => isLoose_of_isBlank hd) (by decide) ?_ i.clauses i.isLoose_opening
  · intro c before after hbefore hafter
    rw [clauseName_append c hbefore hafter]
    simp [(solid_isImported c.name c.isItem).1]
  · intro piece hpiece
    have hclosing : ',' ∉ i.closing := fun h => absurd (i.isLoose_closing _ h) (by decide)
    rw [commaText]
    rcases i.lastComma with _ | gap
    · refine ⟨i.closing, i.isLoose_closing, ?_⟩
      rw [Option.elim_none, List.nil_append, cut_eq_singleton (List.not_mem_append hpiece hclosing),
        List.filterMap_eq_flatMap_toList, List.flatMap_singleton]
    · -- Behind the last comma there is one more piece, without a name.
      have hgap : ',' ∉ gap.text := fun h => absurd (gap.blank _ h) (by decide)
      have hnone : Option.guard (fun n => !n.isEmpty) (clauseName i.closing) = none := by
        rw [clauseName_of_isLoose i.isLoose_closing]
        rfl
      refine ⟨gap.text, fun d hd => isLoose_of_isBlank (gap.blank d hd), ?_⟩
      have htext : piece ++ (gap.text ++ [','] ++ i.closing) =
          (piece ++ gap.text) ++ ',' :: i.closing := by
        simp
      rw [Option.elim_some, htext, cut_append_cons (List.not_mem_append hpiece hgap),
        cut_eq_singleton hclosing, List.filterMap_eq_flatMap_toList, List.flatMap_cons,
        List.flatMap_singleton, hnone, Option.toList_none, List.append_nil]

end FromImport

end SourceAudit.Import
