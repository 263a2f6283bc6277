import SourceAudit.Proofs.Line.ReadBack

/-!
# Imports on lines that go on

A Python import may be followed by a semicolon and more statements on its line, and its module may be
any identifier, ASCII or not. An import from a module takes the rest of the line for its names, so it is
recognized whatever follows, as long as the module is made of word characters (`parse?_recognized`). A
plain import is not recognized where anything but a comment follows. Where neither pattern for Python
finds the import, all that the line is read for is a JavaScript `require` (`parse?_unrecognized`).
-/

namespace SourceAudit.Import

open Pattern
open Text (isBlank isWord words)

/-! ### Lines that go on -/

/-- What an identifier is made of: word characters, and beyond ASCII anything but white space. -/
def IsIdentifierChar (c : Char) : Prop :=
  isWord c = true ∨ (128 ≤ c.toNat ∧ isBlank c = false)

instance (c : Char) : Decidable (IsIdentifierChar c) :=
  inferInstanceAs (Decidable (_ ∨ _))

theorem IsIdentifierChar.isBlank {c : Char} (h : IsIdentifierChar c) : isBlank c = false := by
  rcases h with h | h
  · exact IsSolid.isBlank (.inl (Bool.or_eq_true_iff.2 (.inl h)))
  · exact h.2

/-- An import of one top-level module, or of a name from it, with what follows on the line. -/
structure Compound where
  indent : Spacing
  module : List Char
  ne_nil : module ≠ []
  isIdentifierChar : ∀ c ∈ module, IsIdentifierChar c
  /-- What is imported from the module; a plain import has none. -/
  name? : Option (List Char)
  isName : ∀ name ∈ name?, name ≠ [] ∧ (∀ c ∈ name.head?, isBlank c = false) ∧ '\n' ∉ name
  trailing : List Char
  set_off : ∀ c ∈ trailing.head?, c = ';'
  one_line : '\n' ∉ trailing

namespace Compound

/-- The text of a plain import, or of one from a module, without what follows. -/
def statement (s : Compound) : List Char :=
  match s.name? with
  | none => "import ".toList ++ s.module
  | some name => "from ".toList ++ s.module ++ " import ".toList ++ name

/-- The line with the import. -/
def text (s : Compound) : List Char :=
  s.indent.text ++ s.statement ++ s.trailing

/-- The module is made of word characters, and nothing follows a plain import. -/
def Recognized (s : Compound) : Prop :=
  (∀ c ∈ s.module, isWord c = true) ∧ (s.name? = none → s.trailing = [])

end Compound

/-! ### Characters that end the clauses -/

/-- Behind the word characters of a module stands a semicolon, or a character that no pattern takes for
part of a name. -/
def EndsName (c : Char) : Prop :=
  c = ';' ∨ (IsIdentifierChar c ∧ isWord c = false)

namespace EndsName

variable {c : Char}

theorem isWord (h : EndsName c) : isWord c = false := by
  rcases h with rfl | ⟨-, h⟩
  · decide
  · exact h

theorem isBlank (h : EndsName c) : isBlank c = false := by
  rcases h with rfl | ⟨h, -⟩
  · decide
  · exact h.isBlank

/-- It is none of the marks of ASCII but the semicolon. -/
theorem ne {d : Char} (h : EndsName c) (hd : d.toNat < 128 ∧ d ≠ ';') : c ≠ d := by
  rintro rfl
  rcases h with h | ⟨hword | ⟨hwide, -⟩, hnot⟩
  · exact hd.2 h
  · rw [hword] at hnot
    cases hnot
  · omega

theorem among_eq_false {chars : String} (h : EndsName c)
    (hchars : ∀ d ∈ chars.toList, d.toNat < 128 ∧ d ≠ ';') : among chars c = false := by
  rw [Bool.eq_false_iff]
  exact fun hin => h.ne (hchars c (List.contains_iff_mem.1 hin)) rfl

theorem isModuleQuote (h : EndsName c) : isModuleQuote c = false :=
  h.among_eq_false (by decide)

theorem isBindingChar (h : EndsName c) : isBindingChar c = false := by
  rw [Import.isBindingChar, h.isWord, h.isBlank, h.among_eq_false (by decide)]
  rfl

theorem isClauseChar (h : EndsName c) : isClauseChar c = false := by
  rw [Import.isClauseChar, isPathChar, h.isBlank, h.isWord, beq_false_of_ne (h.ne (by decide)),
    beq_false_of_ne (h.ne (by decide))]
  rfl

end EndsName

/-! ### Plain imports -/

/-- A plain import is made of the characters of clauses up to its comment. -/
theorem exists_comment_of_reads {text : List Char} {groups : List (Nat × List Char)}
    (h : (indented ++ lit "import" ++ space ++
      group 1 (some1 isPathChar ++ asClause ++
        repeated (gap ++ lit "," ++ gap ++ some1 isPathChar ++ asClause)) ++
      gap ++ optional (lit "#" ++ anything)).Reads text groups) :
    ∃ front back, text = front ++ back ∧ (∀ c ∈ front, isClauseChar c = true) ∧
      ∀ c ∈ back.head?, (c == '#') = true := by
  obtain ⟨front, back, _, _, rfl, -, hfront, hback⟩ := reads_seq_iff.1 h
  refine ⟨front, back, rfl, hfront.forall_mem ?_, ?_⟩
  · have himport : ∀ c ∈ "import".toList, isClauseChar c = true := by decide
    have hclauses := bodies_pythonImport _ List.mem_cons_self
    simpa [indented, space, within_isBlank] using And.intro himport hclauses
  · cases hback with
    | left hcomment =>
      obtain ⟨mark, comment, _, _, rfl, -, hmark, -⟩ := reads_seq_iff.1 hcomment
      rw [eq_of_reads_lit hmark]
      rintro c ⟨⟩
      rfl
    | right hnone =>
      cases hnone
      rintro c ⟨⟩

/-- A plain import is not found where something that is in no clause comes before all comments. -/
theorem pythonImport_find?_eq_none {body tail : List Char} (hne : tail ≠ [])
    (hbody : ∀ c ∈ body, (c == '#') = false)
    (htail : ∀ c ∈ tail.head?, (c == '#') = false ∧ isClauseChar c = false) :
    pythonImport.find? (body ++ tail) = none := by
  rw [find?_eq_matchAt (p := pythonImport) trivial]
  rcases hmatch : pythonImport.matchAt none (body ++ tail) with _ | f
  · rfl
  -- The pattern has to end at the end of the line.
  obtain ⟨groups, hreads⟩ := reads_all_of_matchAt hmatch
  obtain ⟨front, back, hline, hfront, hback⟩ := exists_comment_of_reads hreads
  exact absurd (eq_nil_of_append_eq hline.symm hfront hback hbody htail).2 hne

/-! ### Imports from a module -/

/-- White space that is asked for is there. -/
theorem space_of_reads {text : List Char} {groups : List (Nat × List Char)}
    (h : space.Reads text groups) : text ≠ [] ∧ ∀ c ∈ text, isBlank c = true := by
  refine ⟨?_, h.forall_mem (classesIn_some1.2 ⟨fun _ hc => hc, fun _ hc => hc⟩)⟩
  obtain ⟨_, _, _, _, rfl, -, hone, -⟩ := reads_seq_iff.1 h
  cases hone with
  | one _ => exact List.cons_ne_nil _ _

/-- The second word of a line with an import from a module is made of path characters: it is the module
with the dots, or the keyword behind them if there is neither. -/
theorem exists_words_of_reads {text : List Char} {groups : List (Nat × List Char)}
    (h : pythonFrom.Reads text groups) (later : List Char) :
    ∃ second rest, words (text ++ later) = "from".toList :: second :: rest ∧
      ∀ c ∈ second, isPathChar c = true := by
  obtain ⟨_, ends, _, _, rfl, -, h, -⟩ := reads_seq_iff.1 h
  obtain ⟨_, names, _, _, rfl, -, h, -⟩ := reads_seq_iff.1 h
  obtain ⟨_, behind, _, _, rfl, -, h, hbehind⟩ := reads_seq_iff.1 h
  obtain ⟨_, keyword, _, _, rfl, -, h, hkeyword⟩ := reads_seq_iff.1 h
  obtain ⟨_, between, _, _, rfl, -, h, hbetween⟩ := reads_seq_iff.1 h
  obtain ⟨_, path, _, _, rfl, -, h, hpath⟩ := reads_seq_iff.1 h
  obtain ⟨_, dots, _, _, rfl, -, h, hdots⟩ := reads_seq_iff.1 h
  obtain ⟨_, gap, _, _, rfl, -, h, hgap⟩ := reads_seq_iff.1 h
  obtain ⟨indent, start, _, _, rfl, -, hindent, hstart⟩ := reads_seq_iff.1 h
  obtain rfl := eq_of_reads_lit hstart
  obtain rfl := eq_of_reads_lit hkeyword
  obtain ⟨hbehind_ne, hbehind⟩ := space_of_reads hbehind
  obtain ⟨hbetween_ne, hbetween⟩ := space_of_reads hbetween
  obtain ⟨hgap_ne, hgap⟩ := space_of_reads hgap
  have hmodule : ∀ c ∈ dots ++ path, isPathChar c = true := by
    have hdot : ∀ c ∈ dots, isPathChar c = true :=
      hdots.forall_mem (P := fun c => isPathChar c = true) (within_beq.2 (by decide))
    exact List.forall_mem_append.2 ⟨hdot, hpath.forall_mem (fun _ hc => hc)⟩
  have hsolid : ∀ s : List Char, (∀ c ∈ s, isPathChar c = true) → ∀ c ∈ s, isBlank c = false :=
    fun s hs c hc => IsSolid.isBlank (.inl (hs c hc))
  have hfrom : ∀ c ∈ "from".toList, isPathChar c = true := by decide
  have himport : ∀ c ∈ "import".toList, isPathChar c = true := by decide
  have hline : indent ++ "from".toList ++ gap ++ dots ++ path ++ between ++ "import".toList ++ behind ++
        names ++ ends ++ later =
      indent ++ ("from".toList ++ (gap ++ (dots ++ path ++ (between ++ ("import".toList ++ (behind ++
        (names ++ ends ++ later))))))) := by
    simp only [List.append_assoc]
  rw [hline, words_append (hindent.forall_mem takes_indented),
    words_append_of_not_isBlank (by decide) (hsolid _ hfrom) (forall_head?_append hgap_ne hgap _),
    words_append hgap]
  by_cases hnil : dots ++ path = []
  · rw [hnil, List.nil_append, words_append hbetween, words_append_of_not_isBlank (by decide)
      (hsolid _ himport) (forall_head?_append hbehind_ne hbehind _)]
    exact ⟨_, _, rfl, himport⟩
  · rw [words_append_of_not_isBlank hnil (hsolid _ hmodule)
      (forall_head?_append hbetween_ne hbetween _)]
    exact ⟨_, _, rfl, hmodule⟩

/-! ### Which imports are recognized -/

namespace Compound

variable {s : Compound} {name : List Char}

theorem text_of_plain (h : s.name? = none) :
    s.text = s.indent.text ++ ("import ".toList ++ (s.module ++ s.trailing)) := by
  rw [text, statement, h]
  simp only [List.append_assoc]

theorem text_of_name (h : s.name? = some name) :
    s.text = s.indent.text ++ ("from".toList ++ (Space.single.text ++ (s.module ++ (Space.single.text ++
      ("import".toList ++ (Space.single.text ++ (name ++ s.trailing))))))) := by
  rw [text, statement, h]
  simp [Space.single]

theorem isDotted (h : ∀ c ∈ s.module, isWord c = true) : IsDotted s.module :=
  ⟨[s.module], List.cons_ne_nil _ _, List.forall_mem_singleton.2 ⟨s.ne_nil, h⟩,
    (Text.joinWith_singleton _ _).symm⟩

/-- An import that is recognized is read as one of its module. -/
theorem parse?_recognized (h : s.Recognized) :
    ∃ names, parse? s.text = some ⟨.python, [s.module], names, false⟩ := by
  obtain ⟨hword, hplain⟩ := h
  rcases hname : s.name? with _ | name
  · let written : PlainImport :=
      { indent := s.indent
        space := Space.single
        clauses := ⟨⟨s.module, isDotted hword, none⟩, []⟩
        ending := ⟨Spacing.empty, none, by simp⟩ }
    have htext : s.text = written.text := by
      rw [text_of_plain hname, hplain hname]
      simp [written, PlainImport.text, Clauses.text, Clauses.otherText, Clause.text,
        Clause.aliasText, Ending.commentText, Space.single, Spacing.empty]
    rw [htext, written.parse?_text]
    exact ⟨_, rfl⟩
  · obtain ⟨hne, hblank, hline⟩ := s.isName name hname
    let origin : Origin :=
      { indent := s.indent
        space := Space.single
        dots := 0
        module := some s.module
        isDotted := by
          rintro m ⟨⟩
          exact isDotted hword
        somewhere := .inr (by simp)
        beforeImport := Space.single
        afterImport := Space.single }
    have htext : s.text = origin.text ++ (name ++ s.trailing) := by
      rw [text_of_name hname]
      simp [origin, Origin.text]
    have htail : ∀ c ∈ (name ++ s.trailing).head?, isBlank c = false := by
      obtain ⟨d, more, rfl⟩ := List.exists_cons_of_ne_nil hne
      exact hblank
    rw [htext, origin.parse?_append (by simp [hne]) htail fun c hc => bne_iff_ne.2 ?_]
    · exact ⟨_, rfl⟩
    · rintro rfl
      rcases List.mem_append.1 hc with hc | hc
      · exact hline hc
      · exact s.one_line hc

/-- In an import that is not recognized the word characters of the module end at another character of
the module or at a semicolon. -/
theorem exists_endsName (h : ¬ s.Recognized) :
    ∃ front c rest, s.module ++ s.trailing = front ++ c :: rest ∧ (∀ d ∈ front, isWord d = true) ∧
      EndsName c := by
  rcases hfind : s.module.find? (!isWord ·) with _ | c
  · have hword : ∀ c ∈ s.module, isWord c = true := by simpa using hfind
    obtain ⟨c, more, htrailing⟩ := List.exists_cons_of_ne_nil fun hnil => h ⟨hword, fun _ => hnil⟩
    exact ⟨s.module, c, more, by rw [htrailing], hword, .inl (s.set_off c (by rw [htrailing]; rfl))⟩
  · obtain ⟨hc, front, rest, hmodule, hfront⟩ := List.find?_eq_some_iff_append.1 hfind
    refine ⟨front, c, rest ++ s.trailing, by simp [hmodule], by simpa using hfront, .inr ⟨?_, ?_⟩⟩
    · exact s.isIdentifierChar c (by simp [hmodule])
    · simpa using hc

/-- An import from a module is not recognized by its pattern if its module is not made of word
characters. -/
theorem pythonFrom_refuses (hname : s.name? = some name) (h : ¬ ∀ c ∈ s.module, isWord c = true) :
    pythonFrom.Refuses none s.text := by
  have hsolid : ∀ c ∈ s.module, isBlank c = false := fun c hc => (s.isIdentifierChar c hc).isBlank
  have hwords : ∃ rest, words s.text = "from".toList :: s.module :: rest := by
    rw [text_of_name hname, words_append s.indent.blank,
      words_append_of_not_isBlank (by decide) (by decide)
        (forall_head?_append Space.single.ne_nil Space.single.blank _),
      words_append Space.single.blank, words_append_of_not_isBlank s.ne_nil hsolid
        (forall_head?_append Space.single.ne_nil Space.single.blank _)]
    exact ⟨_, rfl⟩
  refine refuses_of_reads fun text groups hreads hprefix => h fun c hc => ?_
  obtain ⟨later, hline⟩ := hprefix
  obtain ⟨second, rest, hsecond, hpath⟩ := exists_words_of_reads hreads later
  obtain ⟨rest', hmodule⟩ := hwords
  rw [hline, hmodule] at hsecond
  obtain ⟨rfl, -⟩ := List.cons.inj (List.cons.inj hsecond).2
  rcases Bool.or_eq_true_iff.1 (hpath c hc) with hword | hdot
  · exact hword
  · have hidentifier := s.isIdentifierChar c hc
    rw [eq_of_beq hdot] at hidentifier
    exact absurd hidentifier (by decide)

/-- A line with an import that is not recognized is read for a `require`. -/
theorem parse?_unrecognized (h : ¬ s.Recognized) :
    parse? s.text = (javaScriptRequire.find? s.text).map fun f => ofModule (f.group 1) := by
  rcases hname : s.name? with _ | name
  · obtain ⟨front, c, rest, hsplit, hfront, hc⟩ := exists_endsName h
    have htext : s.text = (s.indent.text ++ "import ".toList ++ front) ++ c :: rest := by
      rw [text_of_plain hname, hsplit]
      simp only [List.append_assoc]
    have hbody : ∀ d ∈ s.indent.text ++ "import ".toList ++ front,
        isModuleQuote d = false ∧ (d == '#') = false := by
      have himport : ∀ d ∈ "import ".toList, isPathChar d = true ∨ isBlank d = true := by decide
      intro d hd
      have hd : isPathChar d = true ∨ isBlank d = true := by
        rcases List.mem_append.1 hd with hd | hd
        · rcases List.mem_append.1 hd with hd | hd
          · exact .inr (s.indent.blank d hd)
          · exact himport d hd
        · exact .inl (Bool.or_eq_true_iff.2 (.inl (hfront d hd)))
      refine ⟨isModuleQuote_eq_false (hd.imp_left .inl), beq_false_of_ne ?_⟩
      rintro rfl
      exact absurd hd (by decide)
    have hjs : javaScriptImport.Refuses none s.text := by
      rw [htext]
      refine javaScriptImport_refuses (fun d hd => (hbody d hd).1) ?_
      rintro d ⟨⟩
      exact ⟨hc.isModuleQuote, hc.isBindingChar⟩
    have hfrom : pythonFrom.Refuses none s.text := by
      rw [text_of_plain hname]
      exact s.indent.refuses (c := 'i') leads_pythonFrom (by decide) (by decide) (by decide)
    have hnone : pythonImport.find? s.text = none := by
      rw [htext]
      refine pythonImport_find?_eq_none (List.cons_ne_nil _ _) (fun d hd => (hbody d hd).2) ?_
      rintro d ⟨⟩
      exact ⟨beq_false_of_ne (hc.ne (by decide)), hc.isClauseChar⟩
    exact parse?_of_refuses hjs hfrom hnone
  · have hword : ¬ ∀ c ∈ s.module, isWord c = true := fun hword =>
      h ⟨hword, fun hnone => by rw [hname] at hnone; cases hnone⟩
    have hjs : javaScriptImport.Refuses none s.text := by
      rw [text_of_name hname]
      exact s.indent.refuses (c := 'f') leads_javaScriptImport (by decide) (by decide) (by decide)
    have hplain : pythonImport.Refuses none s.text := by
      rw [text_of_name hname]
      exact s.indent.refuses (c := 'f') leads_pythonImport (by decide) (by decide) (by decide)
    exact parse?_of_refuses hjs (pythonFrom_refuses hname hword) (hplain.find?_eq_none trivial)

end Compound

end SourceAudit.Import
