import SourceAudit.Proofs.Line.Written

/-!
# Python imports are read back

Whatever the layout of a Python import and whatever its comment says, it is read back as it was written
(`parse?_pythonImport`). The pattern of its own form prefers to take the whole line and keeps its parts
(`PlainImport.prefers`, `Origin.prefers`), and the forms that are tried before are refused: by their
keyword, or, since a plain import may have quotes in its comment, by the mark of the comment, which a
JavaScript import has no place for before its quotes (`javaScriptImport_refuses`).
-/

namespace SourceAudit.Import

open Pattern
open Text (isBlank isWord)

/-! ### Patterns that are refused -/

section Refusal

variable {before : Option Char} {line rest : List Char}

/-- Indentation is white space. -/
theorem takes_indented : indented.Takes fun c => isBlank c = true :=
  ⟨trivial, fun _ h => h⟩

/-- A pattern that starts with an indented keyword is refused where another keyword stands. -/
theorem leads_indented {w : String} {d : Char} {more : List Char} (h : w.toList = d :: more) :
    (indented ++ lit w).Leads d :=
  (leads_lit h).after takes_indented

theorem leads_javaScriptImport : javaScriptImport.Leads 'i' :=
  (((leads_indented (w := "import") rfl).append _).append _).append _

theorem leads_pythonFrom : pythonFrom.Leads 'f' :=
  ((((((((leads_indented (w := "from") rfl).append _).append _).append _).append _).append _).append
    _).append _).append _

theorem leads_pythonImport : pythonImport.Leads 'i' :=
  (((((leads_indented (w := "import") rfl).append _).append _).append _).append _).append _

/-- The characters before the quotes of a JavaScript import are binding characters. -/
theorem exists_quote_of_reads {text : List Char} {groups : List (Nat × List Char)}
    (h : javaScriptImport.Reads text groups) :
    ∃ front q more, text = front ++ q :: more ∧ isModuleQuote q = true ∧
      ∀ c ∈ front, isBindingChar c = true := by
  obtain ⟨front, quoted, _, _, rfl, -, hfront, hquoted⟩ := reads_seq_iff.1 h
  obtain ⟨start, _, _, _, rfl, -, hstart, -⟩ := reads_seq_iff.1 hquoted
  obtain ⟨quote, _, _, _, rfl, -, hquote, -⟩ := reads_seq_iff.1 hstart
  have hblank : Within (fun c => isBindingChar c = true) isBlank := by
    intro c hc
    rw [isBindingChar, hc, Bool.or_true, Bool.true_or]
  have hbinding : Within (fun c => isBindingChar c = true) isBindingChar := fun _ hc => hc
  have himport : ∀ c ∈ "import".toList, isBindingChar c = true := by decide
  have hfrom : ∀ c ∈ "from".toList, isBindingChar c = true := by decide
  have htakes : (indented ++ lit "import" ++ one isBlank ++
      choice [some1 isBindingChar ++ one isBlank ++ lit "from" ++ space, gap]).Takes
        fun c => isBindingChar c = true := by
    simpa [indented, space, hblank, hbinding] using And.intro himport hfrom
  cases hquote with
  | @one _ q hq =>
    exact ⟨front, q, _, rfl, hq, hfront.forall_mem htakes⟩

/-- If a text ends at a mark, and another one before all marks at a character that is not in the first,
both end at the same place. -/
theorem eq_nil_of_append_eq {inside mark : Char → Bool} {front back body tail : List Char}
    (h : front ++ back = body ++ tail) (hfront : ∀ c ∈ front, inside c = true)
    (hback : ∀ c ∈ back.head?, mark c = true) (hbody : ∀ c ∈ body, mark c = false)
    (htail : ∀ c ∈ tail.head?, mark c = false ∧ inside c = false) : back = [] ∧ tail = [] := by
  have hboth : back = tail → back = [] ∧ tail = [] := by
    rintro rfl
    rcases back with _ | ⟨c, more⟩
    · exact ⟨rfl, rfl⟩
    · exact absurd (hback c rfl) (by simp [(htail c rfl).1])
  rcases List.append_eq_append_iff.1 h with ⟨between, rfl, hbetween⟩ | ⟨between, rfl, hbetween⟩
  · -- The mark would stand in the body.
    rcases between with _ | ⟨c, between⟩
    · exact hboth hbetween
    · exact absurd (hback c (by rw [hbetween]; rfl)) (by simp [hbody c (by simp)])
  · -- The other character would stand in the first text.
    rcases between with _ | ⟨c, between⟩
    · exact hboth hbetween.symm
    · exact absurd (hfront c (by simp)) (by simp [(htail c (by rw [hbetween]; rfl)).2])

/-- A JavaScript import is refused where some other character comes before all quotes. -/
theorem javaScriptImport_refuses {body tail : List Char}
    (hbody : ∀ c ∈ body, isModuleQuote c = false)
    (htail : ∀ c ∈ tail.head?, isModuleQuote c = false ∧ isBindingChar c = false) :
    javaScriptImport.Refuses before (body ++ tail) := by
  refine refuses_of_reads fun text groups hreads hprefix => ?_
  obtain ⟨front, q, more, rfl, hq, hfront⟩ := exists_quote_of_reads hreads
  obtain ⟨later, hline⟩ := hprefix
  rw [List.append_assoc] at hline
  have hquote : ∀ c ∈ (q :: more ++ later).head?, isModuleQuote c = true := by
    rintro c ⟨⟩
    exact hq
  obtain ⟨hnil, -⟩ := eq_nil_of_append_eq hline hfront hquote hbody htail
  cases hnil

end Refusal

/-! ### What is preferred -/

section Preference

variable {before : Option Char} {rest : List Char}

/-- White space is taken up to what is no white space. -/
theorem Spacing.prefers (gap : Spacing) (hrest : ∀ c ∈ rest.head?, isBlank c = false) :
    Pattern.gap.Prefers before gap.text rest [] :=
  .many gap.blank hrest

theorem Space.prefers (s : Space) (hrest : ∀ c ∈ rest.head?, isBlank c = false) :
    space.Prefers before s.text rest [] :=
  .some1 s.ne_nil s.blank hrest

theorem Spacing.prefers_indented (gap : Spacing) (hrest : ∀ c ∈ rest.head?, isBlank c = false) :
    indented.Prefers none gap.text rest [] :=
  Prefers.start.seq (gap.prefers hrest)

/-- Behind a clause the line goes on with a comma, a comment or nothing, white space apart. -/
def Ends (rest : List Char) : Prop :=
  ∀ c ∈ (rest.dropWhile isBlank).head?, c = ',' ∨ c = '#'

theorem Ends.head? {p : Char → Bool} (h : Ends rest) (hblank : ∀ c, isBlank c = true → p c = false)
    (hcomma : p ',' = false) (hcomment : p '#' = false) : ∀ c ∈ rest.head?, p c = false := by
  intro c hc
  rcases rest with _ | ⟨d, more⟩
  · cases hc
  · obtain rfl := Option.some.inj hc
    rcases hd : isBlank d with _ | _
    · have hkeep : ((d :: more).dropWhile isBlank) = d :: more :=
        List.dropWhile_cons_of_neg (by simp [hd])
      rcases h d (by rw [hkeep]; rfl) with rfl | rfl
      · exact hcomma
      · exact hcomment
    · exact hblank d hd

/-- White space is no path character. -/
theorem isPathChar_of_isBlank {c : Char} (h : isBlank c = true) : isPathChar c = false := by
  by_contra hpath
  rw [Bool.not_eq_false] at hpath
  rw [IsSolid.isBlank (.inl hpath)] at h
  cases h

namespace Clause

/-- The name of a clause is taken as a whole. -/
theorem prefers_name (c : Clause IsDotted) (hrest : Ends rest) :
    (some1 isPathChar).Prefers before c.name (c.aliasText ++ rest) [] := by
  refine .some1 c.isItem.isPathChar.1 c.isItem.isPathChar.2.1 ?_
  rw [aliasText]
  rcases c.alias? with _ | a
  · exact hrest.head? (fun _ h => isPathChar_of_isBlank h) (by decide) (by decide)
  · rw [Option.elim_some, Alias.text, List.append_assoc, List.append_assoc, List.append_assoc]
    exact forall_head?_append a.before.ne_nil
      (fun d hd => isPathChar_of_isBlank (a.before.blank d hd)) _

/-- An alias is taken, and where there is none nothing is. -/
theorem prefers_alias (c : Clause IsDotted) (hrest : Ends rest) :
    asClause.Prefers before c.aliasText rest [] := by
  rw [aliasText]
  rcases c.alias? with _ | a
  · have hleads : (space ++ lit "as" ++ space ++ word).Leads 'a' :=
      ((((leads_lit (w := "as") rfl).after (p := space) ⟨fun _ h => h, fun _ h => h⟩).append
        _).append _)
    refine .absent (refuses_of_leads hleads (by decide) fun h => ?_)
    rcases hrest 'a' h with h | h <;> cases h
  · have has : ∀ d ∈ ("as".toList ++ (a.after.text ++ (a.name ++ rest))).head?,
        isBlank d = false := by
      rintro d ⟨⟩
      decide
    have hname : ∀ d ∈ (a.name ++ rest).head?, isBlank d = false :=
      forall_head?_append a.isName.1 (fun d hd => (a.isName.isSolid d hd).isBlank) _
    have hword : ∀ d ∈ rest.head?, isWord d = false :=
      hrest.head? (fun _ h => isWord_of_isBlank h) (by decide) (by decide)
    exact .left ((((a.before.prefers has).seq (.lit "as")).seq (a.after.prefers hname)).seq
      (.some1 a.isName.1 a.isName.2 hword))

end Clause

namespace Clauses

/-- In front of more clauses a clause ends. -/
theorem ends_otherText (others : List (Spacing × Spacing × Clause IsDotted)) (hrest : Ends rest) :
    Ends (otherText others ++ rest) := by
  rcases others with _ | ⟨o, others⟩
  · exact hrest
  · have htext : otherText (o :: others) ++ rest =
        o.1.text ++ ',' :: (o.2.1.text ++ o.2.2.text ++ (otherText others ++ rest)) := by
      simp [otherText]
    intro c hc
    rw [htext, List.dropWhile_append_of_pos o.1.blank, List.dropWhile_cons_of_neg (by decide)] at hc
    exact .inl (Option.some.inj hc).symm

/-- The clauses but the first are taken round by round. -/
theorem prefers_others (others : List (Spacing × Spacing × Clause IsDotted)) (hrest : Ends rest)
    (hlast : (rest.dropWhile isBlank).head? ≠ some ',') :
    (repeated (Pattern.gap ++ lit "," ++ Pattern.gap ++ some1 isPathChar ++ asClause)).Prefers before
      (otherText others) rest [] := by
  induction others generalizing before with
  | nil =>
    have hleads : (Pattern.gap ++ lit "," ++ Pattern.gap ++ some1 isPathChar ++ asClause).Leads ',' :=
      (((((leads_lit (w := ",") rfl).after (p := Pattern.gap) fun _ h => h).append _).append
        _).append _)
    exact .rest (refuses_of_leads hleads (by decide) hlast)
  | cons o others ih =>
    obtain ⟨gap, gap', c⟩ := o
    have hends : Ends (otherText others ++ rest) := ends_otherText others hrest
    have hname : ∀ d ∈ (c.name ++ (c.aliasText ++ (otherText others ++ rest))).head?,
        isBlank d = false :=
      forall_head?_append c.isItem.isPathChar.1
        (fun d hd => IsSolid.isBlank (.inl (c.isItem.isPathChar.2.1 d hd))) _
    have hcomma : ∀ d ∈ ([','] ++ (gap'.text ++ (c.name ++ (c.aliasText ++
        (otherText others ++ rest))))).head?, isBlank d = false := by
      rintro d ⟨⟩
      decide
    have hround : (Pattern.gap ++ lit "," ++ Pattern.gap ++ some1 isPathChar ++ asClause).Prefers before
        (gap.text ++ [','] ++ gap'.text ++ c.name ++ c.aliasText) (otherText others ++ rest) [] :=
      ((((gap.prefers hcomma).seq (.lit ",")).seq (gap'.prefers hname)).seq
        (c.prefers_name hends)).seq (c.prefers_alias hends)
    have htext : otherText (⟨gap, gap', c⟩ :: others) =
        (gap.text ++ [','] ++ gap'.text ++ c.name ++ c.aliasText) ++ otherText others := by
      simp [otherText, Clause.text]
    rw [htext]
    exact .round (by simp) hround ih

/-- The clauses of a plain import are taken as a whole. -/
theorem prefers (cs : Clauses IsDotted) (hrest : Ends rest)
    (hlast : (rest.dropWhile isBlank).head? ≠ some ',') :
    (some1 isPathChar ++ asClause ++
      repeated (Pattern.gap ++ lit "," ++ Pattern.gap ++ some1 isPathChar ++ asClause)).Prefers before
        cs.text rest [] := by
  have hends : Ends (otherText cs.others ++ rest) := ends_otherText _ hrest
  exact ((cs.first.prefers_name hends).seq (cs.first.prefers_alias hends)).seq
    (prefers_others cs.others hrest hlast)

/-- Clauses start with a character that is no white space. -/
theorem isBlank_of_head? {IsItem : List Char → Prop} (hsolid : Solid IsItem) (cs : Clauses IsItem) :
    ∀ c ∈ (cs.text ++ rest).head?, isBlank c = false := by
  obtain ⟨d, more, hcons, hd⟩ := cs.first.exists_cons hsolid
  intro c hc
  obtain rfl : d = c := by simpa [text, hcons] using hc
  exact hd.isBlank

end Clauses

/-- The comment is taken, and where there is none nothing is. -/
theorem Ending.prefers_comment (e : Ending) :
    (optional (lit "#" ++ anything)).Prefers before e.commentText [] [] := by
  obtain ⟨gap, comment, hline⟩ := e
  rcases comment with _ | text
  · exact .absent (refuses_of_leads ((leads_lit (w := "#") rfl).append _) (by decide) (by simp))
  · have htext : anything.Prefers ("#".toList.getLast?.or before) text [] [] :=
      .many (fun c hc => bne_iff_ne.2 fun heq => hline text rfl (heq ▸ hc)) (by simp)
    exact .left ((Prefers.lit "#").seq_all htext)

/-- A comment starts with its mark. -/
theorem Ending.eq_of_head? (e : Ending) : ∀ c ∈ e.commentText.head?, c = '#' := by
  rw [Ending.commentText]
  rcases e.comment with _ | text
  · rintro c ⟨⟩
  · rintro c ⟨⟩
    rfl

/-- What stands at the end of a line is a comment, white space apart. -/
theorem Ending.eq_of_head?_dropWhile (e : Ending) :
    ∀ c ∈ ((e.gap.text ++ e.commentText).dropWhile isBlank).head?, c = '#' := by
  intro c hc
  rw [List.dropWhile_append_of_pos e.gap.blank] at hc
  rcases htext : e.commentText with _ | ⟨d, text⟩
  · rw [htext] at hc
    cases hc
  · obtain rfl := e.eq_of_head? d (by rw [htext]; rfl)
    rw [htext, List.dropWhile_cons_of_neg (by decide)] at hc
    exact (Option.some.inj hc).symm

/-- A plain import is taken as a whole, and its clauses are kept. -/
theorem PlainImport.prefers (i : PlainImport) :
    pythonImport.Prefers none i.text [] [(1, i.clauses.text)] := by
  have hhead := i.ending.eq_of_head?_dropWhile
  have hends : Ends (i.ending.gap.text ++ i.ending.commentText) := fun c hc => .inr (hhead c hc)
  have hlast : ((i.ending.gap.text ++ i.ending.commentText).dropWhile isBlank).head? ≠ some ',' :=
    fun h => absurd (hhead ',' h) (by decide)
  have hcomment : ∀ c ∈ i.ending.commentText.head?, isBlank c = false := by
    intro c hc
    rw [i.ending.eq_of_head? c hc]
    decide
  have himport : ∀ c ∈ ("import".toList ++ (i.space.text ++ (i.clauses.text ++
      (i.ending.gap.text ++ i.ending.commentText)))).head?, isBlank c = false := by
    rintro c ⟨⟩
    decide
  have hstart := ((i.indent.prefers_indented himport).seq (.lit "import")).seq
    (i.space.prefers (i.clauses.isBlank_of_head? solid_isDotted))
  have hline := (((hstart.seq (.group (n := 1) (i.clauses.prefers hends hlast))).seq
    (i.ending.gap.prefers hcomment)).seq_all i.ending.prefers_comment).seq_all .finish
  rwa [List.append_nil] at hline

namespace Origin

variable (o : Origin)

/-- The origin starts with a dot or a name. -/
theorem isBlank_of_head?_dots : ∀ c ∈ (List.replicate o.dots '.' ++ (o.module.getD [] ++ rest)).head?,
    isBlank c = false := by
  intro c hc
  rcases hdots : o.dots with _ | n
  · rcases hmodule : o.module with _ | m
    · exact absurd hmodule (o.somewhere.resolve_left (not_not.2 hdots))
    · obtain ⟨hne, hchars, -⟩ := (o.isDotted m hmodule).isPathChar
      rw [hdots, hmodule] at hc
      exact forall_head?_append hne (fun d hd => IsSolid.isBlank (.inl (hchars d hd))) _ c hc
  · obtain rfl : '.' = c := by simpa [hdots, List.replicate_succ] using hc
    decide

/-- Behind the dots there is no other. -/
theorem head?_module {space : Space} :
    ∀ c ∈ (o.module.getD [] ++ (space.text ++ rest)).head?, (c == '.') = false := by
  intro c hc
  rcases hmodule : o.module with _ | m
  · rw [hmodule] at hc
    have hblank := forall_head?_append space.ne_nil space.blank rest c hc
    refine beq_false_of_ne ?_
    rintro rfl
    exact absurd hblank (by decide)
  · obtain ⟨hne, -, hdot⟩ := (o.isDotted m hmodule).isPathChar
    obtain ⟨d, more, rfl⟩ := List.exists_cons_of_ne_nil hne
    exact hdot c (by simpa [hmodule] using hc)

/-- Behind an origin all that is left is taken, and the dots, the module and the rest are kept. -/
theorem prefers {tail : List Char} (hne : tail ≠ []) (htail : ∀ c ∈ tail.head?, isBlank c = false)
    (hline : ∀ c ∈ tail, (c != '\n') = true) :
    pythonFrom.Prefers none (o.text ++ tail) []
      [(3, tail), (2, o.module.getD []), (1, List.replicate o.dots '.')] := by
  have hmodule : ∀ c ∈ o.module.getD [], isPathChar c = true := by
    rcases hmodule : o.module with _ | m
    · exact List.forall_mem_nil _
    · exact (o.isDotted m hmodule).isPathChar.2.1
  have hbefore : ∀ c ∈ (o.beforeImport.text ++ ("import".toList ++ (o.afterImport.text ++ tail))).head?,
      isPathChar c = false :=
    forall_head?_append o.beforeImport.ne_nil
      (fun c hc => isPathChar_of_isBlank (o.beforeImport.blank c hc)) _
  have hfrom : ∀ c ∈ ("from".toList ++ (o.space.text ++ (List.replicate o.dots '.' ++
      (o.module.getD [] ++ (o.beforeImport.text ++ ("import".toList ++
        (o.afterImport.text ++ tail))))))).head?, isBlank c = false := by
    rintro c ⟨⟩
    decide
  have himport : ∀ c ∈ ("import".toList ++ (o.afterImport.text ++ tail)).head?,
      isBlank c = false := by
    rintro c ⟨⟩
    decide
  have hdots : ∀ c ∈ List.replicate o.dots '.', (c == '.') = true := fun c hc =>
    beq_iff_eq.2 (List.eq_of_mem_replicate hc)
  have hstart := (((o.indent.prefers_indented hfrom).seq (.lit "from")).seq
    (o.space.prefers o.isBlank_of_head?_dots)).seq (.group (n := 1) (.many hdots o.head?_module))
  have hall := (((((hstart.seq (.group (n := 2) (.many hmodule hbefore))).seq
    (o.beforeImport.prefers himport)).seq (.lit "import")).seq
      (o.afterImport.prefers htail)).seq_all (.group (n := 3) (.some1 hne hline (by simp)))).seq_all
        .finish
  rwa [List.append_nil] at hall

end Origin

namespace FromImport

variable (i : FromImport)

/-- Behind the second keyword there is no white space left. -/
theorem isBlank_of_head?_tail : ∀ c ∈ i.tail.head?, isBlank c = false := by
  rw [tail, opening]
  rcases i.parens with _ | p
  · simp only [Option.elim_none, List.nil_append, List.append_assoc]
    exact i.clauses.isBlank_of_head? solid_isImported
  · intro c hc
    obtain rfl : '(' = c := by simpa using hc
    decide

/-- The line does not end before its comment does. -/
theorem ne_newline_of_mem_tail : ∀ c ∈ i.tail, (c != '\n') = true := by
  have hgap : ∀ gap : Spacing, ∀ c ∈ gap.text, (c != '\n') = true := fun gap c hc =>
    bne_iff_ne.2 (gap.isGap c hc).2
  have hopening : ∀ c ∈ i.opening, (c != '\n') = true := by
    rw [opening]
    rcases i.parens with _ | p
    · exact List.forall_mem_nil _
    · exact List.forall_mem_cons.2 ⟨by decide, hgap p.1⟩
  have hclosing : ∀ c ∈ i.closing, (c != '\n') = true := by
    rw [closing]
    rcases i.parens with _ | p
    · exact hgap _
    · exact List.forall_mem_append.2 ⟨List.forall_mem_append.2 ⟨hgap p.2, by simp⟩, hgap _⟩
  have hcomment : ∀ c ∈ i.ending.commentText, (c != '\n') = true := by
    rw [Ending.commentText]
    rcases hcomment : i.ending.comment with _ | text
    · exact List.forall_mem_nil _
    · exact List.forall_mem_cons.2 ⟨by decide, fun c hc =>
        bne_iff_ne.2 fun heq => i.ending.one_line text hcomment (heq ▸ hc)⟩
  intro c hc
  simp only [tail, List.mem_append] at hc
  rcases hc with (((hc | hc) | hc) | hc) | hc
  · exact hopening c hc
  · rcases i.clauses.mem_text solid_isImported hc with hc | hc | rfl
    · exact bne_iff_ne.2 (hc.ne (by decide) (by decide))
    · exact bne_iff_ne.2 hc.2
    · decide
  · rcases i.mem_commaText hc with hc | rfl
    · exact bne_iff_ne.2 hc.2
    · decide
  · exact hclosing c hc
  · exact hcomment c hc

theorem tail_ne_nil : i.tail ≠ [] := by
  obtain ⟨d, more, hcons, -⟩ := i.clauses.first.exists_cons solid_isImported
  simp [tail, Clauses.text, hcons]

end FromImport

end Preference

/-! ### Reading back -/

/-- The clauses of a plain import are read where neither of the first two forms is found. -/
theorem parse?_of_plain {line : List Char} {f : Found} (hjs : javaScriptImport.Refuses none line)
    (hfrom : pythonFrom.Refuses none line) (hplain : pythonImport.find? line = some f) :
    parse? line = some ⟨.python, (Text.cut ',' (f.group 1)).filterMap
      fun clause => (Text.words clause).head?, [], false⟩ := by
  rw [parse?, hjs.find?_eq_none trivial, hfrom.find?_eq_none trivial, hplain]

/-- A line with none of the forms of an import is read for a `require`. -/
theorem parse?_of_refuses {line : List Char} (hjs : javaScriptImport.Refuses none line)
    (hfrom : pythonFrom.Refuses none line) (hplain : pythonImport.find? line = none) :
    parse? line = (javaScriptRequire.find? line).map fun f => ofModule (f.group 1) := by
  rw [parse?, hjs.find?_eq_none trivial, hfrom.find?_eq_none trivial, hplain]

/-- Behind an indentation a pattern is refused that starts with another character. -/
theorem Spacing.refuses {p : Pattern} {c d : Char} {rest : List Char} (indent : Spacing)
    (h : p.Leads d) (hd : isBlank d = false) (hc : isBlank c = false) (hne : c ≠ d) :
    p.Refuses none (indent.text ++ c :: rest) := by
  refine refuses_of_leads h hd ?_
  rw [List.dropWhile_append_of_pos indent.blank, List.dropWhile_cons_of_neg (by simp [hc])]
  exact fun heq => hne (Option.some.inj heq)

/-- White space and solid characters are no quotes. -/
theorem isModuleQuote_eq_false {c : Char} (h : IsSolid c ∨ isBlank c = true) :
    isModuleQuote c = false := by
  by_contra hquote
  have heq : c = '\'' ∨ c = '"' := by
    simpa [isModuleQuote, among, or_iff_not_imp_left] using hquote
  rcases h with h | h
  · rcases heq with heq | heq
    · exact h.ne (by decide) (by decide) heq
    · exact h.ne (by decide) (by decide) heq
  · rcases heq with rfl | rfl <;> exact absurd h (by decide)

/-- A plain import is read back. -/
theorem PlainImport.parse?_text (i : PlainImport) :
    parse? i.text = some ⟨.python, i.clauses.names, [], false⟩ := by
  have hjs : javaScriptImport.Refuses none i.text := by
    rw [PlainImport.text]
    refine javaScriptImport_refuses (fun c hc => ?_) fun c hc => ?_
    · have himport : ∀ c ∈ "import".toList, isModuleQuote c = false := by decide
      simp only [List.mem_append] at hc
      rcases hc with (((hc | hc) | hc) | hc) | hc
      · exact isModuleQuote_eq_false (.inr (i.indent.blank c hc))
      · exact himport c hc
      · exact isModuleQuote_eq_false (.inr (i.space.blank c hc))
      · rcases i.clauses.mem_text solid_isDotted hc with hc | hc | rfl
        · exact isModuleQuote_eq_false (.inl hc)
        · exact isModuleQuote_eq_false (.inr hc.1)
        · decide
      · exact isModuleQuote_eq_false (.inr (i.ending.gap.blank c hc))
    · rw [i.ending.eq_of_head? c hc]
      decide
  have hfrom : pythonFrom.Refuses none i.text := by
    have htext : i.text = i.indent.text ++ 'i' :: ("mport".toList ++ i.space.text ++ i.clauses.text ++
        i.ending.gap.text ++ i.ending.commentText) := by
      simp [PlainImport.text]
    rw [htext]
    exact i.indent.refuses (c := 'i') leads_pythonFrom (by decide) (by decide) (by decide)
  rw [parse?_of_plain hjs hfrom (i.prefers.find? trivial)]
  exact congrArg (fun modules => some (⟨.python, modules, [], false⟩ : Import))
    i.clauses.filterMap_head?_words

/-- What stands behind an origin is read for its names. -/
theorem Origin.parse?_append (o : Origin) {tail : List Char} (hne : tail ≠ [])
    (htail : ∀ c ∈ tail.head?, isBlank c = false) (hline : ∀ c ∈ tail, (c != '\n') = true) :
    parse? (o.text ++ tail) = some ⟨.python, o.module.toList, clauseNames tail, o.dots != 0⟩ := by
  have hjs : javaScriptImport.Refuses none (o.text ++ tail) := by
    have htext : o.text ++ tail = o.indent.text ++ 'f' :: ("rom".toList ++ o.space.text ++
        List.replicate o.dots '.' ++ o.module.getD [] ++ o.beforeImport.text ++ "import".toList ++
        o.afterImport.text ++ tail) := by
      simp [Origin.text]
    rw [htext]
    exact o.indent.refuses (c := 'f') leads_javaScriptImport (by decide) (by decide) (by decide)
  have hmodules : (if (o.module.getD []).isEmpty then [] else [o.module.getD []]) = o.module.toList := by
    rcases hmodule : o.module with _ | m
    · rfl
    · simp [(o.isDotted m hmodule).isPathChar.1]
  have hrelative : (!(List.replicate o.dots '.').isEmpty) = (o.dots != 0) := by
    rcases o.dots with _ | n <;> rfl
  rw [parse?, hjs.find?_eq_none trivial, (o.prefers hne htail hline).find? trivial, ← hmodules,
    ← hrelative]
  rfl

/-- An import from an origin is read back. -/
theorem FromImport.parse?_text (i : FromImport) :
    parse? i.text = some ⟨.python, i.module.toList, i.clauses.names, i.dots != 0⟩ := by
  rw [FromImport.text, i.toOrigin.parse?_append i.tail_ne_nil i.isBlank_of_head?_tail
    i.ne_newline_of_mem_tail, i.clauseNames_tail]

/-- A Python import is read back as it was written: its modules and names in order, the names without
aliases, and whether there is a dot in front of the module. -/
theorem parse?_pythonImport (i : PythonImport) :
    parse? i.text = some ⟨.python, i.modules, i.names, i.relative⟩ := by
  cases i with
  | plain i => exact i.parse?_text
  | selective i => exact i.parse?_text

/-- An import of two modules, with a comment that reads like other imports. -/
def commentedImport : PlainImport where
  indent := ⟨"  ".toList, by decide⟩
  space := ⟨⟨"\t".toList, by decide⟩, by decide⟩
  clauses :=
    { first := ⟨"os.path".toList,
        ⟨["os".toList, "path".toList], by decide, by decide, by decide⟩,
        some ⟨.single, .single, "p".toList, by decide⟩⟩
      others := [(Space.single.toSpacing, .empty,
        ⟨"sys".toList, ⟨["sys".toList], by decide, by decide, by decide⟩, none⟩)] }
  ending := ⟨Space.single.toSpacing, some " from 'x', require('y')".toList, by decide⟩

/-- An import of two names from a relative module, in parentheses and with a last comma. -/
def relativeImport : FromImport where
  indent := .empty
  space := .single
  dots := 2
  module := some "models".toList
  isDotted := by
    rintro m ⟨⟩
    exact ⟨["models".toList], by decide, by decide, by decide⟩
  somewhere := by decide
  beforeImport := ⟨⟨"  ".toList, by decide⟩, by decide⟩
  afterImport := .single
  clauses :=
    { first := ⟨"User".toList, .inl (by decide),
        some ⟨.single, .single, "U".toList, by decide⟩⟩
      others := [(.empty, Space.single.toSpacing, ⟨"Group".toList, .inl (by decide), none⟩)] }
  lastComma := some Space.single.toSpacing
  parens := some (Space.single.toSpacing, .empty)
  ending := ⟨Space.single.toSpacing, some " import z, w".toList, by decide⟩

/-- Both are read back. -/
theorem parse?_pythonImport_commented :
    parse? "  import\tos.path as p ,sys # from 'x', require('y')".toList =
        some ⟨.python, ["os.path".toList, "sys".toList], [], false⟩ ∧
      parse? "from ..models  import ( User as U, Group ,) # import z, w".toList =
        some ⟨.python, ["models".toList], ["User".toList, "Group".toList], true⟩ :=
  ⟨parse?_pythonImport (.plain commentedImport), parse?_pythonImport (.selective relativeImport)⟩

end SourceAudit.Import
