import Mathlib.Data.List.Basic
import SourceAudit.Proofs.Rule.Terminators

/-!
# Loop headers

In the header of a loop two terminators have nothing but white space between them if there is no
condition. The rule on terminators looks for the header `(;;)` and drops it first, but it does so before
white space is dropped, so the other headers without a condition are taken for doubled terminators.

Of the header of a loop the rule says so exactly if there is no condition and the header is not `(;;)`
(`doubled_header_iff`), as in `( ; ; )` (`doubled_header_spaced`). On any line, two terminators are in a
row exactly if there is nothing but white space between them (`occurs_terminators_iff`).
-/

namespace SourceAudit

/-! ### Texts in texts -/

namespace Text

variable {needle front text rest : List Char} {c : Char}

theorem occurs_iff : occurs needle text = true ↔ needle <:+: text := by
  induction text with
  | nil => rw [occurs, List.isEmpty_iff, List.infix_nil]
  | cons c rest ih =>
    rw [occurs, Bool.or_eq_true, List.isPrefixOf_iff_prefix, ih, List.infix_cons_iff]

/-- The characters that belong to an occurrence are dropped. -/
theorem removeFrom_eq (skip : Nat) : removeFrom needle skip text = remove needle (text.drop skip) := by
  induction skip generalizing text with
  | zero => rfl
  | succ skip ih =>
    rcases text with _ | ⟨c, rest⟩
    · rfl
    · exact ih

/-- Where a text does not occur, nothing is dropped. -/
theorem remove_eq_self (h : ¬ needle <:+: text) : remove needle text = text := by
  induction text with
  | nil => rfl
  | cons c rest ih =>
    have hprefix : ¬ needle.isPrefixOf (c :: rest) = true :=
      fun hp => h (List.isPrefixOf_iff_prefix.1 hp).isInfix
    have hrest : removeFrom needle 0 rest = rest :=
      ih fun hi => h (hi.trans (List.suffix_cons c rest).isInfix)
    rw [remove, removeFrom, if_neg hprefix, hrest]

/-- No occurrence begins where its first character is not. -/
theorem remove_append (h : c ∉ front) :
    remove (c :: needle) (front ++ rest) = front ++ remove (c :: needle) rest := by
  induction front with
  | nil => rfl
  | cons d front ih =>
    have hprefix : ¬ (c :: needle).isPrefixOf (d :: (front ++ rest)) = true := by
      rw [List.isPrefixOf_iff_prefix, List.cons_prefix_cons]
      rintro ⟨rfl, -⟩
      exact h List.mem_cons_self
    have hrest : removeFrom (c :: needle) 0 (front ++ rest) = front ++ remove (c :: needle) rest :=
      ih fun hc => h (List.mem_cons_of_mem d hc)
    rw [List.cons_append, remove, removeFrom, if_neg hprefix, hrest, List.cons_append]

/-- An occurrence is dropped. -/
theorem remove_occurrence :
    remove (c :: needle) (c :: needle ++ rest) = remove (c :: needle) rest := by
  have hprefix : (c :: needle).isPrefixOf (c :: (needle ++ rest)) = true :=
    List.isPrefixOf_iff_prefix.2 (List.prefix_append _ _)
  rw [List.cons_append, remove, removeFrom, if_pos hprefix, removeFrom_eq, List.length_cons,
    Nat.add_sub_cancel, List.drop_left]

end Text

/-! ### Code without comments -/

namespace Line

/-- Text without literals and comments is kept in the code, if the sign of a comment is not begun in it
and ended in the rest. -/
theorem code_append_of_uncommented {part rest : List Char} (hquotes : ∀ c ∈ part, isQuote c = false)
    (hhash : '#' ∉ part) (hslashes : ¬ "//".toList <:+: part) (hstar : ¬ "/*".toList <:+: part)
    (hrest : ∀ c ∈ rest.head?, c ≠ '/' ∧ c ≠ '*') : code (part ++ rest) = part ++ code rest := by
  induction part with
  | nil => rfl
  | cons c part ih =>
    obtain ⟨hc, hpart⟩ := List.forall_mem_cons.1 hquotes
    -- What makes a slash the sign of a comment is the character behind it.
    have hnext : c = '/' → (part ++ rest).head? ≠ some '/' ∧ (part ++ rest).head? ≠ some '*' := by
      rintro rfl
      rcases part with _ | ⟨d, part⟩
      · exact ⟨fun h => (hrest _ h).1 rfl, fun h => (hrest _ h).2 rfl⟩
      · have hsign : ∀ d' : Char, ¬ ['/', d'] <:+: '/' :: d :: part → d ≠ d' := by
          rintro d' h rfl
          exact h (List.prefix_append ['/', d] part).isInfix
        exact ⟨fun h => hsign '/' hslashes (Option.some.inj h),
          fun h => hsign '*' hstar (Option.some.inj h)⟩
    have hstarts : ¬ startsComment (c :: (part ++ rest)) = true := by
      rw [startsComment_cons_iff]
      rintro (rfl | ⟨hslash, h | h⟩)
      · exact hhash List.mem_cons_self
      · exact (hnext hslash).1 h
      · exact (hnext hslash).2 h
    have hinfix : part <:+: c :: part := (List.suffix_cons c part).isInfix
    rw [List.cons_append, code, split, splitFrom, if_neg hstarts, hc, if_neg Bool.false_ne_true,
      Parts.consCode, ← split, ← code, ih hpart (fun h => hhash (List.mem_cons_of_mem c h))
      (fun h => hslashes (h.trans hinfix)) (fun h => hstar (h.trans hinfix)), List.cons_append]

end Line

/-! ### Headers -/

namespace Rule

open Text (Line isBlank)

/-- What the rule says of two terminators with nothing but white space between them. -/
def doubled : String := "Double statement terminator ';;'"

/-- A part of the header of a loop: there are no terminators, parentheses, literals and comments in it,
and it is no binary data. -/
structure IsHeaderPart (part : List Char) : Prop where
  terminator : ';' ∉ part
  opening : '(' ∉ part
  closing : ')' ∉ part
  quotes : ∀ c ∈ part, Line.isQuote c = false
  hash : '#' ∉ part
  slashes : ¬ "//".toList <:+: part
  star : ¬ "/*".toList <:+: part
  looksBinary : Line.looksBinary part = false

theorem isHeaderPart_iff {part : List Char} : IsHeaderPart part ↔
    (';' ∉ part ∧ '(' ∉ part ∧ ')' ∉ part ∧ '#' ∉ part) ∧ (∀ c ∈ part, Line.isQuote c = false) ∧
      ¬ "//".toList <:+: part ∧ ¬ "/*".toList <:+: part ∧ Line.looksBinary part = false :=
  ⟨fun h => ⟨⟨h.terminator, h.opening, h.closing, h.hash⟩, h.quotes, h.slashes, h.star,
    h.looksBinary⟩, fun ⟨⟨terminator, opening, closing, hash⟩, quotes, slashes, star, binary⟩ =>
    ⟨terminator, opening, closing, quotes, hash, slashes, star, binary⟩⟩

instance : DecidablePred IsHeaderPart := fun _ => decidable_of_iff _ isHeaderPart_iff.symm

/-- The header of a loop, on a line of its own. -/
structure LoopHeader where
  indent : List Char
  isBlank_indent : ∀ c ∈ indent, isBlank c = true := by decide
  space : List Char
  isBlank_space : ∀ c ∈ space, isBlank c = true := by decide
  start : List Char
  isHeaderPart_start : IsHeaderPart start := by decide
  condition : List Char
  isHeaderPart_condition : IsHeaderPart condition := by decide
  step : List Char
  isHeaderPart_step : IsHeaderPart step := by decide

namespace LoopHeader

variable (header : LoopHeader)

/-- What stands in front of the parts. -/
def front : List Char :=
  header.indent ++ "for".toList ++ header.space

/-- The parts with the terminators between them. -/
def parts : List Char :=
  header.start ++ ';' :: (header.condition ++ ';' :: header.step)

/-- The line with the header. -/
def text : List Char :=
  header.front ++ '(' :: (header.parts ++ ") \x7b".toList)

end LoopHeader

/-! ### Doubled terminators -/

/-- Two terminators in a row, white space apart. -/
theorem occurs_terminators_iff {text : List Char} :
    Text.occurs [';', ';'] (text.filter fun c => !isBlank c) = true ↔
      ∃ front gap back, text = front ++ ';' :: (gap ++ ';' :: back) ∧
        ∀ c ∈ gap, isBlank c = true := by
  rw [Text.occurs_iff]
  constructor
  · rintro ⟨before, after, h⟩
    rw [List.append_assoc] at h
    obtain ⟨front, rest, rfl, -, hrest⟩ := List.filter_eq_append_iff.1 h.symm
    obtain ⟨gap, rest, rfl, hgap, -, hrest⟩ := List.filter_eq_cons_iff.1 hrest
    obtain ⟨gap', back, rfl, hgap', -, -⟩ := List.filter_eq_cons_iff.1 hrest
    refine ⟨front ++ gap, gap', back, by simp, fun c hc => by simpa using hgap' c hc⟩
  · rintro ⟨front, gap, back, rfl, hgap⟩
    have hnone : (gap.filter fun c => !isBlank c) = [] := by
      simpa using hgap
    refine ⟨front.filter fun c => !isBlank c, back.filter fun c => !isBlank c, ?_⟩
    have hterminator : isBlank ';' = false := by decide
    simp [hterminator, hnone]

/-- Where there are no others, two terminators are in a row if there is nothing but white space between
them. -/
theorem occurs_two_terminators_iff {front gap back : List Char} (hfront : ';' ∉ front)
    (hgap : ';' ∉ gap) (hback : ';' ∉ back) :
    Text.occurs [';', ';'] ((front ++ ';' :: (gap ++ ';' :: back)).filter fun c => !isBlank c) =
        true ↔ ∀ c ∈ gap, isBlank c = true := by
  rw [occurs_terminators_iff]
  constructor
  · rintro ⟨front', gap', back', h, hblank⟩
    have hcount := congrArg (List.count ';') h
    simp only [List.count_append, List.count_cons_self, List.count_eq_zero.2 hfront,
      List.count_eq_zero.2 hgap, List.count_eq_zero.2 hback] at hcount
    have hfront' : ';' ∉ front' := List.count_eq_zero.1 (by omega)
    have hgap' : ';' ∉ gap' := List.count_eq_zero.1 (by omega)
    -- There are no other terminators on the right either, so both sides are cut into the same pieces.
    have hcut := congrArg (Text.cut ';') h
    rw [Text.cut_append_cons hfront, Text.cut_append_cons hgap, Text.cut_append_cons hfront',
      Text.cut_append_cons hgap', List.cons.injEq, List.cons.injEq] at hcut
    exact hcut.2.1 ▸ hblank
  · exact fun hblank => ⟨front, gap, back, rfl, hblank⟩

theorem terminatorFault?_eq_doubled_iff (passes : Nat → Bool) {code : List Char} :
    terminatorFault? passes code = some doubled ↔ hasDoubleTerminator code = true := by
  have hempty : "Empty block after control statement" ≠ doubled := by decide
  have hswallowed : swallowed ≠ doubled := by decide
  rw [terminatorFault?]
  split
  · rename_i h
    exact ⟨fun _ => h, fun _ => rfl⟩
  · rename_i h
    refine ⟨fun heq => ?_, fun hdouble => absurd hdouble h⟩
    split at heq
    · exact absurd (Option.some.inj heq) hempty
    split at heq
    · cases heq
    split at heq
    · exact absurd (Option.some.inj heq) hswallowed
    · cases heq

/-! ### The judgement of a header -/

/-- A part of a header is code, and so is what follows. -/
theorem IsHeaderPart.code_append {part : List Char} (h : IsHeaderPart part) {d : Char}
    (hkept : Line.isKept d = true) (hstar : d ≠ '*') (rest : List Char) :
    Line.code (part ++ d :: rest) = part ++ d :: Line.code rest := by
  have hd : Line.code ([d] ++ rest) = [d] ++ Line.code rest :=
    Line.code_append (List.forall_mem_singleton.2 hkept) rest
  rw [Line.code_append_of_uncommented h.quotes h.hash h.slashes h.star, ← List.singleton_append, hd,
    List.singleton_append]
  intro c hc
  obtain rfl := Option.some.inj hc
  exact ⟨(Line.isKept_iff.1 hkept).2.2, hstar⟩

namespace LoopHeader

variable (header : LoopHeader)

/-- White space apart, there is nothing but the keyword in front of the parts. -/
theorem blank_or_keyword_of_mem_front {c : Char} (h : c ∈ header.front) :
    isBlank c = true ∨ c ∈ "for".toList := by
  rcases List.mem_append.1 h with h | h
  · rcases List.mem_append.1 h with h | h
    · exact .inl (header.isBlank_indent c h)
    · exact .inr h
  · exact .inl (header.isBlank_space c h)

theorem not_mem_front {c : Char} (hblank : isBlank c = false) (hfor : c ∉ "for".toList) :
    c ∉ header.front := by
  intro h
  rcases header.blank_or_keyword_of_mem_front h with h | h
  · rw [hblank] at h
    cases h
  · exact hfor h

/-- All of the line is code. -/
theorem code_text : Line.code header.text = header.text := by
  have hfront : ∀ c ∈ header.front ++ ['('], Line.isKept c = true := by
    have hfor : ∀ c ∈ "for".toList, Line.isKept c = true := by decide
    refine List.forall_mem_append.2 ⟨fun c hc => ?_, by decide⟩
    exact (header.blank_or_keyword_of_mem_front hc).elim Line.isKept_of_isBlank (hfor c)
  have htext : header.text = (header.front ++ ['(']) ++ (header.start ++ ';' ::
      (header.condition ++ ';' :: (header.step ++ ')' :: " \x7b".toList))) := by
    simp [text, parts]
  rw [htext, Line.code_append hfront, header.isHeaderPart_start.code_append (by decide) (by decide),
    header.isHeaderPart_condition.code_append (by decide) (by decide),
    header.isHeaderPart_step.code_append (by decide) (by decide)]
  rfl

theorem looksBinary_text : Line.looksBinary header.text = false := by
  have hparts := header.isHeaderPart_start.looksBinary
  have hparts' := header.isHeaderPart_condition.looksBinary
  have hparts'' := header.isHeaderPart_step.looksBinary
  have hnul : '\x00' ∉ header.front := header.not_mem_front (by decide) (by decide)
  have hreplacement : '\uFFFD' ∉ header.front := header.not_mem_front (by decide) (by decide)
  simp_all [Line.looksBinary, text, parts]

/-- The text that the rule looks for is in the line exactly if nothing is in the parts of the header. -/
theorem endless_isInfix_text_iff :
    ['(', ';', ';', ')'] <:+: header.text ↔ header.parts = [';', ';'] := by
  have hfront : '(' ∉ header.front := header.not_mem_front (by decide) (by decide)
  have hparts : '(' ∉ header.parts ∧ ')' ∉ header.parts := by
    simp [parts, header.isHeaderPart_start.opening, header.isHeaderPart_start.closing,
      header.isHeaderPart_condition.opening, header.isHeaderPart_condition.closing,
      header.isHeaderPart_step.opening, header.isHeaderPart_step.closing]
  constructor
  · rintro ⟨before, after, h⟩
    -- There is one opening parenthesis in the line, and one closing parenthesis.
    have hopening : header.front ++ '(' :: (header.parts ++ ") \x7b".toList) =
        before ++ '(' :: ([';', ';'] ++ ')' :: after) := by
      rw [← text, ← h]
      simp
    have hclosing := ((List.append_cons_inj_of_notMem hfront (by simp [hparts.1])).1 hopening).2.2
    exact ((List.append_cons_inj_of_notMem hparts.2 (by decide)).1 hclosing).1
  · intro h
    exact ⟨header.front, " \x7b".toList, by rw [text, h]; simp⟩

/-- Nothing is left of the parts if they are those that the rule looks for. -/
theorem remove_text (h : header.parts = [';', ';']) :
    Text.remove ['(', ';', ';', ')'] header.text = header.front ++ " \x7b".toList := by
  have hopening : '(' ∉ header.front := header.not_mem_front (by decide) (by decide)
  have htext : header.text = header.front ++ (['(', ';', ';', ')'] ++ " \x7b".toList) := by
    rw [text, h]
    rfl
  rw [htext, Text.remove_append hopening, Text.remove_occurrence]
  rfl

/-- In the header of a loop the rule sees two terminators in a row if there is no condition, unless the
header is the one that it looks for. -/
theorem hasDoubleTerminator_text_iff : hasDoubleTerminator header.text = true ↔
    (∀ c ∈ header.condition, isBlank c = true) ∧ header.parts ≠ [';', ';'] := by
  have hfront : ';' ∉ header.front := header.not_mem_front (by decide) (by decide)
  rw [hasDoubleTerminator]
  by_cases h : header.parts = [';', ';']
  · -- Both terminators were dropped.
    refine iff_of_false ?_ fun hne => hne.2 h
    rw [header.remove_text h, occurs_terminators_iff]
    rintro ⟨before, gap, after, heq, -⟩
    have hmem : ';' ∈ header.front ++ " \x7b".toList := by
      rw [heq]
      exact List.mem_append_right before List.mem_cons_self
    simp [hfront] at hmem
  · rw [Text.remove_eq_self (mt header.endless_isInfix_text_iff.1 h), and_iff_left h]
    have htext : header.text = (header.front ++ '(' :: header.start) ++ ';' ::
        (header.condition ++ ';' :: (header.step ++ ") \x7b".toList)) := by
      simp [text, parts]
    rw [htext]
    exact occurs_two_terminators_iff (by simp [hfront, header.isHeaderPart_start.terminator])
      header.isHeaderPart_condition.terminator (by simp [header.isHeaderPart_step.terminator])

end LoopHeader

/-- The rule calls the terminators in the header of a loop doubled exactly if there is no condition and
the header is not `(;;)`, wherever the header stands in a file. -/
theorem doubled_header_iff (c : Context) {lines : List Line} {k : Nat} {header : LoopHeader}
    (hline : lines[k]? = some header.text) :
    (∃ hit ∈ statementTerminators.hits c lines, hit.line = k + 1 ∧ hit.description = doubled) ↔
      (∀ c ∈ header.condition, isBlank c = true) ∧ header.parts ≠ [';', ';'] := by
  have hsaid := descriptions_of_perLine (reports_statementTerminators c lines) k
  rw [hline, Option.bind_some, header.looksBinary_text, if_neg Bool.false_ne_true,
    header.code_text] at hsaid
  rw [← header.hasDoubleTerminator_text_iff,
    ← terminatorFault?_eq_doubled_iff (bodyIsPass · (lines.drop (k + 1))), ← Option.mem_toList,
    ← hsaid]
  simp only [List.mem_map, List.mem_filter, beq_iff_eq, and_assoc]

/-- Nothing is said of the terminators in a header with a condition. -/
theorem doubled_header_countdown :
    ∃ header : LoopHeader, header.text = "  for (let i = n / 2; i > 0; i -= 1) \x7b".toList ∧
      ["\x7b".toList, header.text][1]? = some header.text ∧
      ¬ ∃ hit ∈ statementTerminators.hits ⟨.empty, ∅, 5⟩ ["\x7b".toList, header.text],
        hit.line = 2 ∧ hit.description = doubled := by
  let header : LoopHeader :=
    { indent := "  ".toList, space := " ".toList, start := "let i = n / 2".toList,
      condition := " i > 0".toList, step := " i -= 1".toList }
  have hline : ["\x7b".toList, header.text][1]? = some header.text := rfl
  exact ⟨header, by decide, hline, fun h => absurd ((doubled_header_iff _ hline).1 h).1 (by decide)⟩

/-- With white space between them the terminators of an endless loop are called doubled. -/
theorem doubled_header_spaced :
    ∃ header : LoopHeader, header.text = "for ( ; ; ) \x7b".toList ∧
      statementTerminators.hits ⟨.empty, ∅, 5⟩ [header.text] =
        [{ ruleId := "STY002", line := 1, category := .terminators, severity := .medium,
           description := doubled }] := by
  let header : LoopHeader :=
    { indent := [], space := " ".toList, start := " ".toList, condition := " ".toList,
      step := " ".toList }
  exact ⟨header, by decide, by decide +kernel⟩

end Rule

end SourceAudit
