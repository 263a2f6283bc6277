import Mathlib.Data.List.Flatten
import SourceAudit.Proofs.Report.Presentation
import SourceAudit.Proofs.Text.Reader
import SourceAudit.Text.Lines

/-!
# Tables in Markdown

A bar ends a cell of a row, unless a backslash is right in front of it. In the text of a cell every bar
gets a backslash, and there is a space on each side of the text, so that no backslash at its end is in
front of the bar behind it. What is written in the cells can therefore be read back from the row
(`readRow?_rowLine`), whatever backslashes and bars there are.

In a report each violation has one line in the table of its severity, and its entry is read back from
that line (`lines_render`).
-/

namespace SourceAudit

/-! ### Lines of texts one after the other -/

namespace Text

variable {s t line : List Char}

theorem linesFrom_append (read s t : List Char) :
    linesFrom read (s ++ '\n' :: t) = linesFrom read (s ++ ['\n']) ++ lines t := by
  induction s generalizing read with
  | nil => rfl
  | cons c rest ih =>
    rw [List.cons_append, List.cons_append, linesFrom, linesFrom]
    split
    · rw [ih, List.cons_append]
    · exact ih (c :: read)

/-- Behind a line break, lines are lines on their own. -/
theorem lines_append (h : s.getLast? = some '\n') (t : List Char) :
    lines (s ++ t) = lines s ++ lines t := by
  obtain ⟨front, rfl⟩ := List.getLast?_eq_some_iff.1 h
  rw [List.append_assoc]
  exact linesFrom_append [] front t

/-- The first line is what comes before the first line break. -/
theorem lines_line_append (hline : '\n' ∉ line) (hreturn : line.getLast? ≠ some '\r') (t : List Char) :
    lines (line ++ '\n' :: t) = line :: lines t := by
  have hfrom : ∀ (line read : List Char), '\n' ∉ line →
      linesFrom read (line ++ '\n' :: t) = (dropReturn (line.reverse ++ read)).reverse :: lines t := by
    intro line
    induction line with
    | nil => exact fun read _ => rfl
    | cons c rest ih =>
      intro read h
      obtain ⟨hc, hrest⟩ := not_or.1 (mt List.mem_cons.2 h)
      rw [List.cons_append, linesFrom, if_neg (Ne.symm hc), ih _ hrest, List.reverse_cons,
        List.append_assoc, List.singleton_append]
  have hkept : dropReturn line.reverse = line.reverse := by
    rw [← List.head?_reverse] at hreturn
    rw [dropReturn.eq_def]
    split
    · rename_i h
      rw [h] at hreturn
      exact absurd rfl hreturn
    · rfl
  rw [lines, hfrom line [] hline, List.append_nil, hkept, List.reverse_reverse]

end Text

namespace Report.Markdown

/-! ### Rows and their cells -/

/-- The character ends a cell: it is a bar, and no backslash is right in front of it. -/
def isBareBar (previous : Option Char) (c : Char) : Bool :=
  c == '|' && previous != some '\\'

/-- The number of bars that end a cell, behind a character. -/
def bareBarsFrom (previous : Option Char) : List Char → Nat
  | [] => 0
  | c :: rest => bareBarsFrom (some c) rest + if isBareBar previous c then 1 else 0

/-- The number of bars of a line with no backslash right in front of them. -/
def bareBars (line : List Char) : Nat :=
  bareBarsFrom none line

/-- The pieces between such bars, of which the begun one is given last character first. -/
def piecesFrom (previous : Option Char) (piece : List Char) : List Char → List (List Char)
  | [] => [piece.reverse]
  | c :: rest =>
    if isBareBar previous c then piece.reverse :: piecesFrom (some c) [] rest
    else piecesFrom (some c) (c :: piece) rest

/-- A line, split at the bars with no backslash right in front of them. -/
def pieces (line : List Char) : List (List Char) :=
  piecesFrom none [] line

/-- The row with these texts in its cells. -/
def rowOf (cells : List (List Char)) : List Char :=
  '|' :: cells.flatMap fun cell => ' ' :: (cell ++ " |".toList)

/-- There is one bar less than pieces. -/
theorem length_piecesFrom (previous : Option Char) (piece line : List Char) :
    (piecesFrom previous piece line).length = bareBarsFrom previous line + 1 := by
  induction line generalizing previous piece with
  | nil => rfl
  | cons c rest ih =>
    rw [piecesFrom, bareBarsFrom]
    split
    · rw [List.length_cons, ih]
    · rw [ih]

/-- A text without bars of its own is a piece, with the space behind it. -/
theorem piecesFrom_append {previous : Option Char} {text : List Char}
    (h : bareBarsFrom previous text = 0) (piece rest : List Char) :
    piecesFrom previous piece (text ++ ' ' :: '|' :: rest) =
      (piece.reverse ++ text ++ [' ']) :: piecesFrom (some '|') [] rest := by
  induction text generalizing previous piece with
  | nil =>
    have hspace : isBareBar previous ' ' = false := rfl
    have hbar : isBareBar (some ' ') '|' = true := rfl
    rw [List.nil_append, piecesFrom, hspace, if_neg Bool.false_ne_true, piecesFrom, hbar, if_pos rfl,
      List.reverse_cons, List.append_nil]
  | cons c text ih =>
    obtain ⟨htext, hc⟩ := Nat.add_eq_zero_iff.1 h
    have hplain : ¬ isBareBar previous c = true := fun hbar => by
      rw [if_pos hbar] at hc
      cases hc
    rw [List.cons_append, piecesFrom, if_neg hplain, ih htext, List.reverse_cons, List.append_assoc,
      List.append_assoc, List.append_assoc]
    rfl

/-- A row is split into its cells, with their spaces. -/
theorem pieces_rowOf {cells : List (List Char)} (h : ∀ cell ∈ cells, ∀ previous,
    bareBarsFrom previous cell = 0) :
    pieces (rowOf cells) = [] :: (cells.map fun cell => ' ' :: (cell ++ [' '])) ++ [[]] := by
  -- Behind the first bar the cells come one after the other, each with the bar that ends it.
  have hcells : piecesFrom (some '|') [] (cells.flatMap fun cell => ' ' :: (cell ++ " |".toList)) =
      (cells.map fun cell => ' ' :: (cell ++ [' '])) ++ [[]] := by
    induction cells with
    | nil => rfl
    | cons cell rest ih =>
      obtain ⟨hcell, hrest⟩ := List.forall_mem_cons.1 h
      have hspace : isBareBar (some '|') ' ' = false := rfl
      have htext : ' ' :: (cell ++ " |".toList) ++
          (rest.flatMap fun cell => ' ' :: (cell ++ " |".toList)) =
          ' ' :: (cell ++ ' ' :: '|' :: (rest.flatMap fun cell => ' ' :: (cell ++ " |".toList))) := by
        simp
      rw [List.flatMap_cons, htext, piecesFrom, hspace, if_neg Bool.false_ne_true,
        piecesFrom_append (hcell _), ih hrest]
      rfl
  have hbar : isBareBar none '|' = true := rfl
  rw [pieces, rowOf, piecesFrom, hbar, if_pos rfl, hcells]
  rfl

theorem bareBars_rowOf {cells : List (List Char)} (h : ∀ cell ∈ cells, ∀ previous,
    bareBarsFrom previous cell = 0) : bareBars (rowOf cells) = cells.length + 1 := by
  have hlength := congrArg List.length (pieces_rowOf h)
  rw [pieces, length_piecesFrom] at hlength
  simpa [bareBars] using hlength

/-! ### Escaped texts -/

/-- The text of a cell, in which bars are escaped and line breaks are spaces. -/
def escape (text : List Char) : List Char :=
  text.flatMap fun c => if c = '|' then ['\\', '|'] else if c = '\n' then [' '] else [c]

/-- Turns each backslash with a bar behind it into a bar. -/
def unescape : List Char → List Char
  | [] => []
  | '\\' :: '|' :: rest => '|' :: unescape rest
  | c :: rest => c :: unescape rest

/-- A character, or a space for a line break. -/
def spaced (c : Char) : Char :=
  if c = '\n' then ' ' else c

/-- A text with spaces for its line breaks. -/
def oneLine (text : List Char) : List Char :=
  text.map spaced

variable {c : Char} {text rest : List Char}

theorem spaced_ne_break (c : Char) : spaced c ≠ '\n' := by
  rw [spaced]
  split
  · decide
  · assumption

theorem spaced_eq_bar_iff : spaced c = '|' ↔ c = '|' := by
  rw [spaced]
  split
  · rename_i h
    subst h
    decide
  · rfl

theorem escape_bar (rest : List Char) : escape ('|' :: rest) = '\\' :: '|' :: escape rest := rfl

theorem escape_cons (h : c ≠ '|') (rest : List Char) :
    escape (c :: rest) = spaced c :: escape rest := by
  rw [escape, List.flatMap_cons, ← escape, if_neg h, spaced]
  split <;> rfl

/-- An escaped text has no bar that ends a cell, wherever it stands. -/
theorem bareBarsFrom_escape (text : List Char) (previous : Option Char) :
    bareBarsFrom previous (escape text) = 0 := by
  induction text generalizing previous with
  | nil => rfl
  | cons c rest ih =>
    by_cases h : c = '|'
    · subst h
      -- The bar stands right behind its own backslash.
      have hslash : isBareBar previous '\\' = false := rfl
      have hbar : isBareBar (some '\\') '|' = false := rfl
      rw [escape_bar, bareBarsFrom, bareBarsFrom, ih, hslash, hbar]
      rfl
    · have hplain : isBareBar previous (spaced c) = false := by
        rw [isBareBar, beq_false_of_ne (mt spaced_eq_bar_iff.1 h), Bool.false_and]
      rw [escape_cons h, bareBarsFrom, ih, hplain]
      rfl

/-- The first bar of an escaped text has its backslash in front of it. -/
theorem head?_escape_ne (text : List Char) : (escape text).head? ≠ some '|' := by
  rcases text with _ | ⟨c, rest⟩
  · exact nofun
  by_cases h : c = '|'
  · subst h
    exact fun heq => absurd (Option.some.inj heq) (by decide)
  · rw [escape_cons h]
    exact fun heq => h (spaced_eq_bar_iff.1 (Option.some.inj heq))

theorem unescape_cons (h : rest.head? ≠ some '|') : unescape (c :: rest) = c :: unescape rest := by
  rw [unescape.eq_def]
  split
  · rename_i hnil
    cases hnil
  · rename_i heq
    rw [(List.cons.inj heq).2] at h
    exact absurd rfl h
  · rename_i heq
    obtain ⟨rfl, rfl⟩ := List.cons.inj heq
    rfl

/-- An escaped text is read back, with spaces for the line breaks. -/
theorem unescape_escape (text : List Char) : unescape (escape text) = oneLine text := by
  induction text with
  | nil => rfl
  | cons c rest ih =>
    rw [oneLine, List.map_cons, ← oneLine, ← ih]
    by_cases h : c = '|'
    · subst h
      rfl
    · rw [escape_cons h, unescape_cons (head?_escape_ne rest)]

theorem break_not_mem_escape (text : List Char) : '\n' ∉ escape text := by
  induction text with
  | nil => exact List.not_mem_nil
  | cons c rest ih =>
    by_cases h : c = '|'
    · subst h
      rw [escape_bar]
      simp [ih]
    · rw [escape_cons h]
      exact List.not_mem_cons_of_ne_of_not_mem (spaced_ne_break c).symm ih

/-- A text without line breaks stays as it is. -/
theorem oneLine_eq_self (h : '\n' ∉ text) : oneLine text = text := by
  have hspaced : ∀ c ∈ text, spaced c = c := by
    intro c hc
    refine if_neg ?_
    rintro rfl
    exact h hc
  rw [oneLine, List.map_congr_left hspaced, List.map_id']

/-- A text without bars and line breaks is its own escape. -/
theorem escape_eq_self (hbar : '|' ∉ text) (hbreak : '\n' ∉ text) : escape text = text := by
  induction text with
  | nil => rfl
  | cons c rest ih =>
    obtain ⟨hc, hrest⟩ := not_or.1 (mt List.mem_cons.2 hbar)
    obtain ⟨hc', hrest'⟩ := not_or.1 (mt List.mem_cons.2 hbreak)
    rw [escape_cons (Ne.symm hc), ih hrest hrest', spaced, if_neg (Ne.symm hc')]

/-! ### Rows of violations -/

/-- What the row of a violation says. -/
structure Entry where
  rule : List Char
  category : List Char
  file : List Char
  line : List Char
  description : List Char
deriving DecidableEq

/-- The entry of a violation, with spaces for line breaks, and with a dash if there is no line. -/
def entryOf (v : Violation) : Entry where
  rule := v.ruleId.toList
  category := v.category.name.toList
  file := oneLine v.filePath.toList
  line := ((v.lineNumber.map Nat.repr).getD "-").toList
  description := oneLine v.description.toList

/-- Takes away a mark on each side of a text. -/
def unwrap? (mark : Char) : List Char → Option (List Char)
  | [] => none
  | c :: rest => if c = mark ∧ rest.getLast? = some mark then some rest.dropLast else none

/-- The text of a cell: without its spaces, and with its bars. -/
def readCell? (piece : List Char) : Option (List Char) :=
  (unwrap? ' ' piece).map unescape

/-- Reads a row. The rule and the line are set as code. -/
def readRow? (row : List Char) : Option Entry :=
  match pieces row with
  | [[], rule, category, file, line, description, []] => do
    return {
      rule := ← (readCell? rule).bind (unwrap? '\x60')
      category := ← readCell? category
      file := ← readCell? file
      line := ← (readCell? line).bind (unwrap? '\x60')
      description := ← readCell? description }
  | _ => none

/-- The texts in the row of a violation. -/
def rowTexts (v : Violation) : List (List Char) :=
  [(code v.ruleId).toList, v.category.name.toList, v.filePath.toList,
    (code ((v.lineNumber.map Nat.repr).getD "-")).toList, v.description.toList]

/-- The row of a violation, without its line break. -/
def rowLine (v : Violation) : List Char :=
  rowOf ((rowTexts v).map escape)

theorem unwrap?_wrapped (mark : Char) (text : List Char) :
    unwrap? mark (mark :: (text ++ [mark])) = some text := by
  rw [unwrap?, List.getLast?_concat, if_pos ⟨rfl, rfl⟩, List.dropLast_concat]

/-- What was written in a cell is read. -/
theorem readCell?_escape (text : List Char) :
    readCell? (' ' :: (escape text ++ [' '])) = some (oneLine text) := by
  rw [readCell?, unwrap?_wrapped, Option.map_some, unescape_escape]

theorem toList_code (text : String) : (code text).toList = '\x60' :: (text.toList ++ ['\x60']) := by
  simp [code]

theorem plain_name (category : Category) :
    '|' ∉ category.name.toList ∧ '\n' ∉ category.name.toList := by
  cases category <;> decide

/-- Numbers of lines have neither bars nor line breaks. -/
theorem plain_lineNumber (number : Option Nat) :
    '|' ∉ ((number.map Nat.repr).getD "-").toList ∧ '\n' ∉ ((number.map Nat.repr).getD "-").toList := by
  rcases number with _ | n
  · decide
  · exact ⟨fun h => absurd (Text.isDigit_of_mem_decimal h) (by decide),
      fun h => absurd (Text.isDigit_of_mem_decimal h) (by decide)⟩

theorem plain_code {text : String} (h : '|' ∉ text.toList ∧ '\n' ∉ text.toList) :
    '|' ∉ (code text).toList ∧ '\n' ∉ (code text).toList := by
  rw [toList_code]
  simpa using h

/-- The rule of the violation has neither bars nor line breaks in its identifier. -/
def HasPlainRule (v : Violation) : Prop :=
  '|' ∉ v.ruleId.toList ∧ '\n' ∉ v.ruleId.toList

variable {v : Violation}

/-- The row of a violation is made of the escaped texts. -/
theorem toList_row (h : HasPlainRule v) : (row v).toList = rowLine v ++ ['\n'] := by
  have hplain : ∀ {text : List Char}, '|' ∉ text ∧ '\n' ∉ text → escape text = text :=
    fun h => escape_eq_self h.1 h.2
  -- Texts without bars and line breaks are written as they are, so all five are escaped texts.
  have htexts : (rowTexts v).map escape = [(code v.ruleId).toList, v.category.name.toList,
      (cell v.filePath).toList, (code ((v.lineNumber.map Nat.repr).getD "-")).toList,
      (cell v.description).toList] := by
    simp only [rowTexts, List.map_cons, List.map_nil, hplain (plain_code h),
      hplain (plain_name v.category), hplain (plain_code (plain_lineNumber v.lineNumber)), cell,
      String.toList_ofList]
    rfl
  rw [rowLine, htexts]
  unfold row
  simp [rowOf]

theorem bareBars_rowLine (v : Violation) : bareBars (rowLine v) = 6 := by
  rw [rowLine, bareBars_rowOf]
  · rfl
  · exact List.forall_mem_map.2 fun text _ => bareBarsFrom_escape text

theorem break_not_mem_rowLine (v : Violation) : '\n' ∉ rowLine v := by
  have hcell : ∀ cell ∈ (rowTexts v).map escape, '\n' ∉ ' ' :: (cell ++ " |".toList) := by
    refine List.forall_mem_map.2 fun text _ => ?_
    simp [break_not_mem_escape]
  rw [rowLine, rowOf, List.mem_cons, List.mem_flatMap]
  rintro (h | ⟨cell, hmem, h⟩)
  · exact absurd h (by decide)
  · exact hcell cell hmem h

theorem getLast?_rowLine (v : Violation) : (rowLine v).getLast? = some '|' := by
  have hrow : rowLine v = rowOf ((rowTexts v).map escape).dropLast ++
      ' ' :: (escape v.description.toList ++ [' ']) ++ ['|'] := by
    simp [rowLine, rowOf, rowTexts]
  rw [hrow, List.getLast?_concat]

/-- The entry of a violation is read from its row. -/
theorem readRow?_rowLine (h : HasPlainRule v) : readRow? (rowLine v) = some (entryOf v) := by
  have hpieces : pieces (rowLine v) =
      [] :: (((rowTexts v).map escape).map fun cell => ' ' :: (cell ++ [' '])) ++ [[]] :=
    pieces_rowOf (List.forall_mem_map.2 fun text _ => bareBarsFrom_escape text)
  have hcode : ∀ {text : String}, '\n' ∉ text.toList →
      unwrap? '\x60' (oneLine (code text).toList) = some text.toList := by
    intro text htext
    rw [oneLine_eq_self, toList_code, unwrap?_wrapped]
    simpa [toList_code] using htext
  rw [readRow?, hpieces]
  simp only [rowTexts, List.map_cons, List.map_nil, List.cons_append, List.nil_append,
    readCell?_escape, Option.bind_some, hcode h.2, hcode (plain_lineNumber v.lineNumber).2,
    oneLine_eq_self (plain_name v.category).2]
  rfl

/-! ### Tables -/

/-- The line is the row of a violation: six bars have no backslash right in front of them, and the entry
of the violation is read from it. -/
structure IsRowOf (line : List Char) (v : Violation) : Prop where
  bars : bareBars line = 6
  read : readRow? line = some (entryOf v)

/-- The lines of a table for violations of a severity: a heading with their number, the names of the
columns and the rows. -/
def tableLines (severity : Severity) (rows : List Text.Line) : List Text.Line :=
  ("### " ++ severity.name ++ " (" ++ rows.length.repr ++ ")").toList :: [] ::
    "| Rule | Category | File | Line | Description |".toList :: "|---|---|---|---|---|".toList ::
      (rows ++ [[]])

/-- The lines are a table with exactly one row for each violation of the group, in their order. -/
def IsTableOf (lines : List Text.Line) (g : Severity × List Violation) : Prop :=
  ∃ rows, List.Forall₂ IsRowOf rows g.2 ∧ lines = tableLines g.1 rows

/-- What stands before the tables of a report. -/
def beforeTables (r : Report) : String :=
  overview r ++ summary r ++ r.markdownNote ++ "## Violations\n\n" ++
    if r.violations = [] then "No violations found.\n\n" else ""

variable {violations : List Violation} {g : Severity × List Violation}

theorem isTableOf_rowLine (h : ∀ v ∈ g.2, HasPlainRule v) :
    IsTableOf (tableLines g.1 (g.2.map rowLine)) g := by
  refine ⟨g.2.map rowLine, ?_, rfl⟩
  rw [List.forall₂_map_left_iff, List.forall₂_same]
  exact fun v hv => ⟨bareBars_rowLine v, readRow?_rowLine (h v hv)⟩

/-- Rows are lines of their own. -/
theorem lines_rows (h : ∀ v ∈ violations, HasPlainRule v) (t : List Char) :
    Text.lines ((String.join (violations.map row)).toList ++ t) =
      violations.map rowLine ++ Text.lines t := by
  induction violations with
  | nil => rfl
  | cons v rest ih =>
    obtain ⟨hv, hrest⟩ := List.forall_mem_cons.1 h
    have hreturn : (rowLine v).getLast? ≠ some '\r' := by
      rw [getLast?_rowLine]
      decide
    rw [List.map_cons, String.join_cons, String.toList_append, toList_row hv, List.append_assoc,
      List.append_assoc, List.singleton_append,
      Text.lines_line_append (break_not_mem_rowLine v) hreturn, ih hrest, List.map_cons,
      List.cons_append]

/-- A group of violations is a table. -/
theorem lines_group (h : ∀ v ∈ g.2, HasPlainRule v) (t : List Char) :
    Text.lines ((markdownGroup g).toList ++ t) =
      tableLines g.1 (g.2.map rowLine) ++ Text.lines t := by
  have hheading : '\n' ∉ ("### " ++ g.1.name ++ " (" ++ g.2.length.repr ++ ")").toList ∧
      ("### " ++ g.1.name ++ " (" ++ g.2.length.repr ++ ")").toList.getLast? ≠ some '\r' := by
    have hname : '\n' ∉ g.1.name.toList := by cases g.1 <;> decide
    have hnumber := (plain_lineNumber (some g.2.length)).2
    simp only [String.toList_append, List.mem_append, not_or]
    refine ⟨⟨⟨⟨⟨by decide, hname⟩, by decide⟩, hnumber⟩, by decide⟩, ?_⟩
    rw [List.getLast?_append_of_ne_nil _ (by decide)]
    decide
  -- Every part of a group ends with a line break.
  have htext : (markdownGroup g).toList ++ t =
      ("### " ++ g.1.name ++ " (" ++ g.2.length.repr ++ ")").toList ++ '\n' :: ([] ++ '\n' ::
        ("| Rule | Category | File | Line | Description |".toList ++ '\n' ::
          ("|---|---|---|---|---|".toList ++ '\n' ::
            ((String.join (g.2.map row)).toList ++ ([] ++ '\n' :: t))))) := by
    simp [markdownGroup]
  rw [htext, Text.lines_line_append hheading.1 hheading.2,
    Text.lines_line_append (by decide) (by decide), Text.lines_line_append (by decide) (by decide),
    Text.lines_line_append (by decide) (by decide), lines_rows h,
    Text.lines_line_append (by decide) (by decide), tableLines, List.length_map]
  simp

/-- Groups of violations are tables one after the other. -/
theorem lines_groups {groups : List (Severity × List Violation)}
    (h : ∀ g ∈ groups, ∀ v ∈ g.2, HasPlainRule v) (t : List Char) :
    Text.lines ((String.join (groups.map markdownGroup)).toList ++ t) =
      (groups.map fun g => tableLines g.1 (g.2.map rowLine)).flatten ++ Text.lines t := by
  induction groups with
  | nil => rfl
  | cons g rest ih =>
    obtain ⟨hg, hrest⟩ := List.forall_mem_cons.1 h
    rw [List.map_cons, String.join_cons, String.toList_append, List.append_assoc, lines_group hg,
      ih hrest, List.map_cons, List.flatten_cons, List.append_assoc]

/-- A report has tables between its beginning and its end. -/
theorem render_eq (detailed : Bool) (r : Report) : render detailed r =
    beforeTables r ++ String.join ((bySeverity r.violations).map markdownGroup) ++
      r.markdownEnd detailed := by
  have hgroups : String.join (Severity.all.map (table r.violations)) =
      String.join ((bySeverity r.violations).map markdownGroup) :=
    join_bySeverity r.violations fun s => rfl
  rw [render, hgroups, beforeTables, markdownNote, markdownEnd]
  by_cases hnone : r.violations = []
  · rw [bySeverity_eq_nil_iff.2 hnone, if_pos hnone, if_pos (List.isEmpty_iff.2 hnone)]
    simp only [List.map_nil, String.join_nil, String.append_empty, String.append_assoc]
  · rw [if_neg hnone, if_neg (mt List.isEmpty_iff.1 hnone)]
    simp only [String.append_empty, String.append_assoc]

/-- In a report every violation has exactly one line in the table of its severity: the line has six bars
that no backslash is right in front of, and what the violation says is read back from it, whatever
stands in its path and its description. -/
theorem lines_render (detailed : Bool) {r : Report} (h : ∀ v ∈ r.violations, HasPlainRule v) :
    ∃ groups tables, Arranged r.violations groups ∧ List.Forall₂ IsTableOf tables groups ∧
      Text.lines (render detailed r).toList =
        Text.lines (beforeTables r).toList ++ tables.flatten ++
          Text.lines (r.markdownEnd detailed).toList := by
  have harranged := arranged_bySeverity r.violations
  have hplain : ∀ g ∈ bySeverity r.violations, ∀ v ∈ g.2, HasPlainRule v := by
    intro g hg v hv
    refine h v ?_
    have hsorted : v ∈ (bySeverity r.violations).flatMap (·.2) := List.mem_flatMap.2 ⟨g, hg, hv⟩
    rw [harranged.sorted] at hsorted
    exact List.mem_mergeSort.1 hsorted
  refine ⟨bySeverity r.violations,
    (bySeverity r.violations).map fun g => tableLines g.1 (g.2.map rowLine), harranged, ?_, ?_⟩
  · rw [List.forall₂_map_left_iff, List.forall₂_same]
    exact fun g hg => isTableOf_rowLine (hplain g hg)
  · have hstart : (beforeTables r).toList.getLast? = some '\n' := by
      rw [beforeTables]
      split
      · simp
      · simp
    rw [render_eq, String.toList_append, String.toList_append, List.append_assoc,
      Text.lines_append hstart, lines_groups hplain, List.append_assoc]

/-- A violation with bars and backslashes in its path and its description. -/
def barredViolation : Violation where
  id := "v1"
  auditId := "a1"
  repositoryId := "r1"
  filePath := "a\\|b\\"
  lineNumber := some 12
  ruleId := "SEC001"
  category := .security
  severity := .critical
  description := "|x|\nends in \\"
  createdAt := ⟨0, 0, 0⟩

/-- A report of an audit that found it. -/
def barredReport : Report where
  repository := ⟨"r1", "octocat", "hello", "https://example.com/octocat/hello", ⟨0, 0, 0⟩, ⟨0, 0, 0⟩⟩
  audit := { id := "a1", repositoryId := "r1", startedAt := ⟨0, 0, 0⟩ }
  manifest := "requirements.txt"
  policy := .empty
  violations := [barredViolation]
  analyzed := ["a\\|b\\"]
  failed := []
  skipped := []
  truncated := false
  unreadable := []

theorem lines_render_barred :
    (∀ v ∈ barredReport.violations, HasPlainRule v) ∧
      (∃ groups tables, Arranged barredReport.violations groups ∧
        List.Forall₂ IsTableOf tables groups ∧
        Text.lines (render false barredReport).toList =
          Text.lines (beforeTables barredReport).toList ++ tables.flatten ++
            Text.lines (barredReport.markdownEnd false).toList) ∧
      rowLine barredViolation =
        "| \x60SEC001\x60 | security | a\\\\|b\\ | \x6012\x60 | \\|x\\| ends in \\ |".toList ∧
      readRow? (rowLine barredViolation) =
        some ⟨"SEC001".toList, "security".toList, "a\\|b\\".toList, "12".toList,
          "|x| ends in \\".toList⟩ := by
  have hplain : ∀ v ∈ barredReport.violations, HasPlainRule v :=
    List.forall_mem_singleton.2 ⟨by decide, by decide⟩
  exact ⟨hplain, lines_render false hplain, by decide +kernel, by decide +kernel⟩

end Report.Markdown

end SourceAudit
