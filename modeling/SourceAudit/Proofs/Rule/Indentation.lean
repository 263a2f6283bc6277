import SourceAudit.Proofs.Rule.Reports
import SourceAudit.Proofs.Text.Pieces

/-!
# The indentation of a file

The rule on indentation goes over the lines of a file once and carries along the kind of indentation
that the file uses so far. What it reports can be said of the file as a whole: the lines that mix
tabs and spaces, and those that are indented with the other kind than the first line which is indented
with one kind alone (`Misindented`).

The invariant of the pass is that the kind carried along is the one which the lines read so far
establish (`Known`). A step keeps it (`known_judgeIndent`), and under it what a step faults is what is
wrong in the file, whatever follows (`judgeIndent_eq_some_iff`). Mixed lines establish nothing, so the
file is judged the same without them.
-/

namespace SourceAudit.Rule

open Text (Line)

/-- The character of a kind of indentation. -/
def Indentation.char : Indentation → Char
  | .tabs => '\t'
  | .spaces => ' '

/-- The indentation of a line counts: the line is not blank, does not look binary and starts with a
run of spaces and tabs. -/
structure Indented (line : Line) : Prop where
  worded : ∃ c ∈ line, Text.isBlank c = false
  plain : Line.looksBinary line = false
  indented : indentRun line ≠ []

/-- The line is indented with both tabs and spaces. -/
structure MixesIndentation (line : Line) : Prop extends Indented line where
  tabs : '\t' ∈ indentRun line
  spaces : ' ' ∈ indentRun line

/-- The line is indented with one kind alone. -/
structure IndentedWith (kind : Indentation) (line : Line) : Prop extends Indented line where
  only : ∀ c ∈ indentRun line, c = kind.char

/-- The first of the lines that is indented with one kind alone is indented with this kind. -/
def Establishes (lines : List Line) (kind : Indentation) : Prop :=
  ∃ before line after, lines = before ++ line :: after ∧ IndentedWith kind line ∧
    ∀ other ∈ before, ∀ kind', ¬ IndentedWith kind' other

/-- What is wrong with the indentation of a line in a file. -/
inductive Misindented (lines : List Line) (line : Line) : String → Prop
  | mixed : MixesIndentation line → Misindented lines line "Indentation mixes tabs and spaces"
  | other {own established : Indentation} : IndentedWith own line → Establishes lines established →
    own ≠ established → Misindented lines line
      ("Indentation uses " ++ own.name ++ " but the file uses " ++ established.name)

section Kinds

variable {kind kind' : Indentation} {line : Line} {before after lines : List Line}

theorem eq_of_mem_indentRun {c : Char} (h : c ∈ indentRun line) : c = ' ' ∨ c = '\t' := by
  simpa using List.mem_takeWhile_imp h

/-- The run of a line that is indented with one kind alone holds the character of this kind and of no
other. -/
theorem IndentedWith.mem_char_iff (h : IndentedWith kind line) (kind' : Indentation) :
    kind'.char ∈ indentRun line ↔ kind' = kind := by
  have hchar : ∀ kind kind' : Indentation, kind'.char = kind.char → kind' = kind := by
    rintro (_ | _) (_ | _) <;> decide
  constructor
  · exact fun hmem => hchar kind kind' (h.only _ hmem)
  · rintro rfl
    obtain ⟨c, hc⟩ := List.exists_mem_of_ne_nil _ h.indented
    exact h.only c hc ▸ hc

/-- A line is indented with one kind at most. -/
theorem IndentedWith.unique (h : IndentedWith kind line) (h' : IndentedWith kind' line) :
    kind = kind' :=
  (h'.mem_char_iff kind).1 ((h.mem_char_iff kind).2 rfl)

/-- A mixed line is not indented with one kind alone. -/
theorem MixesIndentation.not_indentedWith (h : MixesIndentation line) : ¬ IndentedWith kind line := by
  intro h'
  have hchar : '\t' = ' ' := (h'.only _ h.tabs).trans (h'.only _ h.spaces).symm
  exact absurd hchar (by decide)

/-- A line whose indentation counts is mixed or indented with one kind alone. -/
theorem Indented.mixes_or_with (h : Indented line) :
    MixesIndentation line ∨ ∃ kind, IndentedWith kind line := by
  by_cases htabs : '\t' ∈ indentRun line
  · by_cases hspaces : ' ' ∈ indentRun line
    · exact .inl ⟨h, htabs, hspaces⟩
    · refine .inr ⟨.tabs, h, fun c hc => ?_⟩
      rcases eq_of_mem_indentRun hc with rfl | rfl
      · exact absurd hc hspaces
      · rfl
  · refine .inr ⟨.spaces, h, fun c hc => ?_⟩
    rcases eq_of_mem_indentRun hc with rfl | rfl
    · rfl
    · exact absurd hc htabs

/-- What lines establish is not changed by what follows. -/
theorem Establishes.append (h : Establishes before kind) (after : List Line) :
    Establishes (before ++ after) kind := by
  obtain ⟨front, line, back, rfl, hline, hfront⟩ := h
  exact ⟨front, line, back ++ after, by rw [List.append_assoc, List.cons_append], hline, hfront⟩

/-- A file establishes one kind at most. -/
theorem Establishes.unique (h : Establishes lines kind) (h' : Establishes lines kind') :
    kind = kind' := by
  obtain ⟨front, line, back, rfl, hline, hfront⟩ := h
  obtain ⟨front', line', back', heq, hline', hfront'⟩ := h'
  -- Neither of the two lines comes before the other.
  rcases List.append_eq_append_iff.1 heq with ⟨skipped, rfl, hskipped⟩ | ⟨skipped, rfl, hskipped⟩
  · rcases skipped with _ | ⟨first, skipped⟩
    · obtain ⟨rfl, -⟩ := List.cons.inj hskipped
      exact hline.unique hline'
    · obtain ⟨rfl, -⟩ := List.cons.inj hskipped
      exact absurd hline (hfront' line (by simp) kind)
  · rcases skipped with _ | ⟨first, skipped⟩
    · obtain ⟨rfl, -⟩ := List.cons.inj hskipped
      exact hline.unique hline'
    · obtain ⟨rfl, -⟩ := List.cons.inj hskipped
      exact absurd hline' (hfront line' (by simp) kind')

end Kinds

/-! ### One step -/

section Step

variable {line : Line} {before : List Line} {fileStyle : Option Indentation}

/-- What is wrong with a line of its kind in a file that uses another one so far. -/
def styleFault? (fileStyle : Option Indentation) (kind : Indentation) : Option String :=
  match fileStyle with
  | none => none
  | some established =>
    if established = kind then none
    else some ("Indentation uses " ++ kind.name ++ " but the file uses " ++ established.name)

/-- All that a step can do. -/
theorem judgeIndent_cases (fileStyle : Option Indentation) (line : Line) :
    ¬ Indented line ∧ judgeIndent fileStyle line = (fileStyle, none) ∨
      MixesIndentation line ∧
        judgeIndent fileStyle line = (fileStyle, some "Indentation mixes tabs and spaces") ∨
      ∃ kind, IndentedWith kind line ∧
        judgeIndent fileStyle line = (some (fileStyle.getD kind), styleFault? fileStyle kind) := by
  have hcounts : ((Text.trim line).isEmpty || Line.looksBinary line || (indentRun line).isEmpty) =
      false ↔ Indented line := by
    simp only [Bool.or_eq_false_iff, List.isEmpty_eq_false_iff, ne_eq, Text.trim_eq_nil_iff,
      not_forall, Bool.not_eq_true, exists_prop]
    exact ⟨fun h => ⟨h.1.1, h.1.2, h.2⟩, fun h => ⟨⟨h.worded, h.plain⟩, h.indented⟩⟩
  by_cases hindented : Indented line
  swap
  · exact .inl ⟨hindented, by rw [judgeIndent, if_pos (eq_true_of_ne_false (mt hcounts.1 hindented))]⟩
  rcases hindented.mixes_or_with with hmixed | ⟨kind, hkind⟩
  · refine .inr (.inl ⟨hmixed, ?_⟩)
    rw [judgeIndent, hcounts.2 hindented, List.contains_iff_mem.2 hmixed.tabs,
      List.contains_iff_mem.2 hmixed.spaces]
    rfl
  · refine .inr (.inr ⟨kind, hkind, ?_⟩)
    have hmixed : ((indentRun line).contains '\t' && (indentRun line).contains ' ') = false := by
      rw [Bool.and_eq_false_iff, ← Bool.not_eq_true, ← Bool.not_eq_true, List.contains_iff_mem,
        List.contains_iff_mem, ← not_and_or]
      rintro ⟨htabs, hspaces⟩
      exact MixesIndentation.not_indentedWith ⟨hindented, htabs, hspaces⟩ hkind
    have hstyle : (if (indentRun line).contains '\t' then Indentation.tabs else .spaces) = kind := by
      have htabs := hkind.mem_char_iff .tabs
      cases kind with
      | tabs => exact if_pos (List.contains_iff_mem.2 (htabs.2 rfl))
      | spaces => exact if_neg fun h => by cases htabs.1 (List.contains_iff_mem.1 h)
    rw [judgeIndent, hcounts.2 hindented, hmixed]
    simp only [hstyle, Bool.false_eq_true, if_false]
    rcases fileStyle with _ | established
    · rfl
    · by_cases hsame : established = kind
      · simp [styleFault?, hsame]
      · simp [styleFault?, hsame]

/-- A mixed line is faulted and changes nothing. -/
theorem judgeIndent_of_mixes (h : MixesIndentation line) :
    judgeIndent fileStyle line = (fileStyle, some "Indentation mixes tabs and spaces") := by
  rcases judgeIndent_cases fileStyle line with ⟨hnot, -⟩ | ⟨-, heq⟩ | ⟨kind, hkind, -⟩
  · exact absurd h.toIndented hnot
  · exact heq
  · exact absurd hkind h.not_indentedWith

/-- The kind is the one that the lines establish, if they establish one. -/
def Known (fileStyle : Option Indentation) (lines : List Line) : Prop :=
  match fileStyle with
  | none => ∀ line ∈ lines, ∀ kind, ¬ IndentedWith kind line
  | some kind => Establishes lines kind

/-- A step keeps what is known of the file. -/
theorem known_judgeIndent (h : Known fileStyle before) (line : Line) :
    Known (judgeIndent fileStyle line).1 (before ++ [line]) := by
  -- A line that is not indented with one kind alone establishes nothing.
  have hskip : (∀ kind, ¬ IndentedWith kind line) → Known fileStyle (before ++ [line]) := by
    intro hline
    rcases fileStyle with _ | established
    · intro other hother
      rcases List.mem_append.1 hother with hother | hother
      · exact h other hother
      · obtain rfl := List.mem_singleton.1 hother
        exact hline
    · exact h.append [line]
  rcases judgeIndent_cases fileStyle line with ⟨hnot, heq⟩ | ⟨hmixed, heq⟩ | ⟨kind, hkind, heq⟩
  · rw [heq]
    exact hskip fun kind hkind => hnot hkind.toIndented
  · rw [heq]
    exact hskip fun kind => hmixed.not_indentedWith
  · rw [heq]
    rcases fileStyle with _ | established
    · exact ⟨before, line, [], rfl, hkind, h⟩
    · exact h.append [line]

/-- What a step faults is what is wrong in the file, whatever follows. -/
theorem judgeIndent_eq_some_iff (h : Known fileStyle before) (line : Line) (after : List Line)
    (description : String) :
    (judgeIndent fileStyle line).2 = some description ↔
      Misindented (before ++ line :: after) line description := by
  rcases judgeIndent_cases fileStyle line with ⟨hnot, heq⟩ | ⟨hmixed, heq⟩ | ⟨kind, hkind, heq⟩
  · rw [heq]
    refine ⟨fun h => (nomatch h), fun hmis => ?_⟩
    cases hmis with
    | mixed hmixed => exact absurd hmixed.toIndented hnot
    | other hown => exact absurd hown.toIndented hnot
  · rw [heq]
    refine ⟨fun h => Option.some.inj h ▸ .mixed hmixed, fun hmis => ?_⟩
    cases hmis with
    | mixed => rfl
    | other hown => exact absurd hown hmixed.not_indentedWith
  · rw [heq]
    rcases fileStyle with _ | established
    -- The line is the first of one kind, so it is of the kind that the file establishes.
    · have hestablishes : Establishes (before ++ line :: after) kind :=
        ⟨before, line, after, rfl, hkind, h⟩
      refine ⟨fun h => (nomatch h), fun hmis => ?_⟩
      cases hmis with
      | mixed hmixed => exact absurd hkind hmixed.not_indentedWith
      | other hown hestablished hne =>
        exact absurd (hown.unique hkind |>.trans (hestablishes.unique hestablished)) hne
    · have hestablishes : Establishes (before ++ line :: after) established := h.append _
      have hfault : styleFault? (some established) kind = some description ↔
          kind ≠ established ∧ "Indentation uses " ++ kind.name ++ " but the file uses " ++
            established.name = description := by
        rw [styleFault?]
        split
        · rename_i heq
          simp [heq]
        · rename_i hne
          simp [Ne.symm hne]
      rw [hfault]
      constructor
      · rintro ⟨hne, rfl⟩
        exact .other hkind hestablishes hne
      · intro hmis
        cases hmis with
        | mixed hmixed => exact absurd hkind hmixed.not_indentedWith
        | other hown hestablished hne =>
          obtain rfl := hown.unique hkind
          obtain rfl := hestablished.unique hestablishes
          exact ⟨hne, rfl⟩

end Step

/-! ### The whole file -/

/-- What is reported for the lines that are left is what is wrong with them in the file. -/
theorem mem_indentReports_iff {fileStyle : Option Indentation} {before lines : List Line}
    (h : Known fileStyle before) (n k : Nat) (description : String) :
    ⟨n + k, description⟩ ∈ indentReports n fileStyle lines ↔
      ∃ line, lines[k]? = some line ∧ Misindented (before ++ lines) line description := by
  induction lines generalizing n k fileStyle before with
  | nil => simp [indentReports]
  | cons line rest ih =>
    have hnext := known_judgeIndent h line
    have hfault := judgeIndent_eq_some_iff h line rest description
    have hlater := lineByLine_indentReports (n + 1) (judgeIndent fileStyle line).1 rest
    have hcons : ∀ report, report ∈ indentReports n fileStyle (line :: rest) ↔
        (report.line = n ∧ (judgeIndent fileStyle line).2 = some report.description) ∨
          report ∈ indentReports (n + 1) (judgeIndent fileStyle line).1 rest := by
      intro report
      rcases report with ⟨m, d⟩
      rw [indentReports]
      rcases judgeIndent fileStyle line with ⟨next, _ | found⟩
      · simp
      · simp [eq_comm]
    rw [hcons]
    rcases k with _ | k
    · have hnot : ⟨n, description⟩ ∉ indentReports (n + 1) (judgeIndent fileStyle line).1 rest :=
        fun hmem => Nat.not_succ_le_self n (hlater.located hmem).1
      simp [hnot, hfault]
    · have hplace : n + (k + 1) = n + 1 + k := by omega
      have hne : ¬ n + 1 + k = n := by omega
      rw [hplace, ih hnext (n + 1) k, List.append_assoc, List.singleton_append]
      simp [hne]

/-- What is said of lines does not depend on their numbers. -/
theorem map_description_indentReports (n m : Nat) (fileStyle : Option Indentation)
    (lines : List Line) :
    (indentReports n fileStyle lines).map (·.description) =
      (indentReports m fileStyle lines).map (·.description) := by
  induction lines generalizing n m fileStyle with
  | nil => rfl
  | cons line rest ih =>
    rw [indentReports, indentReports]
    rcases judgeIndent fileStyle line with ⟨next, _ | description⟩
    · exact ih (n + 1) (m + 1) next
    · exact congrArg (description :: ·) (ih (n + 1) (m + 1) next)

/-- Without a mixed line the same is said of the other lines. -/
theorem indentReports_without {line : Line} (h : MixesIndentation line) (n : Nat)
    (fileStyle : Option Indentation) (before after : List Line) :
    ((indentReports n fileStyle (before ++ line :: after)).filter
        (·.line != n + before.length)).map (·.description) =
      (indentReports n fileStyle (before ++ after)).map (·.description) := by
  induction before generalizing n fileStyle with
  | nil =>
    have hlater : (indentReports (n + 1) fileStyle after).filter (·.line != n) =
        indentReports (n + 1) fileStyle after := by
      refine List.filter_eq_self.2 fun report hreport => bne_iff_ne.2 fun heq => ?_
      have hle := ((lineByLine_indentReports (n + 1) fileStyle after).located hreport).1
      omega
    rw [List.nil_append, List.nil_append, List.length_nil, Nat.add_zero, indentReports,
      judgeIndent_of_mixes h]
    dsimp only
    rw [List.filter_cons_of_neg (by simp), hlater]
    exact map_description_indentReports (n + 1) n fileStyle after
  | cons first before ih =>
    have hplace : n + (first :: before).length = n + 1 + before.length := by
      rw [List.length_cons]
      omega
    have hne : (n != n + 1 + before.length) = true := bne_iff_ne.2 (by omega)
    rw [hplace, List.cons_append, List.cons_append, indentReports, indentReports]
    rcases judgeIndent fileStyle first with ⟨next, _ | description⟩
    · exact ih (n + 1) next
    · simp only [List.filter_cons, hne, if_true, List.map_cons, ih (n + 1) next]

/-- The hits of the rule on indentation are those of the lines that are misindented in their file, one
for each and in the order of the lines. A mixed line does not establish what the file is indented with:
without it the same is said of the other lines. -/
theorem hits_mixedIndentation (c : Context) (content : String) :
    let lines := Text.lines content.toList
    let hits := mixedIndentation.hits c lines
    (∀ hit, hit ∈ hits ↔ ∃ k line description, lines[k]? = some line ∧
        Misindented lines line description ∧
        hit = { ruleId := "STY001", line := k + 1, category := .indentation, severity := .low,
                description }) ∧
      hits.Pairwise (·.line < ·.line) ∧
      ∀ (other : String) (before : List Line) (line : Line) (after : List Line),
        lines = before ++ line :: after → MixesIndentation line →
        Text.lines other.toList = before ++ after →
        (hits.filter (·.line != before.length + 1)).map (·.description) =
          (mixedIndentation.hits c (Text.lines other.toList)).map (·.description) := by
  intro lines hits
  have hstart : Known none [] := fun line hline => nomatch hline
  have hbyLine := lineByLine_indentReports 1 none lines
  refine ⟨fun hit => ?_, ?_, fun other before line after hlines hmixed hother => ?_⟩
  · constructor
    · intro hhit
      obtain ⟨report, hreport, rfl⟩ := List.mem_map.1 hhit
      -- Lines count from 1.
      obtain ⟨hle, -⟩ := hbyLine.located hreport
      have hplace : report = ⟨1 + (report.line - 1), report.description⟩ := by
        rw [Nat.add_sub_cancel' hle]
      rw [hplace] at hreport
      obtain ⟨line, hline, hmis⟩ := (mem_indentReports_iff hstart 1 _ _).1 hreport
      exact ⟨report.line - 1, line, report.description, hline, hmis,
        by rw [Nat.sub_add_cancel hle]; rfl⟩
    · rintro ⟨k, line, description, hline, hmis, rfl⟩
      have hreport := (mem_indentReports_iff hstart 1 k description).2 ⟨line, hline, hmis⟩
      rw [Nat.add_comm 1 k] at hreport
      exact List.mem_map_of_mem hreport
  · exact List.pairwise_map.2 hbyLine.ascending
  · have hall := descriptions_hits mixedIndentation c (Text.lines other.toList) fun _ => true
    rw [List.filter_true, List.filter_true] at hall
    rw [descriptions_hits mixedIndentation c lines (· != before.length + 1), hall, hother]
    have hwithout := indentReports_without hmixed 1 none before after
    rwa [← hlines, Nat.add_comm 1] at hwithout

/-- A mixed line between two others: it is faulted, and the last one is with it and without it. -/
theorem hits_mixedIndentation_between :
    let hits (content : String) := mixedIndentation.hits ⟨.empty, ∅, 5⟩ (Text.lines content.toList)
    ((hits "\ta\n \tb\n  c\n").map fun hit => (hit.line, hit.description)) =
        [(2, "Indentation mixes tabs and spaces"),
          (3, "Indentation uses spaces but the file uses tabs")] ∧
      ((hits "\ta\n \tb\n  c\n").filter (·.line != 2)).map (·.description) =
        (hits "\ta\n  c\n").map (·.description) := by
  intro hits
  have hindented : Indented " \tb".toList := ⟨⟨'b', by decide, by decide⟩, by decide, by decide⟩
  have hmixed : MixesIndentation " \tb".toList := ⟨hindented, by decide, by decide⟩
  have hwithout := (hits_mixedIndentation ⟨.empty, ∅, 5⟩ "\ta\n \tb\n  c\n").2.2 "\ta\n  c\n"
    ["\ta".toList] " \tb".toList ["  c".toList] (by decide) hmixed (by decide)
  exact ⟨by decide +kernel, hwithout⟩

end SourceAudit.Rule
