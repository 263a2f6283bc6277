import Mathlib.Data.List.Forall2
import SourceAudit.Rule.Catalogue

/-!
# Where reports stand

A rule goes over the lines of a file once and has at most one report for each; it has none for a line
that looks binary (`Rule.LineByLine`). This is how every rule of the catalogue comes to its reports,
those that carry something from line to line included (`lineByLine_catalogue`). So the reports stand
at lines of the file (`LineByLine.located`), in their order (`LineByLine.ascending`). A rule that judges
line by line has the reports on a line that the judgement of this line gives (`filter_perLineFrom`).
-/

namespace SourceAudit.Rule

open Text (Line)

/-- These reports come about line by line, for lines of which the first is line `n`. -/
inductive LineByLine : Nat → List Line → List Report → Prop
  | done (n : Nat) : LineByLine n [] []
  | pass {n : Nat} {rest : List Line} {reports : List Report} (line : Line)
      (later : LineByLine (n + 1) rest reports) : LineByLine n (line :: rest) reports
  | report {n : Nat} {line : Line} {rest : List Line} {reports : List Report}
      (description : String) (plain : Line.looksBinary line = false)
      (later : LineByLine (n + 1) rest reports) :
      LineByLine n (line :: rest) (⟨n, description⟩ :: reports)

namespace LineByLine

variable {n : Nat} {lines : List Line} {reports : List Report} {report : Report}

/-- A report stands at a line that does not look binary. -/
theorem located (h : LineByLine n lines reports) (hreport : report ∈ reports) :
    n ≤ report.line ∧
      ∃ line, lines[report.line - n]? = some line ∧ Line.looksBinary line = false := by
  -- One line further on, the same line has the place before.
  have hnext : ∀ {n m : Nat} {line : Line} {rest : List Line}, n + 1 ≤ m →
      (line :: rest)[m - n]? = rest[m - (n + 1)]? := by
    intro n m line rest hle
    have hplace : m - n = m - (n + 1) + 1 := by omega
    rw [hplace, List.getElem?_cons_succ]
  induction h with
  | done n => cases hreport
  | pass line later ih =>
    obtain ⟨hle, found⟩ := ih hreport
    rw [hnext hle]
    exact ⟨Nat.le_of_succ_le hle, found⟩
  | @report n line rest reports description plain later ih =>
    rcases List.mem_cons.1 hreport with rfl | hreport
    · exact ⟨Nat.le_refl n, line, by simp, plain⟩
    · obtain ⟨hle, found⟩ := ih hreport
      rw [hnext hle]
      exact ⟨Nat.le_of_succ_le hle, found⟩

/-- Reports are in the order of their lines, one for a line. -/
theorem ascending (h : LineByLine n lines reports) : reports.Pairwise (·.line < ·.line) := by
  induction h with
  | done n => exact .nil
  | pass line later ih => exact ih
  | report description plain later ih => exact .cons (fun r hr => (later.located hr).1) ih

end LineByLine

/-! ### The rules -/

theorem lineByLine_perLineFrom (judge : Line → List Line → Option String) (n : Nat)
    (lines : List Line) : LineByLine n lines (perLineFrom judge n lines) := by
  induction lines generalizing n with
  | nil => exact .done n
  | cons line rest ih =>
    simp only [perLineFrom]
    split
    · exact .pass line (ih (n + 1))
    rename_i hplain
    split
    · exact .report _ (eq_false_of_ne_true hplain) (ih (n + 1))
    · exact .pass line (ih (n + 1))

/-- The reports on a line that does not look binary are what its judgement gives. -/
theorem filter_perLineFrom {judge : Line → List Line → Option String} {n k : Nat} {lines : List Line}
    {line : Line} (hline : lines[k]? = some line) (hplain : Line.looksBinary line = false) :
    (perLineFrom judge n lines).filter (·.line == n + k) =
      ((judge line (lines.drop (k + 1))).map fun description => ⟨n + k, description⟩).toList := by
  induction lines generalizing n k with
  | nil => cases hline
  | cons first rest ih =>
    rcases k with _ | k
    · -- All later reports stand at later lines.
      obtain rfl := Option.some.inj hline
      have hlater : (perLineFrom judge (n + 1) rest).filter (·.line == n) = [] := by
        refine List.filter_eq_nil_iff.2 fun report hreport heq => ?_
        have hle := ((lineByLine_perLineFrom judge (n + 1) rest).located hreport).1
        rw [eq_of_beq heq] at hle
        omega
      simp only [perLineFrom, hplain, Nat.add_zero, List.drop_succ_cons, List.drop_zero]
      rcases judge first rest with _ | description
      · exact hlater
      · simp [hlater]
    · have hnext : (perLineFrom judge (n + 1) rest).filter (·.line == n + (k + 1)) =
          ((judge line (rest.drop (k + 1))).map fun description =>
            ⟨n + (k + 1), description⟩).toList := by
        have hplace : n + (k + 1) = n + 1 + k := by omega
        rw [hplace]
        exact ih hline
      rw [List.drop_succ_cons, ← hnext]
      simp only [perLineFrom]
      split
      · rfl
      · split
        · simp
        · rfl

/-- A report is the judgement of a line that does not look binary. -/
theorem mem_perLineFrom_iff {judge : Line → List Line → Option String} {n : Nat}
    {lines : List Line} {report : Report} :
    report ∈ perLineFrom judge n lines ↔
      ∃ k line later, lines.drop k = line :: later ∧ report.line = n + k ∧
        Line.looksBinary line = false ∧ judge line later = some report.description := by
  have hmem : ∀ {k line later}, lines.drop k = line :: later → report.line = n + k →
      Line.looksBinary line = false →
      (report ∈ perLineFrom judge n lines ↔ judge line later = some report.description) := by
    intro k line later hdrop hplace hplain
    have hline : lines[k]? = some line := by
      rw [← List.head?_drop, hdrop]
      rfl
    have hlater : lines.drop (k + 1) = later := by
      rw [← List.tail_drop, hdrop]
      rfl
    have hfilter : report ∈ (perLineFrom judge n lines).filter (·.line == n + k) ↔
        report ∈ perLineFrom judge n lines := by simp [hplace]
    rw [← hfilter, filter_perLineFrom hline hplain, hlater]
    rcases report with ⟨place, description⟩
    obtain rfl : place = n + k := hplace
    simp
  constructor
  · intro h
    obtain ⟨hle, line, hline, hplain⟩ := (lineByLine_perLineFrom judge n lines).located h
    obtain ⟨hk, rfl⟩ := List.getElem?_eq_some_iff.1 hline
    have hplace : report.line = n + (report.line - n) := by omega
    have hdrop := List.drop_eq_getElem_cons hk
    exact ⟨_, _, _, hdrop, hplace, hplain, (hmem hdrop hplace hplain).1 h⟩
  · rintro ⟨k, line, later, hdrop, hplace, hplain, hjudge⟩
    exact (hmem hdrop hplace hplain).2 hjudge

/-- What is reported line by line is what the judgements of lines that do not look binary give. -/
theorem mem_perLine_iff {judge : Line → List Line → Option String} {lines : List Line} {k : Nat}
    {description : String} :
    ⟨k + 1, description⟩ ∈ perLine judge lines ↔ ∃ line, lines[k]? = some line ∧
      Line.looksBinary line = false ∧ judge line (lines.drop (k + 1)) = some description := by
  rw [perLine, mem_perLineFrom_iff]
  constructor
  · rintro ⟨place, line, later, hdrop, hplace, hplain, hjudge⟩
    obtain rfl : k = place := Nat.succ.inj (hplace.trans (Nat.add_comm 1 place))
    refine ⟨line, ?_, hplain, ?_⟩
    · rw [← List.head?_drop, hdrop]
      rfl
    · rw [← List.tail_drop, hdrop]
      exact hjudge
  · rintro ⟨line, hline, hplain, hjudge⟩
    obtain ⟨hk, rfl⟩ := List.getElem?_eq_some_iff.1 hline
    exact ⟨k, lines[k], _, List.drop_eq_getElem_cons hk, Nat.add_comm k 1, hplain, hjudge⟩

/-- The hits of a rule are at the lines of its reports. -/
theorem exists_hit_at_iff {r : Rule} {c : Context} {lines : List Line} {n : Nat} :
    (∃ hit ∈ r.hits c lines, hit.line = n) ↔ ∃ description, ⟨n, description⟩ ∈ r.reports c lines := by
  constructor
  · rintro ⟨hit, hhit, rfl⟩
    obtain ⟨report, hreport, rfl⟩ := List.mem_map.1 hhit
    exact ⟨report.description, hreport⟩
  · rintro ⟨description, hreport⟩
    exact ⟨r.hitOf ⟨n, description⟩, List.mem_map_of_mem hreport, rfl⟩

/-- What is said of some lines is what the reports there say. -/
theorem descriptions_hits (r : Rule) (c : Context) (lines : List Line) (chosen : Nat → Bool) :
    ((r.hits c lines).filter fun hit => chosen hit.line).map (·.description) =
      ((r.reports c lines).filter fun report => chosen report.line).map (·.description) := by
  have hfilter : (r.hits c lines).filter (fun hit => chosen hit.line) =
      ((r.reports c lines).filter fun report => chosen report.line).map r.hitOf := List.filter_map
  rw [hfilter, List.map_map]
  rfl

/-- A rule that judges line by line says of a line what its judgement gives, if the line is there and
does not look binary. -/
theorem descriptions_of_perLine {r : Rule} {c : Context} {judge : Line → List Line → Option String}
    {lines : List Line} (hreports : r.reports c lines = perLine judge lines) (k : Nat) :
    ((r.hits c lines).filter (·.line == k + 1)).map (·.description) =
      (lines[k]?.bind fun line =>
        if Line.looksBinary line then none else judge line (lines.drop (k + 1))).toList := by
  have hnone : (∀ line, lines[k]? = some line → Line.looksBinary line = true) →
      (perLine judge lines).filter (·.line == k + 1) = [] := by
    intro h
    refine List.filter_eq_nil_iff.2 fun report hreport hat => ?_
    obtain ⟨-, line, hline, hplain⟩ := (lineByLine_perLineFrom judge 1 lines).located hreport
    rw [eq_of_beq hat] at hline
    rw [h line hline] at hplain
    cases hplain
  rw [descriptions_hits r c lines (· == k + 1), hreports]
  rcases hline : lines[k]? with _ | line
  · rw [hnone fun line h => by rw [hline] at h; cases h]
    rfl
  rcases hplain : Line.looksBinary line
  · rw [perLine, Nat.add_comm k 1, filter_perLineFrom hline hplain, Nat.add_comm 1 k]
    rw [Option.bind_some, hplain]
    rcases judge line (lines.drop (k + 1)) with _ | description <;> rfl
  · rw [hnone fun l h => by rw [hline] at h; rwa [← Option.some.inj h], Option.bind_some, hplain]
    rfl

/-- A judgement that faults less reports less. -/
theorem perLineFrom_sublist {judge judge' : Line → List Line → Option String}
    (h : ∀ line later description, judge line later = some description →
      judge' line later = some description) (n : Nat) (lines : List Line) :
    (perLineFrom judge n lines).Sublist (perLineFrom judge' n lines) := by
  induction lines generalizing n with
  | nil => exact .slnil
  | cons line rest ih =>
    simp only [perLineFrom]
    split
    · exact ih (n + 1)
    split
    · rename_i description hjudge
      rw [h _ _ _ hjudge]
      exact (ih (n + 1)).cons_cons _
    · split
      · exact (ih (n + 1)).cons _
      · exact ih (n + 1)

/-- Files have the same reports if the lines of one are judged, with the lines after them, as those of
the other. -/
theorem perLineFrom_congr {judge : Line → List Line → Option String} {lines others : List Line}
    (hlength : lines.length = others.length)
    (h : ∀ k line other, lines[k]? = some line → others[k]? = some other →
      Line.looksBinary line = Line.looksBinary other ∧
        (Line.looksBinary line = false →
          judge line (lines.drop (k + 1)) = judge other (others.drop (k + 1)))) (n : Nat) :
    perLineFrom judge n lines = perLineFrom judge n others := by
  induction lines generalizing others n with
  | nil =>
    obtain rfl := List.length_eq_zero_iff.1 hlength.symm
    rfl
  | cons line rest ih =>
    rcases others with _ | ⟨other, later⟩
    · cases hlength
    have hrest := ih (Nat.succ.inj hlength) (fun k line other => h (k + 1) line other) (n + 1)
    obtain ⟨hbinary, hjudge⟩ := h 0 line other rfl rfl
    rw [perLineFrom, perLineFrom, hrest, ← hbinary]
    rcases hplain : Line.looksBinary line
    · rw [show judge line rest = judge other later from hjudge hplain]
    · rfl

/-- Lines that are related one by one are judged alike if the judgement respects the relation. -/
theorem perLineFrom_congr_of_forall₂ {related : Line → Line → Prop}
    {judge : Line → List Line → Option String} {lines others : List Line}
    (hbinary : ∀ {line other}, related line other → line ∈ lines → other ∈ others →
      Line.looksBinary line = Line.looksBinary other)
    (hjudge : ∀ {line other later others}, related line other → Line.looksBinary line = false →
      List.Forall₂ related later others → judge line later = judge other others)
    (h : List.Forall₂ related lines others) (n : Nat) :
    perLineFrom judge n lines = perLineFrom judge n others := by
  refine perLineFrom_congr h.length_eq (fun k line other hline hother => ?_) n
  obtain ⟨hk, rfl⟩ := List.getElem?_eq_some_iff.1 hline
  obtain ⟨hk', rfl⟩ := List.getElem?_eq_some_iff.1 hother
  have hrelated : related lines[k] others[k] := h.get hk hk'
  exact ⟨hbinary hrelated (List.getElem_mem hk) (List.getElem_mem hk'), fun hplain =>
    hjudge hrelated hplain (List.forall₂_drop (k + 1) h)⟩

theorem lineByLine_repeatedImports (n : Nat) (seen : List (List Char × Nat)) (lines : List Line) :
    LineByLine n lines (repeatedImports n seen lines) := by
  induction lines generalizing n seen with
  | nil => exact .done n
  | cons line rest ih =>
    rw [repeatedImports]
    split
    · exact .pass line (ih (n + 1) seen)
    rename_i hplain
    split
    · exact .pass line (ih (n + 1) seen)
    split
    · exact .pass line (ih (n + 1) _)
    · exact .report _ (eq_false_of_ne_true hplain) (ih (n + 1) _)

/-- There is nothing wrong with the indentation of a line that looks binary, and it says nothing of
the file. -/
theorem judgeIndent_of_looksBinary {line : Line} (fileStyle : Option Indentation)
    (h : Line.looksBinary line = true) : judgeIndent fileStyle line = (fileStyle, none) := by
  rw [judgeIndent, h, Bool.or_true, Bool.true_or]
  exact if_pos rfl

theorem lineByLine_indentReports (n : Nat) (fileStyle : Option Indentation) (lines : List Line) :
    LineByLine n lines (indentReports n fileStyle lines) := by
  induction lines generalizing n fileStyle with
  | nil => exact .done n
  | cons line rest ih =>
    rw [indentReports]
    split
    · rename_i next description hjudge
      rcases hplain : Line.looksBinary line
      · exact .report description hplain (ih (n + 1) next)
      · rw [judgeIndent_of_looksBinary fileStyle hplain] at hjudge
        cases hjudge
    · exact .pass line (ih (n + 1) _)

/-- Every rule comes to its reports line by line. -/
theorem lineByLine_catalogue (c : Context) (lines : List Line) :
    ∀ r ∈ catalogue, LineByLine 1 lines (r.reports c lines) := by
  simp only [catalogue, List.forall_mem_cons]
  and_intros
  all_goals first
    | exact lineByLine_perLineFrom _ 1 lines
    | exact lineByLine_repeatedImports 1 [] lines
    | exact lineByLine_indentReports 1 none lines
    | exact List.forall_mem_nil _

end SourceAudit.Rule
