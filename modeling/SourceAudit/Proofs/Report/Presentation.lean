import SourceAudit.Proofs.Report.Worst
import SourceAudit.Proofs.Scan.Order
import SourceAudit.Report.Markdown
import SourceAudit.Report.Terminal

/-!
# How reports present violations

The reports for terminals and in Markdown sort violations by their severity, the most urgent first,
with a heading for each severity that there is. Those of one severity are picked out of the list one
severity after the other; together this comes to a stable sort (`arranged_bySeverity`). All three
kinds of reports count the violations of each severity, and the exit status of an audit can be told
from the counts (`Report.presents`).
-/

namespace SourceAudit

/-! ### Groups of violations -/

/-- These groups, each with its severity, are the violations sorted by severity. -/
structure Arranged (violations : List Violation) (groups : List (Severity × List Violation)) :
    Prop where
  /-- Together the groups are the violations, the most urgent first and else in their order. -/
  sorted : groups.flatMap (·.2) =
    violations.mergeSort fun a b => decide (b.severity.rank ≤ a.severity.rank)
  /-- A group has violations of its severity only. -/
  alike : ∀ g ∈ groups, ∀ v ∈ g.2, v.severity = g.1
  /-- It has as many as there are, and there are some. -/
  size : ∀ g ∈ groups, g.2.length = countOf violations g.1 ∧ 0 < countOf violations g.1
  /-- The groups are of different severities, the most urgent first. -/
  descending : groups.Pairwise fun g h => h.1.rank < g.1.rank
  /-- Every severity that there is has a group. -/
  complete : ∀ s, 0 < countOf violations s → ∃ g ∈ groups, g.1 = s

/-- The violations of each severity that there is, the most urgent first. -/
def bySeverity (violations : List Violation) : List (Severity × List Violation) :=
  (Severity.all.map fun s => (s, violations.filter (·.severity == s))).filter (!·.2.isEmpty)

/-- How far a violation is from the most urgent ones. -/
def Violation.distance (v : Violation) : Nat :=
  Severity.critical.rank - v.severity.rank

/-- To sort by severity is to sort by the distance from the most urgent violations. -/
theorem mergeSort_severity (violations : List Violation) :
    (violations.mergeSort fun a b => decide (b.severity.rank ≤ a.severity.rank)) =
      violations.mergeSort fun a b => a.distance ≤ b.distance := by
  have hle : ∀ s : Severity, s.rank ≤ Severity.critical.rank := by
    intro s
    cases s <;> decide
  refine congrArg (List.mergeSort violations ·)
    (funext fun a => funext fun b => decide_eq_decide.2 ?_)
  have ha := hle a.severity
  have hb := hle b.severity
  rw [Violation.distance, Violation.distance]
  omega

/-- A severity is known by its distance from the most urgent one. -/
theorem distance_eq_iff {v : Violation} {s : Severity} :
    v.distance = Severity.critical.rank - s.rank ↔ v.severity = s := by
  rw [Violation.distance]
  rcases v.severity <;> cases s <;> decide

/-- Violations that are picked out by their severities, those of one severity again. -/
theorem filter_flatMap_severity {severities : List Severity} (h : severities.Nodup)
    (violations : List Violation) (s : Severity) :
    (severities.flatMap fun t => violations.filter (·.severity == t)).filter (·.severity == s) =
      if s ∈ severities then violations.filter (·.severity == s) else [] := by
  -- No severity is there twice, so one piece at most has violations of the given one.
  induction severities with
  | nil => rfl
  | cons t rest ih =>
    obtain ⟨hnot, hrest⟩ := List.nodup_cons.1 h
    rw [List.flatMap_cons, List.filter_append, ih hrest, List.filter_filter]
    by_cases hst : s = t
    · subst hst
      rw [if_neg hnot, if_pos List.mem_cons_self, List.append_nil]
      exact List.filter_congr fun v _ => Bool.and_self _
    · have hnone : violations.filter (fun v => v.severity == s && v.severity == t) = [] := by
        refine List.filter_eq_nil_iff.2 fun v _ hboth => hst ?_
        obtain ⟨hs, ht⟩ := Bool.and_eq_true_iff.1 hboth
        exact (eq_of_beq hs).symm.trans (eq_of_beq ht)
      rw [hnone, List.nil_append]
      simp only [List.mem_cons, hst, false_or]

/-- Violations that are picked out by all severities are in the order of their distances. -/
theorem pairwise_distance (violations : List Violation) :
    (Severity.all.flatMap fun s => violations.filter (·.severity == s)).Pairwise
      (Violation.distance · ≤ Violation.distance ·) := by
  have hof : ∀ {s : Severity} {v}, v ∈ violations.filter (·.severity == s) →
      v.distance = Severity.critical.rank - s.rank := fun hv =>
    distance_eq_iff.2 (eq_of_beq (List.mem_filter.1 hv).2)
  have hall : Severity.all.Pairwise fun s t =>
      Severity.critical.rank - s.rank ≤ Severity.critical.rank - t.rank := by decide
  refine List.pairwise_flatMap.2 ⟨fun s _ => ?_, hall.imp fun hst v hv w hw => ?_⟩
  · exact List.pairwise_of_forall_mem_list fun v hv w hw => by rw [hof hv, hof hw]
  · rw [hof hv, hof hw]
    exact hst

/-- Severities one after the other are all violations. -/
theorem flatMap_severity (violations : List Violation) :
    (Severity.all.flatMap fun s => violations.filter (·.severity == s)) =
      violations.mergeSort fun a b => decide (b.severity.rank ≤ a.severity.rank) := by
  rw [mergeSort_severity]
  -- Both are in order, so they are the same if they have the same at every distance.
  refine eq_of_filter_eq (pairwise_distance violations) (pairwise_mergeSort_key _ _) fun n => ?_
  rw [filter_mergeSort]
  by_cases hn : ∃ s : Severity, n = Severity.critical.rank - s.rank
  · obtain ⟨s, rfl⟩ := hn
    have hnodup : Severity.all.Nodup := by decide
    have hmem : s ∈ Severity.all := by cases s <;> decide
    have hsame : (fun v : Violation => decide (v.distance = Severity.critical.rank - s.rank)) =
        (·.severity == s) := by
      refine funext fun v => ?_
      rw [Bool.eq_iff_iff, decide_eq_true_iff, beq_iff_eq, distance_eq_iff]
    rw [hsame, filter_flatMap_severity hnodup, if_pos hmem]
  · -- No severity is so far from the most urgent one.
    have hnone : ∀ l : List Violation, l.filter (·.distance = n) = [] := fun l =>
      List.filter_eq_nil_iff.2 fun v _ hv => hn ⟨v.severity, (of_decide_eq_true hv).symm⟩
    rw [hnone, hnone]

/-- What is left of groups without the empty ones is the same together. -/
theorem flatMap_filter_isEmpty (groups : List (Severity × List Violation)) :
    (groups.filter (!·.2.isEmpty)).flatMap (·.2) = groups.flatMap (·.2) := by
  induction groups with
  | nil => rfl
  | cons g rest ih =>
    rcases g with ⟨s, _ | ⟨v, more⟩⟩
    · exact ih
    · rw [List.filter_cons_of_pos rfl, List.flatMap_cons, List.flatMap_cons, ih]

/-- Violations by severity are violations sorted by severity. -/
theorem arranged_bySeverity (violations : List Violation) :
    Arranged violations (bySeverity violations) := by
  have hmem : ∀ g ∈ bySeverity violations,
      g.2 = violations.filter (·.severity == g.1) ∧ 0 < countOf violations g.1 := by
    intro g hg
    obtain ⟨hg, hsome⟩ := List.mem_filter.1 hg
    obtain ⟨s, -, rfl⟩ := List.mem_map.1 hg
    refine ⟨rfl, List.length_pos_iff.2 fun hnil => ?_⟩
    rw [hnil] at hsome
    cases hsome
  -- The groups come in the order of the severities that they are picked out by.
  have hdescending : Severity.all.Pairwise fun s t => t.rank < s.rank := by decide
  refine ⟨?_, fun g hg v hv => ?_, fun g hg => ?_, ?_, fun s hs => ?_⟩
  · rw [bySeverity, flatMap_filter_isEmpty, List.flatMap_map]
    exact flatMap_severity violations
  · rw [(hmem g hg).1] at hv
    exact eq_of_beq (List.mem_filter.1 hv).2
  · rw [(hmem g hg).1]
    exact ⟨rfl, (hmem g hg).2⟩
  · exact (List.pairwise_map.2 hdescending).sublist List.filter_sublist
  · have hall : s ∈ Severity.all := by cases s <;> decide
    refine ⟨(s, violations.filter (·.severity == s)), List.mem_filter.2
      ⟨List.mem_map_of_mem hall, ?_⟩, rfl⟩
    have hne : violations.filter (·.severity == s) ≠ [] := List.ne_nil_of_length_pos hs
    simpa using hne

/-- There are no groups if there are no violations. -/
theorem bySeverity_eq_nil_iff {violations : List Violation} :
    bySeverity violations = [] ↔ violations = [] := by
  have hsorted := (arranged_bySeverity violations).sorted
  constructor
  · intro hnil
    rw [hnil] at hsorted
    exact List.eq_nil_of_length_eq_zero ((List.length_mergeSort _).symm.trans
      (congrArg List.length hsorted).symm)
  · rintro rfl
    rfl

/-- The counts of all severities are together the number of violations. -/
theorem add_countOf (violations : List Violation) :
    countOf violations .critical + countOf violations .high + countOf violations .medium +
      countOf violations .low = violations.length := by
  have hlength := congrArg List.length (flatMap_severity violations)
  simp only [Severity.all, List.flatMap_cons, List.flatMap_nil, List.length_append, List.length_nil,
    List.length_mergeSort] at hlength
  simp only [countOf]
  omega

/-- There are violations of a severity if they count. -/
theorem countOf_pos_iff {violations : List Violation} {s : Severity} :
    0 < countOf violations s ↔ ∃ v ∈ violations, v.severity = s := by
  rw [countOf, List.length_pos_iff_exists_mem]
  simp only [List.mem_filter, beq_iff_eq]

/-- There are no violations if none of any severity count. -/
theorem eq_nil_iff_countOf {violations : List Violation} :
    violations = [] ↔ ∀ s, countOf violations s = 0 := by
  constructor
  · rintro rfl s
    rfl
  · intro hzero
    refine List.eq_nil_iff_forall_not_mem.2 fun v hv => ?_
    have hcount := countOf_pos_iff.2 ⟨v, hv, rfl⟩
    rw [hzero] at hcount
    exact Nat.lt_irrefl 0 hcount

/-- One of the violations is blocking if critical or high ones count. -/
theorem exists_blocking_iff {violations : List Violation} :
    (∃ v ∈ violations, Severity.high.rank ≤ v.severity.rank) ↔
      0 < countOf violations .critical ∨ 0 < countOf violations .high := by
  have hrank : ∀ s : Severity, Severity.high.rank ≤ s.rank ↔ s = .critical ∨ s = .high := by
    intro s
    cases s <;> decide
  simp only [countOf_pos_iff, hrank, ← exists_or, ← and_or_left]

/-- The exit status of an audit by the counts of its violations. -/
theorem code_ofWorst (violations : List Violation) :
    ((ExitStatus.ofWorst (worstOf? violations)).code = 0 ↔ ∀ s, countOf violations s = 0) ∧
    ((ExitStatus.ofWorst (worstOf? violations)).code = 1 ↔
      0 < countOf violations .critical ∨ 0 < countOf violations .high) ∧
    ((ExitStatus.ofWorst (worstOf? violations)).code = 2 ↔
      (∃ s, 0 < countOf violations s) ∧
        countOf violations .critical = 0 ∧ countOf violations .high = 0) := by
  have hsome : (∃ s, 0 < countOf violations s) ↔ violations ≠ [] := by
    rw [Ne, eq_nil_iff_countOf, not_forall]
    exact exists_congr fun s => Nat.pos_iff_ne_zero
  have hopen : (countOf violations .critical = 0 ∧ countOf violations .high = 0) ↔
      ¬∃ v ∈ violations, Severity.high.rank ≤ v.severity.rank := by
    rw [exists_blocking_iff]
    omega
  -- The status tells whether there are violations and whether one is blocking, and so do the counts.
  rw [hsome, hopen, ← eq_nil_iff_countOf, ← exists_blocking_iff, ofWorst_worstOf?]
  split
  · rename_i hnil
    subst hnil
    simp [ExitStatus.code]
  rename_i hne
  split
  · rename_i hblocking
    simp [ExitStatus.code, hne, hblocking]
  · rename_i hnone
    simp [ExitStatus.code, hne, hnone]

/-! ### Renderings -/

/-- Text without styles is left as it is. -/
@[simp] theorem Text.Style.apply_false (style : Text.Style) (text : String) :
    style.apply false text = text :=
  if_neg Bool.false_ne_true

/-- What is left of a list is rendered as the list is, where the rest of it comes to nothing. -/
theorem join_map_filter {α : Type} (text : α → String) (keep : α → Bool) (l : List α) :
    String.join ((l.filter keep).map text) =
      String.join (l.map fun a => if keep a then text a else "") := by
  induction l with
  | nil => rfl
  | cons a rest ih =>
    rw [List.map_cons, String.join_cons, ← ih]
    rcases hkeep : keep a
    · rw [List.filter_cons_of_neg (by simp [hkeep]), if_neg Bool.false_ne_true, String.empty_append]
    · rw [List.filter_cons_of_pos hkeep, if_pos rfl, List.map_cons, String.join_cons]

/-- The groups are rendered severity by severity, where those without violations come to nothing. -/
theorem join_bySeverity {text : Severity × List Violation → String} {group : Severity → String}
    (violations : List Violation)
    (h : ∀ s, group s = if (violations.filter (·.severity == s)).isEmpty then ""
      else text (s, violations.filter (·.severity == s))) :
    String.join (Severity.all.map group) = String.join ((bySeverity violations).map text) := by
  rw [bySeverity, join_map_filter, List.map_map]
  refine congrArg String.join (List.map_congr_left fun s _ => ?_)
  rw [h]
  dsimp only [Function.comp_apply]
  by_cases hnone : (violations.filter (·.severity == s)).isEmpty
  · rw [if_pos hnone, if_neg (by rw [hnone]; decide)]
  · rw [if_neg hnone, if_pos (by simpa using hnone)]

/-- The four severities one after the other. -/
theorem join_severities (text : Severity → String) :
    String.join (Severity.all.map text) =
      text .critical ++ text .high ++ text .medium ++ text .low := by
  simp only [Severity.all, List.map_cons, List.map_nil, String.join_cons, String.join_nil,
    String.append_assoc, String.append_empty]

namespace Report

/-- A group of violations on a terminal: the heading of its severity with its size, and an entry for
each violation. -/
def terminalGroup (g : Severity × List Violation) : String :=
  Terminal.heading false g.1 ++ " (" ++ g.2.length.repr ++ ")\n" ++
    String.join (g.2.map (Terminal.entry false)) ++ "\n"

/-- A group of violations in Markdown: the heading of its severity with its size, and a table with a
row for each violation. -/
def markdownGroup (g : Severity × List Violation) : String :=
  "### " ++ g.1.name ++ " (" ++ g.2.length.repr ++ ")\n\n" ++
    "| Rule | Category | File | Line | Description |\n|---|---|---|---|---|\n" ++
    String.join (g.2.map Markdown.row) ++ "\n"

/-- What stands before the counts in the summary of a terminal. -/
def terminalStart (r : Report) : String :=
  Terminal.sectionTitle false "  SUMMARY" ++
    Terminal.labelled false "Manifest:" r.manifest ++
    Terminal.labelled false "Policy:"
      (r.policy.allowed.size.repr ++ " allowed, " ++ r.policy.forbidden.size.repr ++ " forbidden") ++
    Terminal.labelled false "Files:"
      (r.analyzed.length.repr ++ " of " ++ r.audit.totalFiles.repr ++ " candidates analyzed, " ++
        r.audit.compliantFiles.repr ++ " compliant")

/-- What stands behind the counts in the summary of a terminal. -/
def terminalNotes (r : Report) : String :=
  (if r.truncated then
      Terminal.note false
        (r.skipped.length.repr ++ " candidate files beyond the analysis limit were not scanned")
    else "") ++
    (if r.failed.isEmpty then ""
    else Terminal.note false ("could not fetch " ++ ", ".intercalate r.failed)) ++
    (if r.unreadable.isEmpty then ""
    else Terminal.note false ("could not list " ++ ", ".intercalate r.unreadable))

/-- What stands between the counts and the violations in Markdown. -/
def markdownNote (r : Report) : String :=
  if r.truncated then
    "> **Note:** " ++ r.skipped.length.repr ++
      " candidate files beyond the analysis limit were not scanned.\n\n"
  else ""

/-- What stands behind the violations in Markdown. -/
def markdownEnd (detailed : Bool) (r : Report) : String :=
  (if detailed then
    "## Files\n\n" ++ Markdown.fileList "Analyzed" r.analyzed ++
      Markdown.fileList "Failed to fetch" r.failed ++ Markdown.fileList "Skipped" r.skipped ++
      Markdown.fileList "Unreadable directories" r.unreadable
  else "") ++ "---\n_Generated by complyscan v" ++ version ++ "_\n"

/-- What the renderings of a report say of its violations, given groups of them. -/
structure Presents (r : Report) (groups : List (Severity × List Violation)) : Prop where
  /-- A terminal without styles shows the groups between its header and its summary. -/
  terminal : Terminal.render false r =
    Terminal.header false r.repository r.audit ++
      (Terminal.sectionTitle false "  VIOLATIONS" ++
        if groups = [] then "  ✓ No violations found\n"
        else String.join (groups.map terminalGroup)) ++
      Terminal.summary false r
  /-- The summary has the counts. -/
  terminalCounts : Terminal.summary false r =
    terminalStart r ++
      ("  Violations: " ++ r.audit.violationCount.repr ++ " (" ++
        (r.count .critical).repr ++ " critical, " ++ (r.count .high).repr ++ " high, " ++
        (r.count .medium).repr ++ " medium, " ++ (r.count .low).repr ++ " low)\n") ++
      terminalNotes r
  /-- Markdown shows the counts before the groups. -/
  markdown : ∀ detailed, Markdown.render detailed r =
    Markdown.overview r ++
      ("## Summary\n\n| Severity | Count |\n|---|---|\n" ++
        (("| critical | " ++ (r.count .critical).repr ++ " |\n") ++
          ("| high | " ++ (r.count .high).repr ++ " |\n") ++
          ("| medium | " ++ (r.count .medium).repr ++ " |\n") ++
          ("| low | " ++ (r.count .low).repr ++ " |\n")) ++ "\n") ++
      markdownNote r ++
      ("## Violations\n\n" ++
        if groups = [] then "No violations found.\n\n"
        else String.join (groups.map markdownGroup)) ++
      markdownEnd detailed r
  /-- The JSON document ends with the counts. -/
  json : r.toDocument = (Json.object ([("version", .text version)] ++ r.fields ++
    [("summary", .object [("critical", .natural (r.count .critical)),
      ("high", .natural (r.count .high)), ("medium", .natural (r.count .medium)),
      ("low", .natural (r.count .low))])])).render
  /-- All counts are those of the groups, and together they are the number of violations. -/
  sizes : ∀ g ∈ groups, g.2.length = r.count g.1
  total : r.count .critical + r.count .high + r.count .medium + r.count .low =
    r.violations.length
  /-- The exit status can be told from the counts. -/
  success : (ExitStatus.ofWorst r.worst?).code = 0 ↔ ∀ s, r.count s = 0
  blocking : (ExitStatus.ofWorst r.worst?).code = 1 ↔ 0 < r.count .critical ∨ 0 < r.count .high
  warnings : (ExitStatus.ofWorst r.worst?).code = 2 ↔
    (∃ s, 0 < r.count s) ∧ r.count .critical = 0 ∧ r.count .high = 0

/-- The section of a terminal for violations has their groups. -/
theorem violationsSection_eq (violations : List Violation) :
    Terminal.violationsSection false violations =
      Terminal.sectionTitle false "  VIOLATIONS" ++
        if bySeverity violations = [] then "  ✓ No violations found\n"
        else String.join ((bySeverity violations).map terminalGroup) := by
  have hgroups : String.join (Severity.all.map (Terminal.group false violations)) =
      String.join ((bySeverity violations).map terminalGroup) :=
    join_bySeverity violations fun s => rfl
  rw [Terminal.violationsSection, hgroups]
  simp only [bySeverity_eq_nil_iff, List.isEmpty_iff, Text.Style.apply_false]
  rfl

/-- The summary of a terminal has the counts. -/
theorem summary_eq (r : Report) : Terminal.summary false r =
    terminalStart r ++
      ("  Violations: " ++ r.audit.violationCount.repr ++ " (" ++
        (r.count .critical).repr ++ " critical, " ++ (r.count .high).repr ++ " high, " ++
        (r.count .medium).repr ++ " medium, " ++ (r.count .low).repr ++ " low)\n") ++
      terminalNotes r := by
  have hcounts : ", ".intercalate (Severity.all.map fun s => (r.count s).repr ++ " " ++ s.name) =
      (r.count .critical).repr ++ " critical, " ++ (r.count .high).repr ++ " high, " ++
        (r.count .medium).repr ++ " medium, " ++ (r.count .low).repr ++ " low" := by
    simp only [Severity.all, List.map_cons, List.map_nil, String.intercalate_cons_cons,
      String.intercalate_singleton, Severity.name, String.append_assoc]
    rfl
  have hline : ∀ counts, Terminal.labelled false "Violations:"
      (r.audit.violationCount.repr ++ " (" ++ counts ++ ")") =
        "  Violations: " ++ r.audit.violationCount.repr ++ " (" ++ counts ++ ")\n" := by
    intro counts
    simp only [Terminal.labelled, Terminal.faint, Text.Style.apply_false, String.append_assoc]
    rfl
  rw [Terminal.summary, hcounts, hline, terminalStart, terminalNotes]
  simp only [String.append_assoc]
  rfl

/-- A report in Markdown has the counts and the groups. -/
theorem markdown_eq (detailed : Bool) (r : Report) : Markdown.render detailed r =
    Markdown.overview r ++
      ("## Summary\n\n| Severity | Count |\n|---|---|\n" ++
        (("| critical | " ++ (r.count .critical).repr ++ " |\n") ++
          ("| high | " ++ (r.count .high).repr ++ " |\n") ++
          ("| medium | " ++ (r.count .medium).repr ++ " |\n") ++
          ("| low | " ++ (r.count .low).repr ++ " |\n")) ++ "\n") ++
      markdownNote r ++
      ("## Violations\n\n" ++
        if bySeverity r.violations = [] then "No violations found.\n\n"
        else String.join ((bySeverity r.violations).map markdownGroup)) ++
      markdownEnd detailed r := by
  have hgroups : String.join (Severity.all.map (Markdown.table r.violations)) =
      String.join ((bySeverity r.violations).map markdownGroup) :=
    join_bySeverity r.violations fun s => rfl
  have hcounts : Markdown.summary r =
      "## Summary\n\n| Severity | Count |\n|---|---|\n" ++
        (("| critical | " ++ (r.count .critical).repr ++ " |\n") ++
          ("| high | " ++ (r.count .high).repr ++ " |\n") ++
          ("| medium | " ++ (r.count .medium).repr ++ " |\n") ++
          ("| low | " ++ (r.count .low).repr ++ " |\n")) ++ "\n" := by
    unfold Markdown.summary
    simp only [join_severities, Severity.name, String.reduceAppend]
  rw [Markdown.render, hgroups, hcounts, markdownNote, markdownEnd]
  simp only [bySeverity_eq_nil_iff, List.isEmpty_iff, String.append_assoc]

end Report
end SourceAudit
