import SourceAudit.Proofs.Rule.Handler
import SourceAudit.Proofs.Scan.Order

/-!
# Lines that look binary

What stands on a line that looks binary should be of no account. For most rules it is
(`Rule.Seen`): they judge a line by itself, or pass over lines that look binary in all that they do.
Two rules look at the lines after the one that they judge and do not pass over any of them. The rule
on network calls takes a word of error handling on such a line for error handling, and the rule on
terminators takes such a line for a statement of the body of a handler, unless a number sign comes
first on it, and compares its indentation.

`Scanner.scan_congr_of_binary` says that this is all: the hits of the other rules stay the same
whatever stands on lines that look binary, and all hits stay the same if these lines agree in what the
two rules see of them.
-/

namespace SourceAudit

namespace Line

/-- A line that looks binary has a character that is no white space and in no word. -/
theorem exists_mem_trim {line : Text.Line} (h : looksBinary line = true) :
    '\x00' ∈ Text.trim line ∨ '\uFFFD' ∈ Text.trim line := by
  rw [looksBinary, Bool.or_eq_true, List.contains_iff_mem, List.contains_iff_mem] at h
  exact h.imp (Text.mem_trim · (by decide)) (Text.mem_trim · (by decide))

/-- The same lines, but for what stands on lines that look binary in both. -/
def SameButBinary (lines others : List Text.Line) : Prop :=
  List.Forall₂ (fun line other =>
    line = other ∨ looksBinary line = true ∧ looksBinary other = true) lines others

end Line

namespace Rule

open Text (Line)

/-- What a rule sees of lines that look binary is the same in two of them. Only two rules see anything
of such lines. -/
structure Seen (ruleId : String) (line other : Line) : Prop where
  /-- The rule on network calls sees whether there is a word of error handling. -/
  handling : ruleId = missingErrorHandling.id →
    errorHandling.occursIn line = errorHandling.occursIn other
  /-- The rule on terminators sees whether the line starts with a number sign, -/
  comment : ruleId = statementTerminators.id →
    ((Text.trim line).head? = some '#' ↔ (Text.trim other).head? = some '#')
  /-- and how far it is indented. -/
  indentation : ruleId = statementTerminators.id → indentWidth line = indentWidth other

/-- Two lines are the same, or both look binary and some rules see the same of them. -/
def Alike (seen : Line → Line → Prop) (line other : Line) : Prop :=
  line = other ∨
    Line.looksBinary line = true ∧ Line.looksBinary other = true ∧ seen line other

variable {seen : Line → Line → Prop} {lines others : List Line}

theorem Alike.looksBinary_eq {line other : Line} (h : Alike seen line other) :
    Line.looksBinary line = Line.looksBinary other := by
  rcases h with rfl | ⟨hbinary, hother, -⟩
  · rfl
  · rw [hbinary, hother]

/-- A rule that judges lines one by one has the same reports if its judgements are the same. -/
theorem perLineFrom_congr_of_alike {judge : Line → List Line → Option String}
    (hjudge : ∀ line {later others}, List.Forall₂ (Alike seen) later others →
      judge line later = judge line others)
    (h : List.Forall₂ (Alike seen) lines others) (n : Nat) :
    perLineFrom judge n lines = perLineFrom judge n others := by
  refine perLineFrom_congr_of_forall₂ (fun h _ _ => h.looksBinary_eq) ?_ h n
  -- The same line is judged with later lines that are alike; other lines are not judged at all.
  rintro line other later others (rfl | ⟨hbinary, -, -⟩) hplain hlater
  · exact hjudge line hlater
  · rw [hbinary] at hplain
    cases hplain

theorem repeatedImports_congr (h : List.Forall₂ (Alike seen) lines others) (n : Nat)
    (known : List (List Char × Nat)) :
    repeatedImports n known lines = repeatedImports n known others := by
  induction h generalizing n known with
  | nil => rfl
  | cons hline _ ih =>
    rcases hline with rfl | ⟨hbinary, hother, -⟩
    · simp only [repeatedImports, ih]
    · rw [repeatedImports, repeatedImports, if_pos hbinary, if_pos hother, ih]

theorem indentReports_congr (h : List.Forall₂ (Alike seen) lines others) (n : Nat)
    (fileStyle : Option Indentation) :
    indentReports n fileStyle lines = indentReports n fileStyle others := by
  induction h generalizing n fileStyle with
  | nil => rfl
  | cons hline _ ih =>
    rcases hline with rfl | ⟨hbinary, hother, -⟩
    · simp only [indentReports, ih]
    · simp only [indentReports, judgeIndent_of_looksBinary _ hbinary,
        judgeIndent_of_looksBinary _ hother, ih]

/-- Error handling is found on the same lines. -/
theorem any_errorHandling_congr
    (h : List.Forall₂ (Alike (Seen missingErrorHandling.id)) lines others) (count : Nat) :
    (lines.take count).any errorHandling.occursIn =
      (others.take count).any errorHandling.occursIn := by
  induction h generalizing count with
  | nil => rfl
  | cons hline _ ih =>
    rcases count with _ | count
    · rfl
    have hhandling : errorHandling.occursIn _ = errorHandling.occursIn _ :=
      hline.elim (congrArg _) fun h => h.2.2.handling rfl
    rw [List.take_succ_cons, List.take_succ_cons, List.any_cons, List.any_cons, hhandling, ih]

/-- A line that looks binary is no lone `pass`. -/
theorem trim_ne_pass {line : Line} (h : Line.looksBinary line = true) :
    Text.trim line ≠ "pass".toList := by
  rw [Line.looksBinary, Bool.or_eq_true, List.contains_iff_mem, List.contains_iff_mem] at h
  rcases h with h | h
  · exact trim_ne_pass_of_mem h (by decide) (by decide)
  · exact trim_ne_pass_of_mem h (by decide) (by decide)

/-- Lines that look binary are not blank, so they count as statements unless they are comments. -/
theorem isStatement_congr {line other : Line}
    (h : Alike (Seen statementTerminators.id) line other) : isStatement line = isStatement other := by
  rcases h with rfl | ⟨hbinary, hother, hseen⟩
  · rfl
  have hworded : ∀ {l : Line}, Line.looksBinary l = true → (Text.trim l).isEmpty = false :=
    fun hl => by
      rw [List.isEmpty_eq_false_iff]
      exact (Line.exists_mem_trim hl).elim List.ne_nil_of_mem List.ne_nil_of_mem
  have hcomment : ((Text.trim line).head? != some '#') = ((Text.trim other).head? != some '#') := by
    rw [Bool.eq_iff_iff, bne_iff_ne, bne_iff_ne, ne_eq, ne_eq, hseen.comment rfl]
  rw [isStatement, isStatement, hworded hbinary, hworded hother, hcomment]

/-- Lines that are alike are the same in the body of a handler. -/
theorem sameInBody_of_alike {line other : Line}
    (h : Alike (Seen statementTerminators.id) line other) : SameInBody line other := by
  refine ⟨isStatement_congr h, ?_, ?_⟩
  · rcases h with rfl | ⟨hbinary, hother, -⟩
    · exact Iff.rfl
    · exact iff_of_false (trim_ne_pass hbinary) (trim_ne_pass hother)
  · rcases h with rfl | ⟨-, -, hseen⟩
    · rfl
    · exact hseen.indentation rfl

theorem reports_missingErrorHandling_congr
    (h : List.Forall₂ (Alike (Seen missingErrorHandling.id)) lines others) (c : Context) :
    missingErrorHandling.reports c lines = missingErrorHandling.reports c others := by
  refine perLineFrom_congr_of_alike (fun line later others h => ?_) h 1
  rw [any_errorHandling_congr h]

theorem reports_statementTerminators_congr
    (h : List.Forall₂ (Alike (Seen statementTerminators.id)) lines others) (c : Context) :
    statementTerminators.reports c lines = statementTerminators.reports c others := by
  refine perLineFrom_congr_of_alike (fun line later others h => ?_) h 1
  simp only [bodyIsPass_congr (h.imp fun _ _ => sameInBody_of_alike)]

/-- Every rule has the same reports for lines that are alike in what it sees. -/
theorem reports_congr : ∀ r ∈ catalogue, ∀ (c : Context) {lines others : List Line},
    List.Forall₂ (Alike (Seen r.id)) lines others → r.reports c lines = r.reports c others := by
  simp only [catalogue, List.forall_mem_cons]
  and_intros
  all_goals first
    | exact fun c _ _ h => reports_missingErrorHandling_congr h c
    | exact fun c _ _ h => reports_statementTerminators_congr h c
    | exact fun c _ _ h => repeatedImports_congr h 1 []
    | exact fun c _ _ h => indentReports_congr h 1 none
    | exact fun c _ _ h => perLineFrom_congr_of_alike (fun _ _ _ _ => rfl) h 1
    | exact List.forall_mem_nil _

/-- The rules that see something of lines that look binary. -/
def readsBinary (ruleId : String) : Bool :=
  ruleId == missingErrorHandling.id || ruleId == statementTerminators.id

/-- The other rules see nothing of them. -/
theorem seen_of_not_readsBinary {ruleId : String} (h : readsBinary ruleId = false)
    (line other : Line) : Seen ruleId line other := by
  have hne : ruleId ≠ missingErrorHandling.id ∧ ruleId ≠ statementTerminators.id := by
    simpa [readsBinary] using h
  exact ⟨fun heq => absurd heq hne.1, fun heq => absurd heq hne.2, fun heq => absurd heq hne.2⟩

end Rule

namespace Scanner

variable (settings : Settings) (modules : NameSet) (policy : Policy) {content other : String}

/-- The hits of some rules are the same in two texts whose lines are alike in what these rules
see. -/
theorem filter_scan_congr (ids : String → Bool)
    (h : List.Forall₂ (Rule.Alike fun line other => ∀ ruleId, ids ruleId = true →
      Rule.Seen ruleId line other) (Text.lines content.toList) (Text.lines other.toList)) :
    (((ofSettings settings).withFirstParty modules).scan policy content).filter
        (fun hit => ids hit.ruleId) =
      (((ofSettings settings).withFirstParty modules).scan policy other).filter
        fun hit => ids hit.ruleId := by
  have hhits : ∀ r ∈ (ofSettings settings).rules, ∀ c : Rule.Context,
      (r.hits c (Text.lines content.toList)).filter (fun hit => ids hit.ruleId) =
        (r.hits c (Text.lines other.toList)).filter fun hit => ids hit.ruleId := by
    intro r hr c
    obtain ⟨r₀, hr₀, hid, hreports⟩ := exists_rule_of_mem_ofSettings settings hr
    rw [Rule.filter_hits, Rule.filter_hits]
    split
    · rename_i hchosen
      have halike : List.Forall₂ (Rule.Alike (Rule.Seen r₀.id)) (Text.lines content.toList)
          (Text.lines other.toList) :=
        h.imp fun _ _ hline => hline.imp_right fun ⟨hbinary, hother, hseen⟩ =>
          ⟨hbinary, hother, hid ▸ hseen r.id hchosen⟩
      rw [Rule.hits, Rule.hits, hreports, Rule.reports_congr r₀ hr₀ c halike]
    · rfl
  rw [filter_scan, filter_scan]
  exact congrArg (List.mergeSort · _) (List.flatMap_congr fun r hr => hhits r hr _)

/-- A rule that is on has a hit in a scan if it reports anything. -/
theorem exists_hit_iff {r : Rule} (hr : r ∈ Rule.catalogue)
    (hon : settings.isRuleEnabled r.key = true) :
    (∃ hit ∈ ((ofSettings settings).withFirstParty modules).scan policy content,
        hit.ruleId = r.id) ↔
      r.reports ⟨policy, modules, settings.analysis.errorLookahead⟩ (Text.lines content.toList) ≠
        [] := by
  have hhits := exists_hit_of_rule_iff settings modules policy hr (fun _ => True) content
  simp only [and_true, hon, true_and] at hhits
  rw [hhits, ← List.length_pos_iff, List.length_pos_iff_exists_mem]

/-- In two texts that differ in nothing but lines which look binary in both, the hits are the same but
for those of two rules; and if the lines that look binary agree in what these see of them, all hits
are the same. -/
theorem scan_congr_of_binary
    (h : Line.SameButBinary (Text.lines content.toList) (Text.lines other.toList)) :
    (((ofSettings settings).withFirstParty modules).scan policy content).filter
        (fun hit => !Rule.readsBinary hit.ruleId) =
      (((ofSettings settings).withFirstParty modules).scan policy other).filter
        (fun hit => !Rule.readsBinary hit.ruleId) ∧
    (List.Forall₂ (Rule.Alike fun line other => ∀ ruleId, Rule.Seen ruleId line other)
        (Text.lines content.toList) (Text.lines other.toList) →
      ((ofSettings settings).withFirstParty modules).scan policy content =
        ((ofSettings settings).withFirstParty modules).scan policy other) := by
  refine ⟨filter_scan_congr settings modules policy (fun ruleId => !Rule.readsBinary ruleId) ?_,
    fun hseen => ?_⟩
  · refine h.imp fun line other hline => hline.imp_right fun ⟨hbinary, hother⟩ =>
      ⟨hbinary, hother, fun ruleId hchosen => ?_⟩
    exact Rule.seen_of_not_readsBinary (by simpa using hchosen) line other
  · have hall := filter_scan_congr settings modules policy (fun _ => true) (hseen.imp
      fun _ _ hline => hline.imp_right fun ⟨hbinary, hother, hseen⟩ =>
        ⟨hbinary, hother, fun ruleId _ => hseen ruleId⟩)
    rwa [List.filter_true, List.filter_true] at hall

/-- A binary character more on a line that looks binary leaves the hit of the network call before it
where it is. -/
theorem scan_congr_of_binary_call :
    Line.SameButBinary (Text.lines "fetch(u)\n\x00".toList)
      (Text.lines "fetch(u)\n\x00a".toList) ∧
    (∃ hit ∈ ((ofSettings {}).withFirstParty ∅).scan .empty "fetch(u)\n\x00",
      hit.ruleId = Rule.missingErrorHandling.id) ∧
    ((ofSettings {}).withFirstParty ∅).scan .empty "fetch(u)\n\x00" =
      ((ofSettings {}).withFirstParty ∅).scan .empty "fetch(u)\n\x00a" := by
  have hbinary : Line.looksBinary ['\x00'] = true ∧ Line.looksBinary ['\x00', 'a'] = true := by
    decide
  have hlines : Line.SameButBinary (Text.lines "fetch(u)\n\x00".toList)
      (Text.lines "fetch(u)\n\x00a".toList) :=
    .cons (.inl rfl) (.cons (.inr hbinary) .nil)
  have hseen : ∀ ruleId, Rule.Seen ruleId ['\x00'] ['\x00', 'a'] := fun ruleId =>
    ⟨fun _ => rfl, fun _ => by decide, fun _ => by decide⟩
  refine ⟨hlines, ?_, (scan_congr_of_binary {} ∅ .empty hlines).2
    (.cons (.inl rfl) (.cons (.inr ⟨hbinary.1, hbinary.2, hseen⟩) .nil))⟩
  have hreport : Rule.missingErrorHandling.reports ⟨.empty, ∅, 5⟩
      (Text.lines "fetch(u)\n\x00".toList) =
        [⟨1, "Network call 'fetch' has no error handling"⟩] := rfl
  refine (exists_hit_iff {} ∅ .empty (by simp [Rule.catalogue]) rfl).2 ?_
  rw [hreport]
  exact List.cons_ne_nil _ _

/-- A word on a line that looks binary hides a network call without error handling, and a blank in
front of such a line hides a swallowed exception. -/
theorem scan_of_word_on_binary :
    Line.SameButBinary (Text.lines "fetch(u)\n\x00".toList)
        (Text.lines "fetch(u)\n\x00try".toList) ∧
      (∃ hit ∈ ((ofSettings {}).withFirstParty ∅).scan .empty "fetch(u)\n\x00",
        hit.ruleId = Rule.missingErrorHandling.id) ∧
      (¬ ∃ hit ∈ ((ofSettings {}).withFirstParty ∅).scan .empty "fetch(u)\n\x00try",
        hit.ruleId = Rule.missingErrorHandling.id) ∧
    Line.SameButBinary (Text.lines "except:\n pass\n\x00".toList)
        (Text.lines "except:\n pass\n \x00".toList) ∧
      (∃ hit ∈ ((ofSettings {}).withFirstParty ∅).scan .empty "except:\n pass\n\x00",
        hit.ruleId = Rule.statementTerminators.id) ∧
      ¬ ∃ hit ∈ ((ofSettings {}).withFirstParty ∅).scan .empty "except:\n pass\n \x00",
        hit.ruleId = Rule.statementTerminators.id := by
  have hcall : Rule.missingErrorHandling ∈ Rule.catalogue := by simp [Rule.catalogue]
  have hhandler : Rule.statementTerminators ∈ Rule.catalogue := by simp [Rule.catalogue]
  have hcalls : Rule.missingErrorHandling.reports ⟨.empty, ∅, 5⟩
      (Text.lines "fetch(u)\n\x00".toList) ≠ [] := List.cons_ne_nil _ _
  have hhidden : Rule.missingErrorHandling.reports ⟨.empty, ∅, 5⟩
      (Text.lines "fetch(u)\n\x00try".toList) = [] := rfl
  have hhandlers : Rule.statementTerminators.reports ⟨.empty, ∅, 5⟩
      (Text.lines "except:\n pass\n\x00".toList) ≠ [] := List.cons_ne_nil _ _
  have hpassed : Rule.statementTerminators.reports ⟨.empty, ∅, 5⟩
      (Text.lines "except:\n pass\n \x00".toList) = [] := rfl
  refine ⟨.cons (.inl rfl) (.cons (.inr (by decide)) .nil),
    (exists_hit_iff {} ∅ .empty hcall rfl).2 hcalls, fun h => ?_,
    .cons (.inl rfl) (.cons (.inl rfl) (.cons (.inr (by decide)) .nil)),
    (exists_hit_iff {} ∅ .empty hhandler rfl).2 hhandlers, fun h => ?_⟩
  · exact (exists_hit_iff {} ∅ .empty hcall rfl).1 h hhidden
  · exact (exists_hit_iff {} ∅ .empty hhandler rfl).1 h hpassed

end Scanner

end SourceAudit
