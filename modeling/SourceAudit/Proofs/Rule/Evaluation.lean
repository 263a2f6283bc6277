import SourceAudit.Proofs.Line.Code
import SourceAudit.Proofs.Pattern.Matching
import SourceAudit.Proofs.Scan.OnLine

/-!
# Dynamic evaluation on lines without literals

The rule on dynamic evaluation looks for calls of `eval` and `exec` in the code of a line. In terms of
texts its patterns find a call where the name stands free and a parenthesis opens behind it
(`occursIn_call_iff`). On a line without quotes the code is what stands before the first sign of a
comment (`Line.code_eq_beforeComment`), so every scan has a critical hit on a line with a call there
(`hitsAt_dynamicEvaluation`). Two slashes are such a sign in every language: behind a division that
rounds down a call escapes the rule (`hitsAt_dynamicEvaluation_floorDivision`).
-/

namespace SourceAudit.Rule

open Pattern
open Text (Line)

/-! ### Calls -/

/-- The text calls a function: the name stands neither in a longer word nor behind a dot, and a
parenthesis opens behind it. -/
def Calls (name text : List Char) : Prop :=
  ∃ before space after, text = before ++ (name ++ (space ++ '(' :: after)) ∧
    (∀ c ∈ before.getLast?, c ≠ '.' ∧ Text.isWord c = false) ∧ ∀ c ∈ space, Text.isBlank c = true

/-- The pattern of a call finds the calls. -/
theorem occursIn_call_iff {name : String} {text : List Char} :
    (freeStart ++ lit name ++ gap ++ lit "(").occursIn text = true ↔ Calls name.toList text := by
  rw [occursIn_iff]
  constructor
  · rintro ⟨front, rest, t, rfl, h⟩
    obtain ⟨v, h, hopen⟩ := reaches_append_iff.1 h
    obtain ⟨u, h, hgap⟩ := reaches_append_iff.1 h
    obtain ⟨s, hfree, hname⟩ := reaches_append_iff.1 h
    obtain ⟨space, hblank, hspace⟩ := reaches_gap_iff.1 hgap
    have hcall : s.rest = name.toList ++ (space ++ '(' :: t.rest) := by
      rw [(reaches_lit_iff.1 hname).rest, hspace.rest, (reaches_lit_iff.1 hopen).rest]
      rfl
    rcases reaches_alt_iff.1 hfree with hstart | hone
    · obtain ⟨hnone, rfl⟩ := reaches_start_iff.1 hstart
      obtain rfl : front = [] := List.getLast?_eq_none_iff.1 hnone
      exact ⟨[], space, t.rest, hcall, by simp, hblank⟩
    · obtain ⟨c, hc, hskips⟩ := reaches_one_iff.1 hone
      have hrest : rest = c :: s.rest := hskips.rest
      refine ⟨front ++ [c], space, t.rest, ?_, ?_, hblank⟩
      · rw [hrest, hcall, List.append_assoc, List.singleton_append]
      · simpa using hc
  · rintro ⟨before, space, after, rfl, hfree, hblank⟩
    have hcall : ∀ s : Spot, s.rest = name.toList ++ (space ++ '(' :: after) → ∃ u v t,
        (lit name).Reaches s u ∧ gap.Reaches u v ∧ (lit "(").Reaches v t := by
      intro s hs
      obtain ⟨u, hname, hu⟩ := Spot.exists_skips hs
      obtain ⟨v, hspace, hv⟩ := Spot.exists_skips hu
      have hparenthesis : v.rest = "(".toList ++ after := hv
      obtain ⟨t, hopen, -⟩ := Spot.exists_skips hparenthesis
      exact ⟨u, v, t, reaches_lit_iff.2 hname, reaches_gap_iff.2 ⟨space, hblank, hspace⟩,
        reaches_lit_iff.2 hopen⟩
    rcases List.eq_nil_or_concat before with rfl | ⟨front, c, rfl⟩
    · obtain ⟨u, v, t, hname, hgap, hopen⟩ :=
        hcall ⟨none, name.toList ++ (space ++ '(' :: after), []⟩ rfl
      have hstart : freeStart.Reaches ⟨none, name.toList ++ (space ++ '(' :: after), []⟩ _ :=
        .left (.start rfl)
      exact ⟨[], _, t, rfl, ((hstart.seq hname).seq hgap).seq hopen⟩
    · obtain ⟨u, v, t, hname, hgap, hopen⟩ :=
        hcall ⟨some c, name.toList ++ (space ++ '(' :: after), []⟩ rfl
      have hstart : freeStart.Reaches ⟨front.getLast?, c :: (name.toList ++ (space ++ '(' :: after)), []⟩
          ⟨some c, name.toList ++ (space ++ '(' :: after), []⟩ := .right (.one (by simpa using hfree))
      refine ⟨front, _, t, ?_, ((hstart.seq hname).seq hgap).seq hopen⟩
      rw [List.concat_eq_append, List.append_assoc, List.singleton_append]

/-! ### The rule -/

/-- The hit for a construct on a line. -/
def evaluationHit (line : Nat) (construct : String) : Hit where
  ruleId := "SEC001"
  line := line
  category := .security
  severity := .critical
  description := "Unsafe dynamic evaluation: " ++ construct

/-- Every scan has the hit on a line that the first unsafe construct in its code gives, or none. -/
theorem hitsAt_dynamicEvaluation_code (modules : NameSet) (policy : Policy) {content : String}
    {k : Nat} {line : Line} (hline : (Text.lines content.toList)[k]? = some line)
    (hplain : Line.looksBinary line = false) :
    hitsAt ((Scanner.default.withFirstParty modules).scan policy content) dynamicEvaluation.id (k + 1) =
      ((unsafeConstructs.find? fun u => u.1.occursIn (Line.code line)).map fun u =>
        evaluationHit (k + 1) u.2).toList := by
  have hreports : ∀ c lines, dynamicEvaluation.reports c lines = perLine (fun line _ =>
      (unsafeConstructs.find? fun u => u.1.occursIn (Line.code line)).map fun u =>
        "Unsafe dynamic evaluation: " ++ u.2) lines := fun _ _ => rfl
  refine (Scanner.hitsAt_default modules policy (by simp [catalogue]) hreports hline hplain).trans ?_
  rw [Option.map_map]
  rfl

/-- On a line without literals whose code calls `eval` or `exec` every scan has a critical hit, which
names the first of the two; on one whose code has no unsafe construct it has none. The code ends at
the first sign of a comment, so it is the whole line if there is no such sign. -/
theorem hitsAt_dynamicEvaluation (modules : NameSet) (policy : Policy) {content : String} {k : Nat}
    {line : Line} (hline : (Text.lines content.toList)[k]? = some line)
    (hplain : Line.looksBinary line = false) (hquotes : ∀ c ∈ line, Line.isQuote c = false) :
    let code := Line.beforeComment line
    let hits := hitsAt ((Scanner.default.withFirstParty modules).scan policy content)
      dynamicEvaluation.id (k + 1)
    (Calls "eval".toList code → hits = [evaluationHit (k + 1) "eval()"]) ∧
      (¬ Calls "eval".toList code → Calls "exec".toList code →
        hits = [evaluationHit (k + 1) "exec()"]) ∧
      ((∀ u ∈ unsafeConstructs, u.1.occursIn code = false) → hits = []) ∧
      ('#' ∉ line → ¬ "//".toList <:+: line → ¬ "/*".toList <:+: line → code = line) := by
  intro code hits
  have hhits : hits = ((unsafeConstructs.find? fun u => u.1.occursIn code).map fun u =>
      evaluationHit (k + 1) u.2).toList := by
    have hcode : code = Line.code line := (Line.code_eq_beforeComment hquotes).symm
    rw [hcode]
    exact hitsAt_dynamicEvaluation_code modules policy hline hplain
  refine ⟨fun heval => ?_, fun heval hexec => ?_, fun hnone => ?_, Line.beforeComment_eq_self⟩
  · have hfound := occursIn_call_iff.2 heval
    rw [hhits]
    simp only [unsafeConstructs, List.find?_cons, hfound]
    rfl
  · have hnot := eq_false_of_ne_true (mt occursIn_call_iff.1 heval)
    have hfound := occursIn_call_iff.2 hexec
    rw [hhits]
    simp only [unsafeConstructs, List.find?_cons, hnot, hfound]
    rfl
  · have hnot : unsafeConstructs.find? (fun u => u.1.occursIn code) = none :=
      List.find?_eq_none.2 fun u hu => by simp [hnone u hu]
    rw [hhits, hnot]
    rfl

/-- A call of each, behind a bracket and at the start of a line with white space before the
parenthesis. -/
theorem hitsAt_dynamicEvaluation_calls :
    hitsAt ((Scanner.default.withFirstParty ∅).scan Policy.empty "y = [eval(x)]\nexec (y)\n")
        dynamicEvaluation.id 1 = [evaluationHit 1 "eval()"] ∧
      hitsAt ((Scanner.default.withFirstParty ∅).scan Policy.empty "y = [eval(x)]\nexec (y)\n")
        dynamicEvaluation.id 2 = [evaluationHit 2 "exec()"] := by
  have hline : (Text.lines "y = [eval(x)]\nexec (y)\n".toList)[0]? = some "y = [eval(x)]".toList := by
    decide
  have hline' : (Text.lines "y = [eval(x)]\nexec (y)\n".toList)[1]? = some "exec (y)".toList := by
    decide
  have hfirst := hitsAt_dynamicEvaluation ∅ Policy.empty hline (by decide) (by decide)
  have hsecond := hitsAt_dynamicEvaluation ∅ Policy.empty hline' (by decide) (by decide)
  refine ⟨hfirst.1 ?_, hsecond.2.1 ?_ ?_⟩
  · exact ⟨"y = [".toList, [], "x)]".toList, by decide, by decide, by decide⟩
  · rw [← occursIn_call_iff]
    decide +kernel
  · exact ⟨[], " ".toList, "y)".toList, by decide, by decide, by decide⟩

/-- Behind a division that rounds down a call escapes the rule, though the line has no literal and no
hash sign. -/
theorem hitsAt_dynamicEvaluation_floorDivision :
    (Text.lines "x = a // eval(b)\n".toList)[0]? = some "x = a // eval(b)".toList ∧
      Line.looksBinary "x = a // eval(b)".toList = false ∧
      (∀ c ∈ "x = a // eval(b)".toList, Line.isQuote c = false ∧ c ≠ '#') ∧
      Calls "eval".toList "x = a // eval(b)".toList ∧
      hitsAt (Scanner.default.scan Policy.empty "x = a // eval(b)\n") dynamicEvaluation.id 1 = [] := by
  have hline : (Text.lines "x = a // eval(b)\n".toList)[0]? = some "x = a // eval(b)".toList := by
    decide
  have hplain : Line.looksBinary "x = a // eval(b)".toList = false := by decide
  refine ⟨hline, hplain, by decide, ?_, ?_⟩
  · exact ⟨"x = a // ".toList, [], "b)".toList, by decide, by decide, by decide⟩
  · refine (hitsAt_dynamicEvaluation_code ∅ Policy.empty hline hplain).trans ?_
    decide +kernel

end SourceAudit.Rule
