import SourceAudit.Proofs.Line.Lexeme
import SourceAudit.Proofs.Rule.Handler
import SourceAudit.Proofs.Rule.Reports
import SourceAudit.Proofs.Text.Control

/-!
# Contents of string literals

Two lines are the same but for the contents of their string literals (`Line.SameButLiterals`) if they
agree outside of the literals that are closed on the line, and in the delimiters. Their code is the same
(`Line.SameButLiterals.code_eq`), and so is what the rule on terminators reads of them in the body of a
handler (`Rule.sameInBody_of_sameButLiterals`), though this is read from the lines as they stand: a
literal is neither white space nor a part of a lone `pass`.

So the three rules that judge the code of a line do not see what stands in literals
(`Rule.hits_eq_of_sameButLiterals`).
-/

namespace SourceAudit

namespace Line

/-- The texts are the same but for the contents of string literals that are closed in them. -/
inductive SameButLiterals : List Char → List Char → Prop
  | refl (text : List Char) : SameButLiterals text text
  | outside {c : Char} {text other : List Char} (plain : isQuote c = false)
      (rest : SameButLiterals text other) : SameButLiterals (c :: text) (c :: other)
  | literal {quote : Char} {inner inner' text other : List Char} (opens : isQuote quote = true)
      (closed : LiteralText quote inner) (closed' : LiteralText quote inner')
      (rest : SameButLiterals text other) :
      SameButLiterals (quote :: (inner ++ quote :: text)) (quote :: (inner' ++ quote :: other))

namespace SameButLiterals

variable {line other : List Char}

/-- What stands in front of them without delimiters may be longer. -/
theorem append (start : List Char) (hstart : ∀ c ∈ start, isQuote c = false)
    (h : SameButLiterals line other) : SameButLiterals (start ++ line) (start ++ other) := by
  induction start with
  | nil => exact h
  | cons c start ih =>
    obtain ⟨hc, hstart⟩ := List.forall_mem_cons.1 hstart
    exact .outside hc (ih hstart)

theorem head?_eq (h : SameButLiterals line other) : line.head? = other.head? := by
  cases h <;> rfl

/-- The code is the same. -/
theorem code_eq (h : SameButLiterals line other) : code line = code other := by
  induction h with
  | refl => rfl
  | @outside c text other plain rest ih =>
    -- Whether a comment starts at the character depends on the next one, which is the same.
    have hstarts : startsComment (c :: text) = startsComment (c :: other) := by
      rw [Bool.eq_iff_iff, startsComment_cons_iff, startsComment_cons_iff, rest.head?_eq]
    rw [code, code, split, split, splitFrom, splitFrom, ← hstarts, plain]
    split
    · rfl
    · exact congrArg (c :: ·) ih
  | literal opens closed closed' _ ih => rw [code_literal opens closed, code_literal opens closed', ih]

/-- The lines start with the same characters of a kind that no literal starts with, and are the same but
for literals behind them. -/
theorem takeWhile_dropWhile (h : SameButLiterals line other) {p : Char → Bool}
    (hp : ∀ c, p c = true → isQuote c = false) :
    line.takeWhile p = other.takeWhile p ∧
      SameButLiterals (line.dropWhile p) (other.dropWhile p) := by
  induction h with
  | refl text => exact ⟨rfl, .refl _⟩
  | @outside c text other plain rest ih =>
    rcases hc : p c
    · simpa [hc] using .outside plain rest
    · simpa [hc] using ih
  | @literal quote _ _ _ _ opens closed closed' rest _ =>
    -- Both runs end where the literal starts.
    have hquote : ¬ p quote = true := fun h => by
      rw [hp quote h] at opens
      cases opens
    simpa [hquote] using .literal opens closed closed' rest

/-- Lines that differ have literals. -/
theorem eq_or_exists_quote (h : SameButLiterals line other) :
    line = other ∨ (∃ c ∈ line, isQuote c = true) ∧ ∃ c ∈ other, isQuote c = true := by
  induction h with
  | refl => exact .inl rfl
  | @outside c _ _ _ _ ih =>
    rcases ih with rfl | ⟨⟨q, hq, hquote⟩, q', hq', hquote'⟩
    · exact .inl rfl
    · exact .inr ⟨⟨q, List.mem_cons_of_mem c hq, hquote⟩, q', List.mem_cons_of_mem c hq', hquote'⟩
  | @literal quote _ _ _ _ opens =>
    exact .inr ⟨⟨quote, List.mem_cons_self, opens⟩, quote, List.mem_cons_self, opens⟩

end SameButLiterals

end Line

namespace Rule

open Text (Line)

/-- A line with a literal is no lone `pass`. -/
theorem trim_ne_pass_of_isQuote {line : Line} (h : ∃ c ∈ line, Line.isQuote c = true) :
    Text.trim line ≠ "pass".toList := by
  obtain ⟨c, hc, hquote⟩ := h
  have hletters : ∀ c ∈ "pass".toList, Line.isQuote c = false := by decide
  refine trim_ne_pass_of_mem hc (eq_false_of_ne_true fun hblank => ?_) fun hword => ?_
  · rw [(Line.isKept_iff.1 (Line.isKept_of_isBlank hblank)).1] at hquote
    cases hquote
  · rw [hletters c hword] at hquote
    cases hquote

/-- In the body of a handler the contents of literals do not count. -/
theorem sameInBody_of_sameButLiterals {line other : Line} (h : Line.SameButLiterals line other) :
    SameInBody line other := by
  refine ⟨?_, ?_, ?_⟩
  -- Whether it is a statement shows at the first character that is no white space.
  · have htrim : Line.SameButLiterals (Text.trimStart line) (Text.trimStart other) :=
      (h.takeWhile_dropWhile fun c hc => (Line.isKept_iff.1 (Line.isKept_of_isBlank hc)).1).2
    rw [isStatement_eq, isStatement_eq, htrim.head?_eq]
  -- Lines that differ have delimiters, and a `pass` has none.
  · rcases h.eq_or_exists_quote with rfl | ⟨hline, hother⟩
    · exact Iff.rfl
    · exact iff_of_false (trim_ne_pass_of_isQuote hline) (trim_ne_pass_of_isQuote hother)
  · have hrun : indentRun line = indentRun other := by
      refine (h.takeWhile_dropWhile fun c hc => ?_).1
      rcases Bool.or_eq_true_iff.1 hc with hc | hc <;> rw [eq_of_beq hc] <;> decide
    rw [indentWidth, indentWidth, hrun]

/-- What stands in string literals that are closed on their line is of no account for the rules on dynamic
evaluation, debug output and terminators: their hits are the same in two files that differ in nothing
else. -/
theorem hits_eq_of_sameButLiterals (c : Context) {content other : String}
    (h : List.Forall₂ Line.SameButLiterals (Text.lines content.toList) (Text.lines other.toList))
    (hplain : ∀ line ∈ Text.lines content.toList ++ Text.lines other.toList,
      Line.looksBinary line = false) :
    ∀ r ∈ [dynamicEvaluation, debugLogging, statementTerminators],
      r.hits c (Text.lines content.toList) = r.hits c (Text.lines other.toList) := by
  have hperLine : ∀ judge : Line → List Line → Option String,
      (∀ {line other later others}, Line.SameButLiterals line other →
        List.Forall₂ Line.SameButLiterals later others → judge line later = judge other others) →
      perLine judge (Text.lines content.toList) = perLine judge (Text.lines other.toList) := by
    intro judge hjudge
    refine perLineFrom_congr_of_forall₂ ?_ ?_ h 1
    · intro line other _ hline hother
      rw [hplain line (List.mem_append_left _ hline), hplain other (List.mem_append_right _ hother)]
    · exact fun hline _ hlater => hjudge hline hlater
  have hreports : ∀ r ∈ [dynamicEvaluation, debugLogging, statementTerminators],
      r.reports c (Text.lines content.toList) = r.reports c (Text.lines other.toList) := by
    simp only [List.forall_mem_cons]
    refine ⟨hperLine _ fun hline _ => ?_, hperLine _ fun hline _ => ?_,
      hperLine _ fun hline hlater => ?_, List.forall_mem_nil _⟩
    · simp only [hline.code_eq]
    · simp only [hline.code_eq]
    · simp only [hline.code_eq,
        bodyIsPass_congr (hlater.imp fun _ _ => sameInBody_of_sameButLiterals)]
  exact fun r hr => congrArg (List.map r.hitOf) (hreports r hr)

/-- A call and a semicolon more in literals change nothing, and neither does an escaped delimiter less. -/
theorem hits_eq_of_sameButLiterals_call :
    let lines := Text.lines "print(\"a\\\"b\")\nexcept:\n    pass\nx = ''\n".toList
    let others := Text.lines "print(\"eval(x)\")\nexcept:\n    pass\nx = ';;#'\n".toList
    List.Forall₂ Line.SameButLiterals lines others ∧
      (∀ line ∈ lines ++ others, Line.looksBinary line = false) ∧
      (∀ r ∈ [dynamicEvaluation, debugLogging, statementTerminators],
        r.hits ⟨.empty, ∅, 5⟩ lines = r.hits ⟨.empty, ∅, 5⟩ others) ∧
      [dynamicEvaluation, debugLogging, statementTerminators].map
          (fun r => (r.hits ⟨.empty, ∅, 5⟩ others).map (·.line)) = [[], [1], [2]] := by
  intro lines others
  have hescaped : Line.LiteralText '"' "a\\\"b".toList :=
    .plain (by decide) (by decide) (.escaped '"' (.plain (by decide) (by decide) .nil))
  have hcall : Line.LiteralText '"' "eval(x)".toList := Line.literalText_of_forall (by decide)
  have hfirst : Line.SameButLiterals "print(\"a\\\"b\")".toList "print(\"eval(x)\")".toList :=
    .append "print(".toList (by decide) (.literal (by decide) hescaped hcall (.refl [')']))
  have hsigns : Line.LiteralText '\'' ";;#".toList := Line.literalText_of_forall (by decide)
  have hlast : Line.SameButLiterals "x = ''".toList "x = ';;#'".toList :=
    .append "x = ".toList (by decide) (.literal (by decide) .nil hsigns (.refl []))
  have hsame : List.Forall₂ Line.SameButLiterals lines others :=
    .cons hfirst (.cons (.refl _) (.cons (.refl _) (.cons hlast .nil)))
  have hplain : ∀ line ∈ lines ++ others, Line.looksBinary line = false := by decide
  exact ⟨hsame, hplain, hits_eq_of_sameButLiterals ⟨.empty, ∅, 5⟩ hsame hplain, by decide +kernel⟩

end Rule

end SourceAudit
