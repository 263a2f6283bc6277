import SourceAudit.Proofs.Line.Code
import SourceAudit.Proofs.Rule.Handler
import SourceAudit.Proofs.Rule.Reports
import SourceAudit.Proofs.Text.Control

/-!
# Comments and swallowed exceptions

The rule on terminators takes the comment off the line that it judges. The body of a handler it reads
from the lines as they stand, where nothing but a number sign at the start makes a comment. So it does
not know a lone `pass` with a comment behind it, and counts a comment of slashes as a statement.

Without the comments the rule says the same of every line, unless it is the header of a handler
(`AwaitsBody`) and there is such a comment where it reads the body (`Uncommented`). Of a header with a
commented `pass` below it says nothing; once the comments are off, it says that exceptions are
swallowed if the body ends there (`hits_statementTerminators_code`).
-/

namespace SourceAudit.Rule

open Text (Line)

variable {line : Line} {lines body : List Line}

/-! ### Lines of a body without their comments -/

/-- The line is a comment that a slash starts. -/
def isSlashComment (line : Line) : Bool :=
  "//".toList.isPrefixOf (Text.trimStart line) || "/*".toList.isPrefixOf (Text.trimStart line)

/-- The line is a lone `pass` with a comment behind it. -/
def IsCommentedPass (line : Line) : Prop :=
  ∃ space comment, (∀ c ∈ space, Text.isBlank c = true) ∧ Line.startsComment comment = true ∧
    Text.trimStart line = "pass".toList ++ (space ++ comment)

theorem trimStart_code (line : Line) :
    Text.trimStart (Line.code line) = Line.code (Text.trimStart line) :=
  (Line.takeWhile_dropWhile_code (fun _ => Line.isKept_of_isBlank) line).2

theorem indentWidth_code (line : Line) : indentWidth (Line.code line) = indentWidth line := by
  have hrun : indentRun (Line.code line) = indentRun line :=
    (Line.takeWhile_dropWhile_code (fun c hc => Line.isKept_of_isBlank (by
      rcases Bool.or_eq_true_iff.1 hc with h | h <;> rw [eq_of_beq h] <;> decide)) line).1
  rw [indentWidth, hrun, indentWidth]

/-- A line that is a comment starts with a number sign or a slash. -/
theorem startsComment_trimStart_iff : Line.startsComment (Text.trimStart line) = true ↔
    (Text.trimStart line).head? = some '#' ∨ isSlashComment line = true := by
  have hhash : "#".toList <+: Text.trimStart line ↔ (Text.trimStart line).head? = some '#' := by
    rcases Text.trimStart line with _ | ⟨c, rest⟩ <;> simp [eq_comm]
  rw [Line.startsComment_iff, isSlashComment, Bool.or_eq_true, List.isPrefixOf_iff_prefix,
    List.isPrefixOf_iff_prefix, hhash]

/-- A statement is none any more without its comment if it is a comment of slashes. -/
theorem isStatement_code (line : Line) :
    isStatement (Line.code line) = (isStatement line && !isSlashComment line) := by
  rw [isStatement_eq, isStatement_eq, trimStart_code, Line.head?_code]
  split
  · rename_i hstarts
    rcases startsComment_trimStart_iff.1 hstarts with hhash | hslash
    · rw [hhash]
      rfl
    · rw [hslash, Bool.not_true, Bool.and_false]
      rfl
  · rename_i hstarts
    have hslash : isSlashComment line = false :=
      eq_false_of_ne_true fun h => hstarts (startsComment_trimStart_iff.2 (.inr h))
    rw [hslash, Bool.not_false, Bool.and_true]

/-- The statements of a body without its comments. -/
theorem statements_map_code (body : List Line) : (body.map Line.code).filter isStatement =
    ((body.filter isStatement).filter fun line => !isSlashComment line).map Line.code := by
  have hcode : isStatement ∘ Line.code = fun line => isStatement line && !isSlashComment line :=
    funext isStatement_code
  rw [List.filter_map, hcode, List.filter_filter]
  simp only [Bool.and_comm]

theorem not_isBlank_of_mem_pass : ∀ c ∈ "pass".toList, Text.isBlank c = false := by
  decide

/-- The characters of a `pass` and of the white space behind it stand for themselves. -/
theorem isKept_of_mem_pass {space : List Char} (hspace : ∀ c ∈ space, Text.isBlank c = true) :
    ∀ c ∈ "pass".toList ++ space, Line.isKept c = true := by
  have hword : ∀ c ∈ "pass".toList, Line.isKept c = true := by decide
  exact List.forall_mem_append.2 ⟨hword, fun c hc => Line.isKept_of_isBlank (hspace c hc)⟩

/-- The comment behind a `pass` is all that its code lacks. -/
theorem code_pass {space comment : List Char} (hspace : ∀ c ∈ space, Text.isBlank c = true)
    (hcomment : comment = [] ∨ Line.startsComment comment = true) :
    Line.code ("pass".toList ++ (space ++ comment)) = "pass".toList ++ space := by
  have hnone : Line.code comment = [] := by
    have hhead := Line.head?_code comment
    rcases hcomment with rfl | hcomment
    · rfl
    · rwa [if_pos hcomment, List.head?_eq_none_iff] at hhead
  rw [← List.append_assoc, Line.code_append (isKept_of_mem_pass hspace), hnone, List.append_nil]

/-- A line without its comment is a lone `pass` if the line is one, with a comment behind it or not. -/
theorem trim_code_eq_pass_iff : Text.trim (Line.code line) = "pass".toList ↔
    Text.trim line = "pass".toList ∨ IsCommentedPass line := by
  rw [Text.trim_eq_iff not_isBlank_of_mem_pass, Text.trim_eq_iff not_isBlank_of_mem_pass,
    trimStart_code]
  constructor
  · rintro ⟨space, hspace, hcode⟩
    have hquotes : ∀ c ∈ Line.code (Text.trimStart line), Line.isQuote c = false := by
      rw [hcode]
      exact fun c hc => (Line.isKept_iff.1 (isKept_of_mem_pass hspace c hc)).1
    -- There is no literal, so the line is its code and a comment.
    obtain ⟨comment, hline, hcomment⟩ := Line.exists_comment hquotes
    rw [hcode, List.append_assoc] at hline
    rcases hcomment with rfl | hcomment
    · exact .inl ⟨space, hspace, by rw [hline, List.append_nil]⟩
    · exact .inr ⟨space, comment, hspace, hcomment, hline⟩
  · rintro (⟨space, hspace, hline⟩ | ⟨space, comment, hspace, hcomment, hline⟩)
    · refine ⟨space, hspace, ?_⟩
      rw [hline, ← List.append_nil space, code_pass hspace (.inl rfl), List.append_nil]
    · exact ⟨space, hspace, by rw [hline, code_pass hspace (.inr hcomment)]⟩

/-- With a comment behind it, a `pass` is not alone on its line. -/
theorem IsCommentedPass.trim_ne_pass (h : IsCommentedPass line) :
    Text.trim line ≠ "pass".toList := by
  obtain ⟨space, comment, -, hcomment, hline⟩ := h
  rcases comment with _ | ⟨c, rest⟩
  · cases hcomment
  have hc : c ∈ line := by
    refine (List.dropWhile_sublist Text.isBlank).mem ?_
    rw [← Text.trimStart, hline]
    simp
  rcases Line.startsComment_cons_iff.1 hcomment with rfl | ⟨rfl, -⟩
  · exact trim_ne_pass_of_mem hc (by decide) (by decide)
  · exact trim_ne_pass_of_mem hc (by decide) (by decide)

theorem isCommentedPass_iff : IsCommentedPass line ↔
    Text.trim (Line.code line) = "pass".toList ∧ Text.trim line ≠ "pass".toList := by
  constructor
  · exact fun h => ⟨trim_code_eq_pass_iff.2 (.inr h), h.trim_ne_pass⟩
  · exact fun ⟨hcode, hne⟩ => (trim_code_eq_pass_iff.1 hcode).resolve_left hne

instance : DecidablePred IsCommentedPass := fun _ => decidable_of_iff _ isCommentedPass_iff.symm

/-! ### Bodies without their comments -/

/-- There are no comments where the rule reads the body of a handler: the first statement is no `pass`
with a comment behind it, and the first two are no comments of slashes. -/
def Uncommented (body : List Line) : Prop :=
  (∀ first ∈ (body.filter isStatement).head?, ¬ IsCommentedPass first) ∧
    ∀ statement ∈ (body.filter isStatement).take 2, isSlashComment statement = false

instance : DecidablePred Uncommented := fun _ => inferInstanceAs (Decidable (_ ∧ _))

/-- The rule makes the same of such a body without its comments. -/
theorem bodyIsPass_map_code (h : Uncommented body) (headerIndent : Nat) :
    bodyIsPass headerIndent (body.map Line.code) = bodyIsPass headerIndent body := by
  obtain ⟨hfirst, hslash⟩ := h
  have hpass : ∀ first, ¬ IsCommentedPass first →
      (Text.trim (Line.code first) == "pass".toList) = (Text.trim first == "pass".toList) := by
    intro first hfirst
    rw [Bool.eq_iff_iff, beq_iff_eq, beq_iff_eq, trim_code_eq_pass_iff, or_iff_left hfirst]
  rw [bodyIsPass_eq, bodyIsPass_eq, statements_map_code]
  -- The first two statements remain the first two, and no more is read.
  generalize body.filter isStatement = statements at hfirst hslash ⊢
  rcases statements with _ | ⟨first, _ | ⟨next, rest⟩⟩
  · rfl
  · rw [List.filter_cons_of_pos (by simp [hslash first]), List.filter_nil]
    exact hpass first (hfirst first rfl)
  · have hplain : isSlashComment first = false ∧ isSlashComment next = false :=
      ⟨hslash first (by simp), hslash next (by simp)⟩
    rw [List.filter_cons_of_pos (by simp [hplain]), List.filter_cons_of_pos (by simp [hplain]),
      List.map_cons, List.map_cons, startsWithPass, startsWithPass, hpass first (hfirst first rfl),
      indentWidth_code]

/-- Without the comments a body that starts with a commented `pass` is a lone `pass` if what stands
there next is indented no further than the header. -/
theorem bodyIsPass_of_isCommentedPass {first : Line} {rest : List Line}
    (hbody : body.filter isStatement = first :: rest) (hfirst : IsCommentedPass first)
    (headerIndent : Nat) :
    bodyIsPass headerIndent body = false ∧
      bodyIsPass headerIndent (body.map Line.code) =
        (rest.find? fun line => !isSlashComment line).all (indentWidth · ≤ headerIndent) := by
  have hraw : (Text.trim first == "pass".toList) = false := beq_false_of_ne hfirst.trim_ne_pass
  have hcode : (Text.trim (Line.code first) == "pass".toList) = true :=
    beq_iff_eq.2 (trim_code_eq_pass_iff.2 (.inr hfirst))
  have hplain : isSlashComment first = false := by
    obtain ⟨space, comment, -, -, hline⟩ := hfirst
    rw [isSlashComment, hline]
    rfl
  rw [bodyIsPass_eq, bodyIsPass_eq, statements_map_code, hbody]
  constructor
  · rcases rest with _ | ⟨next, rest⟩
    · exact hraw
    · rw [startsWithPass, hraw, Bool.false_and]
  · rw [← List.head?_filter, List.filter_cons_of_pos (by simp [hplain])]
    rcases rest.filter fun line => !isSlashComment line with _ | ⟨next, more⟩
    · exact hcode
    · rw [List.map_cons, List.map_cons, startsWithPass, hcode, indentWidth_code]
      rfl

/-! ### The judgement of a line -/

/-- What the rule says of a handler that swallows exceptions. -/
def swallowed : String :=
  "Exception silently swallowed: 'except' block only contains 'pass'"

/-- What the rule says of a line with this code, if it knows at which indentations of the header the
body below is a lone `pass`. -/
def terminatorFault? (passes : Nat → Bool) (code : List Char) : Option String :=
  if hasDoubleTerminator code then some "Double statement terminator ';;'"
  else if emptyControlBlock.occursIn code then some "Empty block after control statement"
  else
    match catchAll.find? code with
    | none => none
    | some f =>
      if (f.group? 2).isSome || passes (indentWidth (f.group 1)) then some swallowed else none

theorem reports_statementTerminators (c : Context) (lines : List Line) :
    statementTerminators.reports c lines = perLine (fun line later =>
      terminatorFault? (bodyIsPass · later) (Line.code line)) lines :=
  rfl

/-- The code is the header of a handler that catches every exception, at this indentation, and there is
no body behind it on the line. Nothing else is wrong with it. -/
structure AwaitsBody (headerIndent : Nat) (code : List Char) : Prop where
  terminators : hasDoubleTerminator code = false
  block : emptyControlBlock.occursIn code = false
  header : ∃ f, catchAll.find? code = some f ∧ f.group? 2 = none ∧
    indentWidth (f.group 1) = headerIndent

/-- The body below counts for such headers alone. -/
theorem terminatorFault?_congr {passes passes' : Nat → Bool} {code : List Char}
    (h : ∀ headerIndent, AwaitsBody headerIndent code →
      passes headerIndent = passes' headerIndent) :
    terminatorFault? passes code = terminatorFault? passes' code := by
  rw [terminatorFault?, terminatorFault?]
  split
  · rfl
  rename_i hterminators
  split
  · rfl
  rename_i hblock
  rcases hfind : catchAll.find? code with _ | f
  · rfl
  rcases hgroup : f.group? 2 with _ | inline
  · have hpasses := h _ ⟨eq_false_of_ne_true hterminators, eq_false_of_ne_true hblock, f, hfind,
      hgroup, rfl⟩
    simp only [hpasses, hgroup]
  · simp only [hgroup, Option.isSome_some, Bool.true_or]

/-- Of such a header only the body decides what is said. -/
theorem AwaitsBody.terminatorFault?_eq {headerIndent : Nat} {code : List Char}
    (h : AwaitsBody headerIndent code) (passes : Nat → Bool) :
    terminatorFault? passes code = if passes headerIndent then some swallowed else none := by
  obtain ⟨hterminators, hblock, f, hfind, hgroup, rfl⟩ := h
  rw [terminatorFault?, hterminators, if_neg Bool.false_ne_true, hblock,
    if_neg Bool.false_ne_true, hfind]
  simp only [hgroup, Option.isSome_none, Bool.false_or]

/-! ### Files without their comments -/

/-- The line at this place is the header of a handler whose body is below, and there are comments where
the rule reads the body. -/
def CommentsBelow (lines : List Line) (k : Nat) : Prop :=
  ∃ line headerIndent, lines[k]? = some line ∧ AwaitsBody headerIndent (Line.code line) ∧
    ¬ Uncommented (lines.drop (k + 1))

/-- Any other line is judged alike without the comments. -/
theorem terminatorFault?_map_code {k : Nat} (hline : lines[k]? = some line)
    (h : ¬ CommentsBelow lines k) :
    terminatorFault? (bodyIsPass · ((lines.map Line.code).drop (k + 1)))
        (Line.code (Line.code line)) =
      terminatorFault? (bodyIsPass · (lines.drop (k + 1))) (Line.code line) := by
  rw [Line.code_code, ← List.map_drop]
  refine terminatorFault?_congr fun headerIndent hawaits => bodyIsPass_map_code ?_ headerIndent
  exact Decidable.not_not.1 fun hcomments => h ⟨line, headerIndent, hline, hawaits, hcomments⟩

/-- With the comments taken off every line the rule says the same of a line, unless there are comments
in the body of a handler below it, and has the same hits if there are none in any of these bodies. Where
the body starts with a commented `pass`, nothing is said of the header; without the comments it is said
to swallow exceptions if there is no next statement or it is indented no further than the header. -/
theorem hits_statementTerminators_code (c : Context) {content : String}
    (hplain : ∀ line ∈ Text.lines content.toList, Line.looksBinary line = false) :
    let lines := Text.lines content.toList
    let hits := statementTerminators.hits c
    let said (lines : List Line) (k : Nat) :=
      ((hits lines).filter (·.line == k + 1)).map (·.description)
    (∀ k, ¬ CommentsBelow lines k → said (lines.map Line.code) k = said lines k) ∧
      ((∀ k, ¬ CommentsBelow lines k) → hits (lines.map Line.code) = hits lines) ∧
      ∀ k line headerIndent first rest, lines[k]? = some line →
        AwaitsBody headerIndent (Line.code line) →
        (lines.drop (k + 1)).filter isStatement = first :: rest → IsCommentedPass first →
        said lines k = [] ∧ said (lines.map Line.code) k =
          if (rest.find? fun line => !isSlashComment line).all (indentWidth · ≤ headerIndent)
          then [swallowed] else [] := by
  intro lines hits said
  have hbinary : ∀ {k : Nat} {line : Line}, lines[k]? = some line →
      Line.looksBinary line = false ∧ Line.looksBinary (Line.code line) = false := by
    intro k line hline
    have h := hplain line (List.mem_of_getElem? hline)
    exact ⟨h, Line.looksBinary_code h⟩
  have hsaid : ∀ (lines : List Line) (k : Nat), said lines k = (lines[k]?.bind fun line =>
      if Line.looksBinary line then none
      else terminatorFault? (bodyIsPass · (lines.drop (k + 1))) (Line.code line)).toList :=
    fun lines k => descriptions_of_perLine (reports_statementTerminators c lines) k
  have hjudged : ∀ {k : Nat} {line : Line}, lines[k]? = some line →
      said lines k =
          (terminatorFault? (bodyIsPass · (lines.drop (k + 1))) (Line.code line)).toList ∧
        said (lines.map Line.code) k =
          (terminatorFault? (bodyIsPass · ((lines.map Line.code).drop (k + 1)))
            (Line.code (Line.code line))).toList := by
    intro k line hline
    rw [hsaid, hsaid, List.getElem?_map, hline, Option.map_some, Option.bind_some,
      Option.bind_some, (hbinary hline).1, (hbinary hline).2]
    exact ⟨rfl, rfl⟩
  refine ⟨fun k hk => ?_, fun h => ?_,
    fun k line headerIndent first rest hline hawaits hbody hfirst => ?_⟩
  · rcases hline : lines[k]? with _ | line
    · rw [hsaid, hsaid, List.getElem?_map, hline]
      rfl
    · rw [(hjudged hline).1, (hjudged hline).2, terminatorFault?_map_code hline hk]
  -- Every line is judged alike, so the reports are the same one by one.
  · have hreports : statementTerminators.reports c (lines.map Line.code) =
        statementTerminators.reports c lines := by
      refine perLineFrom_congr (List.length_map Line.code) (fun k other line hother hline => ?_) 1
      rw [List.getElem?_map, hline] at hother
      obtain rfl := Option.some.inj hother
      rw [(hbinary hline).1, (hbinary hline).2]
      exact ⟨rfl, fun _ => terminatorFault?_map_code hline (h k)⟩
    exact congrArg (List.map statementTerminators.hitOf) hreports
  -- The body decides, and it is a lone `pass` without its comments only.
  · obtain ⟨hraw, hcode⟩ := bodyIsPass_of_isCommentedPass hbody hfirst headerIndent
    rw [(hjudged hline).1, (hjudged hline).2, Line.code_code, hawaits.terminatorFault?_eq,
      hawaits.terminatorFault?_eq, hraw, ← List.map_drop, hcode]
    refine ⟨rfl, ?_⟩
    split <;> rfl

/-- Comments in front of the body and behind it do not count, and a comment on the `pass` does. -/
theorem hits_statementTerminators_code_cleanup :
    let lines := Text.lines "except:  # any\n    # no matter\n    pass\nx = 1  # next\n".toList
    let commented := Text.lines "except:\n    # no matter\n    pass  # ignored\nx = 1\n".toList
    let hits := statementTerminators.hits ⟨.empty, ∅, 5⟩
    let said (lines : List Line) := ((hits lines).filter (·.line == 1)).map (·.description)
    (∀ line ∈ lines ++ commented, Line.looksBinary line = false) ∧
      (∀ k, ¬ CommentsBelow lines k) ∧ hits (lines.map Line.code) = hits lines ∧
      said lines = [swallowed] ∧ said commented = [] ∧
      said (commented.map Line.code) = [swallowed] := by
  intro lines commented hits said
  have hplain : ∀ line ∈ lines ++ commented, Line.looksBinary line = false := by decide
  have hcomments : ∀ k, ¬ CommentsBelow lines k := by
    rintro k ⟨line, headerIndent, hline, -, hcomments⟩
    have hbodies : ∀ k < lines.length, Uncommented (lines.drop (k + 1)) := by decide
    exact hcomments (hbodies k (List.getElem?_eq_some_iff.1 hline).1)
  have hawaits : AwaitsBody 0 (Line.code "except:".toList) :=
    ⟨by decide +kernel, by decide +kernel, _, rfl, rfl, rfl⟩
  have hsame := hits_statementTerminators_code ⟨.empty, ∅, 5⟩ (List.forall_mem_append.1 hplain).1
  have hother := hits_statementTerminators_code ⟨.empty, ∅, 5⟩ (List.forall_mem_append.1 hplain).2
  obtain ⟨hraw, hcode⟩ := hother.2.2 0 "except:".toList 0 "    pass  # ignored".toList
    ["x = 1".toList] (by decide) hawaits (by decide) (by decide)
  exact ⟨hplain, hcomments, hsame.2.1 hcomments, by decide +kernel, hraw, hcode⟩

/-- A comment behind the `pass` hides a swallowed exception. -/
theorem hits_statementTerminators_commented :
    let lines := Text.lines "except:\n    pass  # ignored\n".toList
    let hits := statementTerminators.hits ⟨.empty, ∅, 5⟩
    (∀ line ∈ lines, Line.looksBinary line = false) ∧
      lines.map Line.code = Text.lines "except:\n    pass  \n".toList ∧ hits lines = [] ∧
      hits (lines.map Line.code) =
        [{ ruleId := "STY002", line := 1, category := .terminators, severity := .medium,
           description := swallowed }] := by
  decide +kernel

end SourceAudit.Rule
