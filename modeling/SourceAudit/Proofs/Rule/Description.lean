import SourceAudit.Proofs.Line.Import
import SourceAudit.Proofs.Rule.Wording
import SourceAudit.Proofs.Text.Pieces
import SourceAudit.Rule.Catalogue

/-!
# The descriptions of the rules

Most rules report what a store takes for a description, whatever the lines are: their wordings are
fixed, or they quote what a pattern without long runs has read. The others quote names and numbers of
the source in full. Of these the rules on undeclared packages, on numbers and on names take them from
classes without control characters.
-/

namespace SourceAudit.Rule

open Pattern Validation

/-- Kinds of hardcoded values have clean names and descriptions. -/
theorem clean_catalogue :
    ∀ k ∈ LiteralKind.catalogue, Clean 100 k.name ∧ Clean 100 k.description := by
  simp only [LiteralKind.catalogue, List.forall_mem_cons]
  and_intros
  all_goals first | exact clean_ofList (by decide) | exact List.forall_mem_nil _

/-- A kind of hardcoded value is named in small letters and described. -/
theorem clean_literalKind {k : LiteralKind} (hk : k ∈ LiteralKind.catalogue) : Clean maxDescription
    ("Hardcoded " ++ String.ofList (Text.lower k.name.toList) ++ ": " ++ k.description) := by
  obtain ⟨⟨-, hshort, hname⟩, -, hbrief, hdescription⟩ := clean_catalogue k hk
  have hlower : Text.Clear (String.ofList (Text.lower k.name.toList)) :=
    Text.clear_ofList.2 (Text.isControl_of_mem_lower hname)
  have hlength : (String.ofList (Text.lower k.name.toList)).length ≤ 200 := by
    have h := Text.length_lower_le k.name.toList
    rw [String.length_toList] at h
    rw [String.length_ofList]
    omega
  have hstart : Clean 10 "Hardcoded " := clean_ofList (by decide)
  have hcolon : Clean 2 ": " := clean_ofList (by decide)
  exact (hstart.quote hlower hlength hcolon (Nat.le_refl _)).append hdescription hbrief (by decide)

theorem describes_hardcodedValue : hardcodedValue.Describes (Clean maxDescription) := by
  refine describes_of_perLine rfl fun c line later description h => ?_
  split at h
  · cases h
  · obtain ⟨kind, hkind, rfl⟩ := Option.map_eq_some_iff.1 h
    exact clean_literalKind (List.mem_of_find?_eq_some hkind)

theorem describes_dynamicEvaluation : dynamicEvaluation.Describes (Clean maxDescription) := by
  have hconstructs : ∀ u ∈ unsafeConstructs, Clean 100 u.2 := by
    simp only [unsafeConstructs, List.forall_mem_cons]
    and_intros
    all_goals first | exact clean_ofList (by decide) | exact List.forall_mem_nil _
  have hstart : Clean 27 "Unsafe dynamic evaluation: " := clean_ofList (by decide)
  exact describes_of_perLine rfl fun c line later description h =>
    clean_of_find? hstart hconstructs (by decide) h

theorem describes_debugLogging : debugLogging.Describes (Clean maxDescription) := by
  have hstatements : ∀ d ∈ debugStatements, Clean 100 d.2 := by
    simp only [debugStatements, List.forall_mem_cons]
    and_intros
    all_goals first | exact clean_ofList (by decide) | exact List.forall_mem_nil _
  have hstart : Clean 30 "Debug statement left in code: " := clean_ofList (by decide)
  exact describes_of_perLine rfl fun c line later description h =>
    clean_of_find? hstart hstatements (by decide) h

theorem describes_emptyExport : emptyExport.Describes (Clean maxDescription) :=
  describes_of_perLine rfl fun c line later description h =>
    clean_of_ite (clean_ofList (by decide)) h

theorem describes_stubbedDataCall : stubbedDataCall.Describes (Clean maxDescription) :=
  describes_of_perLine rfl fun c line later description h =>
    clean_of_ite (clean_ofList (by decide)) h

theorem describes_statementTerminators :
    statementTerminators.Describes (Clean maxDescription) := by
  refine describes_of_perLine rfl fun c line later description h => ?_
  dsimp only at h
  split at h
  · obtain rfl := Option.some.inj h
    exact clean_ofList (by decide)
  split at h
  · obtain rfl := Option.some.inj h
    exact clean_ofList (by decide)
  split at h
  · cases h
  split at h
  · obtain rfl := Option.some.inj h
    exact clean_ofList (by decide)
  · cases h

/-- What is wrong with the indentation of a line is said in fixed words. -/
theorem clean_judgeIndent {fileStyle next : Option Indentation} {line : Text.Line}
    {description : String} (h : judgeIndent fileStyle line = (next, some description)) :
    Clean maxDescription description := by
  have hnames : ∀ style : Indentation, Clean 6 style.name := by
    rintro (_ | _) <;> exact clean_ofList (by decide)
  have hstyles : ∀ style established : Indentation, Clean maxDescription
      ("Indentation uses " ++ style.name ++ " but the file uses " ++ established.name) := by
    intro style established
    have hstart : Clean 17 "Indentation uses " := clean_ofList (by decide)
    have hbut : Clean 19 " but the file uses " := clean_ofList (by decide)
    exact (hstart.quote (hnames style).clear (hnames style).short hbut (Nat.le_refl _)).concat
      (hnames established) (by decide)
  simp only [judgeIndent] at h
  split at h
  · cases h
  split at h
  · obtain rfl := Option.some.inj (Prod.mk.inj h).2
    exact clean_ofList (by decide)
  split at h
  · cases h
  -- The style of the line is one of two, and the file may have the other.
  split at h
  all_goals
    split at h
    · cases h
    · obtain rfl := Option.some.inj (Prod.mk.inj h).2
      exact hstyles _ _

theorem describes_mixedIndentation : mixedIndentation.Describes (Clean maxDescription) := by
  -- The style of the file is carried from line to line.
  have hfrom : ∀ (lines : List Text.Line) (n : Nat) (fileStyle : Option Indentation),
      ∀ report ∈ indentReports n fileStyle lines,
        n ≤ report.line ∧ Clean maxDescription report.description := by
    intro lines
    induction lines with
    | nil =>
      intro n fileStyle report h
      cases h
    | cons line rest ih =>
      intro n fileStyle report h
      rw [indentReports] at h
      split at h
      · rename_i next description hjudge
        rcases List.mem_cons.1 h with rfl | h
        · exact ⟨Nat.le_refl n, clean_judgeIndent hjudge⟩
        · exact (ih _ _ report h).imp_left Nat.le_of_succ_le
      · exact (ih _ _ report h).imp_left Nat.le_of_succ_le
  exact fun c lines => hfrom lines 1 none

section Terms

/-- A term of signing in is short and clear. -/
theorem authenticationTerm_extent : authenticationTerm.TakesClear ∧
    authenticationTerm.RunsOver (fun _ => true) ∧ authenticationTerm.singles ≤ 20 := by
  refine ⟨?_, ?_, by decide⟩
  · simp [authenticationTerm, joined]
  · simp [authenticationTerm, joined]

theorem describes_stubbedAuthentication :
    stubbedAuthentication.Describes (Clean maxDescription) := by
  obtain ⟨htakes, hruns, hsingles⟩ := authenticationTerm_extent
  have hstart : Clean 23 "Authentication logic ('" := clean_ofList (by decide)
  have hend : Clean 18 "') is stubbed out" := clean_ofList (by decide)
  refine describes_of_perLine rfl fun c line later description h => ?_
  split at h
  · cases h
  split at h
  · rename_i term hfind _
    obtain rfl := Option.some.inj h
    have hreads := reads_of_find? hfind
    have hclear : Text.Clear (String.ofList (Text.lower term.text)) :=
      Text.clear_ofList.2 (Text.isControl_of_mem_lower (hreads.forall_mem htakes))
    have hlength : (String.ofList (Text.lower term.text)).length ≤ 40 := by
      have hlower := Text.length_lower_le term.text
      have hshort := hreads.length_le hruns
      rw [String.length_ofList]
      omega
    exact hstart.quote hclear hlength hend (by decide)
  · cases h

/-- A call is read as a name and what stands behind it up to the parenthesis. -/
theorem reads_call {name : Pattern} {text : List Char} {groups : List (Nat × List Char)}
    (h : (name ++ gap ++ lit "(").Reads text groups) :
    ∃ named rest kept, text = named ++ rest ∧ name.Reads named kept ∧
      ∀ c ∈ rest, (c == '(' || Text.isBlank c) = true := by
  obtain ⟨front, paren, _, _, rfl, -, hfront, hparen⟩ := reads_seq_iff.1 h
  obtain ⟨named, blanks, kept, _, rfl, -, hname, hgap⟩ := reads_seq_iff.1 hfront
  refine ⟨named, blanks ++ paren, kept, List.append_assoc .., hname, fun c hc => ?_⟩
  rcases List.mem_append.1 hc with hc | hc
  · have hblank : gap.Takes fun c => Text.isBlank c = true := fun c hc => hc
    rw [hgap.forall_mem hblank c hc, Bool.or_true]
  · have hopen : (lit "(").Takes fun c => c = '(' := by simp
    rw [hparen.forall_mem hopen c hc]
    rfl

/-- A network call is the call of a name that is short and clear. -/
theorem reads_networkCall {text : List Char} {groups : List (Nat × List Char)}
    (h : networkCall.Reads text groups) :
    ∃ (name : Pattern) (named rest : List Char) (kept : List (Nat × List Char)),
      text = named ++ rest ∧ name.Reads named kept ∧
      (∀ c ∈ rest, (c == '(' || Text.isBlank c) = true) ∧
      name.TakesClear ∧ name.RunsOver (fun _ => true) ∧ name.singles ≤ 20 := by
  obtain ⟨p, hp, hreads⟩ := exists_reads_of_choice h
  -- Each alternative is a name, a gap and an opening parenthesis.
  have hcall : ∃ name : Pattern, p = name ++ gap ++ lit "(" ∧ name.TakesClear ∧
      name.RunsOver (fun _ => true) ∧ name.singles ≤ 20 := by
    simp only [List.mem_cons, List.not_mem_nil, or_false] at hp
    rcases hp with rfl | rfl | rfl
    · exact ⟨_, rfl, by simp, by simp, by decide⟩
    · exact ⟨_, rfl, by simp, by simp, by decide⟩
    · exact ⟨_, rfl, by simp, by simp, by decide⟩
  obtain ⟨name, rfl, hextent⟩ := hcall
  obtain ⟨named, rest, kept, htext, hname, hrest⟩ := reads_call hreads
  exact ⟨name, named, rest, kept, htext, hname, hrest, hextent⟩

theorem describes_missingErrorHandling :
    missingErrorHandling.Describes (Clean maxDescription) := by
  have hstart : Clean 14 "Network call '" := clean_ofList (by decide)
  have hend : Clean 23 "' has no error handling" := clean_ofList (by decide)
  refine describes_of_perLine rfl fun c line later description h => ?_
  dsimp only at h
  split at h
  · cases h
  split at h
  · cases h
  split at h
  · cases h
  · rename_i call hfind _
    obtain rfl := Option.some.inj h
    obtain ⟨name, named, rest, kept, htext, hname, hrest, htakes, hruns, hsingles⟩ :=
      reads_networkCall (reads_of_find? hfind)
    rw [htext, Text.dropEndWhile_append hrest]
    -- The name is what was read up to the parenthesis and the white space before it.
    have hleading := Text.dropEndWhile_prefix (fun d => d == '(' || Text.isBlank d) named
    have hclear := Text.clear_ofList.2 fun c hc =>
      hname.forall_mem htakes c (hleading.subset hc)
    have hlength : (String.ofList (Text.dropEndWhile (fun d => d == '(' || Text.isBlank d)
        named)).length ≤ 20 := by
      have hdropped := hleading.length_le
      have hshort := hname.length_le hruns
      rw [String.length_ofList]
      omega
    exact hstart.quote hclear hlength hend (by decide)

/-- The bodies of the groups of a broken link. -/
theorem bodies_brokenLink :
    (∀ body ∈ brokenLink.bodies 1, body.TakesClear ∧ body.RunsOver (fun _ => true) ∧
      body.singles ≤ 20) ∧
    ∀ body ∈ brokenLink.bodies 2, (body.Takes fun c => Text.isBlank c = true ∨
      Text.isControl c = false) ∧ body.RunsOver (fun c => !Text.isBlank c) ∧ body.singles ≤ 20 := by
  have hblank : Within (fun c => Text.isBlank c = true ∨ Text.isControl c = false) Text.isBlank :=
    fun c hc => .inl hc
  have hletter : ∀ c, Text.isControl c = false →
      Within (fun c => Text.isBlank c = true ∨ Text.isControl c = false) (sameLetter c) :=
    fun c hc d hd => .inr (Text.isControl_of_sameLetter hd hc)
  have hruns : Within (fun c => Text.isBlank c = true) Text.isBlank := fun c hc => hc
  constructor
  · intro body hbody
    obtain rfl := List.mem_singleton.1 hbody
    exact ⟨by simp, by simp, by decide⟩
  · intro body hbody
    obtain rfl := List.mem_singleton.1 hbody
    refine ⟨?_, by simp [hruns], by decide⟩
    simp [hblank, hletter]

theorem describes_brokenNavigation : brokenNavigation.Describes (Clean maxDescription) := by
  have hstart : Clean 26 "Broken navigation target: " := clean_ofList (by decide)
  have hopen : Clean 2 " \"" := clean_ofList (by decide)
  have hclose : Clean 1 "\"" := clean_ofList (by decide)
  obtain ⟨hattribute, htarget⟩ := bodies_brokenLink
  refine describes_of_perLine rfl fun c line later description h => ?_
  obtain ⟨f, hfind, rfl⟩ := Option.map_eq_some_iff.1 h
  have hreads := reads_of_find? hfind
  have hclear := hreads.clear_group fun body hbody => (hattribute body hbody).1
  have hlength : (String.ofList (f.group 1)).length ≤ 20 := by
    have hcount := hreads.countP_group_le fun body hbody => (hattribute body hbody).2
    rwa [List.countP_true, ← String.length_ofList] at hcount
  -- The target is quoted with single spaces for all white space in it.
  have hclear' : Text.Clear (String.ofList (Text.joinWith [' '] (Text.words (f.group 2)))) := by
    refine Text.clear_ofList.2 fun c hc => ?_
    rcases Text.mem_of_mem_joinWith hc with hspace | ⟨w, hw, hc⟩
    · rw [List.mem_singleton.1 hspace]
      decide
    · obtain ⟨hmem, hblank⟩ := Text.mem_of_mem_words hw hc
      rcases hreads.forall_group (fun body hbody => (htarget body hbody).1) c hmem with h | h
      · rw [hblank] at h
        cases h
      · exact h
  have hlength' : (String.ofList (Text.joinWith [' '] (Text.words (f.group 2)))).length ≤ 40 := by
    have hjoined := Text.length_joinWith_words_le ' ' (f.group 2)
    have hcount := hreads.countP_group_le fun body hbody => (htarget body hbody).2
    rw [String.length_ofList]
    omega
  exact (hstart.quote hclear hlength hopen (Nat.le_refl _)).quote hclear' hlength' hclose (by decide)

end Terms

section Quotes

/-- A clear quotation in clean words. -/
theorem plain_quote {before quoted after : String} {m n : Nat} (hbefore : Clean m before)
    (hquoted : Text.Clear quoted) (hafter : Clean n after) :
    Text.Worded (before ++ quoted ++ after) ∧ Text.Clear (before ++ quoted ++ after) :=
  ⟨(hbefore.worded.append _).append _,
    Text.clear_append.2 ⟨Text.clear_append.2 ⟨hbefore.clear, hquoted⟩, hafter.clear⟩⟩

theorem describes_magicNumber :
    magicNumber.Describes fun d => Text.Worded d ∧ Text.Clear d := by
  have hstart : Clean 13 "Magic number " := clean_ofList (by decide)
  have hend : Clean 27 " should be a named constant" := clean_ofList (by decide)
  have hbodies : ∀ body ∈ numericLiteral.bodies 1, body.TakesClear := by
    have hdigit : Within (fun c => Text.isControl c = false) Text.isDigit := fun c hc =>
      Text.isControl_of_isDigit hc
    intro body hbody
    obtain rfl := List.mem_singleton.1 hbody
    simp [hdigit]
  refine describes_of_perLine rfl fun c line later description h => ?_
  dsimp only at h
  split at h
  · cases h
  split at h
  · cases h
  · obtain ⟨number, hfind, rfl⟩ := Option.map_eq_some_iff.1 h
    obtain ⟨f, hf, rfl⟩ := List.mem_map.1 (List.mem_of_find?_eq_some hfind)
    exact plain_quote hstart ((reads_of_mem_findAll hf).clear_group hbodies) hend

/-- The names that are quoted for their letter case are made of letters, digits and the like. -/
theorem bodies_naming : ∀ p ∈ [camelFunction, smallClass, camelVariable],
    ∀ body ∈ p.bodies 1, body.TakesClear := by
  have hsmall : Within (fun c => Text.isControl c = false) isSmall := fun c hc => by
    rw [isSmall] at hc
    exact Text.isControl_of_isAlphanum (by simp [Text.isAlphanum_eq, hc])
  have hsmallOrDigit : Within (fun c => Text.isControl c = false) isSmallOrDigit := fun c hc => by
    rw [isSmallOrDigit, Bool.or_eq_true] at hc
    exact Text.isControl_of_isAlphanum (by
      rcases hc with hc | hc <;> simp [Text.isAlphanum_eq, hc])
  have hcapital : Within (fun c => Text.isControl c = false) Char.isUpper := fun c hc =>
    Text.isControl_of_isAlphanum (by simp [Text.isAlphanum_eq, hc])
  have halphanum : Within (fun c => Text.isControl c = false) Char.isAlphanum := fun c hc =>
    Text.isControl_of_isAlphanum hc
  have hword : Within (fun c => Text.isControl c = false) Text.isWord := fun c hc =>
    Text.isControl_of_isWord hc
  intro p hp body hbody
  simp only [List.mem_cons, List.not_mem_nil, or_false] at hp
  rcases hp with rfl | rfl | rfl
  · obtain rfl := List.mem_singleton.1 hbody
    simp [hsmall, hsmallOrDigit, hcapital, hword]
  · obtain rfl := List.mem_singleton.1 hbody
    simp [hsmall, hword]
  · obtain rfl := List.mem_singleton.1 hbody
    simp [hsmall, hsmallOrDigit, hcapital, halphanum]

theorem describes_namingConvention :
    namingConvention.Describes fun d => Text.Worded d ∧ Text.Clear d := by
  have hfunction : Clean 10 "Function '" := clean_ofList (by decide)
  have hclass : Clean 7 "Class '" := clean_ofList (by decide)
  have hvariable : Clean 10 "Variable '" := clean_ofList (by decide)
  have hsnake : Clean 32 "' uses camelCase; use snake_case" := clean_ofList (by decide)
  have hpascal : Clean 23 "' should use PascalCase" := clean_ofList (by decide)
  have hname : ∀ p ∈ [camelFunction, smallClass, camelVariable], ∀ {line f}, p.find? line = some f →
      Text.Clear (String.ofList (f.group 1)) := fun p hp line f hfind =>
    (reads_of_find? hfind).clear_group (bodies_naming p hp)
  refine describes_of_perLine rfl fun c line later description h => ?_
  split at h
  · rename_i f hfind
    obtain rfl := Option.some.inj h
    exact plain_quote hfunction (hname _ (by simp) hfind) hsnake
  split at h
  · rename_i f hfind
    obtain rfl := Option.some.inj h
    exact plain_quote hclass (hname _ (by simp) hfind) hpascal
  · obtain ⟨f, hfind, rfl⟩ := Option.map_eq_some_iff.1 h
    exact plain_quote hvariable (hname _ (by simp) hfind) hsnake

theorem describes_forbiddenImport : forbiddenImport.Describes Text.Worded := by
  have hstart : Text.Worded "Import of forbidden package " := by decide
  refine describes_of_perLine rfl fun c line later description h => ?_
  dsimp only at h
  split at h
  · cases h
  split at h
  · cases h
  · obtain rfl := Option.some.inj h
    exact hstart.append _

/-- The packages of an absolute Python import are clear. -/
theorem clear_absoluteImport? {line : Text.Line} {modules : List String}
    (h : absoluteImport? line = some (.python, modules)) : ∀ m ∈ modules, Text.Clear m := by
  rw [absoluteImport?] at h
  split at h
  · rename_i i hparse
    split at h
    · cases h
    · obtain ⟨hpython, rfl⟩ := Prod.mk.inj (Option.some.inj h)
      intro m hm
      obtain ⟨t, ht, rfl⟩ := List.mem_map.1 hm
      exact Text.clear_ofList.2 (Import.isControl_of_mem_topLevels hparse hpython t ht)
  · cases h

theorem describes_unauthorizedImport :
    unauthorizedImport.Describes fun d => Text.Worded d ∧ Text.Clear d := by
  have hstart : Clean 10 "Import of " := clean_ofList (by decide)
  have hend : Clean 38 " which is not declared in the manifest" := clean_ofList (by decide)
  refine describes_of_perLine rfl fun c line later description h => ?_
  dsimp only at h
  split at h
  · rename_i modules himport
    split at h
    · cases h
    · obtain rfl := Option.some.inj h
      have hmodules : ∀ m ∈ modules.filter (isUnauthorized c), Text.Clear m := fun m hm =>
        clear_absoluteImport? himport m (List.mem_filter.1 hm).1
      exact plain_quote hstart (Text.clear_quotedList hmodules) hend
  · cases h

theorem describes_duplicateImport : duplicateImport.Describes Text.Worded := by
  have hstart : Text.Worded "Duplicate import of '" := by decide
  -- The modules that were seen are carried from line to line.
  have hfrom : ∀ (lines : List Text.Line) (n : Nat) (seen : List (List Char × Nat)),
      ∀ report ∈ repeatedImports n seen lines, n ≤ report.line ∧ Text.Worded report.description := by
    intro lines
    induction lines with
    | nil =>
      intro n seen report h
      cases h
    | cons line rest ih =>
      intro n seen report h
      rw [repeatedImports] at h
      split at h
      · exact (ih _ _ report h).imp_left Nat.le_of_succ_le
      split at h
      · exact (ih _ _ report h).imp_left Nat.le_of_succ_le
      split at h
      · exact (ih _ _ report h).imp_left Nat.le_of_succ_le
      · rcases List.mem_cons.1 h with rfl | h
        · exact ⟨Nat.le_refl n, (((hstart.append _).append _).append _).append _⟩
        · exact (ih _ _ report h).imp_left Nat.le_of_succ_le
  exact fun c lines => hfrom lines 1 []

end Quotes

/-- The rules that quote a name or a number in full, however long it is. -/
def quotesInFull (ruleId : String) : Bool :=
  [forbiddenImport, unauthorizedImport, duplicateImport, magicNumber, namingConvention].any
    (·.id == ruleId)

/-- The rules that quote any characters, control characters among them. -/
def quotesAnything (ruleId : String) : Bool :=
  [forbiddenImport, duplicateImport].any (·.id == ruleId)

/-- What is known of the descriptions of a rule from its identifier: they are worded, and as far as
the rule does not quote at length they are short, and as far as it does not quote anything they are
clear. -/
structure Fits (ruleId description : String) : Prop where
  worded : Text.Worded description
  short : quotesInFull ruleId = false → description.length ≤ maxDescription
  clear : quotesAnything ruleId = false → Text.Clear description

/-- Every rule keeps to that. -/
theorem describes_catalogue : ∀ r ∈ catalogue, r.Describes (Fits r.id) := by
  have hclean : ∀ {ruleId d : String}, Clean maxDescription d → Fits ruleId d := fun h =>
    ⟨h.worded, fun _ => h.short, fun _ => h.clear⟩
  have hplain : ∀ {ruleId d : String}, quotesInFull ruleId = true →
      Text.Worded d ∧ Text.Clear d → Fits ruleId d := fun hfull h =>
    ⟨h.1, fun hnot => Bool.noConfusion (hfull.symm.trans hnot), fun _ => h.2⟩
  have hworded : ∀ {ruleId d : String}, quotesInFull ruleId = true → quotesAnything ruleId = true →
      Text.Worded d → Fits ruleId d := fun hfull hany h =>
    ⟨h, fun hnot => Bool.noConfusion (hfull.symm.trans hnot),
      fun hnot => Bool.noConfusion (hany.symm.trans hnot)⟩
  intro r hr
  simp only [catalogue, List.mem_cons, List.not_mem_nil, or_false] at hr
  rcases hr with rfl | rfl | rfl | rfl | rfl | rfl | rfl | rfl | rfl | rfl | rfl | rfl | rfl | rfl |
    rfl
  · exact describes_forbiddenImport.imp fun _ => hworded (by decide) (by decide)
  · exact describes_unauthorizedImport.imp fun _ => hplain (by decide)
  · exact describes_hardcodedValue.imp fun _ => hclean
  · exact describes_stubbedAuthentication.imp fun _ => hclean
  · exact describes_stubbedDataCall.imp fun _ => hclean
  · exact describes_missingErrorHandling.imp fun _ => hclean
  · exact describes_dynamicEvaluation.imp fun _ => hclean
  · exact describes_emptyExport.imp fun _ => hclean
  · exact describes_brokenNavigation.imp fun _ => hclean
  · exact describes_duplicateImport.imp fun _ => hworded (by decide) (by decide)
  · exact describes_mixedIndentation.imp fun _ => hclean
  · exact describes_statementTerminators.imp fun _ => hclean
  · exact describes_debugLogging.imp fun _ => hclean
  · exact describes_magicNumber.imp fun _ => hplain (by decide)
  · exact describes_namingConvention.imp fun _ => hplain (by decide)

end SourceAudit.Rule
