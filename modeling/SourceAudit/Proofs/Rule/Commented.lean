import SourceAudit.Proofs.Line.ReadBack
import SourceAudit.Proofs.Rule.Duplicate
import SourceAudit.Proofs.Rule.Import

/-!
# Imports in comments

The statements of import have to start their line, so a line that is a comment has none
(`parse?_of_isCommented`). A call of `require` may stand anywhere on a line, and a commented one is taken for
an import as well.

The rules on imports make nothing of a comment without such a call, neither there nor on a later line:
they have the hits that they have if the line is empty (`hits_commented`). The rule on undeclared imports,
which is about Python alone, makes nothing of any comment. The others do where a comment has such a call
(`hits_commented_require`).
-/

namespace SourceAudit

/-! ### Calls of `require` -/

namespace Import

open Pattern
open Text (isBlank isWord)

/-- A call of `require` with the name of a module in quotes. -/
structure RequireCall where
  before : List Char
  isBlank_before : ∀ c ∈ before, isBlank c = true
  opening : Char
  isModuleQuote_opening : isModuleQuote opening = true
  name : List Char
  ne_nil : name ≠ []
  isModuleQuote_name : ∀ c ∈ name, isModuleQuote c = false
  closing : Char
  isModuleQuote_closing : isModuleQuote closing = true
  after : List Char
  isBlank_after : ∀ c ∈ after, isBlank c = true

namespace RequireCall

/-- The quoted name of the module. -/
def quoted (r : RequireCall) : List Char :=
  r.opening :: (r.name ++ [r.closing])

/-- The text of a call. -/
def text (r : RequireCall) : List Char :=
  "require(".toList ++ r.before ++ r.quoted ++ r.after ++ ")".toList

/-- The call stands on a line, where no word character is in front of it. -/
def On (r : RequireCall) (line : List Char) : Prop :=
  ∃ front back, line = front ++ (r.text ++ back) ∧ ∀ c ∈ front.getLast?, isWord c = false

end RequireCall

/-- A quoted name of a module matches, and the name is kept. -/
theorem reaches_quotedModule_iff {s t : Spot} : quotedModule.Reaches s t ↔
    ∃ opening name closing u, isModuleQuote opening = true ∧
      (name ≠ [] ∧ ∀ c ∈ name, isModuleQuote c = false) ∧ isModuleQuote closing = true ∧
      s.Skips (opening :: (name ++ [closing])) u ∧
      t = { u with groups := (1, name) :: u.groups } := by
  have hparts : quotedModule.Reaches s t ↔ ∃ s₁ s₂ s₃, (one isModuleQuote).Reaches s s₁ ∧
      (some1 fun c => !isModuleQuote c).Reaches s₁ s₂ ∧
      (one isModuleQuote).Reaches { s₂ with groups := (1, s₁.upTo s₂) :: s₂.groups } s₃ ∧ t = s₃ := by
    simp only [quotedModule, reaches_append_iff, reaches_group_iff]
    constructor
    · rintro ⟨u, ⟨s₁, hopening, s₂, hname, rfl⟩, hclosing⟩
      exact ⟨s₁, s₂, t, hopening, hname, hclosing, rfl⟩
    · rintro ⟨s₁, s₂, s₃, hopening, hname, hclosing, rfl⟩
      exact ⟨_, ⟨s₁, hopening, s₂, hname, rfl⟩, hclosing⟩
  rw [hparts]
  constructor
  · rintro ⟨s₁, s₂, s₃, hopening, hname, hclosing, rfl⟩
    obtain ⟨opening, hq, hskips⟩ := reaches_one_iff.1 hopening
    obtain ⟨name, hne, hplain, hskips'⟩ := reaches_some1_iff.1 hname
    obtain ⟨closing, hq', hskips''⟩ := reaches_one_iff.1 hclosing
    rw [upTo_of_rest hskips'.rest] at hskips''
    refine ⟨opening, name, closing, { t with groups := s₂.groups }, hq, ⟨hne, by simpa using hplain⟩,
      hq', hskips.append (hskips'.append (hskips''.withGroups s₂.groups)), ?_⟩
    rcases t with ⟨before, rest, groups⟩
    obtain rfl : groups = (1, name) :: s₂.groups := hskips''.groups
    rfl
  · rintro ⟨opening, name, closing, u, hq, ⟨hne, hplain⟩, hq', hskips, rfl⟩
    rw [← List.singleton_append, Spot.skips_append_iff] at hskips
    obtain ⟨s₁, hopening, hskips⟩ := hskips
    obtain ⟨s₂, hname, hclosing⟩ := Spot.skips_append_iff.1 hskips
    refine ⟨s₁, s₂, _, reaches_one_iff.2 ⟨opening, hq, hopening⟩,
      reaches_some1_iff.2 ⟨name, hne, by simpa using hplain, hname⟩, ?_, rfl⟩
    rw [upTo_of_rest hname.rest, hclosing.groups]
    exact reaches_one_iff.2 ⟨closing, hq', hclosing.withGroups _⟩

/-- In front of a call of `require` there is an edge of a word exactly if no word character is. -/
theorem atWordEdge_require {s : Spot} {rest : List Char} (h : s.rest = "require(".toList ++ rest) :
    s.atWordEdge = true ↔ ∀ c ∈ s.before, isWord c = false := by
  have hword : isWord 'r' = true := by decide
  have hfirst : s.rest.head? = some 'r' := by rw [h]; rfl
  rw [Spot.atWordEdge, hfirst]
  rcases s.before with _ | c
  · simp [hword]
  · simp [hword]

/-- The pattern for `require` matches the calls that no word character is in front of. -/
theorem reaches_javaScriptRequire_iff {s t : Spot} : javaScriptRequire.Reaches s t ↔
    (∀ c ∈ s.before, isWord c = false) ∧ ∃ (r : RequireCall) (u : Spot), s.Skips r.text u ∧
      t = { u with groups := (1, r.name) :: u.groups } := by
  simp only [javaScriptRequire, reaches_append_iff]
  constructor
  · rintro ⟨s₄, ⟨s₃, ⟨s₂, ⟨s₁, ⟨s₀, hedge, hcall⟩, hspace⟩, hquoted⟩, hspace'⟩, hclosing⟩
    obtain ⟨hedge, rfl⟩ := reaches_wordEdge_iff.1 hedge
    have hcall := reaches_lit_iff.1 hcall
    obtain ⟨space, hblank, hspace⟩ := reaches_gap_iff.1 hspace
    obtain ⟨opening, name, closing, u, hq, ⟨hne, hplain⟩, hq', hname, rfl⟩ :=
      reaches_quotedModule_iff.1 hquoted
    obtain ⟨space', hblank', hspace'⟩ := reaches_gap_iff.1 hspace'
    have hclosing := reaches_lit_iff.1 hclosing
    refine ⟨(atWordEdge_require hcall.rest).1 hedge,
      ⟨space, hblank, opening, hq, name, hne, hplain, closing, hq', space', hblank'⟩,
      { t with groups := u.groups },
      (((hcall.append hspace).append hname).append (hspace'.withGroups u.groups)).append
        (hclosing.withGroups u.groups), ?_⟩
    rcases t with ⟨before, rest, groups⟩
    obtain rfl : groups = (1, name) :: u.groups := hclosing.groups.trans hspace'.groups
    rfl
  · rintro ⟨hfront, r, u, hskips, rfl⟩
    obtain ⟨s₄, hskips, hclosing⟩ := Spot.skips_append_iff.1 hskips
    obtain ⟨s₃, hskips, hspace'⟩ := Spot.skips_append_iff.1 hskips
    obtain ⟨s₂, hskips, hquoted⟩ := Spot.skips_append_iff.1 hskips
    obtain ⟨s₁, hcall, hspace⟩ := Spot.skips_append_iff.1 hskips
    have hgroups : u.groups = s₃.groups := hclosing.groups.trans hspace'.groups
    refine ⟨_, ⟨_, ⟨s₂, ⟨s₁, ⟨s, reaches_wordEdge_iff.2 ⟨(atWordEdge_require hcall.rest).2 hfront, rfl⟩,
        reaches_lit_iff.2 hcall⟩, reaches_gap_iff.2 ⟨_, r.isBlank_before, hspace⟩⟩,
      reaches_quotedModule_iff.2 ⟨r.opening, r.name, r.closing, s₃, r.isModuleQuote_opening,
        ⟨r.ne_nil, r.isModuleQuote_name⟩, r.isModuleQuote_closing, hquoted, rfl⟩⟩,
      reaches_gap_iff.2 ⟨_, r.isBlank_after, hspace'.withGroups _⟩⟩, reaches_lit_iff.2 ?_⟩
    rw [hgroups]
    exact hclosing.withGroups _

/-- What is found for `require` is the name in a call on the line. -/
theorem exists_on_of_find? {line : List Char} {f : Found}
    (h : javaScriptRequire.find? line = some f) :
    ∃ r : RequireCall, r.On line ∧ f.group 1 = r.name := by
  obtain ⟨front, rest, t, rfl, hreaches, hgroups⟩ := exists_reaches_of_find? h
  obtain ⟨hfront, r, u, hskips, rfl⟩ := reaches_javaScriptRequire_iff.1 hreaches
  refine ⟨r, ⟨front, u.rest, by rw [← hskips.rest], hfront⟩, ?_⟩
  rw [Found.group, Found.group?, hgroups]
  rfl

/-- A `require` is found on a line exactly if there is a call. -/
theorem isSome_find?_require_iff {line : List Char} :
    (javaScriptRequire.find? line).isSome = true ↔ ∃ r : RequireCall, r.On line := by
  constructor
  · intro h
    obtain ⟨f, hf⟩ := Option.isSome_iff_exists.1 h
    obtain ⟨r, hr, -⟩ := exists_on_of_find? hf
    exact ⟨r, hr⟩
  · rintro ⟨r, front, back, rfl, hfront⟩
    have hrest : (⟨front.getLast?, r.text ++ back, []⟩ : Spot).rest = r.text ++ back := rfl
    obtain ⟨u, hskips, -⟩ := Spot.exists_skips hrest
    exact occursIn_iff.2 ⟨front, r.text ++ back, _, rfl,
      reaches_javaScriptRequire_iff.2 ⟨hfront, r, u, hskips, rfl⟩⟩

/-! ### Comments -/

/-- The line is a comment: it starts with a number sign or two slashes, white space apart. -/
def IsCommented (line : List Char) : Prop :=
  "#".toList <+: Text.trimStart line ∨ "//".toList <+: Text.trimStart line

instance : DecidablePred IsCommented := fun _ => inferInstanceAs (Decidable (_ ∨ _))

/-- The first character of a comment, white space apart. -/
theorem IsCommented.head? {line : List Char} (h : IsCommented line) :
    (line.dropWhile isBlank).head? = some '#' ∨ (line.dropWhile isBlank).head? = some '/' := by
  rcases h with ⟨rest, h⟩ | ⟨rest, h⟩
  · exact .inl (by rw [← Text.trimStart, ← h]; rfl)
  · exact .inr (by rw [← Text.trimStart, ← h]; rfl)

/-- All that a comment is read for is a `require`. -/
theorem parse?_of_isCommented {line : List Char} (h : IsCommented line) :
    parse? line = (javaScriptRequire.find? line).map fun f => ofModule (f.group 1) := by
  have hrefuses : ∀ {p : Pattern} {d : Char}, p.Leads d → isBlank d = false → d ≠ '#' → d ≠ '/' →
      p.Refuses none line := by
    intro p d hp hd hhash hslash
    refine refuses_of_leads hp hd fun heq => ?_
    rcases h.head? with hfirst | hfirst
    · exact hhash (Option.some.inj (heq.symm.trans hfirst))
    · exact hslash (Option.some.inj (heq.symm.trans hfirst))
  exact parse?_of_refuses (hrefuses leads_javaScriptImport (by decide) (by decide) (by decide))
    (hrefuses leads_pythonFrom (by decide) (by decide) (by decide))
    ((hrefuses leads_pythonImport (by decide) (by decide) (by decide)).find?_eq_none trivial)

/-- A comment is read as no import exactly if there is no call of `require` in it. -/
theorem parse?_commented_eq_none_iff {line : List Char} (h : IsCommented line) :
    parse? line = none ↔ ¬ ∃ r : RequireCall, r.On line := by
  rw [parse?_of_isCommented h, Option.map_eq_none_iff, ← isSome_find?_require_iff,
    Bool.not_eq_true, Option.isSome_eq_false_iff, Option.isNone_iff_eq_none]

/-- An import that a comment is read as is that of a module which is required there. -/
theorem exists_on_of_parse? {line : List Char} {i : Import} (h : IsCommented line)
    (hparse : parse? line = some i) : ∃ r : RequireCall, r.On line ∧ i = ofModule r.name := by
  rw [parse?_of_isCommented h] at hparse
  obtain ⟨f, hf, rfl⟩ := Option.map_eq_some_iff.1 hparse
  obtain ⟨r, hr, hname⟩ := exists_on_of_find? hf
  exact ⟨r, hr, by rw [hname]⟩

end Import

/-! ### The rules -/

namespace Rule

open Text (Line)

variable {line : Line} {lines : List Line} {k : Nat}

/-- The rule has no hit on this line, and on the other lines the hits that it has if this one is
empty. -/
def PassesOver (r : Rule) (c : Context) (lines : List Line) (k : Nat) : Prop :=
  (∀ hit ∈ r.hits c lines, hit.line ≠ k + 1) ∧ r.hits c (lines.set k []) = r.hits c lines

/-- A rule that judges line by line passes over a line of which it says no more than of an empty one. -/
theorem passesOver_of_perLine {r : Rule} {c : Context} (judge : Line → Option String)
    (hreports : ∀ lines, r.reports c lines = perLine (fun line _ => judge line) lines)
    (hline : lines[k]? = some line) (hnone : judge line = none) (hempty : judge [] = none) :
    r.PassesOver c lines k := by
  have hset : ∀ {n k : Nat} {lines : List Line}, lines[k]? = some line →
      perLineFrom (fun line _ => judge line) n (lines.set k []) =
        perLineFrom (fun line _ => judge line) n lines := by
    intro n k lines hline
    induction lines generalizing n k with
    | nil => rfl
    | cons first rest ih =>
      rcases k with _ | k
      · obtain rfl := Option.some.inj hline
        simp only [List.set_cons_zero, perLineFrom, hnone, hempty, ite_self]
      · simp only [List.set_cons_succ, perLineFrom, ih hline]
  refine ⟨fun hit hhit hat => ?_, ?_⟩
  · obtain ⟨description, hreport⟩ := exists_hit_at_iff.1 ⟨hit, hhit, hat⟩
    rw [hreports] at hreport
    obtain ⟨line', hline', -, hjudge⟩ := mem_perLine_iff.1 hreport
    obtain rfl := Option.some.inj (hline.symm.trans hline')
    rw [hnone] at hjudge
    cases hjudge
  · rw [hits, hits, hreports, hreports, perLine, perLine, hset hline]

/-- The rule on repeated imports passes over a line without an import. -/
theorem passesOver_duplicateImport (c : Context) (hline : lines[k]? = some line)
    (hnone : Import.parse? line = none) : duplicateImport.PassesOver c lines k := by
  have hempty : Import.parse? [] = none := by decide +kernel
  have hset : ∀ {n k : Nat} {seen : List (List Char × Nat)} {lines : List Line},
      lines[k]? = some line →
      repeatedImports n seen (lines.set k []) = repeatedImports n seen lines := by
    intro n k seen lines hline
    induction lines generalizing n k seen with
    | nil => rfl
    | cons first rest ih =>
      rcases k with _ | k
      · obtain rfl := Option.some.inj hline
        simp only [List.set_cons_zero, repeatedImports, hnone, hempty, ite_self]
      · simp only [List.set_cons_succ, repeatedImports, ih hline]
  refine ⟨fun hit hhit hat => ?_, ?_⟩
  · obtain ⟨report, hreport, rfl⟩ := List.mem_map.1 hhit
    have hnotes : Notes [] [] := ⟨List.forall_mem_nil _, fun _ => rfl⟩
    have hbrought : brought line = [] := by
      rw [brought, hnone]
      exact ite_self _
    have hplace : report.line = 1 + k := (Nat.add_comm k 1) ▸ hat
    obtain ⟨b, first, hrepeat, -⟩ := (mem_repeatedImports_iff hnotes hline hplace).1 hreport
    rw [hbrought] at hrepeat
    cases hrepeat
  · exact congrArg (List.map _) (hset hline)

/-- The rule on undeclared imports passes over a line without an import of Python. -/
theorem passesOver_unauthorizedImport (c : Context) (hline : lines[k]? = some line)
    (hnone : pythonModulesOn line = []) : unauthorizedImport.PassesOver c lines k := by
  have hempty : pythonModulesOn [] = [] := by decide +kernel
  refine passesOver_of_perLine (fun line => nameModules pythonModulesOn (isUnauthorized c)
    "Import of " " which is not declared in the manifest" line [])
    (reports_unauthorizedImport c) hline ?_ ?_
  · rw [nameModules, hnone]
    rfl
  · rw [nameModules, hempty]
    rfl

/-- The rule on forbidden imports passes over a line without an import. -/
theorem passesOver_forbiddenImport (c : Context) (hline : lines[k]? = some line)
    (hnone : modulesOn line = []) : forbiddenImport.PassesOver c lines k := by
  have hempty : modulesOn [] = [] := by decide +kernel
  refine passesOver_of_perLine (fun line => nameModules modulesOn c.policy.denies
    "Import of forbidden package " "" line []) (reports_forbiddenImport c) hline ?_ ?_
  · rw [nameModules, hnone]
    rfl
  · rw [nameModules, hempty]
    rfl

/-- A comment is read as an import exactly if there is a call of `require` in it, and then as the import
of a module that is required there. The rules on imports pass over every comment without such a call,
wherever it stands in a file, and the rule on undeclared imports over every comment. -/
theorem hits_commented (hcommented : Import.IsCommented line) :
    (Import.parse? line = none ↔ ¬ ∃ r : Import.RequireCall, r.On line) ∧
    (∀ i, Import.parse? line = some i →
      ∃ r : Import.RequireCall, r.On line ∧ i = Import.ofModule r.name) ∧
    ∀ (c : Context) (lines : List Line) (k : Nat), lines[k]? = some line →
      unauthorizedImport.PassesOver c lines k ∧
      ((¬ ∃ r : Import.RequireCall, r.On line) →
        forbiddenImport.PassesOver c lines k ∧ duplicateImport.PassesOver c lines k) := by
  have hnone_iff := Import.parse?_commented_eq_none_iff hcommented
  refine ⟨hnone_iff, fun i => Import.exists_on_of_parse? hcommented, fun c lines k hline => ⟨?_, ?_⟩⟩
  · -- What a comment may be read as is no import of Python.
    refine passesOver_unauthorizedImport c hline ?_
    rw [pythonModulesOn, absoluteImport?]
    rcases hparse : Import.parse? line with _ | i
    · rfl
    · obtain ⟨r, -, rfl⟩ := Import.exists_on_of_parse? hcommented hparse
      rcases hrelative : (Import.ofModule r.name).relative <;> simp [Import.ofModule]
  · intro hrequire
    have hnone := hnone_iff.2 hrequire
    refine ⟨passesOver_forbiddenImport c hline ?_, passesOver_duplicateImport c hline hnone⟩
    rw [modulesOn, absoluteImport?, hnone]

/-- A commented import of a forbidden module, which is imported again below. -/
theorem hits_commented_import :
    Import.IsCommented "\t# import os; fs = require ('fs')".toList ∧
      Import.parse? "\t# import os; fs = require ('fs')".toList = none ∧
      forbiddenImport.PassesOver ⟨Policy.parse "no os\n", ∅, 5⟩
        ["\t# import os; fs = require ('fs')".toList, "import os".toList] 0 ∧
      duplicateImport.PassesOver ⟨Policy.parse "no os\n", ∅, 5⟩
        ["\t# import os; fs = require ('fs')".toList, "import os".toList] 0 := by
  have hcommented : Import.IsCommented "\t# import os; fs = require ('fs')".toList := by decide
  have hnone : Import.parse? "\t# import os; fs = require ('fs')".toList = none := by decide +kernel
  obtain ⟨hiff, -, hpasses⟩ := hits_commented hcommented
  exact ⟨hcommented, hnone, (hpasses _ _ 0 rfl).2 (hiff.1 hnone)⟩

/-- A commented `require` is taken for an import: the rule on forbidden imports objects to it, and the
rule on repeated imports to the import below. -/
theorem hits_commented_require :
    Import.IsCommented "// const tf = require('tensorflow')".toList ∧
      Import.parse? "// const tf = require('tensorflow')".toList =
        some (Import.ofModule "tensorflow".toList) ∧
      (forbiddenImport.hits ⟨Policy.parse "no tensorflow\n", ∅, 5⟩
        ["// const tf = require('tensorflow')".toList]).map (·.description) =
          ["Import of forbidden package 'tensorflow'"] ∧
      (duplicateImport.hits ⟨Policy.empty, ∅, 5⟩
        ["// const tf = require('tensorflow')".toList, "const tf = require('tensorflow')".toList]).map
          (·.description) = ["Duplicate import of 'tensorflow' (first imported on line 1)"] := by
  decide +kernel

end Rule

end SourceAudit
