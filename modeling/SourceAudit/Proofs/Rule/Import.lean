import SourceAudit.Proofs.Line.Import
import SourceAudit.Proofs.Rule.Reports
import SourceAudit.Rule.Import

/-!
# What the rules on imports name

The rule on forbidden imports and the one on undeclared imports both object to some of the modules of
a line and name these in quotes. No module has a quote, so the modules can be read off a description
(`quoted_quotedList`): what is named on a line is what the rule objects to of its modules, and nothing
else (`exists_named_iff`).
-/

namespace SourceAudit

namespace Text

/-- Every second entry of a list. -/
def everySecond {α : Type} : List α → List α
  | _ :: second :: rest => second :: everySecond rest
  | _ => []

/-- What stands in quotes in a text. -/
def quoted (text : String) : List String :=
  (everySecond (cut '\'' text.toList)).map String.ofList

/-- What stands in the first quotes is the first of what stands in quotes. -/
theorem quoted_cons {before name : String} (hbefore : '\'' ∉ before.toList)
    (hname : '\'' ∉ name.toList) (rest : String) :
    quoted (before ++ ("'" ++ name ++ "'") ++ rest) = name :: quoted rest := by
  have htext : (before ++ ("'" ++ name ++ "'") ++ rest).toList =
      before.toList ++ '\'' :: (name.toList ++ '\'' :: rest.toList) := by
    simp
  rw [quoted, htext, cut_append_cons hbefore, cut_append_cons hname, everySecond, List.map_cons,
    String.ofList_toList]
  rfl

/-- Nothing stands in quotes where there are none. -/
theorem quoted_eq_nil {text : String} (h : '\'' ∉ text.toList) : quoted text = [] := by
  rw [quoted, cut_eq_singleton h]
  rfl

/-- Names without quotes are what stands in quotes in their list. -/
theorem quoted_quotedList {before after : String} {names : List String}
    (hbefore : '\'' ∉ before.toList) (hafter : '\'' ∉ after.toList)
    (hnames : ∀ name ∈ names, '\'' ∉ name.toList) :
    quoted (before ++ Rule.quotedList names ++ after) = names := by
  induction names generalizing before with
  | nil =>
    have hnone : '\'' ∉ (before ++ Rule.quotedList [] ++ after).toList := by
      simp [Rule.quotedList, hbefore, hafter]
    exact quoted_eq_nil hnone
  | cons name rest ih =>
    obtain ⟨hname, hrest⟩ := List.forall_mem_cons.1 hnames
    cases rest with
    | nil =>
      have hlist : Rule.quotedList [name] = "'" ++ name ++ "'" := String.intercalate_singleton
      rw [hlist, quoted_cons hbefore hname, quoted_eq_nil hafter]
    | cons next rest =>
      have hlist : Rule.quotedList (name :: next :: rest) =
          ("'" ++ name ++ "'") ++ (", " ++ Rule.quotedList (next :: rest)) := by
        rw [Rule.quotedList, Rule.quotedList, List.map_cons, List.map_cons,
          String.intercalate_cons_cons, String.append_assoc]
      rw [hlist, ← String.append_assoc, String.append_assoc, quoted_cons hbefore hname,
        ih (by decide) hrest]

end Text

namespace Rule

open Text (Line)

/-- The modules of an import on a line, unless it is relative. -/
def modulesOn (line : Line) : List String :=
  match absoluteImport? line with
  | some (_, modules) => modules
  | none => []

/-- The modules of a Python import on a line, unless it is relative. -/
def pythonModulesOn (line : Line) : List String :=
  match absoluteImport? line with
  | some (.python, modules) => modules
  | _ => []

/-- Names the modules of a line that a rule objects to. -/
def nameModules (modules : Line → List String) (objects : String → Bool) (before after : String)
    (line : Line) (_ : List Line) : Option String :=
  let named := (modules line).filter objects
  if named.isEmpty then none else some (before ++ quotedList named ++ after)

/-- The rule on forbidden imports names the modules that the policy denies. -/
theorem reports_forbiddenImport (c : Context) (lines : List Line) :
    forbiddenImport.reports c lines =
      perLine (nameModules modulesOn c.policy.denies "Import of forbidden package " "") lines := by
  refine congrArg (perLine · lines) (funext fun line => funext fun later => ?_)
  rw [nameModules, modulesOn]
  rcases absoluteImport? line with _ | ⟨dialect, modules⟩
  · rfl
  · simp

/-- The rule on undeclared imports names the modules that come from outside undeclared. -/
theorem reports_unauthorizedImport (c : Context) (lines : List Line) :
    unauthorizedImport.reports c lines =
      perLine (nameModules pythonModulesOn (isUnauthorized c) "Import of "
        " which is not declared in the manifest") lines := by
  refine congrArg (perLine · lines) (funext fun line => funext fun later => ?_)
  rw [nameModules, pythonModulesOn]
  rcases absoluteImport? line with _ | ⟨_ | _, modules⟩ <;> rfl

/-- No module of an import has a quote. -/
theorem quote_notMem_absoluteImport {line : Line} {dialect : Dialect} {modules : List String}
    (h : absoluteImport? line = some (dialect, modules)) : ∀ m ∈ modules, '\'' ∉ m.toList := by
  rw [absoluteImport?] at h
  split at h
  · rename_i i hparse
    split at h
    · cases h
    · obtain ⟨-, rfl⟩ := Prod.mk.inj (Option.some.inj h)
      intro m hm
      obtain ⟨t, ht, rfl⟩ := List.mem_map.1 hm
      rw [String.toList_ofList]
      exact Import.quote_notMem_topLevels hparse t ht
  · cases h

theorem quote_notMem_modulesOn {line : Line} : ∀ m ∈ modulesOn line, '\'' ∉ m.toList := by
  rw [modulesOn]
  split
  · rename_i hsome
    exact quote_notMem_absoluteImport hsome
  · exact List.forall_mem_nil _

theorem quote_notMem_pythonModulesOn {line : Line} :
    ∀ m ∈ pythonModulesOn line, '\'' ∉ m.toList := by
  rw [pythonModulesOn]
  split
  · rename_i hsome
    exact quote_notMem_absoluteImport hsome
  · exact List.forall_mem_nil _

/-- What is named on a line is what the rule objects to of its modules. -/
theorem exists_named_iff {modules : Line → List String} {objects : String → Bool}
    {before after : String} (hbefore : '\'' ∉ before.toList) (hafter : '\'' ∉ after.toList)
    (hmodules : ∀ line, ∀ m ∈ modules line, '\'' ∉ m.toList) {lines : List Line} {n : Nat}
    {m : String} :
    (∃ report ∈ perLine (nameModules modules objects before after) lines,
        report.line = n ∧ m ∈ Text.quoted report.description) ↔
      ∃ k line later, lines.drop k = line :: later ∧ n = 1 + k ∧ Line.looksBinary line = false ∧
        m ∈ modules line ∧ objects m = true := by
  constructor
  · rintro ⟨report, hreport, rfl, hm⟩
    obtain ⟨k, line, later, hdrop, hline, hplain, hjudge⟩ := mem_perLineFrom_iff.1 hreport
    rw [nameModules] at hjudge
    split at hjudge
    · cases hjudge
    rw [← Option.some.inj hjudge, Text.quoted_quotedList hbefore hafter fun name hname =>
      hmodules line name (List.mem_filter.1 hname).1] at hm
    exact ⟨k, line, later, hdrop, hline, hplain, List.mem_filter.1 hm⟩
  · rintro ⟨k, line, later, hdrop, rfl, hplain, hm⟩
    have hfilter : m ∈ (modules line).filter objects := List.mem_filter.2 hm
    have hsome : nameModules modules objects before after line later =
        some (before ++ quotedList ((modules line).filter objects) ++ after) :=
      if_neg fun hempty => by
        rw [List.isEmpty_iff.1 hempty] at hfilter
        cases hfilter
    refine ⟨⟨1 + k, before ++ quotedList ((modules line).filter objects) ++ after⟩,
      mem_perLineFrom_iff.2 ⟨k, line, later, hdrop, rfl, hplain, hsome⟩, rfl, ?_⟩
    rw [Text.quoted_quotedList hbefore hafter fun name hname =>
      hmodules line name (List.mem_filter.1 hname).1]
    exact hfilter

end Rule

end SourceAudit
