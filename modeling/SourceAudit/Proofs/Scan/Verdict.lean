import SourceAudit.Proofs.Scan.Declared
import SourceAudit.Proofs.Scan.OnLine
import SourceAudit.Proofs.Walk.Modules

/-!
# Verdicts on imports

The two rules on imports share out the modules of an import. The one on forbidden imports names those that
the policy forbids, and the one on undeclared imports those of a Python import that are no standard
modules, no modules of the repository, neither declared nor forbidden (`Scanner.named_import_iff`). A policy
covers a module in normal form under its own name or that of its package (`NameSet.Covers`), while standard
modules and those of the repository are compared letter by letter. So no module is named by both rules,
and none along the path of a candidate by the latter.
-/

namespace SourceAudit

/-- The module is covered by a set of packages in normal form: its own name is in the set, or the name of
the package that it is published in. -/
def NameSet.Covers (names : NameSet) (module : String) : Prop :=
  normalizeName module ∈ names ∨
    ∃ package, (normalizeName module, package) ∈ packageAliases ∧ package ∈ names

namespace Policy

variable {p : Policy} {module : String}

/-- Whether a set covers a module is known from its name and its aliases. -/
theorem covers_iff {names : NameSet} :
    (names.contains (normalizeName module) || (aliasesOf module).any names.contains) = true ↔
      names.Covers module := by
  rw [Bool.or_eq_true, NameSet.contains_iff, List.any_eq_true]
  refine or_congr_right ⟨?_, ?_⟩
  · rintro ⟨package, hpackage, hnames⟩
    obtain ⟨⟨name, package'⟩, hmem, rfl⟩ := List.mem_map.1 hpackage
    obtain ⟨hmem, hname⟩ := List.mem_filter.1 hmem
    obtain rfl := eq_of_beq hname
    exact ⟨_, hmem, NameSet.contains_iff.1 hnames⟩
  · rintro ⟨package, hmem, hnames⟩
    have hpackage : package ∈ aliasesOf module :=
      List.mem_map.2 ⟨_, List.mem_filter.2 ⟨hmem, beq_self_eq_true _⟩, rfl⟩
    exact ⟨package, hpackage, NameSet.contains_iff.2 hnames⟩

instance (names : NameSet) (module : String) : Decidable (names.Covers module) :=
  decidable_of_iff _ covers_iff

/-- A policy declares the modules that are covered by what it allows, -/
theorem declares_iff : p.declares module = true ↔ p.allowed.Covers module :=
  covers_iff

/-- and denies those that are covered by what it forbids. -/
theorem denies_iff : p.denies module = true ↔ p.forbidden.Covers module :=
  covers_iff

end Policy

namespace Rule

variable {line : Text.Line} {i : Import}

/-- The modules on a line are the top-level packages of its import. -/
theorem mem_modulesOn_iff (hparse : Import.parse? line = some i) (habsolute : i.relative = false)
    {module : String} : module ∈ modulesOn line ↔ module.toList ∈ i.topLevels := by
  have hmodules : modulesOn line = i.topLevels.map String.ofList := by
    rw [modulesOn, absoluteImport?, hparse]
    simp [habsolute]
  rw [hmodules, List.mem_map]
  constructor
  · rintro ⟨name, hname, rfl⟩
    rwa [String.toList_ofList]
  · intro h
    exact ⟨module.toList, h, String.ofList_toList⟩

/-- Those of Python are the modules on a line with a Python import. -/
theorem mem_pythonModulesOn_iff (hparse : Import.parse? line = some i)
    (habsolute : i.relative = false) {module : String} :
    module ∈ pythonModulesOn line ↔ module.toList ∈ i.topLevels ∧ i.dialect = .python := by
  rw [← mem_modulesOn_iff hparse habsolute, modulesOn, pythonModulesOn, absoluteImport?, hparse]
  rcases i with ⟨_ | _, modules, names, relative⟩
  · obtain rfl : relative = false := habsolute
    simp
  · simp

/-- A module comes from outside undeclared in a repository that a walk has gone through. -/
theorem isUnauthorized_moduleNames_iff {policy : Policy} {w : Walk} {lookahead : Nat}
    {module : String} :
    isUnauthorized ⟨policy, w.moduleNames, lookahead⟩ module = true ↔
      module ∉ pythonStandardModules ∧ (∀ file ∈ w.files, ¬ Walk.Along file.toList module.toList) ∧
        ¬ policy.allowed.Covers module ∧ ¬ policy.forbidden.Covers module := by
  have hfirstParty : w.moduleNames.contains module = true ↔
      ∃ file ∈ w.files, Walk.Along file.toList module.toList := by
    rw [NameSet.contains_iff, Walk.mem_moduleNames_iff]
    simp only [Walk.mem_modulesAlong_iff]
  have hstandard : isPythonStandardModule module = true ↔ module ∈ pythonStandardModules :=
    List.contains_iff_mem
  simp only [isUnauthorized, Bool.and_eq_true, Bool.not_eq_true', ← Bool.not_eq_true, hstandard,
    hfirstParty, Policy.declares_iff, Policy.denies_iff, not_exists, not_and, and_assoc]

end Rule

namespace Scanner

variable (settings : Settings) (policy : Policy) (w : Walk)

section OneLine

variable {content : String} {k : Nat} {line : Text.Line} {i : Import}

/-- With the number of a line, what holds of some line of the text holds of that one. -/
theorem exists_line_iff {lines : List Text.Line} (hline : lines[k]? = some line)
    {P : Text.Line → Prop} :
    (∃ k' line' later, lines.drop k' = line' :: later ∧ k + 1 = 1 + k' ∧ P line') ↔ P line := by
  obtain ⟨hlt, hget⟩ := List.getElem?_eq_some_iff.1 hline
  have hdrop : lines.drop k = line :: lines.drop (k + 1) := by
    rw [List.drop_eq_getElem_cons hlt, hget]
  constructor
  · rintro ⟨k', line', later, hdrop', hk, hP⟩
    obtain rfl : k' = k := by omega
    rw [hdrop] at hdrop'
    rwa [(List.cons.inj hdrop').1]
  · intro hP
    exact ⟨k, line, _, hdrop, Nat.add_comm k 1, hP⟩

/-- The rule on forbidden imports names the modules of an import that the policy forbids, -/
theorem named_forbiddenImport_line_iff (modules : NameSet) (module : String)
    (hline : (Text.lines content.toList)[k]? = some line) (hplain : Line.looksBinary line = false)
    (hparse : Import.parse? line = some i) (habsolute : i.relative = false) :
    Named (((ofSettings settings).withFirstParty modules).scan policy content)
        Rule.forbiddenImport.id (k + 1) module ↔
      settings.isRuleEnabled Rule.forbiddenImport.key = true ∧ module.toList ∈ i.topLevels ∧
        policy.forbidden.Covers module := by
  rw [named_forbiddenImport_iff, exists_line_iff hline (P := fun line =>
      Line.looksBinary line = false ∧ module ∈ Rule.modulesOn line ∧ policy.denies module = true),
    Rule.mem_modulesOn_iff hparse habsolute, Policy.denies_iff]
  exact and_congr_right fun _ => and_iff_right hplain

/-- and the one on undeclared imports those of a Python import that come from outside undeclared. -/
theorem named_unauthorizedImport_line_iff (module : String)
    (hline : (Text.lines content.toList)[k]? = some line) (hplain : Line.looksBinary line = false)
    (hparse : Import.parse? line = some i) (habsolute : i.relative = false) :
    Named (((ofSettings settings).withFirstParty w.moduleNames).scan policy content)
        Rule.unauthorizedImport.id (k + 1) module ↔
      settings.isRuleEnabled Rule.unauthorizedImport.key = true ∧ module.toList ∈ i.topLevels ∧
        i.dialect = .python ∧ module ∉ pythonStandardModules ∧
        (∀ file ∈ w.files, ¬ Walk.Along file.toList module.toList) ∧
        ¬ policy.allowed.Covers module ∧ ¬ policy.forbidden.Covers module := by
  rw [named_unauthorizedImport_iff, exists_line_iff hline (P := fun line =>
      Line.looksBinary line = false ∧ module ∈ Rule.pythonModulesOn line ∧ Rule.isUnauthorized
        ⟨policy, w.moduleNames, settings.analysis.errorLookahead⟩ module = true),
    Rule.mem_pythonModulesOn_iff hparse habsolute, Rule.isUnauthorized_moduleNames_iff, and_assoc]
  exact and_congr_right fun _ => and_iff_right hplain

end OneLine

/-- What the two rules on imports name on a line with an import that is not relative, in a repository that
a walk has gone through: the rules share out the modules of the import, each has one hit at most, and no
module along the path of a candidate is undeclared on any line. -/
theorem named_import_iff {content : String} {k : Nat} {line : Text.Line} {i : Import}
    (hline : (Text.lines content.toList)[k]? = some line) (hplain : Line.looksBinary line = false)
    (hparse : Import.parse? line = some i) (habsolute : i.relative = false) :
    let hits := ((ofSettings settings).withFirstParty w.moduleNames).scan policy content
    (∀ module, Named hits Rule.forbiddenImport.id (k + 1) module ↔
      settings.isRuleEnabled Rule.forbiddenImport.key = true ∧ module.toList ∈ i.topLevels ∧
        policy.forbidden.Covers module) ∧
    (∀ module, Named hits Rule.unauthorizedImport.id (k + 1) module ↔
      settings.isRuleEnabled Rule.unauthorizedImport.key = true ∧ module.toList ∈ i.topLevels ∧
        i.dialect = .python ∧ module ∉ pythonStandardModules ∧
        (∀ file ∈ w.files, ¬ Walk.Along file.toList module.toList) ∧
        ¬ policy.allowed.Covers module ∧ ¬ policy.forbidden.Covers module) ∧
    (∀ module, ¬ (Named hits Rule.forbiddenImport.id (k + 1) module ∧
      Named hits Rule.unauthorizedImport.id (k + 1) module)) ∧
    (∀ ruleId, (hitsAt hits ruleId (k + 1)).length ≤ 1) ∧
    ∀ file ∈ w.files, ∀ module : String, Walk.Along file.toList module.toList →
      ∀ n, ¬ Named hits Rule.unauthorizedImport.id n module := by
  intro hits
  have hforbidden := fun module : String => named_forbiddenImport_line_iff settings policy
    w.moduleNames module hline hplain hparse habsolute
  have hunauthorized := fun module : String => named_unauthorizedImport_line_iff settings policy w
    module hline hplain hparse habsolute
  refine ⟨hforbidden, hunauthorized, ?_, fun ruleId => ?_, ?_⟩
  · rintro module ⟨hdenied, hundeclared⟩
    obtain ⟨-, -, -, -, -, -, hnot⟩ := (hunauthorized module).1 hundeclared
    exact hnot ((hforbidden module).1 hdenied).2.2
  · exact length_hitsAt_scan_le settings _ policy content ruleId (k + 1)
  · intro file hfile module halong n hnamed
    obtain ⟨-, _, _, _, -, -, -, -, hundeclared⟩ :=
      (named_unauthorizedImport_iff settings w.moduleNames policy content).1 hnamed
    exact (Rule.isUnauthorized_moduleNames_iff.1 hundeclared).2.1 file hfile halong

/-- One module that is forbidden, one that is undeclared, and three that are not: a module whose package
is declared under another name, one of the repository and a standard one. -/
theorem named_import_iff_modules :
    let hits := ((ofSettings {}).withFirstParty
        (Walk.moduleNames { files := ["src/tools/helpers.v2.py"] })).scan
      (Policy.parse "PyYAML\nno tensorflow\n") "import tensorflow.keras, Numpy, yaml, tools.io, os\n"
    Named hits Rule.forbiddenImport.id 1 "tensorflow" ∧ Named hits Rule.unauthorizedImport.id 1 "Numpy" ∧
      ¬ Named hits Rule.unauthorizedImport.id 1 "yaml" ∧
      ¬ Named hits Rule.unauthorizedImport.id 1 "tools" ∧
      ¬ Named hits Rule.unauthorizedImport.id 1 "os" := by
  have hline : (Text.lines "import tensorflow.keras, Numpy, yaml, tools.io, os\n".toList)[0]? =
      some "import tensorflow.keras, Numpy, yaml, tools.io, os".toList := by decide
  have hparse : Import.parse? "import tensorflow.keras, Numpy, yaml, tools.io, os".toList =
      some ⟨.python, ["tensorflow.keras".toList, "Numpy".toList, "yaml".toList, "tools.io".toList,
        "os".toList], [], false⟩ := by decide +kernel
  obtain ⟨hforbidden, hunauthorized, -⟩ := named_import_iff {} (Policy.parse "PyYAML\nno tensorflow\n")
    { files := ["src/tools/helpers.v2.py"] } hline (by decide) hparse rfl
  intro hits
  refine ⟨(hforbidden _).2 (by decide +kernel), (hunauthorized _).2 (by decide +kernel), ?_, ?_, ?_⟩
  · exact fun h => absurd ((hunauthorized _).1 h) (by decide +kernel)
  · exact fun h => absurd ((hunauthorized _).1 h) (by decide +kernel)
  · exact fun h => absurd ((hunauthorized _).1 h) (by decide +kernel)

end Scanner

end SourceAudit
