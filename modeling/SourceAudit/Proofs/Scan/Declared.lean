import SourceAudit.Proofs.Policy.Parse
import SourceAudit.Proofs.Rule.Import
import SourceAudit.Proofs.Scan.Order

/-!
# What scans depend on

Only the two rules on imports look at the policy (`Rule.reports_of_readsPolicy_eq_false`). The rule on
forbidden imports names more modules the more is forbidden, and the rule on undeclared imports names
fewer the more is allowed or forbidden. With more lines in the manifest both sets grow, so
`Scanner.scan_of_manifestLines` says what more lines do to a scan: whatever they say and wherever they
are put, a scan names no fewer modules as forbidden, no more as undeclared, and is the same else.

Only the rule on undeclared imports looks at the modules that a repository defines
(`Rule.reports_of_ne_unauthorizedImport`). So a scan that knows other modules of the repository has
the same hits, but for those of this rule on lines that import a module about which the two differ
(`Scanner.mem_scan_of_modules`).
-/

/-! ## Manifests and scans -/

namespace SourceAudit

open Policy (manifestLines withReturns)

namespace Rule

/-- The rules that look at the policy. -/
def readsPolicy (ruleId : String) : Bool :=
  ruleId == forbiddenImport.id || ruleId == unauthorizedImport.id

/-- The other rules report the same under every policy. -/
theorem reports_of_readsPolicy_eq_false : ∀ r ∈ catalogue, readsPolicy r.id = false →
    ∀ (p q : Policy) (modules : NameSet) (lookahead : Nat) (lines : List Text.Line),
      r.reports ⟨p, modules, lookahead⟩ lines = r.reports ⟨q, modules, lookahead⟩ lines := by
  simp only [catalogue, List.forall_mem_cons]
  and_intros
  all_goals first
    | exact fun h => absurd h (by decide)
    | exact fun _ _ _ _ _ _ => rfl
    | exact List.forall_mem_nil _

/-- A module that comes from outside undeclared does so where less is declared and less is denied. -/
theorem isUnauthorized_of_le {c : Context} {p : Policy}
    (hallowed : ∀ name ∈ p.allowed, name ∈ c.policy.allowed)
    (hforbidden : ∀ name ∈ p.forbidden, name ∈ c.policy.forbidden) {module : String}
    (h : isUnauthorized c module = true) : isUnauthorized { c with policy := p } module = true := by
  simp only [isUnauthorized, Bool.and_eq_true, Bool.not_eq_true'] at h ⊢
  obtain ⟨⟨⟨hstandard, hfirst⟩, hdeclared⟩, hdenied⟩ := h
  refine ⟨⟨⟨hstandard, hfirst⟩, ?_⟩, ?_⟩
  · exact Bool.eq_false_iff.2 fun hp =>
      Bool.eq_false_iff.1 hdeclared (Policy.declares_mono hallowed hp)
  · exact Bool.eq_false_iff.2 fun hp =>
      Bool.eq_false_iff.1 hdenied (Policy.denies_mono hforbidden hp)

end Rule

/-- Some hit of the rule at the line names the module in quotes. -/
def Named (hits : List Hit) (ruleId : String) (line : Nat) (module : String) : Prop :=
  ∃ hit ∈ hits, hit.ruleId = ruleId ∧ hit.line = line ∧ module ∈ Text.quoted hit.description

/-- What more lines in the manifest make of the hits of a scan. -/
structure Tightened (before after : List Hit) : Prop where
  /-- More modules are named as forbidden, on the same lines and on others. -/
  forbidden : ∀ line module, Named before Rule.forbiddenImport.id line module →
    Named after Rule.forbiddenImport.id line module
  /-- Fewer modules are named as undeclared. -/
  unauthorized : ∀ line module, Named after Rule.unauthorizedImport.id line module →
    Named before Rule.unauthorizedImport.id line module
  /-- The hits of all other rules are the same. -/
  others : after.filter (fun hit => !Rule.readsPolicy hit.ruleId) =
    before.filter fun hit => !Rule.readsPolicy hit.ruleId

namespace Scanner

variable (settings : Settings) (modules : NameSet) (policy : Policy) (content : String)

/-- The modules that a rule on imports names in a scan are the ones on lines that do not look binary
which it objects to. -/
theorem named_scan_iff {r : Rule} (hr : r ∈ Rule.catalogue) {on : Text.Line → List String}
    {objects : String → Bool} {before after : String}
    (hreports : ∀ lines, r.reports ⟨policy, modules, settings.analysis.errorLookahead⟩ lines =
      Rule.perLine (Rule.nameModules on objects before after) lines)
    (hbefore : '\'' ∉ before.toList) (hafter : '\'' ∉ after.toList)
    (hon : ∀ line, ∀ m ∈ on line, '\'' ∉ m.toList) {n : Nat} {m : String} :
    Named (((ofSettings settings).withFirstParty modules).scan policy content) r.id n m ↔
      settings.isRuleEnabled r.key = true ∧ ∃ k line later,
        (Text.lines content.toList).drop k = line :: later ∧ n = 1 + k ∧
          Line.looksBinary line = false ∧ m ∈ on line ∧ objects m = true := by
  have hhits := exists_hit_of_rule_iff settings modules policy hr
    (fun report => report.line = n ∧ m ∈ Text.quoted report.description) content
  rw [Named, hhits, hreports, Rule.exists_named_iff hbefore hafter hon]

/-- The modules that are named as forbidden. -/
theorem named_forbiddenImport_iff {n : Nat} {m : String} :
    Named (((ofSettings settings).withFirstParty modules).scan policy content)
        Rule.forbiddenImport.id n m ↔
      settings.isRuleEnabled Rule.forbiddenImport.key = true ∧ ∃ k line later,
        (Text.lines content.toList).drop k = line :: later ∧ n = 1 + k ∧
          Line.looksBinary line = false ∧ m ∈ Rule.modulesOn line ∧ policy.denies m = true :=
  named_scan_iff settings modules policy content (by simp [Rule.catalogue])
    (Rule.reports_forbiddenImport _) (by decide) (by decide) fun _ => Rule.quote_notMem_modulesOn

/-- The modules that are named as undeclared. -/
theorem named_unauthorizedImport_iff {n : Nat} {m : String} :
    Named (((ofSettings settings).withFirstParty modules).scan policy content)
        Rule.unauthorizedImport.id n m ↔
      settings.isRuleEnabled Rule.unauthorizedImport.key = true ∧ ∃ k line later,
        (Text.lines content.toList).drop k = line :: later ∧ n = 1 + k ∧
          Line.looksBinary line = false ∧ m ∈ Rule.pythonModulesOn line ∧
            Rule.isUnauthorized ⟨policy, modules, settings.analysis.errorLookahead⟩ m = true :=
  named_scan_iff settings modules policy content (by simp [Rule.catalogue])
    (Rule.reports_unauthorizedImport _) (by decide) (by decide) fun _ =>
      Rule.quote_notMem_pythonModulesOn

/-- More lines in the manifest tighten a scan. -/
theorem tightened_scan {a b : String}
    (h : ∀ line ∈ manifestLines a, line ∈ manifestLines b) :
    Tightened (((ofSettings settings).withFirstParty modules).scan (Policy.parse a) content)
      (((ofSettings settings).withFirstParty modules).scan (Policy.parse b) content) := by
  obtain ⟨hallowed, hforbidden⟩ := Policy.parse_mono h
  -- Both scans go through the same lines; only what the rules object to differs.
  refine ⟨fun n m hnamed => ?_, fun n m hnamed => ?_, ?_⟩
  · rw [named_forbiddenImport_iff] at hnamed ⊢
    obtain ⟨hon, k, line, later, hdrop, hn, hplain, hm, hdenies⟩ := hnamed
    exact ⟨hon, k, line, later, hdrop, hn, hplain, hm, Policy.denies_mono hforbidden hdenies⟩
  · rw [named_unauthorizedImport_iff] at hnamed ⊢
    obtain ⟨hon, k, line, later, hdrop, hn, hplain, hm, hunauthorized⟩ := hnamed
    exact ⟨hon, k, line, later, hdrop, hn, hplain, hm,
      Rule.isUnauthorized_of_le hallowed hforbidden hunauthorized⟩
  · exact filter_scan_of_reports settings (fun ruleId => !Rule.readsPolicy ruleId)
      (fun r hr hid lines => Rule.reports_of_readsPolicy_eq_false r hr (by simpa using hid) _ _ _ _
        lines) content

end Scanner

end SourceAudit

/-! ## The modules of a repository and scans -/

namespace SourceAudit

namespace Rule

/-- The other rules report the same whatever modules the repository defines. -/
theorem reports_of_ne_unauthorizedImport : ∀ r ∈ catalogue, r.id ≠ unauthorizedImport.id →
    ∀ (policy : Policy) (modules others : NameSet) (lookahead : Nat) (lines : List Text.Line),
      r.reports ⟨policy, modules, lookahead⟩ lines = r.reports ⟨policy, others, lookahead⟩ lines := by
  simp only [catalogue, List.forall_mem_cons]
  and_intros
  all_goals first
    | exact fun h => absurd rfl h
    | exact fun _ _ _ _ _ _ => rfl
    | exact List.forall_mem_nil _

/-- A module comes from outside undeclared if it would without modules of the repository, and is none
of them. -/
theorem isUnauthorized_iff {policy : Policy} {modules : NameSet} {lookahead : Nat} {module : String} :
    isUnauthorized ⟨policy, modules, lookahead⟩ module = true ↔
      isUnauthorized ⟨policy, ∅, 0⟩ module = true ∧ module ∉ modules := by
  have hempty : (∅ : NameSet).contains module = false := rfl
  simp only [isUnauthorized, hempty, ← NameSet.contains_iff]
  rcases modules.contains module <;> simp

end Rule

/-- No one declared the module, and it comes from outside for one of two repositories only. -/
structure Contested (policy : Policy) (modules others : NameSet) (module : String) : Prop where
  undeclared : Rule.isUnauthorized ⟨policy, ∅, 0⟩ module = true
  parted : module ∈ modules ↔ module ∉ others

/-- Where it depends on the repository whether a module comes from outside undeclared, the module is
contested. -/
theorem Contested.of_ne {policy : Policy} {modules others : NameSet} {lookahead : Nat}
    {module : String} (h : Rule.isUnauthorized ⟨policy, others, lookahead⟩ module ≠
      Rule.isUnauthorized ⟨policy, modules, lookahead⟩ module) :
    Contested policy modules others module := by
  have hforeign : ∀ known, Rule.isUnauthorized ⟨policy, known, lookahead⟩ module = true ↔
      Rule.isUnauthorized ⟨policy, ∅, 0⟩ module = true ∧ module ∉ known := fun _ =>
    Rule.isUnauthorized_iff
  rw [Ne, Bool.eq_iff_iff, hforeign others, hforeign modules] at h
  constructor
  · by_contra hdeclared
    exact h (by simp [hdeclared])
  · tauto

/-- What the rule on undeclared imports reports knowing other modules it reports as well knowing these,
unless it is of a line with a contested module. -/
theorem Rule.mem_reports_of_modules {policy : Policy} {others : NameSet} (modules : NameSet)
    {lookahead : Nat} {lines : List Text.Line} {report : Rule.Report}
    (h : report ∈ Rule.unauthorizedImport.reports ⟨policy, others, lookahead⟩ lines) :
    report ∈ Rule.unauthorizedImport.reports ⟨policy, modules, lookahead⟩ lines ∨
      ∃ line, lines[report.line - 1]? = some line ∧
        ∃ module ∈ Rule.pythonModulesOn line, Contested policy modules others module := by
  rw [Rule.reports_unauthorizedImport] at h ⊢
  obtain ⟨k, line, later, hdrop, hline, hplain, hjudge⟩ := Rule.mem_perLineFrom_iff.1 h
  by_cases hagree : ∀ module ∈ Rule.pythonModulesOn line,
      Rule.isUnauthorized ⟨policy, others, lookahead⟩ module =
        Rule.isUnauthorized ⟨policy, modules, lookahead⟩ module
  · -- Where the two agree about all modules of the line, the same of them are named.
    refine .inl (Rule.mem_perLineFrom_iff.2 ⟨k, line, later, hdrop, hline, hplain, ?_⟩)
    rw [← hjudge, Rule.nameModules, Rule.nameModules, List.filter_congr hagree]
  · obtain ⟨module, hmodule, hdiffer⟩ := by
      simpa only [not_forall, exists_prop] using hagree
    have hat : lines[report.line - 1]? = some line := by
      have hk : report.line - 1 = k := by omega
      rw [hk, ← List.head?_drop, hdrop, List.head?_cons]
    exact .inr ⟨line, hat, module, hmodule, .of_ne hdiffer⟩

namespace Scanner

variable (settings : Settings) (modules : NameSet) {others : NameSet} (policy : Policy)
  (content : String)

/-- A hit of a scan that knows other modules of the repository is a hit of the scan, unless it is one
of the rule on undeclared imports, on a line with a contested module. -/
theorem mem_scan_of_modules {hit : Hit}
    (h : hit ∈ ((ofSettings settings).withFirstParty others).scan policy content) :
    hit ∈ ((ofSettings settings).withFirstParty modules).scan policy content ∨
      hit.ruleId = Rule.unauthorizedImport.id ∧
        ∃ line, (Text.lines content.toList)[hit.line - 1]? = some line ∧
          ∃ module ∈ Rule.pythonModulesOn line, Contested policy modules others module := by
  by_cases hid : hit.ruleId = Rule.unauthorizedImport.id
  swap
  · -- The hits of all other rules are the same.
    have hsame := filter_scan_of_reports settings (fun ruleId => ruleId != Rule.unauthorizedImport.id)
      (fun r hr hne lines => Rule.reports_of_ne_unauthorizedImport r hr (by simpa using hne) policy
        others modules settings.analysis.errorLookahead lines) content
    have hfilter := hsame ▸ List.mem_filter.2 ⟨h, by simpa using hid⟩
    exact .inl (List.mem_filter.1 hfilter).1
  obtain ⟨r, hr, hhit⟩ := mem_scan.1 h
  obtain ⟨r₀, hr₀, hid₀, hreports⟩ := exists_rule_of_mem_ofSettings settings hr
  obtain ⟨report, hreport, rfl⟩ := List.mem_map.1 hhit
  -- The rule that reports it is the one on undeclared imports.
  have hrule : some r₀ = some Rule.unauthorizedImport :=
    (Rule.ofId?_id r₀ hr₀).symm.trans ((congrArg Rule.ofId? (hid₀.symm.trans hid)).trans
      (Rule.ofId?_id _ (by simp [Rule.catalogue])))
  obtain rfl := Option.some.inj hrule
  rw [hreports] at hreport
  rcases Rule.mem_reports_of_modules modules hreport with hsame | hcontested
  · refine .inl (mem_scan.2 ⟨r, hr, List.mem_map_of_mem ?_⟩)
    rw [hreports]
    exact hsame
  · exact .inr ⟨hid, hcontested⟩

end Scanner

end SourceAudit
