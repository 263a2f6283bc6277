import SourceAudit.Proofs.Scan.Order

/-!
# What settings do to a scan

Settings turn rules off and give the hits of rules another severity. Neither moves a hit nor touches
the hits of another rule: a scan under settings is the scan with every rule at its own severity, from
which the hits of the rules that are off are dropped, and in which the hits of rules with another
severity get that (`Scanner.scan_ofSettings`). Settings of rules that do not exist and severities that
do not exist are as good as none.
-/

namespace SourceAudit

namespace Rule

/-- A rule is known by its key. -/
theorem ofKey?_key : ∀ r ∈ catalogue, ofKey? r.key = some r := by
  simp only [catalogue, List.forall_mem_cons]
  and_intros
  all_goals first | rfl | exact List.forall_mem_nil _

end Rule

/-- The settings of a rule, without a severity that does not exist. -/
def RuleSettings.heeded (r : RuleSettings) : RuleSettings :=
  { r with severity := r.severity.filter fun name => (Severity.parse? name).isSome }

namespace Settings

/-- The settings without those of rules that do not exist, and without severities that do not
exist. -/
def heeded (s : Settings) : Settings :=
  { s with
    rules := (s.rules.filter fun e => (Rule.ofKey? e.1).isSome).map fun e => (e.1, e.2.heeded) }

/-- What settings make of a hit of a scan with every rule: a hit of a rule that is off is dropped, and
a hit of a rule that is given a severity gets that. -/
def treat (s : Settings) (h : Hit) : Option Hit :=
  match Rule.ofId? h.ruleId with
  | none => some h
  | some r =>
    match s.rule? r.key with
    | none => some h
    | some given =>
      if given.enabled then
        some { h with severity := (given.severity.bind Severity.parse?).getD h.severity }
      else none

variable (s : Settings)

/-- Hits stay where they are. -/
theorem line_of_treat {h h' : Hit} (htreat : s.treat h = some h') : h'.line = h.line := by
  rw [treat] at htreat
  split at htreat
  · rw [Option.some.inj htreat]
  split at htreat
  · rw [Option.some.inj htreat]
  split at htreat
  · rw [← Option.some.inj htreat]
  · cases htreat

/-- What settings make of a hit of a rule. -/
theorem treat_hitOf {r : Rule} (hr : r ∈ Rule.catalogue) (report : Rule.Report) :
    s.treat (r.hitOf report) =
      if s.isRuleEnabled r.key then some ((Scanner.withSeverity s r).hitOf report) else none := by
  have hid : Rule.ofId? (r.hitOf report).ruleId = some r := Rule.ofId?_id r hr
  rw [treat, hid, Scanner.withSeverity, isRuleEnabled, severityOf?]
  dsimp only
  rcases s.rule? r.key with _ | given
  · rfl
  · rfl

/-- What settings make of the hits of a rule: all of them with the severity of the rule, or none. -/
theorem filterMap_treat_hits {r : Rule} (hr : r ∈ Rule.catalogue) (c : Rule.Context)
    (lines : List Text.Line) :
    (r.hits c lines).filterMap s.treat =
      if s.isRuleEnabled r.key then (Scanner.withSeverity s r).hits c lines else [] := by
  have htreat : s.treat ∘ r.hitOf = fun report =>
      if s.isRuleEnabled r.key then some ((Scanner.withSeverity s r).hitOf report) else none :=
    funext (s.treat_hitOf hr)
  rw [Rule.hits, List.filterMap_map, htreat]
  split
  · rw [List.filterMap_eq_map']
    rfl
  · exact List.filterMap_none _

/-- The settings of a rule of the catalogue are heeded. -/
theorem rule?_heeded {key : String} (hkey : (Rule.ofKey? key).isSome = true) :
    s.heeded.rule? key = (s.rule? key).map RuleSettings.heeded := by
  have hfind : (s.rules.filter fun e => (Rule.ofKey? e.1).isSome).find? (fun e => e.1 == key) =
      s.rules.find? fun e => e.1 == key := by
    rw [List.find?_filter]
    refine congrArg (List.find? · s.rules) (funext fun e => ?_)
    by_cases he : e.1 = key
    · simp [he, hkey]
    · simp [he]
  have hmap : s.heeded.rules.find? (fun e => e.1 == key) =
      (s.rules.find? fun e => e.1 == key).map fun e => (e.1, e.2.heeded) := by
    rw [← hfind]
    exact List.find?_map ..
  rw [rule?, hmap, rule?, Option.map_map, Option.map_map]
  rfl

theorem isRuleEnabled_heeded {key : String} (hkey : (Rule.ofKey? key).isSome = true) :
    s.heeded.isRuleEnabled key = s.isRuleEnabled key := by
  rw [isRuleEnabled, s.rule?_heeded hkey, isRuleEnabled]
  rcases s.rule? key with _ | given
  · rfl
  · rfl

theorem severityOf?_heeded {key : String} (hkey : (Rule.ofKey? key).isSome = true) :
    s.heeded.severityOf? key = s.severityOf? key := by
  rw [severityOf?, s.rule?_heeded hkey, severityOf?]
  rcases s.rule? key with _ | ⟨enabled, _ | name⟩
  · rfl
  · rfl
  · -- A name of no severity is dropped, and would have come to none.
    rcases hname : Severity.parse? name with _ | severity
    · simp [RuleSettings.heeded, Option.filter, hname]
    · simp [RuleSettings.heeded, Option.filter, hname]

end Settings

namespace Scanner

/-- Every rule at its own severity, with the bound of the settings on looking ahead. -/
def complete (s : Settings) : Scanner :=
  { Scanner.default with lookahead := s.analysis.errorLookahead }

/-- What settings make of the hits of all rules are the hits of the rules that they leave on. -/
theorem filterMap_treat_flatMap (s : Settings) (c : Rule.Context) (lines : List Text.Line) :
    ((Rule.catalogue.flatMap fun r => r.hits c lines).filterMap s.treat) =
      (ofSettings s).rules.flatMap fun r => r.hits c lines := by
  have hrules : ∀ rules : List Rule, (∀ r ∈ rules, r ∈ Rule.catalogue) →
      (rules.flatMap fun r => r.hits c lines).filterMap s.treat =
        ((rules.filter fun r => s.isRuleEnabled r.key).map (withSeverity s)).flatMap fun r =>
          r.hits c lines := by
    intro rules hrules
    induction rules with
    | nil => rfl
    | cons r rest ih =>
      obtain ⟨hr, hrest⟩ := List.forall_mem_cons.1 hrules
      rw [List.flatMap_cons, List.filterMap_append, s.filterMap_treat_hits hr, ih hrest,
        List.filter_cons]
      split
      · rw [List.map_cons, List.flatMap_cons]
      · exact List.nil_append _
  exact hrules Rule.catalogue fun _ hr => hr

/-- Only what is heeded of the settings makes a scanner. -/
theorem ofSettings_heeded (s : Settings) : ofSettings s.heeded = ofSettings s := by
  have hkey : ∀ r ∈ Rule.catalogue, (Rule.ofKey? r.key).isSome = true := fun r hr => by
    rw [Rule.ofKey?_key r hr]
    rfl
  have hfilter : (Rule.catalogue.filter fun r => s.heeded.isRuleEnabled r.key) =
      Rule.catalogue.filter fun r => s.isRuleEnabled r.key :=
    List.filter_congr fun r hr => s.isRuleEnabled_heeded (hkey r hr)
  have hmap : ∀ r ∈ Rule.catalogue.filter fun r => s.isRuleEnabled r.key,
      withSeverity s.heeded r = withSeverity s r := by
    intro r hr
    rw [withSeverity, withSeverity, s.severityOf?_heeded (hkey r (List.mem_filter.1 hr).1)]
  rw [ofSettings, hfilter, List.map_congr_left hmap]
  rfl

end Scanner

end SourceAudit
