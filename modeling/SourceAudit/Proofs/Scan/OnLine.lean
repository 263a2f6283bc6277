import SourceAudit.Proofs.Scan.Order

/-!
# What a scan says of a line

A scan runs many rules and sorts what they find. The hits of one rule on one line are still those that
the rule has there on its own, if the settings leave it on (`Scanner.hitsAt_scan`), and at most one. A
rule that judges line by line has the one hit there that its judgement gives, or none
(`Scanner.hitsAt_scan_perLine`); without settings every rule is on (`Scanner.hitsAt_default`).
-/

namespace SourceAudit

/-- The hits of a rule on a line. -/
def hitsAt (hits : List Hit) (ruleId : String) (line : Nat) : List Hit :=
  hits.filter fun hit => hit.ruleId == ruleId && hit.line == line

/-- Among rules with different identifiers an identifier chooses one. -/
theorem Rule.flatMap_chosen {α : Type} {rules : List Rule} {r : Rule}
    (hids : (rules.map Rule.id).Nodup) (hr : r ∈ rules) (f : Rule → List α) :
    (rules.flatMap fun other => if other.id == r.id then f other else []) = f r := by
  induction rules with
  | nil => cases hr
  | cons first rest ih =>
    rw [List.map_cons] at hids
    obtain ⟨hfirst, hrest⟩ := List.nodup_cons.1 hids
    rw [List.flatMap_cons]
    rcases List.mem_cons.1 hr with rfl | hr
    · have hnone : (rest.flatMap fun other => if other.id == r.id then f other else []) = [] := by
        refine List.flatMap_eq_nil_iff.2 fun other hother => if_neg fun heq => hfirst ?_
        rw [← eq_of_beq heq]
        exact List.mem_map_of_mem hother
      rw [hnone, List.append_nil]
      exact if_pos (beq_self_eq_true r.id)
    · have hne : ¬ (first.id == r.id) = true := fun heq =>
        hfirst (eq_of_beq heq ▸ List.mem_map_of_mem hr)
      rw [if_neg hne, List.nil_append, ih hrest hr]

namespace Scanner

variable (settings : Settings) (modules : NameSet) (policy : Policy) (content : String)

/-- The hits of a rule on a line are those that it has there on its own, if the settings leave it
on. -/
theorem hitsAt_scan {r : Rule} (hr : r ∈ Rule.catalogue) (line : Nat) :
    hitsAt (((ofSettings settings).withFirstParty modules).scan policy content) r.id line =
      if settings.isRuleEnabled r.key then
        ((r.reports ⟨policy, modules, settings.analysis.errorLookahead⟩
          (Text.lines content.toList)).filter (·.line == line)).map (withSeverity settings r).hitOf
      else [] := by
  have hboth : hitsAt (((ofSettings settings).withFirstParty modules).scan policy content) r.id line =
      ((((ofSettings settings).withFirstParty modules).scan policy content).filter
        fun hit => hit.ruleId == r.id).filter fun hit => decide (hit.line = line) := by
    rw [List.filter_filter, hitsAt]
    exact List.filter_congr fun hit _ => Bool.and_comm _ _
  have hrule : ((ofSettings settings).rules.flatMap fun other =>
        if other.id == r.id then
          other.hits ⟨policy, modules, settings.analysis.errorLookahead⟩
            (Text.lines content.toList)
        else []) =
      if settings.isRuleEnabled r.key then
        (withSeverity settings r).hits ⟨policy, modules, settings.analysis.errorLookahead⟩
          (Text.lines content.toList)
      else [] := by
    split
    · rename_i hon
      have hids : ((ofSettings settings).rules.map Rule.id).Nodup :=
        Rule.nodup_ids.sublist (ids_ofSettings_sublist settings)
      have hmem : withSeverity settings r ∈ (ofSettings settings).rules :=
        List.mem_map_of_mem (List.mem_filter.2 ⟨hr, hon⟩)
      exact Rule.flatMap_chosen hids hmem fun other => other.hits _ _
    · rename_i hoff
      refine List.flatMap_eq_nil_iff.2 fun other hother => if_neg fun heq => hoff ?_
      obtain ⟨r₀, hr₀, rfl⟩ := List.mem_map.1 hother
      obtain ⟨hr₀, hon⟩ := List.mem_filter.1 hr₀
      -- A rule with this identifier is this rule.
      have hsame : some r₀ = some r :=
        (Rule.ofId?_id r₀ hr₀).symm.trans
          ((congrArg Rule.ofId? (eq_of_beq heq)).trans (Rule.ofId?_id r hr))
      rwa [Option.some.inj hsame] at hon
  rw [hboth, filter_scan _ policy (· == r.id), filter_mergeSort Hit.line]
  simp only [Rule.filter_hits (· == r.id)]
  refine (congrArg (List.filter _) hrule).trans ?_
  split
  · exact List.filter_map
  · rfl

/-- A rule has at most one hit on a line. -/
theorem length_hitsAt_scan_le (ruleId : String) (line : Nat) :
    (hitsAt (((ofSettings settings).withFirstParty modules).scan policy content) ruleId line).length ≤
      1 := by
  have hsame : ∀ hits : List Hit, (hitsAt hits ruleId line).map (fun hit => (hit.ruleId, hit.line)) =
      List.replicate (hitsAt hits ruleId line).length (ruleId, line) := by
    intro hits
    refine List.eq_replicate_iff.2 ⟨List.length_map _, fun place hplace => ?_⟩
    obtain ⟨hit, hhit, rfl⟩ := List.mem_map.1 hplace
    simpa using (List.mem_filter.1 hhit).2
  rw [← List.nodup_replicate (a := (ruleId, line)), ← hsame]
  exact (shape_scan settings modules policy content).once.sublist (List.filter_sublist.map _)

/-- A rule that judges line by line has the hit on a line that its judgement gives, or none. -/
theorem hitsAt_scan_perLine {r : Rule} (hr : r ∈ Rule.catalogue)
    {judge : Text.Line → List Text.Line → Option String}
    (hreports : ∀ lines, r.reports ⟨policy, modules, settings.analysis.errorLookahead⟩ lines =
      Rule.perLine judge lines) {content : String} {k : Nat} {line : Text.Line}
    (hline : (Text.lines content.toList)[k]? = some line) (hplain : Line.looksBinary line = false) :
    hitsAt (((ofSettings settings).withFirstParty modules).scan policy content) r.id (k + 1) =
      if settings.isRuleEnabled r.key then
        ((judge line ((Text.lines content.toList).drop (k + 1))).map fun description =>
          (withSeverity settings r).hitOf ⟨k + 1, description⟩).toList
      else [] := by
  rw [hitsAt_scan settings modules policy content hr, hreports, Rule.perLine, Nat.add_comm k 1,
    Rule.filter_perLineFrom hline hplain, Nat.add_comm 1 k]
  rcases judge line ((Text.lines content.toList).drop (k + 1)) with _ | description
  · simp
  · simp

/-- Without settings every rule is on and has its own severity. -/
theorem default_eq_ofSettings : default = ofSettings {} := rfl

/-- Without settings a rule that judges line by line has the hit that its judgement gives. -/
theorem hitsAt_default {r : Rule} (hr : r ∈ Rule.catalogue)
    {judge : Text.Line → List Text.Line → Option String}
    (hreports : ∀ c lines, r.reports c lines = Rule.perLine judge lines) {content : String} {k : Nat}
    {line : Text.Line} (hline : (Text.lines content.toList)[k]? = some line)
    (hplain : Line.looksBinary line = false) :
    hitsAt ((default.withFirstParty modules).scan policy content) r.id (k + 1) =
      ((judge line ((Text.lines content.toList).drop (k + 1))).map fun description =>
        r.hitOf ⟨k + 1, description⟩).toList := by
  rw [default_eq_ofSettings, hitsAt_scan_perLine {} modules policy hr (hreports _) hline hplain]
  exact if_pos rfl

end Scanner

end SourceAudit
