import Mathlib.Data.List.Nodup
import SourceAudit.Proofs.Rule.Description
import SourceAudit.Proofs.Rule.Reports
import SourceAudit.Scan

/-!
# The hits of a scan

Every hit of a scan is fit to be recorded as far as its rule does not quote what no store takes
(`newViolation_ofHit_iff`).

Hits are sorted by their lines, and sorting leaves hits on one line in their order
(`filter_mergeSort`). A list is known by its order by lines together with its hits on each line
(`eq_of_filter_eq`), so what drops or changes hits without moving them may as well be done before
sorting as after it (`filterMap_mergeSort`).

The main result is `Scanner.shape_scan`: every hit stands at a line of the text that does not look
binary, a rule has at most one hit on a line, and hits are in the order of the lines and on one line
in the order of the catalogue.
-/

namespace SourceAudit

open Validation

/-- What the rule of a hit quotes does not keep a store from taking the description. -/
def Hit.Quotable (h : Hit) : Prop :=
  (Rule.quotesInFull h.ruleId = true → h.description.length ≤ maxDescription) ∧
    (Rule.quotesAnything h.ruleId = true → Text.Clear h.description)

/-- What is known of the hits of all rules. -/
structure Hit.Wellformed (h : Hit) : Prop where
  line : 1 ≤ h.line
  rule : Clean maxName h.ruleId
  description : Rule.Fits h.ruleId h.description

/-- The description of a hit that is quotable is one that a store takes. -/
theorem Hit.Quotable.clean {h : Hit} (hquotable : h.Quotable)
    (hfits : Rule.Fits h.ruleId h.description) : Clean maxDescription h.description where
  worded := hfits.worded
  short := by
    rcases hfull : Rule.quotesInFull h.ruleId
    · exact hfits.short hfull
    · exact hquotable.1 hfull
  clear := by
    rcases hany : Rule.quotesAnything h.ruleId
    · exact hfits.clear hany
    · exact hquotable.2 hany

/-- The identifiers of rules are names. -/
theorem Rule.clean_id : ∀ r ∈ Rule.catalogue, Clean maxName r.id := by
  simp only [Rule.catalogue, List.forall_mem_cons]
  and_intros
  all_goals first | exact clean_ofList (by decide) | exact List.forall_mem_nil _

/-- The hits of a scan are those of the rules. -/
theorem Scanner.mem_scan {s : Scanner} {policy : Policy} {content : String} {h : Hit} :
    h ∈ s.scan policy content ↔
      ∃ r ∈ s.rules, h ∈ r.hits (s.context policy) (Text.lines content.toList) := by
  rw [scan, scanLines, List.mem_mergeSort, List.mem_flatMap]

/-- The hits of a scan with settings are well-formed. -/
theorem Scanner.wellformed_of_mem_scan {settings : Settings} {modules : NameSet} {policy : Policy}
    {content : String} {h : Hit}
    (hh : h ∈ ((ofSettings settings).withFirstParty modules).scan policy content) :
    h.Wellformed := by
  obtain ⟨r, hr, hhit⟩ := mem_scan.1 hh
  -- The settings of a rule touch neither its identifier nor its reports.
  obtain ⟨r, hrule, rfl⟩ := List.mem_map.1 hr
  obtain ⟨report, hreport, rfl⟩ := List.mem_map.1 hhit
  have hcatalogue : r ∈ Rule.catalogue := (List.mem_filter.1 hrule).1
  obtain ⟨hline, hfits⟩ := Rule.describes_catalogue r hcatalogue _ _ report hreport
  exact ⟨hline, Rule.clean_id r hcatalogue, hfits⟩

/-- A hit is fit to be recorded if its path and its description are. -/
theorem newViolation_ofHit_iff {audit : Audit} {path : String} {h : Hit}
    (haudit : id "audit_id" audit.id = .ok ())
    (hrepository : id "repository_id" audit.repositoryId = .ok ()) (hh : h.Wellformed) :
    newViolation (.ofHit audit path h) = .ok () ↔
      Clean maxPath path ∧ Clean maxDescription h.description := by
  have hline : (NewViolation.ofHit audit path h).lineNumber ≠ some 0 := by
    intro hzero
    have hpos := hh.line
    rw [Option.some.inj hzero] at hpos
    omega
  rw [newViolation_ok_iff]
  constructor
  · rintro ⟨-, hpath, -, hdescription, -⟩
    exact ⟨hpath, hdescription⟩
  · rintro ⟨hpath, hdescription⟩
    exact ⟨⟨haudit, hrepository⟩, hpath, hh.rule, hdescription, hline⟩

end SourceAudit

/-! ## The order of the hits of a scan -/

namespace SourceAudit

/-! ### Sorting by a key -/

section Sorting

variable {α : Type} (key : α → Nat)

theorem le_key_trans (a b c : α) (hab : decide (key a ≤ key b) = true)
    (hbc : decide (key b ≤ key c) = true) : decide (key a ≤ key c) = true :=
  decide_eq_true (Nat.le_trans (of_decide_eq_true hab) (of_decide_eq_true hbc))

theorem le_key_total (a b : α) : (decide (key a ≤ key b) || decide (key b ≤ key a)) = true := by
  simpa using Nat.le_total (key a) (key b)

/-- Sorting by a key puts the smaller keys first. -/
theorem pairwise_mergeSort_key (l : List α) :
    (l.mergeSort fun a b => key a ≤ key b).Pairwise (key · ≤ key ·) :=
  (List.pairwise_mergeSort (le_key_trans key) (le_key_total key) l).imp of_decide_eq_true

/-- Sorting by a key leaves what has one key in its order. -/
theorem filter_mergeSort (n : Nat) (l : List α) :
    (l.mergeSort fun a b => key a ≤ key b).filter (key · = n) = l.filter (key · = n) := by
  -- What has the key `n` is sorted already, so sorting keeps it as a part of the list.
  have hequal : (l.filter (key · = n)).Pairwise fun a b => decide (key a ≤ key b) = true := by
    refine List.pairwise_iff_forall_sublist.2 fun {a b} hab => ?_
    have ha := (List.mem_filter.1 (hab.subset (by simp : a ∈ [a, b]))).2
    have hb := (List.mem_filter.1 (hab.subset (by simp : b ∈ [a, b]))).2
    rw [of_decide_eq_true ha, of_decide_eq_true hb]
    exact decide_eq_true (Nat.le_refl n)
  have hsublist : (l.filter (key · = n)).Sublist
      ((l.mergeSort fun a b => key a ≤ key b).filter (key · = n)) := by
    have h := List.sublist_mergeSort (le_key_trans key) (le_key_total key) hequal
      List.filter_sublist
    simpa using h.filter (key · = n)
  have hlength := ((List.mergeSort_perm l fun a b => key a ≤ key b).filter (key · = n)).length_eq
  exact (hsublist.eq_of_length hlength.symm).symm

variable {key}

/-- What has the same entries under each key has the same entries. -/
theorem mem_iff_of_filter_eq {l l' : List α}
    (h : ∀ n, l.filter (key · = n) = l'.filter (key · = n)) (a : α) : a ∈ l ↔ a ∈ l' := by
  have ha := congrArg (a ∈ ·) (h (key a))
  simpa using ha

/-- A list in the order of a key is known by what it has under each key. -/
theorem eq_of_filter_eq {l l' : List α} (hl : l.Pairwise (key · ≤ key ·))
    (hl' : l'.Pairwise (key · ≤ key ·))
    (h : ∀ n, l.filter (key · = n) = l'.filter (key · = n)) : l = l' := by
  induction l generalizing l' with
  | nil =>
    refine (List.eq_nil_iff_forall_not_mem.2 fun a ha => ?_).symm
    cases (mem_iff_of_filter_eq h a).2 ha
  | cons a rest ih =>
    rcases l' with _ | ⟨b, rest'⟩
    · cases (mem_iff_of_filter_eq h a).1 List.mem_cons_self
    -- Each of the first ones is in the other list too, so neither has the larger key.
    have hab : key a ≤ key b := by
      rcases List.mem_cons.1 ((mem_iff_of_filter_eq h b).2 List.mem_cons_self) with rfl | hb
      · exact Nat.le_refl _
      · exact List.rel_of_pairwise_cons hl hb
    have hba : key b ≤ key a := by
      rcases List.mem_cons.1 ((mem_iff_of_filter_eq h a).1 List.mem_cons_self) with rfl | ha
      · exact Nat.le_refl _
      · exact List.rel_of_pairwise_cons hl' ha
    have hkey : key b = key a := Nat.le_antisymm hba hab
    have hfirst := h (key a)
    rw [List.filter_cons_of_pos (by simp), List.filter_cons_of_pos (by simp [hkey])] at hfirst
    obtain ⟨rfl, -⟩ := List.cons.inj hfirst
    rw [ih hl.of_cons hl'.of_cons fun n => ?_]
    have hn := h n
    by_cases hkn : key a = n
    · rw [List.filter_cons_of_pos (by simp [hkn]), List.filter_cons_of_pos (by simp [hkn])] at hn
      exact (List.cons.inj hn).2
    · rwa [List.filter_cons_of_neg (by simp [hkn]), List.filter_cons_of_neg (by simp [hkn])] at hn

/-- What holds of the entries under one key in their order holds after sorting. -/
theorem pairwise_mergeSort_of_key_eq {R : α → α → Prop} {l : List α}
    (h : l.Pairwise fun a b => key a = key b → R a b) :
    (l.mergeSort fun a b => key a ≤ key b).Pairwise fun a b => key a = key b → R a b := by
  refine List.pairwise_iff_forall_sublist.2 fun {a b} hab hkey => ?_
  have hpair : [a, b].filter (key · = key b) = [a, b] := by simp [hkey]
  have hsublist := hab.filter (key · = key b)
  rw [hpair, filter_mergeSort] at hsublist
  exact List.pairwise_iff_forall_sublist.1 h (hsublist.trans List.filter_sublist) hkey

/-- What drops and changes entries, and leaves their keys, may do so before they are sorted. -/
theorem filterMap_mergeSort {f : α → Option α} (hf : ∀ a b, f a = some b → key b = key a)
    (l : List α) :
    (l.mergeSort fun a b => key a ≤ key b).filterMap f =
      (l.filterMap f).mergeSort fun a b => key a ≤ key b := by
  have hcommute : ∀ (n : Nat) (l : List α),
      (l.filterMap f).filter (key · = n) = (l.filter (key · = n)).filterMap f := by
    intro n l
    rw [List.filter_filterMap, List.filterMap_filter]
    refine congrArg (List.filterMap · l) (funext fun a => ?_)
    rcases hfa : f a with _ | b
    · simp
    · simp [hf a b hfa, Option.filter]
  have hsorted : ((l.mergeSort fun a b => key a ≤ key b).filterMap f).Pairwise
      (key · ≤ key ·) :=
    (pairwise_mergeSort_key key l).filterMap f fun a a' hle b hb b' hb' => by
      rw [hf a b hb, hf a' b' hb']
      exact hle
  refine eq_of_filter_eq hsorted (pairwise_mergeSort_key key _) fun n => ?_
  rw [hcommute, filter_mergeSort, filter_mergeSort, hcommute]

end Sorting

/-- What is listed once is listed by its positions. -/
theorem pairwise_idxOf {names : List String} (h : names.Nodup) :
    names.Pairwise fun a b => names.idxOf a < names.idxOf b := by
  refine List.pairwise_iff_getElem.2 fun i j hi hj hij => ?_
  rw [h.idxOf_getElem i hi, h.idxOf_getElem j hj]
  exact hij

namespace Rule

/-- The identifiers of the rules, in the order of the catalogue. -/
def ids : List String :=
  catalogue.map (·.id)

/-- No two rules have the same identifier. -/
theorem nodup_ids : ids.Nodup := by decide

/-- The rule with an identifier. -/
def ofId? (ruleId : String) : Option Rule :=
  catalogue.find? fun r => r.id == ruleId

/-- A rule is known by its identifier. -/
theorem ofId?_id : ∀ r ∈ catalogue, ofId? r.id = some r := by
  simp only [catalogue, List.forall_mem_cons]
  and_intros
  all_goals first | rfl | exact List.forall_mem_nil _

/-- Of the hits of one rule all are chosen by their rule, or none. -/
theorem filter_hits (ids : String → Bool) (r : Rule) (c : Context) (lines : List Text.Line) :
    (r.hits c lines).filter (fun hit => ids hit.ruleId) = if ids r.id then r.hits c lines else [] := by
  have hid : ∀ hit ∈ r.hits c lines, hit.ruleId = r.id := by
    intro hit hhit
    obtain ⟨report, -, rfl⟩ := List.mem_map.1 hhit
    rfl
  split
  · rename_i hchosen
    exact List.filter_eq_self.2 fun hit hhit => by rw [hid hit hhit, hchosen]
  · rename_i hnot
    exact List.filter_eq_nil_iff.2 fun hit hhit => by rwa [hid hit hhit]

end Rule

namespace Scanner

variable (s : Scanner) (settings : Settings) (modules : NameSet) (policy : Policy)

/-- The hits of a scan are in the order of their lines. -/
theorem pairwise_scan (content : String) :
    (s.scan policy content).Pairwise (·.line ≤ ·.line) :=
  pairwise_mergeSort_key Hit.line _

/-- The rules that settings leave on are in the order of the catalogue. -/
theorem ids_ofSettings_sublist :
    ((ofSettings settings).rules.map (·.id)).Sublist Rule.ids := by
  have hids : (ofSettings settings).rules.map (·.id) =
      (Rule.catalogue.filter fun r => settings.isRuleEnabled r.key).map (·.id) :=
    List.map_map.trans rfl
  rw [hids]
  exact List.filter_sublist.map _

/-- A rule that settings leave on reports what it reports without settings. -/
theorem exists_rule_of_mem_ofSettings {r : Rule} (hr : r ∈ (ofSettings settings).rules) :
    ∃ r₀ ∈ Rule.catalogue, r.id = r₀.id ∧ r.reports = r₀.reports := by
  obtain ⟨r₀, hr₀, rfl⟩ := List.mem_map.1 hr
  exact ⟨r₀, (List.mem_filter.1 hr₀).1, rfl, rfl⟩

/-- The hits of a rule in a scan are its reports, if the settings leave it on. -/
theorem exists_hit_of_rule_iff {r : Rule} (hr : r ∈ Rule.catalogue) (P : Rule.Report → Prop)
    (content : String) :
    (∃ hit ∈ ((ofSettings settings).withFirstParty modules).scan policy content,
        hit.ruleId = r.id ∧ P ⟨hit.line, hit.description⟩) ↔
      settings.isRuleEnabled r.key = true ∧
        ∃ report ∈ r.reports ⟨policy, modules, settings.analysis.errorLookahead⟩
          (Text.lines content.toList), P report := by
  constructor
  · rintro ⟨hit, hhit, hid, hP⟩
    obtain ⟨r', hr', hhit⟩ := mem_scan.1 hhit
    obtain ⟨r₀, hon, rfl⟩ := List.mem_map.1 hr'
    obtain ⟨hr₀, hon⟩ := List.mem_filter.1 hon
    obtain ⟨report, hreport, rfl⟩ := List.mem_map.1 hhit
    -- The rule of the hit has the identifier, so it is this one.
    have hsame : some r₀ = some r :=
      (Rule.ofId?_id r₀ hr₀).symm.trans ((congrArg Rule.ofId? hid).trans (Rule.ofId?_id r hr))
    rw [Option.some.inj hsame] at hon hreport
    exact ⟨hon, report, hreport, hP⟩
  · rintro ⟨hon, report, hreport, hP⟩
    refine ⟨(withSeverity settings r).hitOf report, mem_scan.2 ⟨withSeverity settings r, ?_, ?_⟩,
      rfl, hP⟩
    · exact List.mem_map_of_mem (List.mem_filter.2 ⟨hr, hon⟩)
    · exact List.mem_map_of_mem hreport

/-- Some hits may be chosen by their rules before they are sorted. -/
theorem filter_scan (ids : String → Bool) (content : String) :
    (s.scan policy content).filter (fun hit => ids hit.ruleId) =
      (s.rules.flatMap fun r => (r.hits (s.context policy) (Text.lines content.toList)).filter
        fun hit => ids hit.ruleId).mergeSort fun a b => a.line ≤ b.line := by
  have hguard : ∀ a b : Hit, Option.guard (fun hit => ids hit.ruleId) a = some b →
      b.line = a.line := by
    intro a b hab
    rw [(Option.guard_eq_some_iff.1 hab).1]
  rw [scan, scanLines, ← List.filterMap_eq_filter, filterMap_mergeSort hguard,
    List.filterMap_eq_filter, List.filter_flatMap]

/-- The hits of some rules are the same under two policies, and with other modules of the repository,
if these rules report the same then. -/
theorem filter_scan_of_reports (ids : String → Bool) {modules modules' : NameSet}
    {policy policy' : Policy}
    (h : ∀ r ∈ Rule.catalogue, ids r.id = true → ∀ lines,
      r.reports ⟨policy, modules, settings.analysis.errorLookahead⟩ lines =
        r.reports ⟨policy', modules', settings.analysis.errorLookahead⟩ lines)
    (content : String) :
    (((ofSettings settings).withFirstParty modules).scan policy content).filter
        (fun hit => ids hit.ruleId) =
      (((ofSettings settings).withFirstParty modules').scan policy' content).filter
        fun hit => ids hit.ruleId := by
  have hhits : ∀ r ∈ (ofSettings settings).rules, ∀ lines,
      (r.hits ⟨policy, modules, settings.analysis.errorLookahead⟩ lines).filter
          (fun hit => ids hit.ruleId) =
        (r.hits ⟨policy', modules', settings.analysis.errorLookahead⟩ lines).filter
          fun hit => ids hit.ruleId := by
    intro r hr lines
    obtain ⟨r₀, hr₀, hid, hreports⟩ := exists_rule_of_mem_ofSettings settings hr
    rw [Rule.filter_hits, Rule.filter_hits]
    split
    · rename_i hchosen
      rw [Rule.hits, Rule.hits, hreports, h r₀ hr₀ (hid ▸ hchosen)]
    · rfl
  rw [filter_scan, filter_scan]
  exact congrArg (List.mergeSort · fun a b => decide (a.line ≤ b.line))
    (List.flatMap_congr fun r hr => hhits r hr _)

/-- What the hits in a list of lines look like as a list. -/
structure Shape (lines : List Text.Line) (hits : List Hit) : Prop where
  /-- Every hit is at a line of the text, which holds no NUL and no replacement character. -/
  located : ∀ h ∈ hits, 1 ≤ h.line ∧ h.line ≤ lines.length ∧
    ∃ line, lines[h.line - 1]? = some line ∧ '\x00' ∉ line ∧ '\uFFFD' ∉ line
  /-- Every hit is one of a rule of the catalogue. -/
  known : ∀ h ∈ hits, h.ruleId ∈ Rule.ids
  /-- No rule has two hits on a line. -/
  once : (hits.map fun h => (h.ruleId, h.line)).Nodup
  /-- The hits are in the order of the lines, -/
  byLine : hits.Pairwise (·.line ≤ ·.line)
  /-- and those on one line in the order of the catalogue. -/
  byRule : hits.Pairwise fun a b =>
    a.line = b.line → Rule.ids.idxOf a.ruleId < Rule.ids.idxOf b.ruleId

/-- The hits of a rule that settings leave on are at lines that do not look binary. -/
theorem located_hits {r : Rule} (hr : r ∈ (ofSettings settings).rules) {c : Rule.Context}
    {lines : List Text.Line} {h : Hit} (hh : h ∈ r.hits c lines) :
    1 ≤ h.line ∧ ∃ line, lines[h.line - 1]? = some line ∧ Line.looksBinary line = false := by
  obtain ⟨r₀, hr₀, -, hreports⟩ := exists_rule_of_mem_ofSettings settings hr
  obtain ⟨report, hreport, rfl⟩ := List.mem_map.1 hh
  rw [hreports] at hreport
  exact (Rule.lineByLine_catalogue c lines r₀ hr₀).located hreport

/-- The hits of a rule that settings leave on are in the order of their lines, one for a line. -/
theorem ascending_hits {r : Rule} (hr : r ∈ (ofSettings settings).rules) (c : Rule.Context)
    (lines : List Text.Line) : (r.hits c lines).Pairwise (·.line < ·.line) := by
  obtain ⟨r₀, hr₀, -, hreports⟩ := exists_rule_of_mem_ofSettings settings hr
  rw [Rule.hits, hreports]
  exact List.pairwise_map.2 (Rule.lineByLine_catalogue c lines r₀ hr₀).ascending

/-- The hits of the rules one after the other: those on one line are in the order of the
catalogue. -/
theorem byRule_flatMap (c : Rule.Context) (lines : List Text.Line) :
    ((ofSettings settings).rules.flatMap fun r => r.hits c lines).Pairwise fun a b =>
      a.line = b.line → Rule.ids.idxOf a.ruleId < Rule.ids.idxOf b.ruleId := by
  refine List.pairwise_flatMap.2 ⟨fun r hr => ?_, ?_⟩
  · -- A rule has no two hits on a line.
    exact (ascending_hits settings hr c lines).imp fun hlt heq => absurd heq (Nat.ne_of_lt hlt)
  · have hordered := List.pairwise_map.1
      ((pairwise_idxOf Rule.nodup_ids).sublist (ids_ofSettings_sublist settings))
    refine hordered.imp fun hlt a ha b hb _ => ?_
    obtain ⟨report, -, rfl⟩ := List.mem_map.1 ha
    obtain ⟨report', -, rfl⟩ := List.mem_map.1 hb
    exact hlt

/-- The hits of a scan, whatever the text, the policy, the modules of the repository and the settings
are, stand at lines that do not look binary, at most one of a rule on a line, in the order of the
lines and on one line in the order of the catalogue. -/
theorem shape_scan (content : String) :
    Shape (Text.lines content.toList)
      (((ofSettings settings).withFirstParty modules).scan policy content) := by
  have hbyRule : (((ofSettings settings).withFirstParty modules).scan policy content).Pairwise
      fun a b => a.line = b.line → Rule.ids.idxOf a.ruleId < Rule.ids.idxOf b.ruleId :=
    pairwise_mergeSort_of_key_eq (byRule_flatMap settings _ _)
  refine ⟨fun h hh => ?_, fun h hh => ?_, ?_, pairwise_scan _ policy content, hbyRule⟩
  · obtain ⟨r, hr, hhit⟩ := mem_scan.1 hh
    obtain ⟨hpos, line, hline, hplain⟩ := located_hits settings hr hhit
    have hlt : h.line - 1 < (Text.lines content.toList).length :=
      (List.getElem?_eq_some_iff.1 hline).1
    have hclear : '\x00' ∉ line ∧ '\uFFFD' ∉ line := by simpa [Line.looksBinary] using hplain
    exact ⟨hpos, by omega, line, hline, hclear⟩
  · obtain ⟨r, hr, hhit⟩ := mem_scan.1 hh
    obtain ⟨report, -, rfl⟩ := List.mem_map.1 hhit
    exact (ids_ofSettings_sublist settings).subset (List.mem_map_of_mem hr)
  · -- Two hits of a rule on a line would have to be in the order of the catalogue.
    refine List.pairwise_map.2 (hbyRule.imp fun hlt heq => ?_)
    obtain ⟨hid, hline⟩ := Prod.mk.inj heq
    have h := hlt hline
    rw [hid] at h
    exact Nat.lt_irrefl _ h

end Scanner

end SourceAudit
