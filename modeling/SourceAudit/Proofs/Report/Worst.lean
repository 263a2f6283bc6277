import SourceAudit.ExitStatus
import SourceAudit.Report.Basic

/-!
# The worst violation

The worst severity is that of one of the violations and is no less urgent than any of them, so the
status of an audit tells whether one of them is blocking.
-/

namespace SourceAudit

variable {violations : List Violation} {worst : Severity}

namespace Severity

/-- The more urgent of two severities is no less urgent than either. -/
theorem rank_le_max (a b : Severity) : a.rank ≤ (a.max b).rank ∧ b.rank ≤ (a.max b).rank := by
  rw [Severity.max]
  split
  · rename_i h
    exact ⟨h, Nat.le_refl _⟩
  · rename_i h
    exact ⟨Nat.le_refl _, Nat.le_of_not_le h⟩

/-- The more urgent of two severities is one of them. -/
theorem max_eq_or (a b : Severity) : a.max b = a ∨ a.max b = b := by
  rw [Severity.max]
  split
  · exact .inr rfl
  · exact .inl rfl

end Severity

/-- No violation is more urgent than the worst. -/
theorem rank_le_worstOf? {v : Violation} (hv : v ∈ violations) :
    ∃ worst, worstOf? violations = some worst ∧ v.severity.rank ≤ worst.rank := by
  induction violations with
  | nil => cases hv
  | cons first rest ih =>
    rw [worstOf?]
    rcases List.mem_cons.1 hv with rfl | hv
    · rcases worstOf? rest with _ | worst
      · exact ⟨_, rfl, Nat.le_refl _⟩
      · exact ⟨_, rfl, (Severity.rank_le_max _ _).1⟩
    · obtain ⟨worst, hworst, hrank⟩ := ih hv
      rw [hworst]
      exact ⟨_, rfl, Nat.le_trans hrank (Severity.rank_le_max _ _).2⟩

/-- The worst severity is that of a violation. -/
theorem mem_of_worstOf? (h : worstOf? violations = some worst) :
    ∃ v ∈ violations, v.severity = worst := by
  induction violations generalizing worst with
  | nil => cases h
  | cons first rest ih =>
    rw [worstOf?] at h
    rcases hrest : worstOf? rest with _ | second
    · rw [hrest] at h
      exact ⟨first, List.mem_cons_self, Option.some.inj h⟩
    · rw [hrest] at h
      obtain rfl := Option.some.inj h
      rcases Severity.max_eq_or first.severity second with hmax | hmax
      · exact ⟨first, List.mem_cons_self, hmax.symm⟩
      · obtain ⟨v, hv, hseverity⟩ := ih hrest
        exact ⟨v, List.mem_cons_of_mem first hv, hseverity.trans hmax.symm⟩

/-- An audit is blocking if one of its violations is, and it succeeds if there is none. -/
theorem ofWorst_worstOf? (violations : List Violation) :
    ExitStatus.ofWorst (worstOf? violations) =
      if violations = [] then .success
      else if ∃ v ∈ violations, Severity.high.rank ≤ v.severity.rank then .blocking
      else .warnings := by
  rcases hworst : worstOf? violations with _ | worst
  · have hnil : violations = [] := by
      rcases violations with _ | ⟨v, rest⟩
      · rfl
      · obtain ⟨worst, hsome, -⟩ := rank_le_worstOf? (List.mem_cons_self (a := v) (l := rest))
        rw [hworst] at hsome
        cases hsome
    rw [if_pos hnil]
    rfl
  · obtain ⟨v, hv, rfl⟩ := mem_of_worstOf? hworst
    rw [if_neg (List.ne_nil_of_mem hv), ExitStatus.ofWorst]
    by_cases hblocking : ∃ v ∈ violations, Severity.high.rank ≤ v.severity.rank
    · obtain ⟨u, hu, hhigh⟩ := hblocking
      obtain ⟨worst, hsome, hrank⟩ := rank_le_worstOf? hu
      obtain rfl := Option.some.inj (hworst.symm.trans hsome)
      rw [if_pos (Nat.le_trans hhigh hrank), if_pos ⟨u, hu, hhigh⟩]
    · rw [if_neg fun hhigh => hblocking ⟨v, hv, hhigh⟩, if_neg hblocking]

end SourceAudit
