import SourceAudit.Proofs.Audit.Discipline
import SourceAudit.Proofs.Store.Identity

/-!
# A run and its store agree

The phase of a run says what the run takes the store to hold of its audit: the audit as it was last
given and the violations that were acknowledged. A store that holds just that agrees with the phase.
A call that the phase allows keeps the two in agreement whatever comes of it (`Agrees.advance`), and
so does any call that is not about the audit (`Agrees.frame`).
-/

namespace SourceAudit

/-- The answer is one that a store may have given. -/
def Exchange.Faithful : Exchange → Prop
  | ⟨.store c, answer⟩ => ∃ s s', c.Outcome s answer s'
  | _ => True

namespace Phase

open Store StoreCall

/-- The store holds what the run takes it to hold. -/
def Agrees (s : Store) : Phase → Prop
  | opened audit logged =>
    s.audit? audit.id = some audit ∧ s.violationsOf audit.id = logged ∧
      ∀ v ∈ logged, v.auditId = audit.id
  | _ => True

/-- The identity of the audit that is open. -/
def auditId? : Phase → Option String
  | opened audit _ => some audit.id
  | _ => none

variable {p : Phase} {c : StoreCall} {s s' : Store} {answer : Except StoreError c.Result}

/-- A call that fails leaves the phase as it is. -/
theorem advance_error (p : Phase) (c : StoreCall) (e : StoreError) :
    p.advance ⟨.store c, .error e⟩ = p := by
  cases p <;> cases c <;> rfl

/-- The calls that are allowed are about no other audit than the open one. -/
theorem auditId?_of_touches {id : String} (hallows : p.allows c) (htouches : c.Touches id) :
    p.auditId? = some id := by
  cases p with
  | fresh | known => cases c <;> first | exact hallows.elim | exact htouches.elim
  | opened audit logged =>
    cases c with
    | logViolation v => exact congrArg some (hallows.1.symm.trans htouches)
    | completeAudit => exact congrArg some (Eq.trans (Eq.symm hallows) htouches)
    | failAudit => exact congrArg some (Eq.trans (Eq.symm hallows) htouches)
    | upsertRepository | repository? | audit? | listAudits | createAudit | listViolations
    | deleteAudit => exact hallows.elim

/-- A call that is not about the open audit keeps the agreement. -/
theorem Agrees.frame (h : p.Agrees s) (heffect : s.Effect c s')
    (huntouched : ∀ id, p.auditId? = some id → ¬ c.Touches id) : p.Agrees s' := by
  cases p with
  | fresh | known => trivial
  | opened audit logged =>
    have hfree := huntouched audit.id rfl
    exact ⟨heffect.audit?_eq hfree h.1, (heffect.violationsOf_eq hfree).trans h.2.1, h.2.2⟩

/-- The open audit is the one that was open, or the one that the call has opened. -/
theorem auditId?_advance (hallows : p.allows c) (hout : c.Outcome s answer s') {id : String}
    (hid : (p.advance ⟨.store c, answer⟩).auditId? = some id) :
    p.auditId? = some id ∨ ∃ text ∈ c.issued answer s', id = Sha256.hex text := by
  rcases answer with e | a
  · rw [advance_error] at hid
    exact .inl hid
  cases p with
  | fresh => cases c <;> cases hid
  | known repository =>
    cases c with
    | createAudit repositoryId =>
      obtain ⟨now, h⟩ := hout
      obtain ⟨-, -, rfl, rfl⟩ := createAudit_ok_iff.1 h
      refine .inr ⟨_, List.mem_cons_self, ?_⟩
      rw [← Option.some.inj hid]
      exact id_nextAudit ..
    | upsertRepository | repository? | audit? | listAudits | logViolation | listViolations
    | completeAudit | failAudit | deleteAudit => cases hid
  | opened audit logged =>
    cases c with
    -- To settle an audit leaves its identity.
    | completeAudit auditId total violations compliant =>
      obtain ⟨now, h⟩ := hout
      obtain ⟨-, audit', hfound, -, rfl, -⟩ := completeAudit_ok_iff.1 h
      obtain rfl : auditId = audit.id := hallows
      exact .inl ((congrArg some (id_of_audit? hfound).symm).trans hid)
    | failAudit auditId reason =>
      obtain ⟨now, h⟩ := hout
      obtain ⟨-, -, audit', hfound, -, rfl, -⟩ := failAudit_ok_iff.1 h
      obtain rfl : auditId = audit.id := hallows
      exact .inl ((congrArg some (id_of_audit? hfound).symm).trans hid)
    | upsertRepository | repository? | audit? | listAudits | createAudit | logViolation
    | listViolations | deleteAudit => exact .inl hid

/-- An audit that is settled is agreed on as what it is settled to. -/
theorem agrees_afterSettle {audit settled : Audit} {logged : List Violation}
    (h : (opened audit logged).Agrees s) (hid : settled.id = audit.id) :
    (opened settled logged).Agrees (s.afterSettle audit.id settled) := by
  obtain ⟨hfound, hlogged, hids⟩ := h
  refine ⟨?_, ?_, ?_⟩
  · rw [hid]
    exact audit?_afterSettle hfound hid
  · rw [hid]
    exact hlogged
  · rw [hid]
    exact hids

/-- An allowed call keeps the agreement, provided that identities are given out that are unused. -/
theorem Agrees.advance (h : p.Agrees s) (hallows : p.allows c) (hout : c.Outcome s answer s')
    (hnew : ∀ text ∈ c.issued answer s', s.Unused (Sha256.hex text)) :
    (p.advance ⟨.store c, answer⟩).Agrees s' := by
  rcases answer with e | a
  · obtain rfl := hout
    rw [advance_error]
    exact h
  cases p with
  | fresh => cases c <;> trivial
  | known repository =>
    cases c with
    | createAudit repositoryId =>
      obtain ⟨now, hrun⟩ := hout
      obtain ⟨-, -, rfl, rfl⟩ := createAudit_ok_iff.1 hrun
      -- The new audit is found as it was given, since nothing was there under its identity.
      have hunused : s.Unused (s.nextAudit now repositoryId).id := by
        rw [id_nextAudit]
        exact hnew _ List.mem_cons_self
      exact ⟨audit?_afterCreate_of_unused hunused, hunused.2, List.forall_mem_nil _⟩
    | upsertRepository | repository? | audit? | listAudits | logViolation | listViolations
    | completeAudit | failAudit | deleteAudit => trivial
  | opened audit logged =>
    cases c with
    | logViolation v =>
      obtain ⟨hfound, hlogged, hids⟩ := h
      obtain ⟨now, hrun⟩ := hout
      obtain ⟨-, -, rfl, rfl⟩ := logViolation_ok_iff.1 hrun
      refine ⟨hfound, ?_, fun v' hv => ?_⟩
      · rw [violationsOf_afterLog, if_pos hallows.1, hlogged]
      · rcases List.mem_append.1 hv with hv | hv
        · exact hids v' hv
        · rw [List.mem_singleton.1 hv]
          exact hallows.1
    | completeAudit auditId total violations compliant =>
      obtain ⟨now, hrun⟩ := hout
      obtain ⟨-, audit', hfound, -, rfl, rfl⟩ := completeAudit_ok_iff.1 hrun
      obtain rfl : auditId = audit.id := hallows
      exact agrees_afterSettle h ((id_completedAudit ..).trans (id_of_audit? hfound))
    | failAudit auditId reason =>
      obtain ⟨now, hrun⟩ := hout
      obtain ⟨-, -, audit', hfound, -, rfl, rfl⟩ := failAudit_ok_iff.1 hrun
      obtain rfl : auditId = audit.id := hallows
      exact agrees_afterSettle h ((id_failedAudit ..).trans (id_of_audit? hfound))
    | upsertRepository | repository? | audit? | listAudits | createAudit | listViolations
    | deleteAudit => exact hallows.elim

end Phase

end SourceAudit
