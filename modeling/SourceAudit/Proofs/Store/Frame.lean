import SourceAudit.Proofs.Store.Operation
import SourceAudit.Proofs.Store.Outcome

/-!
# What a call leaves alone

The changes that a call can make to a store are few (`Store.Effect`). A call that is not about an
audit leaves the audit and its violations alone, no call makes up identities of audits except the
one that opens an audit, and the counter moves by one at most.

A history is a sequence of calls, each with the time at which it is made. It takes a store to a store
whatever the calls come to, and what every effect of a call preserves is preserved by a history
(`after_preserves`).
-/

namespace SourceAudit

namespace Store

/-- What a call can make of a store. -/
inductive Effect (s : Store) : StoreCall → Store → Prop
  | none (c : StoreCall) : Effect s c s
  | upsert (now : Instant) (owner name url : String) :
    Effect s (.upsertRepository owner name url) (s.afterUpsert now owner name url)
  | create (now : Instant) (repositoryId : String) :
    (s.repository? repositoryId).isSome →
    Effect s (.createAudit repositoryId) (s.afterCreate now repositoryId)
  | log (now : Instant) (v : NewViolation) (audit : Audit) :
    Validation.newViolation v = .ok () → s.audit? v.auditId = some audit →
    audit.status = .pending → audit.repositoryId = v.repositoryId →
    Effect s (.logViolation v) (s.afterLog now v)
  | complete (now : Instant) (id : String) (total violations compliant : Nat) (audit : Audit) :
    s.audit? id = some audit → audit.status = .pending →
    Effect s (.completeAudit id total violations compliant)
      (s.afterSettle id (completedAudit now total violations compliant audit))
  | fail (now : Instant) (id reason : String) (audit : Audit) :
    Validation.description "failure_reason" reason = .ok () → s.audit? id = some audit →
    audit.status = .pending →
    Effect s (.failAudit id reason) (s.afterSettle id (failedAudit now reason audit))
  | delete (id : String) : Effect s (.deleteAudit id) (s.afterDelete id)

end Store

namespace StoreCall

open Store

/-- An outcome of a call is one of its effects. -/
theorem Outcome.effect {c : StoreCall} {s s' : Store} {answer : Except StoreError c.Result}
    (h : c.Outcome s answer s') : s.Effect c s' := by
  rcases answer with e | a
  · obtain rfl := h
    exact .none c
  obtain ⟨now, h⟩ := h
  cases c with
  | upsertRepository owner name url =>
    obtain ⟨-, -, rfl⟩ := upsertRepository_ok_iff.1 h
    exact .upsert now owner name url
  | createAudit repositoryId =>
    obtain ⟨-, hknown, -, rfl⟩ := createAudit_ok_iff.1 h
    exact .create now repositoryId hknown
  | logViolation v =>
    obtain ⟨hvalid, ⟨audit, hfound, hpending, hrepository⟩, -, rfl⟩ := logViolation_ok_iff.1 h
    exact .log now v audit hvalid hfound hpending hrepository
  | completeAudit id total violations compliant =>
    obtain ⟨-, audit, hfound, hpending, rfl, rfl⟩ := completeAudit_ok_iff.1 h
    exact .complete now id total violations compliant audit hfound hpending
  | failAudit id reason =>
    obtain ⟨-, hreason, audit, hfound, hpending, rfl, rfl⟩ := failAudit_ok_iff.1 h
    exact .fail now id reason audit hreason hfound hpending
  | deleteAudit id =>
    obtain ⟨-, -, rfl⟩ := deleteAudit_ok_iff.1 h
    split
    · exact .delete id
    · exact .none _
  | repository? | audit? | listAudits | listViolations =>
    obtain rfl := (Prod.mk.inj h).2
    exact .none _

/-- The call is about the audit with this identity: it records a violation of it, settles it or
drops it. -/
def Touches : StoreCall → String → Prop
  | logViolation v, id => v.auditId = id
  | completeAudit auditId .., id => auditId = id
  | failAudit auditId _, id => auditId = id
  | deleteAudit auditId, id => auditId = id
  | _, _ => False

end StoreCall

namespace Store

variable {s s' : Store} {c : StoreCall} {id : String}

/-- A call that is not about an audit leaves the audit as it is. -/
theorem Effect.audit?_eq (h : s.Effect c s') (huntouched : ¬ c.Touches id) {a : Audit}
    (hfound : s.audit? id = some a) : s'.audit? id = some a := by
  cases h with
  | none => exact hfound
  | upsert => exact hfound
  | create => rw [audit?_afterCreate, hfound, Option.some_or]
  | log => exact hfound
  | complete now id' total violations compliant audit hother =>
    rw [audit?_afterSettle_of_ne ((id_completedAudit ..).trans (id_of_audit? hother))
      (Ne.symm huntouched), hfound]
  | fail now id' reason audit hreason hother =>
    rw [audit?_afterSettle_of_ne ((id_failedAudit ..).trans (id_of_audit? hother))
      (Ne.symm huntouched), hfound]
  | delete id' => rw [audit?_afterDelete_of_ne (Ne.symm huntouched), hfound]

/-- A call that is not about an audit leaves its violations as they are. -/
theorem Effect.violationsOf_eq (h : s.Effect c s') (huntouched : ¬ c.Touches id) :
    s'.violationsOf id = s.violationsOf id := by
  cases h with
  | none | upsert | create | complete | fail => rfl
  | log now v audit =>
    have hne : v.auditId ≠ id := huntouched
    rw [violationsOf_afterLog, if_neg hne, List.append_nil]
  | delete id' => exact violationsOf_afterDelete_of_ne (Ne.symm huntouched)

/-- All audits, and all audits that violations are of, have such identities. -/
def AuditIdsIn (s : Store) (P : String → Prop) : Prop :=
  (∀ a ∈ s.audits, P a.id) ∧ ∀ v ∈ s.violations, P v.auditId

/-- An identity that no audit can have is unused. -/
theorem unused_of_auditIdsIn {P : String → Prop} (h : s.AuditIdsIn P) (hid : ¬ P id) :
    s.Unused id := by
  constructor
  · refine List.find?_eq_none.2 fun a ha heq => hid ?_
    rw [← eq_of_beq heq]
    exact h.1 a ha
  · refine List.filter_eq_nil_iff.2 fun v hv heq => hid ?_
    rw [← eq_of_beq heq]
    exact h.2 v hv

/-- A member that was changed is one that was there or the new one. -/
theorem mem_modifyFirst {α : Type} {p : α → Bool} {new a : α} {l : List α}
    (h : a ∈ modifyFirst p (fun _ => new) l) : a ∈ l ∨ a = new := by
  induction l with
  | nil => cases h
  | cons b rest ih =>
    rw [modifyFirst] at h
    split at h
    · rcases List.mem_cons.1 h with rfl | h
      · exact .inr rfl
      · exact .inl (List.mem_cons_of_mem b h)
    · rcases List.mem_cons.1 h with rfl | h
      · exact .inl List.mem_cons_self
      · rcases ih h with h | h
        · exact .inl (List.mem_cons_of_mem b h)
        · exact .inr h

/-- Replacing an audit by one of the same identity brings in no identities. -/
theorem AuditIdsIn.afterSettle {P : String → Prop} (h : s.AuditIdsIn P) {a settled : Audit}
    (hfound : s.audit? id = some a) (hid : settled.id = a.id) :
    (s.afterSettle id settled).AuditIdsIn P := by
  refine ⟨fun b hb => ?_, h.2⟩
  rcases mem_modifyFirst hb with hb | rfl
  · exact h.1 b hb
  · rw [hid]
    exact h.1 a (List.mem_of_find?_eq_some hfound)

/-- Opening an audit brings in its identity. -/
theorem AuditIdsIn.afterCreate {P : String → Prop} (h : s.AuditIdsIn P) {now : Instant}
    {repositoryId : String} (hnew : P (s.nextAudit now repositoryId).id) :
    (s.afterCreate now repositoryId).AuditIdsIn P := by
  refine ⟨fun a ha => ?_, h.2⟩
  rcases List.mem_append.1 ha with ha | ha
  · exact h.1 a ha
  · rw [List.mem_singleton.1 ha]
    exact hnew

/-- No other call brings in identities of audits. -/
theorem Effect.auditIdsIn {P : String → Prop} (h : s.Effect c s') (hids : s.AuditIdsIn P)
    (hother : ∀ repositoryId, c ≠ .createAudit repositoryId) : s'.AuditIdsIn P := by
  cases h with
  | none => exact hids
  | upsert => exact hids
  | create now repositoryId => exact absurd rfl (hother repositoryId)
  -- The violation is of an audit that is there.
  | log now v audit _ hfound =>
    refine ⟨hids.1, fun v' hv => ?_⟩
    rcases List.mem_append.1 hv with hv | hv
    · exact hids.2 v' hv
    · obtain rfl := List.mem_singleton.1 hv
      have hid : (s.nextViolation now v).auditId = audit.id := (id_of_audit? hfound).symm
      rw [hid]
      exact hids.1 audit (List.mem_of_find?_eq_some hfound)
  | complete now id total violations compliant audit hfound =>
    exact hids.afterSettle hfound (id_completedAudit ..)
  | fail now id reason audit hreason hfound =>
    exact hids.afterSettle hfound (id_failedAudit ..)
  | delete id =>
    exact ⟨fun a ha => hids.1 a (List.mem_filter.1 ha).1,
      fun v hv => hids.2 v (List.mem_filter.1 hv).1⟩

/-- The counter moves by one at most, unless it comes round. -/
theorem Effect.sequence_le (h : s.Effect c s') (hroom : s.sequence + 1 < Decimal.wordCount) :
    s.sequence ≤ s'.sequence ∧ s'.sequence ≤ s.sequence + 1 := by
  have hnext : s.nextNumber = s.sequence + 1 := Nat.mod_eq_of_lt hroom
  cases h with
  | none | upsert | complete | fail | delete => exact ⟨Nat.le_refl _, Nat.le_succ _⟩
  | create | log =>
    have hseq : ∀ n, n = s.nextNumber → s.sequence ≤ n ∧ n ≤ s.sequence + 1 := by
      rintro n rfl
      omega
    exact hseq _ rfl

end Store

end SourceAudit

/-! ## Histories of a store -/

namespace SourceAudit

/-- A call and the time at which it is made. -/
structure TimedCall where
  time : Instant
  call : StoreCall
deriving DecidableEq, Repr

/-- The operation behind a call at its time. -/
def TimedCall.op (c : TimedCall) : StoreM c.call.Result :=
  c.call.op c.time

namespace Store

/-- The store after a history. -/
def after (s : Store) : List TimedCall → Store
  | [] => s
  | c :: rest => (runOn c.op s).2.after rest

/-- The calls of a history with what they come to. -/
def record (s : Store) : List TimedCall → List Exchange
  | [] => []
  | c :: rest => ⟨.store c.call, (runOn c.op s).1⟩ :: (runOn c.op s).2.record rest

variable {s : Store} {c : TimedCall} {first second history : List TimedCall}

theorem after_append : s.after (first ++ second) = (s.after first).after second := by
  induction first generalizing s with
  | nil => rfl
  | cons c rest ih => exact ih

/-- What a call makes of a store is one of its effects. -/
theorem effect_runOn (s : Store) (c : TimedCall) : s.Effect c.call (runOn c.op s).2 :=
  (StoreCall.outcome_of_runOn (Prod.eta _).symm).effect

/-- What every effect preserves is preserved by a history. -/
theorem after_preserves {P : Store → Prop}
    (hstep : ∀ {s s' : Store} {c : StoreCall}, P s → s.Effect c s' → P s') (h : P s)
    (history : List TimedCall) : P (s.after history) := by
  induction history generalizing s with
  | nil => exact h
  | cons c rest ih => exact ih (hstep h (effect_runOn s c))

end Store

end SourceAudit
