import Mathlib.Data.List.Nodup
import SourceAudit.Proofs.Store.Frame

/-!
# The life of an audit

An audit is pending from when it is opened until it is settled or dropped. While it is pending its
violations only get more; once it is settled, neither it nor its violations change any more, whatever
is asked of the store, unless it is dropped (`frozen_after_settling`). Under one identity, an audit is
left at most once, as long as no new audit gets an identity that an audit had before.
-/

namespace SourceAudit.Store

/-- The audit that the store has under an identity is pending. -/
def IsPending (s : Store) (id : String) : Prop :=
  ∃ a, s.audit? id = some a ∧ a.status = .pending

/-- The history drops the audit with an identity. -/
def Drops (s : Store) (history : List TimedCall) (id : String) : Prop :=
  ⟨.store (.deleteAudit id), .ok true⟩ ∈ s.record history

/-- The audit with an identity is no longer pending after the call at a place in the history. -/
def LeavesPending (s : Store) (history : List TimedCall) (id : String) (place : Nat) : Prop :=
  (s.after (history.take place)).IsPending id ∧
    ¬ (s.after (history.take (place + 1))).IsPending id

/-- Every audit that is opened in the history gets an identity that no audit had so far. -/
def OpensNew (s : Store) (history : List TimedCall) : Prop :=
  ∀ (place : Nat) (repositoryId : String) (audit : Audit),
    (s.record history)[place]? = some ⟨.store (.createAudit repositoryId), .ok audit⟩ →
    ∀ earlier ≤ place, (s.after (history.take earlier)).audit? audit.id = none

variable {s s' : Store} {c : StoreCall} {id : String} {a : Audit}

/-- Where the audits have identities of their own, each is found under its own. -/
theorem audit?_of_mem (hdistinct : (s.audits.map Audit.id).Nodup) (ha : a ∈ s.audits) :
    s.audit? a.id = some a := by
  have hfound : (s.audit? a.id).isSome :=
    List.find?_isSome.2 ⟨a, ha, beq_self_eq_true _⟩
  obtain ⟨b, hb⟩ := Option.isSome_iff_exists.1 hfound
  have heq : b = a :=
    List.inj_on_of_nodup_map hdistinct (List.mem_of_find?_eq_some hb) ha (id_of_audit? hb)
  rw [hb, heq]

/-- An audit that was dropped is gone. -/
theorem audit?_afterDelete : (s.afterDelete id).audit? id = none := by
  refine List.find?_eq_none.2 fun a ha => ?_
  simpa using (List.mem_filter.1 ha).2

/-- The violations of an audit that was dropped are gone. -/
theorem violationsOf_afterDelete : (s.afterDelete id).violationsOf id = [] := by
  refine List.filter_eq_nil_iff.2 fun v hv => ?_
  simpa using (List.mem_filter.1 hv).2

/-! ### Settled audits -/

/-- No call but one to drop it changes a settled audit or its violations. -/
theorem Effect.frozen (h : s.Effect c s') (hc : c ≠ .deleteAudit id)
    (hfound : s.audit? id = some a) (hsettled : a.status ≠ .pending) :
    s'.audit? id = some a ∧ s'.violationsOf id = s.violationsOf id := by
  by_cases htouches : c.Touches id
  · -- What is about the audit needs it to be pending.
    have hpending : ∀ audit, s.audit? id = some audit → audit.status ≠ .pending := by
      intro audit haudit
      rw [hfound] at haudit
      exact Option.some.inj haudit ▸ hsettled
    cases h with
    | none => exact ⟨hfound, rfl⟩
    | upsert | create => exact htouches.elim
    | log now v audit _ haudit hstatus =>
      obtain rfl : v.auditId = id := htouches
      exact absurd hstatus (hpending audit haudit)
    | complete now id' total violations compliant audit haudit hstatus =>
      obtain rfl : id' = id := htouches
      exact absurd hstatus (hpending audit haudit)
    | fail now id' reason audit _ haudit hstatus =>
      obtain rfl : id' = id := htouches
      exact absurd hstatus (hpending audit haudit)
    | delete id' =>
      obtain rfl : id' = id := htouches
      exact absurd rfl hc
  · exact ⟨h.audit?_eq htouches hfound, h.violationsOf_eq htouches⟩

/-- A call to drop an audit that is there either drops it or changes nothing. -/
theorem runOn_deleteAudit_of_found (hfound : s.audit? id = some a) :
    (runOn (deleteAudit id) s).1 = .ok true ∨ (runOn (deleteAudit id) s).2 = s := by
  rw [run_deleteAudit, hfound]
  cases Validation.id "audit_id" id with
  | error e => exact .inr rfl
  | ok u => exact .inl rfl

/-- A call that does not drop it leaves a settled audit and its violations as they are. -/
theorem frozen_of_runOn {c : TimedCall} (hfound : s.audit? id = some a)
    (hsettled : a.status ≠ .pending) (hkept : ¬ s.Drops [c] id) :
    (runOn c.op s).2.audit? id = some a ∧
      (runOn c.op s).2.violationsOf id = s.violationsOf id := by
  by_cases hc : c.call = .deleteAudit id
  · obtain ⟨time, call⟩ := c
    obtain rfl : call = .deleteAudit id := hc
    rcases runOn_deleteAudit_of_found hfound with hdropped | hsame
    · refine absurd (List.mem_singleton.2 ?_) hkept
      exact congrArg (Exchange.mk (.store (.deleteAudit id))) hdropped.symm
    · have hsame' : (runOn (TimedCall.op ⟨time, .deleteAudit id⟩) s).2 = s := hsame
      rw [hsame']
      exact ⟨hfound, rfl⟩
  · exact (effect_runOn s c).frozen hc hfound hsettled

/-- Settled audits are frozen until they are dropped. -/
theorem frozen_after {history : List TimedCall} (hfound : s.audit? id = some a)
    (hsettled : a.status ≠ .pending) (hkept : ¬ s.Drops history id) :
    (s.after history).audit? id = some a ∧
      (s.after history).violationsOf id = s.violationsOf id := by
  induction history generalizing s with
  | nil => exact ⟨hfound, rfl⟩
  | cons c rest ih =>
    obtain ⟨hfirst, hrest⟩ := not_or.1 (mt List.mem_cons.2 hkept)
    obtain ⟨hfound', hviolations⟩ :=
      frozen_of_runOn hfound hsettled (mt List.mem_singleton.1 hfirst)
    obtain ⟨hfound'', hviolations'⟩ := ih hfound' hrest
    exact ⟨hfound'', hviolations'.trans hviolations⟩

/-! ### Pending audits -/

/-- A call leaves an audit there, with its violations or with one more at the end, or it drops the
audit with all of them. -/
theorem Effect.grows (h : s.Effect c s') (hfound : s.audit? id = some a) :
    (s'.audit? id).isSome ∧ (s'.violationsOf id = s.violationsOf id ∨
        ∃ v, s'.violationsOf id = s.violationsOf id ++ [v]) ∨
      c = .deleteAudit id ∧ s'.audit? id = Option.none ∧ s'.violationsOf id = [] := by
  by_cases htouches : c.Touches id
  · cases h with
    | none => exact .inl ⟨Option.isSome_of_eq_some hfound, .inl rfl⟩
    | upsert | create => exact htouches.elim
    | log now v =>
      obtain rfl : v.auditId = id := htouches
      refine .inl ⟨Option.isSome_of_eq_some hfound, .inr ⟨s.nextViolation now v, ?_⟩⟩
      rw [violationsOf_afterLog, if_pos rfl]
    | complete now id' total violations compliant audit haudit =>
      obtain rfl : id' = id := htouches
      have hid := (id_completedAudit now total violations compliant audit).trans
        (id_of_audit? haudit)
      exact .inl ⟨Option.isSome_of_eq_some (audit?_afterSettle haudit hid), .inl rfl⟩
    | fail now id' reason audit _ haudit =>
      obtain rfl : id' = id := htouches
      have hid := (id_failedAudit now reason audit).trans (id_of_audit? haudit)
      exact .inl ⟨Option.isSome_of_eq_some (audit?_afterSettle haudit hid), .inl rfl⟩
    | delete id' =>
      obtain rfl : id' = id := htouches
      exact .inr ⟨rfl, audit?_afterDelete, violationsOf_afterDelete⟩
  · exact .inl ⟨Option.isSome_of_eq_some (h.audit?_eq htouches hfound),
      .inl (h.violationsOf_eq htouches)⟩

/-! ### Leaving the pending state -/

/-- An audit that is pending after a call was so before, unless the call has opened it. -/
theorem Effect.isPending_of (h : s.Effect c s') (hc : ∀ repositoryId, c ≠ .createAudit repositoryId)
    (hpending : s'.IsPending id) : s.IsPending id := by
  obtain ⟨b, hb, hstatus⟩ := hpending
  -- To settle an audit changes what is found only under its own identity.
  have hsettle : ∀ {id' : String} {audit settled : Audit}, s.audit? id' = some audit →
      settled.id = audit.id → settled.status ≠ .pending →
      (s.afterSettle id' settled).audit? id = some b → s.IsPending id := by
    intro id' audit settled haudit hid hsettled hb
    have hid' : settled.id = id' := hid.trans (id_of_audit? haudit)
    by_cases heq : id = id'
    · rw [heq, audit?_afterSettle haudit hid'] at hb
      exact absurd (Option.some.inj hb ▸ hstatus) hsettled
    · rw [audit?_afterSettle_of_ne hid' heq] at hb
      exact ⟨b, hb, hstatus⟩
  cases h with
  | none | upsert | log => exact ⟨b, hb, hstatus⟩
  | create now repositoryId => exact absurd rfl (hc repositoryId)
  | complete now id' total violations compliant audit haudit =>
    exact hsettle haudit (id_completedAudit ..) nofun hb
  | fail now id' reason audit _ haudit => exact hsettle haudit (id_failedAudit ..) nofun hb
  | delete id' =>
    by_cases heq : id = id'
    · rw [heq, audit?_afterDelete] at hb
      cases hb
    · rw [audit?_afterDelete_of_ne heq] at hb
      exact ⟨b, hb, hstatus⟩

/-- An audit that is pending after a call was so before, unless a new audit has got its identity. -/
theorem isPending_of_runOn {c : TimedCall} (hnew : ∀ repositoryId audit,
      (⟨.store c.call, (runOn c.op s).1⟩ : Exchange) =
        ⟨.store (.createAudit repositoryId), .ok audit⟩ → audit.id ≠ id)
    (hpending : (runOn c.op s).2.IsPending id) : s.IsPending id := by
  by_cases hc : ∃ repositoryId, c.call = .createAudit repositoryId
  · obtain ⟨time, call⟩ := c
    obtain ⟨repositoryId, rfl⟩ := hc
    rcases hrun : runOn (createAudit time repositoryId) s with ⟨e | audit, s₁⟩
    · have hfailed : runOn ((StoreCall.createAudit repositoryId).op time) s = (.error e, s₁) := hrun
      obtain rfl := StoreCall.eq_of_runOn_error hfailed
      have hsame : (runOn (TimedCall.op ⟨time, .createAudit repositoryId⟩) s₁).2 = s₁ :=
        congrArg Prod.snd hrun
      rwa [hsame] at hpending
    · have hne := hnew repositoryId audit
        (congrArg (Exchange.mk (.store (.createAudit repositoryId))) (congrArg Prod.fst hrun))
      have hafter : (runOn (TimedCall.op ⟨time, .createAudit repositoryId⟩) s).2 = s₁ :=
        congrArg Prod.snd hrun
      obtain ⟨-, -, rfl, rfl⟩ := createAudit_ok_iff.1 hrun
      rw [hafter] at hpending
      obtain ⟨b, hb, hstatus⟩ := hpending
      rw [audit?_afterCreate, if_neg hne, Option.or_none] at hb
      exact ⟨b, hb, hstatus⟩
  · exact (effect_runOn s c).isPending_of (fun r h => hc ⟨r, h⟩) hpending

/-- The store after one more call of a history. -/
theorem after_take_succ {history : List TimedCall} {place : Nat} {c : TimedCall}
    (hc : history[place]? = some c) :
    s.after (history.take (place + 1)) = (runOn c.op (s.after (history.take place))).2 := by
  rw [List.take_add_one, hc, after_append]
  rfl

/-- The exchange at a place of a history. -/
theorem record_getElem? {history : List TimedCall} {place : Nat} :
    (s.record history)[place]? = history[place]?.map fun c =>
      ⟨.store c.call, (runOn c.op (s.after (history.take place))).1⟩ := by
  induction history generalizing s place with
  | nil => rfl
  | cons c rest ih =>
    cases place with
    | zero => rfl
    | succ place => exact ih

/-- An identity under which an audit was left is never again that of a pending audit. -/
theorem not_isPending_after_leaving {history : List TimedCall} (hnew : s.OpensNew history)
    {place later : Nat} (hleaves : s.LeavesPending history id place) (hlater : place < later) :
    ¬ (s.after (history.take later)).IsPending id := by
  induction hlater with
  | refl => exact hleaves.2
  | @step later hlater ih =>
    have hplace : place < later := hlater
    rcases hc : history[later]? with _ | c
    · -- The history is over.
      have hover : history.take (later + 1) = history.take later := by
        rw [List.take_add_one, hc, Option.toList_none, List.append_nil]
      rwa [hover]
    · rw [after_take_succ hc]
      refine mt (isPending_of_runOn fun repositoryId audit hopened hid => ?_) ih
      have hrecord : (s.record history)[later]? =
          some ⟨.store (.createAudit repositoryId), .ok audit⟩ := by
        rw [record_getElem?, hc, Option.map_some, hopened]
      obtain ⟨b, hb, -⟩ := hleaves.1
      rw [← hid, hnew later repositoryId audit hrecord place (by omega)] at hb
      cases hb

/-- Under one identity an audit is left at most once. -/
theorem leavesPending_unique {history : List TimedCall} (hnew : s.OpensNew history)
    {place place' : Nat} (h : s.LeavesPending history id place)
    (h' : s.LeavesPending history id place') : place = place' := by
  rcases Nat.lt_trichotomy place place' with hlt | heq | hlt
  · exact absurd h'.1 (not_isPending_after_leaving hnew h hlt)
  · exact heq
  · exact absurd h.1 (not_isPending_after_leaving hnew h' hlt)

/-- Once an audit is settled, no history that does not drop it changes the audit or its violations. A
call leaves a pending audit there, with its violations or with one more at the end, or it drops the
audit with all of them. In no history is an audit left twice. -/
theorem frozen_after_settling (s : Store) (hdistinct : (s.audits.map Audit.id).Nodup) :
    (∀ a ∈ s.audits, a.status ≠ .pending → ∀ history, ¬ s.Drops history a.id →
      (s.after history).audit? a.id = some a ∧
        (s.after history).violationsOf a.id = s.violationsOf a.id) ∧
    (∀ a ∈ s.audits, a.status = .pending → ∀ c : TimedCall,
      ((runOn c.op s).2.audit? a.id).isSome ∧
          ((runOn c.op s).2.violationsOf a.id = s.violationsOf a.id ∨
            ∃ v, (runOn c.op s).2.violationsOf a.id = s.violationsOf a.id ++ [v]) ∨
        c.call = .deleteAudit a.id ∧ (runOn c.op s).2.audit? a.id = none ∧
          (runOn c.op s).2.violationsOf a.id = []) ∧
    ∀ history, s.OpensNew history → ∀ id place place', s.LeavesPending history id place →
      s.LeavesPending history id place' → place = place' := by
  refine ⟨fun a ha hsettled history hkept => ?_, fun a ha _ c => ?_, fun history hnew id _ _ => ?_⟩
  · exact frozen_after (audit?_of_mem hdistinct ha) hsettled hkept
  · exact (effect_runOn s c).grows (audit?_of_mem hdistinct ha)
  · exact leavesPending_unique hnew

section Pair

/-- An audit that is completed. -/
def completedOne : Audit where
  id := "1111111111111111111111111111111111111111111111111111111111111111"
  repositoryId := "0000000000000000000000000000000000000000000000000000000000000000"
  status := .completed
  startedAt := ⟨0, 0, 0⟩
  completedAt := some ⟨0, 1, 0⟩

/-- An audit that is pending. -/
def pendingOne : Audit where
  id := "2222222222222222222222222222222222222222222222222222222222222222"
  repositoryId := "0000000000000000000000000000000000000000000000000000000000000000"
  startedAt := ⟨0, 0, 0⟩

/-- A store with the two. -/
def pairStore : Store where
  audits := [completedOne, pendingOne]

/-- The pending audit is failed, and so would be the completed one. -/
def pairHistory : List TimedCall :=
  [⟨⟨0, 2, 0⟩, .failAudit pendingOne.id "stopped"⟩,
    ⟨⟨0, 3, 0⟩, .failAudit completedOne.id "stopped"⟩]

/-- A completed audit stays so where a pending one beside it is failed, and that one is left by the
first call and by no other. -/
theorem frozen_after_settling_pair :
    (pairStore.after pairHistory).audit? completedOne.id = some completedOne ∧
      ((runOn (TimedCall.op ⟨⟨0, 2, 0⟩, .failAudit pendingOne.id "stopped"⟩) pairStore).2.audit?
        pendingOne.id).isSome ∧
      pairStore.LeavesPending pairHistory pendingOne.id 0 ∧
      ∀ place, pairStore.LeavesPending pairHistory pendingOne.id place → place = 0 := by
  have hdistinct : (pairStore.audits.map Audit.id).Nodup := by decide
  have hkept : ¬ pairStore.Drops pairHistory completedOne.id := by
    intro hdrops
    rcases List.mem_cons.1 hdrops with h | h
    · cases h
    · cases List.mem_singleton.1 h
  have hnew : pairStore.OpensNew pairHistory := by
    rintro (_ | _ | place) repositoryId audit hopened <;> cases hopened
  have hleaves : pairStore.LeavesPending pairHistory pendingOne.id 0 := by
    refine ⟨⟨pendingOne, by decide, rfl⟩, ?_⟩
    rintro ⟨a, hfound, hpending⟩
    have hfailed : (pairStore.after (pairHistory.take 1)).audit? pendingOne.id =
        some (failedAudit ⟨0, 2, 0⟩ "stopped" pendingOne) := by decide +kernel
    rw [hfailed] at hfound
    rw [← Option.some.inj hfound] at hpending
    cases hpending
  obtain ⟨hfrozen, hgrows, honce⟩ := frozen_after_settling pairStore hdistinct
  refine ⟨(hfrozen completedOne (by decide) (by decide) pairHistory hkept).1, ?_, hleaves,
    fun place h => honce pairHistory hnew pendingOne.id place 0 h hleaves⟩
  rcases hgrows pendingOne (by decide) rfl ⟨⟨0, 2, 0⟩, .failAudit pendingOne.id "stopped"⟩ with
    h | ⟨h, -⟩
  · exact h.1
  · cases h

end Pair

end SourceAudit.Store
