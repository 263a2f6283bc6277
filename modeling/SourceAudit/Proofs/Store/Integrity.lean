import SourceAudit.Proofs.Store.Frame
import SourceAudit.Proofs.Store.Validation

/-!
# The integrity of a store

Whatever calls are made on a store that was empty, with whatever outcomes and at whatever times, its
records refer to one another as they should, each repository is there once under its own identity,
each audit has the shape of its state, and each violation is one that is fit to be recorded
(`integral_after`).
-/

namespace SourceAudit

namespace Audit

/-- No files and no violations are counted. -/
def Uncounted (a : Audit) : Prop :=
  a.totalFiles = 0 ∧ a.compliantFiles = 0 ∧ a.violationCount = 0

/-- The shape of an audit in each of its states: only a completed one has counts, only one that is
over has a time for that, and only a failed one has a reason, which is fit to be recorded. -/
def WellShaped (a : Audit) : Prop :=
  match a.status with
  | .pending => a.Uncounted ∧ a.completedAt = none ∧ a.failureReason = none
  | .completed => a.completedAt.isSome ∧ a.failureReason = none
  | .failed => a.Uncounted ∧ a.completedAt.isSome ∧ ∃ reason, a.failureReason = some reason ∧
      Validation.description "failure_reason" reason = .ok ()

/-- An audit and the repository that it is of. -/
def key (a : Audit) : String × String :=
  (a.id, a.repositoryId)

end Audit

namespace Store

/-- The records of a store are as they should be, alone and together. -/
structure Integral (s : Store) : Prop where
  /-- No two repositories have one identity. -/
  distinct : (s.repositories.map Repository.id).Nodup
  /-- The identity of a repository is that of its owner and name. -/
  named : ∀ r ∈ s.repositories, r.id = repositoryId r.owner r.name
  /-- An audit is of a repository that is there. -/
  audits_known : ∀ a ∈ s.audits, ∃ r ∈ s.repositories, r.id = a.repositoryId
  shaped : ∀ a ∈ s.audits, a.WellShaped
  /-- A violation is of an audit that is there, and of the repository of that audit. -/
  violations_known : ∀ v ∈ s.violations, ∃ a ∈ s.audits, a.id = v.auditId ∧
    a.repositoryId = v.repositoryId
  checked : ∀ v ∈ s.violations, Validation.newViolation v.toNewViolation = .ok ()

section ModifyFirst

variable {α β : Type} {p : α → Bool} {f : α → α}

/-- A view that is the same of the member before and after the change is the same of the list. -/
theorem map_modifyFirst {g : α → β} {l : List α} (h : ∀ a, l.find? p = some a → g (f a) = g a) :
    (modifyFirst p f l).map g = l.map g := by
  induction l with
  | nil => rfl
  | cons a rest ih =>
    rw [modifyFirst]
    by_cases ha : p a = true
    · rw [if_pos ha, List.map_cons, List.map_cons, h a (List.find?_cons_of_pos ha)]
    · rw [if_neg ha, List.map_cons, List.map_cons, ih fun b hb => h b ?_]
      rw [List.find?_cons_of_neg ha, hb]

end ModifyFirst

variable {s s' : Store} {now : Instant} {id : String} {a settled : Audit}

/-- The audit of a violation is there if its key is. -/
theorem exists_audit_iff {v : Violation} :
    (∃ a ∈ s.audits, a.id = v.auditId ∧ a.repositoryId = v.repositoryId) ↔
      (v.auditId, v.repositoryId) ∈ s.audits.map Audit.key := by
  simp only [List.mem_map, Audit.key, Prod.mk.injEq]

/-- To settle an audit leaves the keys of the audits. -/
theorem map_key_afterSettle (hfound : s.audit? id = some a) (hkey : settled.key = a.key) :
    (s.afterSettle id settled).audits.map Audit.key = s.audits.map Audit.key := by
  refine map_modifyFirst fun b hb => ?_
  rw [audit?, hb] at hfound
  rw [Option.some.inj hfound, hkey]

/-- To record a repository that is there leaves the identities of the repositories; a new one comes
at the end. -/
theorem map_id_afterUpsert (owner name url : String) :
    (s.afterUpsert now owner name url).repositories.map Repository.id =
      if (s.repository? (repositoryId owner name)).isSome then s.repositories.map Repository.id
      else s.repositories.map Repository.id ++ [repositoryId owner name] := by
  unfold afterUpsert
  split
  · refine map_modifyFirst fun r hr => ?_
    rw [id_nextRepository, id_of_repository? hr]
  · rw [List.map_append, List.map_singleton, id_nextRepository]

/-- The identity of a repository is not taken if none is found under it. -/
theorem not_mem_of_repository? (h : ¬ (s.repository? id).isSome) :
    id ∉ s.repositories.map Repository.id := by
  intro hid
  obtain ⟨r, hr, rfl⟩ := List.mem_map.1 hid
  exact h (List.find?_isSome.2 ⟨r, hr, beq_self_eq_true _⟩)

/-- A repository that is recorded keeps the names that it was first recorded under. -/
theorem named_nextRepository (h : ∀ r ∈ s.repositories, r.id = repositoryId r.owner r.name)
    (owner name url : String) :
    (s.nextRepository now owner name url).id = repositoryId (s.nextRepository now owner name url).owner
      (s.nextRepository now owner name url).name := by
  unfold nextRepository
  split
  · rename_i known hknown
    exact h known (List.mem_of_find?_eq_some hknown)
  · rfl

/-- An empty store has no records. -/
theorem integral_empty : Integral {} where
  distinct := List.nodup_nil
  named := List.forall_mem_nil _
  audits_known := List.forall_mem_nil _
  shaped := List.forall_mem_nil _
  violations_known := List.forall_mem_nil _
  checked := List.forall_mem_nil _

theorem Integral.afterUpsert (h : s.Integral) (owner name url : String) :
    (s.afterUpsert now owner name url).Integral := by
  have hids := @map_id_afterUpsert s now owner name url
  refine
    { distinct := ?_
      named := fun r hr => ?_
      audits_known := fun a ha => ?_
      shaped := h.shaped
      violations_known := h.violations_known
      checked := h.checked }
  · rw [hids]
    split
    · exact h.distinct
    · rename_i hnew
      have hfree := not_mem_of_repository? hnew
      refine List.nodup_append.2 ⟨h.distinct, by simp, fun id hid id' hid' heq => hfree ?_⟩
      rwa [← List.mem_singleton.1 hid', ← heq]
  · -- A repository is one from before or the one that is recorded.
    have hcases : r ∈ s.repositories ∨ r = s.nextRepository now owner name url := by
      rw [Store.afterUpsert] at hr
      dsimp only at hr
      split at hr
      · exact mem_modifyFirst hr
      · simpa using hr
    rcases hcases with hr | rfl
    · exact h.named r hr
    · exact named_nextRepository h.named owner name url
  · -- No identity of a repository gets lost.
    obtain ⟨r, hr, hid⟩ := h.audits_known a ha
    have hmem : r.id ∈ (s.afterUpsert now owner name url).repositories.map Repository.id := by
      rw [hids]
      split
      · exact List.mem_map_of_mem hr
      · exact List.mem_append_left _ (List.mem_map_of_mem hr)
    obtain ⟨r', hr', hid'⟩ := List.mem_map.1 hmem
    exact ⟨r', hr', hid'.trans hid⟩

theorem Integral.afterCreate (h : s.Integral) {repositoryId : String}
    (hknown : (s.repository? repositoryId).isSome) : (s.afterCreate now repositoryId).Integral where
  distinct := h.distinct
  named := h.named
  audits_known := by
    intro a ha
    rcases List.mem_append.1 ha with ha | ha
    · exact h.audits_known a ha
    · obtain rfl := List.mem_singleton.1 ha
      obtain ⟨r, hr⟩ := Option.isSome_iff_exists.1 hknown
      exact ⟨r, List.mem_of_find?_eq_some hr, id_of_repository? hr⟩
  shaped := by
    intro a ha
    rcases List.mem_append.1 ha with ha | ha
    · exact h.shaped a ha
    · obtain rfl := List.mem_singleton.1 ha
      exact ⟨⟨rfl, rfl, rfl⟩, rfl, rfl⟩
  violations_known := by
    intro v hv
    obtain ⟨a, ha, hkey⟩ := h.violations_known v hv
    exact ⟨a, List.mem_append_left _ ha, hkey⟩
  checked := h.checked

theorem Integral.afterLog (h : s.Integral) {v : NewViolation} {audit : Audit}
    (hvalid : Validation.newViolation v = .ok ()) (hfound : s.audit? v.auditId = some audit)
    (hrepository : audit.repositoryId = v.repositoryId) : (s.afterLog now v).Integral where
  distinct := h.distinct
  named := h.named
  audits_known := h.audits_known
  shaped := h.shaped
  violations_known := by
    intro v' hv
    rcases List.mem_append.1 hv with hv | hv
    · exact h.violations_known v' hv
    · obtain rfl := List.mem_singleton.1 hv
      exact ⟨audit, List.mem_of_find?_eq_some hfound, id_of_audit? hfound, hrepository⟩
  checked := by
    intro v' hv
    rcases List.mem_append.1 hv with hv | hv
    · exact h.checked v' hv
    · obtain rfl := List.mem_singleton.1 hv
      exact hvalid

/-- To settle an audit keeps the store integral if the audit keeps its key and is left in shape. -/
theorem Integral.afterSettle (h : s.Integral) (hfound : s.audit? id = some a)
    (hkey : settled.key = a.key) (hshaped : settled.WellShaped) :
    (s.afterSettle id settled).Integral where
  distinct := h.distinct
  named := h.named
  audits_known := by
    intro b hb
    rcases mem_modifyFirst hb with hb | rfl
    · exact h.audits_known b hb
    · obtain ⟨r, hr, hid⟩ := h.audits_known a (List.mem_of_find?_eq_some hfound)
      exact ⟨r, hr, hid.trans (congrArg Prod.snd hkey).symm⟩
  shaped := by
    intro b hb
    rcases mem_modifyFirst hb with hb | rfl
    · exact h.shaped b hb
    · exact hshaped
  violations_known := by
    intro v hv
    have hmem := exists_audit_iff.1 (h.violations_known v hv)
    rw [← map_key_afterSettle hfound hkey] at hmem
    exact exists_audit_iff.2 hmem
  checked := h.checked

theorem Integral.afterDelete (h : s.Integral) (id : String) : (s.afterDelete id).Integral where
  distinct := h.distinct
  named := h.named
  audits_known a ha := h.audits_known a (List.mem_filter.1 ha).1
  shaped a ha := h.shaped a (List.mem_filter.1 ha).1
  violations_known := by
    intro v hv
    -- A violation that is left is not of the audit that was dropped.
    obtain ⟨hv, hother⟩ := List.mem_filter.1 hv
    obtain ⟨a, ha, hid, hrepository⟩ := h.violations_known v hv
    exact ⟨a, List.mem_filter.2 ⟨ha, hid ▸ hother⟩, hid, hrepository⟩
  checked v hv := h.checked v (List.mem_filter.1 hv).1

/-- Every call keeps the store integral. -/
theorem Integral.effect {c : StoreCall} (h : s.Integral) (heffect : s.Effect c s') :
    s'.Integral := by
  cases heffect with
  | none => exact h
  | upsert now owner name url => exact h.afterUpsert owner name url
  | create now repositoryId hknown => exact h.afterCreate hknown
  | log now v audit hvalid hfound _ hrepository => exact h.afterLog hvalid hfound hrepository
  | complete now id total violations compliant audit hfound hpending =>
    -- The audit was pending, so it has no reason yet.
    have hshaped := h.shaped audit (List.mem_of_find?_eq_some hfound)
    rw [Audit.WellShaped, hpending] at hshaped
    exact h.afterSettle hfound rfl ⟨rfl, hshaped.2.2⟩
  | fail now id reason audit hreason hfound hpending =>
    -- The audit was pending, so it has no counts.
    have hshaped := h.shaped audit (List.mem_of_find?_eq_some hfound)
    rw [Audit.WellShaped, hpending] at hshaped
    exact h.afterSettle hfound rfl ⟨hshaped.1, rfl, reason, rfl, hreason⟩
  | delete id => exact h.afterDelete id

/-- Every history of a store that was empty leaves it integral. -/
theorem integral_after (history : List TimedCall) : (({} : Store).after history).Integral :=
  after_preserves Integral.effect integral_empty history

end Store

end SourceAudit
