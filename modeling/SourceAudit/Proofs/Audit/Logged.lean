import SourceAudit.Proofs.Audit.Protocol
import SourceAudit.Proofs.Store.Operation
import SourceAudit.Proofs.Store.Outcome
import SourceAudit.Proofs.Store.Validation

/-!
# What is recorded for a pending audit

Where a run has a store in memory to itself, its record says exactly what became of the store: the
calls on the store are its operations, one after the other, and nothing else touches it
(`replays_of_transcript`).

A store in memory that is asked to record violations for a pending audit records those that are fit
to be, in their order, and refuses the others without further effect. This is said of a record of
calls (`Store.Replays.logged`) and of the recording of the hits in a file (`Audit.run_logHits`).
-/

/-! ## Records of a store in memory -/

namespace SourceAudit

open Dialogue

namespace Store

/-- The record takes the store from one state to another: the operations behind the calls, at some
times, have the recorded results. -/
inductive Replays : Store → List Exchange → Store → Prop
  | nil (s : Store) : Replays s [] s
  | beside {s s' : Store} {e : Exchange} {record : List Exchange} :
    e.isStore = false → Replays s record s' → Replays s (e :: record) s'
  | call {s s₁ s' : Store} {c : StoreCall} {answer : Except StoreError c.Result}
    {record : List Exchange} (now : Instant) :
    runOn (c.op now) s = (answer, s₁) → Replays s₁ record s' →
    Replays s (⟨.store c, answer⟩ :: record) s'

variable {s s' : Store} {first second record : List Exchange}

/-- Records follow one another over a state between them. -/
theorem replays_append_iff :
    s.Replays (first ++ second) s' ↔ ∃ s₁ : Store, s.Replays first s₁ ∧ s₁.Replays second s' := by
  induction first generalizing s with
  | nil =>
    constructor
    · exact fun h => ⟨s, .nil s, h⟩
    · rintro ⟨s₁, ⟨⟩, h⟩
      exact h
  | cons e rest ih =>
    constructor
    · intro h
      cases h with
      | beside he h =>
        obtain ⟨s₁, hrest, hsecond⟩ := ih.1 h
        exact ⟨s₁, .beside he hrest, hsecond⟩
      | call now hrun h =>
        obtain ⟨s₁, hrest, hsecond⟩ := ih.1 h
        exact ⟨s₁, .call now hrun hrest, hsecond⟩
    · rintro ⟨s₁, hfirst, hsecond⟩
      cases hfirst with
      | beside he hrest => exact .beside he (ih.2 ⟨s₁, hrest, hsecond⟩)
      | call now hrun hrest => exact .call now hrun (ih.2 ⟨s₁, hrest, hsecond⟩)

/-- A single call is its operation. -/
theorem replays_singleton_iff {c : StoreCall} {answer : Except StoreError c.Result} :
    s.Replays [⟨.store c, answer⟩] s' ↔ ∃ now, runOn (c.op now) s = (answer, s') := by
  constructor
  · intro h
    cases h with
    | beside he => cases he
    | call now hrun hrest =>
      cases hrest
      exact ⟨now, hrun⟩
  · rintro ⟨now, hrun⟩
    exact .call now hrun (.nil s')

/-- Without a call on it the store stays as it is. -/
theorem Replays.eq_of_beside (h : s.Replays record s') (hrecord : ∀ e ∈ record, e.isStore = false) :
    s' = s := by
  induction h with
  | nil => rfl
  | beside _ _ ih => exact ih fun e he => hrecord e (List.mem_cons_of_mem _ he)
  | call => cases hrecord _ List.mem_cons_self

end Store

variable {W α : Type} {d : Dialogue α} {s s' : Store} {w w' : W} {a : α}

/-- A dialogue that is conducted beside a store has a transcript. -/
theorem exists_transcript_of_conduct {p : Provider (StateT Store (StateM W))}
    {g : Gateway (StateT Store (StateM W))}
    (h : ((d.conduct p g).run s).run w = ((a, s'), w')) :
    ∃ record, ((d.transcript p g).run s).run w = (((a, record), s'), w') := by
  rcases htranscript : ((d.transcript p g).run s).run w with ⟨⟨⟨b, record⟩, s₁⟩, w₁⟩
  rw [← fst_map_transcript, StateT.run_map, StateT.run_map, htranscript] at h
  cases h
  exact ⟨record, rfl⟩

/-- The record of a dialogue with a store in memory is one of the dialogue and takes the store to
where the dialogue leaves it. -/
theorem replays_of_transcript {p : Provider (StateM W)} {clock : StateM W Instant}
    {record : List Exchange}
    (h : ((d.transcript (p.lift besideStore) (.inMemory (besideStore clock))).run s).run w =
      (((a, record), s'), w')) :
    d.Ends record a ∧ s.Replays record s' := by
  induction d generalizing s w a record with
  | done b =>
    obtain ⟨⟨⟨rfl, rfl⟩, rfl⟩, rfl⟩ := by simpa [transcript] using h
    exact ⟨.refl _, .nil _⟩
  | ask c next ih =>
    -- Whatever the answer to the call is, the rest of the dialogue goes on from it.
    have hgo : ∀ {answer : c.Answer} {s₁ : Store} {w₁ : W},
        ((c.perform (p.lift besideStore) (.inMemory (besideStore clock))).run s).run w =
          ((answer, s₁), w₁) →
        ∃ rest, record = ⟨c, answer⟩ :: rest ∧ (next answer).Ends rest a ∧
          s₁.Replays rest s' := by
      intro answer s₁ w₁ hanswer
      rw [transcript, run_bind_of_run hanswer] at h
      rcases hnext : (((next answer).transcript (p.lift besideStore)
        (.inMemory (besideStore clock))).run s₁).run w₁ with ⟨⟨⟨b, rest⟩, s₂⟩, w₂⟩
      rw [run_bind_of_run hnext] at h
      obtain ⟨⟨⟨rfl, rfl⟩, rfl⟩, rfl⟩ := by simpa using h
      exact ⟨rest, rfl, ih answer hnext⟩
    cases c with
    | fetch owner repo path branch =>
      obtain ⟨rest, rfl, hends, hreplays⟩ := hgo rfl
      exact ⟨.ask hends, .beside rfl hreplays⟩
    | list owner repo path =>
      obtain ⟨rest, rfl, hends, hreplays⟩ := hgo rfl
      exact ⟨.ask hends, .beside rfl hreplays⟩
    | store c =>
      obtain ⟨now, w₁, hrun⟩ := Gateway.perform_inMemory clock c s w
      obtain ⟨rest, rfl, hends, hreplays⟩ := hgo hrun
      exact ⟨.ask hends, .call now rfl hreplays⟩

end SourceAudit

/-! ## What is recorded for a pending audit -/

namespace SourceAudit

open Dialogue Validation

/-- A violation that a store has refused in the course of a record was not fit to be recorded. -/
def RefusesUnfit (record : List Exchange) : Prop :=
  ∀ v e, ⟨.store (.logViolation v), .error e⟩ ∈ record → newViolation v ≠ .ok ()

namespace Store

variable {s s' : Store} {audit : Audit} {record : List Exchange} {vs : List NewViolation}

/-- One violation is recorded for a pending audit if it is fit to be, and nothing happens else. -/
theorem runOn_logViolation {now : Instant} {v : NewViolation}
    (hfound : s.audit? audit.id = some audit) (hpending : audit.status = .pending)
    (hv : v.auditId = audit.id ∧ v.repositoryId = audit.repositoryId) :
    (newViolation v = .ok () ∧
        runOn (logViolation now v) s = (.ok (s.nextViolation now v), s.afterLog now v)) ∨
      newViolation v ≠ .ok () ∧ ∃ e, runOn (logViolation now v) s = (.error e, s) := by
  rcases hfit : newViolation v with e | u
  · right
    refine ⟨by simp, .invalid e, ?_⟩
    rw [run_logViolation, hfit]
  · left
    refine ⟨rfl, logViolation_ok_iff.2 ⟨hfit, ⟨audit, ?_, hpending, hv.2.symm⟩, rfl, rfl⟩⟩
    rw [hv.1]
    exact hfound

/-- What is recorded for a pending audit in the course of calls that record violations: of the
violations those that are fit to be, in their order. -/
theorem Replays.logged (h : s.Replays record s') (hfound : s.audit? audit.id = some audit)
    (hpending : audit.status = .pending)
    (hvs : ∀ v ∈ vs, v.auditId = audit.id ∧ v.repositoryId = audit.repositoryId)
    (hcalls : (record.filter (·.isStore)).map (·.call) =
      vs.map fun v => .store (.logViolation v)) :
    s'.audit? audit.id = some audit ∧
      (acknowledged record).map (·.toNewViolation) = vs.filter (newViolation · = .ok ()) ∧
      s'.violationsOf audit.id = s.violationsOf audit.id ++ acknowledged record := by
  induction h generalizing vs with
  | nil s =>
    obtain rfl : vs = [] := by simpa using hcalls
    exact ⟨hfound, rfl, (List.append_nil _).symm⟩
  -- What is asked of others is no part of it.
  | @beside s s' e record he _ ih =>
    have hnone : acknowledged (e :: record) = acknowledged record := by
      rw [← acknowledged_filter_isStore, List.filter_cons_of_neg (by simp [he]),
        acknowledged_filter_isStore]
    rw [List.filter_cons_of_neg (by simp [he])] at hcalls
    rw [hnone]
    exact ih hfound hvs hcalls
  | @call s s₁ s' c answer record now hrun _ ih =>
    have hstore : Exchange.isStore ⟨.store c, answer⟩ = true := rfl
    rw [List.filter_cons_of_pos hstore, List.map_cons] at hcalls
    obtain ⟨v, rest, rfl, hcall, hrest⟩ := List.map_eq_cons_iff.1 hcalls.symm
    obtain ⟨hv, hvs⟩ := List.forall_mem_cons.1 hvs
    cases hcall
    -- The first of the violations is recorded or refused; the audit is found pending in either
    -- case.
    rcases runOn_logViolation hfound hpending hv with ⟨hfit, hlog⟩ | ⟨hunfit, e, hlog⟩
    · obtain ⟨rfl, rfl⟩ := Prod.mk.inj (hrun.symm.trans hlog)
      obtain ⟨hfound', hmap, hviolations⟩ := ih hfound hvs hrest.symm
      refine ⟨hfound', ?_, ?_⟩
      · rw [List.filter_cons_of_pos (by simpa using hfit), ← hmap]
        rfl
      · rw [hviolations, violationsOf_afterLog, if_pos hv.1, List.append_assoc]
        rfl
    · obtain ⟨rfl, rfl⟩ := Prod.mk.inj (hrun.symm.trans hlog)
      obtain ⟨hfound', hmap, hviolations⟩ := ih hfound hvs hrest.symm
      refine ⟨hfound', ?_, hviolations⟩
      rw [List.filter_cons_of_neg (by simpa using hunfit), ← hmap]
      rfl

/-- Whatever is refused in the course of such calls is not fit to be recorded. -/
theorem Replays.refusesUnfit (h : s.Replays record s') (hfound : s.audit? audit.id = some audit)
    (hpending : audit.status = .pending)
    (hvs : ∀ v ∈ vs, v.auditId = audit.id ∧ v.repositoryId = audit.repositoryId)
    (hcalls : (record.filter (·.isStore)).map (·.call) =
      vs.map fun v => .store (.logViolation v)) : RefusesUnfit record := by
  intro v e he
  obtain ⟨first, rest, rfl⟩ := List.append_of_mem he
  have hstore : Exchange.isStore ⟨.store (.logViolation v), .error e⟩ = true := rfl
  rw [List.filter_append, List.map_append, List.filter_cons_of_pos hstore, List.map_cons] at hcalls
  obtain ⟨before, after, rfl, hbefore, hafter⟩ := List.map_eq_append_iff.1 hcalls.symm
  obtain ⟨_, later, rfl, hcall, -⟩ := List.map_eq_cons_iff.1 hafter
  cases hcall
  -- The calls before it leave the audit pending.
  obtain ⟨s₁, hfirst, hrest⟩ := replays_append_iff.1 h
  obtain ⟨hfound', -, -⟩ := hfirst.logged hfound hpending
    (fun u hu => hvs u (List.mem_append_left _ hu)) hbefore.symm
  cases hrest with
  | beside he => cases he
  | call now hrun _ =>
    intro hfit
    have hv := hvs v (List.mem_append_right _ List.mem_cons_self)
    rw [← hv.1] at hfound'
    cases hrun.symm.trans
      (logViolation_ok_iff.2 ⟨hfit, ⟨audit, hfound', hpending, hv.2.symm⟩, rfl, rfl⟩)

/-- An audit is opened pending and without violations, under well-formed identities. -/
theorem Replays.opened {target : Target} {repository : Repository}
    (h : s.Replays (Audit.opening target repository audit) s') (hunused : s.Unused audit.id) :
    s'.audit? audit.id = some audit ∧ audit.status = .pending ∧ s'.violationsOf audit.id = [] ∧
      id "audit_id" audit.id = .ok () ∧ id "repository_id" audit.repositoryId = .ok () := by
  cases h with
  | beside he => cases he
  | call now hupsert hcreate =>
    obtain ⟨later, hcreate⟩ := replays_singleton_iff.1 hcreate
    obtain ⟨-, rfl, rfl⟩ := upsertRepository_ok_iff.1 hupsert
    obtain ⟨hrepository, -, rfl, rfl⟩ := createAudit_ok_iff.1 hcreate
    exact ⟨audit?_afterCreate_of_unused hunused, rfl, hunused.2, id_deriveId _ _, hrepository⟩

end Store

namespace Audit

variable {W : Type} (clock : StateM W Instant) {audit : Audit}

/-- The hits in a file are recorded as far as the store takes them, and the audit is found as
before. -/
theorem run_logHits {s : Store} (w : W) (hfound : s.audit? audit.id = some audit)
    (hpending : audit.status = .pending) (path : String) (hits : List Hit) :
    ∃ logged s' w', ((logHits (Gateway.inMemory (besideStore clock)) audit path hits).run s).run w =
        ((logged, s'), w') ∧
      s'.audit? audit.id = some audit ∧
      logged.map (·.toNewViolation) =
        (hits.map (.ofHit audit path)).filter (newViolation · = .ok ()) ∧
      s'.violationsOf audit.id = s.violationsOf audit.id ++ logged := by
  -- The recording is a dialogue that asks the provider for nothing, so any will do.
  let nothing : Provider (StateM W) :=
    ⟨fun _ _ _ _ => pure (.ok none), fun _ _ _ => pure (.ok [])⟩
  rw [← conduct_logHits (p := nothing.lift besideStore)]
  rcases hrun : (((logHits gateway audit path hits).conduct (nothing.lift besideStore)
    (.inMemory (besideStore clock))).run s).run w with ⟨⟨logged, s'⟩, w'⟩
  obtain ⟨record, htranscript⟩ := exists_transcript_of_conduct hrun
  obtain ⟨hends, hreplays⟩ := replays_of_transcript htranscript
  obtain ⟨hcalls, rfl⟩ := ends_logHits hends
  have hstore : record.filter (·.isStore) = record :=
    List.filter_eq_self.2 ((asks_logHits audit path hits).forall_mem hends)
  have hvs : ∀ v ∈ hits.map (NewViolation.ofHit audit path),
      v.auditId = audit.id ∧ v.repositoryId = audit.repositoryId := by
    simp [NewViolation.ofHit]
  obtain ⟨hfound', hmap, hviolations⟩ := hreplays.logged hfound hpending hvs
    (by rw [hstore, hcalls, List.map_map]; rfl)
  exact ⟨_, s', w', rfl, hfound', hmap, hviolations⟩

end Audit

end SourceAudit
