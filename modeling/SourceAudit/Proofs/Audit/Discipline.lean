import SourceAudit.Proofs.Audit.Protocol

/-!
# The next call of an audit

The protocol of an audit speaks of whole records. While an audit is under way, its record so far says
how far it has come (`Phase`), and that says which call on the store may come next: the whole records
keep to it (`disciplined_of_protocol`), and so does every record of an audit that can still be
brought to an end (`allows_of_leads`).
-/

namespace SourceAudit

open Dialogue Fetches

/-- How far an audit has come. -/
inductive Phase where
  | fresh
  /-- The repository is recorded. -/
  | known (repository : Repository)
  /-- The audit is open; it is as the store has last given it, with the violations recorded. -/
  | opened (audit : Audit) (logged : List Violation)

namespace Phase

/-- The phase after an exchange. -/
def advance : Phase → Exchange → Phase
  | fresh, ⟨.store (.upsertRepository ..), .ok repository⟩ => known repository
  | known _, ⟨.store (.createAudit _), .ok audit⟩ => opened audit []
  | opened audit logged, ⟨.store (.logViolation _), .ok v⟩ => opened audit (logged ++ [v])
  | opened _ logged, ⟨.store (.completeAudit ..), .ok audit⟩ => opened audit logged
  | opened _ logged, ⟨.store (.failAudit ..), .ok audit⟩ => opened audit logged
  | p, _ => p

/-- The phase after a record. -/
def after (p : Phase) (record : List Exchange) : Phase :=
  record.foldl advance p

/-- The calls on the store that may be made in a phase. -/
def allows : Phase → StoreCall → Prop
  | fresh, .upsertRepository .. => True
  | known repository, .createAudit id => id = repository.id
  | opened audit _, .logViolation v =>
    v.auditId = audit.id ∧ v.repositoryId = audit.repositoryId
  | opened audit _, .completeAudit id .. => id = audit.id
  | opened audit _, .failAudit id _ => id = audit.id
  | _, _ => False

/-- The calls on the store are allowed where they are made. -/
def Disciplined : Phase → List Exchange → Prop
  | _, [] => True
  | p, e :: rest => (∀ c, e.call = .store c → p.allows c) ∧ Disciplined (p.advance e) rest

/-- The violations that were recorded. -/
def logged : Phase → List Violation
  | opened _ logged => logged
  | _ => []

variable {p : Phase} {audit : Audit} {logged : List Violation}

@[simp] theorem after_nil : p.after [] = p := rfl

@[simp] theorem after_cons (e : Exchange) (rest : List Exchange) :
    p.after (e :: rest) = (p.advance e).after rest := rfl

@[simp] theorem after_append (first second : List Exchange) :
    p.after (first ++ second) = (p.after first).after second :=
  List.foldl_append

theorem disciplined_append (first second : List Exchange) :
    p.Disciplined (first ++ second) ↔ p.Disciplined first ∧ (p.after first).Disciplined second := by
  induction first generalizing p with
  | nil => simp [Disciplined]
  | cons e rest ih => simp only [List.cons_append, Disciplined, ih, after_cons, and_assoc]

/-- What is asked of the provider does not matter. -/
theorem advance_of_provider {e : Exchange} (h : e.isStore = false) : p.advance e = p := by
  rcases e with ⟨c, answer⟩
  cases c with
  | fetch | list => cases p <;> rfl
  | store c => simp [Exchange.isStore, Call.isStore] at h

/-- A record of calls on the provider is disciplined and leaves the phase as it is. -/
theorem disciplined_of_provider (p : Phase) {record : List Exchange}
    (h : ∀ e ∈ record, e.isStore = false) : p.Disciplined record ∧ p.after record = p := by
  induction record with
  | nil => exact ⟨trivial, rfl⟩
  | cons e rest ih =>
    have he : e.isStore = false := h e List.mem_cons_self
    obtain ⟨hrest, hafter⟩ := ih fun e' he' => h e' (List.mem_cons_of_mem e he')
    rw [Disciplined, after_cons, advance_of_provider he]
    refine ⟨⟨fun c hc => ?_, hrest⟩, hafter⟩
    rw [Exchange.isStore, hc] at he
    cases he

/-- Violations of an open audit may be recorded, and the phase collects those that are. -/
theorem disciplined_of_logged (logged : List Violation) {record : List Exchange}
    (h : ∀ e ∈ record, ∀ c, e.call = .store c → ∃ v, c = .logViolation v ∧
      v.auditId = audit.id ∧ v.repositoryId = audit.repositoryId) :
    (opened audit logged).Disciplined record ∧
      (opened audit logged).after record = opened audit (logged ++ acknowledged record) := by
  induction record generalizing logged with
  | nil => exact ⟨trivial, by simp [acknowledged]⟩
  | cons e rest ih =>
    have hrest := fun e' he' => h e' (List.mem_cons_of_mem e he')
    have he := h e List.mem_cons_self
    rcases e with ⟨c, answer⟩
    cases c with
    | fetch | list => exact ⟨⟨fun c hc => (by cases hc), (ih _ hrest).1⟩, (ih _ hrest).2⟩
    | store c =>
      -- The only calls on the store record violations, and those may be made while the audit is
      -- open.
      obtain ⟨v, rfl, hid, hrepository⟩ := he c rfl
      have hallowed : ∀ c', Call.store (.logViolation v) = .store c' →
          (opened audit logged).allows c' := by
        rintro c' ⟨⟩
        exact ⟨hid, hrepository⟩
      rcases answer with refusal | recorded
      · exact ⟨⟨hallowed, (ih _ hrest).1⟩, (ih _ hrest).2⟩
      · have hlogged : acknowledged (⟨.store (.logViolation v), .ok recorded⟩ :: rest) =
            recorded :: acknowledged rest := rfl
        rw [hlogged, List.append_cons]
        exact ⟨⟨hallowed, (ih _ hrest).1⟩, (ih _ hrest).2⟩

/-- A call that is allowed adds to the violations what it has recorded. -/
theorem logged_advance {c : StoreCall} (answer : Except StoreError c.Result) (hc : p.allows c) :
    (p.advance ⟨.store c, answer⟩).logged = p.logged ++ acknowledged [⟨.store c, answer⟩] := by
  cases p with
  | fresh =>
    cases c with
    | upsertRepository => rcases answer with e | repository <;> rfl
    | repository? | createAudit | audit? | listAudits | logViolation | listViolations
    | completeAudit | failAudit | deleteAudit => exact hc.elim
  | known repository =>
    cases c with
    | createAudit => rcases answer with e | audit <;> rfl
    | upsertRepository | repository? | audit? | listAudits | logViolation | listViolations
    | completeAudit | failAudit | deleteAudit => exact hc.elim
  | opened audit logged =>
    cases c with
    | logViolation =>
      rcases answer with e | recorded
      · exact (List.append_nil _).symm
      · rfl
    | completeAudit | failAudit =>
      rcases answer with e | settled <;> exact (List.append_nil _).symm
    | upsertRepository | repository? | createAudit | audit? | listAudits | listViolations
    | deleteAudit => exact hc.elim

/-- Along a disciplined record the phase collects the violations that are recorded. -/
theorem logged_after {record : List Exchange} (h : p.Disciplined record) :
    (p.after record).logged = p.logged ++ acknowledged record := by
  induction record generalizing p with
  | nil => exact (List.append_nil _).symm
  | cons e rest ih =>
    obtain ⟨hallows, hrest⟩ := h
    have hadvance : (p.advance e).logged = p.logged ++ acknowledged [e] := by
      rcases e with ⟨c, answer⟩
      cases c with
      | fetch | list =>
        rw [advance_of_provider rfl]
        exact (List.append_nil _).symm
      | store c => exact logged_advance answer (hallows c rfl)
    have happend : acknowledged (e :: rest) = acknowledged [e] ++ acknowledged rest :=
      acknowledged_append [e] rest
    rw [after_cons, ih hrest, hadvance, happend, List.append_assoc]

end Phase

namespace Audit

open Phase

variable {options : AuditOptions} {target : Target}

/-- The record of scanning files is one of recording violations of the audit. -/
theorem forall_calls_of_recorded {x : Examination} {audit : Audit} {files : List Exchange}
    (h : x.Recorded options target audit files) :
    ∀ e ∈ files, ∀ c, e.call = .store c → ∃ v, c = .logViolation v ∧
      v.auditId = audit.id ∧ v.repositoryId = audit.repositoryId := by
  intro e he c hc
  have hstore : e.isStore = true := by
    rw [Exchange.isStore, hc]
    rfl
  have hmem : e.call ∈ (files.filter (·.isStore)).map (·.call) :=
    List.mem_map_of_mem (List.mem_filter.2 ⟨he, hstore⟩)
  rw [h.logged] at hmem
  obtain ⟨v, hv, hcall⟩ := List.mem_map.1 hmem
  rw [hc] at hcall
  obtain rfl := Call.store.inj hcall
  exact ⟨v, rfl, x.forall_violations options audit v hv⟩

/-- The opening of an audit is disciplined. -/
theorem disciplined_opening (target : Target) (repository : Repository) (audit : Audit) :
    fresh.Disciplined (opening target repository audit) ∧
      fresh.after (opening target repository audit) = opened audit [] := by
  refine ⟨⟨?_, ?_, trivial⟩, rfl⟩
  · rintro c ⟨⟩
    trivial
  · rintro c ⟨⟩
    rfl

/-- The record of an examination, up to its completion, leaves the audit open with the violations
that were recorded. -/
theorem disciplined_examined (repository : Repository) (audit : Audit) {x : Examination}
    {located walked files : List Exchange}
    (hprovider : ∀ exchange ∈ located ++ walked, exchange.isStore = false)
    (hfiles : x.Recorded options target audit files) :
    fresh.Disciplined (opening target repository audit ++ located ++ walked ++ files) ∧
      fresh.after (opening target repository audit ++ located ++ walked ++ files) =
        opened audit (acknowledged files) := by
  obtain ⟨hopening, hopened⟩ := disciplined_opening target repository audit
  obtain ⟨hwalk, hwalked⟩ := disciplined_of_provider (opened audit []) hprovider
  obtain ⟨hlog, hlogged⟩ := disciplined_of_logged [] (forall_calls_of_recorded hfiles)
  rw [List.append_assoc (opening target repository audit), disciplined_append, disciplined_append,
    after_append _ files, after_append _ (located ++ walked), hopened, hwalked]
  exact ⟨⟨⟨hopening, hwalk⟩, hlog⟩, hlogged⟩

/-- The records of the protocol are disciplined. -/
theorem disciplined_of_protocol {record : List Exchange} {result : Except AuditError Report}
    (h : Protocol options target record result) : fresh.Disciplined record := by
  cases h with
  | refused e =>
    refine ⟨?_, trivial⟩
    rintro c ⟨⟩
    trivial
  | unopened repository e =>
    refine ⟨?_, ?_, trivial⟩
    · rintro c ⟨⟩
      trivial
    · rintro c ⟨⟩
      rfl
  | failed repository audit located e answer hlocated =>
    obtain ⟨hopening, hopened⟩ := disciplined_opening target repository audit
    obtain ⟨hlocate, hafter⟩ := disciplined_of_provider (opened audit []) hlocated
    rw [disciplined_append, disciplined_append, after_append, hopened, hafter]
    refine ⟨⟨hopening, hlocate⟩, ?_, trivial⟩
    rintro c ⟨⟩
    rfl
  | examined repository audit x located walked files answer hprovider _ _ hfiles =>
    obtain ⟨hexamined, hafter⟩ := disciplined_examined repository audit hprovider hfiles
    rw [disciplined_append, hafter]
    refine ⟨hexamined, ?_, trivial⟩
    rintro c ⟨⟩
    rfl

/-- The record of an audit that is under way is disciplined. -/
theorem disciplined_of_leads {schedule : Schedule} {record : List Exchange}
    {left : Dialogue (Except AuditError Report)}
    (h : (Audit.run provider gateway options schedule target).Leads record left) :
    fresh.Disciplined record := by
  -- What is left of the audit can be brought to some end, and then the record is a whole one.
  obtain ⟨rest, result, hrest⟩ := exists_ends left
  have hdisciplined := disciplined_of_protocol (protocol_of_ends (h.append hrest))
  exact ((disciplined_append ..).1 hdisciplined).1

/-- The phase of an audit that is under way allows the call on the store that comes next. -/
theorem allows_of_leads {schedule : Schedule} {record : List Exchange} {c : StoreCall}
    {next : (Call.store c).Answer → Dialogue (Except AuditError Report)}
    (h : (Audit.run provider gateway options schedule target).Leads record (.ask (.store c) next)) :
    (fresh.after record).allows c := by
  -- With any answer to the call the record is still one of the audit.
  have hdisciplined := disciplined_of_leads (h.concat (Call.store c).refusal)
  exact ((disciplined_append ..).1 hdisciplined).2.1 c rfl

/-- An audit that ends with a report has been completed with the number of its violations; the audit
and the violations are those of the report. -/
theorem phase_of_report {record : List Exchange} {report : Report}
    (h : Protocol options target record (.ok report)) :
    fresh.after record = opened report.audit report.violations ∧
      ∃ id total compliant,
        ⟨.store (.completeAudit id total report.violations.length compliant), .ok report.audit⟩ ∈
          record := by
  generalize hresult : Except.ok report = result at h
  cases h with
  | refused | unopened | failed => cases hresult
  | examined repository audit x located walked files answer hprovider _ _ hfiles =>
    obtain ⟨-, hafter⟩ := disciplined_examined repository audit hprovider hfiles
    rcases answer with e | completed
    · cases hresult
    · obtain rfl := Except.ok.inj hresult
      rw [after_append, hafter]
      exact ⟨rfl, _, _, _, List.mem_append_right _ (List.mem_singleton.2 rfl)⟩

end Audit

end SourceAudit
