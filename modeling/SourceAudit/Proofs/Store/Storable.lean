import SourceAudit.Proofs.Store.Document
import SourceAudit.Proofs.Store.Frame
import SourceAudit.Proofs.Store.Outcome

/-!
# Stores that files can hold

A call with numbers of 64 bits, made at a time that a clock can show, leaves a storable store
storable (`Store.Storable.runOn`).

Files serve a store at a path if no step of saving or loading it fails (`StoreFile.Serves`). A call on
the store is then the operation behind it, and the file stands for the store between calls, so that
opening it anew changes nothing.
-/

/-! ## Stores stay storable -/

namespace SourceAudit

/-- The numbers that a call is given have 64 bits. -/
def StoreCall.Fits : StoreCall → Prop
  | logViolation v => ∀ n ∈ v.lineNumber, n < Decimal.wordCount
  | completeAudit _ total violations compliant =>
    total < Decimal.wordCount ∧ violations < Decimal.wordCount ∧ compliant < Decimal.wordCount
  | _ => True

/-- The call is one that the program can make: its numbers have 64 bits, and its time is one that a
clock can show. -/
structure TimedCall.Fits (c : TimedCall) : Prop where
  time : c.time.IsValid
  call : c.call.Fits

namespace Store

variable {s : Store}

theorem nextNumber_lt (s : Store) : s.nextNumber < Decimal.wordCount :=
  Nat.mod_lt _ (by decide)

namespace Storable

theorem repository (h : s.Storable) {id : String} {r : Repository} (hr : s.repository? id = some r) :
    r.Storable :=
  h.repositories r (List.mem_of_find?_eq_some hr)

theorem audit (h : s.Storable) {id : String} {a : Audit} (ha : s.audit? id = some a) : a.Storable :=
  h.audits a (List.mem_of_find?_eq_some ha)

variable {now : Instant}

/-- A repository is recorded with instants that a clock can show. -/
theorem nextRepository (h : s.Storable) (hnow : now.IsValid) (owner name url : String) :
    (s.nextRepository now owner name url).Storable := by
  rw [Store.nextRepository]
  split
  next known hknown => exact ⟨(h.repository hknown).createdAt, hnow⟩
  next => exact ⟨hnow, hnow⟩

theorem afterUpsert (h : s.Storable) (hnow : now.IsValid) (owner name url : String) :
    (s.afterUpsert now owner name url).Storable := by
  have hnext := h.nextRepository hnow owner name url
  refine ⟨fun r hr => ?_, h.audits, h.violations, h.sequence⟩
  rw [Store.afterUpsert] at hr
  dsimp only at hr
  split at hr
  · rcases mem_modifyFirst hr with hr | rfl
    · exact h.repositories r hr
    · exact hnext
  · rcases List.mem_append.1 hr with hr | hr
    · exact h.repositories r hr
    · rw [List.mem_singleton.1 hr]
      exact hnext

theorem afterCreate (h : s.Storable) (hnow : now.IsValid) (repositoryId : String) :
    (s.afterCreate now repositoryId).Storable := by
  refine ⟨h.repositories, fun a ha => ?_, h.violations, s.nextNumber_lt⟩
  rcases List.mem_append.1 ha with ha | ha
  · exact h.audits a ha
  · rw [List.mem_singleton.1 ha]
    have hzero : 0 < Decimal.wordCount := by decide
    exact ⟨hzero, hzero, hzero, hnow, by rintro t ⟨⟩⟩

theorem afterLog (h : s.Storable) (hnow : now.IsValid) {v : NewViolation}
    (hline : ∀ n ∈ v.lineNumber, n < Decimal.wordCount) : (s.afterLog now v).Storable := by
  refine ⟨h.repositories, h.audits, fun v' hv => ?_, s.nextNumber_lt⟩
  rcases List.mem_append.1 hv with hv | hv
  · exact h.violations v' hv
  · rw [List.mem_singleton.1 hv]
    exact ⟨hline, hnow⟩

theorem afterSettle (h : s.Storable) (id : String) {settled : Audit} (hsettled : settled.Storable) :
    (s.afterSettle id settled).Storable := by
  refine ⟨h.repositories, fun a ha => ?_, h.violations, h.sequence⟩
  rcases mem_modifyFirst ha with ha | rfl
  · exact h.audits a ha
  · exact hsettled

theorem afterDelete (h : s.Storable) (id : String) : (s.afterDelete id).Storable :=
  ⟨h.repositories, fun a ha => h.audits a (List.mem_filter.1 ha).1,
    fun v hv => h.violations v (List.mem_filter.1 hv).1, h.sequence⟩

/-- What a call makes of a storable store is storable. -/
theorem runOn (h : s.Storable) {c : TimedCall} (hfits : c.Fits) :
    (Store.runOn c.op s).2.Storable := by
  obtain ⟨now, c⟩ := c
  obtain ⟨hnow, hcall⟩ := hfits
  rcases hrun : Store.runOn (c.op now) s with ⟨e | a, s'⟩
  · rw [TimedCall.op, hrun, StoreCall.eq_of_runOn_error hrun]
    exact h
  rw [TimedCall.op, hrun]
  dsimp only
  cases c with
  | upsertRepository owner name url =>
    obtain ⟨-, -, rfl⟩ := upsertRepository_ok_iff.1 hrun
    exact h.afterUpsert hnow owner name url
  | createAudit repositoryId =>
    obtain ⟨-, -, -, rfl⟩ := createAudit_ok_iff.1 hrun
    exact h.afterCreate hnow repositoryId
  | logViolation v =>
    obtain ⟨-, -, -, rfl⟩ := logViolation_ok_iff.1 hrun
    exact h.afterLog hnow hcall
  | completeAudit id total violations compliant =>
    obtain ⟨-, audit, hfound, -, rfl, rfl⟩ := completeAudit_ok_iff.1 hrun
    obtain ⟨htotal, hviolations, hcompliant⟩ := hcall
    have haudit := h.audit hfound
    exact h.afterSettle id ⟨htotal, hcompliant, hviolations, haudit.startedAt,
      by rintro t ⟨⟩; exact hnow⟩
  | failAudit id reason =>
    obtain ⟨-, -, audit, hfound, -, rfl, rfl⟩ := failAudit_ok_iff.1 hrun
    have haudit := h.audit hfound
    exact h.afterSettle id ⟨haudit.totalFiles, haudit.compliantFiles, haudit.violationCount,
      haudit.startedAt, by rintro t ⟨⟩; exact hnow⟩
  | deleteAudit id =>
    obtain ⟨-, -, rfl⟩ := deleteAudit_ok_iff.1 hrun
    split
    · exact h.afterDelete id
    · exact h
  | repository? | audit? | listAudits | listViolations =>
    obtain rfl := (Prod.mk.inj hrun).2
    exact h

end Storable

end Store

end SourceAudit

/-! ## Files that never fail a store -/

namespace SourceAudit

namespace StoreFile

variable {W : Type}

/-- What a store in a file needs of files that never fail it. As long as the surroundings are sound,
the directory of its path can be made, a file can be written under the temporary name and moved to
the path, and what was moved there last is read there. `held` says what the file at a path holds. -/
structure Serves (files : Files (StateM W)) (path : String) (sound : W → Prop)
    (held : W → String → Option Bytes) : Prop where
  makeParent : ∀ w, sound w → ∃ w', (makeParent files path).run w = (.ok (), w') ∧ sound w'
  write : ∀ w bytes, sound w → ∃ w', (files.write (temporaryPath path) bytes).run w = (.ok (), w') ∧
    sound w' ∧ held w' (temporaryPath path) = some bytes
  rename : ∀ w bytes, sound w → held w (temporaryPath path) = some bytes →
    ∃ w', (files.rename (temporaryPath path) path).run w = (.ok (), w') ∧ sound w' ∧
      held w' path = some bytes
  read : ∀ w, sound w → ∃ w',
    (files.read path).run w = ((held w path).elim (.error .notFound) .ok, w') ∧ sound w' ∧
      held w' path = held w path

/-- What is at a path stands for a store: its document, or nothing for the empty store. -/
def StandsFor (file : Option Bytes) (s : Store) : Prop :=
  file = none ∧ s = {} ∨ file = some s.document

/-- The store is loaded that a file stands for. -/
theorem loaded_of_standsFor {file : Option Bytes} {s : Store} (hs : s.Storable)
    (hfile : StandsFor file s) (path : String) :
    loaded path (file.elim (.error .notFound) .ok) = .ok s := by
  rcases hfile with ⟨rfl, rfl⟩ | rfl
  · rfl
  · simp only [Option.elim, loaded, Store.document, Text.Utf8.decode?_encode, String.ofList_toList,
      Store.parse?_render hs]

namespace Serves

variable {files : Files (StateM W)} {path : String} {sound : W → Prop}
  {held : W → String → Option Bytes} {s : Store} {w : W}

/-- The document of a store is saved. -/
theorem run_save (hfiles : Serves files path sound held) (hsound : sound w) (s : Store) :
    ∃ w', (save files path s).run w = (.ok (), w') ∧ sound w' ∧ held w' path = some s.document := by
  obtain ⟨w₁, hmade, h₁⟩ := hfiles.makeParent w hsound
  obtain ⟨w₂, hwritten, h₂, hheld⟩ := hfiles.write w₁ s.document h₁
  obtain ⟨w₃, hmoved, h₃⟩ := hfiles.rename w₂ s.document h₂ hheld
  refine ⟨w₃, ?_, h₃⟩
  rw [save_eq, run_bind_of_eq hmade]
  dsimp only
  rw [replace, Files.writeText, ← Store.document, run_bind_of_eq hwritten]
  exact hmoved

/-- The store is loaded that the file at its path stands for. -/
theorem run_load (hfiles : Serves files path sound held) (hsound : sound w) (hs : s.Storable)
    (hfile : StandsFor (held w path) s) :
    ∃ w', (load files path).run w = (.ok s, w') ∧ sound w' ∧ held w' path = held w path := by
  obtain ⟨w', hread, h⟩ := hfiles.read w hsound
  refine ⟨w', ?_, h⟩
  rw [load_eq, run_bind_of_eq hread, loaded_of_standsFor hs hfile]
  rfl

/-- A call on the store in a file has the answer and the effect of the operation behind it, and the
file stands for the store afterwards. -/
theorem run_perform (hfiles : Serves files path sound held) (hsound : sound w)
    (hfile : StandsFor (held w path) s) (c : TimedCall) :
    ∃ w', ((c.call.perform (gateway files.beside path (pure c.time)) :
        StateT Store (StateM W) _).run s).run w = (Store.runOn c.op s, w') ∧ sound w' ∧
      StandsFor (held w' path) (Store.runOn c.op s).2 := by
  by_cases hquestion : c.call.isQuestion = true
  · obtain ⟨a, ha⟩ := StoreCall.runOn_of_isQuestion c.time s hquestion
    refine ⟨w, ?_, hsound, ?_⟩
    · rw [StoreCall.run_perform_of_isQuestion c.time s files path hquestion]
      rfl
    · rw [TimedCall.op, ha]
      exact hfile
  · rw [Bool.not_eq_true] at hquestion
    rw [StoreCall.perform_of_not_isQuestion c.time files path hquestion, run_changeSaved,
      ← TimedCall.op]
    rcases hrun : Store.runOn c.op s with ⟨e | a, next⟩
    · obtain rfl := StoreCall.eq_of_runOn_error hrun
      exact ⟨w, rfl, hsound, hfile⟩
    · obtain ⟨w', hsaved, h', hheld⟩ := hfiles.run_save hsound next
      refine ⟨w', ?_, h', .inr hheld⟩
      dsimp only
      rw [run_bind_of_eq hsaved]
      rfl

/-- Opening the store anew changes nothing. -/
theorem run_reopen (hfiles : Serves files path sound held) (hsound : sound w) (hs : s.Storable)
    (hfile : StandsFor (held w path) s) :
    ∃ w', ((reopen files.beside path : StateT Store (StateM W) _).run s).run w =
        ((.ok (), s), w') ∧ sound w' ∧ StandsFor (held w' path) s := by
  obtain ⟨w', hload, h', hheld⟩ := hfiles.run_load hsound hs hfile
  refine ⟨w', ?_, h', hheld ▸ hfile⟩
  rw [StoreFile.run_reopen, run_bind_of_eq hload]
  rfl

end Serves

end StoreFile

end SourceAudit
