import SourceAudit.Files.Basic
import SourceAudit.Proofs.Instant.ReadBack
import SourceAudit.Proofs.Json.ReadBack
import SourceAudit.Proofs.Text.Utf8
import SourceAudit.Store.Document

/-!
# Store documents are read back

A store is storable if every number in it has 64 bits and every instant in it is one that a clock
can show. The document of a storable store is read as that store (`Store.parse?_render`).
-/

namespace SourceAudit

open Json (Fields IsExact)

/-- A name of a status is the name of that status. -/
theorem AuditStatus.ofName?_name (s : AuditStatus) : ofName? s.name = some s := by
  cases s <;> decide

theorem Category.ofName?_name (c : Category) : ofName? c.name = some c := by
  cases c <;> decide

theorem Severity.ofName?_name (s : Severity) : ofName? s.name = some s := by
  cases s <;> decide

namespace Json.Fields

variable {α : Type} {fields : List (String × Json)} {position : Nat} {key : String} {v : Json}
  {kind : Json → Option α}

/-- A field that an object has once is read from the value under its key. -/
theorem required_keyed (h : underKey fields key = [v]) :
    (keyed fields).required position key kind = kind v := by
  simp [required, value?, h]

theorem withDefault_keyed (default : α) (h : underKey fields key = [v]) :
    (keyed fields).withDefault position key kind default = kind v := by
  simp [withDefault, value?, h]

/-- A field that an object does not have is its default. -/
theorem withDefault_keyed_nil (default : α) (h : underKey fields key = []) :
    (keyed fields).withDefault position key kind default = some default := by
  simp [withDefault, value?, h]

/-- A field that is null without a value is read back. -/
theorem nullable_keyed {write : α → Json} {a : Option α}
    (h : underKey fields key = [(a.map write).getD .null])
    (hread : ∀ b ∈ a, write b ≠ .null ∧ kind (write b) = some b) :
    (keyed fields).nullable position key kind = some a := by
  cases a with
  | none => simp [nullable, value?, h]
  | some b =>
    obtain ⟨hnull, hkind⟩ := hread b rfl
    have hvalue : (keyed fields).value? position key = some (some (write b)) := by simp [value?, h]
    rw [nullable, hvalue, Option.bind_eq_bind, Option.bind_some]
    split
    · contradiction
    · contradiction
    · next heq => exact absurd (Option.some.inj heq) hnull
    · next heq => cases heq; rw [hkind]; rfl

end Json.Fields

namespace Repository

/-- The instants of a repository are ones that a clock can show. -/
structure Storable (r : Repository) : Prop where
  createdAt : r.createdAt.IsValid
  lastSyncedAt : r.lastSyncedAt.IsValid

theorem isExact_toJson (r : Repository) : r.toJson.IsExact := by
  simp [toJson, IsExact, Json.AreExactFields, Instant.toJson]

theorem ofJson?_toJson {r : Repository} (h : r.Storable) : ofJson? r.toJson = some r := by
  have hcreated : Instant.ofJson? r.createdAt.toJson = some r.createdAt :=
    Instant.parse?_render h.createdAt
  have hsynced : Instant.ofJson? r.lastSyncedAt.toJson = some r.lastSyncedAt :=
    Instant.parse?_render h.lastSyncedAt
  rw [ofJson?, toJson, Json.fields?, Option.bind_eq_bind, Option.bind_some]
  repeat rw [Fields.required_keyed rfl]
  simp only [Json.text?, hcreated, hsynced]
  rfl

end Repository

namespace Audit

/-- The counts of an audit have 64 bits, and its instants are ones that a clock can show. -/
structure Storable (a : Audit) : Prop where
  totalFiles : a.totalFiles < Decimal.wordCount
  compliantFiles : a.compliantFiles < Decimal.wordCount
  violationCount : a.violationCount < Decimal.wordCount
  startedAt : a.startedAt.IsValid
  completedAt : ∀ t ∈ a.completedAt, t.IsValid

theorem isExact_toJson {a : Audit} (h : a.Storable) : a.toJson.IsExact := by
  rw [toJson, IsExact, Json.areExactFields_iff]
  rcases a.completedAt with _ | t <;> rcases a.failureReason with _ | r <;>
    simp [IsExact, Instant.toJson, h.totalFiles, h.compliantFiles, h.violationCount]

theorem ofJson?_toJson {a : Audit} (h : a.Storable) : ofJson? a.toJson = some a := by
  have hcompleted : ∀ t ∈ a.completedAt, t.toJson ≠ .null ∧ Instant.ofJson? t.toJson = some t :=
    fun t ht => ⟨Json.noConfusion, Instant.parse?_render (h.completedAt t ht)⟩
  have hstarted : Instant.ofJson? a.startedAt.toJson = some a.startedAt :=
    Instant.parse?_render h.startedAt
  rw [ofJson?, toJson, Json.fields?, Option.bind_eq_bind, Option.bind_some]
  -- The reason is the only field that may be missing.
  rcases hreason : a.failureReason with _ | r
  · repeat rw [Fields.required_keyed rfl]
    rw [Fields.nullable_keyed rfl hcompleted, Fields.withDefault_keyed_nil none rfl]
    simp only [Json.text?, Json.natural?, Json.case?, AuditStatus.ofName?_name, hstarted, ← hreason]
    rfl
  · have hread : ofJson?.reason? (.text r) = some a.failureReason := by rw [hreason]; rfl
    repeat rw [Fields.required_keyed rfl]
    rw [Fields.nullable_keyed rfl hcompleted, Fields.withDefault_keyed none rfl]
    simp only [Json.text?, Json.natural?, Json.case?, AuditStatus.ofName?_name, hstarted, hread]
    rfl

end Audit

namespace Violation

/-- The line number of a violation has 64 bits, and its instant is one that a clock can show. -/
structure Storable (v : Violation) : Prop where
  lineNumber : ∀ n ∈ v.lineNumber, n < Decimal.wordCount
  createdAt : v.createdAt.IsValid

theorem isExact_toJson {v : Violation} (h : v.Storable) : v.toJson.IsExact := by
  have hline : ((v.lineNumber.map Json.natural).getD .null).IsExact := by
    rcases hn : v.lineNumber with _ | n
    · trivial
    · exact h.lineNumber n hn
  simp [toJson, IsExact, Json.AreExactFields, Instant.toJson, hline]

theorem ofJson?_toJson {v : Violation} (h : v.Storable) : ofJson? v.toJson = some v := by
  have hline : ∀ n ∈ v.lineNumber, Json.natural n ≠ .null ∧ Json.natural? (.natural n) = some n :=
    fun n _ => ⟨Json.noConfusion, rfl⟩
  have hcreated : Instant.ofJson? v.createdAt.toJson = some v.createdAt :=
    Instant.parse?_render h.createdAt
  rw [ofJson?, toJson, Json.fields?, Option.bind_eq_bind, Option.bind_some]
  repeat rw [Fields.required_keyed rfl]
  rw [Fields.nullable_keyed rfl hline]
  simp only [Json.text?, Json.case?, Category.ofName?_name, Severity.ofName?_name, hcreated]
  rfl

end Violation

namespace Json

/-- A list is read back if each of its items is. -/
theorem list?_map {α : Type} {kind : Json → Option α} {write : α → Json} {items : List α}
    (h : ∀ a ∈ items, kind (write a) = some a) : list? kind (.array (items.map write)) = some items := by
  rw [list?]
  induction items with
  | nil => rfl
  | cons a rest ih =>
    have hrest := ih fun b hb => h b (List.mem_cons_of_mem a hb)
    rw [List.map_cons, List.mapM_cons, h a List.mem_cons_self, hrest]
    rfl

end Json

namespace Store

/-- Every record of a store is storable, and its counter has 64 bits. -/
structure Storable (s : Store) : Prop where
  repositories : ∀ r ∈ s.repositories, r.Storable
  audits : ∀ a ∈ s.audits, a.Storable
  violations : ∀ v ∈ s.violations, v.Storable
  sequence : s.sequence < Decimal.wordCount

theorem storable_empty : ({} : Store).Storable :=
  ⟨List.forall_mem_nil _, List.forall_mem_nil _, List.forall_mem_nil _, by decide⟩

variable {s : Store}

theorem isExact_toJson (h : s.Storable) : s.toJson.IsExact := by
  have hrepositories : ∀ r ∈ s.repositories, r.toJson.IsExact := fun r _ => r.isExact_toJson
  have haudits : ∀ a ∈ s.audits, a.toJson.IsExact := fun a ha => Audit.isExact_toJson (h.audits a ha)
  have hviolations : ∀ v ∈ s.violations, v.toJson.IsExact :=
    fun v hv => Violation.isExact_toJson (h.violations v hv)
  simp [toJson, IsExact, Json.AreExactFields, Json.areExactItems_iff, h.sequence]
  exact ⟨hrepositories, haudits, hviolations⟩

theorem ofJson?_toJson (h : s.Storable) : ofJson? s.toJson = some s := by
  have hrepositories := Json.list?_map fun r hr => Repository.ofJson?_toJson (h.repositories r hr)
  have haudits := Json.list?_map fun a ha => Audit.ofJson?_toJson (h.audits a ha)
  have hviolations := Json.list?_map fun v hv => Violation.ofJson?_toJson (h.violations v hv)
  rw [ofJson?, toJson, Json.fields?, Option.bind_eq_bind, Option.bind_some,
    Fields.withDefault_keyed [] rfl, Fields.withDefault_keyed [] rfl,
    Fields.withDefault_keyed [] rfl, Fields.withDefault_keyed 0 rfl]
  simp only [Json.natural?, hrepositories, haudits, hviolations]
  rfl

/-- The document of a storable store is read as that store. -/
theorem parse?_render (h : s.Storable) : parse? s.render = some s := by
  rw [parse?, render, Json.parse?_render (isExact_toJson h), Option.bind_some, ofJson?_toJson h]

/-- The bytes of the document of a store. -/
def document (s : Store) : Bytes :=
  Text.Utf8.encode s.render.toList

end Store

end SourceAudit
