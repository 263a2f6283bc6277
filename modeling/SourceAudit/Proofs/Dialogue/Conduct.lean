import SourceAudit.Proofs.Dialogue.Basic
import SourceAudit.Proofs.Store.Beside

/-!
# Dialogues with a provider and a store

A dialogue is conducted with a provider and a gateway to a store by making its calls on them. A
provider and a gateway can keep a record of what they are asked and answer; conducting a dialogue
with such ones records one of the paths through it (`run_conduct_recorded`, `ends_of_transcript`).

In surroundings that have a state, a record is the course of a dialogue: each of its calls was made
where the one before it had ended and got the recorded answer (`Course`). So what holds of every call
that is made there holds of every exchange in a record, and every run has a record with its course
(`exists_course`).
-/

namespace SourceAudit

variable {m : Type → Type}

/-- Makes a call on a store. -/
def StoreCall.perform (g : Gateway m) : (c : StoreCall) → m (Except StoreError c.Result)
  | upsertRepository owner name url => g.upsertRepository owner name url
  | repository? id => g.repository? id
  | createAudit repositoryId => g.createAudit repositoryId
  | audit? id => g.audit? id
  | listAudits repositoryId => g.listAudits repositoryId
  | logViolation v => g.logViolation v
  | listViolations auditId => g.listViolations auditId
  | completeAudit auditId total violations compliant =>
    g.completeAudit auditId total violations compliant
  | failAudit auditId reason => g.failAudit auditId reason
  | deleteAudit auditId => g.deleteAudit auditId

/-- Makes a call. -/
def Call.perform (p : Provider m) (g : Gateway m) : (c : Call) → m c.Answer
  | fetch owner repo path branch => p.fetch owner repo path branch
  | list owner repo path => p.list owner repo path
  | store c => c.perform g

variable [Monad m]

/-- Makes a call and puts it with its answer at the end of the record. -/
def Call.recorded (c : Call) (act : m c.Answer) : StateT (List Exchange) m c.Answer := do
  let answer ← act
  modify (· ++ [⟨c, answer⟩])
  pure answer

/-- The provider that also keeps a record. -/
def Provider.recorded (p : Provider m) : Provider (StateT (List Exchange) m) where
  fetch owner repo path branch :=
    (Call.fetch owner repo path branch).recorded (p.fetch owner repo path branch)
  list owner repo path := (Call.list owner repo path).recorded (p.list owner repo path)

/-- The gateway that also keeps a record. -/
def Gateway.recorded (g : Gateway m) : Gateway (StateT (List Exchange) m) where
  upsertRepository owner name url :=
    (Call.store (.upsertRepository owner name url)).recorded (g.upsertRepository owner name url)
  repository? id := (Call.store (.repository? id)).recorded (g.repository? id)
  createAudit repositoryId :=
    (Call.store (.createAudit repositoryId)).recorded (g.createAudit repositoryId)
  audit? id := (Call.store (.audit? id)).recorded (g.audit? id)
  listAudits repositoryId :=
    (Call.store (.listAudits repositoryId)).recorded (g.listAudits repositoryId)
  logViolation v := (Call.store (.logViolation v)).recorded (g.logViolation v)
  listViolations auditId :=
    (Call.store (.listViolations auditId)).recorded (g.listViolations auditId)
  completeAudit auditId total violations compliant :=
    (Call.store (.completeAudit auditId total violations compliant)).recorded
      (g.completeAudit auditId total violations compliant)
  failAudit auditId reason :=
    (Call.store (.failAudit auditId reason)).recorded (g.failAudit auditId reason)
  deleteAudit auditId := (Call.store (.deleteAudit auditId)).recorded (g.deleteAudit auditId)

/-- A call on a provider and a gateway that keep a record is the recorded call. -/
theorem Call.perform_recorded (p : Provider m) (g : Gateway m) (c : Call) :
    c.perform p.recorded g.recorded = c.recorded (c.perform p g) := by
  cases c with
  | fetch => rfl
  | list => rfl
  | store c => cases c <;> rfl

namespace Dialogue

variable {α β : Type}

/-- Conducts a dialogue with a provider and a gateway. -/
def conduct (p : Provider m) (g : Gateway m) : Dialogue α → m α
  | done a => pure a
  | ask c next => do conduct p g (next (← c.perform p g))

/-- Conducts a dialogue and gives its record besides its outcome. -/
def transcript (p : Provider m) (g : Gateway m) : Dialogue α → m (α × List Exchange)
  | done a => pure (a, [])
  | ask c next => do
    let answer ← c.perform p g
    let (a, record) ← transcript p g (next answer)
    pure (a, ⟨c, answer⟩ :: record)

variable {p : Provider m} {g : Gateway m}

@[simp] theorem conduct_done (a : α) : (done a).conduct p g = pure a := rfl

@[simp] theorem conduct_pure (a : α) : (pure a : Dialogue α).conduct p g = pure a := rfl

variable [LawfulMonad m]

/-- Dialogues in a row are conducted in a row. -/
@[simp] theorem conduct_bind (d : Dialogue α) (f : α → Dialogue β) :
    (d >>= f).conduct p g = d.conduct p g >>= fun a => (f a).conduct p g := by
  induction d with
  | done a => simp
  | ask c next ih => simp [conduct, ih]

/-- One call is conducted by making it. -/
theorem conduct_call (c : Call) : (call c).conduct p g = c.perform p g := by
  simp [call, conduct]

@[simp] theorem conduct_fetch (owner repo path branch : String) :
    (provider.fetch owner repo path branch).conduct p g = p.fetch owner repo path branch :=
  conduct_call _

@[simp] theorem conduct_list (owner repo path : String) :
    (provider.list owner repo path).conduct p g = p.list owner repo path :=
  conduct_call _

@[simp] theorem conduct_upsertRepository (owner name url : String) :
    (gateway.upsertRepository owner name url).conduct p g = g.upsertRepository owner name url :=
  conduct_call _

@[simp] theorem conduct_createAudit (repositoryId : String) :
    (gateway.createAudit repositoryId).conduct p g = g.createAudit repositoryId :=
  conduct_call _

@[simp] theorem conduct_logViolation (v : NewViolation) :
    (gateway.logViolation v).conduct p g = g.logViolation v :=
  conduct_call _

@[simp] theorem conduct_completeAudit (auditId : String) (total violations compliant : Nat) :
    (gateway.completeAudit auditId total violations compliant).conduct p g =
      g.completeAudit auditId total violations compliant :=
  conduct_call _

@[simp] theorem conduct_failAudit (auditId reason : String) :
    (gateway.failAudit auditId reason).conduct p g = g.failAudit auditId reason :=
  conduct_call _

/-- The outcome of a transcript is that of the dialogue. -/
theorem fst_map_transcript (d : Dialogue α) :
    Prod.fst <$> d.transcript p g = d.conduct p g := by
  induction d with
  | done a => simp [transcript]
  | ask c next ih => simp [transcript, conduct, ← ih]

/-- A provider and a gateway that keep a record add the transcript to it. -/
theorem run_conduct_recorded (d : Dialogue α) (past : List Exchange) :
    (d.conduct p.recorded g.recorded).run past =
      (fun r => (r.1, past ++ r.2)) <$> d.transcript p g := by
  induction d generalizing past with
  | done a => simp [transcript]
  | ask c next ih => simp [conduct, transcript, Call.perform_recorded, Call.recorded, ih]

/-- In surroundings that are a state, the transcript is a record of the dialogue. -/
theorem ends_of_transcript {W : Type} {p : Provider (StateM W)} {g : Gateway (StateM W)}
    {d : Dialogue α} {w w' : W} {a : α} {record : List Exchange}
    (h : (d.transcript p g).run w = ((a, record), w')) : d.Ends record a := by
  induction d generalizing w a record with
  | done b =>
    obtain ⟨⟨rfl, rfl⟩, rfl⟩ := by simpa [transcript] using h
    exact .refl _
  | ask c next ih =>
    simp only [transcript, StateT.run_bind, StateT.run_pure] at h
    obtain ⟨⟨rfl, rfl⟩, rfl⟩ := by simpa using h
    exact .ask (ih _ rfl)

end Dialogue

end SourceAudit

/-! ## The course of a record -/

namespace SourceAudit

variable {S W α : Type} {p : Provider (StateT S (StateM W))} {g : Gateway (StateT S (StateM W))}
  {s s' : S} {w w' : W} {first second record : List Exchange}

/-- The calls of a record, made one after the other from a state on, get the recorded answers and end
in another state. -/
inductive Course (p : Provider (StateT S (StateM W))) (g : Gateway (StateT S (StateM W))) :
    S → W → List Exchange → S → W → Prop
  | nil (s : S) (w : W) : Course p g s w [] s w
  | cons {s s₁ s' : S} {w w₁ w' : W} {c : Call} {answer : c.Answer} {record : List Exchange} :
    ((c.perform p g).run s).run w = ((answer, s₁), w₁) → Course p g s₁ w₁ record s' w' →
    Course p g s w (⟨c, answer⟩ :: record) s' w'

namespace Course

/-- Records follow one another over a state between them. -/
theorem append_iff : Course p g s w (first ++ second) s' w' ↔
    ∃ s₁ w₁, Course p g s w first s₁ w₁ ∧ Course p g s₁ w₁ second s' w' := by
  induction first generalizing s w with
  | nil =>
    constructor
    · exact fun h => ⟨s, w, .nil s w, h⟩
    · rintro ⟨s₁, w₁, ⟨⟩, h⟩
      exact h
  | cons e rest ih =>
    constructor
    · intro h
      cases h with
      | cons hcall h =>
        obtain ⟨s₁, w₁, hrest, hsecond⟩ := ih.1 h
        exact ⟨s₁, w₁, .cons hcall hrest, hsecond⟩
    · rintro ⟨s₁, w₁, hfirst, hsecond⟩
      cases hfirst with
      | cons hcall hrest => exact .cons hcall (ih.2 ⟨s₁, w₁, hrest, hsecond⟩)

/-- What holds of a call with its answer, wherever it is made, holds of all exchanges. -/
theorem forall_mem {P : Exchange → Prop} (h : Course p g s w record s' w')
    (hcall : ∀ (c : Call) (s : S) (w : W), P ⟨c, (((c.perform p g).run s).run w).1.1⟩) :
    ∀ e ∈ record, P e := by
  induction h with
  | nil => exact List.forall_mem_nil P
  | @cons s _ _ w _ _ c _ _ hrun _ ih =>
    refine List.forall_mem_cons.2 ⟨?_, ih⟩
    have hanswer := hcall c s w
    rwa [hrun] at hanswer

end Course

namespace Dialogue

variable {β : Type} {a a' : α} {b b' : β} {record' : List Exchange} {s₁ s₁' : S} {w₁ w₁' : W}

/-- A dialogue has one course from a state on. -/
theorem course_unique {d : Dialogue α} (h : d.Ends record a) (hcourse : Course p g s w record s₁ w₁)
    (h' : d.Ends record' a') (hcourse' : Course p g s w record' s₁' w₁') :
    record = record' ∧ a = a' ∧ s₁ = s₁' ∧ w₁ = w₁' := by
  induction d generalizing s w record record' with
  | done b =>
    obtain ⟨rfl, rfl⟩ := ends_done_iff.1 h
    obtain ⟨rfl, rfl⟩ := ends_done_iff.1 h'
    cases hcourse
    cases hcourse'
    exact ⟨rfl, rfl, rfl, rfl⟩
  | ask c next ih =>
    obtain ⟨answer, rest, rfl, hrest⟩ := ends_ask_iff.1 h
    obtain ⟨answer', rest', rfl, hrest'⟩ := ends_ask_iff.1 h'
    cases hcourse with
    | cons hcall hcourse =>
      cases hcourse' with
      | cons hcall' hcourse' =>
        -- Both ask the same of the same surroundings.
        rw [hcall] at hcall'
        cases hcall'
        obtain ⟨rfl, hsame⟩ := ih answer hrest hcourse hrest' hcourse'
        exact ⟨rfl, hsame⟩

/-- Two dialogues that begin alike have the same course until they part. -/
theorem exists_common_course {d : Dialogue α} {f f' : α → Dialogue β}
    (h : (d >>= f).Ends record b) (hcourse : Course p g s w record s₁ w₁)
    (h' : (d >>= f').Ends record' b') (hcourse' : Course p g s w record' s₁' w₁') :
    ∃ first a rest rest' s₂ w₂, record = first ++ rest ∧ record' = first ++ rest' ∧
      d.Ends first a ∧ Course p g s w first s₂ w₂ ∧
      (f a).Ends rest b ∧ Course p g s₂ w₂ rest s₁ w₁ ∧
      (f' a).Ends rest' b' ∧ Course p g s₂ w₂ rest' s₁' w₁' := by
  obtain ⟨first, a, rest, rfl, hd, hrest⟩ := ends_bind_iff.1 h
  obtain ⟨first', a', rest', rfl, hd', hrest'⟩ := ends_bind_iff.1 h'
  obtain ⟨s₂, w₂, hfirst, hcourse⟩ := Course.append_iff.1 hcourse
  obtain ⟨s₂', w₂', hfirst', hcourse'⟩ := Course.append_iff.1 hcourse'
  obtain ⟨rfl, rfl, rfl, rfl⟩ := course_unique hd hfirst hd' hfirst'
  exact ⟨first, a, rest, rest', s₂, w₂, rfl, rfl, hd, hfirst, hrest, hcourse, hrest', hcourse'⟩

/-- The transcript of a dialogue is a record of it, and its course. -/
theorem course_of_transcript {d : Dialogue α} {a : α}
    (h : ((d.transcript p g).run s).run w = (((a, record), s'), w')) :
    d.Ends record a ∧ Course p g s w record s' w' := by
  induction d generalizing s w a record with
  | done b =>
    cases h
    exact ⟨.refl _, .nil _ _⟩
  | ask c next ih =>
    rcases hanswer : ((c.perform p g).run s).run w with ⟨⟨answer, s₁⟩, w₁⟩
    rw [transcript, run_bind_of_run hanswer] at h
    rcases hnext : (((next answer).transcript p g).run s₁).run w₁ with ⟨⟨⟨b, rest⟩, s₂⟩, w₂⟩
    rw [run_bind_of_run hnext] at h
    cases h
    obtain ⟨hends, hcourse⟩ := ih answer hnext
    exact ⟨.ask hends, .cons hanswer hcourse⟩

/-- To conduct a dialogue comes to an outcome by a record of the dialogue, and conducting it with a
provider and a gateway that keep a record gives the same outcome and that record. -/
theorem exists_course (d : Dialogue α) (p : Provider (StateT S (StateM W)))
    (g : Gateway (StateT S (StateM W))) (s : S) (w : W) :
    ∃ a record s' w',
      (((d.conduct p.recorded g.recorded).run []).run s).run w = (((a, record), s'), w') ∧
      ((d.conduct p g).run s).run w = ((a, s'), w') ∧
      d.Ends record a ∧ Course p g s w record s' w' := by
  rcases h : ((d.transcript p g).run s).run w with ⟨⟨⟨a, record⟩, s'⟩, w'⟩
  refine ⟨a, record, s', w', ?_, ?_, course_of_transcript h⟩
  · rw [run_conduct_recorded, StateT.run_map, StateT.run_map, h]
    rfl
  · rw [← fst_map_transcript, StateT.run_map, StateT.run_map, h]
    rfl

end Dialogue

end SourceAudit
