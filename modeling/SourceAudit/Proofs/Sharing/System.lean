import Mathlib.Data.Set.Function
import SourceAudit.Proofs.Sharing.Agreement

/-!
# Runs that share a store

Any number of audits run at a time, over one store in memory or one store in a file. A step of the
whole is one call: an audit asks its provider, which may answer anything, or it asks the store, or
somebody else asks the store. A call on the store is made at once; where it writes a file, the
writing may fail. Nothing is said of the order of the calls.

`Sound` is what all steps preserve: every run agrees with the store on its own audit, and no two runs
have audits of one identity. For the latter, SHA-256 must tell apart the texts whose digests are
given out in the course of it, and the counter of the store must not come round.
-/

namespace SourceAudit

open Dialogue Fetches

/-- An audit to be run. -/
structure Job where
  options : AuditOptions
  schedule : Schedule
  target : Target

/-- The run of an audit. -/
def Job.dialogue (job : Job) : Dialogue (Except AuditError Report) :=
  Audit.run provider gateway job.options job.schedule job.target

/-- The store in memory and the store in a file, whatever their clocks and files do. -/
inductive Backend {W : Type} : Gateway (StateT Store (StateM W)) → Prop
  | inMemory (clock : StateM W Instant) : Backend (.inMemory (besideStore clock))
  | inFile (files : Files (StateM W)) (path : String) (clock : StateM W Instant) :
    Backend (StoreFile.gateway (files.lift besideStore) path (besideStore clock))

/-- A call on either store comes to one of its outcomes. -/
theorem Backend.outcome {W : Type} {g : Gateway (StateT Store (StateM W))} (hg : Backend g)
    {c : StoreCall} {s s' : Store} {w w' : W} {answer : Except StoreError c.Result}
    (h : ((c.perform g).run s).run w = ((answer, s'), w')) : c.Outcome s answer s' := by
  cases hg with
  | inMemory clock =>
    obtain ⟨now, w₁, hrun⟩ := Gateway.perform_inMemory clock c s w
    exact StoreCall.outcome_of_runOn (congrArg Prod.fst (hrun.symm.trans h))
  | inFile files path clock =>
    obtain ⟨answer₁, s₁, w₁, hrun, hout⟩ := StoreFile.perform_outcome files path clock c s w
    obtain ⟨⟨rfl, rfl⟩, -⟩ := by simpa using hrun.symm.trans h
    exact hout

/-- Audits that run over one store. -/
structure Sharing (ι W : Type) where
  store : Store
  surroundings : W
  /-- What is left of each run. -/
  left : ι → Dialogue (Except AuditError Report)
  /-- The record of each run so far. -/
  record : ι → List Exchange
  /-- The texts whose digests were given out as identities of audits. -/
  issued : List String

namespace Sharing

variable {ι W : Type}

/-- Everything at its start, with an empty store. -/
def start (jobs : ι → Job) (w : W) : Sharing ι W where
  store := {}
  surroundings := w
  left i := (jobs i).dialogue
  record _ := []
  issued := []

/-- How far a run has come. -/
def phase (x : Sharing ι W) (i : ι) : Phase :=
  Phase.fresh.after (x.record i)

/-- At the start no run has come anywhere. -/
theorem phase_start (jobs : ι → Job) (w : W) (i : ι) : (start jobs w).phase i = .fresh := rfl

variable [DecidableEq ι]

/-- One run goes on with an answer. -/
def answered (x : Sharing ι W) (i : ι) (e : Exchange) (rest : Dialogue (Except AuditError Report))
    (w : W) : Sharing ι W where
  store := x.store
  surroundings := w
  left := Function.update x.left i rest
  record := Function.update x.record i (x.record i ++ [e])
  issued := x.issued

/-- The store after a call, with what the call has given out. -/
def stored (x : Sharing ι W) (s : Store) (texts : List String) : Sharing ι W where
  store := s
  surroundings := x.surroundings
  left := x.left
  record := x.record
  issued := x.issued ++ texts

/-- One call. -/
inductive Step (g : Gateway (StateT Store (StateM W))) (x : Sharing ι W) : Sharing ι W → Prop
  /-- A run asks its provider. -/
  | provider (i : ι) (c : Call) (next : c.Answer → Dialogue (Except AuditError Report))
    (answer : c.Answer) (w' : W) :
    c.isStore = false → x.left i = .ask c next →
    Step g x (x.answered i ⟨c, answer⟩ (next answer) w')
  /-- A run asks the store. -/
  | store (i : ι) (c : StoreCall)
    (next : (Call.store c).Answer → Dialogue (Except AuditError Report))
    (answer : Except StoreError c.Result) (s' : Store) (w' : W) :
    x.left i = .ask (.store c) next →
    ((c.perform g).run x.store).run x.surroundings = ((answer, s'), w') →
    Step g x ((x.answered i ⟨.store c, answer⟩ (next answer) w').stored s' (c.issued answer s'))
  /-- Somebody else asks the store, but about none of the audits of the runs. -/
  | other (c : StoreCall) (answer : Except StoreError c.Result) (s' : Store) (w' : W) :
    (∀ i id, (x.phase i).auditId? = some id → ¬ c.Touches id) →
    ((c.perform g).run x.store).run x.surroundings = ((answer, s'), w') →
    Step g x ({ x with surroundings := w' }.stored s' (c.issued answer s'))

/-- What so many calls can make of the start. -/
inductive Reaches (g : Gateway (StateT Store (StateM W))) (jobs : ι → Job) :
    Nat → Sharing ι W → Prop
  | start (w : W) : Reaches g jobs 0 (start jobs w)
  | step {n : Nat} {x y : Sharing ι W} : Reaches g jobs n x → Step g x y → Reaches g jobs (n + 1) y

/-- SHA-256 tells apart the texts whose digests were given out. -/
def CollisionFree (x : Sharing ι W) : Prop :=
  Set.InjOn Sha256.hex {text | text ∈ x.issued}

/-- What holds of runs over one store after so many calls. -/
structure Sound (jobs : ι → Job) (n : Nat) (x : Sharing ι W) : Prop where
  /-- The counter has not been moved more often than there were calls. -/
  counted : x.store.sequence ≤ n
  /-- The store has given out the texts. -/
  issuing : x.store.Issuing x.issued
  /-- A record leads from the start of its run to what is left of it. -/
  leads : ∀ i, (jobs i).dialogue.Leads (x.record i) (x.left i)
  /-- The answers of the store are outcomes of the calls. -/
  faithful : ∀ i, ∀ e ∈ x.record i, e.Faithful
  /-- The identity of a run's audit was given out. -/
  issued : ∀ i id, (x.phase i).auditId? = some id → ∃ text ∈ x.issued, id = Sha256.hex text
  /-- A run and the store agree on the audit of the run. -/
  agrees : ∀ i, (x.phase i).Agrees x.store
  /-- Two runs have audits of two identities. -/
  apart : ∀ i j id, i ≠ j → (x.phase i).auditId? = some id → (x.phase j).auditId? ≠ some id

variable {g : Gateway (StateT Store (StateM W))} {jobs : ι → Job} {n : Nat} {x y : Sharing ι W}

omit [DecidableEq ι] in
/-- At the start there is nothing to agree on. -/
theorem sound_start (w : W) : Sound jobs 0 (start jobs w) where
  counted := Nat.le_refl _
  issuing := Store.issuing_empty
  leads _ := .refl _
  faithful i e he := by cases he
  issued i id hid := by
    rw [phase_start] at hid
    cases hid
  agrees i := by
    rw [phase_start]
    trivial
  apart i j id _ hid := by
    rw [phase_start] at hid
    cases hid

section Answered

variable {i j : ι} {e : Exchange}

/-- An answer moves the phase of the run that asked. -/
theorem phase_answered_self (i : ι) (e : Exchange) (rest : Dialogue (Except AuditError Report))
    (w : W) : (x.answered i e rest w).phase i = (x.phase i).advance e := by
  simp [phase, answered]

/-- An answer leaves the phases of the other runs. -/
theorem phase_answered_of_ne (h : j ≠ i) (e : Exchange)
    (rest : Dialogue (Except AuditError Report)) (w : W) :
    (x.answered i e rest w).phase j = x.phase j := by
  simp [phase, answered, h]

/-- The record still leads to what is left after an answer. -/
theorem leads_answered (h : ∀ j, (jobs j).dialogue.Leads (x.record j) (x.left j)) (c : Call)
    {next : c.Answer → Dialogue (Except AuditError Report)} (answer : c.Answer)
    (hleft : x.left i = .ask c next) (w : W) (j : ι) :
    (jobs j).dialogue.Leads ((x.answered i ⟨c, answer⟩ (next answer) w).record j)
      ((x.answered i ⟨c, answer⟩ (next answer) w).left j) := by
  by_cases hj : j = i
  · subst hj
    simp only [answered, Function.update_self]
    exact (hleft ▸ h j).concat answer
  · simp only [answered, Function.update_of_ne hj]
    exact h j

/-- The answers are still outcomes after one that is. -/
theorem faithful_answered (h : ∀ j, ∀ e ∈ x.record j, e.Faithful) (he : e.Faithful)
    (rest : Dialogue (Except AuditError Report)) (w : W) (j : ι) :
    ∀ e' ∈ (x.answered i e rest w).record j, e'.Faithful := by
  by_cases hj : j = i
  · subst hj
    simp only [answered, Function.update_self]
    intro e' he'
    rcases List.mem_append.1 he' with he' | he'
    · exact h j e' he'
    · rw [List.mem_singleton.1 he']
      exact he
  · simp only [answered, Function.update_of_ne hj]
    exact h j

end Answered

/-- What a run asks its provider leaves all in agreement. -/
theorem Sound.provider (h : Sound jobs n x) {i : ι} {c : Call}
    {next : c.Answer → Dialogue (Except AuditError Report)} (answer : c.Answer) (w : W)
    (hc : c.isStore = false) (hleft : x.left i = .ask c next) :
    Sound jobs (n + 1) (x.answered i ⟨c, answer⟩ (next answer) w) := by
  have hcall : Exchange.isStore ⟨c, answer⟩ = false := hc
  have hphase : ∀ j, (x.answered i ⟨c, answer⟩ (next answer) w).phase j = x.phase j := by
    intro j
    by_cases hj : j = i
    · subst hj
      rw [phase_answered_self, Phase.advance_of_provider hcall]
    · exact phase_answered_of_ne hj ..
  have hfaithful : Exchange.Faithful ⟨c, answer⟩ := by
    cases c with
    | fetch | list => trivial
    | store => cases hc
  exact
    { counted := Nat.le_succ_of_le h.counted
      issuing := h.issuing
      leads := leads_answered h.leads c answer hleft w
      faithful := faithful_answered h.faithful hfaithful (next answer) w
      issued := fun j id hid => h.issued j id (hphase j ▸ hid)
      agrees := fun j => hphase j ▸ h.agrees j
      apart := fun j k id hjk hj hk => h.apart j k id hjk (hphase j ▸ hj) (hphase k ▸ hk) }

section Store

variable {c : StoreCall} {s' : Store} {answer : Except StoreError c.Result} {w : W}

omit [DecidableEq ι] in
/-- What somebody else asks the store, about none of the audits of the runs, leaves all in
agreement. -/
theorem Sound.other (h : Sound jobs n x) (hroom : n + 1 < Decimal.wordCount)
    (hout : c.Outcome x.store answer s')
    (huntouched : ∀ i id, (x.phase i).auditId? = some id → ¬ c.Touches id) :
    Sound jobs (n + 1) ({ x with surroundings := w }.stored s' (c.issued answer s')) := by
  have hcount := h.counted
  have hroom' : x.store.sequence + 1 < Decimal.wordCount := by omega
  -- Whatever the call is, it moves the counter by one at most.
  have hseq := (hout.effect.sequence_le hroom').2
  exact
    { counted := Nat.le_trans hseq (Nat.succ_le_succ h.counted)
      issuing := h.issuing.step hout hroom'
      leads := h.leads
      faithful := h.faithful
      issued := fun j id hid =>
        (h.issued j id hid).imp fun text ht => ⟨List.mem_append_left _ ht.1, ht.2⟩
      agrees := fun j => (h.agrees j).frame hout.effect (huntouched j)
      apart := h.apart }

omit [DecidableEq ι] in
/-- An allowed call does not give a run the audit of another. -/
theorem Sound.advance_apart (h : Sound jobs n x) {i : ι}
    (hroom : x.store.sequence + 1 < Decimal.wordCount) (hallows : (x.phase i).allows c)
    (hout : c.Outcome x.store answer s')
    (hsha : Set.InjOn Sha256.hex {text | text ∈ x.issued ++ c.issued answer s'}) {j : ι}
    {id : String} (hj : j ≠ i) (hid : (x.phase j).auditId? = some id) :
    ((x.phase i).advance ⟨.store c, answer⟩).auditId? ≠ some id := by
  intro hself
  -- The audit of the run is its audit from before, or a new one under a new identity.
  rcases Phase.auditId?_advance hallows hout hself with hid' | ⟨text, htext, rfl⟩
  · exact h.apart j i id hj hid hid'
  · obtain ⟨old, hold, heq⟩ := h.issued j _ hid
    exact h.issuing.hex_ne hout hroom hsha htext hold heq

/-- What a run asks the store leaves all in agreement, as far as SHA-256 tells apart what the store
gives out. -/
theorem Sound.store_call (h : Sound jobs n x) (hroom : n + 1 < Decimal.wordCount) {i : ι}
    {next : (Call.store c).Answer → Dialogue (Except AuditError Report)}
    (hleft : x.left i = .ask (.store c) next) (hout : c.Outcome x.store answer s')
    (hsha : Set.InjOn Sha256.hex {text | text ∈ x.issued ++ c.issued answer s'}) :
    Sound jobs (n + 1)
      ((x.answered i ⟨.store c, answer⟩ (next answer) w).stored s' (c.issued answer s')) := by
  have hcount := h.counted
  have hroom' : x.store.sequence + 1 < Decimal.wordCount := by omega
  have hseq := (hout.effect.sequence_le hroom').2
  have hallows : (x.phase i).allows c := Audit.allows_of_leads (hleft ▸ h.leads i)
  -- The call moves the phase of the run that has made it and of no other.
  have hself : ((x.answered i ⟨.store c, answer⟩ (next answer) w).stored s'
      (c.issued answer s')).phase i = (x.phase i).advance ⟨.store c, answer⟩ :=
    phase_answered_self i ⟨.store c, answer⟩ (next answer) w
  have hother : ∀ j, j ≠ i → ((x.answered i ⟨.store c, answer⟩ (next answer) w).stored s'
      (c.issued answer s')).phase j = x.phase j := fun j hj =>
    phase_answered_of_ne hj ⟨.store c, answer⟩ (next answer) w
  have hfaithful : Exchange.Faithful ⟨.store c, answer⟩ := ⟨x.store, s', hout⟩
  have hnew : ∀ j id, j ≠ i → (x.phase j).auditId? = some id →
      ((x.phase i).advance ⟨.store c, answer⟩).auditId? ≠ some id := fun j id =>
    h.advance_apart hroom' hallows hout hsha
  refine
    { counted := Nat.le_trans hseq (Nat.succ_le_succ h.counted)
      issuing := h.issuing.step hout hroom'
      leads := leads_answered h.leads (.store c) answer hleft w
      faithful := faithful_answered h.faithful hfaithful (next answer) w
      issued := fun j id hid => ?_
      agrees := fun j => ?_
      apart := fun j k id hjk hj hk => ?_ }
  · by_cases hj : j = i
    · subst hj
      rw [hself] at hid
      rcases Phase.auditId?_advance hallows hout hid with hid | ⟨text, htext, rfl⟩
      · exact (h.issued j id hid).imp fun text ht => ⟨List.mem_append_left _ ht.1, ht.2⟩
      · exact ⟨text, List.mem_append_right _ htext, rfl⟩
    · rw [hother j hj] at hid
      exact (h.issued j id hid).imp fun text ht => ⟨List.mem_append_left _ ht.1, ht.2⟩
  · by_cases hj : j = i
    · subst hj
      rw [hself]
      exact (h.agrees j).advance hallows hout fun text htext =>
        h.issuing.unused hout hroom' hsha htext
    · rw [hother j hj]
      refine (h.agrees j).frame hout.effect fun id hid htouches => ?_
      exact h.apart j i id hj hid (Phase.auditId?_of_touches hallows htouches)
  · by_cases hji : j = i
    · subst hji
      rw [hself] at hj
      rw [hother k hjk.symm] at hk
      exact hnew k id hjk.symm hk hj
    · rw [hother j hji] at hj
      by_cases hki : k = i
      · subst hki
        rw [hself] at hk
        exact hnew j id hjk hj hk
      · rw [hother k hki] at hk
        exact h.apart j k id hjk hj hk

end Store

/-- Texts that were given out stay so. -/
theorem CollisionFree.of_step (hstep : Step g x y) (h : y.CollisionFree) : x.CollisionFree := by
  refine h.mono fun text htext => ?_
  cases hstep with
  | provider => exact htext
  | store => exact List.mem_append_left _ htext
  | other => exact List.mem_append_left _ htext

/-- In all that runs over one store can come to, every run agrees with the store and the runs have
audits of their own. -/
theorem sound_of_reaches (hg : Backend g) (h : Reaches g jobs n x) (hroom : n < Decimal.wordCount)
    (hsha : x.CollisionFree) : Sound jobs n x := by
  induction h with
  | start w => exact sound_start w
  | step hreach hstep ih =>
    have hsound := ih (by omega) (hsha.of_step hstep)
    cases hstep with
    | provider i c next answer w' hc hleft => exact hsound.provider answer w' hc hleft
    | store i c next answer s' w' hleft hrun =>
      exact hsound.store_call hroom hleft (hg.outcome hrun) hsha
    | other c answer s' w' huntouched hrun =>
      exact hsound.other hroom (hg.outcome hrun) huntouched

end Sharing

end SourceAudit
