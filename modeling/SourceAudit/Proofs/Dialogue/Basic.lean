import SourceAudit.Provider.Basic
import SourceAudit.Store.Gateway

/-!
# Runs as dialogues

A run asks its provider and its store, one call at a time, and goes on with the answers. Here a run
is such a dialogue: a tree that branches at every call over all the answers that the call may get. A
path through the tree is the record of one run, and `Leads` says what is left of a dialogue after a
record. Whatever the surroundings do, a run in them takes one of the paths.

Where it is known beforehand what a call gets for an answer, it is known what a dialogue comes to
(`reply`) and what it asks on its way (`asked`), without the surroundings that it is conducted in. It
is enough to know this of the calls that the dialogue may make (`eq_reply_of_ends`,
`map_call_of_ends`).
-/

namespace SourceAudit

/-- A call on a store. -/
inductive StoreCall where
  | upsertRepository (owner name url : String)
  | repository? (id : String)
  | createAudit (repositoryId : String)
  | audit? (id : String)
  | listAudits (repositoryId : String)
  | logViolation (v : NewViolation)
  | listViolations (auditId : String)
  | completeAudit (auditId : String) (totalFiles violationCount compliantFiles : Nat)
  | failAudit (auditId reason : String)
  | deleteAudit (auditId : String)
deriving DecidableEq, Repr

/-- What a call on a store results in unless it fails. -/
abbrev StoreCall.Result : StoreCall → Type
  | upsertRepository .. => Repository
  | repository? _ => Option Repository
  | createAudit _ => Audit
  | audit? _ => Option Audit
  | listAudits _ => List Audit
  | logViolation _ => Violation
  | listViolations _ => List Violation
  | completeAudit .. => Audit
  | failAudit .. => Audit
  | deleteAudit _ => Bool

/-- A call on the surroundings of a run: on the provider or on the store. -/
inductive Call where
  | fetch (owner repo path branch : String)
  | list (owner repo path : String)
  | store (c : StoreCall)
deriving DecidableEq, Repr

namespace Call

/-- What answers a call. -/
abbrev Answer : Call → Type
  | fetch .. => Except ProviderError (Option String)
  | list .. => Except ProviderError (List DirectoryEntry)
  | store c => Except StoreError c.Result

/-- The call is one on the store. -/
def isStore : Call → Bool
  | store _ => true
  | _ => false

/-- An answer that any call may get. -/
def refusal : (c : Call) → c.Answer
  | fetch .. => .ok none
  | list .. => .ok []
  | store _ => .error .malformed

end Call

/-- A call with its answer. -/
structure Exchange where
  call : Call
  answer : call.Answer

/-- The exchange is one with the store. -/
def Exchange.isStore (e : Exchange) : Bool :=
  e.call.isStore

/-- A run that is over, or that asks and goes on with the answer. -/
inductive Dialogue (α : Type) where
  | done (a : α)
  | ask (c : Call) (next : c.Answer → Dialogue α)

namespace Dialogue

variable {α β : Type}

/-- Goes on with a second dialogue where the first one is over. -/
def bind : Dialogue α → (α → Dialogue β) → Dialogue β
  | done a, f => f a
  | ask c next, f => ask c fun answer => (next answer).bind f

instance : Monad Dialogue where
  pure := done
  bind := bind

@[simp] theorem pure_eq (a : α) : (pure a : Dialogue α) = done a := rfl

@[simp] theorem done_bind (a : α) (f : α → Dialogue β) : (done a >>= f) = f a := rfl

@[simp] theorem ask_bind (c : Call) (next : c.Answer → Dialogue α) (f : α → Dialogue β) :
    (ask c next >>= f) = ask c fun answer => next answer >>= f := rfl

protected theorem id_map (d : Dialogue α) : id <$> d = d := by
  induction d with
  | done a => rfl
  | ask c next ih => exact congrArg (ask c) (funext ih)

protected theorem bind_assoc {γ : Type} (d : Dialogue α) (f : α → Dialogue β)
    (g : β → Dialogue γ) : d >>= f >>= g = d >>= fun a => f a >>= g := by
  induction d with
  | done a => rfl
  | ask c next ih => exact congrArg (ask c) (funext ih)

instance : LawfulMonad Dialogue :=
  LawfulMonad.mk' Dialogue Dialogue.id_map done_bind Dialogue.bind_assoc

/-- One call and its answer. -/
def call (c : Call) : Dialogue c.Answer :=
  ask c done

/-- The provider that asks for everything. -/
def provider : Provider Dialogue where
  fetch owner repo path branch := call (.fetch owner repo path branch)
  list owner repo path := call (.list owner repo path)

/-- The store that asks for everything. -/
def gateway : Gateway Dialogue where
  upsertRepository owner name url := call (.store (.upsertRepository owner name url))
  repository? id := call (.store (.repository? id))
  createAudit repositoryId := call (.store (.createAudit repositoryId))
  audit? id := call (.store (.audit? id))
  listAudits repositoryId := call (.store (.listAudits repositoryId))
  logViolation v := call (.store (.logViolation v))
  listViolations auditId := call (.store (.listViolations auditId))
  completeAudit auditId total violations compliant :=
    call (.store (.completeAudit auditId total violations compliant))
  failAudit auditId reason := call (.store (.failAudit auditId reason))
  deleteAudit auditId := call (.store (.deleteAudit auditId))

/-- What is left of a dialogue after a record of its exchanges. -/
inductive Leads : Dialogue α → List Exchange → Dialogue α → Prop
  | refl (d : Dialogue α) : Leads d [] d
  | ask {c : Call} {next : c.Answer → Dialogue α} {answer : c.Answer} {record : List Exchange}
      {d : Dialogue α} :
      Leads (next answer) record d → Leads (ask c next) (⟨c, answer⟩ :: record) d

/-- A dialogue can go by a record from its start to its end. -/
abbrev Ends (d : Dialogue α) (record : List Exchange) (a : α) : Prop :=
  d.Leads record (done a)

/-- A dialogue that is over has nothing left to record. -/
theorem leads_done_iff {a : α} {record : List Exchange} {d : Dialogue α} :
    (done a).Leads record d ↔ record = [] ∧ d = done a := by
  constructor
  · rintro ⟨⟩
    exact ⟨rfl, rfl⟩
  · rintro ⟨rfl, rfl⟩
    exact .refl _

/-- A dialogue that asks ends after the answer and an ending of what follows it. -/
theorem ends_ask_iff {c : Call} {next : c.Answer → Dialogue α} {record : List Exchange} {a : α} :
    (ask c next).Ends record a ↔
      ∃ answer rest, record = ⟨c, answer⟩ :: rest ∧ (next answer).Ends rest a := by
  constructor
  · rintro ⟨⟩
    exact ⟨_, _, rfl, by assumption⟩
  · rintro ⟨answer, rest, rfl, h⟩
    exact .ask h

@[simp] theorem ends_done_iff {a b : α} {record : List Exchange} :
    (done a).Ends record b ↔ record = [] ∧ a = b := by
  rw [Ends, leads_done_iff]
  exact and_congr_right fun _ => ⟨fun h => (Dialogue.done.inj h).symm, fun h => h ▸ rfl⟩

/-- Two dialogues in a row end after an ending of the first and one of the second. -/
theorem ends_bind_iff {d : Dialogue α} {f : α → Dialogue β} {record : List Exchange} {b : β} :
    (d >>= f).Ends record b ↔
      ∃ first a second, record = first ++ second ∧ d.Ends first a ∧ (f a).Ends second b := by
  induction d generalizing record with
  | done a =>
    rw [done_bind]
    constructor
    · intro h
      exact ⟨[], a, record, rfl, .refl _, h⟩
    · rintro ⟨first, a', second, rfl, h, hf⟩
      obtain ⟨rfl, rfl⟩ := ends_done_iff.1 h
      exact hf
  | ask c next ih =>
    rw [ask_bind, ends_ask_iff]
    constructor
    · rintro ⟨answer, rest, rfl, h⟩
      obtain ⟨first, a, second, rfl, hd, hf⟩ := (ih answer).1 h
      exact ⟨⟨c, answer⟩ :: first, a, second, rfl, .ask hd, hf⟩
    · rintro ⟨first, a, second, rfl, hd, hf⟩
      obtain ⟨answer, rest, rfl, hnext⟩ := ends_ask_iff.1 hd
      exact ⟨answer, rest ++ second, rfl, (ih answer).2 ⟨rest, a, second, rfl, hnext, hf⟩⟩

/-- One call ends after its exchange. -/
@[simp] theorem ends_call_iff {c : Call} {record : List Exchange} {answer : c.Answer} :
    (call c).Ends record answer ↔ record = [⟨c, answer⟩] := by
  rw [call, ends_ask_iff]
  constructor
  · rintro ⟨answer', rest, rfl, h⟩
    obtain ⟨rfl, rfl⟩ := ends_done_iff.1 h
    rfl
  · rintro rfl
    exact ⟨answer, [], rfl, .refl _⟩

/-- Records follow one another. -/
theorem Leads.append {d e f : Dialogue α} {first second : List Exchange} (h : d.Leads first e)
    (h' : e.Leads second f) : d.Leads (first ++ second) f := by
  induction h with
  | refl d => exact h'
  | ask _ ih => exact .ask (ih h')

/-- A dialogue that asks goes on with any answer. -/
theorem Leads.concat {d : Dialogue α} {record : List Exchange} {c : Call}
    {next : c.Answer → Dialogue α} (h : d.Leads record (.ask c next)) (answer : c.Answer) :
    d.Leads (record ++ [⟨c, answer⟩]) (next answer) :=
  h.append (.ask (.refl _))

/-- All the calls that a dialogue may make satisfy `P`. -/
def Asks (P : Call → Prop) : Dialogue α → Prop
  | done _ => True
  | ask c next => P c ∧ ∀ answer, (next answer).Asks P

variable {P : Call → Prop}

@[simp] theorem asks_call {c : Call} : (call c).Asks P ↔ P c := by
  simp [call, Asks]

/-- Two dialogues in a row make no calls but theirs. -/
theorem Asks.bind {d : Dialogue α} {f : α → Dialogue β} (hd : d.Asks P)
    (hf : ∀ a, (f a).Asks P) : (d >>= f).Asks P := by
  induction d with
  | done a => exact hf a
  | ask c next ih => exact ⟨hd.1, fun answer => ih answer (hd.2 answer)⟩

theorem Asks.imp {P' : Call → Prop} {d : Dialogue α} (hd : d.Asks P) (h : ∀ c, P c → P' c) :
    d.Asks P' := by
  induction d with
  | done a => trivial
  | ask c next ih => exact ⟨h c hd.1, fun answer => ih answer (hd.2 answer)⟩

/-- A record holds no calls but those of its dialogue. -/
theorem Asks.forall_mem {d d' : Dialogue α} {record : List Exchange} (hd : d.Asks P)
    (h : d.Leads record d') : ∀ e ∈ record, P e.call := by
  induction h with
  | refl d => simp
  | ask _ ih =>
    intro e he
    rcases List.mem_cons.1 he with rfl | he
    · exact hd.1
    · exact ih (hd.2 _) e he

/-- Every dialogue can come to its end. -/
theorem exists_ends (d : Dialogue α) : ∃ record a, d.Ends record a := by
  induction d with
  | done a => exact ⟨[], a, .refl _⟩
  | ask c next ih =>
    obtain ⟨record, a, h⟩ := ih c.refusal
    exact ⟨_, a, .ask h⟩

end Dialogue

end SourceAudit

/-! ## Dialogues with foreseen answers -/

namespace SourceAudit.Dialogue

variable {α β : Type} {answers : (c : Call) → c.Answer}

/-- What a dialogue comes to with foreseen answers. -/
def reply (answers : (c : Call) → c.Answer) : Dialogue α → α
  | done a => a
  | ask c next => (next (answers c)).reply answers

@[simp] theorem reply_done (a : α) : (done a).reply answers = a := rfl

/-- Of two dialogues in a row the second one goes on with what the first one comes to. -/
@[simp] theorem reply_bind (d : Dialogue α) (f : α → Dialogue β) :
    (d >>= f).reply answers = (f (d.reply answers)).reply answers := by
  induction d with
  | done a => rfl
  | ask c next ih => exact ih (answers c)

/-- A dialogue whose calls get the foreseen answers comes to what is foreseen. -/
theorem eq_reply_of_ends {P : Call → Prop} {d : Dialogue α} {record : List Exchange} {a : α}
    (hasks : d.Asks P) (hanswers : ∀ e ∈ record, P e.call → e.answer = answers e.call)
    (h : d.Ends record a) : a = d.reply answers := by
  induction d generalizing record with
  | done b =>
    obtain ⟨-, rfl⟩ := ends_done_iff.1 h
    rfl
  | ask c next ih =>
    obtain ⟨answer, rest, rfl, hrest⟩ := ends_ask_iff.1 h
    obtain ⟨hfirst, hlater⟩ := List.forall_mem_cons.1 hanswers
    have hanswer : answer = answers c := hfirst hasks.1
    subst hanswer
    exact ih _ (hasks.2 _) hlater hrest

/-- The calls that a dialogue makes with foreseen answers. -/
def asked (answers : (c : Call) → c.Answer) : Dialogue α → List Call
  | done _ => []
  | ask c next => c :: (next (answers c)).asked answers

@[simp] theorem asked_done (a : α) : (done a).asked answers = [] := rfl

/-- Of two dialogues in a row the second one makes its calls after those of the first one. -/
@[simp] theorem asked_bind (d : Dialogue α) (f : α → Dialogue β) :
    (d >>= f).asked answers = d.asked answers ++ (f (d.reply answers)).asked answers := by
  induction d with
  | done a => rfl
  | ask c next ih => exact congrArg (c :: ·) (ih (answers c))

/-- A dialogue whose calls get the foreseen answers makes the calls that are foreseen. -/
theorem map_call_of_ends {P : Call → Prop} {d : Dialogue α} {record : List Exchange} {a : α}
    (hasks : d.Asks P) (hanswers : ∀ e ∈ record, P e.call → e.answer = answers e.call)
    (h : d.Ends record a) : record.map (·.call) = d.asked answers := by
  induction d generalizing record with
  | done b =>
    obtain ⟨rfl, -⟩ := ends_done_iff.1 h
    rfl
  | ask c next ih =>
    obtain ⟨answer, rest, rfl, hrest⟩ := ends_ask_iff.1 h
    obtain ⟨hfirst, hlater⟩ := List.forall_mem_cons.1 hanswers
    have hanswer : answer = answers c := hfirst hasks.1
    subst hanswer
    rw [List.map_cons, asked, ih _ (hasks.2 _) hlater hrest]

/-- With the foreseen answers a dialogue can come to its end. -/
theorem exists_ends_reply (answers : (c : Call) → c.Answer) (d : Dialogue α) :
    ∃ record, d.Ends record (d.reply answers) ∧ ∀ e ∈ record, e.answer = answers e.call := by
  induction d with
  | done a => exact ⟨[], .refl _, List.forall_mem_nil _⟩
  | ask c next ih =>
    obtain ⟨record, hends, hanswers⟩ := ih (answers c)
    exact ⟨⟨c, answers c⟩ :: record, .ask hends, List.forall_mem_cons.2 ⟨rfl, hanswers⟩⟩

end SourceAudit.Dialogue
