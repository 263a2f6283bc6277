import SourceAudit.Proofs.Files.Disk
import SourceAudit.Proofs.Files.Path
import SourceAudit.Proofs.Store.Storable

/-!
# The store in a file survives stops

A process works on a store in a file whose files may fail, and it may stop at any moment, after which
the store is opened anew. At every moment the file stands for a store as it was after the last call
that succeeded, or with the call applied that the process is in (`survives`).
-/

namespace SourceAudit

namespace StoreFile

open FileRun

/-- The run of a call on the store in a file. -/
def callRun (path : String) (c : TimedCall) (s : Store) :
    FileRun (Except StoreError c.call.Result × Store) :=
  (c.call.perform (gateway files.beside path (pure c.time)) : StateT Store FileRun _).run s

variable {path : String} {s s' : Store} {d d' : Disk} {c : TimedCall}

/-- The file at the path is as it is on a disk, or it holds a document. -/
def OldOrNew (path : String) (d : Disk) (document : Bytes) (d' : Disk) : Prop :=
  d'.held path = d.held path ∨ d'.held path = some document

/-- The file at the path holds a document if all went well, and else is as it is on a disk. -/
def NewIfOk (path : String) (d : Disk) (document : Bytes) :
    Except FileFault Unit → Disk → Prop
  | .ok (), d' => d'.held path = some document
  | .error _, d' => d'.held path = d.held path

/-- A document replaces the one in the file at once or not at all, and not if it fails. -/
theorem always_replace (hparts : Path.parts (temporaryPath path).toList ≠ Path.parts path.toList)
    (text : String) (d : Disk) :
    (replace files path text).Always (OldOrNew path d (Text.Utf8.encode text.toList))
      (NewIfOk path d (Text.Utf8.encode text.toList)) d := by
  rw [replace]
  refine Always.bind (always_call (Or.inl rfl) fun written d₁ hwrite => ?_)
  -- What is written under the temporary name leaves the file at the path alone.
  have hkept (content : Option Bytes) : (d.put (temporaryPath path) content).held path = d.held path :=
    Disk.held_put_of_ne hparts
  cases hwrite with
  | writeFails _ _ left e => exact ⟨.inl (hkept left), .inl (hkept left), hkept left⟩
  | write =>
    refine ⟨.inl (hkept _), always_call (.inl (hkept _)) fun moved d₂ hmove => ?_⟩
    cases hmove with
    | renameFails => exact ⟨.inl (hkept _), hkept _⟩
    | rename _ _ bytes hheld =>
      rw [Disk.held_put] at hheld
      obtain rfl := Option.some.inj hheld
      exact ⟨.inr (Disk.held_put ..), Disk.held_put ..⟩

theorem quiet_makeParent (path : String) : Quiet (makeParent files path) := by
  rw [makeParent]
  cases directoryOf? path with
  | none => exact quiet_done _
  | some directory => exact quiet_makeDirectoryIn _

/-- The document of a store is saved at once or not at all, and not if that fails. -/
theorem always_save (hparts : Path.parts (temporaryPath path).toList ≠ Path.parts path.toList)
    (s : Store) (d : Disk) :
    (save files path s).Always (OldOrNew path d s.document) (NewIfOk path d s.document) d := by
  rw [save_eq]
  refine (quiet_makeParent path).always_bind (.inl rfl) fun made => ?_
  rcases made with e | u
  · exact ⟨.inl rfl, rfl⟩
  · exact always_replace hparts s.render d

/-- What the disk can be like in the course of a call: the file is as before, or it holds the
document of the store with the call applied. -/
def Amid (path : String) (c : TimedCall) (s : Store) (d d' : Disk) : Prop :=
  d'.held path = d.held path ∨
    ∃ a next, Store.runOn c.op s = (.ok a, next) ∧ d'.held path = some next.document

/-- How a call leaves memory and disk. A call that succeeds has the effect of the operation behind it
in memory, and, if it changes the store, on the disk. One that fails leaves both as they are. -/
def Settled (path : String) (c : TimedCall) (s : Store) (d : Disk) :
    Except StoreError c.call.Result × Store → Disk → Prop
  | (.ok a, s'), d' => Store.runOn c.op s = (.ok a, s') ∧
      if c.call.isQuestion then s' = s ∧ d'.held path = d.held path
      else d'.held path = some s'.document
  | (.error _, s'), d' => s' = s ∧ d'.held path = d.held path

/-- Whatever the files do in the course of a call, the file at the path changes at once or not at
all. -/
theorem always_callRun (hparts : Path.parts (temporaryPath path).toList ≠ Path.parts path.toList)
    (c : TimedCall) (s : Store) (d : Disk) :
    (callRun path c s).Always (Amid path c s d) (Settled path c s d) d := by
  rw [callRun]
  by_cases hquestion : c.call.isQuestion = true
  · obtain ⟨a, ha⟩ := StoreCall.runOn_of_isQuestion c.time s hquestion
    rw [StoreCall.run_perform_of_isQuestion c.time s files path hquestion, ha]
    refine ⟨.inl rfl, ha, ?_⟩
    rw [if_pos hquestion]
    exact ⟨rfl, rfl⟩
  · have hchange := eq_false_of_ne_true hquestion
    rw [StoreCall.perform_of_not_isQuestion c.time files path hchange, run_changeSaved,
      ← TimedCall.op]
    rcases hrun : Store.runOn c.op s with ⟨e | a, next⟩
    · exact ⟨.inl rfl, rfl, rfl⟩
    · refine Always.bind ((always_save hparts next d).imp (fun d' hd' => ?_) fun saved d' hd' => ?_)
      · exact hd'.imp id fun hnew => ⟨a, next, hrun, hnew⟩
      · rcases saved with e | u
        · exact ⟨.inl hd', rfl, hd'⟩
        · refine ⟨.inr ⟨a, next, hrun, hd'⟩, hrun, ?_⟩
          rw [if_neg hquestion]
          exact hd'

/-- Opening the store on a disk comes to exactly this store, and leaves the disk as it is. -/
def Reopens (path : String) (d : Disk) (s : Store) : Prop :=
  ∀ answer d', (load files path).Comes d answer d' ↔ answer = .ok s ∧ d' = d

/-- The store is opened that the file at the path stands for. -/
theorem reopens_of_standsFor (hs : s.Storable) (hfile : StandsFor (d.held path) s) :
    Reopens path d s := by
  intro answer d'
  rw [load_eq]
  refine comes_read_bind_iff.trans ?_
  rw [loaded_of_standsFor hs hfile]
  exact comes_done_iff

end StoreFile

/-! ### Processes -/

/-- What can happen to a process that works on a store in a file. -/
inductive StoreEvent where
  /-- A call returns. -/
  | returned (c : TimedCall) (answer : Except StoreError c.call.Result)
  /-- The process stops in the course of a call, and the store is opened anew. -/
  | stopped (c : TimedCall)
  /-- The process stops between two calls, and the store is opened anew. -/
  | reopened

namespace StoreEvent

/-- The call is one that the program can make. -/
def Fits : StoreEvent → Prop
  | returned c _ | stopped c => c.Fits
  | reopened => True

/-- A call returns that has saved the store. -/
def Saves : StoreEvent → Prop
  | returned c (.ok _) => c.call.isQuestion = false
  | _ => False

/-- The event can turn one store into the other. A call that succeeds has the effect of the operation
behind it, one that fails has none, and one that the process stops in has either. -/
def Turns (s : Store) : StoreEvent → Store → Prop
  | returned c (.ok a), s' => Store.runOn c.op s = (.ok a, s')
  | stopped c, s' => s' = s ∨ ∃ a, Store.runOn c.op s = (.ok a, s')
  | _, s' => s' = s

/-- The events in a row can turn one store into the other. -/
def AllTurn (s : Store) : List StoreEvent → Store → Prop
  | [], s' => s' = s
  | e :: rest, s' => ∃ s₁, e.Turns s s₁ ∧ AllTurn s₁ rest s'

end StoreEvent

/-- A process that works on a store in a file, with the disk that the file is on. -/
structure Process where
  memory : Store
  disk : Disk

namespace Process

open StoreFile FileRun

/-- What an event makes of a process. -/
inductive Step (path : String) (p : Process) : StoreEvent → Process → Prop
  | returns {c : TimedCall} {answer : Except StoreError c.call.Result} {s : Store} {d : Disk} :
    (callRun path c p.memory).Comes p.disk (answer, s) d → Step path p (.returned c answer) ⟨s, d⟩
  | stops {c : TimedCall} {s : Store} {d d' : Disk} :
    (callRun path c p.memory).Passes p.disk d → (load files path).Comes d (.ok s) d' →
    Step path p (.stopped c) ⟨s, d'⟩
  | reopens {s : Store} {d : Disk} :
    (load files path).Comes p.disk (.ok s) d → Step path p .reopened ⟨s, d⟩

/-- What events in a row make of a process. -/
inductive Run (path : String) : Process → List StoreEvent → Process → Prop
  | nil (p : Process) : Run path p [] p
  | cons {p q r : Process} {e : StoreEvent} {rest : List StoreEvent} :
    Step path p e q → Run path q rest r → Run path p (e :: rest) r

/-- The file stands for the store in memory. -/
structure Sound (path : String) (p : Process) : Prop where
  storable : p.memory.Storable
  file : StandsFor (p.disk.held path) p.memory

variable {path : String} {p q : Process} {e : StoreEvent} {c : TimedCall}

/-- In the course of a call, the file stands for the store as it is or with the call applied. -/
theorem Sound.of_amid (hp : p.Sound path) (hc : c.Fits) {d : Disk}
    (hd : Amid path c p.memory p.disk d) :
    d.held path = p.disk.held path ∧ Reopens path d p.memory ∨
      ∃ a next, Store.runOn c.op p.memory = (.ok a, next) ∧ next.Storable ∧
        d.held path = some next.document ∧ Reopens path d next := by
  rcases hd with hsame | ⟨a, next, hrun, hnew⟩
  · exact .inl ⟨hsame, reopens_of_standsFor hp.storable (hsame ▸ hp.file)⟩
  · have hnext : next.Storable := by
      have hstorable := hp.storable.runOn hc
      rwa [hrun] at hstorable
    exact .inr ⟨a, next, hrun, hnext, hnew, reopens_of_standsFor hnext (.inr hnew)⟩

/-- An event leaves a process sound, turns its store as it may, and never takes the file away. -/
theorem Step.sound (hparts : Path.parts (temporaryPath path).toList ≠ Path.parts path.toList)
    (hp : p.Sound path) (hfits : e.Fits) (hstep : Step path p e q) :
    q.Sound path ∧ e.Turns p.memory q.memory ∧
      (q.disk.held path = none → p.disk.held path = none ∧ ¬ e.Saves) := by
  cases hstep with
  | @returns c answer s d hcomes =>
    have hsettled := (always_callRun hparts c p.memory p.disk).of_comes hcomes
    rcases answer with error | a
    · obtain ⟨rfl, hsame⟩ := hsettled
      exact ⟨⟨hp.storable, hsame ▸ hp.file⟩, rfl, fun hnone => ⟨hsame ▸ hnone, id⟩⟩
    · obtain ⟨hrun, hfile⟩ := hsettled
      have hstorable := hp.storable.runOn hfits
      rw [hrun] at hstorable
      split at hfile
      next hquestion =>
        obtain ⟨rfl, hsame⟩ := hfile
        refine ⟨⟨hstorable, hsame ▸ hp.file⟩, hrun, fun hnone => ⟨hsame ▸ hnone, fun hsaves => ?_⟩⟩
        exact absurd hquestion (by rw [hsaves]; decide)
      next => exact ⟨⟨hstorable, .inr hfile⟩, hrun, fun hnone => nomatch hfile.symm.trans hnone⟩
  | @stops c s d d' hpasses hload =>
    have hamid := (always_callRun hparts c p.memory p.disk).of_passes hpasses
    rcases hp.of_amid hfits hamid with ⟨hsame, hreopens⟩ | ⟨a, next, hrun, hnext, hnew, hreopens⟩
    · obtain ⟨heq, rfl⟩ := (hreopens _ _).1 hload
      obtain rfl := Except.ok.inj heq
      exact ⟨⟨hp.storable, hsame ▸ hp.file⟩, .inl rfl, fun hnone => ⟨hsame ▸ hnone, id⟩⟩
    · obtain ⟨heq, rfl⟩ := (hreopens _ _).1 hload
      obtain rfl := Except.ok.inj heq
      exact ⟨⟨hnext, .inr hnew⟩, .inr ⟨a, hrun⟩, fun hnone => nomatch hnew.symm.trans hnone⟩
  | reopens hload =>
    obtain ⟨heq, rfl⟩ := (reopens_of_standsFor hp.storable hp.file _ _).1 hload
    obtain rfl := Except.ok.inj heq
    exact ⟨hp, rfl, fun hnone => ⟨hnone, id⟩⟩

/-- Events in a row leave a process sound, turn its store as they may, and never take the file
away. -/
theorem Run.sound (hparts : Path.parts (temporaryPath path).toList ≠ Path.parts path.toList)
    {events : List StoreEvent} (hrun : Run path p events q) (hp : p.Sound path)
    (hfits : ∀ e ∈ events, e.Fits) :
    q.Sound path ∧ StoreEvent.AllTurn p.memory events q.memory ∧
      (q.disk.held path = none → p.disk.held path = none ∧ ∀ e ∈ events, ¬ e.Saves) := by
  induction hrun with
  | nil p => exact ⟨hp, rfl, fun hnone => ⟨hnone, List.forall_mem_nil _⟩⟩
  | cons hstep _ ih =>
    obtain ⟨hq, hturns, hkept⟩ := hstep.sound hparts hp (hfits _ List.mem_cons_self)
    obtain ⟨hr, hall, hkept'⟩ := ih hq fun e he => hfits e (List.mem_cons_of_mem _ he)
    refine ⟨hr, ⟨_, hturns, hall⟩, fun hnone => ?_⟩
    obtain ⟨hnone', hrest⟩ := hkept' hnone
    obtain ⟨hnone'', hfirst⟩ := hkept hnone'
    exact ⟨hnone'', List.forall_mem_cons.2 ⟨hfirst, hrest⟩⟩

/-- What can be said of a process after events in a row that started with a store, and of the next
call. -/
structure Survives (path : String) (s : Store) (events : List StoreEvent) (p : Process)
    (c : TimedCall) : Prop where
  /-- The store is the one after the last call that succeeded; a call that the process stopped in
  may count as one. -/
  turns : StoreEvent.AllTurn s events p.memory
  /-- The file is not there, and then nothing was saved yet, or it holds the document of the
  store. -/
  file : p.disk.held path = none ∧ p.memory = {} ∧ (∀ e ∈ events, ¬ e.Saves) ∨
    p.disk.held path = some p.memory.document
  /-- Opening the store anew changes nothing. -/
  reopens : Reopens path p.disk p.memory
  /-- At every moment of the call, the file is as it was or holds the document of the store with the
  call applied, and that store is the one that is opened then. -/
  amid : ∀ d, (callRun path c p.memory).Passes p.disk d →
    d.held path = p.disk.held path ∧ Reopens path d p.memory ∨
      ∃ a next, Store.runOn c.op p.memory = (.ok a, next) ∧ next.Storable ∧
        d.held path = some next.document ∧ Reopens path d next
  /-- If the call succeeds, it has its effect in memory and in the file; if it fails, it has none. -/
  settled : ∀ outcome d, (callRun path c p.memory).Comes p.disk outcome d →
    Settled path c p.memory p.disk outcome d

/-- A store in a file survives whatever happens to the process and to its files. The path has to have
a file name, for then a document is first written to another file than the one at the path. -/
theorem survives (hname : (Path.fileName? path.toList).isSome) (hstorable : p.memory.Storable)
    (hfile : StandsFor (p.disk.held path) p.memory) {events : List StoreEvent}
    (hrun : Run path p events q) (hfits : ∀ e ∈ events, e.Fits) (hc : c.Fits) :
    Path.parts (temporaryPath path).toList ≠ Path.parts path.toList ∧
      Survives path p.memory events q c := by
  have hparts := parts_temporaryPath_ne hname
  obtain ⟨hq, hall, hkept⟩ := hrun.sound hparts ⟨hstorable, hfile⟩ hfits
  have hcall := always_callRun hparts c q.memory q.disk
  refine ⟨hparts, hall, ?_, reopens_of_standsFor hq.storable hq.file,
    fun d hpasses => hq.of_amid hc (hcall.of_passes hpasses),
    fun outcome d hcomes => hcall.of_comes hcomes⟩
  rcases hq.file with ⟨hnone, hempty⟩ | hsome
  · exact .inl ⟨hnone, hempty, (hkept hnone).2⟩
  · exact .inr hsome

/-- A repository that is to be recorded. -/
def recordTool : TimedCall :=
  ⟨⟨0, 0, 0⟩, .upsertRepository "acme" "tool" "https://github.com/acme/tool"⟩

/-- A call fails while its document is written, and when it is made again, the process stops. The
store is opened anew over what was left under the temporary name. -/
theorem survives_partial_write :
    Survives "store.json" {}
      [.returned recordTool (.error (.file "store.json" (.other "No space left on device"))),
        .stopped recordTool]
      ⟨{}, Disk.put (fun _ => none) (temporaryPath "store.json") (some [0x7B])⟩ recordTool := by
  have hname : (Path.fileName? "store.json".toList).isSome := by decide
  have hfits : recordTool.Fits := ⟨by decide, trivial⟩
  have hok : ∃ a next, Store.runOn recordTool.op {} = (.ok a, next) :=
    ⟨_, _, Store.upsertRepository_ok_iff.2
      ⟨⟨by decide +kernel, by decide +kernel, by decide +kernel⟩, rfl, rfl⟩⟩
  obtain ⟨a, next, hok⟩ := hok
  have hparent : directoryOf? "store.json" = none := by decide
  have hfailed : (callRun "store.json" recordTool {}).Comes (fun _ => none)
      (.error (.file "store.json" (.other "No space left on device")), {})
      (Disk.put (fun _ => none) (temporaryPath "store.json") (some [0x7B])) := by
    rw [callRun, StoreCall.perform_of_not_isQuestion _ _ _ rfl, run_changeSaved, ← TimedCall.op, hok]
    dsimp only
    rw [save_eq, makeParent, hparent]
    exact .ask (.writeFails _ _ (some [0x7B]) _) (.done _ _)
  have hrun : Run "store.json" ⟨{}, fun _ => none⟩
      [.returned recordTool (.error (.file "store.json" (.other "No space left on device"))),
        .stopped recordTool]
      ⟨{}, Disk.put (fun _ => none) (temporaryPath "store.json") (some [0x7B])⟩ := by
    refine .cons (.returns hfailed) (.cons (.stops (.here _ _) ?_) (.nil _))
    exact (reopens_of_standsFor Store.storable_empty (.inl ⟨rfl, rfl⟩) _ _).2 ⟨rfl, rfl⟩
  refine (survives hname Store.storable_empty (.inl ⟨rfl, rfl⟩) hrun ?_ hfits).2
  simp [StoreEvent.Fits, hfits]

end Process

end SourceAudit
