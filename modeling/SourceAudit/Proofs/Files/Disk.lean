import SourceAudit.Files.Basic

/-!
# Runs over files that fail

A run asks for operations on files, one at a time, and goes on with the answers. Here a run is a tree
that branches at every operation over all its answers, and what answers there are is said by the disk
(`Disk.Step`): every operation but reading may fail, and a file that it was to write then holds
anything. The process can stop wherever the run has come to, so what is on the disk at a moment of a
run is what a stop leaves there (`FileRun.Passes`); a stop while a file is written leaves what a
failure to write it leaves. `FileRun.Always` reasons about all moments and all ends of a run at once,
one operation at a time.
-/

namespace SourceAudit

/-- An operation on files. -/
inductive FileCall where
  | kind? (path : String)
  | read (path : String)
  | write (path : String) (bytes : Bytes)
  | makeDirectory (path : String)
  | rename (path target : String)
  | list (path : String)
  | canonical (path : String)
deriving DecidableEq, Repr

/-- What answers an operation on files. -/
abbrev FileCall.Answer : FileCall → Type
  | kind? _ => Option EntryKind
  | read _ => Except FileFault Bytes
  | write .. | makeDirectory _ | rename .. => Except FileFault Unit
  | list _ => Except FileFault (List (String × EntryKind))
  | canonical _ => Except FileFault String

/-- A run that is over, or that asks for an operation and goes on with the answer. -/
inductive FileRun (α : Type) where
  | done (a : α)
  | ask (c : FileCall) (next : c.Answer → FileRun α)

namespace FileRun

variable {α β : Type}

/-- Goes on with a second run where the first one is over. -/
def bind : FileRun α → (α → FileRun β) → FileRun β
  | done a, f => f a
  | ask c next, f => ask c fun answer => (next answer).bind f

instance : Monad FileRun where
  pure := done
  bind := bind

@[simp] theorem done_bind (a : α) (f : α → FileRun β) : (done a >>= f) = f a := rfl

@[simp] theorem ask_bind (c : FileCall) (next : c.Answer → FileRun α) (f : α → FileRun β) :
    (ask c next >>= f) = ask c fun answer => next answer >>= f := rfl

theorem id_map (run : FileRun α) : id <$> run = run := by
  induction run with
  | done a => rfl
  | ask c next ih => exact congrArg (ask c) (funext ih)

theorem bind_assoc {γ : Type} (run : FileRun α) (f : α → FileRun β) (g : β → FileRun γ) :
    run >>= f >>= g = run >>= fun a => f a >>= g := by
  induction run with
  | done a => rfl
  | ask c next ih => exact congrArg (ask c) (funext ih)

instance : LawfulMonad FileRun :=
  LawfulMonad.mk' FileRun id_map done_bind bind_assoc

/-- One operation and its answer. -/
def call (c : FileCall) : FileRun c.Answer :=
  ask c done

/-- The files that ask for everything. -/
def files : Files FileRun where
  kind? path := call (.kind? path)
  read path := call (.read path)
  write path bytes := call (.write path bytes)
  makeDirectory path := call (.makeDirectory path)
  rename path target := call (.rename path target)
  list path := call (.list path)
  canonical path := call (.canonical path)

end FileRun

/-- What the files on a disk hold. Paths with the same parts lead to the same file. -/
abbrev Disk := List Path.Part → Option Bytes

namespace Disk

/-- What the file at a path holds, if there is one. -/
def held (d : Disk) (path : String) : Option Bytes :=
  d (Path.parts path.toList)

/-- The disk with other content at a path, or with nothing there. -/
def put (d : Disk) (path : String) (content : Option Bytes) : Disk := fun parts =>
  if parts = Path.parts path.toList then content else d parts

variable {d : Disk} {path other : String} {content : Option Bytes}

@[simp] theorem held_put (d : Disk) (path : String) (content : Option Bytes) :
    (d.put path content).held path = content :=
  if_pos rfl

theorem held_put_of_ne (h : Path.parts path.toList ≠ Path.parts other.toList) :
    (d.put path content).held other = d.held other :=
  if_neg (Ne.symm h)

/-- What may come of an operation: an answer, and the disk after it. A file is read as it is. All
else may fail, and a file that could not be written holds anything then, or is not there. A file is
moved at once or not at all. -/
inductive Step (d : Disk) : (c : FileCall) → c.Answer → Disk → Prop
  | kind (path : String) (answer : Option EntryKind) : Step d (.kind? path) answer d
  | read (path : String) : Step d (.read path) ((d.held path).elim (.error .notFound) .ok) d
  | write (path : String) (bytes : Bytes) :
    Step d (.write path bytes) (.ok ()) (d.put path (some bytes))
  | writeFails (path : String) (bytes : Bytes) (left : Option Bytes) (e : FileFault) :
    Step d (.write path bytes) (.error e) (d.put path left)
  | makeDirectory (path : String) (answer : Except FileFault Unit) :
    Step d (.makeDirectory path) answer d
  | rename (path target : String) (bytes : Bytes) : d.held path = some bytes →
    Step d (.rename path target) (.ok ()) ((d.put path none).put target (some bytes))
  | renameFails (path target : String) (e : FileFault) :
    Step d (.rename path target) (.error e) d
  | list (path : String) (answer : Except FileFault (List (String × EntryKind))) :
    Step d (.list path) answer d
  | canonical (path : String) (answer : Except FileFault String) :
    Step d (.canonical path) answer d

end Disk

namespace FileRun

variable {α β : Type}

/-- A run can come to its end with a result and a disk. -/
inductive Comes : FileRun α → Disk → α → Disk → Prop
  | done (a : α) (d : Disk) : Comes (done a) d a d
  | ask {c : FileCall} {next : c.Answer → FileRun α} {answer : c.Answer} {a : α} {d d₁ d₂ : Disk} :
    d.Step c answer d₁ → Comes (next answer) d₁ a d₂ → Comes (ask c next) d a d₂

/-- The disk can be like this at a moment of a run. -/
inductive Passes : FileRun α → Disk → Disk → Prop
  | here (run : FileRun α) (d : Disk) : Passes run d d
  | later {c : FileCall} {next : c.Answer → FileRun α} {answer : c.Answer} {d d₁ d₂ : Disk} :
    d.Step c answer d₁ → Passes (next answer) d₁ d₂ → Passes (ask c next) d d₂

/-- Whatever comes of the operations of a run, the disk satisfies `I` at every moment of it, and `Q`
holds where it ends. -/
def Always (I : Disk → Prop) (Q : α → Disk → Prop) : FileRun α → Disk → Prop
  | done a, d => I d ∧ Q a d
  | ask c next, d => I d ∧ ∀ answer d', d.Step c answer d' → (next answer).Always I Q d'

variable {I J : Disk → Prop} {Q R : α → Disk → Prop} {run : FileRun α} {d d' : Disk}

theorem Always.here (h : run.Always I Q d) : I d := by
  cases run with
  | done a => exact h.1
  | ask c next => exact h.1

theorem Always.of_passes (h : run.Always I Q d) (hpasses : run.Passes d d') : I d' := by
  induction hpasses with
  | here run d => exact h.here
  | later hstep _ ih => exact ih (h.2 _ _ hstep)

theorem Always.of_comes (h : run.Always I Q d) {a : α} (hcomes : run.Comes d a d') : Q a d' := by
  induction hcomes with
  | done a d => exact h.2
  | ask hstep _ ih => exact ih (h.2 _ _ hstep)

theorem Always.imp (h : run.Always I Q d) (hI : ∀ d, I d → J d) (hQ : ∀ a d, Q a d → R a d) :
    run.Always J R d := by
  induction run generalizing d with
  | done a => exact ⟨hI d h.1, hQ a d h.2⟩
  | ask c next ih => exact ⟨hI d h.1, fun answer d' hstep => ih answer (h.2 answer d' hstep)⟩

/-- Of two runs in a row the second goes on from where the first may end. -/
theorem Always.bind {f : α → FileRun β} {S : β → Disk → Prop}
    (h : run.Always I (fun a d' => (f a).Always I S d') d) : (run >>= f).Always I S d := by
  induction run generalizing d with
  | done a => exact h.2
  | ask c next ih => exact ⟨h.1, fun answer d' hstep => ih answer (h.2 answer d' hstep)⟩

/-- One operation is all that may come of it. -/
theorem always_call {c : FileCall} {R : c.Answer → Disk → Prop} (hhere : I d)
    (h : ∀ answer d', d.Step c answer d' → I d' ∧ R answer d') : (call c).Always I R d :=
  ⟨hhere, h⟩

theorem comes_done_iff {a b : α} : (done a).Comes d b d' ↔ b = a ∧ d' = d := by
  constructor
  · rintro ⟨⟩
    exact ⟨rfl, rfl⟩
  · rintro ⟨rfl, rfl⟩
    exact .done b d'

/-- A run that reads a file first goes on with what the file holds. -/
theorem comes_read_bind_iff {path : String} {f : Except FileFault Bytes → FileRun β} {b : β} :
    (call (.read path) >>= f).Comes d b d' ↔
      (f ((d.held path).elim (.error .notFound) .ok)).Comes d b d' := by
  constructor
  · intro h
    cases h with
    | ask hstep hnext =>
      cases hstep
      exact hnext
  · exact .ask (.read path)

/-! ### Runs that leave the disk alone -/

/-- Whatever comes of the operations of a run, the disk stays as it is. -/
def Quiet (run : FileRun α) : Prop :=
  ∀ d : Disk, run.Always (· = d) (fun _ d' => d' = d) d

theorem quiet_done (a : α) : Quiet (done a) :=
  fun _ => ⟨rfl, rfl⟩

theorem quiet_kind? (path : String) : Quiet (call (.kind? path)) :=
  fun _ => always_call rfl fun _ _ hstep => by cases hstep; exact ⟨rfl, rfl⟩

theorem quiet_makeDirectory (path : String) : Quiet (call (.makeDirectory path)) :=
  fun _ => always_call rfl fun _ _ hstep => by cases hstep; exact ⟨rfl, rfl⟩

theorem Quiet.bind {f : α → FileRun β} (h : Quiet run) (hf : ∀ a, Quiet (f a)) :
    Quiet (run >>= f) := by
  intro d
  refine ((h d).imp (fun _ hd => hd) fun a d' hd => ?_).bind
  rw [hd]
  exact hf a d

/-- A run that leaves the disk alone can come first. -/
theorem Quiet.always_bind {f : α → FileRun β} {S : β → Disk → Prop} (h : Quiet run)
    (hhere : I d) (hf : ∀ a, (f a).Always I S d) : (run >>= f).Always I S d := by
  refine ((h d).imp (fun _ hd => ?_) fun a d' hd => ?_).bind
  · rw [hd]
    exact hhere
  · rw [hd]
    exact hf a

/-- To make a directory with those that it is in leaves the files on the disk alone. -/
theorem quiet_makeDirectoryIn (paths : List (List Char)) : Quiet (files.makeDirectoryIn paths) := by
  induction paths with
  | nil => exact quiet_done _
  | cons path outer ih =>
    have hsettle (e : FileFault) : Quiet (do
        if ← files.isDirectory (String.ofList path) then pure (.ok ()) else pure (.error e) :
          FileRun (Except FileFault Unit)) := by
      refine Quiet.bind ((quiet_kind? _).bind fun _ => quiet_done _) fun isThere => ?_
      cases isThere <;> exact quiet_done _
    rw [Files.makeDirectoryIn]
    split
    · exact quiet_done _
    · refine (quiet_makeDirectory _).bind fun answer => ?_
      split
      · exact quiet_done _
      · refine ih.bind fun answer => ?_
        split
        · exact quiet_done _
        · refine (quiet_makeDirectory _).bind fun answer => ?_
          split
          · exact quiet_done _
          · exact hsettle _
      · exact hsettle _

end FileRun

end SourceAudit
