import SourceAudit.Command.Host
import SourceAudit.Proofs.Store.Operation

/-!
# The store in a file, beside any surroundings

Files know nothing of the store that is kept in them: what is built from the operations on files can
be done beside the store (`save_beside`, `load_beside`). A change is then a question of the operation
and of whether its document could be saved (`run_changeSaved`).
-/

namespace SourceAudit

variable {n : Type → Type} [Monad n] [LawfulMonad n] {σ α β : Type}

theorem lift_pure (a : α) : (StateT.lift (pure a) : StateT σ n α) = pure a := by
  funext s
  rw [StateT.lift, pure_bind]
  rfl

theorem lift_bind (act : n α) (next : α → n β) :
    (StateT.lift (act >>= next) : StateT σ n β) =
      StateT.lift act >>= fun a => StateT.lift (next a) := by
  funext s
  simp [StateT.lift, bind, StateT.bind]

/-- What is done beside a state leaves the state as it is. -/
theorem run_lift_bind (act : n α) (next : α → StateT σ n β) (s : σ) :
    (StateT.lift act >>= next).run s = act >>= fun a => (next a).run s := by
  simp [StateT.run, StateT.lift, bind, StateT.bind]

/-- Files beside a state that they leave alone. -/
abbrev Files.beside (files : Files n) : Files (StateT σ n) :=
  files.lift StateT.lift

namespace Files

variable (files : Files n)

theorem isDirectory_beside (path : String) :
    (files.beside (σ := σ)).isDirectory path = StateT.lift (files.isDirectory path) := by
  rw [isDirectory, isDirectory, lift_bind]
  simp only [lift_pure]
  rfl

theorem makeDirectoryIn_beside (paths : List (List Char)) :
    (files.beside (σ := σ)).makeDirectoryIn paths = StateT.lift (files.makeDirectoryIn paths) := by
  induction paths with
  | nil => exact (lift_pure _).symm
  | cons path outer ih =>
    have hsettle (e : FileFault) : (do
          if ← StateT.lift (files.isDirectory (String.ofList path)) then pure (.ok ())
          else pure (.error e) : StateT σ n (Except FileFault Unit)) =
        StateT.lift (do
          if ← files.isDirectory (String.ofList path) then pure (.ok ()) else pure (.error e)) := by
      rw [lift_bind]
      refine bind_congr fun isThere => ?_
      cases isThere <;> exact (lift_pure _).symm
    simp only [makeDirectoryIn, isDirectory_beside, ih]
    split
    · exact (lift_pure _).symm
    rw [lift_bind]
    refine bind_congr fun made => ?_
    rcases made with e | u
    · cases e with
      | notFound =>
        dsimp only
        rw [lift_bind]
        refine bind_congr fun around => ?_
        rcases around with e | u
        · exact (lift_pure _).symm
        · dsimp only
          rw [lift_bind]
          refine bind_congr fun again => ?_
          rcases again with e | u
          · exact hsettle e
          · exact (lift_pure _).symm
      | _ => exact hsettle _
    · exact (lift_pure _).symm

theorem makeDirectories_beside (path : String) :
    (files.beside (σ := σ)).makeDirectories path = StateT.lift (files.makeDirectories path) :=
  files.makeDirectoryIn_beside _

end Files

namespace StoreFile

/-- Makes the directory that a path is in, if that is not the working directory. -/
def makeParent (files : Files n) (path : String) : n (Except FileFault Unit) :=
  match directoryOf? path with
  | some directory => files.makeDirectories directory
  | none => pure (.ok ())

/-- Writes a document under the temporary name and moves it to its place. -/
def replace (files : Files n) (path document : String) : n (Except FileFault Unit) := do
  match ← files.writeText (temporaryPath path) document with
  | .error e => pure (.error e)
  | .ok () => files.rename (temporaryPath path) path

variable (files : Files n) (path : String)

omit [LawfulMonad n] in
/-- A store is saved by replacing its document once the directory for it is there. -/
theorem save_eq (s : Store) :
    save files path s = (do
      match ← makeParent files path with
      | .error e => pure (.error e)
      | .ok () => replace files path s.render) := by
  rw [save, makeParent]
  cases directoryOf? path <;> rfl

theorem makeParent_beside :
    makeParent (files.beside (σ := σ)) path = StateT.lift (makeParent files path) := by
  rw [makeParent, makeParent]
  cases directoryOf? path with
  | none => exact (lift_pure _).symm
  | some directory => exact files.makeDirectories_beside directory

theorem replace_beside (document : String) :
    replace (files.beside (σ := σ)) path document = StateT.lift (replace files path document) := by
  rw [replace, replace, lift_bind]
  refine bind_congr fun written => ?_
  rcases written with e | u
  · exact (lift_pure _).symm
  · rfl

/-- The document of a store is written beside the store. -/
theorem save_beside (s : Store) :
    save (files.beside (σ := σ)) path s = StateT.lift (save files path s) := by
  rw [save_eq, save_eq, makeParent_beside, lift_bind]
  refine bind_congr fun made => ?_
  rcases made with e | u
  · exact (lift_pure _).symm
  · exact replace_beside files path _

/-- What comes of opening a store whose file was read, or could not be. -/
def loaded (path : String) : Except FileFault Bytes → Except StoreError Store
  | .ok bytes =>
    match Text.Utf8.decode? bytes with
    | some text =>
      match Store.parse? (String.ofList text) with
      | some s => .ok s
      | none => .error .malformed
    | none => .error (.file path .notText)
  | .error .notFound => .ok {}
  | .error e => .error (.file path e)

/-- A store is loaded by reading its file. -/
theorem load_eq : load files path = files.read path >>= fun answer => pure (loaded path answer) := by
  rw [load, Files.readText, bind_assoc]
  refine bind_congr fun answer => ?_
  rcases answer with e | bytes
  · cases e <;> simp only [pure_bind, loaded]
  · dsimp only [loaded]
    cases Text.Utf8.decode? bytes <;> exact pure_bind _ _

/-- A document is read beside the store. -/
theorem load_beside : load (files.beside (σ := σ)) path = StateT.lift (load files path) := by
  rw [load_eq, load_eq, lift_bind]
  simp only [lift_pure]
  rfl

/-- A change on the store in a file: an operation that fails changes nothing; the store after one
that succeeds takes its place once its document is written. -/
theorem run_changeSaved (op : StoreM α) (s : Store) :
    (changeSaved files.beside path op).run s =
      match Store.runOn op s with
      | (.error e, _) => pure (.error e, s)
      | (.ok a, next) => (do
        match ← save files path next with
        | .error e => pure (.error (.file path e), s)
        | .ok () => pure (.ok a, next)) := by
  have hget : (getThe Store : StateT Store n Store).run s = pure (s, s) := rfl
  rw [changeSaved, StateT.run_bind, hget, pure_bind, Store.runOn]
  rcases op.run.run s with ⟨e | a, next⟩
  · rfl
  · dsimp only
    rw [save_beside, run_lift_bind]
    refine bind_congr fun saved => ?_
    rcases saved with e | u
    · rfl
    · exact pure_bind _ _

/-- Reads the store again that a file holds. -/
def reopen {m : Type → Type} [Monad m] [MonadStateOf Store m] (files : Files m) (path : String) :
    m (Except StoreError Unit) := do
  match ← load files path with
  | .error e => pure (.error e)
  | .ok s => do
    set s
    pure (.ok ())

/-- A command that opens a store in a file reads the store that the file holds. -/
theorem openStoreFile_eq {m : Type → Type} [Monad m] [LawfulMonad m] [MonadStateOf Store m]
    (host : Host m) (s : Settings) :
    host.openStoreFile s = (do
      match ← reopen host.files (s.storePath host.home) with
      | .error e => pure (.error (.store e))
      | .ok () => pure (.ok (gateway host.files (s.storePath host.home) host.clock))) := by
  simp only [Host.openStoreFile, reopen, bind_assoc]
  refine bind_congr fun loaded => ?_
  rcases loaded with e | loaded
  · simp only [pure_bind]
  · simp only [bind_assoc, pure_bind]

/-- The store that was read takes the place of the one in memory. -/
theorem run_reopen (s : Store) :
    (reopen files.beside path).run s = (do
      match ← load files path with
      | .error e => pure (.error e, s)
      | .ok loaded => pure (.ok (), loaded)) := by
  rw [reopen, load_beside, run_lift_bind]
  refine bind_congr fun answer => ?_
  rcases answer with e | loaded
  · rfl
  · exact pure_bind _ _

end StoreFile

end SourceAudit
